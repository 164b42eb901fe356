import Tandem.Queue
import Tandem.Request
import Tandem.Side

/-!
# Links

A link joins two sides by a queue in each direction. A side that receives from an empty queue waits,
unless no value can come: its peer has finished, or its peer waits as well and has nothing to take.
The second case is a deadlock; the side that completes it declares it, and both are told that
nothing will come.

Every operation here is what a side does while it alone holds the link.
-/

namespace Tandem

/-- The state shared by the two sides. -/
structure Link where
  /-- The values sent to a side and not yet received by it. -/
  inbound : Both (Queue Word) := ⟨{}, {}⟩
  /-- Whether a side is waiting in a receive. -/
  waiting : Both Bool := ⟨false, false⟩
  /-- Whether a side has closed its end. -/
  finished : Both Bool := ⟨false, false⟩
  /-- Whether a deadlock was declared. -/
  deadlocked : Bool := false

namespace Link

/-- What a machine on a link does with a value it receives. -/
def policy : Policy := .store

/-- Side `i` sends a value to its peer. -/
def send (l : Link) (i : Side) (v : Word) : Link :=
  { l with inbound := l.inbound.set i.peer ((l.inbound.get i.peer).push v) }

/-- Say whether side `i` is waiting. -/
def setWaiting (l : Link) (i : Side) (waiting : Bool) : Link :=
  { l with waiting := l.waiting.set i waiting }

/-- Whether side `i` waits for a value that only its peer could send. -/
def isStarved (l : Link) (i : Side) : Bool :=
  l.waiting.get i && (l.inbound.get i).isEmpty

/-- Side `i` tries to receive. The oldest value comes first, then a deadlock declared before or a
finished peer, then a deadlock that this receive completes. Otherwise there is nothing yet, and the
side waits. -/
def receive (l : Link) (i : Side) : Option Received × Link :=
  match (l.inbound.get i).pop? with
  | some (v, rest) =>
    (some (.value v), { l with inbound := l.inbound.set i rest }.setWaiting i false)
  | none =>
    if l.deadlocked || l.finished.get i.peer then (some .terminated, l.setWaiting i false)
    else if l.isStarved i.peer then
      (some .terminated, { l with deadlocked := true }.setWaiting i false)
    else (none, l.setWaiting i true)

/-- Side `i` closes its end. It still may send and receive. -/
def close (l : Link) (i : Side) : Link :=
  { l.setWaiting i false with finished := l.finished.set i true }

/-- The number of values sent to side `i` and not yet received by it. -/
def pending (l : Link) (i : Side) : Nat :=
  (l.inbound.get i).size

/-- A starved side waits, and there is no value for it. -/
theorem isStarved_iff {l : Link} {i : Side} :
    l.isStarved i = true ↔ l.waiting.get i = true ∧ (l.inbound.get i).toList = [] := by
  simp [isStarved]

section Fields

variable (l : Link) (i : Side) (v : Word) (b : Bool)

/-- A send leaves what the sender may still receive. -/
@[simp] theorem inbound_send_self : (l.send i v).inbound.get i = l.inbound.get i := by
  simp [send]

/-- A send puts its value behind those that the other side may still receive. -/
@[simp] theorem inbound_send_peer :
    (l.send i v).inbound.get i.peer = (l.inbound.get i.peer).push v := by
  simp [send]

/-- A send leaves who waits. -/
@[simp] theorem waiting_send : (l.send i v).waiting = l.waiting := rfl

/-- A send leaves who has closed. -/
@[simp] theorem finished_send : (l.send i v).finished = l.finished := rfl

/-- A send leaves the deadlock flag. -/
@[simp] theorem deadlocked_send : (l.send i v).deadlocked = l.deadlocked := rfl

/-- Waiting leaves the queues. -/
@[simp] theorem inbound_setWaiting : (l.setWaiting i b).inbound = l.inbound := rfl

/-- Waiting is set for one side only. -/
@[simp] theorem waiting_setWaiting : (l.setWaiting i b).waiting = l.waiting.set i b := rfl

/-- Waiting leaves who has closed. -/
@[simp] theorem finished_setWaiting : (l.setWaiting i b).finished = l.finished := rfl

/-- Waiting leaves the deadlock flag. -/
@[simp] theorem deadlocked_setWaiting : (l.setWaiting i b).deadlocked = l.deadlocked := rfl

/-- Closing leaves the queues, and so what was sent before can still be received. -/
@[simp] theorem inbound_close : (l.close i).inbound = l.inbound := rfl

/-- A side that closes does not wait. -/
@[simp] theorem waiting_close : (l.close i).waiting = l.waiting.set i false := rfl

/-- Closing is noted for one side only. -/
@[simp] theorem finished_close : (l.close i).finished = l.finished.set i true := rfl

/-- Closing leaves the deadlock flag. -/
@[simp] theorem deadlocked_close : (l.close i).deadlocked = l.deadlocked := rfl

end Fields

end Link

end Tandem
