import Tandem.Link

/-!
# Two threads on a link

A thread on each side of a link, each with a state `α` and a function `next` that gives its next
request, or nothing if it has come to rest. The threads take turns in any order. A turn holds the
link alone; a send or a close is one turn, and the call that wakes a sleeping peer is another one
after it, so that the peer may come between the two.

A thread whose receive finds nothing falls asleep. It tries again after it was woken, by its peer or
for no reason at all. `Monitor.act` is the next turn of a side and `Monitor.rouse` is a waking for
no reason. `Monitor.settle` lets the sides take turns until neither has one.
-/

namespace Tandem

/-- Where a thread stands between two turns. -/
inductive Phase where
  /-- About to make its next request. -/
  | ready
  /-- In a receive that found nothing, and not woken since. -/
  | asleep
  /-- In a receive that found nothing, and woken since. -/
  | awake
  /-- Has sent or closed, and is about to wake its peer. -/
  | announcing
  deriving DecidableEq, Repr

/-- Whether a thread waits in a receive. -/
def Phase.isParked : Phase → Bool
  | .asleep | .awake => true
  | .ready | .announcing => false

/-- A phase after the other side woke whoever sleeps. -/
def Phase.woken : Phase → Phase
  | .asleep => .awake
  | phase => phase

/-- A thread that is woken is parked until it has its next turn. -/
@[simp] theorem Phase.isParked_woken (p : Phase) : p.woken.isParked = p.isParked := by
  cases p <;> rfl

/-- A thread that is woken does not sleep. -/
theorem Phase.woken_ne_asleep (p : Phase) : p.woken ≠ .asleep := by
  cases p <;> decide

/-- The state of a thread and where it stands. -/
structure Thread (α : Type) where
  state : α
  phase : Phase := .ready
  deriving DecidableEq

/-- A link and the threads on its sides. -/
structure Monitor (α : Type) where
  link : Link := {}
  threads : Both (Thread α)

namespace Monitor

variable {α : Type}

/-- The state of the thread on a side. -/
def state (m : Monitor α) (i : Side) : α :=
  (m.threads.get i).state

/-- Where the thread on a side stands. -/
def phase (m : Monitor α) (i : Side) : Phase :=
  (m.threads.get i).phase

/-- Replace the thread on a side. -/
def put (m : Monitor α) (i : Side) (state : α) (phase : Phase) : Monitor α :=
  { m with threads := m.threads.set i ⟨state, phase⟩ }

section Put

variable (m : Monitor α) (i : Side) (s : α) (p : Phase)

/-- The states are those of the threads, whatever the link is. -/
@[simp] theorem state_mk (l : Link) : (mk l m.threads).state i = m.state i := rfl

/-- The phases are those of the threads, whatever the link is. -/
@[simp] theorem phase_mk (l : Link) : (mk l m.threads).phase i = m.phase i := rfl

/-- Changing a thread leaves the link. -/
@[simp] theorem link_put : (m.put i s p).link = m.link := rfl

/-- The thread that is changed gets the state. -/
@[simp] theorem state_put_self : (m.put i s p).state i = s := by
  simp [put, state]

/-- Changing a thread leaves the state of the other one. -/
@[simp] theorem state_put_peer : (m.put i s p).state i.peer = m.state i.peer := by
  simp [put, state]

/-- Changing the other thread leaves the state. -/
@[simp] theorem state_put_of_peer : (m.put i.peer s p).state i = m.state i := by
  simp [put, state]

/-- The thread that is changed gets the phase. -/
@[simp] theorem phase_put_self : (m.put i s p).phase i = p := by
  simp [put, phase]

/-- Changing a thread leaves the phase of the other one. -/
@[simp] theorem phase_put_peer : (m.put i s p).phase i.peer = m.phase i.peer := by
  simp [put, phase]

/-- Changing the other thread leaves the phase. -/
@[simp] theorem phase_put_of_peer : (m.put i.peer s p).phase i = m.phase i := by
  simp [put, phase]

end Put

/-- Side `i` wakes its peer, if the peer sleeps. -/
def notify (m : Monitor α) (i : Side) : Monitor α :=
  m.put i.peer (m.state i.peer) (m.phase i.peer).woken

section Notify

variable (m : Monitor α) (i : Side)

/-- A notification leaves the link. -/
@[simp] theorem link_notify : (m.notify i).link = m.link := rfl

/-- A notification leaves the state of the side that gives it. -/
@[simp] theorem state_notify_self : (m.notify i).state i = m.state i := by
  simp [notify]

/-- A notification leaves the state of the side that gets it. -/
@[simp] theorem state_notify_peer : (m.notify i).state i.peer = m.state i.peer := by
  simp [notify]

/-- A notification leaves the phase of the side that gives it. -/
@[simp] theorem phase_notify_self : (m.notify i).phase i = m.phase i := by
  simp [notify]

/-- A notification wakes the side that gets it. -/
@[simp] theorem phase_notify_peer : (m.notify i).phase i.peer = (m.phase i.peer).woken := by
  simp [notify]

end Notify

/-- Side `i` tries to receive. If that declares a deadlock, it wakes its peer in the same turn. -/
def receive (m : Monitor α) (i : Side) (after : Received → α) : Monitor α :=
  match m.link.receive i with
  | (none, link) => { m with link }.put i (m.state i) .asleep
  | (some received, link) =>
    let m' := { m with link }.put i (after received) .ready
    if link.deadlocked && !m.link.deadlocked then m'.notify i else m'

/-- Side `i` closes its end. Closing it again does nothing. -/
def close (m : Monitor α) (i : Side) (after : α) : Monitor α :=
  if m.link.finished.get i then m.put i after .ready
  else { m with link := m.link.close i }.put i after .announcing

/-- Serve a request of side `i`. -/
def serve (m : Monitor α) (i : Side) : Request α → Monitor α
  | .work after => m.put i after .ready
  | .send value after => { m with link := m.link.send i value }.put i after .announcing
  | .receive after => m.receive i (after Link.policy)
  | .close after => m.close i after

/-- The next turn of side `i`. It has none while it sleeps, and none when it has come to rest. -/
def act (next : α → Option (Request α)) (i : Side) (m : Monitor α) : Option (Monitor α) :=
  match m.phase i with
  | .asleep => none
  | .announcing => some ((m.put i (m.state i) .ready).notify i)
  | .ready | .awake => (next (m.state i)).map (m.serve i)

/-- Side `i` wakes up although nobody woke it. -/
def rouse (i : Side) (m : Monitor α) : Option (Monitor α) :=
  if m.phase i = .asleep then some (m.put i (m.state i) .awake) else none

/-- The first side takes a turn if it has one, then the second side. Nothing, if neither has one. -/
def round (next : α → Option (Request α)) (m : Monitor α) : Option (Monitor α) :=
  match m.act next .zero with
  | some m' => some ((m'.act next .one).getD m')
  | none => m.act next .one

/-- Take turns until neither side has one. Nothing, if that takes `fuel` rounds or more. -/
def settle (next : α → Option (Request α)) : Nat → Monitor α → Option (Monitor α)
  | 0, _ => none
  | fuel + 1, m =>
    match m.round next with
    | none => some m
    | some m' => settle next fuel m'

end Monitor

end Tandem
