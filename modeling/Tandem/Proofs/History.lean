import Mathlib.Tactic.Lemma
import Tandem.Request
import Tandem.Side

/-!
# Histories

What can be seen of a computation beside a channel: the values it sends, the answers it receives,
and that it closes its end. `Request.Yields` says which event the serving of a request shows and how
the computation goes on. A history is a list of such events, each with its side; `History.sentBy`
and `History.receivedBy` pick out the values that one side sent and received.
-/

namespace Tandem

/-- What a computation does to its channel. -/
inductive Event where
  | sent (value : Word)
  | received (received : Received)
  | closed
  deriving DecidableEq, Repr

namespace Event

/-- The values sent in a list of events. -/
def sentIn (es : List Event) : List Word :=
  es.filterMap fun
    | .sent v => some v
    | _ => none

/-- The values received in a list of events. -/
def receivedIn (es : List Event) : List Word :=
  es.filterMap fun
    | .received (.value v) => some v
    | _ => none

variable (es fs : List Event) (v : Word)

/-- Nothing is sent without events. -/
@[simp] lemma sentIn_nil : sentIn [] = [] := rfl

/-- Nothing is received without events. -/
@[simp] lemma receivedIn_nil : receivedIn [] = [] := rfl

/-- Values are sent in the order of the events. -/
@[simp] lemma sentIn_append : sentIn (es ++ fs) = sentIn es ++ sentIn fs :=
  List.filterMap_append

/-- Values are received in the order of the events. -/
@[simp] lemma receivedIn_append : receivedIn (es ++ fs) = receivedIn es ++ receivedIn fs :=
  List.filterMap_append

/-- A send sends its value. -/
@[simp] lemma sentIn_sent : sentIn [.sent v] = [v] := rfl

/-- A receive sends nothing. -/
@[simp] lemma sentIn_received (r : Received) : sentIn [.received r] = [] := rfl

/-- Closing sends nothing. -/
@[simp] lemma sentIn_closed : sentIn [.closed] = [] := rfl

/-- A send receives nothing. -/
@[simp] lemma receivedIn_sent : receivedIn [.sent v] = [] := rfl

/-- A receive that is given a value receives it. -/
@[simp] lemma receivedIn_value : receivedIn [.received (.value v)] = [v] := rfl

/-- Being told that nothing will come is no value. -/
@[simp] lemma receivedIn_terminated : receivedIn [.received .terminated] = [] := rfl

/-- Closing receives nothing. -/
@[simp] lemma receivedIn_closed : receivedIn [.closed] = [] := rfl

end Event

/-- The events of a run, each with the side it belongs to. -/
abbrev History := List (Side × Event)

/-- The history of a turn of side `i`. -/
def History.single (i : Side) (e : Option Event) : History :=
  (e.map fun e => (i, e)).toList

/-- What serving a request lets be seen, when a receive that it may ask for gives `received`. -/
def Request.event? {α : Type} (received : Option Received) : Request α → Option Event
  | .send value _ => some (.sent value)
  | .receive _ => received.map .received
  | .close _ => some .closed
  | .work _ => none

/-- Serving a request on a channel with a given policy lets an event be seen and goes on in a
state. -/
inductive Request.Yields {α : Type} (policy : Policy) : Request α → Option Event → α → Prop where
  | work {a} : Yields policy (.work a) none a
  | send {v a} : Yields policy (.send v a) (some (.sent v)) a
  | receive {after r} : Yields policy (.receive after) (some (.received r)) (after policy r)
  | close {a} : Yields policy (.close a) (some .closed) a

/-- A mapped request is served like the request, and goes on in the image of the state. -/
lemma Request.Yields.of_map {α β : Type} {policy : Policy} {f : α → β} {r : Request α}
    {e : Option Event} {b : β} (h : (r.map f).Yields policy e b) :
    ∃ a, r.Yields policy e a ∧ b = f a := by
  cases r with
  | work a =>
    cases h
    exact ⟨a, .work, rfl⟩
  | send v a =>
    cases h
    exact ⟨a, .send, rfl⟩
  | receive after =>
    cases h
    exact ⟨_, .receive, rfl⟩
  | close a =>
    cases h
    exact ⟨a, .close, rfl⟩

namespace History

/-- The values that side `i` sent. -/
def sentBy (i : Side) (h : History) : List Word :=
  h.filterMap fun
    | (j, .sent v) => if j = i then some v else none
    | _ => none

/-- The values that side `i` received. -/
def receivedBy (i : Side) (h : History) : List Word :=
  h.filterMap fun
    | (j, .received (.value v)) => if j = i then some v else none
    | _ => none

/-- The events of side `i`. -/
def eventsBy (i : Side) (h : History) : List Event :=
  h.filterMap fun (j, e) => if j = i then some e else none

variable (i : Side) (h h' : History) (v : Word)

/-- A side sends in the order of the history. -/
@[simp] lemma sentBy_append : sentBy i (h ++ h') = sentBy i h ++ sentBy i h' :=
  List.filterMap_append

/-- A side receives in the order of the history. -/
@[simp] lemma receivedBy_append : receivedBy i (h ++ h') = receivedBy i h ++ receivedBy i h' :=
  List.filterMap_append

/-- A turn that cannot be seen sends nothing. -/
@[simp] lemma sentBy_none (j : Side) : sentBy i (single j none) = [] := rfl

/-- A turn that cannot be seen receives nothing. -/
@[simp] lemma receivedBy_none (j : Side) : receivedBy i (single j none) = [] := rfl

/-- A turn that closes an end sends nothing. -/
@[simp] lemma sentBy_closed (j : Side) : sentBy i (single j (some .closed)) = [] := rfl

/-- A turn that closes an end receives nothing. -/
@[simp] lemma receivedBy_closed (j : Side) : receivedBy i (single j (some .closed)) = [] := rfl

/-- A turn that receives sends nothing. -/
@[simp] lemma sentBy_received (j : Side) (r : Received) :
    sentBy i (single j (some (.received r))) = [] := rfl

/-- A turn that sends receives nothing. -/
@[simp] lemma receivedBy_sent (j : Side) : receivedBy i (single j (some (.sent v))) = [] := rfl

/-- A turn in which a side is told that nothing will come receives no value. -/
@[simp] lemma receivedBy_terminated (j : Side) :
    receivedBy i (single j (some (.received .terminated))) = [] := rfl

/-- The side that sends a value has sent it. -/
@[simp] lemma sentBy_sent_self : sentBy i (single i (some (.sent v))) = [v] := by
  simp [sentBy, single]

/-- A side sends nothing in a turn of the other one. -/
lemma sentBy_single_of_ne {i j : Side} (ne : j ≠ i) (e : Option Event) :
    sentBy i (single j e) = [] := by
  cases e with
  | none => rfl
  | some e => cases e <;> simp [sentBy, single, ne]

/-- A side receives nothing in a turn of the other one. -/
lemma receivedBy_single_of_ne {i j : Side} (ne : j ≠ i) (e : Option Event) :
    receivedBy i (single j e) = [] := by
  cases e with
  | none => rfl
  | some e =>
    cases e with
    | received r => cases r <;> simp [receivedBy, single, ne]
    | _ => rfl

/-- The side that is given a value has received it. -/
@[simp] lemma receivedBy_value_self :
    receivedBy i (single i (some (.received (.value v)))) = [v] := by
  simp [receivedBy, single]

/-- The events of a side come in the order of the history. -/
@[simp] lemma eventsBy_append : eventsBy i (h ++ h') = eventsBy i h ++ eventsBy i h' :=
  List.filterMap_append

/-- The event of a turn is one of the side that has the turn. -/
@[simp] lemma eventsBy_single_self (e : Option Event) : eventsBy i (single i e) = e.toList := by
  cases e with
  | none => rfl
  | some e => simp [eventsBy, single]

/-- A turn has no event of the other side. -/
lemma eventsBy_single_of_ne {i j : Side} (ne : j ≠ i) (e : Option Event) :
    eventsBy i (single j e) = [] := by
  cases e with
  | none => rfl
  | some e => simp [eventsBy, single, ne]

/-- The events of a side are those of the history that bear its name. -/
lemma mem_eventsBy {i : Side} {h : History} {e : Event} : e ∈ h.eventsBy i ↔ (i, e) ∈ h := by
  simp [eventsBy]

/-- What a side sent can be read off its own events. -/
lemma sentBy_eq : sentBy i h = Event.sentIn (h.eventsBy i) := by
  rw [sentBy, Event.sentIn, eventsBy, List.filterMap_filterMap]
  congr 1
  funext ⟨j, e⟩
  by_cases same : j = i
  · cases e <;> simp [same]
  · cases e <;> simp [same]

/-- What a side received can be read off its own events. -/
lemma receivedBy_eq : receivedBy i h = Event.receivedIn (h.eventsBy i) := by
  rw [receivedBy, Event.receivedIn, eventsBy, List.filterMap_filterMap]
  congr 1
  funext ⟨j, e⟩
  by_cases same : j = i
  · cases e with
    | received r => cases r <;> simp [same]
    | _ => simp [same]
  · cases e with
    | received r => cases r <;> simp [same]
    | _ => simp [same]

end History

end Tandem
