/-!
# Sides

Two machines share a link, one on each side. `Both α` holds one `α` for each side.
-/

namespace Tandem

/-- One of the two sides. -/
inductive Side where
  | zero
  | one
  deriving DecidableEq, Repr

namespace Side

/-- The other side. -/
def peer : Side → Side
  | .zero => .one
  | .one => .zero

/-- The number of a side. -/
def id : Side → Nat
  | .zero => 0
  | .one => 1

/-- The sides, in order. -/
def all : List Side := [.zero, .one]

/-- Each side is the peer of its peer. -/
@[simp] theorem peer_peer (i : Side) : i.peer.peer = i := by
  cases i <;> rfl

/-- No side is its own peer. -/
@[simp] theorem peer_ne (i : Side) : i.peer ≠ i := by
  cases i <;> decide

/-- A side is not its peer. -/
@[simp] theorem ne_peer (i : Side) : i ≠ i.peer := by
  cases i <;> decide

/-- A side is any given side or its peer. -/
theorem eq_or_eq_peer (i j : Side) : j = i ∨ j = i.peer := by
  cases i <;> cases j <;> decide

end Side

/-- One thing for each side. -/
structure Both (α : Type) where
  zero : α
  one : α
  deriving DecidableEq

namespace Both

variable {α β : Type}

/-- What belongs to a side. -/
def get (b : Both α) : Side → α
  | .zero => b.zero
  | .one => b.one

/-- Change what belongs to a side. -/
def set (b : Both α) (i : Side) (a : α) : Both α :=
  match i with
  | .zero => { b with zero := a }
  | .one => { b with one := a }

/-- Build both from a function of the side. -/
def ofFn (f : Side → α) : Both α :=
  ⟨f .zero, f .one⟩

/-- Apply a function on both sides. -/
def map (f : α → β) (b : Both α) : Both β :=
  ⟨f b.zero, f b.one⟩

/-- What is set for a side is there. -/
@[simp] theorem get_set_self (b : Both α) (i : Side) (a : α) : (b.set i a).get i = a := by
  cases i <;> rfl

/-- Setting one side leaves the other. -/
@[simp] theorem get_set_peer (b : Both α) (i : Side) (a : α) :
    (b.set i a).get i.peer = b.get i.peer := by
  cases i <;> rfl

/-- Setting the other side leaves this one. -/
@[simp] theorem get_set_of_peer (b : Both α) (i : Side) (a : α) :
    (b.set i.peer a).get i = b.get i := by
  cases i <;> rfl

/-- Setting a side to what is there changes nothing. -/
@[simp] theorem set_get (b : Both α) (i : Side) : b.set i (b.get i) = b := by
  cases i <;> rfl

/-- A pair made by a function has its values. -/
@[simp] theorem get_ofFn (f : Side → α) (i : Side) : (ofFn f).get i = f i := by
  cases i <;> rfl

/-- A map works on both sides. -/
@[simp] theorem get_map (f : α → β) (b : Both α) (i : Side) : (b.map f).get i = f (b.get i) := by
  cases i <;> rfl

/-- Pairs are equal that agree on both sides. -/
@[ext] theorem ext {b c : Both α} (h : ∀ i, b.get i = c.get i) : b = c := by
  cases b
  cases c
  have zero := h .zero
  have one := h .one
  simp_all [get]

/-- What belongs to a side and to its peer is all there is. -/
theorem ext_peer {b c : Both α} (i : Side) (self : b.get i = c.get i)
    (peer : b.get i.peer = c.get i.peer) : b = c := by
  ext j
  obtain rfl | rfl := Side.eq_or_eq_peer i j
  · exact self
  · exact peer

end Both

end Tandem
