/-!
# Queues

First in, first out. A queue is held as two lists, so that putting a value in and taking one out
cost the same however long the queue is. What a queue holds is `Queue.toList`, oldest first; each
operation is described by what it does to that list.
-/

namespace Tandem

/-- A queue: the oldest values in order, then the newest values in reverse order. -/
structure Queue (α : Type) where
  front : List α := []
  back : List α := []

namespace Queue

variable {α : Type}

/-- The values in the queue, oldest first. -/
def toList (q : Queue α) : List α :=
  q.front ++ q.back.reverse

/-- Put a value in. -/
def push (q : Queue α) (a : α) : Queue α :=
  { q with back := a :: q.back }

/-- Take the oldest value out. -/
def pop? (q : Queue α) : Option (α × Queue α) :=
  match q.front with
  | a :: front => some (a, { q with front })
  | [] =>
    match q.back.reverse with
    | a :: front => some (a, { front })
    | [] => none

/-- Whether there is no value. -/
def isEmpty (q : Queue α) : Bool :=
  q.front.isEmpty && q.back.isEmpty

/-- The number of values. -/
def size (q : Queue α) : Nat :=
  q.front.length + q.back.length

/-- A new queue holds nothing. -/
@[simp] theorem toList_empty : ({} : Queue α).toList = [] := rfl

/-- A value is put in at the end. -/
@[simp] theorem toList_push (q : Queue α) (a : α) : (q.push a).toList = q.toList ++ [a] := by
  simp [toList, push]

/-- A queue is empty when it holds nothing. -/
@[simp] theorem isEmpty_eq (q : Queue α) : q.isEmpty = q.toList.isEmpty := by
  rw [toList, isEmpty, Bool.eq_iff_iff]
  simp

/-- The size is the number of values held. -/
@[simp] theorem size_eq (q : Queue α) : q.size = q.toList.length := by
  simp [toList, size]

/-- Nothing can be taken out of an empty queue, and of no other. -/
theorem pop?_eq_none_iff {q : Queue α} : q.pop? = none ↔ q.toList = [] := by
  unfold pop? toList
  split
  · simp_all
  · split <;> simp_all

/-- The value taken out is the first, and the others stay in order. -/
theorem toList_of_pop?_eq_some {q q' : Queue α} {a : α} (h : q.pop? = some (a, q')) :
    q.toList = a :: q'.toList := by
  unfold pop? at h
  unfold toList
  split at h
  · cases h
    simp_all
  · split at h
    · cases h
      simp_all
    · cases h

/-- Taking out succeeds when there is a value, gives the oldest one and leaves the others. -/
theorem pop?_of_toList_eq_cons {q : Queue α} {a : α} {l : List α} (h : q.toList = a :: l) :
    ∃ q', q.pop? = some (a, q') ∧ q'.toList = l := by
  cases hp : q.pop? with
  | none => simp [pop?_eq_none_iff.1 hp] at h
  | some p =>
    obtain ⟨b, q'⟩ := p
    obtain ⟨rfl, rfl⟩ := List.cons.inj ((toList_of_pop?_eq_some hp).symm.trans h)
    exact ⟨q', rfl, rfl⟩

end Queue

end Tandem
