import Tandem.Monitor.Basic

/-!
# Schedules

A schedule is a list of moves, each a turn of a side or a waking for no reason. Every way in which
two threads can run on a link is a schedule. Settling is one of them, and it ends at rest.
-/

namespace Tandem

/-- One thing that can happen next. -/
inductive Move where
  /-- A side takes its turn. -/
  | act (i : Side)
  /-- A side that sleeps wakes up for no reason. -/
  | rouse (i : Side)
  deriving DecidableEq, Repr

namespace Monitor

variable {α : Type} {next : α → Option (Request α)}

/-- Make a move, if it can be made. -/
def move (next : α → Option (Request α)) : Move → Monitor α → Option (Monitor α)
  | .act i, m => m.act next i
  | .rouse i, m => m.rouse i

/-- Make the moves of a schedule, if they can be made. -/
def follow (next : α → Option (Request α)) : List Move → Monitor α → Option (Monitor α)
  | [], m => some m
  | first :: rest, m => (m.move next first).bind (follow next rest)

/-- Neither side has a turn. -/
def AtRest (next : α → Option (Request α)) (m : Monitor α) : Prop :=
  ∀ i, m.act next i = none

/-- Without moves nothing happens. -/
@[simp] theorem follow_nil (m : Monitor α) : m.follow next [] = some m := rfl

/-- The moves are made one after another. -/
@[simp] theorem follow_cons (first : Move) (rest : List Move) (m : Monitor α) :
    m.follow next (first :: rest) = (m.move next first).bind (follow next rest) := rfl

/-- A schedule can be cut anywhere and followed in two parts. -/
theorem follow_append (first rest : List Move) (m : Monitor α) :
    m.follow next (first ++ rest) = (m.follow next first).bind (follow next rest) := by
  induction first generalizing m with
  | nil => rfl
  | cons head tail ih =>
    cases h : m.move next head with
    | none => simp [h]
    | some m' => simp [h, ih]

/-- Threads that are not at rest have a turn. -/
theorem atRest_or_exists_act (next : α → Option (Request α)) (m : Monitor α) :
    m.AtRest next ∨ ∃ i, (m.act next i).isSome = true := by
  cases zero : m.act next .zero with
  | some _ => exact .inr ⟨.zero, by simp [zero]⟩
  | none =>
    cases one : m.act next .one with
    | some _ => exact .inr ⟨.one, by simp [one]⟩
    | none => exact .inl fun i => by cases i with | zero => exact zero | one => exact one

/-- There is no round exactly at rest. -/
theorem round_eq_none_iff {m : Monitor α} : m.round next = none ↔ m.AtRest next := by
  constructor
  · intro h i
    unfold round at h
    split at h
    · cases h
    · next zero => cases i with
      | zero => exact zero
      | one => exact h
  · intro h
    simp [round, h .zero, h .one]

/-- A round is a schedule of turns. -/
theorem exists_follow_of_round {m m' : Monitor α} (h : m.round next = some m') :
    ∃ turns : List Side, m.follow next (turns.map .act) = some m' := by
  unfold round at h
  split at h
  · next m₁ zero =>
    cases one : m₁.act next .one with
    | none => exact ⟨[.zero], by simp_all [move]⟩
    | some m₂ => exact ⟨[.zero, .one], by simp_all [move]⟩
  · exact ⟨[.one], by simp_all [move]⟩

/-- Settling is a schedule of turns that ends at rest. -/
theorem exists_follow_of_settle {fuel : Nat} {m m' : Monitor α} (h : m.settle next fuel = some m') :
    ∃ turns : List Side, m.follow next (turns.map .act) = some m' ∧ m'.AtRest next := by
  induction fuel generalizing m with
  | zero => cases h
  | succ fuel ih =>
    rw [settle] at h
    split at h
    · next rest =>
      cases h
      exact ⟨[], rfl, round_eq_none_iff.1 rest⟩
    · next m₁ round =>
      obtain ⟨first, hfirst⟩ := exists_follow_of_round round
      obtain ⟨rest, hrest, atRest⟩ := ih h
      exact ⟨first ++ rest, by simp [follow_append, hfirst, hrest], atRest⟩

/-- More fuel changes nothing once the threads have settled. -/
theorem settle_mono {fuel fuel' : Nat} {m m' : Monitor α} (h : m.settle next fuel = some m')
    (le : fuel ≤ fuel') : m.settle next fuel' = some m' := by
  induction fuel generalizing m fuel' with
  | zero => cases h
  | succ fuel ih =>
    obtain ⟨fuel', rfl⟩ := Nat.exists_eq_add_of_le' le
    rw [← Nat.add_assoc, settle] at *
    split at h
    · simp_all
    · simp_all

end Monitor

end Tandem
