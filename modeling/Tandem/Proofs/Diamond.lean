import Mathlib.Tactic.Lemma

/-!
# Steps that do not get in each other's way

A system in which every step has a label, such as the side that makes it. A step is determined by
its label, and two steps with different labels can be made one after the other in either order, with
the same end. If such a system can come to a state in which no step is left, then it comes to that
state however it goes on, and always after the same number of steps.
-/

namespace Tandem

variable {ι σ : Type}

/-- So many steps lead from one state to another. -/
inductive Walk (Step : ι → σ → σ → Prop) : Nat → σ → σ → Prop where
  | nil {s} :
    Walk Step 0 s s
  | cons {i n s s' t} :
    Step i s s' →
    Walk Step n s' t →
    Walk Step (n + 1) s t

/-- No step is left. -/
def Final (Step : ι → σ → σ → Prop) (s : σ) : Prop :=
  ∀ i s', ¬Step i s s'

/-- Among the states that satisfy `P`, labels determine steps, and steps with different labels do
not get in each other's way. -/
structure Independent (Step : ι → σ → σ → Prop) (P : σ → Prop) : Prop where
  keeps {i s s'} : P s → Step i s s' → P s'
  unique {i s s₁ s₂} : P s → Step i s s₁ → Step i s s₂ → s₁ = s₂
  diamond {i j s s₁ s₂} : P s → i ≠ j → Step i s s₁ → Step j s s₂ → ∃ t, Step j s₁ t ∧ Step i s₂ t

variable {Step : ι → σ → σ → Prop} {P : σ → Prop} {s s' t u : σ} {n k : Nat}

/-- A step is a walk. -/
lemma Walk.single {i : ι} (step : Step i s s') : Walk Step 1 s s' :=
  .cons step .nil

/-- Walks can be put one after the other. -/
lemma Walk.append (first : Walk Step n s t) (second : Walk Step k t u) : Walk Step (n + k) s u := by
  induction first with
  | nil =>
    rw [Nat.zero_add]
    exact second
  | cons step _ ih =>
    rw [Nat.add_right_comm]
    exact .cons step (ih second)

/-- What every step preserves, every walk preserves. -/
lemma Walk.preserves (keeps : ∀ {i s s'}, Step i s s' → P s → P s') (walk : Walk Step n s t)
    (holds : P s) : P t := by
  induction walk with
  | nil => exact holds
  | cons step _ ih => exact ih (keeps step holds)

/-- What no step lowers, no walk lowers. -/
lemma Walk.le {f : σ → Nat} (le : ∀ {i s s'}, Step i s s' → f s ≤ f s') (walk : Walk Step n s t) :
    f s ≤ f t := by
  induction walk with
  | nil => exact Nat.le_refl _
  | cons step _ ih => exact Nat.le_trans (le step) ih

/-- A walk from a final state goes nowhere. -/
lemma Walk.of_final (walk : Walk Step n s t) (final : Final Step s) : n = 0 ∧ s = t := by
  cases walk with
  | nil => exact ⟨rfl, rfl⟩
  | cons step _ => exact absurd step (final _ _)

/-- A step leaves one step less on the way to the end. -/
lemma Walk.after_step (independent : Independent Step P) {i : ι} (holds : P s) (step : Step i s s')
    (walk : Walk Step n s t) (final : Final Step t) : ∃ k, n = k + 1 ∧ Walk Step k s' t := by
  induction walk generalizing s' with
  | nil => exact absurd step (final _ _)
  | @cons j n s s₁ t first rest ih =>
    by_cases same : i = j
    · subst same
      have eq := independent.unique holds step first
      subst eq
      exact ⟨n, rfl, rest⟩
    · -- the two steps close a diamond, and what is left of the walk goes on from its far corner
      obtain ⟨u, second, first'⟩ := independent.diamond holds same step first
      obtain ⟨k, rfl, walk⟩ := ih (independent.keeps holds first) first' final
      exact ⟨k + 1, rfl, .cons second walk⟩

/-- However it begins, the system can go on to the end, and always in the same number of steps. -/
lemma Walk.completes (independent : Independent Step P) (holds : P s) (walk : Walk Step n s t)
    (final : Final Step t) (begun : Walk Step k s u) : ∃ l, n = k + l ∧ Walk Step l u t := by
  induction begun generalizing n with
  | nil => exact ⟨n, by omega, walk⟩
  | cons step _ ih =>
    obtain ⟨n', rfl, walk'⟩ := walk.after_step independent holds step final
    obtain ⟨l, rfl, rest⟩ := ih (independent.keeps holds step) walk'
    exact ⟨l, by omega, rest⟩

end Tandem
