import Mathlib.Logic.Relation
import Tandem.Machine.Solo
import Tandem.Proofs.Machine.Step

/-!
# Runs of a machine

A machine that is let go makes steps as long as they leave it running. `Machine.Path` collects them
together with what can be seen of them, and `Machine.Run` adds the step that exits or fails.

A machine alone makes the same steps, with its channel serving what they ask for (`Channel.Serves`).
Whether `Solo.execute` returns, and what, is a question about the states that it reaches step by
step: there is a bound that is large enough exactly when one of them ends the run
(`Solo.execute_eq_some_iff`).
-/

namespace Tandem

namespace Machine

/-- Steps that leave the machine running. -/
inductive Path (policy : Policy) (m : Machine) : List Event → Machine → Prop where
  | refl :
    Path policy m [] m
  | step {es e m₁ m'} :
    Path policy m es m₁ →
    m₁.Step policy e .running m' →
    Path policy m (es ++ e.toList) m'

/-- Steps up to one that exits or fails. -/
inductive Run (policy : Policy) (m : Machine) :
    List Event → Except Fault Outcome → Machine → Prop where
  | exited {es e m₁ m' x} :
    Path policy m es m₁ →
    m₁.Step policy e (.exited x) m' →
    Run policy m (es ++ e.toList) (.ok (m'.outcome x)) m'
  | failed {es e m₁ m' f} :
    Path policy m es m₁ →
    m₁.Step policy e (.failed f) m' →
    Run policy m (es ++ e.toList) (.error f) m'

variable {policy : Policy} {m m' : Machine} {e : Option Event} {es : List Event} {p : Progress}

/-- A machine that stands at an instruction counts a step and performs it. -/
lemma Fetches.next_eq {i : Instruction} (fetches : m.Fetches i) : m.next = m.tick.perform i := by
  rw [next, fetches.running]
  simp only [fetches.fetch]

/-- At an `rcv` the machine takes the answer of its channel. -/
lemma Fetches.yields_rcv {x : Register} {r : Received} (fetches : m.Fetches (.rcv x))
    (accept : m.tick.accept x policy r = (p, m')) :
    m.next.Yields policy (some (.received r)) (p, m') := by
  rw [fetches.next_eq, ← accept]
  exact .receive

/-- A step is what comes of the request that the machine makes. -/
lemma Step.yields (step : m.Step policy e p m') : m.next.Yields policy e (p, m') := by
  cases step with
  | stopped exit =>
    rw [next, exit]
    exact .work
  | halt running fetch =>
    rw [next, running]
    simp only [fetch]
    exact .work
  | snd fetches =>
    rw [fetches.next_eq]
    exact .send
  | update fetches apply =>
    rw [fetches.next_eq, perform]
    split
    · next applied =>
      cases applied.symm.trans apply
      exact .work
    · next applied => cases applied.symm.trans apply
  | fault fetches apply =>
    rw [fetches.next_eq, perform]
    split
    · next applied => cases applied.symm.trans apply
    · exact .work
  | store fetches store =>
    subst store
    exact fetches.yields_rcv rfl
  | ignore fetches recover zero =>
    subst recover
    exact fetches.yields_rcv (if_pos zero)
  | recover fetches recover nonzero =>
    subst recover
    exact fetches.yields_rcv (if_neg nonzero)
  | terminate fetches => exact fetches.yields_rcv rfl
  | jgz fetches =>
    rw [fetches.next_eq]
    exact .work

/-- A machine has terminated once one of its steps has learned that nothing will come. -/
lemma Path.exit_eq_terminated_iff (path : m.Path policy es m') :
    m'.exit = some .terminated ↔ m.exit = some .terminated ∨ .received .terminated ∈ es := by
  induction path with
  | refl => simp
  | step _ step ih => simp [step.exit_eq_terminated_iff, ih, or_assoc]

/-- A run leaves the machine terminated if it was so before, or was told that nothing will come. -/
lemma Run.exit_eq_terminated_iff {r : Except Fault Outcome} (run : m.Run policy es r m') :
    m'.exit = some .terminated ↔ m.exit = some .terminated ∨ .received .terminated ∈ es := by
  cases run with
  | exited path step => simp [step.exit_eq_terminated_iff, path.exit_eq_terminated_iff, or_assoc]
  | failed path step => simp [step.exit_eq_terminated_iff, path.exit_eq_terminated_iff, or_assoc]

end Machine

section Serves

variable {σ α : Type} {c : Channel σ} {policy : Policy} {s s' : σ} {e : Option Event}

/-- A channel lets an event be seen, and its policy is the given one if the event is an answer. -/
inductive Channel.Serves (c : Channel σ) (policy : Policy) (s : σ) : Option Event → σ → Prop where
  | nothing :
    Serves c policy s none s
  | send {v} :
    Serves c policy s (some (.sent v)) (c.send s v)
  | receive {r s'} :
    c.receive s = (r, s') →
    c.policy s' = policy →
    Serves c policy s (some (.received r)) s'
  | close :
    Serves c policy s (some .closed) (c.close s)

/-- What a channel lets be seen is enough to know how it serves a request. -/
lemma Channel.Serves.serve_eq {r : Request α} {a : α} (serves : c.Serves policy s e s')
    (yields : r.Yields policy e a) : c.serve s r = (a, s') := by
  cases yields with
  | work =>
    cases serves
    rfl
  | send =>
    cases serves
    rfl
  | receive =>
    cases serves with
    | receive receive store => simp only [Channel.serve, receive, store]
  | close =>
    cases serves
    rfl

/-- A channel serves a request with an event, under the policy that it has then. -/
lemma Channel.serves_of_serve {r : Request α} {a : α} (h : c.serve s r = (a, s')) :
    ∃ policy e, r.Yields policy e a ∧ c.Serves policy s e s' := by
  cases r with
  | work after =>
    cases h
    exact ⟨.store, none, .work, .nothing⟩
  | send v after =>
    cases h
    exact ⟨.store, _, .send, .send⟩
  | receive after =>
    cases h
    exact ⟨_, _, .receive, .receive rfl rfl⟩
  | close after =>
    cases h
    exact ⟨.store, _, .close, .close⟩

end Serves

namespace Solo

variable {σ : Type} {c : Channel σ} {s t u : Solo σ} {p : Progress} {r : Except Fault Outcome}

/-- A step of the machine that the channel serves is the step beside the channel. -/
lemma step_eq {policy : Policy} {e : Option Event} {m : Machine} {s' : σ}
    (step : s.machine.Step policy e p m) (serves : c.Serves policy s.channel e s') :
    s.step c = (p, ⟨m, s'⟩) := by
  have served := serves.serve_eq step.yields
  simp only [Solo.step, served]

/-- A step beside a channel is a step of the machine that the channel serves. -/
lemma step_of_step_eq {m : Machine} {s' : σ} (h : s.step c = (p, ⟨m, s'⟩)) :
    ∃ policy e, s.machine.Step policy e p m ∧ c.Serves policy s.channel e s' := by
  cases served : c.serve s.channel s.machine.next with
  | mk after channel =>
    obtain ⟨policy, e, yields, serves⟩ := Channel.serves_of_serve served
    rw [Solo.step, served] at h
    cases h
    exact ⟨policy, e, Machine.step_of_yields yields, serves⟩

/-- The states that are reached while the machine is running. -/
def Reaches (c : Channel σ) : Solo σ → Solo σ → Prop :=
  Relation.ReflTransGen fun s t => s.step c = (.running, t)

/-- The next step ends the run with a result, and the channel is closed after it. -/
inductive Ends (c : Channel σ) (s : Solo σ) : Except Fault Outcome → Solo σ → Prop where
  | exited {x t} :
    s.step c = (.exited x, t) →
    Ends c s (.ok (t.machine.outcome x)) (t.close c)
  | failed {f t} :
    s.step c = (.failed f, t) →
    Ends c s (.error f) (t.close c)

/-- A run that its next step ends needs one step. -/
lemma Ends.execute (ends : s.Ends c r u) : s.execute c 1 = some (r, u) := by
  cases ends with
  | exited step => simp only [Solo.execute, step]
  | failed step => simp only [Solo.execute, step]

/-- A run returns what it returns from a state that it reaches. -/
lemma Reaches.execute {fuel : Nat} (reaches : s.Reaches c t) (h : t.execute c fuel = some (r, u)) :
    ∃ fuel', s.execute c fuel' = some (r, u) := by
  induction reaches using Relation.ReflTransGen.head_induction_on with
  | refl => exact ⟨fuel, h⟩
  | head step _ ih =>
    obtain ⟨fuel', h'⟩ := ih
    refine ⟨fuel' + 1, ?_⟩
    rw [Solo.execute, step]
    exact h'

/-- A run that returns has reached a state in which its next step ends it. -/
lemma ends_of_execute {fuel : Nat} (h : s.execute c fuel = some (r, u)) :
    ∃ t, s.Reaches c t ∧ t.Ends c r u := by
  induction fuel generalizing s with
  | zero => cases h
  | succ fuel ih =>
    rw [Solo.execute] at h
    split at h
    · next t step =>
      obtain ⟨v, reaches, ends⟩ := ih h
      exact ⟨v, .head step reaches, ends⟩
    · next x t step =>
      cases h
      exact ⟨s, .refl, .exited step⟩
    · next f t step =>
      cases h
      exact ⟨s, .refl, .failed step⟩

/-- A run returns exactly when a state that it reaches ends it. -/
lemma execute_eq_some_iff :
    (∃ fuel, s.execute c fuel = some (r, u)) ↔ ∃ t, s.Reaches c t ∧ t.Ends c r u := by
  constructor
  · rintro ⟨fuel, h⟩
    exact ends_of_execute h
  · rintro ⟨t, reaches, ends⟩
    exact reaches.execute ends.execute

end Solo

end Tandem
