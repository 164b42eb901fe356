import Tandem.Channel.Mailbox
import Tandem.Proofs.Machine.Fault
import Tandem.Proofs.Machine.Ideal

/-!
# Running on from a cut

A run can be cut after any number of steps and then be let go: it comes to the same end. If it is
cut while the machine is running, this is so because the rest of the run is the run of the state at
the cut. A machine that has stopped returns the same exit once more, and one that has failed fails
again; but then it has counted the steps in which it failed before (`Solo.returns_after`).
-/

namespace Tandem

/-- Whether a step failed, as a number. -/
def Progress.failures : Progress → Nat
  | .failed _ => 1
  | .running | .exited _ => 0

/-- A step with no failure did not fail. -/
lemma Progress.failures_eq_zero_iff {p : Progress} : p.failures = 0 ↔ ∀ f, p ≠ .failed f := by
  cases p <;> simp [failures]

namespace Solo

variable {σ : Type} {c : Channel σ} {s t u : Solo σ} {r : Except Fault Outcome} {x : Exit}
  {f : Fault} {n : Nat}

/-- A run returns a result and leaves a state, if the bound on its steps is large enough. -/
def Returns (c : Channel σ) (s : Solo σ) (r : Except Fault Outcome) (t : Solo σ) : Prop :=
  ∃ fuel, s.execute c fuel = some (r, t)

/-- How many of the next `n` steps fail. -/
def failures (c : Channel σ) : Nat → Solo σ → Nat
  | 0, _ => 0
  | n + 1, s => (s.step c).1.failures + failures c n (s.step c).2

/-- The same state with more steps counted. -/
def delayed (s : Solo σ) (k : Nat) : Solo σ :=
  { s with machine := { s.machine with steps := s.machine.steps + k } }

/-- No steps more are counted. -/
@[simp] lemma delayed_zero (s : Solo σ) : s.delayed 0 = s := rfl

/-- Steps that are counted twice over add up. -/
lemma delayed_delayed (s : Solo σ) (k l : Nat) : (s.delayed k).delayed l = s.delayed (k + l) := by
  simp [delayed, Nat.add_assoc]

/-- There is no failure in the next `n` steps exactly if none of them fails. -/
lemma failures_eq_zero_iff :
    s.failures c n = 0 ↔ ∀ k < n, ∀ f, ((s.after c k).step c).1 ≠ .failed f := by
  induction n generalizing s with
  | zero => simp [failures]
  | succ n ih =>
    rw [failures, Nat.add_eq_zero_iff, Progress.failures_eq_zero_iff, ih, Nat.forall_lt_succ_left]
    rfl

section FirstStep

/-- A run returns what it returns after a step that leaves the machine running. -/
lemma returns_iff_of_running (step : s.step c = (.running, t)) :
    s.Returns c r u ↔ t.Returns c r u := by
  constructor
  · rintro ⟨fuel, returns⟩
    cases fuel with
    | zero => cases returns
    | succ fuel =>
      rw [execute, step] at returns
      exact ⟨fuel, returns⟩
  · rintro ⟨fuel, returns⟩
    refine ⟨fuel + 1, ?_⟩
    rw [execute, step]
    exact returns

/-- A run that ends in its first step returns what it ends with, whatever the bound on its steps. -/
lemma returns_iff_of_ends {result : Except Fault Outcome} (ends : s.Ends c result t) :
    s.Returns c r u ↔ r = result ∧ u = t := by
  constructor
  · rintro ⟨fuel, returns⟩
    cases fuel with
    | zero => cases returns
    | succ fuel =>
      cases returns.symm.trans (execute_mono ends.execute (Nat.le_add_left 1 fuel))
      exact ⟨rfl, rfl⟩
  · rintro ⟨rfl, rfl⟩
    exact ⟨1, ends.execute⟩

/-- A step that exits leaves the machine stopped for this reason. -/
lemma exit_of_step (step : s.step c = (.exited x, t)) : t.machine.exit = some x := by
  obtain ⟨m, channel⟩ := t
  obtain ⟨policy, e, made, -⟩ := step_of_step_eq step
  exact made.exit_of_exited

end FirstStep

section Stopped

variable (exit : s.machine.exit = some x) (c : Channel σ)

include exit

/-- A machine that has stopped gives the same reason again, and changes nothing. -/
lemma step_of_exit : s.step c = (.exited x, s) := by
  have step : s.machine.Step .store none (.exited x) s.machine := .stopped exit
  exact step_eq step .nothing

/-- A machine that has stopped is not changed by more steps. -/
lemma after_of_exit (n : Nat) : s.after c n = s := by
  induction n with
  | zero => rfl
  | succ n ih =>
    rw [after, step_of_exit exit]
    exact ih

/-- The run of a machine that has stopped closes the channel and returns at once. -/
lemma execute_of_exit (fuel : Nat) :
    s.execute c (fuel + 1) = some (.ok (s.machine.outcome x), s.close c) := by
  rw [execute, step_of_exit exit]

end Stopped

/-- Steps can be cut anywhere. -/
lemma after_add (c : Channel σ) (n k : Nat) (s : Solo σ) :
    s.after c (n + k) = (s.after c n).after c k := by
  induction n generalizing s with
  | zero => rw [Nat.zero_add, after]
  | succ n ih =>
    rw [Nat.add_right_comm]
    exact ih (s.step c).2

/-- A run that was cut after its first step comes to the same end. -/
lemma returns_step :
    (s.step c).2.Returns c r t ↔ ∃ u, s.Returns c r u ∧ t = u.delayed (s.step c).1.failures := by
  cases step : s.step c with
  | mk p v =>
    cases p with
    | running => simp [returns_iff_of_running step, Progress.failures]
    | exited x =>
      have again : v.step c = (.exited x, v) := step_of_exit (exit_of_step step) c
      simp [returns_iff_of_ends (.exited step), returns_iff_of_ends (.exited again),
        Progress.failures]
    | failed f =>
      obtain ⟨faults, rfl⟩ := step_eq_failed_iff.1 step
      -- the step at the cut has been counted, and the run that goes on makes it once more
      have again : (⟨s.machine.tick, s.channel⟩ : Solo σ).step c =
          (.failed f, ⟨s.machine.tick.tick, s.channel⟩) :=
        step_eq_failed_iff.2 ⟨faults.tick, rfl⟩
      have late : (⟨s.machine.tick.tick, s.channel⟩ : Solo σ).close c =
          ((⟨s.machine.tick, s.channel⟩ : Solo σ).close c).delayed 1 := rfl
      simp [returns_iff_of_ends (.failed step), returns_iff_of_ends (.failed again),
        Progress.failures, late]

/-- A run that was cut anywhere comes to the same end, but for the steps in which it failed
before. -/
lemma returns_after :
    (s.after c n).Returns c r t ↔ ∃ u, s.Returns c r u ∧ t = u.delayed (s.failures c n) := by
  induction n generalizing s with
  | zero => simp [after, failures]
  | succ n ih =>
    rw [after, ih]
    constructor
    · rintro ⟨v, rest, rfl⟩
      obtain ⟨u, returns, rfl⟩ := returns_step.1 rest
      exact ⟨u, returns, delayed_delayed _ _ _⟩
    · rintro ⟨u, returns, rfl⟩
      exact ⟨_, returns_step.2 ⟨u, returns, rfl⟩, (delayed_delayed _ _ _).symm⟩

/-- A run that returns nothing for any bound on its steps does not return. -/
lemma execute_eq_none_iff : (∀ fuel, s.execute c fuel = none) ↔ ∀ r t, ¬s.Returns c r t := by
  constructor
  · rintro never r t ⟨fuel, returns⟩
    cases (never fuel).symm.trans returns
  · intro never fuel
    cases returns : s.execute c fuel with
    | none => rfl
    | some result => exact absurd ⟨fuel, returns⟩ (never result.1 result.2)

/-- A run that has returned returns the same when it is made again. -/
lemma execute_again {outcome : Outcome} (returns : s.Returns c (.ok outcome) t) (fuel : Nat) :
    t.execute c (fuel + 1) = some (.ok outcome, t.close c) := by
  obtain ⟨u, -, ends⟩ := execute_eq_some_iff.1 returns
  cases ends with
  | @exited x v step =>
    have exit : v.machine.exit = some x := exit_of_step step
    exact execute_of_exit (s := v.close c) exit c fuel

/-- Steps followed by a run come to what the run alone comes to. Either both runs return or none
does. They give the same result and leave the same machine and the same channel, but for the count
of steps in which the machine had failed before the run; so if none of the steps failed, all is the
same. If the machine stopped in one of the steps, the others and the run return its exit and do
nothing but close the channel. If it failed in one of them, the run fails in the same way. A run
that is repeated after it has stopped gives the same outcome, and closes the channel once more. -/
theorem run_resumes_at_every_cut (c : Channel σ) (s : Solo σ) (n : Nat) :
    ((∀ fuel, (s.after c n).execute c fuel = none) ↔ ∀ fuel, s.execute c fuel = none) ∧
    (∀ result t, (s.after c n).Returns c result t ↔
      ∃ u, s.Returns c result u ∧ t = u.delayed (s.failures c n)) ∧
    ((∀ k < n, ∀ fault, ((s.after c k).step c).1 ≠ .failed fault) →
      ∀ result t, (s.after c n).Returns c result t ↔ s.Returns c result t) ∧
    (∀ exit, (s.after c n).machine.exit = some exit →
      (∀ k, s.after c (n + k) = s.after c n ∧
        (s.after c (n + k)).step c = (.exited exit, s.after c n)) ∧
      ∀ fuel, (s.after c n).execute c (fuel + 1) =
        some (.ok ((s.after c n).machine.outcome exit), (s.after c n).close c)) ∧
    (∀ k < n, ∀ fault, ((s.after c k).step c).1 = .failed fault →
      0 < s.failures c n ∧
      ∃ t, s.Returns c (.error fault) t ∧
        (s.after c n).Returns c (.error fault) (t.delayed (s.failures c n))) ∧
    ∀ outcome t, s.Returns c (.ok outcome) t →
      ∀ fuel, t.execute c (fuel + 1) = some (.ok outcome, t.close c) := by
  refine ⟨?_, fun result t => returns_after, ?_, ?_, ?_, fun outcome t => execute_again⟩
  · rw [execute_eq_none_iff, execute_eq_none_iff]
    constructor
    · intro never r t returns
      exact never r _ (returns_after.2 ⟨t, returns, rfl⟩)
    · intro never r t rest
      obtain ⟨u, returns, -⟩ := returns_after.1 rest
      exact never r u returns
  · intro quiet result t
    rw [returns_after, failures_eq_zero_iff.2 quiet]
    simp
  · intro x exit
    refine ⟨fun k => ?_, execute_of_exit exit c⟩
    rw [after_add, after_of_exit exit]
    exact ⟨rfl, step_of_exit exit c⟩
  · intro k lt fault failed
    have counted : s.failures c n ≠ 0 := fun none => failures_eq_zero_iff.1 none k lt fault failed
    have fails : (s.after c k).step c = (.failed fault, ((s.after c k).step c).2) :=
      Prod.ext failed rfl
    obtain ⟨t, returns, -⟩ := returns_after.1 ⟨1, Ends.execute (.failed fails)⟩
    exact ⟨Nat.pos_of_ne_zero counted, t, returns, returns_after.2 ⟨t, returns, rfl⟩⟩

/-- A machine that sends, receives and halts is cut after its first step, and it is let run once it
has stopped. A machine that fails in its second step is called for four steps before it is let
run. -/
theorem run_resumes_at_every_cut_halted_failed :
    (let s : Solo Mailbox := load ⟨#[.snd (.literal 3), .rcv ⟨"a"⟩]⟩ .empty { inbox := [8] }
    ∃ t, s.Returns Mailbox.channel (.ok ⟨.halted, 1, 2⟩) t ∧
      (s.after Mailbox.channel 1).Returns Mailbox.channel (.ok ⟨.halted, 1, 2⟩) t ∧
      t.execute Mailbox.channel 1 = some (.ok ⟨.halted, 1, 2⟩, t.close Mailbox.channel) ∧
      s.after Mailbox.channel 7 = s.after Mailbox.channel 3 ∧
      (s.after Mailbox.channel 3).execute Mailbox.channel 1 =
        some (.ok ⟨.halted, 1, 2⟩, (s.after Mailbox.channel 3).close Mailbox.channel)) ∧
    (let s : Solo Mailbox :=
      load ⟨#[.update .set ⟨"a"⟩ (.literal 3), .update .mod ⟨"a"⟩ (.register ⟨"b"⟩)]⟩ .empty
        { inbox := [8] }
    ∃ t, s.Returns Mailbox.channel (.error (.moduloByZero 1)) t ∧
      (s.after Mailbox.channel 4).Returns Mailbox.channel (.error (.moduloByZero 1))
        (t.delayed 3)) := by
  constructor
  · obtain ⟨-, -, quiet, -, -, again⟩ := run_resumes_at_every_cut Mailbox.channel
      (load ⟨#[.snd (.literal 3), .rcv ⟨"a"⟩]⟩ .empty { inbox := [8] }) 1
    obtain ⟨-, -, -, stops, -, -⟩ := run_resumes_at_every_cut Mailbox.channel
      (load ⟨#[.snd (.literal 3), .rcv ⟨"a"⟩]⟩ .empty { inbox := [8] }) 3
    obtain ⟨still, execute⟩ := stops .halted rfl
    have returns := again ⟨.halted, 1, 2⟩ _ ⟨3, rfl⟩ 0
    refine ⟨_, ⟨3, rfl⟩, (quiet ?_ _ _).2 ⟨3, rfl⟩, returns, (still 4).1, execute 0⟩
    intro k lt fault
    obtain rfl := Nat.lt_one_iff.1 lt
    exact Progress.noConfusion
  · obtain ⟨-, -, -, -, fails, -⟩ := run_resumes_at_every_cut Mailbox.channel
      (load ⟨#[.update .set ⟨"a"⟩ (.literal 3), .update .mod ⟨"a"⟩ (.register ⟨"b"⟩)]⟩ .empty
        { inbox := [8] }) 4
    obtain ⟨-, t, returns, later⟩ := fails 1 (by decide) (.moduloByZero 1) rfl
    exact ⟨t, returns, later⟩

end Solo

end Tandem
