import Mathlib.Logic.Function.Iterate
import Tandem.Channel.Mailbox
import Tandem.Proofs.Machine.Calls
import Tandem.Proofs.Program

/-!
# Faults

A step fails exactly at a remainder by zero (`Machine.Faults`), and then it does nothing but count.
So the machine stands at the same instruction afterwards, with the same registers, and fails again,
however it is called (`Solo.calls_of_faults`).
-/

namespace Tandem

namespace Machine

variable {policy : Policy} {m m' : Machine} {e : Option Event} {f : Fault}

/-- The machine is running, and stands at an instruction that asks for a remainder by zero. -/
inductive Faults (m : Machine) : Fault → Prop where
  | moduloByZero {x y} :
    m.Fetches (.update .mod x y) →
    m.value y = 0 →
    Faults m (.moduloByZero m.ip.toNatClampNeg)

/-- A machine with a fault fails in its next step, and only counts it. -/
lemma Faults.step (faults : m.Faults f) : m.Step policy none (.failed f) m.tick := by
  cases faults with
  | moduloByZero fetches zero => exact .fault fetches (Update.eq_none_iff.2 ⟨rfl, zero⟩)

/-- A step that fails is made at a fault, cannot be seen and only counts. -/
lemma Step.faults (step : m.Step policy e (.failed f) m') :
    m.Faults f ∧ e = none ∧ m' = m.tick := by
  cases step with
  | fault fetches apply =>
    obtain ⟨rfl, zero⟩ := Update.eq_none_iff.1 apply
    exact ⟨.moduloByZero fetches zero, rfl, rfl⟩

/-- A fault does not depend on how many steps were counted. -/
lemma Faults.tick (faults : m.Faults f) : m.tick.Faults f := by
  cases faults with
  | moduloByZero fetches zero =>
    have again : m.tick.Fetches _ := ⟨fetches.running, fetches.fetch⟩
    exact .moduloByZero again zero

/-- A fault is a remainder by zero at the instruction that the pointer of a running machine
gives. -/
lemma faults_iff {index : Nat} : m.Faults (.moduloByZero index) ↔
    m.exit = none ∧ (∃ x y, m.program.fetch? m.ip = some (.update .mod x y) ∧ m.value y = 0) ∧
      m.ip.toInt = index := by
  constructor
  · intro faults
    cases faults with
    | moduloByZero fetches zero =>
      have index := (Program.toNatClampNeg_eq_iff fetches.fetch).1 rfl
      exact ⟨fetches.running, ⟨_, _, fetches.fetch, zero⟩, index⟩
  · rintro ⟨running, ⟨x, y, fetch, zero⟩, index⟩
    rw [← (Program.toNatClampNeg_eq_iff fetch).2 index]
    exact .moduloByZero ⟨running, fetch⟩ zero

/-- The index of a fault is that of an instruction of the program. -/
lemma Faults.inside (faults : m.Faults f) :
    ∃ index : Nat, f = .moduloByZero index ∧ m.ip.toInt = index ∧ index < m.program.size := by
  cases f with
  | moduloByZero index =>
    obtain ⟨-, ⟨x, y, fetch, -⟩, at_ip⟩ := faults_iff.1 faults
    have inside := Program.inside_of_fetch? fetch
    exact ⟨index, rfl, at_ip, by omega⟩

end Machine

namespace Solo

open Machine

variable {σ : Type} {c : Channel σ} {s t : Solo σ} {f : Fault}

/-- A step beside a channel fails exactly at a fault, and leaves the channel. -/
lemma step_eq_failed_iff :
    s.step c = (.failed f, t) ↔ s.machine.Faults f ∧ t = ⟨s.machine.tick, s.channel⟩ := by
  constructor
  · intro failed
    obtain ⟨m, channel⟩ := t
    obtain ⟨policy, e, step, serves⟩ := step_of_step_eq failed
    obtain ⟨faults, rfl, rfl⟩ := step.faults
    cases serves
    exact ⟨faults, rfl⟩
  · rintro ⟨faults, rfl⟩
    have step : s.machine.Step .store none (.failed f) s.machine.tick := faults.step
    exact step_eq step .nothing

/-- Whether the next step fails is decided by the machine alone. -/
lemma fst_step_eq_failed_iff : (s.step c).1 = .failed f ↔ s.machine.Faults f := by
  constructor
  · intro failed
    exact (step_eq_failed_iff.1 (Prod.ext failed rfl)).1
  · intro faults
    rw [step_eq_failed_iff.2 ⟨faults, rfl⟩]

/-- How a machine with a fault answers a call. -/
def Call.refusal (f : Fault) : Call → Answer
  | .step => .progress (.failed f)
  | .execute => .outcome (.error f)

section Faulty

variable (faults : s.machine.Faults f) (c : Channel σ) (fuel : Nat)

include faults

/-- A step that fails cannot be seen. -/
lemma event?_of_faults : s.event? c = none := by
  have step := s.step_spec c
  rw [step_eq_failed_iff.2 ⟨faults, rfl⟩] at step
  exact step.faults.2.1

/-- A run from a fault fails in its first step, and closes the channel. -/
lemma execute_of_faults :
    s.execute c (fuel + 1) = some (.error f, ⟨s.machine.tick, c.close s.channel⟩) := by
  rw [execute, step_eq_failed_iff.2 ⟨faults, rfl⟩]
  rfl

/-- A call at a fault is refused; it counts a step, and closes the channel if it asks for a run. -/
lemma obey_of_faults (call : Call) :
    s.obey c (fuel + 1) call.command =
      some (call.refusal f, ⟨s.machine.tick, c.close^[[call].count .execute] s.channel⟩) := by
  cases call with
  | step =>
    rw [obey_step, step_eq_failed_iff.2 ⟨faults, rfl⟩]
    rfl
  | execute =>
    rw [obey_execute, execute_of_faults faults]
    rfl

/-- A call at a fault sends and receives nothing. -/
lemma callRecord_of_faults (call : Call) :
    ∀ moment ∈ s.callRecord c (fuel + 1) call, moment.event = .closed := by
  cases call with
  | step => simp [callRecord, stepRecord, event?_of_faults faults]
  | execute =>
    have closes : s.executeRecord c (fuel + 1) = [⟨s.machine.tick, .closed⟩] := by
      rw [executeRecord, stepRecord, event?_of_faults faults, step_eq_failed_iff.2 ⟨faults, rfl⟩]
      rfl
    simp [callRecord, closes]

/-- A machine with a fault refuses all calls. They count, and close the channel if they are to, and
do nothing else. -/
lemma calls_of_faults (made : List Call) :
    s.calls c (fuel + 1) made = some (made.map (·.refusal f),
      ⟨{ s.machine with steps := s.machine.steps + made.length },
        c.close^[made.count .execute] s.channel⟩) := by
  induction made generalizing s with
  | nil => rfl
  | cons first rest ih =>
    have again :
        (⟨s.machine.tick, c.close^[[first].count .execute] s.channel⟩ : Solo σ).machine.Faults f :=
      faults.tick
    have closings : (first :: rest).count .execute =
        rest.count .execute + [first].count .execute := by
      rw [← List.singleton_append, List.count_append, Nat.add_comm]
    have counted : s.machine.steps + (first :: rest).length =
        s.machine.tick.steps + rest.length := by
      rw [List.length_cons, Nat.add_comm rest.length, ← Nat.add_assoc]
      rfl
    rw [calls_cons (obey_of_faults faults c fuel first), ih again, closings, counted,
      Function.iterate_add_apply]
    rfl

/-- However a machine with a fault is called, it sends and receives nothing. -/
lemma record_of_faults (made : List Call) :
    ∀ moment ∈ s.record c (fuel + 1) made, moment.event = .closed := by
  induction made generalizing s with
  | nil => simp [record]
  | cons first rest ih =>
    intro moment mem
    rw [record_cons (obey_of_faults faults c fuel first)] at mem
    rcases List.mem_append.1 mem with now | later
    · exact callRecord_of_faults faults c fuel first moment now
    · exact ih faults.tick moment later

end Faulty

/-- A step fails exactly if the machine is running and stands at a remainder by zero, and the index
that it tells is where it stands, inside the program. It leaves everything as it is but for the
count of steps. From then on, every call of any sequence of them is answered with this same fault.
Nothing is sent or received in them; each is counted as a step, and each run closes the channel. -/
theorem failed_step_lasts (c : Channel σ) (s : Solo σ) :
    (∀ index, (s.step c).1 = .failed (.moduloByZero index) ↔
      s.machine.exit = none ∧
      (∃ x y, s.machine.program.fetch? s.machine.ip = some (.update .mod x y) ∧
        s.machine.value y = 0) ∧
      s.machine.ip.toInt = index) ∧
    ∀ fault t, s.step c = (.failed fault, t) →
      (∃ index : Nat, fault = .moduloByZero index ∧ s.machine.ip.toInt = index ∧
        index < s.machine.program.size) ∧
      t = ⟨{ s.machine with steps := s.machine.steps + 1 }, s.channel⟩ ∧ t.machine.exit = none ∧
      ∀ fuel made,
        t.calls c (fuel + 1) made = some (made.map (·.refusal fault),
          ⟨{ t.machine with steps := t.machine.steps + made.length },
            c.close^[made.count .execute] t.channel⟩) ∧
        ∀ moment ∈ t.record c (fuel + 1) made, moment.event = .closed := by
  refine ⟨fun index => fst_step_eq_failed_iff.trans faults_iff, ?_⟩
  intro fault t failed
  obtain ⟨faults, rfl⟩ := step_eq_failed_iff.1 failed
  have again : s.machine.tick.Faults fault := faults.tick
  have running : s.machine.exit = none := by
    cases faults with
    | moduloByZero fetches => exact fetches.running
  refine ⟨faults.inside, rfl, running, fun fuel made => ⟨?_, ?_⟩⟩
  · exact calls_of_faults again c fuel made
  · exact record_of_faults again c fuel made

/-- A machine asks for the remainder of a register by itself while the register holds zero. -/
theorem failed_step_lasts_own_remainder :
    let s : Solo Mailbox := load ⟨#[.update .mod ⟨"a"⟩ (.register ⟨"a"⟩)]⟩ .empty { inbox := [5] }
    let t : Solo Mailbox := ⟨{ s.machine with steps := 1 }, { inbox := [5] }⟩
    s.step Mailbox.channel = (.failed (.moduloByZero 0), t) ∧
      t.calls Mailbox.channel 1 [.execute, .step, .execute] =
        some ([.outcome (.error (.moduloByZero 0)), .progress (.failed (.moduloByZero 0)),
          .outcome (.error (.moduloByZero 0))],
          ⟨{ t.machine with steps := 4 }, { inbox := [5], closes := 2 }⟩) := by
  intro s t
  have failed : s.step Mailbox.channel = (.failed (.moduloByZero 0), t) := rfl
  have lasts :=
    ((failed_step_lasts Mailbox.channel s).2 _ t failed).2.2.2 0 [.execute, .step, .execute]
  exact ⟨failed, lasts.1⟩

end Solo

end Tandem
