import Tandem.Performer
import Tandem.Proofs.Machine.Step
import Tandem.Proofs.Monitor.View

/-!
# Strides of a performer

A performer works off its command one step of its machine at a time. `Performer.Stride p e q` says
what it does in one turn on a link, and `stride_of_yields` reads it off the request that the
performer makes.

Performers are obedient: a machine that learns that nothing will come stops, and a performer that
has closed its end is done.
-/

namespace Tandem.Performer

/-- What a performer does in a turn on a link. -/
inductive Stride (p : Performer) : Option Event → Performer → Prop where
  | run {e m} :
    p.task = .executing →
    p.machine.Step Link.policy e .running m →
    Stride p e ⟨m, .executing⟩
  | exit {e x m} :
    p.task = .executing →
    p.machine.Step Link.policy e (.exited x) m →
    Stride p e ⟨m, .leaving (.outcome (.ok (m.outcome x)))⟩
  | fail {e f m} :
    p.task = .executing →
    p.machine.Step Link.policy e (.failed f) m →
    Stride p e ⟨m, .leaving (.outcome (.error f))⟩
  | leave {a} :
    p.task = .leaving a →
    Stride p (some .closed) { p with task := .done a }
  | step {left last e q m} :
    p.task = .stepping (left + 1) last →
    p.machine.Step Link.policy e q m →
    Stride p e (afterStep left (q, m))
  | pause {last} :
    p.task = .stepping 0 last →
    Stride p none { p with task := .done (.progress last) }

variable {p q : Performer} {e : Option Event} {r : Request Performer}

section Inversion

variable {m : Machine} {a : Machine.Answer}

/-- A performer at work makes a step of its machine, and leaves if the step exits or fails. -/
lemma Stride.of_executing (stride : Stride ⟨m, .executing⟩ e q) :
    (∃ m', m.Step Link.policy e .running m' ∧ q = ⟨m', .executing⟩) ∨
      (∃ x m', m.Step Link.policy e (.exited x) m' ∧
        q = ⟨m', .leaving (.outcome (.ok (m'.outcome x)))⟩) ∨
        ∃ f m', m.Step Link.policy e (.failed f) m' ∧ q = ⟨m', .leaving (.outcome (.error f))⟩ := by
  cases stride with
  | run _ step => exact .inl ⟨_, step, rfl⟩
  | exit _ step => exact .inr (.inl ⟨_, _, step, rfl⟩)
  | fail _ step => exact .inr (.inr ⟨_, _, step, rfl⟩)
  | leave task => cases task
  | step task => cases task
  | pause task => cases task

/-- A performer that only has to close its end closes it and is done. -/
lemma Stride.of_leaving (stride : Stride ⟨m, .leaving a⟩ e q) :
    e = some .closed ∧ q = ⟨m, .done a⟩ := by
  cases stride with
  | run task => cases task
  | exit task => cases task
  | fail task => cases task
  | leave task =>
    cases task
    exact ⟨rfl, rfl⟩
  | step task => cases task
  | pause task => cases task

/-- A performer that is done makes no stride. -/
lemma not_stride_done : ¬Stride ⟨m, .done a⟩ e q := by
  intro stride
  cases stride with
  | run task => cases task
  | exit task => cases task
  | fail task => cases task
  | leave task => cases task
  | step task => cases task
  | pause task => cases task

end Inversion

/-- Serving the request of a performer is a stride. -/
lemma stride_of_yields (request : p.next = some r) (yields : r.Yields Link.policy e q) :
    p.Stride e q := by
  unfold next at request
  split at request
  · next last task =>
    cases request
    cases yields
    exact .pause task
  · next left last task =>
    cases request
    obtain ⟨⟨progress, m⟩, served, rfl⟩ := yields.of_map
    exact .step task (Machine.step_of_yields served)
  · next task =>
    cases request
    obtain ⟨⟨progress, m⟩, served, rfl⟩ := yields.of_map
    have step := Machine.step_of_yields served
    cases progress with
    | running => exact .run task step
    | exited x => exact .exit task step
    | failed f => exact .fail task step
  · next answer task =>
    cases request
    cases yields
    exact .leave task
  · cases request

/-- After a step a performer has the machine that the step left. -/
@[simp] lemma machine_afterStep (left : Nat) (progress : Progress) (m : Machine) :
    (afterStep left (progress, m)).machine = m := by
  cases progress <;> rfl

/-- The machine of a performer makes a step in a stride, or it stays as it is and nothing is sent or
received. -/
lemma Stride.machine (stride : p.Stride e q) :
    (∃ progress, p.machine.Step Link.policy e progress q.machine) ∨
      q.machine = p.machine ∧ (e = none ∨ e = some .closed) := by
  cases stride with
  | run _ step => exact .inl ⟨_, step⟩
  | exit _ step => exact .inl ⟨_, step⟩
  | fail _ step => exact .inl ⟨_, step⟩
  | leave => exact .inr ⟨rfl, .inr rfl⟩
  | step _ step => exact .inl ⟨_, by simpa using step⟩
  | pause => exact .inr ⟨rfl, .inl rfl⟩

/-- A stride adds to the counter of the machine what it sends. -/
lemma Stride.sent_eq (stride : p.Stride e q) (i : Side) :
    q.machine.sent = p.machine.sent + (History.sentBy i (.single i e)).length := by
  obtain ⟨_, step⟩ | ⟨same, rfl | rfl⟩ := stride.machine
  · exact step.sent_eq i
  · simp [same]
  · simp [same]

/-- A stride receives a value exactly when the machine stores one. -/
lemma Stride.stored_eq (stride : p.Stride e q) (i : Side) :
    (if p.machine.stored q.machine then 1 else 0) =
      (History.receivedBy i (.single i e)).length := by
  obtain ⟨_, step⟩ | ⟨same, rfl | rfl⟩ := stride.machine
  · exact step.stored_eq i
  · simp [same, Machine.stored_self]
  · simp [same, Machine.stored_self]

/-- No stride takes back the count of steps. -/
lemma Stride.steps_le (stride : p.Stride e q) : p.machine.steps ≤ q.machine.steps := by
  obtain ⟨_, step⟩ | ⟨same, -⟩ := stride.machine
  · exact step.steps_le
  · exact Nat.le_of_eq (congrArg Machine.steps same.symm)

/-- A stride that gets an answer makes one step. -/
lemma Stride.steps_of_received {r : Received} (stride : p.Stride (some (.received r)) q) :
    q.machine.steps = p.machine.steps + 1 := by
  obtain ⟨_, step⟩ | ⟨-, silent⟩ := stride.machine
  · exact step.steps_of_received
  · simp at silent

/-- A stride leaves the machine terminated if it was so before, or was told that nothing will
come. -/
lemma Stride.exit_eq_terminated_iff (stride : p.Stride e q) :
    q.machine.exit = some .terminated ↔
      p.machine.exit = some .terminated ∨ e = some (.received .terminated) := by
  obtain ⟨_, step⟩ | ⟨same, rfl | rfl⟩ := stride.machine
  · exact step.exit_eq_terminated_iff
  · simp [same]
  · simp [same]

/-- A performer that is done sends and receives nothing more. -/
lemma spent_done (m : Machine) (a : Machine.Answer) : Spent next ⟨m, .done a⟩ := by
  intro r request
  cases request

/-- A performer that only has to close its end sends and receives nothing more. -/
lemma spent_leaving (m : Machine) (a : Machine.Answer) : Spent next ⟨m, .leaving a⟩ := by
  intro r request
  cases request
  exact ⟨_, rfl⟩

/-- A performer that learns that nothing will come has nothing left but to close. -/
lemma Stride.spent_of_terminated (stride : p.Stride (some (.received .terminated)) q) :
    Spent next q := by
  cases stride with
  | run _ step => cases step.exited_of_terminated
  | exit => exact spent_leaving _ _
  | fail _ step => cases step.exited_of_terminated
  | step _ step =>
    cases step.exited_of_terminated
    exact spent_done _ _

/-- A performer that has closed its end is done. -/
lemma Stride.rest_of_closed (stride : p.Stride (some .closed) q) : q.next = none := by
  cases stride with
  | run _ step => exact absurd rfl step.ne_closed
  | exit _ step => exact absurd rfl step.ne_closed
  | fail _ step => exact absurd rfl step.ne_closed
  | leave => rfl
  | step _ step => exact absurd rfl step.ne_closed

/-- Performers stop once they are told that nothing will come, and rest once they have closed. -/
lemma obedient : Obedient next where
  refused request := (stride_of_yields request .receive).spent_of_terminated
  closed request := (stride_of_yields request .close).rest_of_closed

end Tandem.Performer
