import Tandem.Proofs.Machine.Run

/-!
# Calls to a machine

A machine alone is driven from outside by calls, each of which asks for one step or for a run to its
end. Calls are made one after another (`Solo.calls`), and what they do to the channel is put on
record: every event, with the machine as it stood before the step that brought it about
(`Solo.record`). A step that is made in a call is a `Machine.Step`, under the policy that the
channel has after its next answer (`Solo.step_spec`).

What every step keeps, and every closing of the channel, holds after all calls
(`Solo.calls_records`).
-/

namespace Tandem

/-- An event, and the machine as it stood when it brought the event about. -/
structure Machine.Moment where
  machine : Machine
  event : Event
  deriving DecidableEq

/-- What a machine puts on record is kept track of by every step on a channel with a given policy,
and when the channel is closed. -/
structure Machine.Kept (policy : Policy) (P : List Machine.Moment → Machine → Prop) : Prop where
  step {moments m e p m'} : m.Step policy e p m' → P moments m →
    P (moments ++ e.toList.map fun e => ⟨m, e⟩) m'
  close {moments m} : P moments m → P (moments ++ [⟨m, .closed⟩]) m

section Serve

variable {σ α : Type} (c : Channel σ) (s : σ)

/-- What a channel does with a request can be told beforehand: it depends on the answer that comes
next. -/
lemma Channel.yields_serve (r : Request α) :
    r.Yields (c.policy (c.receive s).2) (r.event? (some (c.receive s).1)) (c.serve s r).1 := by
  cases r with
  | work => exact .work
  | send => exact .send
  | receive => exact .receive
  | close => exact .close

/-- A channel is left by a request as its event says. -/
lemma Channel.serves_serve (r : Request α) :
    c.Serves (c.policy (c.receive s).2) s (r.event? (some (c.receive s).1)) (c.serve s r).2 := by
  cases r with
  | work => exact .nothing
  | send => exact .send
  | receive => exact .receive rfl rfl
  | close => exact .close

end Serve

/-- A channel never changes its policy. -/
structure Channel.Steady {σ : Type} (c : Channel σ) : Prop where
  send : ∀ s v, c.policy (c.send s v) = c.policy s
  receive : ∀ s, c.policy (c.receive s).2 = c.policy s
  close : ∀ s, c.policy (c.close s) = c.policy s

/-- A steady channel has the same policy after every request. -/
lemma Channel.Steady.policy_eq {σ : Type} {c : Channel σ} {policy : Policy} {s s' : σ}
    {e : Option Event} (steady : c.Steady) (serves : c.Serves policy s e s') :
    c.policy s' = c.policy s := by
  cases serves with
  | nothing => rfl
  | send => exact steady.send s _
  | receive receive =>
    have same := steady.receive s
    rwa [receive] at same
  | close => exact steady.close s

namespace Solo

variable {σ : Type}

/-- A machine about to run a program on a channel. -/
def load (p : Program) (registers : Registers) (channel : σ) : Solo σ :=
  ⟨{ program := p, registers }, channel⟩

/-- What a machine is called for. -/
inductive Call where
  /-- One step. -/
  | step
  /-- A run to its end, with the channel closed after it. -/
  | execute
  deriving DecidableEq, Repr

/-- The command that a call gives. -/
def Call.command : Call → Machine.Command
  | .step => .steps 1
  | .execute => .execute

/-- Make calls one after another. Nothing is returned if one of them does not return. -/
def calls (c : Channel σ) (fuel : Nat) : List Call → Solo σ → Option (List Machine.Answer × Solo σ)
  | [], s => some ([], s)
  | first :: rest, s =>
    (s.obey c fuel first.command).bind fun (answer, t) =>
      (calls c fuel rest t).map fun (answers, u) => (answer :: answers, u)

/-- What the next step lets be seen. -/
def event? (c : Channel σ) (s : Solo σ) : Option Event :=
  s.machine.next.event? (some (c.receive s.channel).1)

/-- What the next step puts on record. -/
def stepRecord (c : Channel σ) (s : Solo σ) : List Machine.Moment :=
  (s.event? c).toList.map fun e => ⟨s.machine, e⟩

/-- What a run puts on record, and at its end the closing of the channel. -/
def executeRecord (c : Channel σ) : Nat → Solo σ → List Machine.Moment
  | 0, _ => []
  | fuel + 1, s =>
    s.stepRecord c ++
      match s.step c with
      | (.running, t) => executeRecord c fuel t
      | (_, t) => [⟨t.machine, .closed⟩]

/-- What a call puts on record. -/
def callRecord (c : Channel σ) (fuel : Nat) (s : Solo σ) : Call → List Machine.Moment
  | .step => s.stepRecord c
  | .execute => s.executeRecord c fuel

/-- What calls put on record, one after another. A call that does not return is the last one. -/
def record (c : Channel σ) (fuel : Nat) : List Call → Solo σ → List Machine.Moment
  | [], _ => []
  | first :: rest, s =>
    s.callRecord c fuel first ++
      match s.obey c fuel first.command with
      | none => []
      | some (_, t) => record c fuel rest t

variable {c : Channel σ} {s t u : Solo σ} {p : Progress} {r : Except Fault Outcome} {fuel : Nat}
  {first : Call} {rest : List Call} {answer : Machine.Answer} {answers : List Machine.Answer}

/-- A step beside a channel is a step of the machine, under the policy that the channel has after
its next answer. -/
lemma step_spec (c : Channel σ) (s : Solo σ) :
    s.machine.Step (c.policy (c.receive s.channel).2) (s.event? c) (s.step c).1
      (s.step c).2.machine :=
  Machine.step_of_yields (c.yields_serve s.channel s.machine.next)

/-- A step leaves the channel as its event says. -/
lemma channel_step (c : Channel σ) (s : Solo σ) :
    c.Serves (c.policy (c.receive s.channel).2) s.channel (s.event? c) (s.step c).2.channel :=
  c.serves_serve s.channel s.machine.next

/-- The answer to a call for a step is what the step came to. -/
lemma obey_step (c : Channel σ) (fuel : Nat) (s : Solo σ) :
    s.obey c fuel Call.step.command = some (.progress (s.step c).1, (s.step c).2) := by
  cases step : s.step c with
  | mk p t => cases p <;> simp [obey, Call.command, steps, step]

/-- The answer to a call for a run is how the run ended. -/
lemma obey_execute (c : Channel σ) (fuel : Nat) (s : Solo σ) :
    s.obey c fuel Call.execute.command =
      (s.execute c fuel).map fun (result, t) => (.outcome result, t) := rfl

/-- The first call is made, and then the others. -/
lemma calls_cons (made : s.obey c fuel first.command = some (answer, t)) (rest : List Call) :
    s.calls c fuel (first :: rest) =
      (t.calls c fuel rest).map fun (answers, u) => (answer :: answers, u) := by
  rw [calls, made]
  rfl

/-- The first call is put on record before the others. -/
lemma record_cons (made : s.obey c fuel first.command = some (answer, t)) (rest : List Call) :
    s.record c fuel (first :: rest) = s.callRecord c fuel first ++ t.record c fuel rest := by
  rw [record, made]

/-- If calls return, the first one has returned and so have the others after it. -/
lemma of_calls_cons (made : s.calls c fuel (first :: rest) = some (answers, u)) :
    ∃ answer later t, s.obey c fuel first.command = some (answer, t) ∧
      t.calls c fuel rest = some (later, u) ∧ answers = answer :: later := by
  obtain ⟨⟨answer, t⟩, one, others⟩ := Option.bind_eq_some_iff.1 made
  obtain ⟨⟨later, u⟩, others, same⟩ := Option.map_eq_some_iff.1 others
  cases same
  exact ⟨answer, later, t, one, others, rfl⟩

section Records

variable {P : List Machine.Moment → Solo σ → Prop}
  (step : ∀ {moments s}, P moments s → P (moments ++ s.stepRecord c) (s.step c).2)
  (close : ∀ {moments s}, P moments s → P (moments ++ [⟨s.machine, .closed⟩]) (s.close c))
  {moments : List Machine.Moment}

include step close

/-- What every step keeps, and every closing of the channel, holds after a run. -/
lemma execute_records (made : s.execute c fuel = some (r, t)) (holds : P moments s) :
    P (moments ++ s.executeRecord c fuel) t := by
  induction fuel generalizing s moments with
  | zero => cases made
  | succ fuel ih =>
    have stepped := step holds
    rw [execute] at made
    rw [executeRecord, ← List.append_assoc]
    cases first : s.step c with
    | mk p u =>
      rw [first] at made stepped
      cases p with
      | running => exact ih made stepped
      | exited x =>
        cases made
        exact close stepped
      | failed f =>
        cases made
        exact close stepped

/-- What every step keeps, and every closing of the channel, holds after a call. -/
lemma obey_records (made : s.obey c fuel first.command = some (answer, t)) (holds : P moments s) :
    P (moments ++ s.callRecord c fuel first) t := by
  cases first with
  | step =>
    rw [obey_step] at made
    cases made
    exact step holds
  | execute =>
    obtain ⟨⟨r, u⟩, returns, same⟩ := Option.map_eq_some_iff.1 made
    cases same
    exact execute_records step close returns holds

/-- What every step and every closing keeps, for what is on record so far and the present state,
holds after all calls. -/
lemma calls_records {made : List Call} (returns : s.calls c fuel made = some (answers, t))
    (moments : List Machine.Moment) (holds : P moments s) :
    P (moments ++ s.record c fuel made) t := by
  induction made generalizing s moments answers with
  | nil =>
    cases returns
    simpa [record] using holds
  | cons first rest ih =>
    obtain ⟨answer, later, u, one, others, rfl⟩ := of_calls_cons returns
    rw [record_cons one, ← List.append_assoc]
    exact ih others _ (obey_records step close one holds)

end Records

/-- What is kept under the policy that a channel starts with, and never changes, holds after all
calls. -/
lemma calls_keeps {P : List Machine.Moment → Machine → Prop}
    (kept : Machine.Kept (c.policy s.channel) P) (steady : c.Steady) {made : List Call}
    (returns : s.calls c fuel made = some (answers, t)) (holds : P [] s.machine) :
    P (s.record c fuel made) t.machine := by
  refine (calls_records
    (P := fun moments u => c.policy u.channel = c.policy s.channel ∧ P moments u.machine)
    ?_ ?_ returns [] ⟨rfl, holds⟩).2
  · rintro moments u ⟨same, holds⟩
    have step := u.step_spec c
    rw [steady.receive, same] at step
    exact ⟨(steady.policy_eq (u.channel_step c)).trans same, kept.step step holds⟩
  · rintro moments u ⟨same, holds⟩
    exact ⟨(steady.close _).trans same, kept.close holds⟩

/-- What every step of a machine keeps holds after all calls. -/
lemma calls_preserves {P : Machine → Prop}
    (step : ∀ {policy m e p m'}, m.Step policy e p m' → P m → P m')
    {made : List Call} (returns : s.calls c fuel made = some (answers, t)) (holds : P s.machine) :
    P t.machine := by
  refine calls_records (P := fun _ s => P s.machine) ?_ ?_ returns [] holds
  · intro _ s holds
    exact step (s.step_spec c) holds
  · intro _ s holds
    exact holds

end Solo

end Tandem
