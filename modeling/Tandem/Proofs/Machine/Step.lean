import Tandem.Machine.Basic
import Tandem.Proofs.History

/-!
# Steps of a machine

`Machine.Step policy m e p m'` says what one step of a machine does on a channel with a given
policy: one constructor for each kind of instruction and each way in which it can end.
`step_of_yields` reads a step off the request that the machine makes, so what a step keeps or counts
is proved by cases, without a look at how the machine carries it out. Every value sent is counted
once (`Step.sent_eq`), and on a link a value received is exactly an `rcv` that stored it
(`Step.stored_eq`).
-/

namespace Tandem

/-- The only update that writes nothing is a remainder by zero. -/
lemma Update.eq_none_iff {u : Update} {x y : Word} : u.apply? x y = none ↔ u = .mod ∧ y = 0 := by
  unfold Update.apply?
  cases u <;> simp

namespace Machine

/-- The machine has not stopped and stands at an instruction. -/
structure Fetches (m : Machine) (i : Instruction) : Prop where
  running : m.exit = none
  fetch : m.program.fetch? m.ip = some i

/-- The steps of a machine. -/
inductive Step (policy : Policy) (m : Machine) : Option Event → Progress → Machine → Prop where
  | stopped {e} :
    m.exit = some e →
    Step policy m none (.exited e) m
  | halt :
    m.exit = none →
    m.program.fetch? m.ip = none →
    Step policy m none (.exited .halted) { m with exit := some .halted }
  | snd {x} :
    m.Fetches (.snd x) →
    Step policy m (some (.sent (m.value x))) .running { m.tick with sent := m.sent + 1 }.advance
  | update {u x y v} :
    m.Fetches (.update u x y) →
    u.apply? (m.registers.get x) (m.value y) = some v →
    Step policy m none .running (m.tick.write x v).advance
  | fault {u x y} :
    m.Fetches (.update u x y) →
    u.apply? (m.registers.get x) (m.value y) = none →
    Step policy m none (.failed (.moduloByZero m.ip.toNatClampNeg)) m.tick
  | store {x v} :
    m.Fetches (.rcv x) →
    policy = .store →
    Step policy m (some (.received (.value v))) .running (m.tick.write x v).advance
  | ignore {x v} :
    m.Fetches (.rcv x) →
    policy = .recover →
    m.registers.get x = 0 →
    Step policy m (some (.received (.value v))) .running m.tick.advance
  | recover {x v} :
    m.Fetches (.rcv x) →
    policy = .recover →
    m.registers.get x ≠ 0 →
    Step policy m (some (.received (.value v))) (.exited (.recovered v))
      { m.tick with exit := some (.recovered v) }
  | terminate {x} :
    m.Fetches (.rcv x) →
    Step policy m (some (.received .terminated)) (.exited .terminated)
      { m.tick with exit := some .terminated }
  | jgz {x y} :
    m.Fetches (.jgz x y) →
    Step policy m none .running (if 0 < m.value x then m.tick.jump (m.value y) else m.tick.advance)

variable {policy : Policy} {m m' : Machine} {e : Option Event} {p : Progress}

/-- Taking an answer at an `rcv` is a step. -/
lemma Fetches.step_accept {x : Register} (fetches : m.Fetches (.rcv x)) {r : Received}
    (h : m.tick.accept x policy r = (p, m')) : m.Step policy (some (.received r)) p m' := by
  cases r with
  | terminated =>
    cases h
    exact .terminate fetches
  | value v =>
    cases policy with
    | store =>
      cases h
      exact .store fetches rfl
    | recover =>
      simp only [accept] at h
      split at h
      · next zero =>
        cases h
        exact .ignore fetches rfl zero
      · next nonzero =>
        cases h
        exact .recover fetches rfl nonzero

/-- Performing the instruction at which the machine stands is a step. -/
lemma Fetches.step_perform {i : Instruction} (fetches : m.Fetches i)
    (h : (m.tick.perform i).Yields policy e (p, m')) : m.Step policy e p m' := by
  cases i with
  | snd x =>
    cases h
    exact .snd fetches
  | update u x y =>
    simp only [perform] at h
    split at h
    · next v apply =>
      cases h
      exact .update fetches apply
    · next apply =>
      cases h
      exact .fault fetches apply
  | rcv x =>
    generalize eq : (p, m') = after at h
    cases h
    exact fetches.step_accept eq.symm
  | jgz x y =>
    cases h
    exact .jgz fetches

/-- What comes of the request that a machine makes is a step. -/
lemma step_of_yields (h : m.next.Yields policy e (p, m')) : m.Step policy e p m' := by
  unfold next at h
  split at h
  · next exit =>
    cases h
    exact .stopped exit
  · next running =>
    split at h
    · next fetch =>
      cases h
      exact .halt running fetch
    · next i fetch => exact Fetches.step_perform ⟨running, fetch⟩ h

/-- No step changes the program. -/
lemma Step.program_eq (step : m.Step policy e p m') : m'.program = m.program := by
  cases step with
  | jgz =>
    split
    · rfl
    · rfl
  | _ => rfl

/-- No step closes the channel. -/
lemma Step.ne_closed (step : m.Step policy e p m') : e ≠ some .closed := by
  cases step <;> nofun

/-- The values sent are counted. -/
lemma Step.sent_eq (step : m.Step policy e p m') (i : Side) :
    m'.sent = m.sent + (History.sentBy i (.single i e)).length := by
  cases step with
  | snd => simp [advance, tick]
  | jgz =>
    split
    · rfl
    · rfl
  | _ => rfl

/-- No step takes back the count of steps. -/
lemma Step.steps_le (step : m.Step policy e p m') : m.steps ≤ m'.steps := by
  cases step with
  | stopped => exact Nat.le_refl _
  | halt => exact Nat.le_refl _
  | jgz =>
    split
    · exact Nat.le_succ _
    · exact Nat.le_succ _
  | _ => exact Nat.le_succ _

/-- A step that gets an answer is counted. -/
lemma Step.steps_of_received {r : Received} (step : m.Step policy (some (.received r)) p m') :
    m'.steps = m.steps + 1 := by
  cases step <;> rfl

/-- A step that leaves the machine running is counted. -/
lemma Step.steps_of_running (step : m.Step policy e .running m') : m'.steps = m.steps + 1 := by
  cases step with
  | jgz =>
    split
    · rfl
    · rfl
  | _ => rfl

/-- A step that leaves the machine running was made by a machine without an exit. -/
lemma Step.running_of_running (step : m.Step policy e .running m') : m.exit = none := by
  cases step with
  | _ fetches => exact fetches.running

/-- A machine that is left running has no exit. -/
lemma Step.exit_of_running (step : m.Step policy e .running m') : m'.exit = none := by
  cases step with
  | jgz fetches =>
    split
    · exact fetches.running
    · exact fetches.running
  | _ fetches => exact fetches.running

/-- A machine that is told that nothing will come terminates. -/
lemma Step.exited_of_terminated (step : m.Step policy (some (.received .terminated)) p m') :
    p = .exited .terminated := by
  cases step
  rfl

/-- A machine that fails has no exit. -/
lemma Step.exit_of_failed {f : Fault} (step : m.Step policy e (.failed f) m') : m'.exit = none := by
  cases step with
  | fault fetches => exact fetches.running

/-- A machine that exits keeps the reason. -/
lemma Step.exit_of_exited {x : Exit} (step : m.Step policy e (.exited x) m') :
    m'.exit = some x := by
  cases step with
  | stopped exit => exact exit
  | _ => rfl

/-- A machine has terminated once it has learned that nothing will come. -/
lemma Step.exit_eq_terminated_iff (step : m.Step policy e p m') :
    m'.exit = some .terminated ↔ m.exit = some .terminated ∨ e = some (.received .terminated) := by
  cases step with
  | stopped => simp
  | halt running => simp [running]
  | recover fetches => simp [fetches.running]
  | terminate => simp
  | jgz fetches =>
    split
    · simp [jump, tick, fetches.running]
    · simp [advance, tick, fetches.running]
  | _ fetches => simp [advance, write, tick, fetches.running]

/-- Whether a machine comes from another one by an `rcv` that stored a value. -/
def stored (m m' : Machine) : Bool :=
  match m.exit, m.program.fetch? m.ip with
  | none, some (.rcv x) => m' = (m.tick.write x (m'.registers.get x)).advance
  | _, _ => false

/-- A machine that is unchanged has stored nothing. -/
lemma stored_self (m : Machine) : stored m m = false := by
  unfold stored
  split
  · next x _ _ =>
    have ne : m ≠ (m.tick.write x (m.registers.get x)).advance := by
      intro eq
      have steps := congrArg Machine.steps eq
      simp [tick, write, advance] at steps
    simpa using ne
  · rfl

/-- Under the policy of a link a value is received exactly when an `rcv` stores it. -/
lemma Step.stored_eq (step : m.Step .store e p m') (i : Side) :
    (if stored m m' then 1 else 0) = (History.receivedBy i (.single i e)).length := by
  cases step with
  | stopped exit => simp [stored, exit]
  | halt running fetch => simp [stored, running, fetch]
  | snd fetches => simp [stored, fetches.running, fetches.fetch]
  | update fetches => simp [stored, fetches.running, fetches.fetch]
  | fault fetches => simp [stored, fetches.running, fetches.fetch]
  | store fetches => simp [stored, fetches.running, fetches.fetch, tick, write, advance]
  | ignore _ policy => cases policy
  | recover _ policy => cases policy
  | terminate fetches =>
    simp [stored, fetches.running, fetches.fetch, tick, write, advance]
  | jgz fetches => simp [stored, fetches.running, fetches.fetch]

end Machine

end Tandem
