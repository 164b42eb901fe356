import Tandem.Proofs.Machine.Calls
import Tandem.Proofs.Machine.Exact

/-!
# Programs that only go forward

If every jump of a program has a distance that is written out and positive, the pointer grows with
every step that leaves the machine running (`Machine.Step.pointer_lt`). So a machine that began at
the first instruction always stands at least as far in its program as it has made steps
(`Machine.Ahead`), and it cannot make more steps than there are instructions: its run ends, on every
channel (`Solo.execute_of_ahead`).

A jump stops at the greatest word. A program of that many instructions could jump there for ever, so
programs are taken to be no longer than that.
-/

namespace Tandem

/-- The instruction does not lead back: the distance of a jump is a literal, and at least one. -/
def Instruction.Forward : Instruction → Prop
  | .jgz _ (.literal distance) => 1 ≤ distance
  | .jgz _ (.register _) => False
  | .snd _ | .update _ _ _ | .rcv _ => True

instance (i : Instruction) : Decidable i.Forward :=
  match i with
  | .jgz _ (.literal distance) => inferInstanceAs (Decidable (1 ≤ distance))
  | .jgz _ (.register _) => inferInstanceAs (Decidable False)
  | .snd _ | .update _ _ _ | .rcv _ => inferInstanceAs (Decidable True)

/-- No instruction of the program leads back. -/
def Program.Forward (p : Program) : Prop :=
  ∀ i ∈ p.instructions.toList, i.Forward

instance (p : Program) : Decidable p.Forward :=
  inferInstanceAs (Decidable (∀ i ∈ p.instructions.toList, i.Forward))

/-- A jump that does not lead back has a positive distance. -/
lemma Instruction.Forward.distance_pos {x y : Operand} (forward : (Instruction.jgz x y).Forward)
    (r : Registers) : 1 ≤ (y.value r).toInt := by
  cases y with
  | literal distance => exact Int64.le_iff_toInt_le.1 forward
  | register y => exact forward.elim

namespace Machine

variable {policy : Policy} {m m' : Machine} {e : Option Event} {p : Progress} {i j : Instruction}

/-- Steps are counted when an instruction is carried out, and only then. -/
lemma Step.steps_cases (step : m.Step policy e p m') :
    m'.steps = m.steps ∨ (∃ i, m.Fetches i) ∧ m'.steps = m.steps + 1 := by
  cases step with
  | stopped => exact .inl rfl
  | halt => exact .inl rfl
  | jgz fetches =>
    refine .inr ⟨⟨_, fetches⟩, ?_⟩
    split
    · rfl
    · rfl
  | _ fetches => exact .inr ⟨⟨_, fetches⟩, rfl⟩

/-- A step that leaves the machine running was made at an instruction. -/
lemma Step.fetches_of_running (step : m.Step policy e .running m') : ∃ i, m.Fetches i := by
  cases step with
  | _ fetches => exact ⟨_, fetches⟩

/-- The machine has made no more steps than there are instructions before its pointer, and none of
the instructions leads back. -/
structure Ahead (m : Machine) : Prop where
  forward : m.program.Forward
  short : (m.program.size : Int) ≤ Int64.maxValue.toInt
  steps_le : m.steps ≤ m.program.size
  pointer : ∀ i, m.Fetches i → (m.steps : Int) ≤ m.ip.toInt

/-- A machine about to run has made no steps. -/
lemma ahead_start {p : Program} (forward : p.Forward)
    (short : (p.size : Int) ≤ Int64.maxValue.toInt) (registers : Registers) :
    Ahead { program := p, registers } where
  forward := forward
  short := short
  steps_le := Nat.zero_le _
  pointer _ _ := Int.le_of_eq Int64.toInt_zero.symm

/-- A machine that stands at an instruction has made fewer steps than there are instructions. -/
lemma Ahead.steps_lt (ahead : m.Ahead) (fetches : m.Fetches i) : m.steps < m.program.size := by
  have behind := ahead.pointer i fetches
  have inside := Program.inside_of_fetch? fetches.fetch
  omega

/-- No step leads to more steps than there are instructions. -/
lemma Ahead.steps_le_of_step (ahead : m.Ahead) (step : m.Step policy e p m') :
    m'.steps ≤ m.program.size := by
  rcases step.steps_cases with same | ⟨⟨i, fetches⟩, counted⟩
  · rw [same]
    exact ahead.steps_le
  · rw [counted]
    exact ahead.steps_lt fetches

/-- Where the machine goes on, its pointer has grown. -/
lemma Step.pointer_lt (step : m.Step policy e .running m') (forward : m.program.Forward)
    (short : (m.program.size : Int) ≤ Int64.maxValue.toInt) (fetches' : m'.Fetches j) :
    m.ip.toInt < m'.ip.toInt := by
  have advances : ∀ {i}, m.Fetches i → m.ip.toInt < (m.ip + 1).toInt := by
    intro i fetches
    rw [Program.toInt_add_one short fetches.fetch]
    exact Int.lt_succ _
  cases step with
  | snd fetches => exact advances fetches
  | update fetches => exact advances fetches
  | store fetches => exact advances fetches
  | ignore fetches => exact advances fetches
  | @jgz x y fetches =>
    split at fetches'
    · next positive =>
      rw [if_pos positive]
      -- a jump out of the range of words leaves the program
      have target := Program.faithful_clampedTarget short m.ip (m.value y) _ fetches.fetch
      have exact : (m.tick.jump (m.value y)).ip.toInt = m.ip.toInt + (m.value y).toInt :=
        target.toInt_eq fetches'.fetch
      have distance : 1 ≤ (m.value y).toInt :=
        (forward _ (Program.mem_of_fetch? fetches.fetch)).distance_pos m.registers
      omega
    · next nonpositive =>
      rw [if_neg nonpositive]
      exact advances fetches

/-- A step that leaves the machine running leaves it ahead. -/
lemma Ahead.step (ahead : m.Ahead) (step : m.Step policy e .running m') : m'.Ahead where
  forward := by
    rw [step.program_eq]
    exact ahead.forward
  short := by
    rw [step.program_eq]
    exact ahead.short
  steps_le := by
    rw [step.program_eq]
    exact ahead.steps_le_of_step step
  pointer j fetches' := by
    obtain ⟨i, fetches⟩ := step.fetches_of_running
    have behind := ahead.pointer i fetches
    have grows := step.pointer_lt ahead.forward ahead.short fetches'
    have counted := step.steps_of_running
    omega

end Machine

namespace Solo

variable {σ : Type} {c : Channel σ} {s : Solo σ} {fuel : Nat}

/-- A machine that is ahead ends its run within as many steps as its program has instructions. -/
lemma execute_of_ahead (ahead : s.machine.Ahead)
    (enough : s.machine.program.size < s.machine.steps + fuel) :
    ∃ r t, s.execute c fuel = some (r, t) ∧ t.machine.steps ≤ s.machine.program.size := by
  -- the steps made and the bound on those to come add up to the same, after every step
  induction fuel generalizing s with
  | zero =>
    have le := ahead.steps_le
    omega
  | succ fuel ih =>
    have step := s.step_spec c
    have le := ahead.steps_le_of_step step
    rw [execute]
    cases made : s.step c with
    | mk progress t =>
      rw [made] at step le
      cases progress with
      | running =>
        have counted : t.machine.steps = s.machine.steps + 1 := step.steps_of_running
        rw [← step.program_eq]
        exact ih (ahead.step step) (by rw [step.program_eq, counted]; omega)
      | exited x => exact ⟨_, _, rfl, le⟩
      | failed f => exact ⟨_, _, rfl, le⟩

end Solo

end Tandem
