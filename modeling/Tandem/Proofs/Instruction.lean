import Mathlib.Data.List.Basic
import Tandem.Instruction.Basic

/-!
# Building instructions and taking them apart

An instruction is known by its opcode and its operands: `Instruction.make` succeeds exactly on the
opcode and the operands of an instruction, and gives that instruction (`make_eq_ok_iff`). What is
wrong with any other operands is said by `Misfit`: there is a wrong number of them, or else a
literal stands for the target.

The operands may as well be counted first and then taken one by one (`makeCounted`). As they have
been counted, there is always one left to take, and it does not matter what would be done otherwise
(`makeCounted_eq_make`).
-/

namespace Tandem

/-- Whether the first operand of an opcode is a register that it writes. -/
def Opcode.hasTarget : Opcode → Bool
  | .update _ | .rcv => true
  | .snd | .jgz => false

namespace Instruction

variable {op : Opcode} {operands : List Operand} {i : Instruction} {e : Error}

/-- What is wrong with the operands of an opcode. -/
inductive Misfit (op : Opcode) (operands : List Operand) : Error → Prop where
  | arity :
    operands.length ≠ op.arity →
    Misfit op operands (.arity op op.arity operands.length)
  | literalTarget {v rest} :
    operands = .literal v :: rest →
    operands.length = op.arity →
    op.hasTarget = true →
    Misfit op operands (.literalTarget op v)

/-- Operands in the number that an opcode takes. -/
inductive Counted : Opcode → List Operand → Prop where
  | snd {x} : Counted .snd [x]
  | update {u x y} : Counted (.update u) [x, y]
  | rcv {x} : Counted .rcv [x]
  | jgz {x y} : Counted .jgz [x, y]

/-- Operands in the right number have one of four shapes. -/
lemma counted_of_length (length : operands.length = op.arity) : Counted op operands := by
  cases op with
  | snd =>
    obtain ⟨x, rfl⟩ := List.length_eq_one_iff.1 length
    exact .snd
  | update u =>
    obtain ⟨x, y, rfl⟩ := List.length_eq_two.1 length
    exact .update
  | rcv =>
    obtain ⟨x, rfl⟩ := List.length_eq_one_iff.1 length
    exact .rcv
  | jgz =>
    obtain ⟨x, y, rfl⟩ := List.length_eq_two.1 length
    exact .jgz

/-- An instruction is built again from its opcode and its operands. -/
@[simp] lemma make_opcode_operands (i : Instruction) : make i.opcode i.operands = .ok i := by
  cases i <;> rfl

/-- Building gives an instruction with just this opcode and these operands, or says what is wrong
with them. -/
lemma make_cases (op : Opcode) (operands : List Operand) :
    (∃ i, make op operands = .ok i ∧ i.opcode = op ∧ i.operands = operands) ∨
      ∃ e, make op operands = .error e ∧ Misfit op operands e := by
  fun_cases make op operands with
  | case1 x => exact .inl ⟨_, rfl, rfl, rfl⟩
  | case2 u x y => exact .inl ⟨_, rfl, rfl, rfl⟩
  | case3 u v y => exact .inr ⟨_, rfl, .literalTarget rfl rfl rfl⟩
  | case4 x => exact .inl ⟨_, rfl, rfl, rfl⟩
  | case5 v => exact .inr ⟨_, rfl, .literalTarget rfl rfl rfl⟩
  | case6 x y => exact .inl ⟨_, rfl, rfl, rfl⟩
  | case7 op operands snd update literal rcv literal' jgz =>
    refine .inr ⟨_, rfl, .arity fun length => ?_⟩
    -- operands in the right number are covered by the cases above
    cases counted_of_length length with
    | @snd x => exact snd x rfl rfl
    | @update u x y =>
      cases x with
      | literal v => exact literal u v y rfl rfl
      | register x => exact update u x y rfl rfl
    | @rcv x =>
      cases x with
      | literal v => exact literal' v rfl rfl
      | register x => exact rcv x rfl rfl
    | @jgz x y => exact jgz x y rfl rfl

/-- Operands are built into the instruction that they are taken from. -/
lemma make_eq_ok_iff : make op operands = .ok i ↔ i.opcode = op ∧ i.operands = operands := by
  constructor
  · intro h
    obtain ⟨j, made, parts⟩ | ⟨e, failed, -⟩ := make_cases op operands
    · cases h.symm.trans made
      exact parts
    · cases h.symm.trans failed
  · rintro ⟨rfl, rfl⟩
    exact make_opcode_operands i

/-- Only one thing is wrong with operands. -/
lemma Misfit.unique {e' : Error} (misfit : Misfit op operands e) (misfit' : Misfit op operands e') :
    e = e' := by
  cases misfit with
  | arity wrong =>
    cases misfit' with
    | arity => rfl
    | literalTarget _ right => exact absurd right wrong
  | literalTarget first right =>
    cases misfit' with
    | arity wrong => exact absurd right wrong
    | literalTarget first' =>
      cases first.symm.trans first'
      rfl

/-- An instruction has as many operands as its opcode takes. -/
lemma length_operands (i : Instruction) : i.operands.length = i.opcode.arity := by
  cases i <;> rfl

/-- Operands fit if there are as many as the opcode takes, the first of them a register if it is to
be written. -/
def Fits (op : Opcode) (operands : List Operand) : Prop :=
  operands.length = op.arity ∧ (op.hasTarget = true → ∃ x, operands.head? = some (.register x))

/-- An instruction has as many operands as its opcode takes, and its target is a register. -/
lemma fits (i : Instruction) : Fits i.opcode i.operands := by
  refine ⟨i.length_operands, fun target => ?_⟩
  cases i with
  | snd => cases target
  | update u x y => exact ⟨x, rfl⟩
  | rcv x => exact ⟨x, rfl⟩
  | jgz => cases target

/-- Operands with which something is wrong do not fit. -/
lemma Misfit.not_fits (misfit : Misfit op operands e) : ¬Fits op operands := by
  rintro ⟨right, register⟩
  cases misfit with
  | arity wrong => exact wrong right
  | literalTarget first _ target =>
    obtain ⟨x, head⟩ := register target
    rw [first] at head
    cases head

/-- Nothing is wrong with the operands of an instruction. -/
lemma not_misfit (i : Instruction) : ¬Misfit i.opcode i.operands e :=
  fun misfit => misfit.not_fits i.fits

/-- Building fails exactly with what is wrong. -/
lemma make_eq_error_iff : make op operands = .error e ↔ Misfit op operands e := by
  obtain ⟨i, made, rfl, rfl⟩ | ⟨e', failed, misfit⟩ := make_cases op operands
  · rw [made]
    exact iff_of_false nofun i.not_misfit
  · rw [failed]
    constructor
    · intro h
      cases h
      exact misfit
    · intro misfit'
      rw [misfit.unique misfit']

/-- There is a wrong number of operands, or else a literal stands for the target. -/
lemma misfit_iff :
    Misfit op operands e ↔
      (operands.length ≠ op.arity ∧ e = .arity op op.arity operands.length) ∨
        (operands.length = op.arity ∧ op.hasTarget = true ∧
          ∃ v, operands.head? = some (.literal v) ∧ e = .literalTarget op v) := by
  constructor
  · intro misfit
    cases misfit with
    | arity wrong => exact .inl ⟨wrong, rfl⟩
    | literalTarget first right target => exact .inr ⟨right, target, _, by rw [first]; rfl, rfl⟩
  · rintro (⟨wrong, rfl⟩ | ⟨right, target, v, head, rfl⟩)
    · exact .arity wrong
    · obtain ⟨rest, first⟩ := List.head?_eq_some_iff.1 head
      exact .literalTarget first right target

/-- Building succeeds exactly on operands that fit. -/
lemma exists_make_eq_ok_iff : (∃ i, make op operands = .ok i) ↔ Fits op operands := by
  obtain ⟨i, made, rfl, rfl⟩ | ⟨e, failed, misfit⟩ := make_cases op operands
  · exact iff_of_true ⟨i, made⟩ i.fits
  · rw [failed]
    exact iff_of_false nofun misfit.not_fits

/-! ### Operands taken one by one -/

/-- Take the next operand. If there is none left, `dry` is what comes of it. -/
def takeOperand (dry : Except Error Operand) : StateT (List Operand) (Except Error) Operand
  | [] => dry.map fun o => (o, [])
  | o :: rest => .ok (o, rest)

/-- The register that an opcode is to write. -/
def toTarget (op : Opcode) : Operand → Except Error Register
  | .register x => .ok x
  | .literal v => .error (.literalTarget op v)

/-- The instruction with a given opcode, of the operands that are taken in their order. -/
def takeAll (dry : Except Error Operand) : Opcode → StateT (List Operand) (Except Error) Instruction
  | .snd => do
    let x ← takeOperand dry
    return .snd x
  | .update u => do
    let x ← toTarget (.update u) (← takeOperand dry)
    let y ← takeOperand dry
    return .update u x y
  | .rcv => do
    let x ← toTarget .rcv (← takeOperand dry)
    return .rcv x
  | .jgz => do
    let x ← takeOperand dry
    let y ← takeOperand dry
    return .jgz x y

/-- The instruction with a given opcode and operands, which are counted before they are taken. -/
def makeCounted (dry : Except Error Operand) (op : Opcode) (operands : List Operand) :
    Except Error Instruction :=
  if operands.length ≠ op.arity then
    .error (.arity op op.arity operands.length)
  else
    (takeAll dry op).run' operands

/-- Operands that have been counted do not run out. -/
lemma makeCounted_eq_make (dry : Except Error Operand) (op : Opcode) (operands : List Operand) :
    makeCounted dry op operands = make op operands := by
  by_cases length : operands.length = op.arity
  · rw [makeCounted, if_neg (not_not.2 length)]
    cases counted_of_length length with
    | snd => rfl
    | @update u x y => cases x <;> rfl
    | @rcv x => cases x <;> rfl
    | jgz => rfl
  · rw [makeCounted, if_pos length, make_eq_error_iff.2 (.arity length)]

/-- Building an instruction and taking it apart are inverse to each other. Building succeeds exactly
if the operands are as many as the opcode takes and its target, if it has one, is a register; opcode
and operands of the result are then the given ones. It fails with the wrong number of operands,
whatever they are, and otherwise with the literal that stands for the target. Operands are never
missing when they are taken one by one, so that it comes to the same, whatever would be done about a
missing one. -/
theorem make_inverts_parts :
    (∀ op operands,
      ((∃ i, make op operands = .ok i) ↔
        operands.length = op.arity ∧
          (op.hasTarget = true → ∃ x, operands.head? = some (.register x))) ∧
      (∀ i, make op operands = .ok i ↔ i.opcode = op ∧ i.operands = operands) ∧
      (∀ e, make op operands = .error e ↔
        (operands.length ≠ op.arity ∧ e = .arity op op.arity operands.length) ∨
          (operands.length = op.arity ∧ op.hasTarget = true ∧
            ∃ v, operands.head? = some (.literal v) ∧ e = .literalTarget op v)) ∧
      ∀ dry, makeCounted dry op operands = make op operands) ∧
    ∀ i : Instruction, make i.opcode i.operands = .ok i := by
  refine ⟨fun op operands =>
    ⟨exists_make_eq_ok_iff, fun i => make_eq_ok_iff, fun e => ?_, fun dry => ?_⟩,
    make_opcode_operands⟩
  · rw [make_eq_error_iff, misfit_iff]
  · exact makeCounted_eq_make dry op operands

end Instruction

end Tandem
