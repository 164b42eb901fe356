import Mathlib.Tactic.Lemma
import Tandem.Program

/-!
# Where a program has instructions

An instruction is fetched at the indices from zero up to the size of the program, and nowhere else.
A program uses the registers that its instructions have as operands, targets included, and writes
only those that are targets.
-/

namespace Tandem

/-- The register that an instruction may write. -/
def Instruction.target? : Instruction → Option Register
  | .update _ x _ | .rcv x => some x
  | .snd _ | .jgz _ _ => none

namespace Program

variable {p : Program} {index : Word} {i : Instruction}

/-- There is no instruction exactly at the indices outside the program. -/
lemma fetch?_eq_none_iff : p.fetch? index = none ↔ ¬(0 ≤ index.toInt ∧ index.toInt < p.size) := by
  unfold fetch? size
  split
  · next negative =>
    have lt : index.toInt < 0 := Int64.lt_iff_toInt_lt.1 negative
    simp
    omega
  · next nonnegative =>
    have le : ¬index.toInt < 0 := fun lt => nonnegative (Int64.lt_iff_toInt_lt.2 lt)
    rw [Array.getElem?_eq_none_iff, Int64.toNatClampNeg]
    omega

/-- An instruction is fetched at an index inside the program. -/
lemma inside_of_fetch? (fetch : p.fetch? index = some i) :
    0 ≤ index.toInt ∧ index.toInt < p.size := by
  refine Decidable.byContradiction fun outside => ?_
  rw [fetch?_eq_none_iff.2 outside] at fetch
  cases fetch

/-- The index of an instruction that is fetched is the integer that the pointer stands for. -/
lemma toNatClampNeg_eq_iff {ip : Word} {index : Nat} (fetch : p.fetch? ip = some i) :
    ip.toNatClampNeg = index ↔ ip.toInt = index := by
  have inside := inside_of_fetch? fetch
  rw [Int64.toNatClampNeg]
  omega

/-- An instruction that is fetched is one of the program. -/
lemma mem_of_fetch? (fetch : p.fetch? index = some i) : i ∈ p.instructions.toList := by
  unfold fetch? at fetch
  split at fetch
  · cases fetch
  · exact Array.mem_toList_iff.2 (Array.mem_of_getElem? fetch)

/-- An instruction of the program has the register as an operand. -/
def Uses (p : Program) (x : Register) : Prop :=
  ∃ i ∈ p.instructions.toList, .register x ∈ i.operands

instance (p : Program) (x : Register) : Decidable (p.Uses x) :=
  inferInstanceAs (Decidable (∃ i ∈ p.instructions.toList, _))

/-- An instruction of the program has the register as its target. -/
def Writes (p : Program) (x : Register) : Prop :=
  ∃ i ∈ p.instructions.toList, i.target? = some x

instance (p : Program) (x : Register) : Decidable (p.Writes x) :=
  inferInstanceAs (Decidable (∃ i ∈ p.instructions.toList, _))

end Program

end Tandem
