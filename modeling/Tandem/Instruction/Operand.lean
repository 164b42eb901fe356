import Tandem.Registers

/-!
# Operands

An operand is a literal word or the name of a register. In a program text a token is a literal if it
is a numeral, and otherwise it names a register.
-/

namespace Tandem

/-- What an instruction reads. -/
inductive Operand where
  | literal (value : Word)
  | register (x : Register)
  deriving DecidableEq

namespace Operand

/-- The operand that a token stands for. -/
def ofToken (token : List Char) : Operand :=
  match Numeral.parse? token with
  | some v => .literal v
  | none => .register ⟨String.ofList token⟩

/-- The word that an operand gives, in a register file. -/
def value (r : Registers) : Operand → Word
  | .literal v => v
  | .register x => r.get x

/-- The token of an operand: the shortest numeral of a literal, the name of a register. -/
def text : Operand → String
  | .literal v => Numeral.text v
  | .register x => x.name

end Operand

end Tandem
