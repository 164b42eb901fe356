import Tandem.Instruction.Opcode
import Tandem.Instruction.Operand

/-!
# Instructions

An instruction is an opcode with the operands it takes. The target of an update and of `rcv` is a
register; every other operand may be a literal. `Instruction.make` builds an instruction from an
opcode and any list of operands, and says what is wrong with a list that does not fit.
-/

namespace Tandem

/-- One instruction of the machine. -/
inductive Instruction where
  /-- Send the value of an operand. -/
  | snd (x : Operand)
  /-- Change a register by the value of an operand. -/
  | update (u : Update) (x : Register) (y : Operand)
  /-- Receive a value for a register. -/
  | rcv (x : Register)
  /-- Jump by the value of the second operand if that of the first is positive. -/
  | jgz (x y : Operand)
  deriving DecidableEq

namespace Instruction

/-- Why an instruction cannot be built. -/
inductive Error where
  /-- No opcode has this mnemonic. -/
  | unknownOpcode (token : String)
  /-- The opcode takes another number of operands. -/
  | arity (op : Opcode) (expected found : Nat)
  /-- The target is a literal. -/
  | literalTarget (op : Opcode) (value : Word)
  deriving DecidableEq

/-- The text of an error. -/
def Error.message : Error → String
  | .unknownOpcode token => s!"unknown opcode '{token}'"
  | .arity op expected found => s!"{op.mnemonic} expects {expected} operand(s), found {found}"
  | .literalTarget op value => s!"{op.mnemonic} cannot write to literal {Numeral.text value}"

/-- The instruction with a given opcode and operands. A wrong number of operands is told before a
literal target. -/
def make : Opcode → List Operand → Except Error Instruction
  | .snd, [x] => .ok (.snd x)
  | .update u, [.register x, y] => .ok (.update u x y)
  | .update u, [.literal v, _] => .error (.literalTarget (.update u) v)
  | .rcv, [.register x] => .ok (.rcv x)
  | .rcv, [.literal v] => .error (.literalTarget .rcv v)
  | .jgz, [x, y] => .ok (.jgz x y)
  | op, operands => .error (.arity op op.arity operands.length)

/-- The opcode of an instruction. -/
def opcode : Instruction → Opcode
  | .snd _ => .snd
  | .update u _ _ => .update u
  | .rcv _ => .rcv
  | .jgz _ _ => .jgz

/-- The operands of an instruction, targets included. -/
def operands : Instruction → List Operand
  | .snd x => [x]
  | .update _ x y => [.register x, y]
  | .rcv x => [.register x]
  | .jgz x y => [x, y]

/-- The text of an instruction: mnemonic and operands with one space between them. -/
def text (i : Instruction) : String :=
  " ".intercalate (i.opcode.mnemonic :: i.operands.map Operand.text)

end Instruction

end Tandem
