/-!
# Opcodes

The seven opcodes of the machine, the number of operands each takes, and their mnemonics.
-/

namespace Tandem

/-- How an instruction changes the register it names. -/
inductive Update where
  | set
  | add
  | mul
  | mod
  deriving DecidableEq, Repr

/-- What an instruction does, apart from its operands. -/
inductive Opcode where
  | snd
  | update (u : Update)
  | rcv
  | jgz
  deriving DecidableEq, Repr

namespace Opcode

/-- All opcodes, in the order in which they are listed to a user. -/
def all : List Opcode :=
  [.snd, .update .set, .update .add, .update .mul, .update .mod, .rcv, .jgz]

/-- The word that stands for an opcode in a program text. -/
def mnemonic : Opcode → String
  | .snd => "snd"
  | .update .set => "set"
  | .update .add => "add"
  | .update .mul => "mul"
  | .update .mod => "mod"
  | .rcv => "rcv"
  | .jgz => "jgz"

/-- The number of operands that an opcode takes. -/
def arity : Opcode → Nat
  | .snd | .rcv => 1
  | .update _ | .jgz => 2

/-- The opcode with a given mnemonic. Upper and lower case differ. -/
def ofMnemonic? (token : String) : Option Opcode :=
  all.find? fun op => op.mnemonic == token

/-- No opcode is missing from the list. -/
theorem mem_all (op : Opcode) : op ∈ all := by
  cases op with
  | update u => cases u <;> decide
  | _ => decide

/-- An opcode is found by its own mnemonic. -/
@[simp] theorem ofMnemonic?_mnemonic (op : Opcode) : ofMnemonic? op.mnemonic = some op := by
  cases op with
  | update u => cases u <;> decide
  | _ => decide

/-- The opcode found by a token has that token as its mnemonic. -/
theorem mnemonic_of_ofMnemonic? {token : String} {op : Opcode} (h : ofMnemonic? token = some op) :
    op.mnemonic = token := by
  simpa using List.find?_some h

end Opcode

end Tandem
