import Tandem.Program
import Tandem.Text.Lines

/-!
# Assembly

Reading a program text. Every line holds one instruction or none: its first word is a mnemonic and
the words after it are operands. Lines are numbered from one, blank lines included. The first line
that cannot be read is the one that is told.
-/

namespace Tandem.Assembly

/-- Why a line cannot be read. -/
inductive Cause where
  /-- A numeral stands where a mnemonic is due. -/
  | unexpectedToken (token : String)
  /-- The words of the line make no instruction. -/
  | instruction (error : Instruction.Error)
  deriving DecidableEq

/-- The text of a cause. -/
def Cause.message : Cause → String
  | .unexpectedToken token => s!"unexpected token '{token}'"
  | .instruction error => error.message

/-- The first line that cannot be read, and why. -/
structure Error where
  line : Nat
  cause : Cause
  deriving DecidableEq

/-- The text of an error. -/
def Error.message (e : Error) : String :=
  s!"line {e.line}: {e.cause.message}"

/-- Read the words of a line: a mnemonic and its operands, or nothing at all. -/
def readWords : List (List Char) → Except Cause (Option Instruction)
  | [] => .ok none
  | first :: rest =>
    match Numeral.parse? first with
    | some v => .error (.unexpectedToken (Numeral.text v))
    | none =>
      match Opcode.ofMnemonic? (String.ofList first) with
      | none => .error (.instruction (.unknownOpcode (String.ofList first)))
      | some op =>
        match Instruction.make op (rest.map Operand.ofToken) with
        | .error e => .error (.instruction e)
        | .ok i => .ok (some i)

/-- Read the lines of a text, the first of which has the given number. -/
def readLines (number : Nat) : List (List Char) → Except Error (List Instruction)
  | [] => .ok []
  | line :: rest =>
    match readWords (Text.words line) with
    | .error cause => .error ⟨number, cause⟩
    | .ok none => readLines (number + 1) rest
    | .ok (some i) => (readLines (number + 1) rest).map (i :: ·)

end Tandem.Assembly

namespace Tandem

/-- The program that a text writes, or the first line that cannot be read. -/
def assemble (text : String) : Except Assembly.Error Program :=
  (Assembly.readLines 1 (Text.lines text.toList)).map fun is => ⟨is.toArray⟩

end Tandem
