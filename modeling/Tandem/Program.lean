import Tandem.Instruction.Basic

/-!
# Programs

A program is a sequence of instructions, numbered from zero. Its rendering is the canonical program
text: one instruction a line.
-/

namespace Tandem

/-- A sequence of instructions. -/
structure Program where
  instructions : Array Instruction
  deriving DecidableEq

namespace Program

/-- The number of instructions. -/
def size (p : Program) : Nat :=
  p.instructions.size

/-- Whether there are no instructions. -/
def isEmpty (p : Program) : Bool :=
  p.instructions.isEmpty

/-- The instruction at an index; nothing at a negative index or past the end. -/
def fetch? (p : Program) (index : Word) : Option Instruction :=
  if index < 0 then none else p.instructions[index.toNatClampNeg]?

/-- The canonical text of a program. -/
def render (p : Program) : String :=
  String.join (p.instructions.toList.map fun i => i.text ++ "\n")

end Program

end Tandem
