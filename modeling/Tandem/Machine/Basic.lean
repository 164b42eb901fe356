import Tandem.Program
import Tandem.Request

/-!
# The machine

A machine runs a program over its registers. Its instruction pointer is a word; as soon as the
pointer leaves the program the machine halts. `Machine.next` is the meaning of one step, for every
channel.

Sums and products wrap around, a jump stops at the ends of the range of words, and a remainder has
the sign of the dividend. A remainder by zero is the only fault.
-/

namespace Tandem

/-- Why a machine stopped. -/
inductive Exit where
  /-- The instruction pointer left the program. -/
  | halted
  /-- A receive found that no value will come. -/
  | terminated
  /-- A receive recovered a value. -/
  | recovered (value : Word)
  deriving DecidableEq, Repr

/-- What can go wrong in a step. -/
inductive Fault where
  /-- The instruction at this index asked for a remainder by zero. -/
  | moduloByZero (index : Nat)
  deriving DecidableEq, Repr

/-- The text of a fault. -/
def Fault.message : Fault → String
  | .moduloByZero index => s!"modulo by zero at instruction {index}"

/-- What a step came to. -/
inductive Progress where
  | running
  | exited (exit : Exit)
  | failed (fault : Fault)
  deriving DecidableEq, Repr

/-- The end of a run: why it stopped, how many values were sent, how many steps were made. -/
structure Outcome where
  exit : Exit
  sent : Nat
  steps : Nat
  deriving DecidableEq, Repr

/-- The word that an update writes, from the word in its register and that of its operand. There is
none for a remainder by zero. -/
def Update.apply? : Update → Word → Word → Option Word
  | .set, _, y => some y
  | .add, x, y => some (x + y)
  | .mul, x, y => some (x * y)
  | .mod, x, y => if y = 0 then none else some (x % y)

/-- A program, its registers, and how far it has come. The counts `sent` and `steps` are exact: they
stand for counters of 64 bits, and agree with them in every run of fewer than `2 ^ 64` steps. -/
structure Machine where
  program : Program
  registers : Registers
  ip : Word := 0
  sent : Nat := 0
  steps : Nat := 0
  exit : Option Exit := none
  deriving DecidableEq

namespace Machine

/-- The value of an operand. -/
def value (m : Machine) (x : Operand) : Word :=
  x.value m.registers

/-- Count a step. -/
def tick (m : Machine) : Machine :=
  { m with steps := m.steps + 1 }

/-- Go on to the next instruction. -/
def advance (m : Machine) : Machine :=
  { m with ip := m.ip + 1 }

/-- Go on at a distance from the current instruction. -/
def jump (m : Machine) (distance : Word) : Machine :=
  { m with ip := Int64.ofIntClamp (m.ip.toInt + distance.toInt) }

/-- Write a register. -/
def write (m : Machine) (x : Register) (v : Word) : Machine :=
  { m with registers := m.registers.set x v }

/-- Stop for good. -/
def stop (m : Machine) (e : Exit) : Progress × Machine :=
  (.exited e, { m with exit := some e })

/-- End a receive for register `x`. -/
def accept (m : Machine) (x : Register) (policy : Policy) : Received → Progress × Machine
  | .terminated => m.stop .terminated
  | .value v =>
    match policy with
    | .store => (.running, (m.write x v).advance)
    | .recover => if m.registers.get x = 0 then (.running, m.advance) else m.stop (.recovered v)

/-- Carry out an instruction. -/
def perform (m : Machine) : Instruction → Request (Progress × Machine)
  | .snd x => .send (m.value x) (.running, { m with sent := m.sent + 1 }.advance)
  | .update u x y =>
    match u.apply? (m.registers.get x) (m.value y) with
    | some v => .work (.running, (m.write x v).advance)
    | none => .work (.failed (.moduloByZero m.ip.toNatClampNeg), m)
  | .rcv x => .receive (m.accept x)
  | .jgz x y => .work (.running, if 0 < m.value x then m.jump (m.value y) else m.advance)

/-- The next step. A machine that has stopped stays as it is; one whose pointer is outside the
program halts, which is not counted as a step; any other counts a step and carries out an
instruction. -/
def next (m : Machine) : Request (Progress × Machine) :=
  match m.exit with
  | some e => .work (.exited e, m)
  | none =>
    match m.program.fetch? m.ip with
    | none => .work (m.stop .halted)
    | some i => m.tick.perform i

/-- The outcome of a run that stopped. -/
def outcome (m : Machine) (e : Exit) : Outcome :=
  ⟨e, m.sent, m.steps⟩

/-- What a machine may be asked for. -/
inductive Command where
  /-- At most so many steps, none after one that exits or fails. -/
  | steps (count : Nat)
  /-- Steps until one exits or fails, and then the channel closed. -/
  | execute
  /-- Nothing. -/
  | inspect
  deriving DecidableEq, Repr

/-- How a machine answers a command. -/
inductive Answer where
  /-- What the last step came to. -/
  | progress (progress : Progress)
  /-- How the run ended. -/
  | outcome (result : Except Fault Outcome)
  | nothing

end Machine

end Tandem
