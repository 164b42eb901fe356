import Mathlib.Logic.Function.Basic
import Mathlib.Tactic.Lemma
import Tandem.Machine.Solo
import Tandem.Proofs.Registers

/-!
# The machine over the integers

`Ideal` is a machine whose pointer has no bounds. Its sums and products are exact and then reduced
to the range of words, and its remainders are those of the truncated division. Like the machine over
words it says what it asks of a channel, and goes on when that is served.

Two kinds of machines that agree in what they ask for (`Request.Agrees`) cannot be told apart by a
channel: what one step of each preserves, a run of any length preserves (`Channel.calls_agrees`).
-/

namespace Tandem

variable {α β σ : Type}

/-- Two requests ask for the same, what follows comes to the same, and the states that follow are
related. -/
inductive Request.Agrees (R : α → β → Prop) :
    Request (Progress × α) → Request (Progress × β) → Prop where
  | work {progress a b} :
    R a b →
    Agrees R (.work (progress, a)) (.work (progress, b))
  | send {v progress a b} :
    R a b →
    Agrees R (.send v (progress, a)) (.send v (progress, b))
  | receive {f g} :
    (∀ policy received, (f policy received).1 = (g policy received).1 ∧
      R (f policy received).2 (g policy received).2) →
    Agrees R (.receive f) (.receive g)
  | close {progress a b} :
    R a b →
    Agrees R (.close (progress, a)) (.close (progress, b))

namespace Channel

variable (c : Channel σ)

/-- A channel does the same with requests that agree. -/
lemma serve_agrees {R : α → β → Prop} {r : Request (Progress × α)} {r' : Request (Progress × β)}
    (agrees : r.Agrees R r') (s : σ) :
    (c.serve s r).1.1 = (c.serve s r').1.1 ∧ R (c.serve s r).1.2 (c.serve s r').1.2 ∧
      (c.serve s r).2 = (c.serve s r').2 := by
  cases agrees with
  | work related => exact ⟨rfl, related, rfl⟩
  | send related => exact ⟨rfl, related, rfl⟩
  | receive related => exact ⟨(related _ _).1, (related _ _).2, rfl⟩
  | close related => exact ⟨rfl, related, rfl⟩

/-- Serve one step of whoever steps by `next`. -/
def call (next : α → Request (Progress × α)) (s : α × σ) : Progress × α × σ :=
  let ((progress, after), channel) := c.serve s.2 (next s.1)
  (progress, after, channel)

/-- Serve `n` steps, whatever they come to. -/
def calls (next : α → Request (Progress × α)) : Nat → α × σ → α × σ
  | 0, s => s
  | n + 1, s => calls next n (c.call next s).2

section Agreement

variable {next : α → Request (Progress × α)} {next' : β → Request (Progress × β)} {R : α → β → Prop}
  (agrees : ∀ a b, R a b → (next a).Agrees R (next' b)) {s : α × σ} {t : β × σ}

include agrees

/-- One step of each kind comes to the same, and leaves the states related and the channels
equal. -/
lemma call_agrees (related : R s.1 t.1 ∧ s.2 = t.2) :
    (c.call next s).1 = (c.call next' t).1 ∧
      R (c.call next s).2.1 (c.call next' t).2.1 ∧ (c.call next s).2.2 = (c.call next' t).2.2 := by
  obtain ⟨related, channel⟩ := related
  unfold call
  rw [channel]
  exact c.serve_agrees (agrees s.1 t.1 related) t.2

/-- What one step preserves, a run preserves, on every channel. -/
lemma calls_agrees (related : R s.1 t.1 ∧ s.2 = t.2) (n : Nat) :
    R (c.calls next n s).1 (c.calls next' n t).1 ∧
      (c.calls next n s).2 = (c.calls next' n t).2 := by
  induction n generalizing s t with
  | zero => exact related
  | succ n ih =>
    obtain ⟨-, related'⟩ := c.call_agrees agrees related
    exact ih related'

end Agreement

end Channel

/-- The machine and its channel after `n` steps, whatever they come to. -/
def Solo.after (c : Channel σ) : Nat → Solo σ → Solo σ
  | 0, s => s
  | n + 1, s => after c n (s.step c).2

/-- The steps of a machine alone are steps that its channel serves. -/
lemma Solo.after_eq_calls (c : Channel σ) (n : Nat) (s : Solo σ) :
    c.calls Machine.next n (s.machine, s.channel) =
      ((s.after c n).machine, (s.after c n).channel) := by
  induction n generalizing s with
  | zero => rfl
  | succ n ih => exact ih (s.step c).2

/-- A machine over the integers. A register that was never written is told from one that was written
with zero. -/
structure Ideal where
  program : Program
  registers : Register → Option Int
  pointer : Int := 0
  sent : Nat := 0
  steps : Nat := 0
  exit : Option Exit := none

namespace Ideal

/-- A program about to start with given registers. -/
def start (p : Program) (registers : Registers) : Ideal where
  program := p
  registers x := (registers.find? x).map Int64.toInt

/-- The integer in a register, which is zero if it was never written. -/
def get (s : Ideal) (x : Register) : Int :=
  (s.registers x).getD 0

/-- The value of an operand. -/
def value (s : Ideal) : Operand → Int
  | .literal v => v.toInt
  | .register x => s.get x

/-- The integer that an update writes. A sum or a product is reduced to the range of words, modulo
the number of words; a remainder has the sign of the dividend. -/
def update? : Update → Int → Int → Option Int
  | .set, _, y => some y
  | .add, x, y => some ((x + y).bmod Int64.size)
  | .mul, x, y => some ((x * y).bmod Int64.size)
  | .mod, x, y => if y = 0 then none else some (x.tmod y)

/-- The instruction under the pointer. -/
def fetch? (s : Ideal) : Option Instruction :=
  if s.pointer < 0 then none else s.program.instructions[s.pointer.toNat]?

/-- Count a step. -/
def tick (s : Ideal) : Ideal :=
  { s with steps := s.steps + 1 }

/-- Move the pointer by a distance. -/
def move (s : Ideal) (distance : Int) : Ideal :=
  { s with pointer := s.pointer + distance }

/-- Write a register. -/
def write (s : Ideal) (x : Register) (k : Int) : Ideal :=
  { s with registers := Function.update s.registers x (some k) }

/-- Stop for a reason. -/
def stop (s : Ideal) (e : Exit) : Progress × Ideal :=
  (.exited e, { s with exit := some e })

/-- Take the answer to a receive, as the policy of the channel says. -/
def accept (s : Ideal) (x : Register) (policy : Policy) : Received → Progress × Ideal
  | .terminated => s.stop .terminated
  | .value v =>
    match policy with
    | .store => (.running, (s.write x v.toInt).move 1)
    | .recover => if s.get x = 0 then (.running, s.move 1) else s.stop (.recovered v)

/-- What an instruction asks for, and what comes of it. -/
def perform (s : Ideal) : Instruction → Request (Progress × Ideal)
  | .snd x => .send (Int64.ofInt (s.value x)) (.running, { s with sent := s.sent + 1 }.move 1)
  | .update u x y =>
    match update? u (s.get x) (s.value y) with
    | some k => .work (.running, (s.write x k).move 1)
    | none => .work (.failed (.moduloByZero s.pointer.toNat), s)
  | .rcv x => .receive (s.accept x)
  | .jgz x y => .work (.running, s.move (if 0 < s.value x then s.value y else 1))

/-- The next step, for every channel. -/
def next (s : Ideal) : Request (Progress × Ideal) :=
  match s.exit with
  | some e => .work (.exited e, s)
  | none =>
    match s.fetch? with
    | none => .work (s.stop .halted)
    | some i => s.tick.perform i

end Ideal

end Tandem
