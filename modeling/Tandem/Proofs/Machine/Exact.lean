import Tandem.Channel.Mailbox
import Tandem.Proofs.Machine.Ideal
import Tandem.Proofs.Machine.Run
import Tandem.Proofs.Program

/-!
# Words as exact as integers

A machine over words and one over the integers ask their channel for the same as long as
`Ideal.Describes` relates them, which a step preserves (`Ideal.Describes.agrees`).

The pointers may part, but only at a jump out of the range of words, and then both are outside the
program. All that this needs to know of a jump is `Program.Faithful`: it holds if jumps stop at the
ends of the range, and also if they wrap around.
-/

namespace Tandem

/-- The integers that are words. -/
def Representable (k : Int) : Prop :=
  Int64.minValue.toInt ≤ k ∧ k ≤ Int64.maxValue.toInt

instance (k : Int) : Decidable (Representable k) :=
  inferInstanceAs (Decidable (_ ∧ _))

/-- The integers that are words are those of 64 bits with a sign. -/
lemma representable_iff {k : Int} :
    Representable k ↔ -9223372036854775808 ≤ k ∧ k ≤ 9223372036854775807 := by
  rw [Representable, Int64.toInt_minValue, Int64.toInt_maxValue]
  omega

namespace Machine

/-- Where a jump goes that stops at the ends of the range of words. -/
def clampedTarget (ip distance : Word) : Word :=
  Int64.ofIntClamp (ip.toInt + distance.toInt)

/-- Where a jump goes that wraps around. -/
def wrappedTarget (ip distance : Word) : Word :=
  ip + distance

end Machine

namespace Program

open Machine

variable {p : Program} {k : Int} {ip : Word} {i : Instruction}

/-- A word stands for an integer as a pointer into a program: it is that integer, unless no word is,
and then it is outside the program. -/
structure Locates (p : Program) (k : Int) (ip : Word) : Prop where
  exact : Representable k → ip.toInt = k
  outside : ¬Representable k → p.fetch? ip = none

/-- A rule that finds the target of every jump from an instruction. -/
def Faithful (p : Program) (jump : Word → Word → Word) : Prop :=
  ∀ ip distance i, p.fetch? ip = some i → p.Locates (ip.toInt + distance.toInt) (jump ip distance)

/-- An instruction is only fetched with the exact pointer. -/
lemma Locates.toInt_eq (locates : p.Locates k ip) (fetch : p.fetch? ip = some i) :
    ip.toInt = k := by
  by_cases representable : Representable k
  · exact locates.exact representable
  · rw [locates.outside representable] at fetch
    cases fetch

/-- From an instruction the next pointer is a word. -/
lemma toInt_add_one (short : (p.size : Int) ≤ Int64.maxValue.toInt) (fetch : p.fetch? ip = some i) :
    (ip + 1).toInt = ip.toInt + 1 := by
  have inside := inside_of_fetch? fetch
  rw [Int64.toInt_maxValue] at short
  rw [Int64.toInt_add, Int64.toInt_one]
  exact Int.bmod_eq_of_le_mul_two (by omega) (by omega)

/-- From an instruction of a program that is not too long the pointers go on together. -/
lemma Locates.advance (short : (p.size : Int) ≤ Int64.maxValue.toInt) (locates : p.Locates k ip)
    (fetch : p.fetch? ip = some i) : p.Locates (k + 1) (ip + 1) := by
  have same := toInt_add_one short fetch
  rw [locates.toInt_eq fetch] at same
  refine ⟨fun _ => same, fun beyond => ?_⟩
  have le := (ip + 1).le_toInt
  have lt := (ip + 1).toInt_lt
  rw [representable_iff] at beyond
  omega

/-- A jump that stops at the ends of the range of words stops outside the program, since it starts
inside. -/
lemma faithful_clampedTarget (short : (p.size : Int) ≤ Int64.maxValue.toInt) :
    p.Faithful clampedTarget := by
  intro ip distance i fetch
  have inside := inside_of_fetch? fetch
  refine ⟨fun representable => Int64.toInt_ofIntClamp representable.1 representable.2,
    fun beyond => ?_⟩
  -- The target cannot be below the least word, since the pointer is not negative.
  have above : ¬ip.toInt + distance.toInt ≤ Int64.maxValue.toInt := by
    have le := distance.le_toInt
    rw [representable_iff] at beyond
    rw [Int64.toInt_maxValue]
    omega
  have low : Int64.minValue.toInt ≤ ip.toInt + distance.toInt := by
    rw [Int64.toInt_minValue]
    rw [Int64.toInt_maxValue] at above
    omega
  have clamped : clampedTarget ip distance = Int64.maxValue := by
    unfold clampedTarget Int64.ofIntClamp
    rw [dif_pos low, dif_neg above]
  rw [fetch?_eq_none_iff, clamped]
  omega

/-- A jump that wraps around goes to a negative index, since it starts inside the program. -/
lemma faithful_wrappedTarget (p : Program) : p.Faithful wrappedTarget := by
  intro ip distance i fetch
  have inside := inside_of_fetch? fetch
  have le := distance.le_toInt
  have lt := distance.toInt_lt
  have lt' := ip.toInt_lt
  constructor
  · intro representable
    rw [representable_iff] at representable
    rw [wrappedTarget, Int64.toInt_add]
    exact Int.bmod_eq_of_le_mul_two (by omega) (by omega)
  · intro beyond
    rw [representable_iff] at beyond
    have wrapped : (ip.toInt + distance.toInt).bmod (2 ^ 64) =
        ip.toInt + distance.toInt - 2 ^ 64 := by
      rw [← Int.sub_bmod_right]
      exact Int.bmod_eq_of_le_mul_two (by omega) (by omega)
    rw [fetch?_eq_none_iff, wrappedTarget, Int64.toInt_add, wrapped]
    omega

end Program

namespace Machine

/-- The next step if jumps go by another rule. -/
def nextBy (jump : Word → Word → Word) (m : Machine) : Request (Progress × Machine) :=
  match m.exit, m.program.fetch? m.ip with
  | none, some (.jgz x y) =>
    .work (.running,
      if 0 < m.value x then { m.tick with ip := jump m.ip (m.value y) } else m.tick.advance)
  | _, _ => m.next

/-- The machine jumps by the rule that stops at the ends of the range. -/
lemma nextBy_clampedTarget (m : Machine) : m.nextBy clampedTarget = m.next := by
  unfold nextBy
  split
  · next x y running fetch =>
    rw [Fetches.next_eq ⟨running, fetch⟩]
    rfl
  · rfl

end Machine

namespace Ideal

/-- An integer machine describes a machine over words: it agrees with it in everything, and in the
pointer as far as that is a word. -/
structure Describes (p : Program) (s : Ideal) (m : Machine) : Prop where
  ideal : s.program = p
  machine : m.program = p
  registers : ∀ x, s.registers x = (m.registers.find? x).map Int64.toInt
  pointer : p.Locates s.pointer m.ip
  sent : s.sent = m.sent
  steps : s.steps = m.steps
  exit : s.exit = m.exit

namespace Describes

variable {p : Program} {s : Ideal} {m : Machine} {i : Instruction} {jump : Word → Word → Word}

section

variable (describes : s.Describes p m)

include describes

/-- Both machines hold the same in every register. -/
lemma get (x : Register) : s.get x = (m.registers.get x).toInt := by
  rw [Ideal.get, describes.registers, Registers.get_eq_getD_find?]
  cases m.registers.find? x with
  | none => rfl
  | some v => rfl

/-- Operands have the same value on both machines. -/
lemma value (x : Operand) : s.value x = (m.value x).toInt := by
  cases x with
  | literal v => rfl
  | register x => exact describes.get x

/-- The machines count steps together. -/
lemma tick : s.tick.Describes p m.tick :=
  { describes with steps := congrArg (· + 1) describes.steps }

/-- The machines stop together. -/
lemma stop (e : Exit) : (s.stop e).2.Describes p (m.stop e).2 :=
  { describes with exit := rfl }

/-- The machines write registers together. -/
lemma write (x : Register) (v : Word) :
    (s.write x v.toInt).Describes p (m.write x v) := by
  refine { describes with registers := fun y => ?_ }
  simp only [Ideal.write, Machine.write, Registers.find?_set]
  by_cases same : y = x
  · simp [same]
  · simp [same, describes.registers]

/-- An update writes the same on both machines, or is a fault on both. -/
lemma update? (u : Update) (x : Register) (y : Operand) :
    update? u (s.get x) (s.value y) =
      (Option.map Int64.toInt <| u.apply? (m.registers.get x) (m.value y)) := by
  rw [describes.get, describes.value]
  cases u with
  | set => rfl
  | add => simp [Ideal.update?, Update.apply?, Int64.toInt_add]
  | mul => simp [Ideal.update?, Update.apply?, Int64.toInt_mul]
  | mod =>
    have zero : (m.value y).toInt = 0 ↔ m.value y = 0 := Int64.toInt_inj (y := 0)
    simp only [Ideal.update?, Update.apply?, zero]
    split
    · rfl
    · simp [Int64.toInt_mod]

variable (short : (p.size : Int) ≤ Int64.maxValue.toInt)

include short

/-- Both fetch the same, also if their pointers differ. -/
lemma fetch? : s.fetch? = p.fetch? m.ip := by
  unfold Ideal.fetch?
  rw [describes.ideal]
  by_cases representable : Representable s.pointer
  · rw [← describes.pointer.exact representable, Program.fetch?, Int64.toNatClampNeg]
    simp only [Int64.lt_iff_toInt_lt, Int64.toInt_zero]
  · rw [describes.pointer.outside representable]
    rw [Representable, Int64.toInt_minValue] at representable
    split
    · rfl
    · rw [Array.getElem?_eq_none]
      rw [Program.size] at short
      omega

/-- The machines go on to the next instruction together. -/
lemma advance (fetch : p.fetch? m.ip = some i) : (s.move 1).Describes p m.advance :=
  { describes with pointer := describes.pointer.advance short fetch }

/-- The machines take an answer of the channel in the same way. -/
lemma accept (fetch : p.fetch? m.ip = some i) (x : Register) (policy : Policy)
    (received : Received) :
    (s.accept x policy received).1 = (m.accept x policy received).1 ∧
      (s.accept x policy received).2.Describes p (m.accept x policy received).2 := by
  cases received with
  | terminated => exact ⟨rfl, describes.stop _⟩
  | value v =>
    cases policy with
    | store => exact ⟨rfl, (describes.write x v).advance short fetch⟩
    | recover =>
      have zero : s.get x = 0 ↔ m.registers.get x = 0 := by
        rw [describes.get]
        exact Int64.toInt_inj (y := 0)
      simp only [Machine.accept, Ideal.accept, zero]
      split
      · exact ⟨rfl, describes.advance short fetch⟩
      · exact ⟨rfl, describes.stop _⟩

/-- An instruction other than a jump. -/
lemma perform (fetch : p.fetch? m.ip = some i) (straight : ∀ x y, i ≠ .jgz x y) :
    (s.perform i).Agrees (Describes p) (m.perform i) := by
  cases i with
  | snd x =>
    have counted : { s with sent := s.sent + 1 }.Describes p { m with sent := m.sent + 1 } :=
      { describes with sent := congrArg (· + 1) describes.sent }
    rw [Machine.perform, Ideal.perform, describes.value, Int64.ofInt_toInt]
    exact .send (counted.advance short fetch)
  | update u x y =>
    rw [Machine.perform, Ideal.perform, describes.update?]
    cases u.apply? (m.registers.get x) (m.value y) with
    | some v => exact .work ((describes.write x v).advance short fetch)
    | none =>
      have index : m.ip.toNatClampNeg = s.pointer.toNat := by
        rw [Int64.toNatClampNeg, describes.pointer.toInt_eq fetch]
      rw [index]
      exact .work describes
  | rcv x => exact .receive (describes.accept short fetch x)
  | jgz x y => exact absurd rfl (straight x y)

/-- The machines jump together, whatever faithful rule the one over words jumps by. -/
lemma jgz (faithful : p.Faithful jump) (fetch : p.fetch? m.ip = some i) (x y : Operand) :
    (s.move (if 0 < s.value x then s.value y else 1)).Describes p
      (if 0 < m.value x then { m with ip := jump m.ip (m.value y) } else m.advance) := by
  have positive : 0 < s.value x ↔ 0 < m.value x := by
    rw [describes.value, Int64.lt_iff_toInt_lt, Int64.toInt_zero]
  simp only [positive]
  split
  · have target := faithful m.ip (m.value y) i fetch
    rw [describes.pointer.toInt_eq fetch, ← describes.value] at target
    exact { describes with pointer := target }
  · exact describes.advance short fetch

/-- A step preserves the description, and asks the channel for the same. -/
lemma agrees (faithful : p.Faithful jump) :
    s.next.Agrees (Describes p) (m.nextBy jump) := by
  have fetched := describes.fetch? short
  unfold Machine.nextBy Machine.next Ideal.next
  rw [describes.exit, describes.machine, fetched]
  cases exit : m.exit with
  | some e => exact .work describes
  | none =>
    cases fetch : p.fetch? m.ip with
    | none => exact .work (describes.stop .halted)
    | some i =>
      cases i with
      | jgz x y => exact .work (describes.tick.jgz short faithful fetch x y)
      | snd x => exact describes.tick.perform short fetch (by simp)
      | update u x y => exact describes.tick.perform short fetch (by simp)
      | rcv x => exact describes.tick.perform short fetch (by simp)

end

/-- Two machines with one description differ in their pointers at most, and there only outside the
program. -/
lemma unique {m' : Machine} (describes : s.Describes p m) (describes' : s.Describes p m') :
    m' = { m with ip := m'.ip } ∧
      (m'.ip = m.ip ∨ p.fetch? m'.ip = none ∧ p.fetch? m.ip = none) := by
  constructor
  · have registers : m'.registers = m.registers := by
      apply Registers.ext_find?
      intro x
      apply Option.map_injective fun v w => Int64.toInt_inj.1
      rw [← describes.registers, ← describes'.registers]
    obtain ⟨program', registers', ip', sent', steps', exit'⟩ := m'
    simp only [Machine.mk.injEq, true_and]
    exact ⟨describes'.machine.trans describes.machine.symm, registers,
      describes'.sent.symm.trans describes.sent, describes'.steps.symm.trans describes.steps,
      describes'.exit.symm.trans describes.exit⟩
  · by_cases representable : Representable s.pointer
    · left
      apply Int64.toInt_inj.1
      rw [describes.pointer.exact representable, describes'.pointer.exact representable]
    · exact .inr ⟨describes'.pointer.outside representable, describes.pointer.outside representable⟩

end Describes

/-- Zero is a word. -/
lemma representable_zero : Representable 0 := by decide

/-- Both machines start alike. -/
lemma start_describes (p : Program) (registers : Registers) :
    (start p registers).Describes p { program := p, registers } where
  ideal := rfl
  machine := rfl
  registers _ := rfl
  pointer := ⟨fun _ => Int64.toInt_zero, fun beyond => absurd representable_zero beyond⟩
  sent := rfl
  steps := rfl
  exit := rfl

end Ideal

/-- On every channel, a machine over words and one over the integers make the same steps: each comes
to the same, and leaves the same registers, counts and exit, and the same channel, which has seen
all sends and receives. The pointers are equal as long as the exact one is a word. Going on to the
next instruction never overflows. Had jumps wrapped around, all would be the same, but for the
pointer of a machine that has left the program. -/
theorem Solo.follows_ideal (p : Program) (short : (p.size : Int) ≤ Int64.maxValue.toInt)
    (registers : Registers) {σ : Type} (c : Channel σ) (state : σ) (n : Nat) :
    let s := Solo.after c n ⟨{ program := p, registers }, state⟩
    let t := c.calls Ideal.next n (.start p registers, state)
    let w := c.calls (Machine.nextBy Machine.wrappedTarget) n ({ program := p, registers }, state)
    ((s.step c).1 = (c.call Ideal.next t).1 ∧ s.channel = t.2 ∧ t.1.Describes p s.machine) ∧
      (∀ i, s.machine.Fetches i → (s.machine.ip + 1).toInt = s.machine.ip.toInt + 1) ∧
      (c.call (Machine.nextBy Machine.wrappedTarget) w).1 = (s.step c).1 ∧ w.2 = s.channel ∧
      w.1 = { s.machine with ip := w.1.ip } ∧
      (w.1.ip = s.machine.ip ∨ p.fetch? w.1.ip = none ∧ p.fetch? s.machine.ip = none) := by
  intro s t w
  -- the integers describe both machines over words, each with its own rule for jumps
  have clamps : ∀ (u : Ideal) (m : Machine), u.Describes p m →
      u.next.Agrees (Ideal.Describes p) m.next := by
    intro u m describes
    rw [← Machine.nextBy_clampedTarget]
    exact describes.agrees short (Program.faithful_clampedTarget short)
  have wraps : ∀ (u : Ideal) (m : Machine), u.Describes p m →
      u.next.Agrees (Ideal.Describes p) (m.nextBy Machine.wrappedTarget) :=
    fun _ _ describes => describes.agrees short (Program.faithful_wrappedTarget p)
  have start := Ideal.start_describes p registers
  have clamped : t.1.Describes p s.machine ∧ t.2 = s.channel := by
    have runs := c.calls_agrees clamps (s := (_, state)) (t := (_, state)) ⟨start, rfl⟩ n
    rw [Solo.after_eq_calls c n ⟨_, state⟩] at runs
    exact runs
  have wrapped : t.1.Describes p w.1 ∧ t.2 = w.2 :=
    c.calls_agrees wraps (s := (_, state)) (t := (_, state)) ⟨start, rfl⟩ n
  have progress : (c.call Ideal.next t).1 = (s.step c).1 :=
    (c.call_agrees clamps (t := (s.machine, s.channel)) clamped).1
  have progress' := (c.call_agrees wraps wrapped).1
  refine ⟨⟨progress.symm, clamped.2.symm, clamped.1⟩, ?_, progress'.symm.trans progress,
    wrapped.2.symm.trans clamped.2, clamped.1.unique wrapped.1⟩
  intro i fetches
  have fetch := fetches.fetch
  rw [clamped.1.machine] at fetch
  exact Program.toInt_add_one short fetch

/-- The least word has the remainder zero by minus one, and the jump that follows goes beyond the
greatest word. It leaves the pointer at the greatest word, or close to the least one had it wrapped
around; the exact pointer is neither. The next step halts in all three cases. -/
theorem Solo.follows_ideal_overflow :
    let p : Program :=
      ⟨#[.update .set ⟨"a"⟩ (.literal Int64.minValue), .update .mod ⟨"a"⟩ (.literal (-1)),
        .update .set ⟨"b"⟩ (.literal Int64.maxValue), .jgz (.literal 1) (.register ⟨"b"⟩)]⟩
    let m : Machine := { program := p, registers := .empty }
    let s := Solo.after Mailbox.channel 4 ⟨m, { inbox := [] }⟩
    let t := Mailbox.channel.calls Ideal.next 4 (.start p .empty, { inbox := [] })
    let w := Mailbox.channel.calls (Machine.nextBy Machine.wrappedTarget) 4 (m, { inbox := [] })
    (p.size : Int) ≤ Int64.maxValue.toInt ∧
      t.1.pointer = Int64.maxValue.toInt + 3 ∧ s.machine.ip = Int64.maxValue ∧
      w.1.ip = Int64.minValue + 2 ∧ t.1.registers ⟨"a"⟩ = some 0 ∧ t.1.Describes p s.machine ∧
      w.1 = { s.machine with ip := w.1.ip } ∧
      (s.step Mailbox.channel).1 = .exited .halted ∧
      (s.step Mailbox.channel).1 = (Mailbox.channel.call Ideal.next t).1 := by
  obtain ⟨⟨progress, -, describes⟩, -, -, -, same, -⟩ :=
    Solo.follows_ideal
      ⟨#[.update .set ⟨"a"⟩ (.literal Int64.minValue), .update .mod ⟨"a"⟩ (.literal (-1)),
        .update .set ⟨"b"⟩ (.literal Int64.maxValue), .jgz (.literal 1) (.register ⟨"b"⟩)]⟩
      (by decide) .empty Mailbox.channel { inbox := [] } 4
  refine ⟨by decide, ?_, ?_, ?_, ?_, describes, same, ?_, progress⟩
  · decide
  · decide
  · decide
  · decide
  · decide

end Tandem
