import Mathlib.Logic.Function.Basic
import Tandem.Proofs.DualRun.Exits
import Tandem.Proofs.Machine.Forward

/-!
# Words that wrap around once

A sum or a product of words is reduced to the range of words at once, at every step. A machine over
the integers (`Unbounded`) that never reduces anything computes larger and larger integers. As long
as nothing but sums and products is computed, every word is what the integer in its place reduces to
(`Machine.Wraps`): it makes no difference whether values wrap around at each step or once at the
end. A remainder or the sign of a value cannot be told from its reduction, so remainders and jumps
are left out (`Program.Straight`).

Without jumps a program is carried out from the first instruction to the last, unless the machine is
told at an `rcv` that nothing will come. The pointer says how many instructions have been carried
out.
-/

namespace Tandem

/-- The word `v` is what the integer `k` is reduced to, modulo the number of words. -/
def Reduces (k : Int) (v : Word) : Prop :=
  v.toInt = k.bmod Int64.size

/-- The word that an integer reduces to is the image of the integer. -/
lemma reduces_iff {k : Int} {v : Word} : Reduces k v ↔ v = Int64.ofInt k := by
  rw [Reduces, ← Int64.toInt_ofInt, Int64.toInt_inj]

/-- The integer that a word stands for reduces to the word. -/
lemma reduces_toInt (v : Word) : Reduces v.toInt v :=
  reduces_iff.2 (Int64.ofInt_toInt v).symm

/-- The integer that an update writes if nothing is reduced. There is none for a remainder. -/
def Update.unreduced? : Update → Int → Int → Option Int
  | .set, _, y => some y
  | .add, x, y => some (x + y)
  | .mul, x, y => some (x * y)
  | .mod, _, _ => none

/-- Updates other than remainders commute with the reduction. -/
lemma Update.reduces_apply? {u : Update} (sums : u ≠ .mod) {k l : Int} {v w : Word}
    (left : Reduces k v) (right : Reduces l w) :
    ∃ n z, u.unreduced? k l = some n ∧ u.apply? v w = some z ∧ Reduces n z := by
  rw [reduces_iff] at left right
  cases u with
  | set => exact ⟨l, w, rfl, rfl, reduces_iff.2 right⟩
  | add => exact ⟨k + l, v + w, rfl, rfl, reduces_iff.2 (by rw [left, right, Int64.ofInt_add])⟩
  | mul => exact ⟨k * l, v * w, rfl, rfl, reduces_iff.2 (by rw [left, right, Int64.ofInt_mul])⟩
  | mod => exact absurd rfl sums

/-- The instruction computes no remainder and does not jump. -/
def Instruction.Straight : Instruction → Prop
  | .update u _ _ => u ≠ .mod
  | .jgz _ _ => False
  | .snd _ | .rcv _ => True

instance (i : Instruction) : Decidable i.Straight :=
  match i with
  | .update u _ _ => inferInstanceAs (Decidable (u ≠ .mod))
  | .jgz _ _ => inferInstanceAs (Decidable False)
  | .snd _ | .rcv _ => inferInstanceAs (Decidable True)

/-- No instruction of the program computes a remainder or jumps. -/
def Program.Straight (p : Program) : Prop :=
  ∀ i ∈ p.instructions.toList, i.Straight

instance (p : Program) : Decidable p.Straight :=
  inferInstanceAs (Decidable (∀ i ∈ p.instructions.toList, i.Straight))

/-- A program without jumps only goes forward. -/
lemma Program.Straight.forward {p : Program} (straight : p.Straight) : p.Forward := by
  intro i mem
  have plain := straight i mem
  cases i with
  | jgz => exact plain.elim
  | _ => trivial

/-- Registers that hold any integers, the integers still to be received, and those sent so far. -/
structure Unbounded where
  registers : Register → Int
  inbox : List Int
  sent : List Int := []

namespace Unbounded

/-- The registers of a file, and values to be received. -/
def start (file : Registers) (received : List Word) : Unbounded where
  registers x := (file.get x).toInt
  inbox := received.map Int64.toInt

/-- The value of an operand. -/
def value (s : Unbounded) : Operand → Int
  | .literal v => v.toInt
  | .register x => s.registers x

/-- Write a register. -/
def write (s : Unbounded) (x : Register) (k : Int) : Unbounded :=
  { s with registers := Function.update s.registers x k }

/-- Let more values be received. -/
def feed (s : Unbounded) (received : List Word) : Unbounded :=
  { s with inbox := s.inbox ++ received.map Int64.toInt }

/-- Carry out an instruction over the integers, if it is straight and a value to be received is
there. -/
def perform? (s : Unbounded) : Instruction → Option Unbounded
  | .snd x => some { s with sent := s.sent ++ [s.value x] }
  | .update u x y => (u.unreduced? (s.registers x) (s.value y)).map (s.write x)
  | .rcv x =>
    match s.inbox with
    | [] => none
    | k :: rest => some { s.write x k with inbox := rest }
  | .jgz _ _ => none

/-- Carry out instructions one after another. -/
def run? (s : Unbounded) (instructions : List Instruction) : Option Unbounded :=
  instructions.foldlM perform? s

variable {s s' : Unbounded} {i : Instruction} {instructions : List Instruction}

/-- More values leave the registers. -/
@[simp] lemma registers_feed (s : Unbounded) (more : List Word) :
    (s.feed more).registers = s.registers := rfl

/-- More values come behind those to be received. -/
@[simp] lemma inbox_feed (s : Unbounded) (more : List Word) :
    (s.feed more).inbox = s.inbox ++ more.map Int64.toInt := rfl

/-- More values leave the values of operands. -/
@[simp] lemma value_feed (s : Unbounded) (more : List Word) (x : Operand) :
    (s.feed more).value x = s.value x := by
  cases x <;> rfl

/-- A write leaves what was sent. -/
@[simp] lemma sent_write (s : Unbounded) (x : Register) (k : Int) :
    (s.write x k).sent = s.sent := rfl

/-- Values to be received can be given at the start in two parts. -/
lemma start_append (file : Registers) (received more : List Word) :
    start file (received ++ more) = (start file received).feed more := by
  simp [start, feed]

/-- No values more change nothing. -/
lemma feed_nil (s : Unbounded) : s.feed [] = s := by
  simp [feed]

/-- Values that come later make no difference to an instruction that is carried out already. -/
lemma perform?_feed (performs : s.perform? i = some s') (more : List Word) :
    (s.feed more).perform? i = some (s'.feed more) := by
  cases i with
  | snd x =>
    cases performs
    rw [perform?, value_feed]
    rfl
  | update u x y =>
    obtain ⟨k, writes, rfl⟩ := Option.map_eq_some_iff.1 performs
    rw [perform?, value_feed, registers_feed, writes]
    rfl
  | rcv x =>
    rw [perform?] at performs
    split at performs
    · cases performs
    · next k rest inbox =>
      cases performs
      rw [perform?, inbox_feed, inbox]
      rfl
  | jgz => cases performs

/-- Instructions that are carried out are carried out in the same way when there are more values. -/
lemma run?_feed (runs : s.run? instructions = some s') (more : List Word) :
    (s.feed more).run? instructions = some (s'.feed more) := by
  induction instructions generalizing s with
  | nil =>
    cases runs
    rfl
  | cons first rest ih =>
    obtain ⟨s₁, performs, runs⟩ := Option.bind_eq_some_iff.1 runs
    rw [run?, List.foldlM_cons, perform?_feed performs]
    exact ih runs

/-- One more instruction is carried out after the others. -/
lemma run?_concat {s₁ : Unbounded} (runs : s.run? instructions = some s₁)
    (performs : s₁.perform? i = some s') : s.run? (instructions ++ [i]) = some s' := by
  rw [run?] at runs ⊢
  simp [runs, performs]

/-- Every register holds what the integer in its place reduces to. -/
def Fits (s : Unbounded) (r : Registers) : Prop :=
  ∀ x, Reduces (s.registers x) (r.get x)

variable {r : Registers}

/-- The value of an operand is what the integer in its place reduces to. -/
lemma Fits.value (fits : s.Fits r) (x : Operand) : Reduces (s.value x) (x.value r) := by
  cases x with
  | literal v => exact reduces_toInt v
  | register x => exact fits x

/-- Registers fit after a write of a word and an integer that reduces to it. -/
lemma Fits.write (fits : s.Fits r) (x : Register) {k : Int} {v : Word} (reduces : Reduces k v) :
    (s.write x k).Fits (r.set x v) := by
  intro y
  rw [Registers.get_set]
  by_cases same : y = x
  · simpa [Unbounded.write, same] using reduces
  · simpa [Unbounded.write, same] using fits y

end Unbounded

namespace Machine

variable {m m' : Machine} {e : Option Event} {p : Progress} {i : Instruction} {file : Registers}
  {received sent : List Word} {n : Nat} {s s' : Unbounded}

/-- The machine began with a register file, has received and sent values and has carried out the
first `n` instructions of its program. Over the integers these instructions use up the values
received and come to `s`, and what the machine holds and has sent is what the integers in `s` reduce
to. A step in which it was told that nothing will come is counted as well, though the `rcv` is not
carried out. -/
structure Wraps (file : Registers) (received sent : List Word) (m : Machine) (n : Nat)
    (s : Unbounded) : Prop where
  steps : m.steps = n + if m.exit = some .terminated then 1 else 0
  le_size : n ≤ m.program.size
  pointer : m.program.Locates n m.ip
  run : (Unbounded.start file received).run? (m.program.instructions.toList.take n) = some s
  inbox : s.inbox = []
  registers : s.Fits m.registers
  sent : List.Forall₂ Reduces s.sent sent

/-- A machine that was not told that nothing will come has made a step for each instruction carried
out. -/
lemma Wraps.steps_eq (wraps : m.Wraps file received sent n s)
    (carried : m.exit ≠ some .terminated) : m.steps = n := by
  rw [wraps.steps, if_neg carried]
  rfl

/-- A machine about to run has carried out nothing. -/
lemma wraps_start (p : Program) (file : Registers) :
    Wraps file [] [] { program := p, registers := file } 0 (.start file []) where
  steps := rfl
  le_size := Nat.zero_le _
  pointer := ⟨fun _ => Int64.toInt_zero, fun beyond => absurd (by decide) beyond⟩
  run := rfl
  inbox := rfl
  registers x := reduces_toInt _
  sent := .nil

/-- The machine stands at the instruction after those that it has carried out. -/
lemma Wraps.getElem?_of_fetches (wraps : m.Wraps file received sent n s) (fetches : m.Fetches i) :
    m.program.instructions.toList[n]? = some i := by
  have index :=
    (Program.toNatClampNeg_eq_iff fetches.fetch).2 (wraps.pointer.toInt_eq fetches.fetch)
  have fetch := fetches.fetch
  unfold Program.fetch? at fetch
  split at fetch
  · cases fetch
  · rwa [index, ← Array.getElem?_toList] at fetch

/-- One more instruction is carried out, by the machine and over the integers. -/
lemma Wraps.carry (wraps : m.Wraps file received sent n s) (fetches : m.Fetches i) {r : Registers}
    {count : Nat} (received' : List Word) {sent' : List Word}
    (performs : (s.feed received').perform? i = some s') (inbox : s'.inbox = [])
    (registers : s'.Fits r) (sends : List.Forall₂ Reduces s'.sent (sent ++ sent')) :
    Wraps file (received ++ received') (sent ++ sent')
      { m with registers := r, sent := count, ip := m.ip + 1, steps := m.steps + 1 }
      (n + 1) s' where
  steps := by
    show m.steps + 1 = n + 1 + if m.exit = some .terminated then 1 else 0
    rw [fetches.running, wraps.steps_eq (by simp [fetches.running])]
    rfl
  le_size := by
    obtain ⟨lt, -⟩ := List.getElem?_eq_some_iff.1 (wraps.getElem?_of_fetches fetches)
    exact lt
  pointer := by
    -- behind the greatest word the pointer wraps around, but nothing is fetched there
    have next := Program.faithful_wrappedTarget m.program m.ip 1 i fetches.fetch
    rwa [wraps.pointer.toInt_eq fetches.fetch] at next
  run := by
    show Unbounded.run? _ (m.program.instructions.toList.take (n + 1)) = _
    rw [List.take_add_one, wraps.getElem?_of_fetches fetches, Unbounded.start_append]
    exact Unbounded.run?_concat (Unbounded.run?_feed wraps.run received') performs
  inbox := inbox
  registers := registers
  sent := sends

/-- No step of a program without remainders fails. -/
lemma Step.ne_failed (straight : m.program.Straight) {policy : Policy}
    (step : m.Step policy e p m') (f : Fault) : p ≠ .failed f := by
  cases step with
  | fault fetches apply =>
    obtain ⟨rfl, -⟩ := Update.eq_none_iff.1 apply
    exact absurd rfl (straight _ (Program.mem_of_fetch? fetches.fetch))
  | _ => simp

/-- A step of a straight program keeps words and integers together. -/
lemma Wraps.step (straight : m.program.Straight) (wraps : m.Wraps file received sent n s)
    (step : m.Step .store e p m') :
    ∃ n' s', m'.Wraps file (received ++ Event.receivedIn e.toList)
      (sent ++ Event.sentIn e.toList) n' s' := by
  have plain : ∀ {i}, m.Fetches i → i.Straight :=
    fun fetches => straight _ (Program.mem_of_fetch? fetches.fetch)
  have sound := step.ne_failed straight
  have counted : m.exit = none → m.steps = n := fun running => wraps.steps_eq (by simp [running])
  cases step with
  | stopped => exact ⟨n, s, by simpa using wraps⟩
  | halt running =>
    refine ⟨n, s, ?_⟩
    simp only [Option.toList, Event.receivedIn_nil, Event.sentIn_nil, List.append_nil]
    exact { wraps with steps := counted running }
  | @snd x fetches =>
    refine ⟨n + 1, { s with sent := s.sent ++ [s.value x] },
      wraps.carry fetches [] ?_ wraps.inbox ?_ ?_⟩
    · rw [Unbounded.feed_nil, Unbounded.perform?]
    · exact wraps.registers
    · exact List.rel_append wraps.sent (.cons (wraps.registers.value x) .nil)
  | @update u x y v fetches apply =>
    obtain ⟨k, z, writes, apply', reduces⟩ :=
      Update.reduces_apply? (plain fetches) (wraps.registers x) (wraps.registers.value y)
    cases apply.symm.trans apply'
    refine ⟨n + 1, s.write x k, wraps.carry fetches [] ?_ wraps.inbox ?_ ?_⟩
    · rw [Unbounded.feed_nil, Unbounded.perform?, writes]
      rfl
    · exact wraps.registers.write x reduces
    · simpa using wraps.sent
  | fault => exact absurd rfl (sound _)
  | @store x v fetches =>
    refine ⟨n + 1, { s.write x v.toInt with inbox := [] }, wraps.carry fetches [v] ?_ rfl ?_ ?_⟩
    · rw [Unbounded.perform?, Unbounded.inbox_feed, wraps.inbox]
      rfl
    · exact wraps.registers.write x (reduces_toInt v)
    · simpa using wraps.sent
  | ignore _ recover => cases recover
  | recover _ recover => cases recover
  | terminate fetches =>
    refine ⟨n, s, ?_⟩
    -- the step is counted, but the `rcv` at which it was made is not carried out
    simp only [Option.toList, Event.receivedIn_terminated, Event.sentIn_received, List.append_nil]
    exact { wraps with steps := congrArg (· + 1) (counted fetches.running) }
  | jgz fetches => exact (plain fetches).elim

/-- What a machine that began with a file has carried out so far can be told from what it has put on
record. -/
lemma kept_wraps {q : Program} (straight : q.Straight) (file : Registers) :
    Kept .store fun moments m => m.program = q ∧
      ∃ n s, m.Wraps file (Event.receivedIn (moments.map (·.event)))
        (Event.sentIn (moments.map (·.event))) n s where
  step := by
    rintro moments m e p m' step ⟨rfl, n, s, wraps⟩
    obtain ⟨n', s', wraps'⟩ := wraps.step straight step
    refine ⟨step.program_eq, n', s', ?_⟩
    simpa [Function.comp_def] using wraps'
  close := by
    rintro moments m ⟨rfl, n, s, wraps⟩
    exact ⟨rfl, n, s, by simpa using wraps⟩

/-- A machine that has halted has carried out its program. -/
lemma Wraps.eq_size (wraps : m.Wraps file received sent n s)
    (short : (m.program.size : Int) ≤ Int64.maxValue.toInt)
    (outside : ¬(0 ≤ m.ip.toInt ∧ m.ip.toInt < m.program.size)) : n = m.program.size := by
  have le := wraps.le_size
  have exact : m.ip.toInt = n := wraps.pointer.exact (by
    rw [representable_iff]
    rw [Int64.toInt_maxValue] at short
    omega)
  omega

end Machine

section Solo

variable {σ : Type} {c : Channel σ} {p : Program} {file : Registers} {state : σ}
  (straight : p.Straight) (steady : c.Steady) (store : c.policy state = .store)

include straight steady store

/-- Words and integers are together after all calls, on a channel with the policy to store. -/
lemma Solo.wraps_of_calls {fuel : Nat} {made : List Call} {answers : List Machine.Answer}
    {t : Solo σ} (returns : (load p file state).calls c fuel made = some (answers, t)) :
    t.machine.program = p ∧
      ∃ n s, t.machine.Wraps file
        (Event.receivedIn (((load p file state).record c fuel made).map (·.event)))
        (Event.sentIn (((load p file state).record c fuel made).map (·.event))) n s := by
  have kept := Machine.kept_wraps straight file
  rw [← store] at kept
  exact calls_keeps (s := load p file state) kept steady returns
    ⟨rfl, 0, _, Machine.wraps_start p file⟩

/-- A run without remainders and jumps returns without a fault: the program is carried out, or the
machine is told that nothing will come. -/
lemma Solo.execute_of_straight (short : (p.size : Int) ≤ Int64.maxValue.toInt) :
    ∃ outcome t, (load p file state).execute c (p.size + 1) = some (.ok outcome, t) ∧
      (outcome.exit = .halted ∧ outcome.steps = p.size ∨ outcome.exit = .terminated) := by
  have ahead := Machine.ahead_start straight.forward short file
  obtain ⟨r, t, returns, -⟩ : ∃ r t, (load p file state).execute c (p.size + 1) = some (r, t) ∧
      t.machine.steps ≤ p.size :=
    execute_of_ahead ahead (by show p.size < 0 + (p.size + 1); omega)
  -- a run is a single call, so it keeps what calls keep
  have called : (load p file state).calls c (p.size + 1) [.execute] = some ([.outcome r], t) := by
    rw [calls_cons (by rw [obey_execute, returns, Option.map_some])]
    rfl
  obtain ⟨program, n, s, wraps⟩ := wraps_of_calls straight steady store called
  have justified : t.machine.Justified .store _ :=
    store ▸ calls_keeps (Machine.kept_justified _) steady called (Machine.justified_start _ p file)
  obtain ⟨u, -, ends⟩ := ends_of_execute returns
  have step := u.step_spec c
  cases ends with
  | @failed f t last =>
    rw [last] at step
    have same : u.machine.program = p := step.program_eq.symm.trans program
    exact absurd rfl (step.ne_failed (same ▸ straight) f)
  | @exited x t last =>
    rw [last] at step
    have exit : t.machine.exit = some x := step.exit_of_exited
    refine ⟨_, _, returns, ?_⟩
    cases x with
    | halted =>
      have carried : n = t.machine.program.size :=
        wraps.eq_size (program ▸ short) (justified.halted exit)
      have steps : t.machine.steps = n :=
        wraps.steps_eq fun terminated => by cases exit.symm.trans terminated
      rw [← program]
      exact .inl ⟨rfl, steps.trans carried⟩
    | terminated => exact .inr rfl
    | recovered v => exact absurd exit (justified.ne_recovered v)

end Solo

open DualRun in
/-- Wrapping around at every step comes to the same as wrapping around once at the end. A program of
`set`, `add`, `mul`, `snd` and `rcv` that starts with any registers, on any channel whose policy is
always to store, has at any time carried out its first instructions, and holds and has sent the
words to which the integers reduce that the same instructions compute, from the same registers and
values received, without any reduction. The same is true on either side of a link, whatever program
runs on the other side. Nothing keeps such a program from being carried out: a run returns without a
fault, after all of its instructions unless a receive is told that nothing will come. -/
theorem straight_programs_wrap_once (p : Program) (straight : p.Straight) :
    (∀ {σ : Type} (c : Channel σ), c.Steady →
      ∀ (file : Registers) (state : σ), c.policy state = .store →
      (∀ (fuel : Nat) (made : List Solo.Call) (answers : List Machine.Answer) (t : Solo σ),
        (Solo.load p file state).calls c fuel made = some (answers, t) →
          t.machine.program = p ∧
          ∃ n s, t.machine.Wraps file
            (Event.receivedIn (((Solo.load p file state).record c fuel made).map (·.event)))
            (Event.sentIn (((Solo.load p file state).record c fuel made).map (·.event))) n s) ∧
      ((p.size : Int) ≤ Int64.maxValue.toInt →
        ∃ outcome t, (Solo.load p file state).execute c (p.size + 1) = some (.ok outcome, t) ∧
          (outcome.exit = .halted ∧ outcome.steps = p.size ∨ outcome.exit = .terminated))) ∧
    ∀ (programs : Both Program) (files : Both Registers) (moves : List Move)
      (m : Monitor Performer),
      (start (load programs files)).follow Performer.next moves = some m → ∀ i, programs.get i = p →
        (m.state i).machine.program = p ∧
        ∃ n s, (m.state i).machine.Wraps (files.get i)
          (Event.receivedIn ((scheduleRecord i moves (start (load programs files))).map (·.event)))
          (Event.sentIn ((scheduleRecord i moves (start (load programs files))).map (·.event)))
          n s := by
  refine ⟨fun c steady file state store => ⟨fun fuel made answers t returns => ?_, fun short => ?_⟩,
    fun programs files moves m follow i loaded => ?_⟩
  · exact Solo.wraps_of_calls straight steady store returns
  · exact Solo.execute_of_straight straight steady store short
  · rw [← List.nil_append (scheduleRecord i moves (start (load programs files)))]
    refine kept_of_follow (Machine.kept_wraps straight (files.get i)) follow ?_
    subst loaded
    cases i with
    | zero => exact ⟨rfl, 0, _, Machine.wraps_start programs.zero files.zero⟩
    | one => exact ⟨rfl, 0, _, Machine.wraps_start programs.one files.one⟩

open DualRun in
/-- A product of three factors, far out of the range of words, that reduces to a small word: on a
mailbox, and on a side of a link whose other side sends the last factor. When nothing comes, the
machine terminates. -/
theorem straight_programs_wrap_once_products :
    let p : Program :=
      ⟨#[.update .add ⟨"a"⟩ (.literal (-1)), .update .mul ⟨"a"⟩ (.register ⟨"a"⟩), .rcv ⟨"b"⟩,
        .update .mul ⟨"b"⟩ (.register ⟨"a"⟩), .snd (.register ⟨"b"⟩)]⟩
    let file := Registers.empty.set ⟨"a"⟩ Int64.minValue
    p.Straight ∧
    (∃ answers t,
      (Solo.load p file ({ inbox := [3] } : Mailbox)).calls Mailbox.channel 6 [.step, .execute] =
        some (answers, t) ∧
      ∃ s, t.machine.Wraps file [3] [3] 5 s ∧
        s.sent = [9223372036854775809 * 9223372036854775809 * 3]) ∧
    (∃ outcome t,
      (Solo.load p file ({ inbox := [] } : Mailbox)).execute Mailbox.channel 6 =
        some (.ok outcome, t) ∧
      (outcome.exit = .halted ∧ outcome.steps = 5 ∨ outcome.exit = .terminated)) ∧
    ∃ m, (start (load ⟨p, ⟨#[.snd (.literal 3)]⟩⟩ ⟨file, .empty⟩)).follow Performer.next
        ((.one :: .replicate 5 .zero : List Side).map .act) = some m ∧
      ∃ n s, (m.state .zero).machine.Wraps file [3] [3] n s := by
  intro p file
  have straight : p.Straight := by decide
  obtain ⟨alone, together⟩ := straight_programs_wrap_once p straight
  obtain ⟨-, runs⟩ := alone Mailbox.channel Mailbox.steady file { inbox := [] } rfl
  refine ⟨straight, ?_, runs (by decide), ?_⟩
  · have ends :
        ((Solo.load p file ({ inbox := [3] } : Mailbox)).calls Mailbox.channel 6
          [.step, .execute]).map (fun (_, t) => (t.machine.steps, t.machine.exit)) =
          some (5, some .halted) := by decide +kernel
    obtain ⟨⟨answers, t⟩, returns, ended⟩ := Option.map_eq_some_iff.1 ends
    obtain ⟨steps, exit⟩ := Prod.mk.inj ended
    obtain ⟨called, -⟩ := alone Mailbox.channel Mailbox.steady file { inbox := [3] } rfl
    obtain ⟨program, n, s, wraps⟩ := called 6 [.step, .execute] answers t returns
    obtain rfl : 5 = n := steps.symm.trans (wraps.steps_eq (by simp [exit]))
    have record :
        Event.receivedIn (((Solo.load p file ({ inbox := [3] } : Mailbox)).record Mailbox.channel 6
          [.step, .execute]).map (·.event)) = [3] ∧
        Event.sentIn (((Solo.load p file ({ inbox := [3] } : Mailbox)).record Mailbox.channel 6
          [.step, .execute]).map (·.event)) = [3] := by decide +kernel
    rw [record.1, record.2] at wraps
    have computed : ((Unbounded.start file [3]).run? (p.instructions.toList.take 5)).map (·.sent) =
        some [9223372036854775809 * 9223372036854775809 * 3] := by decide +kernel
    rw [← program, wraps.run] at computed
    exact ⟨answers, t, returns, s, wraps, Option.some.inj computed⟩
  · have follows : ((start (load ⟨p, ⟨#[.snd (.literal 3)]⟩⟩ ⟨file, .empty⟩)).follow Performer.next
        ((.one :: .replicate 5 .zero : List Side).map .act)).isSome = true := by decide +kernel
    obtain ⟨m, follow⟩ := Option.isSome_iff_exists.1 follows
    obtain ⟨-, n, s, wraps⟩ := together _ _ _ m follow .zero rfl
    have record :
        Event.receivedIn ((scheduleRecord .zero ((.one :: .replicate 5 .zero : List Side).map .act)
          (start (load ⟨p, ⟨#[.snd (.literal 3)]⟩⟩ ⟨file, .empty⟩))).map (·.event)) = [3] ∧
        Event.sentIn ((scheduleRecord .zero ((.one :: .replicate 5 .zero : List Side).map .act)
          (start (load ⟨p, ⟨#[.snd (.literal 3)]⟩⟩ ⟨file, .empty⟩))).map (·.event)) = [3] := by
      decide +kernel
    rw [record.1, record.2] at wraps
    exact ⟨m, follow, n, s, wraps⟩

end Tandem
