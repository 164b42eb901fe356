import Tandem.Channel.Mailbox
import Tandem.Proofs.Machine.Calls
import Tandem.Proofs.Machine.Ideal
import Tandem.Proofs.Program

/-!
# Registers that matter to a program

A machine reads and writes no registers but those that its program uses. Two machines that agree on
them (`Machine.AgreesOn`) ask their channels for the same, and still agree on them afterwards
(`Machine.AgreesOn.next`). So they cannot be told apart from outside, whatever is in the other
registers, and whether or not a register that holds zero was ever written.

A register that is no target of an instruction is never written, not even with the word that it
holds (`Machine.Step.find?_eq`).
-/

namespace Tandem

/-- Requests that agree let the same be seen. -/
lemma Request.Agrees.event?_eq {α β : Type} {R : α → β → Prop} {r : Request (Progress × α)}
    {r' : Request (Progress × β)} (agrees : r.Agrees R r') (received : Option Received) :
    r.event? received = r'.event? received := by
  cases agrees <;> rfl

namespace Machine

variable {p : Program} {m m' : Machine} {i : Instruction} {o : Operand} {x : Register}

/-- Two machines with the same program agree on the registers that it uses, and in everything else
but the other registers. -/
structure AgreesOn (p : Program) (m m' : Machine) : Prop where
  program : m.program = p
  program' : m'.program = p
  get : ∀ x, p.Uses x → m.registers.get x = m'.registers.get x
  ip : m.ip = m'.ip
  sent : m.sent = m'.sent
  steps : m.steps = m'.steps
  exit : m.exit = m'.exit

namespace AgreesOn

variable (agrees : m.AgreesOn p m')

include agrees

/-- Operands of the program have the same value on both machines. -/
lemma value (mem : i ∈ p.instructions.toList) (operand : o ∈ i.operands) :
    m.value o = m'.value o := by
  cases o with
  | literal v => rfl
  | register x => exact agrees.get x ⟨i, mem, operand⟩

/-- The machines count steps together. -/
lemma tick : m.tick.AgreesOn p m'.tick :=
  { agrees with steps := congrArg (· + 1) agrees.steps }

/-- The machines go on to the next instruction together. -/
lemma advance : m.advance.AgreesOn p m'.advance :=
  { agrees with ip := congrArg (· + 1) agrees.ip }

/-- The machines jump together. -/
lemma jump (distance : Word) : (m.jump distance).AgreesOn p (m'.jump distance) := by
  refine { agrees with ip := ?_ }
  simp only [Machine.jump, agrees.ip]

/-- The machines write any register together. -/
lemma write (x : Register) (v : Word) : (m.write x v).AgreesOn p (m'.write x v) := by
  refine { agrees with get := fun y used => ?_ }
  simp only [Machine.write, Registers.get_set]
  split
  · rfl
  · exact agrees.get y used

/-- The machines stop together. -/
lemma stop (e : Exit) : (m.stop e).2.AgreesOn p (m'.stop e).2 :=
  { agrees with exit := rfl }

/-- The machines take an answer of the channel in the same way, into a register that the program
uses. -/
lemma accept (used : p.Uses x) (policy : Policy) (received : Received) :
    (m.accept x policy received).1 = (m'.accept x policy received).1 ∧
      (m.accept x policy received).2.AgreesOn p (m'.accept x policy received).2 := by
  cases received with
  | terminated => exact ⟨rfl, agrees.stop _⟩
  | value v =>
    cases policy with
    | store => exact ⟨rfl, (agrees.write x v).advance⟩
    | recover =>
      simp only [Machine.accept, agrees.get x used]
      split
      · exact ⟨rfl, agrees.advance⟩
      · exact ⟨rfl, agrees.stop _⟩

/-- An instruction of the program asks for the same on both machines. -/
lemma perform (mem : i ∈ p.instructions.toList) :
    (m.perform i).Agrees (AgreesOn p) (m'.perform i) := by
  cases i with
  | snd y =>
    have value := agrees.value mem (o := y) (by simp [Instruction.operands])
    have counted : { m with sent := m.sent + 1 }.AgreesOn p { m' with sent := m'.sent + 1 } :=
      { agrees with sent := congrArg (· + 1) agrees.sent }
    rw [Machine.perform, Machine.perform, value]
    exact .send counted.advance
  | update u x y =>
    have target := agrees.get x ⟨_, mem, by simp [Instruction.operands]⟩
    have value := agrees.value mem (o := y) (by simp [Instruction.operands])
    rw [Machine.perform, Machine.perform, target, value, agrees.ip]
    cases u.apply? (m'.registers.get x) (m'.value y) with
    | some v => exact .work (agrees.write x v).advance
    | none => exact .work agrees
  | rcv x =>
    have used : p.Uses x := ⟨_, mem, by simp [Instruction.operands]⟩
    exact .receive (agrees.accept used)
  | jgz y z =>
    have condition := agrees.value mem (o := y) (by simp [Instruction.operands])
    have distance := agrees.value mem (o := z) (by simp [Instruction.operands])
    rw [Machine.perform, Machine.perform, condition, distance]
    refine .work ?_
    split
    · exact agrees.jump _
    · exact agrees.advance

/-- A step asks for the same, and the machines agree after it. -/
lemma next : m.next.Agrees (AgreesOn p) m'.next := by
  unfold Machine.next
  rw [agrees.exit, agrees.program, agrees.program', agrees.ip]
  cases m'.exit with
  | some e => exact .work agrees
  | none =>
    cases fetch : p.fetch? m'.ip with
    | none => exact .work (agrees.stop .halted)
    | some i => exact agrees.tick.perform (Program.mem_of_fetch? fetch)

end AgreesOn

/-- A step leaves a register that is not a target as it is. -/
lemma Step.find?_eq {policy : Policy} {e : Option Event} {q : Progress}
    (step : m.Step policy e q m') (unwritten : ¬m.program.Writes x) :
    m'.registers.find? x = m.registers.find? x := by
  have other : ∀ {i y}, m.Fetches i → i.target? = some y → x ≠ y := by
    rintro i y fetches target rfl
    exact unwritten ⟨i, Program.mem_of_fetch? fetches.fetch, target⟩
  cases step with
  | update fetches => simp [advance, Machine.write, tick, Registers.find?_set, other fetches rfl]
  | store fetches => simp [advance, Machine.write, tick, Registers.find?_set, other fetches rfl]
  | jgz =>
    split
    · rfl
    · rfl
  | _ => rfl

end Machine

namespace Solo

variable {σ : Type} {c : Channel σ} {s t : Solo σ} {p : Program}

/-- Two machines that agree, on the same channel. -/
structure Similar (p : Program) (s t : Solo σ) : Prop where
  machine : s.machine.AgreesOn p t.machine
  channel : s.channel = t.channel

/-- Two calls come to the same, and leave similar states. -/
def SameReply {α : Type} (p : Program) (r r' : α × Solo σ) : Prop :=
  r.1 = r'.1 ∧ r.2.Similar p r'.2

/-- Replies that come to the same still do so after a map. -/
lemma rel_map {α β : Type} (f : α → β) {a b : Option (α × Solo σ)}
    (replies : Option.Rel (SameReply p) a b) :
    Option.Rel (SameReply p) (a.map fun r => (f r.1, r.2)) (b.map fun r => (f r.1, r.2)) := by
  cases replies with
  | none => exact .none
  | some reply => exact .some ⟨congrArg f reply.1, reply.2⟩

namespace Similar

variable (similar : s.Similar p t) (c : Channel σ) (fuel : Nat)

include similar

/-- A step comes to the same on both, and leaves them similar. -/
lemma step : (s.step c).1 = (t.step c).1 ∧ (s.step c).2.Similar p (t.step c).2 := by
  have same := c.call_agrees (fun m m' agrees => Machine.AgreesOn.next agrees)
    (s := (s.machine, s.channel)) (t := (t.machine, t.channel)) ⟨similar.machine, similar.channel⟩
  exact ⟨same.1, same.2.1, same.2.2⟩

/-- Closing leaves both similar. -/
lemma close : (s.close c).Similar p (t.close c) :=
  ⟨similar.machine, congrArg c.close similar.channel⟩

/-- A step puts the same events on record on both. -/
lemma stepRecord : (s.stepRecord c).map (·.event) = (t.stepRecord c).map (·.event) := by
  have same : s.event? c = t.event? c := by
    rw [event?, event?, similar.channel]
    exact similar.machine.next.event?_eq _
  simp [Solo.stepRecord, same]

/-- A run comes to the same on both, and puts the same events on record. -/
lemma execute :
    Option.Rel (SameReply p) (s.execute c fuel) (t.execute c fuel) ∧
      (s.executeRecord c fuel).map (·.event) = (t.executeRecord c fuel).map (·.event) := by
  induction fuel generalizing s t with
  | zero => exact ⟨.none, rfl⟩
  | succ fuel ih =>
    have first := similar.stepRecord c
    obtain ⟨progress, after⟩ := similar.step c
    rw [Solo.execute, Solo.execute, executeRecord, executeRecord, List.map_append, List.map_append,
      first]
    cases left : s.step c with
    | mk q u =>
      cases right : t.step c with
      | mk q' v =>
        rw [left, right] at progress after
        obtain rfl : q = q' := progress
        have machines : u.machine.AgreesOn p v.machine := after.machine
        cases q with
        | running =>
          obtain ⟨reply, rest⟩ := ih after
          exact ⟨reply, congrArg _ rest⟩
        | exited x =>
          have outcome : u.machine.outcome x = v.machine.outcome x := by
            rw [Machine.outcome, Machine.outcome, machines.sent, machines.steps]
          exact ⟨.some ⟨congrArg Except.ok outcome, after.close c⟩, rfl⟩
        | failed f => exact ⟨.some ⟨rfl, after.close c⟩, rfl⟩

/-- A call comes to the same on both, and puts the same events on record. -/
lemma obey (call : Call) :
    Option.Rel (SameReply p) (s.obey c fuel call.command) (t.obey c fuel call.command) ∧
      (s.callRecord c fuel call).map (·.event) = (t.callRecord c fuel call).map (·.event) := by
  cases call with
  | step =>
    obtain ⟨progress, after⟩ := similar.step c
    rw [obey_step, obey_step, progress]
    exact ⟨.some ⟨rfl, after⟩, similar.stepRecord c⟩
  | execute =>
    obtain ⟨reply, same⟩ := similar.execute c fuel
    rw [obey_execute, obey_execute]
    exact ⟨rel_map Machine.Answer.outcome reply, same⟩

/-- Machines that agree answer all calls in the same way, do the same to their channels, and still
agree. -/
lemma calls (made : List Call) :
    Option.Rel (SameReply p) (s.calls c fuel made) (t.calls c fuel made) ∧
      (s.record c fuel made).map (·.event) = (t.record c fuel made).map (·.event) := by
  induction made generalizing s t with
  | nil => exact ⟨.some ⟨rfl, similar⟩, rfl⟩
  | cons first rest ih =>
    obtain ⟨reply, same⟩ := similar.obey c fuel first
    rw [Solo.calls, Solo.calls, record, record, List.map_append, List.map_append, same]
    generalize s.obey c fuel first.command = left at reply ⊢
    generalize t.obey c fuel first.command = right at reply ⊢
    cases reply with
    | none => exact ⟨.none, rfl⟩
    | @some r r' reply =>
      obtain ⟨answer, u⟩ := r
      obtain ⟨answer', v⟩ := r'
      obtain ⟨rfl, after⟩ : answer = answer' ∧ u.Similar p v := reply
      obtain ⟨replies, later⟩ := ih after
      exact ⟨rel_map (answer :: ·) replies, congrArg _ later⟩

end Similar

/-- What a machine does depends on nothing but the words in the registers that its program uses. If
two files of registers give the same words there, then a machine with the one and a machine with the
other answer the calls of any sequence in the same way, do the same to their channels, and agree in
everything but the other registers afterwards; or the same call does not return on both. A register
that is not a target of the program keeps its word, and is not listed after the calls if it was not
before. -/
theorem used_registers_determine_behaviour (p : Program) (registers registers' : Registers)
    (same : ∀ x, p.Uses x → registers.get x = registers'.get x) (c : Channel σ) (state : σ)
    (fuel : Nat) (made : List Call) :
    Option.Rel
      (fun (answers, t) (answers', t') =>
        answers = answers' ∧ t.channel = t'.channel ∧ t.machine.AgreesOn p t'.machine)
      ((load p registers state).calls c fuel made) ((load p registers' state).calls c fuel made) ∧
    ((load p registers state).record c fuel made).map (·.event) =
      ((load p registers' state).record c fuel made).map (·.event) ∧
    ∀ x, ¬p.Writes x → ∀ answers t, (load p registers state).calls c fuel made = some (answers, t) →
      t.machine.registers.get x = registers.get x ∧
      (x ∉ registers.toList.map Prod.fst → x ∉ t.machine.registers.toList.map Prod.fst) := by
  have similar : (load p registers state).Similar p (load p registers' state) :=
    ⟨⟨rfl, rfl, same, rfl, rfl, rfl, rfl⟩, rfl⟩
  obtain ⟨replies, events⟩ := similar.calls c fuel made
  refine ⟨?_, events, ?_⟩
  · generalize (load p registers state).calls c fuel made = left at replies ⊢
    generalize (load p registers' state).calls c fuel made = right at replies ⊢
    cases replies with
    | none => exact .none
    | some reply => exact .some ⟨reply.1, reply.2.channel, reply.2.machine⟩
  · intro x unwritten answers t returns
    have found : t.machine.registers.find? x = registers.find? x := by
      refine (calls_preserves
        (P := fun m => m.program = p ∧ m.registers.find? x = registers.find? x)
        ?_ returns ⟨rfl, rfl⟩).2
      rintro policy m e q m' step ⟨rfl, kept⟩
      exact ⟨step.program_eq, (step.find?_eq unwritten).trans kept⟩
    rw [Registers.get_eq_getD_find?, Registers.get_eq_getD_find?, Registers.mem_toList_iff,
      Registers.mem_toList_iff, found]
    exact ⟨rfl, id⟩

/-- In one file a register of the program was written with zero, and another one that the program
does not use; in the other file nothing was written. -/
theorem used_registers_determine_behaviour_written_zero :
    let p : Program := ⟨#[.update .add ⟨"a"⟩ (.literal 2), .snd (.register ⟨"a"⟩), .rcv ⟨"b"⟩]⟩
    let written : Registers := (Registers.empty.set ⟨"a"⟩ 0).set ⟨"z"⟩ 9
    ∃ answers t t',
      (load p written { inbox := [5] }).calls Mailbox.channel 9 [.step, .step, .execute, .step] =
        some (answers, t) ∧
      (load p .empty { inbox := [5] }).calls Mailbox.channel 9 [.step, .step, .execute, .step] =
        some (answers, t') ∧
      t.channel = t'.channel ∧ t.machine.AgreesOn p t'.machine ∧
      t'.machine.registers.get ⟨"b"⟩ = 5 ∧ t.machine.registers.get ⟨"z"⟩ = 9 ∧
      ⟨"y"⟩ ∉ t.machine.registers.toList.map Prod.fst := by
  have same : ∀ x,
      (⟨#[.update .add ⟨"a"⟩ (.literal 2), .snd (.register ⟨"a"⟩), .rcv ⟨"b"⟩]⟩ : Program).Uses x →
      ((Registers.empty.set ⟨"a"⟩ 0).set ⟨"z"⟩ 9).get x = Registers.empty.get x := by
    intro x used
    obtain rfl | rfl | rfl : x = ⟨"a"⟩ ∨ x = ⟨"a"⟩ ∨ x = ⟨"b"⟩ := by
      simpa [Program.Uses, Instruction.operands] using used
    · rfl
    · rfl
    · rfl
  obtain ⟨replies, -, kept⟩ :=
    used_registers_determine_behaviour _ _ _ same Mailbox.channel { inbox := [5] } 9
      [.step, .step, .execute, .step]
  cases replies with
  | some reply =>
    exact ⟨_, _, _, rfl, rfl, reply.2.1, reply.2.2, rfl, (kept ⟨"z"⟩ (by decide) _ _ rfl).1,
      (kept ⟨"y"⟩ (by decide) _ _ rfl).2 (by decide)⟩

end Solo

end Tandem
