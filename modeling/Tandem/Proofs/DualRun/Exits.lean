import Tandem.Channel.Mailbox
import Tandem.Proofs.DualRun.Accounts
import Tandem.Proofs.DualRun.Deadlock
import Tandem.Proofs.Machine.Justification

/-!
# Exits alone and side by side

A machine stops for a reason that its state bears out, on every channel with a fixed policy and also
on a link. What a machine on a side of a link puts on record is read off a schedule
(`scheduleRecord`); a move lets the machine make a step, or close its end, or it leaves the machine
alone (`kept_of_move`).
-/

namespace Tandem

namespace DualRun

variable {m m' : Monitor Performer} {i : Side} {first : Move} {moves : List Move}
  {P : List Machine.Moment → Machine → Prop} {moments : List Machine.Moment}

/-- What the machine on side `i` puts on record in a move. -/
def moveRecord (i : Side) (first : Move) (m : Monitor Performer) : List Machine.Moment :=
  ((m.record Performer.next first).eventsBy i).map fun e => ⟨(m.state i).machine, e⟩

/-- What the machine on side `i` puts on record in a schedule. -/
def scheduleRecord (i : Side) : List Move → Monitor Performer → List Machine.Moment
  | [], _ => []
  | first :: rest, m =>
    match m.move Performer.next first with
    | none => []
    | some m' => moveRecord i first m ++ scheduleRecord i rest m'

/-- What every step on a link keeps, and every closing, is kept by a move. -/
lemma kept_of_move (kept : Machine.Kept Link.policy P)
    (move : m.move Performer.next first = some m') (holds : P moments (m.state i).machine) :
    P (moments ++ moveRecord i first m) (m'.state i).machine := by
  obtain ⟨same, silent⟩ | ⟨e, record, stride⟩ := stride_of_move move i
  · rw [moveRecord, silent, same]
    simpa using holds
  · rw [moveRecord, record, History.eventsBy_single_self]
    obtain ⟨progress, step⟩ | ⟨same, rfl | rfl⟩ := stride.machine
    · exact kept.step step holds
    · rw [same]
      simpa using holds
    · rw [same]
      exact kept.close holds

/-- What every step on a link keeps, and every closing, holds of a machine on a side wherever a
schedule leads. -/
lemma kept_of_follow (kept : Machine.Kept Link.policy P)
    (follow : m.follow Performer.next moves = some m') (holds : P moments (m.state i).machine) :
    P (moments ++ scheduleRecord i moves m) (m'.state i).machine := by
  induction moves generalizing m moments with
  | nil =>
    cases follow
    simpa [scheduleRecord] using holds
  | cons first rest ih =>
    obtain ⟨m₁, move, follow⟩ := Option.bind_eq_some_iff.1 follow
    rw [scheduleRecord, move, ← List.append_assoc]
    exact ih follow (kept_of_move kept move holds)

/-- What holds of every machine that is about to run holds of both machines in a dual run. -/
lemma kept_of_start {programs : Both Program} {files : Both Registers}
    (kept : Machine.Kept Link.policy P) (begins : ∀ p registers, P [] { program := p, registers })
    (follow : (start (load programs files)).follow Performer.next moves = some m) (i : Side) :
    P (scheduleRecord i moves (start (load programs files))) (m.state i).machine := by
  have holds : P [] ((start (load programs files)).state i).machine := by
    cases i with
    | zero => exact begins programs.zero files.zero
    | one => exact begins programs.one files.one
  exact kept_of_follow kept follow holds

end DualRun

/-- The policy of a mailbox never changes. -/
lemma Mailbox.steady : Mailbox.channel.Steady where
  send _ _ := rfl
  receive box := by
    change (receive box).2.policy = box.policy
    unfold receive
    split
    · rfl
    · rfl
  close _ := rfl

open DualRun in
/-- A machine has stopped for the reason that its exit tells, whatever calls were made to it, on
every channel that never changes its policy. If it has halted, its pointer is outside the program.
If it has terminated, it stands at the `rcv` that was told last that nothing will come, with pointer
and registers as they were before. If it has recovered a value, the policy is to recover, it stands
at an `rcv` whose register is not zero, and the value was the last answer. A machine without an exit
never got an answer that lets it stop. Values sent are counted, and there are no more of them than
steps. So a machine with a player never terminates, and a machine that stores what it receives never
recovers anything; in particular no machine in a dual run does, on either side. -/
theorem exits_are_justified :
    (∀ {σ : Type} (c : Channel σ), c.Steady →
      ∀ (p : Program) (registers : Registers) (state : σ) (fuel : Nat) (made : List Solo.Call)
        (answers : List Machine.Answer) (t : Solo σ),
        (Solo.load p registers state).calls c fuel made = some (answers, t) →
        t.machine.program = p ∧
        t.machine.Justified (c.policy state) ((Solo.load p registers state).record c fuel made) ∧
        t.machine.Counted ((Solo.load p registers state).record c fuel made) ∧
        (c.policy state = .store → ∀ v, t.machine.exit ≠ some (.recovered v))) ∧
    (∀ (p : Program) (registers : Registers) (player : Player) (fuel : Nat) (made : List Solo.Call)
      (answers : List Machine.Answer) (t : Solo Player),
      (Solo.load p registers player).calls Player.channel fuel made = some (answers, t) →
        t.machine.exit ≠ some .terminated) ∧
    ∀ (programs : Both Program) (files : Both Registers) (moves : List Move)
      (m : Monitor Performer),
      (start (load programs files)).follow Performer.next moves = some m → ∀ i,
        (m.state i).machine.Justified .store
          (scheduleRecord i moves (start (load programs files))) ∧
        (m.state i).machine.Counted (scheduleRecord i moves (start (load programs files))) ∧
        ∀ v, (m.state i).machine.exit ≠ some (.recovered v) := by
  refine ⟨?_, ?_, ?_⟩
  · intro σ c steady p registers state fuel made answers t returns
    have program : t.machine.program = p :=
      Solo.calls_preserves (P := fun m => m.program = p)
        (fun step same => step.program_eq.trans same) returns rfl
    have justified := Solo.calls_keeps (Machine.kept_justified _) steady returns
      (Machine.justified_start _ p registers)
    have counted :=
      Solo.calls_keeps (Machine.kept_counted _) steady returns (Machine.counted_start p registers)
    refine ⟨program, justified, counted, fun store => ?_⟩
    have storing : t.machine.Justified .store _ := store ▸ justified
    exact storing.ne_recovered
  · intro p registers player fuel made answers t returns
    exact Solo.exit_ne_terminated_of_player returns
  · intro programs files moves m follow i
    have justified :=
      kept_of_start (Machine.kept_justified .store) (Machine.justified_start .store) follow i
    have counted := kept_of_start (Machine.kept_counted .store) Machine.counted_start follow i
    exact ⟨justified, counted, justified.ne_recovered⟩

open DualRun in
/-- A machine that recovers the second value of its mailbox, since its register was zero when the
first one came; a machine that stores both values; a machine that has played a value and recovers
it; and two machines that only receive and end together. -/
theorem exits_are_justified_recovered_deadlocked :
    (let s : Solo Mailbox :=
      Solo.load ⟨#[.snd (.literal 4), .rcv ⟨"a"⟩, .update .set ⟨"a"⟩ (.literal 1), .rcv ⟨"a"⟩]⟩
        .empty { inbox := [7, 8], policy := .recover }
    ∃ answers t, s.calls Mailbox.channel 4 [.step, .step, .execute, .step] = some (answers, t) ∧
      t.machine.exit = some (.recovered 8) ∧
      (∃ u, Machine.LastAnswer (s.record Mailbox.channel 4 [.step, .step, .execute, .step]) u
        (.value 8)) ∧
      t.machine.Counted (s.record Mailbox.channel 4 [.step, .step, .execute, .step])) ∧
    (∃ answers t,
      (Solo.load ⟨#[.rcv ⟨"a"⟩, .rcv ⟨"a"⟩]⟩ .empty ({ inbox := [7, 8] } : Mailbox)).calls
        Mailbox.channel 3 [.execute] = some (answers, t) ∧
      ∀ v, t.machine.exit ≠ some (.recovered v)) ∧
    (∃ answers t, (Solo.load ⟨#[.snd (.literal 4), .rcv ⟨"a"⟩]⟩ (Registers.empty.set ⟨"a"⟩ 1)
        ({} : Player)).calls Player.channel 3 [.step, .execute] = some (answers, t) ∧
      t.machine.exit ≠ some .terminated) ∧
    ∃ m, (start (load ⟨⟨#[.rcv ⟨"a"⟩]⟩, ⟨#[.rcv ⟨"b"⟩]⟩⟩ ⟨.empty, .empty⟩)).follow Performer.next
        ([.zero, .one, .zero, .zero, .zero, .one, .one].map .act) = some m ∧
      ∀ i, (m.state i).machine.exit = some .terminated ∧
        ∃ x, (m.state i).machine.program.fetch? (m.state i).machine.ip = some (.rcv x) := by
  obtain ⟨alone, played, together⟩ := exits_are_justified
  refine ⟨?_, ?_, ?_, ?_⟩
  · obtain ⟨-, justified, counted, -⟩ := alone Mailbox.channel Mailbox.steady
      ⟨#[.snd (.literal 4), .rcv ⟨"a"⟩, .update .set ⟨"a"⟩ (.literal 1), .rcv ⟨"a"⟩]⟩ .empty
      { inbox := [7, 8], policy := .recover } 4 [.step, .step, .execute, .step] _ _ rfl
    obtain ⟨-, x, u, -, -, last, -⟩ := justified.recovered 8 rfl
    exact ⟨_, _, rfl, rfl, ⟨u, last⟩, counted⟩
  · obtain ⟨-, -, -, stored⟩ :=
      alone Mailbox.channel Mailbox.steady ⟨#[.rcv ⟨"a"⟩, .rcv ⟨"a"⟩]⟩ .empty
        { inbox := [7, 8] } 3 [.execute] _ _ rfl
    exact ⟨_, _, rfl, stored rfl⟩
  · exact ⟨_, _, rfl, played ⟨#[.snd (.literal 4), .rcv ⟨"a"⟩]⟩ (Registers.empty.set ⟨"a"⟩ 1) {} 3
      [.step, .execute] _ _ rfl⟩
  · obtain ⟨m, follow, ended⟩ : ∃ m,
        (start (load ⟨⟨#[.rcv ⟨"a"⟩]⟩, ⟨#[.rcv ⟨"b"⟩]⟩⟩ ⟨.empty, .empty⟩)).follow
          Performer.next ([.zero, .one, .zero, .zero, .zero, .one, .one].map .act) = some m ∧
        ∀ i, (m.state i).machine.exit = some .terminated := by
      refine ⟨_, rfl, fun i => ?_⟩
      cases i with
      | zero => rfl
      | one => rfl
    refine ⟨m, follow, fun i => ?_⟩
    obtain ⟨x, u, fetch, -, -⟩ := (together _ _ _ m follow i).1.terminated (ended i)
    exact ⟨ended i, x, fetch⟩

end Tandem
