import Tandem.Proofs.DualRun.Determinism
import Tandem.Proofs.DualRun.Symmetry
import Tandem.Proofs.Machine.Forward
import Tandem.Proofs.Monitor.Descent

/-!
# Dual runs that always end

Machines whose programs only go forward run down: every request that such a machine makes on a link
brings it nearer to the end of its program, or to that of its run (`Performer.ranked`). So in a dual
run the turns of every schedule are bounded, and a schedule that cannot go on has come to rest. A
dual run at rest is complete, hence both runs have returned then.
-/

namespace Tandem

namespace Performer

/-- A performer on the run of program `p`, which only goes forward. -/
inductive OnCourse (p : Program) : Performer → Prop where
  | executing {m} :
    m.program = p →
    m.Ahead →
    OnCourse p ⟨m, .executing⟩
  | leaving {m a} :
    m.program = p →
    m.steps ≤ p.size →
    OnCourse p ⟨m, .leaving a⟩
  | done {m a} :
    m.program = p →
    m.steps ≤ p.size →
    OnCourse p ⟨m, .done a⟩

/-- A bound on the requests that a performer on course can still make. -/
def left (q : Performer) : Nat :=
  match q.task with
  | .executing => q.machine.program.size - q.machine.steps + 2
  | .leaving _ => 1
  | .stepping _ _ | .done _ => 0

variable {p : Program} {q q' : Performer} {e : Option Event}

/-- A performer on course makes no more steps than its program has instructions. -/
lemma OnCourse.steps_le (course : q.OnCourse p) : q.machine.steps ≤ p.size := by
  cases course with
  | executing program ahead =>
    rw [← program]
    exact ahead.steps_le
  | leaving _ le => exact le
  | done _ le => exact le

/-- Every stride keeps a performer on course and brings it nearer to its end. -/
lemma OnCourse.stride (course : q.OnCourse p) (stride : q.Stride e q') :
    q'.OnCourse p ∧ q'.left < q.left := by
  cases course with
  | @executing m program ahead =>
    have leaves : ∀ {progress m'} (a : Machine.Answer), m.Step Link.policy e progress m' →
        OnCourse p ⟨m', .leaving a⟩ ∧ left ⟨m', .leaving a⟩ < left ⟨m, .executing⟩ := by
      intro progress m' a step
      refine ⟨.leaving (step.program_eq.trans program) ?_, Nat.lt_add_left _ (Nat.lt_succ_self 1)⟩
      rw [← program]
      exact ahead.steps_le_of_step step
    rcases stride.of_executing with ⟨m', step, rfl⟩ | ⟨x, m', step, rfl⟩ | ⟨f, m', step, rfl⟩
    · refine ⟨.executing (step.program_eq.trans program) (ahead.step step), ?_⟩
      obtain ⟨i, fetches⟩ := step.fetches_of_running
      have lt := ahead.steps_lt fetches
      show m'.program.size - m'.steps + 2 < m.program.size - m.steps + 2
      rw [step.program_eq, step.steps_of_running]
      omega
    · exact leaves _ step
    · exact leaves _ step
  | leaving program le =>
    obtain ⟨rfl, rfl⟩ := stride.of_leaving
    exact ⟨.done program le, Nat.lt_succ_self 0⟩
  | done => exact absurd stride not_stride_done

/-- Performers on course run down. -/
lemma ranked (p : Program) : Ranked next (OnCourse p) left where
  keeps course request yields := (course.stride (stride_of_yields request yields)).1
  lt course request yields := (course.stride (stride_of_yields request yields)).2

/-- A receive that has been begun is one of the instructions of the program. -/
lemma OnCourse.begun_le (course : q.OnCourse p) : q.begun ≤ p.size := by
  unfold begun
  split
  · next after request =>
    -- whatever the answer will be, the step that gets it is one of the program
    have yields : (Request.receive after).Yields Link.policy (some (.received .terminated))
        (after Link.policy .terminated) := .receive
    rw [← begun_of_receive request]
    exact Nat.le_trans (begun_le_of_yields request yields)
      ((ranked p).keeps course request yields).steps_le
  · exact course.steps_le

end Performer

namespace DualRun

open Performer (OnCourse left)

variable {p : Program} {files : Both Registers} {m m' : Monitor Performer} {moves : List Move}

/-- When both runs have returned, none is told to be lost. -/
lemma Complete.conclude_ne_lost (complete : Complete m) (id : Nat) :
    conclude m ≠ .error (.lost id) := by
  have verdicts : ∀ i, verdict m i ≠ .error (.lost id) := by
    intro i
    obtain ⟨result, returned⟩ := Option.isSome_iff_exists.1 (complete i).2
    rw [verdict, returned]
    cases result <;> simp
  intro lost
  unfold conclude at lost
  split at lost
  · next failed =>
    cases lost
    exact verdicts .zero failed
  · next failed =>
    cases lost
    exact verdicts .one failed
  · cases lost

/-- The budget at the start of a dual run is linear in the size of the program. -/
lemma budget_start (p : Program) (files : Both Registers) :
    (start (load ⟨p, p⟩ files)).budget left = 14 * p.size + 30 := by
  show 7 * ((p.size + 2) + (p.size + 2)) + 2 = 14 * p.size + 30
  omega

section Forward

variable (forward : p.Forward) (short : (p.size : Int) ≤ Int64.maxValue.toInt)

include forward short

/-- A dual run of a program that only goes forward starts on course. -/
lemma paced_start (files : Both Registers) :
    (start (load ⟨p, p⟩ files)).Paced Performer.next (OnCourse p) := by
  rw [start_eq]
  apply Monitor.paced_fresh
  intro i
  cases i with
  | zero => exact .executing rfl (Machine.ahead_start forward short files.zero)
  | one => exact .executing rfl (Machine.ahead_start forward short files.one)

/-- Wherever a schedule has led, it has used up turns of the budget that a dual run starts with. -/
lemma paced_of_follow (follow : (start (load ⟨p, p⟩ files)).follow Performer.next moves = some m) :
    m.Paced Performer.next (OnCourse p) ∧
      moves.countP Move.isTurn + m.budget left ≤ 14 * p.size + 30 + moves.countP Move.isWaking := by
  rw [← budget_start p files]
  exact (paced_start forward short files).follow Performer.obedient (Performer.ranked p) follow

end Forward

/-- Programs that only go forward always stop. On any channel a machine returns, after no more
instructions than the program has. In a dual run of the program, with any registers, no schedule
makes a side execute more instructions than that. A schedule has a bounded number of turns, apart
from those of threads that wake up for no reason; it can only end with both runs returned, since
otherwise some side has a turn; and letting the sides take turns gets there from anywhere. So a run
of the program on both sides comes to a report, and no side is lost. The pointer is a word and stays
at the greatest one, so a program must not be longer than that. -/
theorem forward_programs_stop (p : Program) (forward : p.Forward)
    (short : (p.size : Int) ≤ Int64.maxValue.toInt) :
    (∀ {σ : Type} (c : Channel σ) (state : σ) (registers : Registers), ∃ result t,
      (Solo.load p registers state).execute c (p.size + 1) = some (result, t) ∧
        t.machine.steps ≤ p.size) ∧
    (∀ (files : Both Registers) (moves : List Move) (m : Monitor Performer),
      (start (load ⟨p, p⟩ files)).follow Performer.next moves = some m →
        (∀ i, executed m i ≤ p.size) ∧
        moves.countP Move.isTurn ≤ 14 * p.size + 30 + moves.countP Move.isWaking ∧
        (Complete m ∨ ∃ i, (m.act Performer.next i).isSome = true) ∧
        ∃ (turns : List Side) (m' : Monitor Performer),
          m.follow Performer.next (turns.map .act) = some m' ∧ Complete m') ∧
    ∀ fuel, 14 * p.size + 30 < fuel →
      ∃ report, run fuel p = some report ∧ ∀ id, report ≠ .error (.lost id) := by
  refine ⟨fun c state registers => ?_, fun files moves m follow => ?_, fun fuel enough => ?_⟩
  · have ahead := Machine.ahead_start forward short registers
    exact Solo.execute_of_ahead ahead (by show p.size < 0 + (p.size + 1); omega)
  · obtain ⟨paced, turns⟩ := paced_of_follow forward short follow
    refine ⟨fun i => ?_, by omega, ?_, ?_⟩
    · exact Nat.le_trans (executed_le_begun paced.sound.wakeful i) (paced.holds i).begun_le
    · rcases m.atRest_or_exists_act Performer.next with rest | turn
      · exact .inl ((orderly_of_follow follow).complete paced.sound.wakeful rest)
      · exact .inr turn
    · obtain ⟨m', settle⟩ :=
        paced.settle Performer.obedient (Performer.ranked p) (Nat.lt_succ_self _)
      obtain ⟨turns, goes, complete⟩ := complete_of_settle follow settle
      exact ⟨turns, m', goes, complete⟩
  · rw [run, ofFn_machine_eq]
    have paced := paced_start forward short (.ofFn fun i => .seeded (Int64.ofNat i.id))
    obtain ⟨m, settle⟩ :=
      paced.settle Performer.obedient (Performer.ranked p) (by rwa [budget_start])
    obtain ⟨-, -, complete⟩ := complete_of_settle (Monitor.follow_nil _) settle
    rw [settle]
    exact ⟨conclude m, rfl, complete.conclude_ne_lost⟩

/-- Side zero sends, side one jumps over that. Side one falls asleep in its receive, is woken for no
reason and falls asleep again; it is still to be served. In the end side one asks for a remainder by
zero, and side zero terminates. -/
theorem forward_programs_stop_asleep :
    ∃ p : Program, p = ⟨#[.jgz (.register ⟨"p"⟩) (.literal 2), .snd (.literal 7), .rcv ⟨"a"⟩,
        .update .mod ⟨"a"⟩ (.register ⟨"b"⟩)]⟩ ∧
      p.Forward ∧ (p.size : Int) ≤ Int64.maxValue.toInt ∧
      (∃ result t,
        (Solo.load p (.seeded 0) ({ inbox := [7] } : Mailbox)).execute Mailbox.channel 5 =
          some (result, t) ∧ t.machine.steps ≤ 4) ∧
      (∃ m, (start (load ⟨p, p⟩ ⟨.seeded 0, .seeded 1⟩)).follow Performer.next
          [.act .one, .act .one, .rouse .one, .act .one] = some m ∧
        m.phase .one = .asleep ∧ executed m .one ≤ 4 ∧
        ∃ (turns : List Side) (m' : Monitor Performer),
          m.follow Performer.next (turns.map .act) = some m' ∧ Complete m') ∧
      ∃ report, run 87 p = some report ∧ ∀ id, report ≠ .error (.lost id) := by
  have forward : Program.Forward
      ⟨#[.jgz (.register ⟨"p"⟩) (.literal 2), .snd (.literal 7), .rcv ⟨"a"⟩,
        .update .mod ⟨"a"⟩ (.register ⟨"b"⟩)]⟩ := by decide
  obtain ⟨alone, together, runs⟩ := forward_programs_stop _ forward (by decide)
  obtain ⟨executed, -, -, ends⟩ := together ⟨.seeded 0, .seeded 1⟩
    [.act .one, .act .one, .rouse .one, .act .one] _ rfl
  exact ⟨_, rfl, forward, by decide, alone Mailbox.channel { inbox := [7] } (.seeded 0),
    ⟨_, rfl, rfl, executed .one, ends⟩, runs 87 (by decide)⟩

end DualRun

end Tandem
