import Tandem.Proofs.DualRun.Alone
import Tandem.Proofs.Machine.Unused
import Tandem.Proofs.Monitor.Log

/-!
# Programs that do not use their number

In the run of a single program the two machines differ in register `p` only. If the program does not
use that register, they cannot be told apart through a write to it, and a write to it goes along
with every step. The order of turns does not matter, so a run comes to the same end as its mirror
image: the machines end alike.
-/

namespace Tandem

/-- Two machines that stand at the same point, with the same registers apart from `x`. -/
structure Machine.Alike (x : Register) (m m' : Machine) : Prop where
  exit : m.exit = m'.exit
  ip : m.ip = m'.ip
  sent : m.sent = m'.sent
  steps : m.steps = m'.steps
  registers : m.registers.others x = m'.registers.others x

/-- Machines that become the same by a write to `x` are alike apart from `x`. -/
lemma Machine.alike_of_write_eq {x : Register} {v : Word} {m m' : Machine}
    (same : m.write x v = m'.write x v) : m.Alike x m' := by
  simp only [write, mk.injEq] at same
  obtain ⟨-, registers, ip, sent, steps, exit⟩ := same
  refine ⟨exit, ip, sent, steps, ?_⟩
  rw [← Registers.others_set m.registers x v, registers, Registers.others_set]

/-- An overwritten register leaves the result. -/
lemma Performer.result?_overwrite (p : Performer) (x : Register) (v : Word) :
    (p.overwrite x v).result? = p.result? := rfl

/-- Performers that become the same by overwriting a register have the same result. -/
lemma Performer.result?_eq_of_overwrite_eq {x : Register} {v : Word} {p q : Performer}
    (same : p.overwrite x v = q.overwrite x v) : p.result? = q.result? := by
  rw [← result?_overwrite p x v, same, result?_overwrite]

namespace DualRun

variable {p : Program} {m : Monitor Performer} {moves : List Move}

/-- The machines of a single program are loaded with it twice, over files that hold their
numbers. -/
lemma ofFn_machine_eq (p : Program) :
    Both.ofFn (machine p) = load ⟨p, p⟩ (.ofFn fun i => .seeded (Int64.ofNat i.id)) := rfl

/-- The machines of a single program differ in register `p` only. -/
lemma write_machine (p : Program) (v : Word) (i : Side) :
    (machine p i).write ⟨"p"⟩ v = (machine p .zero).write ⟨"p"⟩ v := by
  have registers : (Registers.seeded (Int64.ofNat i.id)).set ⟨"p"⟩ v =
      (Registers.seeded 0).set ⟨"p"⟩ v := by
    rw [Registers.seeded, Registers.seeded, Registers.set_set, Registers.set_set]
  exact congrArg (fun file => { program := p, registers := file : Machine }) registers

/-- At the end of a run the machines of a program that does not use register `p` are the same but
for that register, and have shown the same events. -/
lemma same_of_unused (unused : ¬p.Uses ⟨"p"⟩)
    (follow : (start (.ofFn (machine p))).follow Performer.next moves = some m)
    (complete : Complete m) :
    (m.state .zero).overwrite ⟨"p"⟩ 0 = (m.state .one).overwrite ⟨"p"⟩ 0 ∧
      (chronicle (.ofFn (machine p)) moves).eventsBy .zero =
        (chronicle (.ofFn (machine p)) moves).eventsBy .one := by
  rw [chronicle]
  rw [start_eq] at follow ⊢
  -- seen through a write to register `p` the two machines start as the same
  refine Monitor.same_of_atRest Performer.obedient (Performer.carries_overwrite ⟨"p"⟩ 0) ?_ ?_
    follow complete.atRest
  · intro i
    cases i with
    | zero => exact unused
    | one => exact unused
  · have written := write_machine p 0 .one
    exact congrArg (fun machine => { machine, task := .executing : Performer }) written.symm

/-- The deadlock of two machines that end alike is told by either of them. -/
lemma Complete.deadlocked_iff (complete : Complete m)
    (follow : (start (.ofFn (machine p))).follow Performer.next moves = some m)
    (same : (m.state .zero).machine.exit = (m.state .one).machine.exit) (i : Side) :
    m.link.deadlocked = true ↔
      ∃ outcome, (m.state i).result? = some (.ok outcome) ∧ outcome.exit = .terminated := by
  have each : ∀ j, (m.state j).machine.exit = (m.state i).machine.exit := by
    intro j
    cases i <;> cases j <;> simp [same]
  rw [ofFn_machine_eq] at follow
  rw [(told_of_follow follow).deadlocked_iff complete.rest,
    ← complete.exit_eq_terminated_iff (orderly_of_follow follow) i]
  constructor
  · intro terminated
    exact terminated i
  · intro terminated j
    rw [each j]
    exact terminated

/-- If the sides have the same result, a failure is told of side zero. -/
lemma Complete.fault_of_conclude {failure : Failure} (complete : Complete m)
    (same : (m.state .zero).result? = (m.state .one).result?)
    (fails : conclude m = .error failure) : ∃ fault, failure = .fault 0 fault := by
  obtain ⟨result, zero⟩ := Option.isSome_iff_exists.1 (complete .zero).2
  have one := same.symm.trans zero
  cases result with
  | error fault =>
    rw [conclude, verdict, zero] at fails
    cases fails
    exact ⟨fault, rfl⟩
  | ok outcome =>
    rw [conclude, verdict, verdict, zero, one] at fails
    cases fails

/-- Settling a dual run completes it. -/
lemma complete_of_run {fuel : Nat} {result : Except Failure Report}
    (runs : run fuel p = some result) :
    ∃ moves m, (start (.ofFn (machine p))).follow Performer.next moves = some m ∧ Complete m ∧
      conclude m = result := by
  obtain ⟨m, settles, concludes⟩ := Option.map_eq_some_iff.1 runs
  obtain ⟨turns, follow, complete⟩ := complete_of_settle (Monitor.follow_nil _) settles
  exact ⟨turns.map .act, m, follow, complete, concludes⟩

/-- The two machines of a program that does not use register `p` come to the same end. However the
sides take their turns, when both runs have returned they have the same result, the machines are
alike apart from `p`, and they have sent and received the same values. So it never happens that one
has halted and the other has terminated; there was a deadlock exactly if either has terminated; and
a failure is told of program zero. -/
theorem ends_alike_of_unused (p : Program) (unused : ¬p.Uses ⟨"p"⟩) (moves : List Move)
    (m : Monitor Performer)
    (follow : (start (.ofFn (machine p))).follow Performer.next moves = some m)
    (complete : Complete m) :
    (m.state .zero).result? = (m.state .one).result? ∧
    (m.state .zero).machine.Alike ⟨"p"⟩ (m.state .one).machine ∧
    (chronicle (.ofFn (machine p)) moves).eventsBy .zero =
      (chronicle (.ofFn (machine p)) moves).eventsBy .one ∧
    (chronicle (.ofFn (machine p)) moves).sentBy .zero =
      (chronicle (.ofFn (machine p)) moves).sentBy .one ∧
    (chronicle (.ofFn (machine p)) moves).receivedBy .zero =
      (chronicle (.ofFn (machine p)) moves).receivedBy .one ∧
    (∀ i, ¬((m.state i).machine.exit = some .halted ∧
      (m.state i.peer).machine.exit = some .terminated)) ∧
    (∀ i, m.link.deadlocked = true ↔
      ∃ outcome, (m.state i).result? = some (.ok outcome) ∧ outcome.exit = .terminated) ∧
    (∀ failure, conclude m = .error failure → ∃ fault, failure = .fault 0 fault) ∧
    ∀ fuel failure, run fuel p = some (.error failure) → ∃ fault, failure = .fault 0 fault := by
  obtain ⟨same, events⟩ := same_of_unused unused follow complete
  have results := Performer.result?_eq_of_overwrite_eq same
  have alike := Machine.alike_of_write_eq (congrArg Performer.machine same)
  refine ⟨results, alike, events, ?_, ?_, fun i ends => ?_,
    complete.deadlocked_iff follow alike.exit, fun failure => complete.fault_of_conclude results,
    fun fuel failure runs => ?_⟩
  · rw [History.sentBy_eq, History.sentBy_eq, events]
  · rw [History.receivedBy_eq, History.receivedBy_eq, events]
  · obtain ⟨halted, terminated⟩ := ends
    have exits : (m.state i).machine.exit = (m.state i.peer).machine.exit := by
      cases i with
      | zero => exact alike.exit
      | one => exact alike.exit.symm
    cases (halted.symm.trans exits).trans terminated
  · -- the run in which the sides take turns is one more schedule
    obtain ⟨moves', m', follow', complete', fails⟩ := complete_of_run runs
    obtain ⟨same', -⟩ := same_of_unused unused follow' complete'
    exact complete'.fault_of_conclude (Performer.result?_eq_of_overwrite_eq same') fails

/-- Both machines send one value, receive it and wait for another one. Side zero is put to sleep at
its first receive, side one is not; it completes the deadlock. A remainder by zero in both machines
is told of the first. -/
theorem ends_alike_of_unused_deadlock :
    (¬Program.Uses ⟨#[.snd (.literal 7), .rcv ⟨"a"⟩, .rcv ⟨"b"⟩]⟩ ⟨"p"⟩ ∧
    ∃ m, (start (.ofFn (machine ⟨#[.snd (.literal 7), .rcv ⟨"a"⟩, .rcv ⟨"b"⟩]⟩))).follow
        Performer.next
        ((.replicate 3 .zero ++ .replicate 4 .one ++ .replicate 4 .zero ++
          .replicate 3 .one : List Side).map .act) = some m ∧
      Complete m ∧ (m.state .zero).machine.Alike ⟨"p"⟩ (m.state .one).machine ∧
      m.link.deadlocked = true ∧
      ∃ outcome, (m.state .zero).result? = some (.ok outcome) ∧ outcome.exit = .terminated) ∧
    ∃ m failure,
      (start (.ofFn (machine ⟨#[.snd (.literal 7), .update .mod ⟨"a"⟩ (.register ⟨"b"⟩)]⟩))).follow
        Performer.next ((.replicate 5 .one ++ .replicate 5 .zero : List Side).map .act) = some m ∧
      Complete m ∧ conclude m = .error failure ∧ ∃ fault, failure = .fault 0 fault := by
  constructor
  · have unused : ¬Program.Uses ⟨#[.snd (.literal 7), .rcv ⟨"a"⟩, .rcv ⟨"b"⟩]⟩ ⟨"p"⟩ := by decide
    obtain ⟨-, alike, -, -, -, -, deadlocked, -⟩ := ends_alike_of_unused _ unused
      ((.replicate 3 .zero ++ .replicate 4 .one ++ .replicate 4 .zero ++
        .replicate 3 .one : List Side).map .act) _ rfl (by decide)
    exact ⟨unused, _, rfl, by decide, alike, rfl, (deadlocked .zero).1 rfl⟩
  · obtain ⟨-, -, -, -, -, -, -, named, -⟩ := ends_alike_of_unused
      ⟨#[.snd (.literal 7), .update .mod ⟨"a"⟩ (.register ⟨"b"⟩)]⟩ (by decide)
      ((.replicate 5 .one ++ .replicate 5 .zero : List Side).map .act) _ rfl (by decide)
    exact ⟨_, _, rfl, by decide, rfl, named _ rfl⟩

end DualRun

end Tandem
