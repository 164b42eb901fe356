import Tandem.DualRun
import Tandem.Proofs.Machine.Stride
import Tandem.Proofs.Monitor.Confluence
import Tandem.Session.Endpoint

/-!
# A dual run does not get stuck

In a dual run a side is at work, about to close its end, or done; it has finished exactly when it is
done, and its result tells how its machine was left (`Runs`). Together with the fact that nobody
sleeps for ever this gives progress: as long as not both sides have returned, one of them has a
turn.
-/

namespace Tandem

/-- How a run ended is how the machine was left. -/
inductive Machine.Reports (m : Machine) : Except Fault Outcome → Prop where
  | exited {x} :
    m.exit = some x →
    m.Reports (.ok (m.outcome x))
  | failed {f} :
    m.exit = none →
    m.Reports (.error f)

namespace Performer

/-- A performer at work on a run, and whether it has finished. -/
inductive Runs : Performer → Bool → Prop where
  | executing {m} :
    Runs ⟨m, .executing⟩ false
  | leaving {m r} :
    m.Reports r →
    Runs ⟨m, .leaving (.outcome r)⟩ false
  | done {m r} :
    m.Reports r →
    Runs ⟨m, .done (.outcome r)⟩ true

variable {p q : Performer} {e : Option Event} {finished : Bool}

/-- A stride goes on with the run, and closing the end finishes it. -/
lemma Runs.stride (runs : Runs p finished) (stride : p.Stride e q) :
    Runs q (finished || decide (e = some .closed)) := by
  cases runs with
  | executing =>
    obtain ⟨m', step, rfl⟩ | ⟨x, m', step, rfl⟩ | ⟨f, m', step, rfl⟩ := stride.of_executing
    · simp only [Bool.false_or, decide_eq_false step.ne_closed]
      exact .executing
    · simp only [Bool.false_or, decide_eq_false step.ne_closed]
      exact .leaving (.exited step.exit_of_exited)
    · simp only [Bool.false_or, decide_eq_false step.ne_closed]
      exact .leaving (.failed step.exit_of_failed)
  | leaving reports =>
    obtain ⟨rfl, rfl⟩ := stride.of_leaving
    exact .done reports
  | done => exact absurd stride not_stride_done

/-- A run with nothing left to do has finished, and its result tells how the machine was left. -/
lemma Runs.result_of_rest (runs : Runs p finished) (rest : p.next = none) :
    finished = true ∧ ∃ r, p.result? = some r ∧ p.machine.Reports r := by
  cases runs with
  | executing => cases rest
  | leaving => cases rest
  | @done m r reports => exact ⟨rfl, r, rfl, reports⟩

/-- A performer that has a result has nothing left to do. -/
lemma rest_of_result {r : Except Fault Outcome} (result : p.result? = some r) : p.next = none := by
  unfold result? at result
  split at result
  · next task => simp [next, task]
  · cases result

/-- The result of a run tells how its machine was left. -/
lemma Runs.reports {r : Except Fault Outcome} (runs : Runs p finished)
    (result : p.result? = some r) : p.machine.Reports r := by
  obtain ⟨-, r', result', reports⟩ := runs.result_of_rest (rest_of_result result)
  cases result.symm.trans result'
  exact reports

end Performer

namespace DualRun

variable {m m' : Monitor Performer} {i : Side} {machines : Both Machine} {moves : List Move}

/-- The run of side `i` has returned. -/
def Returned (m : Monitor Performer) (i : Side) : Prop :=
  m.phase i = .ready ∧ (m.state i).result?.isSome = true

/-- Both runs have returned. -/
def Complete (m : Monitor Performer) : Prop :=
  ∀ i, Returned m i

instance (m : Monitor Performer) (i : Side) : Decidable (Returned m i) :=
  inferInstanceAs (Decidable (_ ∧ _))

instance (m : Monitor Performer) : Decidable (Complete m) :=
  decidable_of_iff (Returned m .zero ∧ Returned m .one)
    ⟨fun h i => by cases i with | zero => exact h.1 | one => exact h.2, fun h => ⟨h .zero, h .one⟩⟩

/-- Both sides are on their runs. -/
def Orderly (m : Monitor Performer) : Prop :=
  ∀ i, (m.state i).Runs (m.link.finished.get i)

/-- A dual run starts with two machines about to run, on a fresh link. -/
lemma start_eq (machines : Both Machine) :
    start machines = .fresh (machines.map fun machine => { machine, task := .executing }) := rfl

/-- A dual run starts in order. -/
lemma orderly_start (machines : Both Machine) : Orderly (start machines) := by
  intro i
  cases i <;> exact .executing

/-- A turn keeps both sides on their runs. -/
lemma Orderly.turn {e : Option Event} (turn : Monitor.Turn Performer.next i m e m')
    (orderly : Orderly m) : Orderly m' := by
  intro j
  obtain rfl | rfl := Side.eq_or_eq_peer i j
  · rw [turn.finished_self]
    obtain ⟨same, rfl⟩ | ⟨r, request, yields⟩ := turn.state_self
    · simpa [same] using orderly j
    · exact (orderly j).stride (Performer.stride_of_yields request yields)
  · rw [turn.finished_peer, turn.state_peer]
    exact orderly i.peer

/-- Waking a side keeps both sides on their runs. -/
lemma Orderly.rouse (orderly : Orderly m) : Orderly (m.put i (m.state i) .awake) := by
  intro j
  obtain rfl | rfl := Side.eq_or_eq_peer i j
  · simpa using orderly j
  · simpa using orderly i.peer

/-- Both sides are on their runs wherever a schedule leads. -/
lemma orderly_of_follow (follow : (start machines).follow Performer.next moves = some m) :
    Orderly m :=
  Monitor.follow_preserves Orderly.turn (fun _ => Orderly.rouse) follow (orderly_start machines)

/-- The monitor at the start of a dual run is sound. -/
lemma sound_start (machines : Both Machine) : (start machines).Sound Performer.next := by
  rw [start_eq]
  exact Monitor.sound_fresh _

/-- The monitor of a dual run is sound wherever a schedule leads. -/
lemma sound_of_follow (follow : (start machines).follow Performer.next moves = some m) :
    m.Sound Performer.next :=
  ((sound_start machines).walk_of_follow Performer.obedient follow).1

/-- A dual run that has come to rest is complete. -/
lemma Orderly.complete (orderly : Orderly m) (wakeful : m.Wakeful Performer.next)
    (rest : m.AtRest Performer.next) : Complete m := by
  have awake : ∀ i, m.phase i ≠ .asleep := by
    intro i asleep
    obtain ⟨rests, awake⟩ := rest.rests wakeful asleep
    -- the peer has nothing left to do, so it has finished, and nobody waits for a finished peer
    obtain ⟨finished, -⟩ := (orderly i.peer).result_of_rest (rest.request_eq_none awake)
    simp [rests.finished] at finished
  intro i
  have request := rest.request_eq_none (awake i)
  obtain ⟨-, r, result, -⟩ := (orderly i).result_of_rest request
  refine ⟨?_, by simp [result]⟩
  cases phase : m.phase i with
  | ready => rfl
  | asleep => exact absurd phase (awake i)
  | awake =>
    obtain ⟨after, receives⟩ := (wakeful i).parked (by simp [phase, Phase.isParked])
    simp [request] at receives
  | announcing => exact absurd phase (rest.not_announcing i)

/-- Wherever a dual run has got to, settling it completes it. -/
lemma complete_of_settle {fuel : Nat}
    (follow : (start machines).follow Performer.next moves = some m)
    (settle : m.settle Performer.next fuel = some m') :
    ∃ turns : List Side, m.follow Performer.next (turns.map .act) = some m' ∧ Complete m' := by
  obtain ⟨turns, goes, rest⟩ := Monitor.exists_follow_of_settle settle
  have whole : (start machines).follow Performer.next (moves ++ turns.map .act) = some m' := by
    rw [Monitor.follow_append, follow]
    exact goes
  exact ⟨turns, goes, (orderly_of_follow whole).complete (sound_of_follow whole).wakeful rest⟩

/-- A side that has returned asks for nothing. -/
lemma Complete.rest (complete : Complete m) (i : Side) : (m.state i).next = none := by
  obtain ⟨r, result⟩ := Option.isSome_iff_exists.1 (complete i).2
  exact Performer.rest_of_result result

/-- A complete dual run is at rest. -/
lemma Complete.atRest (complete : Complete m) : m.AtRest Performer.next := by
  intro i
  simp [Monitor.act, (complete i).1, complete.rest i]

/-- No wake-up is lost and no dual run gets stuck. Whatever two threads do on a link and in whatever
order, the link knows who is parked, and a thread that sleeps while its peer has nothing to announce
has nothing to take, no deadlock to learn of, no finished peer, and no peer that is parked in vain.
In a dual run some side therefore has a turn until both have returned. -/
theorem no_lost_wakeup :
    (∀ {α : Type} (next : α → Option (Request α)) (states : Both α) (moves : List Move)
      (m : Monitor α), (Monitor.fresh states).follow next moves = some m →
        (∀ i, m.link.waiting.get i = true ↔ (m.phase i).isParked = true) ∧
        ∀ i, m.phase i = .asleep → m.phase i.peer ≠ .announcing →
          (m.link.inbound.get i).toList = [] ∧ m.link.deadlocked = false ∧
          m.link.finished.get i.peer = false ∧
          ¬((m.phase i.peer).isParked = true ∧ (m.link.inbound.get i.peer).toList = [])) ∧
    ∀ (machines : Both Machine) (moves : List Move) (m : Monitor Performer),
      (start machines).follow Performer.next moves = some m → ¬Complete m →
        ∃ i, (m.act Performer.next i).isSome = true := by
  constructor
  · intro α next states moves m follow
    have wakeful := Monitor.wakeful_of_follow follow
    refine ⟨fun i => by rw [(wakeful i).waiting], fun i asleep announcing => ?_⟩
    have rests := (wakeful i).asleep asleep announcing
    exact ⟨rests.empty, rests.deadlocked, rests.finished, rests.peer⟩
  · intro machines moves m follow incomplete
    obtain rest | turn := m.atRest_or_exists_act Performer.next
    · exact absurd ((orderly_of_follow follow).complete (sound_of_follow follow).wakeful rest)
        incomplete
    · exact turn

/-- A receiver that sleeps while the other side has yet to send, and a machine that waits for the
other machine to begin. -/
theorem no_lost_wakeup_receiver_asleep :
    (∃ m, (Monitor.fresh ⟨{ side := .zero, errand := .receive },
        { side := .one, errand := .send 5 }⟩).follow Endpoint.next [.act .zero] = some m ∧
      m.phase .zero = .asleep ∧ m.phase .one ≠ .announcing ∧ m.link.waiting.get .zero = true ∧
      (m.link.inbound.get .zero).toList = [] ∧ m.link.finished.get .one = false) ∧
    ∃ m, (start (.ofFn (machine ⟨#[.rcv ⟨"a"⟩]⟩))).follow Performer.next [.act .zero] = some m ∧
      ¬Complete m ∧ ∃ i, (m.act Performer.next i).isSome = true := by
  refine ⟨⟨_, rfl, rfl, by decide, ?_⟩, _, rfl, by decide, ?_⟩
  · have known := no_lost_wakeup.1 Endpoint.next
      ⟨{ side := .zero, errand := .receive }, { side := .one, errand := .send 5 }⟩
      [.act .zero] _ rfl
    have rests := known.2 .zero rfl (by decide)
    exact ⟨(known.1 .zero).2 rfl, rests.1, rests.2.2.1⟩
  · exact no_lost_wakeup.2 (.ofFn (machine ⟨#[.rcv ⟨"a"⟩]⟩)) [.act .zero] _ rfl (by decide)

end DualRun

end Tandem
