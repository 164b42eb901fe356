import Tandem.Proofs.DualRun.Progress

/-!
# A dual run has one end

The order in which the two sides take their turns decides who sleeps and who is woken, and nothing
else. If a dual run can be completed at all, every way to go about it leads to the same end: the
same results, the same machines, the same values left over and the same report. No schedule makes a
machine begin more instructions than it has carried out at that end, and whoever is under way gets
there by taking turns.
-/

namespace Tandem

namespace Performer

/-- The number of instructions that a machine has begun. A receive that it asks for is one of
them. -/
def begun (p : Performer) : Nat :=
  match p.next with
  | some (.receive _) => p.machine.steps + 1
  | _ => p.machine.steps

/-- Steps that were made were begun. -/
lemma steps_le_begun (p : Performer) : p.machine.steps ≤ p.begun := by
  unfold begun
  split
  · exact Nat.le_succ _
  · exact Nat.le_refl _

/-- A receive that is asked for is one more instruction begun. -/
lemma begun_of_receive {p : Performer} {after : Policy → Received → Performer}
    (request : p.next = some (.receive after)) : p.begun = p.machine.steps + 1 := by
  rw [begun, request]

/-- A performer at rest has begun nothing more. -/
lemma begun_of_rest {p : Performer} (rest : p.next = none) : p.begun = p.machine.steps := by
  rw [begun, rest]

/-- What was begun has been carried out when the request is served. -/
lemma begun_le_of_yields {p q : Performer} {r : Request Performer} {e : Option Event}
    (request : p.next = some r) (yields : r.Yields Link.policy e q) :
    p.begun ≤ q.machine.steps := by
  have stride := stride_of_yields request yields
  cases yields with
  | receive => exact Nat.le_of_eq ((begun_of_receive request).trans stride.steps_of_received.symm)
  | work =>
    rw [begun, request]
    exact stride.steps_le
  | send =>
    rw [begun, request]
    exact stride.steps_le
  | close =>
    rw [begun, request]
    exact stride.steps_le

end Performer

namespace DualRun

variable {m m' m'' : Monitor Performer} {i : Side} {machines : Both Machine}
  {moves moves' : List Move}

/-- No step takes back what was begun. -/
lemma begun_le_of_step {v v' : View Performer} {j : Side} (step : View.Step Performer.next j v v')
    (i : Side) : (v.states.get i).begun ≤ (v'.states.get i).begun := by
  obtain ⟨e, acts, rfl⟩ := step
  obtain rfl | rfl := Side.eq_or_eq_peer j i
  · obtain ⟨r, event, request, yields, -⟩ := acts.yields
    rw [View.states_apply_self]
    exact Nat.le_trans (Performer.begun_le_of_yields request yields) (Performer.steps_le_begun _)
  · simp

/-- The number of instructions that side `i` has executed, with the receive that it waits in. -/
def executed (m : Monitor Performer) (i : Side) : Nat :=
  (m.state i).machine.steps + if (m.phase i).isParked then 1 else 0

/-- What was executed was begun. -/
lemma executed_le_begun (wakeful : m.Wakeful Performer.next) (i : Side) :
    executed m i ≤ (m.state i).begun := by
  unfold executed
  split
  · next parked =>
    obtain ⟨after, request⟩ := (wakeful i).parked parked
    exact Nat.le_of_eq (Performer.begun_of_receive request).symm
  · exact Performer.steps_le_begun _

/-- No schedule begins more instructions than a completed run has carried out. -/
lemma executed_le (follow : (start machines).follow Performer.next moves = some m)
    (complete : Complete m) (follow' : (start machines).follow Performer.next moves' = some m')
    (i : Side) : executed m' i ≤ (m.state i).machine.steps := by
  rw [start_eq] at follow follow'
  obtain ⟨sound', -, n, walk⟩ :=
    Monitor.walk_of_follow Performer.obedient follow complete.atRest follow'
  have grows : (m'.state i).begun ≤ (m.state i).begun := by
    have le := walk.le (f := fun v => (v.states.get i).begun) (fun step => begun_le_of_step step i)
    simpa using le
  calc executed m' i
    _ ≤ (m'.state i).begun := executed_le_begun sound'.wakeful i
    _ ≤ (m.state i).begun := grows
    _ = (m.state i).machine.steps := Performer.begun_of_rest (complete.rest i)

/-- If a dual run can be completed, then letting the sides take turns completes it, however it
began. -/
lemma exists_complete (follow : (start machines).follow Performer.next moves = some m)
    (complete : Complete m) (follow' : (start machines).follow Performer.next moves' = some m') :
    ∃ (fuel : Nat) (turns : List Side) (m'' : Monitor Performer),
      m'.settle Performer.next fuel = some m'' ∧
      m'.follow Performer.next (turns.map .act) = some m'' ∧ Complete m'' := by
  have settles : ∃ fuel m'', m'.settle Performer.next fuel = some m'' := by
    rw [start_eq] at follow follow'
    exact Monitor.settle_of_follow Performer.obedient follow complete.atRest follow'
  obtain ⟨fuel, m'', settle⟩ := settles
  obtain ⟨turns, goes, ends⟩ := complete_of_settle follow' settle
  exact ⟨fuel, turns, m'', settle, goes, ends⟩

/-- Two complete dual runs of the same machines look alike. -/
lemma Complete.view_eq (complete : Complete m)
    (follow : (start machines).follow Performer.next moves = some m)
    (follow' : (start machines).follow Performer.next moves' = some m')
    (complete' : Complete m') : m'.view = m.view := by
  rw [start_eq] at follow follow'
  exact Monitor.view_eq_of_atRest Performer.obedient follow complete.atRest follow' complete'.atRest

/-- Monitors that look alike have the same states. -/
lemma state_eq_of_view_eq (same : m'.view = m.view) (i : Side) : m'.state i = m.state i := by
  rw [← Monitor.states_view, same, Monitor.states_view]

/-- Monitors that look alike have the same values in their queues. -/
lemma inbound_eq_of_view_eq (same : m'.view = m.view) (i : Side) :
    (m'.link.inbound.get i).toList = (m.link.inbound.get i).toList := by
  rw [← Monitor.inbound_view, same, Monitor.inbound_view]

/-- What a run is reported to have come to depends on the view alone. -/
lemma conclude_eq_of_view_eq (same : m'.view = m.view) : conclude m' = conclude m := by
  have verdicts : ∀ i, verdict m' i = verdict m i := fun i => by
    rw [verdict, verdict, state_eq_of_view_eq same]
  have deadlocked : m'.link.deadlocked = m.link.deadlocked := congrArg View.deadlocked same
  rw [conclude, conclude, verdicts, verdicts, deadlocked]

/-- Dual runs do not depend on the order of turns. If one schedule completes, then so can every
other one, by letting the sides take turns; it comes to the same machines and results, the same
queues, the same deadlock flag and the same report; and on its way it never executes more
instructions on a side. That report is the one given by the run in which the sides take turns from
the start, and a fault on side zero is told before anything that happened on side one. -/
theorem schedule_irrelevant (machines : Both Machine) (moves : List Move) (m : Monitor Performer)
    (follow : (start machines).follow Performer.next moves = some m) (complete : Complete m) :
    (∀ (moves' : List Move) (m' : Monitor Performer),
      (start machines).follow Performer.next moves' = some m' →
        (Complete m' →
          (∀ i, m'.state i = m.state i ∧
            (m'.link.inbound.get i).toList = (m.link.inbound.get i).toList) ∧
          m'.link.deadlocked = m.link.deadlocked ∧ conclude m' = conclude m) ∧
        (∀ i, executed m' i ≤ (m.state i).machine.steps) ∧
        ∃ (turns : List Side) (m'' : Monitor Performer),
          m'.follow Performer.next (turns.map .act) = some m'' ∧ Complete m'') ∧
    (∃ fuel, ((start machines).settle Performer.next fuel).map conclude = some (conclude m)) ∧
    ∀ fault, (m.state .zero).result? = some (.error fault) →
      conclude m = .error (.fault 0 fault) := by
  refine ⟨fun moves' m' follow' => ⟨fun complete' => ?_, ?_, ?_⟩, ?_, ?_⟩
  · have same := complete.view_eq follow follow' complete'
    exact ⟨fun i => ⟨state_eq_of_view_eq same i, inbound_eq_of_view_eq same i⟩,
      congrArg View.deadlocked same, conclude_eq_of_view_eq same⟩
  · exact executed_le follow complete follow'
  · obtain ⟨-, turns, m'', -, goes, ends⟩ := exists_complete follow complete follow'
    exact ⟨turns, m'', goes, ends⟩
  · -- the run in which the sides take turns is one more schedule
    obtain ⟨fuel, turns, m'', settle, goes, ends⟩ :=
      exists_complete follow complete (Monitor.follow_nil (start machines))
    have same := complete.view_eq follow goes ends
    exact ⟨fuel, by rw [settle, Option.map_some, conclude_eq_of_view_eq same]⟩
  · intro fault result
    have failed : verdict m .zero = .error (.fault 0 fault) := by
      rw [verdict, result]
      rfl
    rw [conclude, failed]

/-- Each machine sends and receives once. One schedule lets side zero sleep; another one wakes it
for no reason first; a third has only just begun. -/
theorem schedule_irrelevant_one_exchange :
    ∃ m m₁ m₂, (start (.ofFn (machine ⟨#[.snd (.literal 7), .rcv ⟨"a"⟩]⟩))).follow Performer.next
        ((.replicate 3 .zero ++ .replicate 6 .one ++ .replicate 4 .zero : List Side).map .act) =
          some m ∧
      Complete m ∧
      (start (.ofFn (machine ⟨#[.snd (.literal 7), .rcv ⟨"a"⟩]⟩))).follow Performer.next
        (.replicate 3 (.act .zero) ++ .rouse .zero :: .act .zero :: .replicate 6 (.act .one) ++
          .replicate 4 (.act .zero)) = some m₁ ∧
      Complete m₁ ∧ (∀ i, m₁.state i = m.state i) ∧ conclude m₁ = conclude m ∧
      (start (.ofFn (machine ⟨#[.snd (.literal 7), .rcv ⟨"a"⟩]⟩))).follow Performer.next
        [.act .one] = some m₂ ∧
      executed m₂ .one ≤ (m.state .one).machine.steps ∧
      ∃ (turns : List Side) (m₃ : Monitor Performer),
        m₂.follow Performer.next (turns.map .act) = some m₃ ∧ Complete m₃ := by
  obtain ⟨m, follow, complete⟩ := (Option.any_eq_true _ _).1
    (show ((start (.ofFn (machine ⟨#[.snd (.literal 7), .rcv ⟨"a"⟩]⟩))).follow Performer.next
      ((.replicate 3 .zero ++ .replicate 6 .one ++ .replicate 4 .zero : List Side).map .act)).any
        (fun m => decide (Complete m)) = true by decide)
  obtain ⟨m₁, follow₁, complete₁⟩ := (Option.any_eq_true _ _).1
    (show ((start (.ofFn (machine ⟨#[.snd (.literal 7), .rcv ⟨"a"⟩]⟩))).follow Performer.next
      (.replicate 3 (.act .zero) ++ .rouse .zero :: .act .zero :: .replicate 6 (.act .one) ++
        .replicate 4 (.act .zero))).any (fun m => decide (Complete m)) = true by decide)
  have ends := schedule_irrelevant _ _ m follow (of_decide_eq_true complete)
  obtain ⟨same, -, reported⟩ := (ends.1 _ m₁ follow₁).1 (of_decide_eq_true complete₁)
  obtain ⟨-, few, goes⟩ := ends.1 [.act .one] _ rfl
  exact ⟨m, m₁, _, follow, of_decide_eq_true complete, follow₁, of_decide_eq_true complete₁,
    fun i => (same i).1, reported, rfl, few .one, goes⟩

end DualRun

end Tandem
