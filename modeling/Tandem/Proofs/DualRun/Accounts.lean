import Tandem.Proofs.DualRun.Progress
import Tandem.Proofs.Monitor.Delivery

/-!
# Accounts

A link loses nothing, makes up nothing and keeps the order, and the machines on it keep count: every
move of a schedule adds to the counter of a machine what the machine sends in it (`sent_of_move`),
and a machine receives a value in a move exactly when an `rcv` of its program stores one
(`stored_of_move`). So what the machine on side one says it has sent is what the machine on side
zero has stored and what still waits for it.
-/

namespace Tandem.DualRun

variable {m m' : Monitor Performer} {i : Side} {first : Move} {moves : List Move}

/-- A move lets a performer make a stride, or it leaves the performer as it is and shows nothing of
it. -/
lemma stride_of_move (move : m.move Performer.next first = some m') (i : Side) :
    (m'.state i = m.state i ∧ History.eventsBy i (m.record Performer.next first) = []) ∨
    ∃ e, m.record Performer.next first = .single i e ∧ (m.state i).Stride e (m'.state i) := by
  cases first with
  | act j =>
    have turn := Monitor.turn_of_act move
    obtain rfl | rfl := Side.eq_or_eq_peer j i
    · obtain ⟨same, silent⟩ | ⟨r, request, yields⟩ := turn.state_self
      · exact .inl ⟨same, by simp [Monitor.record, silent]⟩
      · exact .inr ⟨_, rfl, Performer.stride_of_yields request yields⟩
    · exact .inl ⟨turn.state_peer, History.eventsBy_single_of_ne (Side.ne_peer j) _⟩
  | rouse j =>
    obtain ⟨-, rfl⟩ := Monitor.rouse_eq_some move
    refine .inl ⟨?_, rfl⟩
    obtain rfl | rfl := Side.eq_or_eq_peer j i
    · simp
    · simp

/-- A move adds to the counter of a machine the number of values that the machine sends in it. -/
lemma sent_of_move (move : m.move Performer.next first = some m') (i : Side) :
    (m'.state i).machine.sent =
      (m.state i).machine.sent + (History.sentBy i (m.record Performer.next first)).length := by
  obtain ⟨same, silent⟩ | ⟨e, record, stride⟩ := stride_of_move move i
  · rw [same, History.sentBy_eq, silent]
    rfl
  · rw [record]
    exact stride.sent_eq i

/-- A value is received in a move exactly when an `rcv` stores it. -/
lemma stored_of_move (move : m.move Performer.next first = some m') (i : Side) :
    (if (m.state i).machine.stored (m'.state i).machine then 1 else 0) =
      (History.receivedBy i (m.record Performer.next first)).length := by
  obtain ⟨same, silent⟩ | ⟨e, record, stride⟩ := stride_of_move move i
  · rw [same, History.receivedBy_eq, silent, Machine.stored_self]
    rfl
  · rw [record]
    exact stride.stored_eq i

/-- A schedule adds to the counter of a machine the number of values that the machine sends in
it. -/
lemma sent_of_follow (follow : m.follow Performer.next moves = some m') (i : Side) :
    (m'.state i).machine.sent =
      (m.state i).machine.sent + (History.sentBy i (m.history Performer.next moves)).length := by
  induction moves generalizing m with
  | nil =>
    cases follow
    rfl
  | cons first rest ih =>
    obtain ⟨m₁, move, follow⟩ := Option.bind_eq_some_iff.1 follow
    rw [Monitor.history, move, ih follow, sent_of_move move i]
    simp [Nat.add_assoc]

/-- The number of `rcv` instructions of side `i` that store a value in a schedule. -/
def stores (i : Side) : List Move → Monitor Performer → Nat
  | [], _ => 0
  | first :: rest, m =>
    match m.move Performer.next first with
    | none => 0
    | some m' =>
      (if (m.state i).machine.stored (m'.state i).machine then 1 else 0) + stores i rest m'

/-- As many values are received in a schedule as `rcv` instructions store. -/
lemma stores_eq (i : Side) (moves : List Move) (m : Monitor Performer) :
    stores i moves m = (History.receivedBy i (m.history Performer.next moves)).length := by
  induction moves generalizing m with
  | nil => rfl
  | cons first rest ih =>
    rw [stores, Monitor.history]
    cases move : m.move Performer.next first with
    | none => rfl
    | some m₁ =>
      simp only [ih m₁, stored_of_move move i]
      simp

/-- A report is about results that both sides have given. -/
lemma result_of_conclude {report : Report} (concludes : conclude m = .ok report) :
    ∃ outcome, (m.state .one).result? = some (.ok outcome) ∧ report.sentByOne = outcome.sent := by
  unfold conclude at concludes
  split at concludes
  · cases concludes
  · cases concludes
  · next outcome _ verdict =>
    cases concludes
    refine ⟨outcome, ?_, rfl⟩
    unfold DualRun.verdict at verdict
    split at verdict
    · cases verdict
    · cases verdict
    · next result =>
      cases verdict
      exact result

/-- The report gives the counter of the machine on side one. -/
lemma sentByOne_eq {machines : Both Machine} {report : Report}
    (follow : (start machines).follow Performer.next moves = some m)
    (concludes : conclude m = .ok report) : report.sentByOne = (m.state .one).machine.sent := by
  obtain ⟨outcome, result, sent⟩ := result_of_conclude concludes
  rw [sent]
  cases (orderly_of_follow follow .one).reports result with
  | exited => rfl

/-- What can be seen of a dual run. -/
def chronicle (machines : Both Machine) (moves : List Move) : History :=
  (start machines).history Performer.next moves

/-- In a dual run nothing is lost, made up or put out of order. -/
lemma sentBy_peer_eq {machines : Both Machine}
    (follow : (start machines).follow Performer.next moves = some m) (i : Side) :
    (chronicle machines moves).sentBy i.peer =
      (chronicle machines moves).receivedBy i ++ (m.link.inbound.get i).toList := by
  rw [start_eq] at follow
  exact Monitor.delivers_of_follow follow i

/-- Values are delivered in order, without loss and without duplication, and they are counted.
Whatever two threads do on a link and in whatever order, the values that a side has sent are those
that its peer has received, followed by those in the queue. Machines on a link count the values that
they send. At the end of a dual run the values sent by the machine on side one are those that an
`rcv` on side zero has stored and those still pending there. -/
theorem sent_eq_received_append_pending :
    (∀ {α : Type} (next : α → Option (Request α)) (states : Both α) (moves : List Move)
      (m : Monitor α), (Monitor.fresh states).follow next moves = some m → ∀ i,
        History.sentBy i ((Monitor.fresh states).history next moves) =
          History.receivedBy i.peer ((Monitor.fresh states).history next moves) ++
            (m.link.inbound.get i.peer).toList) ∧
    (∀ (performers : Both Performer) (moves : List Move) (m : Monitor Performer),
      (Monitor.fresh performers).follow Performer.next moves = some m → ∀ i,
        (m.state i).machine.sent = (performers.get i).machine.sent +
          (History.sentBy i ((Monitor.fresh performers).history Performer.next moves)).length) ∧
    ∀ (p : Program) (moves : List Move) (m : Monitor Performer) (report : Report),
      (start (.ofFn (machine p))).follow Performer.next moves = some m → conclude m = .ok report →
        report.sentByOne =
          stores .zero moves (start (.ofFn (machine p))) + m.link.pending .zero := by
  refine ⟨?_, ?_, ?_⟩
  · intro α next states moves m follow i
    have delivers := Monitor.delivers_of_follow follow i.peer
    rwa [Monitor.DeliversTo, Side.peer_peer] at delivers
  · intro performers moves m follow i
    have sent := sent_of_follow follow i
    rwa [Monitor.state_fresh] at sent
  · intro p moves m report follow concludes
    have sent := sent_of_follow follow .one
    have delivers : (chronicle (.ofFn (machine p)) moves).sentBy .one = _ :=
      sentBy_peer_eq follow .zero
    rw [sentByOne_eq follow concludes, sent, ← chronicle, delivers, stores_eq, Link.pending,
      Queue.size_eq, List.length_append]
    exact Nat.zero_add _

/-- A dual run in which each machine sends twice and receives once, and side zero sleeps before its
value comes. -/
theorem sent_eq_received_append_pending_twice :
    ∃ m, (start (.ofFn (machine ⟨#[.snd (.literal 1), .snd (.literal 2), .rcv ⟨"a"⟩]⟩))).follow
        Performer.next
        ((.replicate 5 .zero ++ .replicate 8 .one ++ .replicate 4 .zero : List Side).map .act) =
          some m ∧
      conclude m = .ok ⟨2, false⟩ ∧ [1, 2] = [1] ++ (m.link.inbound.get .zero).toList ∧
      (m.state .one).machine.sent = 2 ∧ 2 = 1 + m.link.pending .zero := by
  have ends :
      ((start (.ofFn (machine ⟨#[.snd (.literal 1), .snd (.literal 2), .rcv ⟨"a"⟩]⟩))).follow
        Performer.next
        ((.replicate 5 .zero ++ .replicate 8 .one ++ .replicate 4 .zero : List Side).map
          .act)).map conclude = some (.ok ⟨2, false⟩) := rfl
  obtain ⟨m, follow, concludes⟩ := Option.map_eq_some_iff.1 ends
  have fresh := follow
  rw [start_eq] at fresh
  refine ⟨m, follow, concludes, ?_, ?_, ?_⟩
  · exact sent_eq_received_append_pending.1 Performer.next _ _ m fresh .one
  · exact sent_eq_received_append_pending.2.1 _ _ m fresh .one
  · exact sent_eq_received_append_pending.2.2 _ _ m _ follow concludes

end Tandem.DualRun
