import Tandem.Proofs.Monitor.Turn

/-!
# Delivery

Whatever the threads on a link do and in whatever order, the values that a side has sent are those
that its peer has received, in the same order, followed by those still in the queue. `Turn.delivers`
is the step and `delivers_of_follow` the run.
-/

namespace Tandem

namespace Monitor

variable {α : Type} {next : α → Option (Request α)} {m m' : Monitor α} {i : Side} {h : History}

/-- What was sent to side `i` is what it received, followed by what it may still receive. -/
def DeliversTo (h : History) (m : Monitor α) (i : Side) : Prop :=
  h.sentBy i.peer = h.receivedBy i ++ (m.link.inbound.get i).toList

/-- Nothing is lost, made up or put out of order, in either direction. -/
def Delivers (h : History) (m : Monitor α) : Prop :=
  ∀ i, m.DeliversTo h i

/-- A turn that neither sends nor takes a value leaves what it leaves in the queues. -/
lemma DeliversTo.of_silent {e : Option Event} {j : Side} (delivers : m.DeliversTo h j)
    (sent : History.sentBy j.peer (.single i e) = [])
    (received : History.receivedBy j (.single i e) = [])
    (inbound : m'.link.inbound.get j = m.link.inbound.get j) :
    m'.DeliversTo (h ++ .single i e) j := by
  unfold DeliversTo at *
  rw [History.sentBy_append, History.receivedBy_append, sent, received, inbound]
  simpa using delivers

/-- A turn of side `i` delivers to side `i` what was sent to it. -/
lemma Turn.delivers_self {e : Option Event} (turn : Turn next i m e m')
    (delivers : m.DeliversTo h i) : m'.DeliversTo (h ++ .single i e) i := by
  have sent := History.sentBy_single_of_ne (Side.ne_peer i) e
  cases turn with
  | announce => exact delivers.of_silent sent rfl (by simp)
  | work => exact delivers.of_silent sent rfl (by simp)
  | send => exact delivers.of_silent sent rfl (by simp)
  | @take after v rest ask pop =>
    have front := Queue.toList_of_pop?_eq_some pop
    unfold DeliversTo at *
    rw [History.sentBy_append, sent]
    simp [delivers, front]
  | refuse => exact delivers.of_silent sent rfl (by simp)
  | deadlock => exact delivers.of_silent sent rfl (by simp)
  | park => exact delivers.of_silent sent rfl (by simp)
  | close => exact delivers.of_silent sent rfl (by simp)
  | closeAgain => exact delivers.of_silent sent rfl (by simp)

/-- A turn of side `i` puts what it sends behind what its peer may still receive. -/
lemma Turn.delivers_peer {e : Option Event} (turn : Turn next i m e m')
    (delivers : m.DeliversTo h i.peer) : m'.DeliversTo (h ++ .single i e) i.peer := by
  have received := History.receivedBy_single_of_ne (Side.ne_peer i) e
  cases turn with
  | announce => exact delivers.of_silent rfl received (by simp)
  | work => exact delivers.of_silent rfl received (by simp)
  | send =>
    unfold DeliversTo at *
    rw [History.receivedBy_append, received]
    simp_all
  | take => exact delivers.of_silent rfl received (by simp)
  | refuse => exact delivers.of_silent rfl received (by simp)
  | deadlock => exact delivers.of_silent rfl received (by simp)
  | park => exact delivers.of_silent rfl received (by simp)
  | close => exact delivers.of_silent rfl received (by simp)
  | closeAgain => exact delivers.of_silent rfl received (by simp)

/-- A turn loses nothing, makes up nothing and keeps the order. -/
lemma Turn.delivers {e : Option Event} (turn : Turn next i m e m') (delivers : m.Delivers h) :
    m'.Delivers (h ++ .single i e) := by
  intro j
  obtain rfl | rfl := Side.eq_or_eq_peer i j
  · exact turn.delivers_self (delivers j)
  · exact turn.delivers_peer (delivers i.peer)

/-- On a fresh link nothing was sent, and nothing is in the queues. -/
lemma delivers_fresh (states : Both α) : (fresh states).Delivers [] := by
  intro i
  cases i <;> rfl

/-- Wherever a schedule leads, what was sent is what was received and what is still in the
queues. -/
lemma delivers_of_follow {states : Both α} {moves : List Move}
    (follow : (fresh states).follow next moves = some m) :
    m.Delivers ((fresh states).history next moves) :=
  follow_records (P := fun h m => m.Delivers h) Turn.delivers (fun _ holds => holds) follow
    (delivers_fresh states)

end Monitor

end Tandem
