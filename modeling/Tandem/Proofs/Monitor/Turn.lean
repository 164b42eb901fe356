import Tandem.Monitor.Schedule
import Tandem.Proofs.History

/-!
# Turns

What a turn can do, said once. `Monitor.Turn next i m e m'` has one constructor for each way in
which side `i` can take a turn from `m` to `m'`; `e` is what the turn does to the link, if anything.
Every turn made by `Monitor.act` is one of these (`turn_of_act`), so a property of the threads is
proved by one case for each constructor. A receive alone accounts for four of them: it takes a
value, it is refused because nothing will come, it completes a deadlock, or it falls asleep.

`Monitor.history` collects the events of a schedule. `follow_records` carries a property of the
events so far and the present state along a schedule, `follow_preserves` one of the state alone.
-/

namespace Tandem

namespace Link

variable {l : Link} {i : Side}

/-- A receive takes the first value if there is one. -/
lemma receive_of_pop? {v : Word} {rest : Queue Word} (h : (l.inbound.get i).pop? = some (v, rest)) :
    l.receive i =
      (some (.value v), { l with inbound := l.inbound.set i rest }.setWaiting i false) := by
  rw [receive, h]

/-- A receive without a value is told so after a deadlock or when the peer has closed. -/
lemma receive_of_ended (empty : (l.inbound.get i).toList = [])
    (ended : l.deadlocked = true ∨ l.finished.get i.peer = true) :
    l.receive i = (some .terminated, l.setWaiting i false) := by
  rw [receive, Queue.pop?_eq_none_iff.2 empty]
  simp [ended]

/-- A receive without a value completes a deadlock if the peer starves. -/
lemma receive_of_starved (empty : (l.inbound.get i).toList = []) (deadlocked : l.deadlocked = false)
    (finished : l.finished.get i.peer = false) (starved : l.isStarved i.peer = true) :
    l.receive i = (some .terminated, { l with deadlocked := true }.setWaiting i false) := by
  rw [receive, Queue.pop?_eq_none_iff.2 empty]
  simp [deadlocked, finished, starved]

/-- A receive without a value waits if the peer can still send one. -/
lemma receive_of_not_starved (empty : (l.inbound.get i).toList = [])
    (deadlocked : l.deadlocked = false) (finished : l.finished.get i.peer = false)
    (starved : l.isStarved i.peer = false) : l.receive i = (none, l.setWaiting i true) := by
  rw [receive, Queue.pop?_eq_none_iff.2 empty]
  simp [deadlocked, finished, starved]

end Link

namespace Monitor

variable {α : Type} {next : α → Option (Request α)} {m m' : Monitor α} {i : Side}

/-- Side `i` is about to make a request. -/
structure Asks (next : α → Option (Request α)) (m : Monitor α) (i : Side) (r : Request α) :
    Prop where
  active : m.phase i = .ready ∨ m.phase i = .awake
  request : next (m.state i) = some r

/-- What the next turn of side `i` lets be seen. -/
def event? (next : α → Option (Request α)) (i : Side) (m : Monitor α) : Option Event :=
  match m.phase i with
  | .asleep | .announcing => none
  | .ready | .awake => (next (m.state i)).bind (Request.event? (m.link.receive i).1)

/-- The turns of side `i`. -/
inductive Turn (next : α → Option (Request α)) (i : Side) (m : Monitor α) :
    Option Event → Monitor α → Prop where
  | announce :
    m.phase i = .announcing →
    Turn next i m none ((m.put i (m.state i) .ready).notify i)
  | work {after} :
    m.Asks next i (.work after) →
    Turn next i m none (m.put i after .ready)
  | send {v after} :
    m.Asks next i (.send v after) →
    Turn next i m (some (.sent v)) ({ m with link := m.link.send i v }.put i after .announcing)
  | take {after v rest} :
    m.Asks next i (.receive after) →
    (m.link.inbound.get i).pop? = some (v, rest) →
    Turn next i m (some (.received (.value v)))
      ({ m with
          link := { m.link with inbound := m.link.inbound.set i rest }.setWaiting i false }.put i
        (after Link.policy (.value v)) .ready)
  | refuse {after} :
    m.Asks next i (.receive after) →
    (m.link.inbound.get i).toList = [] →
    m.link.deadlocked = true ∨ m.link.finished.get i.peer = true →
    Turn next i m (some (.received .terminated))
      ({ m with link := m.link.setWaiting i false }.put i (after Link.policy .terminated) .ready)
  | deadlock {after} :
    m.Asks next i (.receive after) →
    (m.link.inbound.get i).toList = [] →
    m.link.deadlocked = false →
    m.link.finished.get i.peer = false →
    m.link.isStarved i.peer = true →
    Turn next i m (some (.received .terminated))
      (({ m with link := { m.link with deadlocked := true }.setWaiting i false }.put i
        (after Link.policy .terminated) .ready).notify i)
  | park {after} :
    m.Asks next i (.receive after) →
    (m.link.inbound.get i).toList = [] →
    m.link.deadlocked = false →
    m.link.finished.get i.peer = false →
    m.link.isStarved i.peer = false →
    Turn next i m none ({ m with link := m.link.setWaiting i true }.put i (m.state i) .asleep)
  | close {after} :
    m.Asks next i (.close after) →
    m.link.finished.get i = false →
    Turn next i m (some .closed) ({ m with link := m.link.close i }.put i after .announcing)
  | closeAgain {after} :
    m.Asks next i (.close after) →
    m.link.finished.get i = true →
    Turn next i m (some .closed) (m.put i after .ready)

/-- A side that makes a request lets the event of the request be seen. -/
lemma Asks.event?_eq {r : Request α} (ask : m.Asks next i r) :
    m.event? next i = r.event? (m.link.receive i).1 := by
  obtain ⟨active | active, request⟩ := ask
  · simp [event?, active, request]
  · simp [event?, active, request]

/-- A receive takes a value, is refused, completes a deadlock or falls asleep. -/
lemma Asks.turn_receive {after : Policy → Received → α} (ask : m.Asks next i (.receive after)) :
    Turn next i m (m.event? next i) (m.receive i (after Link.policy)) := by
  rw [ask.event?_eq, Request.event?, receive]
  cases pop : (m.link.inbound.get i).pop? with
  | some p =>
    obtain ⟨v, rest⟩ := p
    rw [Link.receive_of_pop? pop]
    simpa using Turn.take ask pop
  | none =>
    have empty := Queue.pop?_eq_none_iff.1 pop
    by_cases ended : m.link.deadlocked = true ∨ m.link.finished.get i.peer = true
    · rw [Link.receive_of_ended empty ended]
      simpa using Turn.refuse ask empty ended
    · have deadlocked : m.link.deadlocked = false := by simp_all
      have finished : m.link.finished.get i.peer = false := by simp_all
      cases starved : m.link.isStarved i.peer with
      | true =>
        rw [Link.receive_of_starved empty deadlocked finished starved]
        simpa [deadlocked] using Turn.deadlock ask empty deadlocked finished starved
      | false =>
        rw [Link.receive_of_not_starved empty deadlocked finished starved]
        exact Turn.park ask empty deadlocked finished starved

/-- Serving the request that a side makes is a turn. -/
lemma Asks.turn {r : Request α} (ask : m.Asks next i r) :
    Turn next i m (m.event? next i) (m.serve i r) := by
  cases r with
  | work after =>
    rw [ask.event?_eq]
    exact .work ask
  | send v after =>
    rw [ask.event?_eq]
    exact .send ask
  | receive after => exact ask.turn_receive
  | close after =>
    rw [ask.event?_eq, serve, Monitor.close]
    split
    · next finished => exact .closeAgain ask finished
    · next finished => exact .close ask (by simpa using finished)

/-- Whatever a side does in its turn is one of the turns. -/
lemma turn_of_act (h : m.act next i = some m') : Turn next i m (m.event? next i) m' := by
  unfold act at h
  cases phase : m.phase i with
  | asleep => simp [phase] at h
  | announcing =>
    rw [phase] at h
    cases h
    rw [event?, phase]
    exact .announce phase
  | ready =>
    rw [phase] at h
    obtain ⟨r, request, rfl⟩ := Option.map_eq_some_iff.1 h
    exact Asks.turn ⟨.inl phase, request⟩
  | awake =>
    rw [phase] at h
    obtain ⟨r, request, rfl⟩ := Option.map_eq_some_iff.1 h
    exact Asks.turn ⟨.inr phase, request⟩

/-- A turn leaves the state of the other side. -/
lemma Turn.state_peer {e : Option Event} (turn : Turn next i m e m') :
    m'.state i.peer = m.state i.peer := by
  cases turn with
  | announce => simp
  | work => simp
  | send => simp
  | take => simp
  | refuse => simp
  | deadlock => simp
  | park => simp
  | close => simp
  | closeAgain => simp

/-- A turn serves the request of its side, or it leaves the state as it is and nothing is seen. -/
lemma Turn.state_self {e : Option Event} (turn : Turn next i m e m') :
    (m'.state i = m.state i ∧ e = none) ∨
      ∃ r, next (m.state i) = some r ∧ r.Yields Link.policy e (m'.state i) := by
  cases turn with
  | announce => exact .inl ⟨by simp, rfl⟩
  | work ask => exact .inr ⟨_, ask.request, by simpa using .work⟩
  | send ask => exact .inr ⟨_, ask.request, by simpa using .send⟩
  | take ask => exact .inr ⟨_, ask.request, by simpa using .receive⟩
  | refuse ask => exact .inr ⟨_, ask.request, by simpa using .receive⟩
  | deadlock ask => exact .inr ⟨_, ask.request, by simpa using .receive⟩
  | park => exact .inl ⟨by simp, rfl⟩
  | close ask => exact .inr ⟨_, ask.request, by simpa using .close⟩
  | closeAgain ask => exact .inr ⟨_, ask.request, by simpa using .close⟩

/-- A side has finished when it has closed its end. -/
lemma Turn.finished_self {e : Option Event} (turn : Turn next i m e m') :
    m'.link.finished.get i = (m.link.finished.get i || decide (e = some .closed)) := by
  cases turn with
  | closeAgain _ finished => simp [finished]
  | _ => simp

/-- A turn does not close the end of the other side. -/
lemma Turn.finished_peer {e : Option Event} (turn : Turn next i m e m') :
    m'.link.finished.get i.peer = m.link.finished.get i.peer := by
  cases turn <;> simp

/-- A side that makes a request has a turn. -/
lemma Asks.isSome_act {r : Request α} (ask : m.Asks next i r) : (m.act next i).isSome := by
  obtain ⟨active | active, request⟩ := ask
  · simp [act, active, request]
  · simp [act, active, request]

/-- Only a side that is asleep wakes up for no reason. -/
lemma rouse_eq_some (h : m.rouse i = some m') :
    m.phase i = .asleep ∧ m' = m.put i (m.state i) .awake := by
  unfold rouse at h
  split at h
  · next asleep =>
    cases h
    exact ⟨asleep, rfl⟩
  · cases h

/-- What a move lets be seen. -/
def record (next : α → Option (Request α)) (m : Monitor α) : Move → History
  | .act i => History.single i (m.event? next i)
  | .rouse _ => []

/-- The events of a schedule, in order. -/
def history (next : α → Option (Request α)) : List Move → Monitor α → History
  | [], _ => []
  | first :: rest, m =>
    match m.move next first with
    | none => []
    | some m' => m.record next first ++ history next rest m'

/-- What every turn and every waking keeps, for the events so far and the present state, holds
wherever a schedule leads. -/
lemma follow_records {P : History → Monitor α → Prop} {moves : List Move}
    (turn : ∀ {h m m' i e}, Turn next i m e m' → P h m → P (h ++ .single i e) m')
    (rouse : ∀ {h m i}, m.phase i = .asleep → P h m → P h (m.put i (m.state i) .awake))
    {h : History} (follow : m.follow next moves = some m') (holds : P h m) :
    P (h ++ m.history next moves) m' := by
  induction moves generalizing m h with
  | nil =>
    cases follow
    simpa [history] using holds
  | cons first rest ih =>
    obtain ⟨m₁, hfirst, hrest⟩ := Option.bind_eq_some_iff.1 follow
    rw [history, hfirst, ← List.append_assoc]
    apply ih hrest
    cases first with
    | act i => exact turn (turn_of_act hfirst) holds
    | rouse i =>
      obtain ⟨asleep, rfl⟩ := rouse_eq_some hfirst
      simpa [record] using rouse asleep holds

/-- What every turn and every waking keeps holds wherever a schedule leads. -/
lemma follow_preserves {P : Monitor α → Prop} {moves : List Move}
    (turn : ∀ {m m' i e}, Turn next i m e m' → P m → P m')
    (rouse : ∀ {m i}, m.phase i = .asleep → P m → P (m.put i (m.state i) .awake))
    (follow : m.follow next moves = some m') (holds : P m) : P m' := by
  have run := @follow_records α next m m' (fun _ => P) moves (fun t => turn t) (fun a => rouse a) []
  exact run follow holds

/-- Threads about to begin, on a fresh link. -/
def fresh (states : Both α) : Monitor α where
  threads := states.map fun state => { state }

/-- Threads about to begin have an unused link. -/
@[simp] lemma link_fresh (states : Both α) : (fresh states).link = {} := rfl

/-- Threads about to begin have the given states. -/
@[simp] lemma state_fresh (states : Both α) (i : Side) : (fresh states).state i = states.get i := by
  cases i <;> rfl

/-- Threads about to begin are ready. -/
@[simp] lemma phase_fresh (states : Both α) (i : Side) : (fresh states).phase i = .ready := by
  cases i <;> rfl

end Monitor

end Tandem
