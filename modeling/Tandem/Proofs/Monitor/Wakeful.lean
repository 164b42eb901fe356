import Tandem.Proofs.Monitor.Turn

/-!
# Nobody sleeps for ever

A thread that falls asleep relies on the other side to wake it. The invariant `Monitor.Wakeful` says
that it can: the waiting flags of the link tell exactly who is parked in a receive, and a thread
that sleeps, while its peer is not just about to announce something, sleeps with good reason. There
is no value for it, no deadlock was declared, its peer has not finished, and its peer is not stuck
as well.

Waking is a turn of its own after a send or a close, so the reasons may fail in between; this is
where the peer is announcing. `Turn.wakeful` is the step, `wakeful_of_follow` the run.
-/

namespace Tandem.Monitor

variable {α : Type} {next : α → Option (Request α)} {m m' : Monitor α} {i : Side}

/-- Side `i` has good reason to sleep. -/
structure Rests (m : Monitor α) (i : Side) : Prop where
  empty : (m.link.inbound.get i).toList = []
  deadlocked : m.link.deadlocked = false
  finished : m.link.finished.get i.peer = false
  peer : ¬((m.phase i.peer).isParked = true ∧ (m.link.inbound.get i.peer).toList = [])

/-- Side `i` is known to wait when it is parked, it is parked in a receive, and it sleeps with good
reason or is about to be woken. -/
structure Watched (next : α → Option (Request α)) (m : Monitor α) (i : Side) : Prop where
  waiting : m.link.waiting.get i = (m.phase i).isParked
  parked : (m.phase i).isParked = true → ∃ after, next (m.state i) = some (.receive after)
  asleep : m.phase i = .asleep → m.phase i.peer ≠ .announcing → m.Rests i

/-- Nobody sleeps without good reason, or without being about to be woken. -/
def Wakeful (next : α → Option (Request α)) (m : Monitor α) : Prop :=
  ∀ i, m.Watched next i

/-- Nothing is asked of a side that is not parked and not known to wait. -/
lemma Watched.of_not_parked (phase : (m.phase i).isParked = false)
    (waiting : m.link.waiting.get i = false) : m.Watched next i := by
  refine ⟨waiting.trans phase.symm, ?_, ?_⟩
  · intro parked
    simp [phase] at parked
  · intro asleep
    simp [asleep, Phase.isParked] at phase

/-- A side that makes a request has nothing left to announce. -/
lemma Asks.not_announcing {r : Request α} (ask : m.Asks next i r) : m.phase i ≠ .announcing := by
  intro announcing
  obtain active | active := ask.active
  · simp [announcing] at active
  · simp [announcing] at active

/-- A side that asks for anything but a receive is not known to wait. -/
lemma Asks.not_waiting {r : Request α} (ask : m.Asks next i r) (watched : m.Watched next i)
    (other : ∀ after, r ≠ .receive after) : m.link.waiting.get i = false := by
  rw [watched.waiting]
  cases parked : (m.phase i).isParked with
  | false => rfl
  | true =>
    obtain ⟨after, request⟩ := watched.parked parked
    rw [ask.request] at request
    cases request
    exact absurd rfl (other after)

/-- A peer that is parked with nothing to take is starved. -/
lemma Wakeful.isStarved_peer (wakeful : m.Wakeful next) (parked : (m.phase i.peer).isParked = true)
    (empty : (m.link.inbound.get i.peer).toList = []) : m.link.isStarved i.peer = true :=
  Link.isStarved_iff.2 ⟨(wakeful i.peer).waiting.trans parked, empty⟩

/-- A side that has had its turn is watched. -/
lemma Turn.watched_self {e : Option Event} (turn : Turn next i m e m') (wakeful : m.Wakeful next) :
    m'.Watched next i := by
  have watched := wakeful i
  cases turn with
  | announce phase =>
    apply Watched.of_not_parked
    · simp [Phase.isParked]
    · simp [watched.waiting, phase, Phase.isParked]
  | work ask =>
    have waiting := ask.not_waiting watched nofun
    exact .of_not_parked (by simp [Phase.isParked]) (by simpa using waiting)
  | send ask =>
    have waiting := ask.not_waiting watched nofun
    exact .of_not_parked (by simp [Phase.isParked]) (by simpa using waiting)
  | take => exact .of_not_parked (by simp [Phase.isParked]) (by simp)
  | refuse => exact .of_not_parked (by simp [Phase.isParked]) (by simp)
  | deadlock => exact .of_not_parked (by simp [Phase.isParked]) (by simp)
  | @park after ask empty deadlocked finished starved =>
    refine ⟨by simp [Phase.isParked], fun _ => ⟨after, by simpa using ask.request⟩, fun _ _ => ?_⟩
    refine ⟨by simpa using empty, by simpa using deadlocked, by simpa using finished, ?_⟩
    rintro ⟨parked, empty'⟩
    -- the link would have seen the peer starve, and declared a deadlock
    have starved' := wakeful.isStarved_peer (by simpa using parked) (by simpa using empty')
    simp [starved] at starved'
  | close => exact .of_not_parked (by simp [Phase.isParked]) (by simp)
  | closeAgain ask =>
    have waiting := ask.not_waiting watched nofun
    exact .of_not_parked (by simp [Phase.isParked]) (by simpa using waiting)

/-- A side that has just been woken is watched. -/
lemma Watched.woken (watched : m.Watched next i) (state : m'.state i = m.state i)
    (phase : m'.phase i = (m.phase i).woken)
    (waiting : m'.link.waiting.get i = m.link.waiting.get i) : m'.Watched next i := by
  refine ⟨?_, ?_, ?_⟩
  · rw [waiting, watched.waiting, phase, Phase.isParked_woken]
  · intro parked
    rw [phase, Phase.isParked_woken] at parked
    rw [state]
    exact watched.parked parked
  · intro asleep
    rw [phase] at asleep
    exact absurd asleep (Phase.woken_ne_asleep _)

/-- A side is watched after a change that leaves its queue and the flags as they are, and before
which the other side had nothing to announce and after which it is ready. -/
lemma Watched.of_ready (watched : m.Watched next i.peer) (silent : m.phase i ≠ .announcing)
    (ready : m'.phase i = .ready) (state : m'.state i.peer = m.state i.peer)
    (phase : m'.phase i.peer = m.phase i.peer)
    (waiting : m'.link.waiting.get i.peer = m.link.waiting.get i.peer)
    (inbound : m'.link.inbound.get i.peer = m.link.inbound.get i.peer)
    (deadlocked : m'.link.deadlocked = m.link.deadlocked)
    (finished : m'.link.finished = m.link.finished) : m'.Watched next i.peer := by
  refine ⟨?_, ?_, fun asleep _ => ?_⟩
  · rw [waiting, phase, watched.waiting]
  · rw [phase, state]
    exact watched.parked
  · rw [phase] at asleep
    have rests := watched.asleep asleep (by simpa using silent)
    refine ⟨?_, ?_, ?_, ?_⟩
    · rw [inbound]
      exact rests.empty
    · rw [deadlocked]
      exact rests.deadlocked
    · rw [finished]
      exact rests.finished
    · simp [ready, Phase.isParked]

/-- A side is still watched after a turn of the other one. -/
lemma Turn.watched_peer {e : Option Event} (turn : Turn next i m e m') (wakeful : m.Wakeful next) :
    m'.Watched next i.peer := by
  have watched := wakeful i.peer
  cases turn with
  | announce => exact watched.woken (by simp) (by simp) (by simp)
  | deadlock => exact watched.woken (by simp) (by simp) (by simp)
  | work ask =>
    exact watched.of_ready ask.not_announcing (by simp) (by simp) (by simp) rfl rfl rfl rfl
  | take ask =>
    exact watched.of_ready ask.not_announcing (by simp) (by simp) (by simp) (by simp) (by simp) rfl
      rfl
  | refuse ask =>
    exact watched.of_ready ask.not_announcing (by simp) (by simp) (by simp) (by simp) rfl rfl rfl
  | closeAgain ask =>
    exact watched.of_ready ask.not_announcing (by simp) (by simp) (by simp) rfl rfl rfl rfl
  | send ask =>
    refine ⟨by simpa using watched.waiting, by simpa using watched.parked, ?_⟩
    intro asleep announcing
    simp at announcing
  | close ask =>
    refine ⟨by simpa using watched.waiting, by simpa using watched.parked, ?_⟩
    intro asleep announcing
    simp at announcing
  | park ask empty deadlocked finished starved =>
    refine ⟨by simpa using watched.waiting, by simpa using watched.parked, fun asleep _ => ?_⟩
    have asleep : m.phase i.peer = .asleep := by simpa using asleep
    have rests := watched.asleep asleep (by simpa using ask.not_announcing)
    -- two sleepers with nothing to take are a deadlock, which this turn would have declared
    have starved' := wakeful.isStarved_peer (by simp [asleep, Phase.isParked]) rests.empty
    simp [starved] at starved'

/-- A turn leaves nobody asleep without good reason. -/
lemma Turn.wakeful {e : Option Event} (turn : Turn next i m e m') (wakeful : m.Wakeful next) :
    m'.Wakeful next := by
  intro j
  obtain rfl | rfl := Side.eq_or_eq_peer i j
  · exact turn.watched_self wakeful
  · exact turn.watched_peer wakeful

/-- Waking up for no reason leaves nobody asleep without good reason. -/
lemma Wakeful.rouse (asleep : m.phase i = .asleep) (wakeful : m.Wakeful next) :
    (m.put i (m.state i) .awake).Wakeful next := by
  intro j
  obtain rfl | rfl := Side.eq_or_eq_peer i j
  · apply (wakeful j).woken
    · simp
    · simp [asleep, Phase.woken]
    · simp
  · have watched := wakeful i.peer
    refine ⟨by simpa using watched.waiting, by simpa using watched.parked, fun asleep' _ => ?_⟩
    have rests := watched.asleep (by simpa using asleep') (by simp [asleep])
    refine ⟨rests.empty, rests.deadlocked, rests.finished, ?_⟩
    simpa [asleep, Phase.isParked] using rests.peer

/-- Threads about to begin are not asleep. -/
lemma wakeful_fresh (states : Both α) : (fresh states).Wakeful next := by
  intro i
  apply Watched.of_not_parked
  · simp [Phase.isParked]
  · cases i <;> rfl

/-- Nobody sleeps without good reason wherever a schedule leads. -/
lemma wakeful_of_follow {states : Both α} {moves : List Move}
    (h : (fresh states).follow next moves = some m) : m.Wakeful next :=
  follow_preserves Turn.wakeful Wakeful.rouse h (wakeful_fresh states)

end Tandem.Monitor
