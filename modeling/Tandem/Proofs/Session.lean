import Tandem.Proofs.Monitor.Confluence
import Tandem.Proofs.Monitor.Delivery
import Tandem.Session.Endpoint
import Tandem.Session.Performer

/-!
# The link in a session

A call that a side can take gives its thread a new task, and then the threads take turns until they
come to rest (`Session.made_of_call`). So a session is a schedule like any other, except that a
thread with nothing left to do may be given a task in between (`Monitor.Driven`). A new task changes
nothing on the link; therefore what holds of the link in every schedule holds in every session too:
nobody sleeps without good reason, and nothing is lost, made up or put out of order.

Between two calls the threads are at rest, and a call is under way on exactly those sides that are
parked (`Session.Sound`). Every call keeps this (`Session.Sound.made`), and so do calls that are
made one after another (`Session.link_of_calls`). The sessions of bare endpoints and those of
machines begin so, and the end of a session is a few more calls (`Session.calls_of_run`).
-/

namespace Tandem

namespace Monitor

variable {α : Type} {next : α → Option (Request α)}

/-- Side `i` has nothing left to do. -/
structure Idle (next : α → Option (Request α)) (m : Monitor α) (i : Side) : Prop where
  ready : m.phase i = .ready
  rest : next (m.state i) = none

/-- The threads make moves, and threads that have nothing left to do are given new tasks. -/
inductive Driven (next : α → Option (Request α)) (m : Monitor α) :
    History → Monitor α → Prop where
  | start :
    Driven next m [] m
  | turn {h m₁ i e m₂} :
    Driven next m h m₁ →
    Turn next i m₁ e m₂ →
    Driven next m (h ++ .single i e) m₂
  | rouse {h m₁ i} :
    Driven next m h m₁ →
    m₁.phase i = .asleep →
    Driven next m h (m₁.put i (m₁.state i) .awake)
  | task {h m₁ i a} :
    Driven next m h m₁ →
    m₁.Idle next i →
    Driven next m h (m₁.put i a .ready)

variable {m m₁ m₂ : Monitor α} {i j : Side} {h h' : History} {e : Option Event}
  {moves : List Move}

/-- A schedule goes on from where the threads were driven to. -/
lemma Driven.follow (driven : Driven next m h m₁) (follow : m₁.follow next moves = some m₂) :
    Driven next m (h ++ m₁.history next moves) m₂ :=
  follow_records (fun turn before => before.turn turn) (fun asleep before => before.rouse asleep)
    follow driven

/-- Threads can be driven on from where they were driven to. -/
lemma Driven.trans (driven : Driven next m h m₁) (more : Driven next m₁ h' m₂) :
    Driven next m (h ++ h') m₂ := by
  induction more with
  | start =>
    rw [List.append_nil]
    exact driven
  | turn _ turn ih =>
    rw [← List.append_assoc]
    exact ih.turn turn
  | rouse _ asleep ih => exact ih.rouse asleep
  | task _ idle ih => exact ih.task idle

/-- A new task makes nobody sleep, and takes no reason to sleep away from the other side. -/
lemma Wakeful.task (idle : m.Idle next i) (wakeful : m.Wakeful next) (a : α) :
    (m.put i a .ready).Wakeful next := by
  intro j
  obtain rfl | rfl := Side.eq_or_eq_peer i j
  · apply Watched.of_not_parked
    · simp [Phase.isParked]
    · rw [link_put, (wakeful _).waiting, idle.ready, Phase.isParked]
  · have silent : m.phase i ≠ .announcing := by simp [idle.ready]
    exact (wakeful i.peer).of_ready silent (by simp) (by simp) (by simp) rfl rfl rfl rfl

/-- However the threads are driven, nobody sleeps without good reason. -/
lemma Driven.wakeful (driven : Driven next m h m₁) (wakeful : m.Wakeful next) :
    m₁.Wakeful next := by
  induction driven with
  | start => exact wakeful
  | turn _ turn ih => exact turn.wakeful ih
  | rouse _ asleep ih => exact ih.rouse asleep
  | task _ idle ih => exact ih.task idle _

/-- However the threads are driven, what was sent is what was received and what is still in the
queues. -/
lemma Driven.delivers (driven : Driven next m h' m₁) (delivers : m.Delivers h) :
    m₁.Delivers (h ++ h') := by
  induction driven with
  | start =>
    rw [List.append_nil]
    exact delivers
  | turn _ turn ih =>
    rw [← List.append_assoc]
    exact turn.delivers ih
  | rouse _ _ ih => exact ih
  | task _ _ ih => exact ih

/-- A side with nothing left to do has no turn. -/
lemma Idle.not_turn (idle : m.Idle next i) : ¬Turn next i m e m₁ := by
  intro turn
  cases turn with
  | announce phase => cases idle.ready.symm.trans phase
  | _ ask => cases idle.rest.symm.trans ask.request

/-- Threads that have nothing left to do are at rest. -/
lemma AtRest.of_idle (idle : ∀ i, m.Idle next i) : m.AtRest next := by
  intro i
  refine Option.eq_none_iff_forall_ne_some.2 fun m' acts => ?_
  exact (idle i).not_turn (turn_of_act acts)

/-- A turn of the other side leaves a side with nothing to do. -/
lemma Idle.turn (idle : m.Idle next i) (turn : Turn next j m e m₁) : m₁.Idle next i := by
  obtain rfl | rfl := Side.eq_or_eq_peer j i
  · exact absurd turn idle.not_turn
  · refine ⟨?_, ?_⟩
    · have ready := idle.ready
      -- a wake-up does nothing to a side that is ready
      cases turn <;> simp [ready, Phase.woken]
    · rw [turn.state_peer]
      exact idle.rest

/-- A side with nothing left to do is not woken, and is left so when the other side is. -/
lemma Idle.rouse (asleep : m.phase j = .asleep) (idle : m.Idle next i) :
    (m.put j (m.state j) .awake).Idle next i := by
  obtain rfl | rfl := Side.eq_or_eq_peer j i
  · cases idle.ready.symm.trans asleep
  · exact ⟨by simpa using idle.ready, by simpa using idle.rest⟩

/-- A side with nothing left to do has nothing to do wherever a schedule leads. -/
lemma Idle.follow (idle : m.Idle next i) (follow : m.follow next moves = some m₁) :
    m₁.Idle next i :=
  follow_preserves (fun turn before => before.turn turn) Idle.rouse follow idle

/-- A side that is not parked has nothing left to do when the threads are at rest. -/
lemma AtRest.idle (rest : m.AtRest next) (up : (m.phase i).isParked = false) : m.Idle next i := by
  cases phase : m.phase i with
  | ready => exact ⟨phase, rest.request_eq_none (by simp [phase])⟩
  | asleep => simp [phase, Phase.isParked] at up
  | awake => simp [phase, Phase.isParked] at up
  | announcing => exact absurd phase (rest.not_announcing i)

/-- A side that is parked when the threads are at rest sleeps with good reason. -/
lemma AtRest.rests_of_parked (rest : m.AtRest next) (wakeful : m.Wakeful next)
    (parked : (m.phase i).isParked = true) : m.Rests i := by
  obtain ⟨after, receives⟩ := (wakeful i).parked parked
  have asleep : m.phase i = .asleep := by
    refine Decidable.byContradiction fun awake => ?_
    cases receives.symm.trans (rest.request_eq_none awake)
  exact (rest.rests wakeful asleep).1

end Monitor

namespace Session

open Monitor (Driven)

/-- Whether a call is under way. -/
def Standing.underWay : Standing → Bool
  | .busy | .leaving => true
  | .idle | .dropped => false

variable {κ ρ α : Type}

/-- The task that a call gives to a thread. -/
def Call.task (agent : Agent κ ρ α) : Call κ → α → α
  | .serve call => agent.start call
  | .drop => agent.leave

/-- What a call comes to. It is ignored, or its thread is given a task and the threads take turns
until they are at rest; then a call is still under way on the sides that are parked. -/
inductive Made (agent : Agent κ ρ α) (s : Session α) (i : Side) (c : Call κ) :
    Session α → Prop where
  | ignored :
    s.standing.get i ≠ .idle →
    Made agent s i c s
  | served {turns : List Side} {s'} :
    s.standing.get i = .idle →
    (s.monitor.put i (c.task agent (s.monitor.state i)) .ready).follow agent.next
      (turns.map .act) = some s'.monitor →
    s'.monitor.AtRest agent.next →
    (∀ j, (s'.standing.get j).underWay =
      ((s'.monitor.phase j).isParked && (decide (j = i) || (s.standing.get j).underWay))) →
    Made agent s i c s'

variable {agent : Agent κ ρ α} {s s' : Session α} {i : Side} {c : Call κ} {reply : Reply ρ}
  {fuel : Nat}

/-- A call that has begun gives its thread a task. -/
lemma monitor_begin (agent : Agent κ ρ α) (s : Session α) (i : Side) (c : Call κ) :
    (s.begin agent i c).monitor =
      s.monitor.put i (c.task agent (s.monitor.state i)) .ready := by
  cases c <;> rfl

/-- A call that has begun is under way, beside those that were so before. -/
lemma underWay_begin (agent : Agent κ ρ α) (s : Session α) (i : Side) (c : Call κ) (j : Side) :
    ((s.begin agent i c).standing.get j).underWay =
      (decide (j = i) || (s.standing.get j).underWay) := by
  obtain rfl | rfl := Side.eq_or_eq_peer i j
  · cases c <;> simp [begin, Standing.underWay]
  · cases c <;> simp [begin]

/-- At rest the calls of the sides that are not parked have come to their end. -/
lemma underWay_conclude (agent : Agent κ ρ α) (s : Session α) (i : Side) :
    (s.conclude agent i).1.underWay =
      ((s.monitor.phase i).isParked && (s.standing.get i).underWay) := by
  unfold conclude
  cases (s.monitor.phase i).isParked with
  | true => simp
  | false => cases s.standing.get i <;> rfl

/-- Making a call is giving a thread a task and letting the threads take turns. -/
lemma made_of_call (called : s.call agent fuel i c = some (reply, s')) : Made agent s i c s' := by
  unfold call at called
  cases standing : s.standing.get i with
  | idle =>
    rw [standing] at called
    obtain ⟨m, settles, eq⟩ := Option.map_eq_some_iff.1 called
    cases eq
    obtain ⟨turns, follow, rest⟩ := Monitor.exists_follow_of_settle settles
    rw [monitor_begin] at follow
    refine .served standing follow rest fun j => ?_
    rw [← underWay_begin agent s i c j]
    cases j with
    | zero => exact underWay_conclude agent _ .zero
    | one => exact underWay_conclude agent _ .one
  | _ =>
    rw [standing] at called
    cases called
    exact .ignored (by simp [standing])

/-- What is known of a session between two calls, after the events `h`. -/
structure Sound (agent : Agent κ ρ α) (h : History) (s : Session α) : Prop where
  wakeful : s.monitor.Wakeful agent.next
  delivers : s.monitor.Delivers h
  atRest : s.monitor.AtRest agent.next
  parked : ∀ i, (s.monitor.phase i).isParked = (s.standing.get i).underWay

variable {h : History}

/-- A side with no call under way has nothing left to do. -/
lemma Sound.idle (sound : s.Sound agent h) (free : (s.standing.get i).underWay = false) :
    s.monitor.Idle agent.next i :=
  sound.atRest.idle ((sound.parked i).trans free)

/-- A side waits exactly while a call is under way there. -/
lemma Sound.waiting (sound : s.Sound agent h) (i : Side) :
    s.monitor.link.waiting.get i = (s.standing.get i).underWay := by
  rw [← sound.parked]
  exact (sound.wakeful i).waiting

/-- A side with a call under way sleeps with good reason. -/
lemma Sound.rests (sound : s.Sound agent h) (busy : (s.standing.get i).underWay = true) :
    s.monitor.Rests i :=
  sound.atRest.rests_of_parked sound.wakeful ((sound.parked i).trans busy)

/-- Calls are never under way on both sides, because the later of the two would have found the
deadlock. -/
lemma Sound.peer_free (sound : s.Sound agent h) (busy : (s.standing.get i).underWay = true) :
    (s.standing.get i.peer).underWay = false := by
  cases both : (s.standing.get i.peer).underWay with
  | false => rfl
  | true =>
    have parked := (sound.parked i.peer).trans both
    exact absurd ⟨parked, (sound.rests both).empty⟩ (sound.rests busy).peer

/-- A call drives the threads. -/
lemma Made.driven (made : Made agent s i c s') (sound : s.Sound agent h) :
    ∃ h', Driven agent.next s.monitor h' s'.monitor := by
  cases made with
  | ignored => exact ⟨_, .start⟩
  | served standing follow =>
    have idle := sound.idle (i := i) (by rw [standing, Standing.underWay])
    exact ⟨_, (Driven.start.task idle).follow follow⟩

/-- After a call the sides that are parked are those with a call under way. -/
lemma Made.parked (made : Made agent s i c s') (sound : s.Sound agent h) (j : Side) :
    (s'.monitor.phase j).isParked = (s'.standing.get j).underWay := by
  cases made with
  | ignored => exact sound.parked j
  | served standing follow rest underWay =>
    rw [underWay j]
    obtain rfl | rfl := Side.eq_or_eq_peer i j
    · simp
    · cases before : (s.standing.get i.peer).underWay with
      | true => simp
      | false =>
        -- the other side has nothing to do, before the turns and so after them
        have idle := sound.idle before
        have begun : (s.monitor.put i (c.task agent (s.monitor.state i)) .ready).Idle agent.next
            i.peer := ⟨by simpa using idle.ready, by simpa using idle.rest⟩
        rw [(begun.follow follow).ready]
        rfl

/-- A call leaves a session sound. -/
lemma Sound.made (sound : s.Sound agent h) (made : Made agent s i c s') :
    ∃ h', Driven agent.next s.monitor h' s'.monitor ∧ s'.Sound agent (h ++ h') := by
  obtain ⟨h', driven⟩ := made.driven sound
  have atRest : s'.monitor.AtRest agent.next := by
    cases made with
    | ignored => exact sound.atRest
    | served _ _ rest => exact rest
  exact ⟨h', driven, driven.wakeful sound.wakeful, driven.delivers sound.delivers, atRest,
    made.parked sound⟩

/-- Calls leave a session sound. -/
lemma Sound.calls {cs : List (Side × Call κ)} {replies : List (Reply ρ)}
    (sound : s.Sound agent h) (called : s.calls agent fuel cs = some (replies, s')) :
    ∃ h', Driven agent.next s.monitor h' s'.monitor ∧ s'.Sound agent (h ++ h') := by
  induction cs generalizing s h replies with
  | nil =>
    cases called
    rw [← List.append_nil h] at sound
    exact ⟨_, .start, sound⟩
  | cons first rest ih =>
    obtain ⟨⟨reply, s₁⟩, call, called⟩ := Option.bind_eq_some_iff.1 called
    obtain ⟨⟨later, s₂⟩, calls, eq⟩ := Option.bind_eq_some_iff.1 called
    cases eq
    obtain ⟨h₁, driven₁, sound₁⟩ := sound.made (made_of_call call)
    obtain ⟨h₂, driven₂, sound₂⟩ := ih sound₁ calls
    rw [List.append_assoc] at sound₂
    exact ⟨h₁ ++ h₂, driven₁.trans driven₂, sound₂⟩

/-- Calls are made one after another. -/
lemma calls_append {cs cs' : List (Side × Call κ)} {replies replies' : List (Reply ρ)}
    {s₁ : Session α} (called : s.calls agent fuel cs = some (replies, s₁))
    (more : s₁.calls agent fuel cs' = some (replies', s')) :
    s.calls agent fuel (cs ++ cs') = some (replies ++ replies', s') := by
  induction cs generalizing s replies with
  | nil =>
    cases called
    exact more
  | cons first rest ih =>
    obtain ⟨⟨reply, s₂⟩, call, called⟩ := Option.bind_eq_some_iff.1 called
    obtain ⟨⟨later, s₃⟩, calls, eq⟩ := Option.bind_eq_some_iff.1 called
    cases eq
    refine Option.bind_eq_some_iff.2 ⟨_, call, ?_⟩
    exact Option.bind_eq_some_iff.2 ⟨_, ih calls, rfl⟩

/-- Dropping sides is making calls, one for each of the sides that is idle. -/
lemma calls_of_dropAll {sides : List Side} {replies : List (Reply ρ)}
    (dropped : s.dropAll agent fuel sides = some replies) :
    ∃ order : List Side, order.Sublist sides ∧
      ∃ s', s.calls agent fuel (order.map (·, .drop)) = some (replies, s') := by
  induction sides generalizing s replies with
  | nil =>
    cases dropped
    exact ⟨[], .refl _, s, rfl⟩
  | cons i rest ih =>
    unfold dropAll at dropped
    split at dropped
    · obtain ⟨⟨reply, s₁⟩, call, dropped⟩ := Option.bind_eq_some_iff.1 dropped
      obtain ⟨later, others, eq⟩ := Option.bind_eq_some_iff.1 dropped
      cases eq
      obtain ⟨order, sub, s', calls⟩ := ih others
      refine ⟨i :: order, sub.cons_cons i, s', Option.bind_eq_some_iff.2 ⟨_, call, ?_⟩⟩
      exact Option.bind_eq_some_iff.2 ⟨_, calls, rfl⟩
    · obtain ⟨order, sub, calls⟩ := ih dropped
      exact ⟨order, sub.cons i, calls⟩

/-- The end of a session is a few more calls. -/
lemma calls_of_run {cs : List (Side × Call κ)} {replies last : List (Reply ρ)}
    (ran : s.run agent fuel cs = some (replies, last)) :
    ∃ order : List Side, order.Sublist [.zero, .one, .zero] ∧
      ∃ s', s.calls agent fuel (cs ++ order.map (·, .drop)) = some (replies ++ last, s') := by
  obtain ⟨⟨_, s₁⟩, called, ran⟩ := Option.bind_eq_some_iff.1 ran
  obtain ⟨_, dropped, eq⟩ := Option.bind_eq_some_iff.1 ran
  cases eq
  obtain ⟨order, sub, s', calls⟩ := calls_of_dropAll dropped
  exact ⟨order, sub, s', calls_append called calls⟩

/-- A session on a fresh link is sound if no thread has anything to do before the first call. -/
lemma sound_fresh {states : Both α} (rest : ∀ i, agent.next (states.get i) = none) :
    Sound agent [] { monitor := .fresh states } := by
  refine ⟨Monitor.wakeful_fresh states, Monitor.delivers_fresh states, .of_idle fun i => ?_, ?_⟩
  · exact ⟨Monitor.phase_fresh states i, by rw [Monitor.state_fresh, rest]⟩
  · intro i
    cases i <;> rfl

/-- In every session that begins sound, what was sent is what was received and what is still in the
queues. A side waits exactly while a call is under way there. Then it sleeps with good reason, and
no call is under way on the other side. -/
theorem link_of_calls {cs : List (Side × Call κ)} {replies : List (Reply ρ)}
    (sound : s.Sound agent []) (called : s.calls agent fuel cs = some (replies, s')) :
    ∃ h, Driven agent.next s.monitor h s'.monitor ∧ s'.monitor.Delivers h ∧
      ∀ i, s'.monitor.link.waiting.get i = (s'.standing.get i).underWay ∧
        ((s'.standing.get i).underWay = true →
          s'.monitor.Rests i ∧ (s'.standing.get i.peer).underWay = false) := by
  obtain ⟨h, driven, sound'⟩ := sound.calls called
  refine ⟨h, driven, sound'.delivers, fun i => ⟨sound'.waiting i, fun busy => ?_⟩⟩
  exact ⟨sound'.rests busy, sound'.peer_free busy⟩

end Session

/-- The session on the ends of a fresh link begins sound. -/
lemma Endpoint.sound_session : session.Sound agent [] := by
  have rest (i : Side) : agent.next ((Both.ofFn fun side => { side }).get i) = none := by
    cases i <;> rfl
  exact Session.sound_fresh rest

/-- A session of two machines on a fresh link begins sound. -/
lemma Performer.sound_session (machines : Both Machine) :
    (session machines).Sound agent [] := by
  have rest (i : Side) : agent.next ((machines.map fun machine => { machine }).get i) = none := by
    cases i <;> rfl
  exact Session.sound_fresh rest

end Tandem
