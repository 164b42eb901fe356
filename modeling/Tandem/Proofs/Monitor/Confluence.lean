import Tandem.Proofs.Monitor.View
import Tandem.Proofs.Monitor.Wakeful

/-!
# The order of turns does not matter

Every turn of a side is a step of that side on the view of the threads, or it leaves the view as it
is and brings the side nearer to sleep (`Turn.view`). The steps on views do not get in each other's
way, so two schedules of obedient threads that come to rest come to the same view, and every
schedule can be carried on to that rest: letting the sides take turns is enough.
-/

namespace Tandem

namespace Phase

/-- How many turns a thread can take from here before it sleeps, if the view does not change. -/
def weight : Phase → Nat
  | .asleep => 0
  | .ready | .awake => 1
  -- a wake-up may bring back the peer as well
  | .announcing => 3

/-- A phase weighs three turns at most. -/
lemma weight_le (p : Phase) : p.weight ≤ 3 := by
  cases p <;> decide

/-- A wake-up adds one turn at most to the weight of a phase. -/
lemma weight_woken (p : Phase) : p.woken.weight ≤ p.weight + 1 := by
  cases p <;> decide

end Phase

namespace Monitor

variable {α : Type} {next : α → Option (Request α)} {m m' : Monitor α} {i : Side}

/-- What matters of the threads and the link. -/
def view (m : Monitor α) : View α where
  states := m.threads.map Thread.state
  inbound := m.link.inbound.map Queue.toList
  finished := m.link.finished
  deadlocked := m.link.deadlocked

/-- A view keeps the states of the threads. -/
@[simp] lemma states_view (m : Monitor α) (i : Side) : m.view.states.get i = m.state i := by
  simp [view, state]

/-- A view keeps what is in the queues. -/
@[simp] lemma inbound_view (m : Monitor α) (i : Side) :
    m.view.inbound.get i = (m.link.inbound.get i).toList := by
  simp [view]

/-- A view keeps who has closed. -/
@[simp] lemma finished_view (m : Monitor α) : m.view.finished = m.link.finished := rfl

/-- A view keeps whether there is a deadlock. -/
@[simp] lemma deadlocked_view (m : Monitor α) : m.view.deadlocked = m.link.deadlocked := rfl

/-- How many turns the two sides can take before both sleep, if the view does not change. -/
def weight (m : Monitor α) : Nat :=
  (m.phase .zero).weight + (m.phase .one).weight

/-- The weight is the sum over both sides, whichever comes first. -/
lemma weight_eq (m : Monitor α) (i : Side) :
    m.weight = (m.phase i).weight + (m.phase i.peer).weight := by
  cases i with
  | zero => rfl
  | one => exact Nat.add_comm _ _

/-- The phases of both sides weigh six turns at most. -/
lemma weight_le (m : Monitor α) : m.weight ≤ 6 :=
  Nat.add_le_add (Phase.weight_le _) (Phase.weight_le _)

/-- Monitors look alike if nothing that matters has changed. -/
lemma view_eq (i : Side) (self : m'.state i = m.state i) (peer : m'.state i.peer = m.state i.peer)
    (inbound : m'.link.inbound = m.link.inbound) (finished : m'.link.finished = m.link.finished)
    (deadlocked : m'.link.deadlocked = m.link.deadlocked) : m'.view = m.view := by
  apply View.ext
  · exact Both.ext_peer i (by simpa using self) (by simpa using peer)
  · simp [view, inbound]
  · exact finished
  · exact deadlocked

/-- A monitor looks as after an effect if its thread, the queues and the flags are as the effect
leaves them. -/
lemma view_eq_apply (e : Effect α) (self : m'.state i = e.after)
    (peer : m'.state i.peer = m.state i.peer)
    (inbound : (m'.link.inbound.get i).toList =
      if e.takes then (m.link.inbound.get i).toList.tail else (m.link.inbound.get i).toList)
    (inbound' : (m'.link.inbound.get i.peer).toList = (m.link.inbound.get i.peer).toList ++ e.sends)
    (finished : m'.link.finished = m.link.finished.set i (m.link.finished.get i || e.closes))
    (deadlocked : m'.link.deadlocked = (m.link.deadlocked || e.deadlocks)) :
    m'.view = m.view.apply i e := by
  apply View.ext
  · exact Both.ext_peer i (by simpa using self) (by simpa using peer)
  · exact Both.ext_peer i (by simpa using inbound) (by simpa using inbound')
  · exact finished
  · exact deadlocked

/-- A turn is a step on the view, or it leaves the view and brings the threads nearer to sleep. -/
lemma Turn.view {e : Option Event} (turn : Turn next i m e m') (wakeful : m.Wakeful next)
    (quiet : m.view.Quiet next) :
    (m'.view = m.view ∧ m'.weight < m.weight) ∨ View.Step next i m.view m'.view := by
  cases turn with
  | announce phase =>
    have woken := Phase.weight_woken (m.phase i.peer)
    refine .inl ⟨view_eq i (by simp) (by simp) rfl rfl rfl, ?_⟩
    rw [weight_eq _ i, weight_eq _ i]
    simp only [phase_notify_self, phase_put_self, phase_notify_peer, phase_put_peer, phase]
    rw [show Phase.ready.weight = 1 from rfl, show Phase.announcing.weight = 3 from rfl]
    omega
  | work ask =>
    refine .inr ⟨_, .work (by simpa using ask.request), ?_⟩
    exact view_eq_apply _ (by simp) (by simp) (by simp) (by simp) (by simp) (by simp)
  | send ask =>
    refine .inr ⟨_, .send (by simpa using ask.request), ?_⟩
    exact view_eq_apply _ (by simp) (by simp) (by simp) (by simp) (by simp) (by simp)
  | take ask pop =>
    have front := Queue.toList_of_pop?_eq_some pop
    refine .inr ⟨_, .take (by simpa using ask.request) (by simpa using front), ?_⟩
    exact view_eq_apply _ (by simp) (by simp) (by simp [front]) (by simp) (by simp) (by simp)
  | refuse ask empty ended =>
    cases deadlocked : m.link.deadlocked with
    | true =>
      refine .inr ⟨_, .deadlock (by simpa using ask.request) (by simpa using empty)
        (.inl deadlocked), ?_⟩
      exact view_eq_apply _ (by simp) (by simp) (by simp) (by simp) (by simp) (by simp [deadlocked])
    | false =>
      have finished : m.link.finished.get i.peer = true := by simpa [deadlocked] using ended
      refine .inr ⟨_, .refuse (by simpa using ask.request) (by simpa using empty) deadlocked
        finished, ?_⟩
      exact view_eq_apply _ (by simp) (by simp) (by simp) (by simp) (by simp) (by simp)
  | deadlock ask empty deadlocked finished starved =>
    -- a starved peer is parked, so it asks for a value
    obtain ⟨waiting, empty'⟩ := Link.isStarved_iff.1 starved
    have parked := (wakeful i.peer).parked ((wakeful i.peer).waiting.symm.trans waiting)
    have stuck : m.view.Stuck next i.peer := ⟨by simpa using parked, by simpa using empty'⟩
    refine .inr ⟨_, .deadlock (by simpa using ask.request) (by simpa using empty)
      (.inr ⟨finished, stuck⟩), ?_⟩
    exact view_eq_apply _ (by simp) (by simp) (by simp) (by simp) (by simp) (by simp)
  | park ask =>
    refine .inl ⟨view_eq i (by simp) (by simp) rfl rfl rfl, ?_⟩
    rw [weight_eq _ i, weight_eq _ i]
    obtain active | active := ask.active
    · simp [active, Phase.weight]
    · simp [active, Phase.weight]
  | close ask =>
    refine .inr ⟨_, .close (by simpa using ask.request), ?_⟩
    exact view_eq_apply _ (by simp) (by simp) (by simp) (by simp) (by simp) (by simp)
  | closeAgain ask finished =>
    have rest := quiet.finished i finished
    simp [ask.request] at rest

/-- A side that is to announce something has a turn, so there is none at rest. -/
lemma AtRest.not_announcing (rest : m.AtRest next) (i : Side) : m.phase i ≠ .announcing := by
  intro announcing
  simpa [act, announcing] using rest i

/-- A side that is not asleep at rest asks for nothing. -/
lemma AtRest.request_eq_none (rest : m.AtRest next) (awake : m.phase i ≠ .asleep) :
    next (m.state i) = none := by
  cases request : next (m.state i) with
  | none => rfl
  | some r =>
    have active : m.phase i = .ready ∨ m.phase i = .awake := by
      cases phase : m.phase i with
      | ready => exact .inl rfl
      | awake => exact .inr rfl
      | asleep => exact absurd phase awake
      | announcing => exact absurd phase (rest.not_announcing i)
    simpa [rest i] using Asks.isSome_act ⟨active, request⟩

/-- A thread at rest that sleeps has good reason to, and its peer does not sleep. -/
lemma AtRest.rests (rest : m.AtRest next) (wakeful : m.Wakeful next)
    (asleep : m.phase i = .asleep) : m.Rests i ∧ m.phase i.peer ≠ .asleep := by
  have rests := (wakeful i).asleep asleep (rest.not_announcing _)
  refine ⟨rests, fun asleep' => ?_⟩
  have rests' := (wakeful i.peer).asleep asleep' (rest.not_announcing _)
  exact rests.peer ⟨by simp [asleep', Phase.isParked], rests'.empty⟩

/-- Threads at rest have a view in which nothing is left to do. -/
lemma AtRest.final (rest : m.AtRest next) (wakeful : m.Wakeful next) :
    Final (View.Step next) m.view := by
  rintro i _ ⟨e, acts, -⟩
  by_cases asleep : m.phase i = .asleep
  · obtain ⟨rests, awake⟩ := rest.rests wakeful asleep
    obtain ⟨after, request⟩ := (wakeful i).parked (by simp [asleep, Phase.isParked])
    cases acts with
    | take _ inbound => simp [rests.empty] at inbound
    | refuse _ _ _ finished => simp [rests.finished] at finished
    | deadlock _ _ ended =>
      obtain deadlocked | ⟨_, stuck⟩ := ended
      · simp [rests.deadlocked] at deadlocked
      · obtain ⟨after', request'⟩ := stuck.receives
        simp [rest.request_eq_none awake] at request'
    | _ request' => simp [request] at request'
  · exact View.not_acts_of_rest (by simpa using rest.request_eq_none asleep) acts

/-- What is known of every state that a schedule reaches. -/
structure Sound (next : α → Option (Request α)) (m : Monitor α) : Prop where
  wakeful : m.Wakeful next
  quiet : m.view.Quiet next

/-- Threads about to begin are sound. -/
lemma sound_fresh (states : Both α) : (fresh states).Sound next := by
  refine ⟨wakeful_fresh states, ?_, ?_⟩
  · intro i finished
    cases i <;> cases finished
  · intro deadlocked
    cases deadlocked

/-- A turn keeps obedient threads sound. -/
lemma Turn.sound {e : Option Event} (obedient : Obedient next) (turn : Turn next i m e m')
    (sound : m.Sound next) : m'.Sound next := by
  refine ⟨turn.wakeful sound.wakeful, ?_⟩
  obtain ⟨same, -⟩ | step := turn.view sound.wakeful sound.quiet
  · rw [same]
    exact sound.quiet
  · exact (View.independent obedient).keeps sound.quiet step

/-- Waking up for no reason cannot be seen in the view. -/
lemma view_rouse (m : Monitor α) (i : Side) : (m.put i (m.state i) .awake).view = m.view :=
  view_eq i (by simp) (by simp) rfl rfl rfl

/-- Waking up for no reason keeps threads sound. -/
lemma Sound.rouse (asleep : m.phase i = .asleep) (sound : m.Sound next) :
    (m.put i (m.state i) .awake).Sound next := by
  refine ⟨sound.wakeful.rouse asleep, ?_⟩
  rw [view_rouse]
  exact sound.quiet

/-- A schedule is a walk on views. -/
lemma Sound.walk_of_follow (obedient : Obedient next) {moves : List Move} (sound : m.Sound next)
    (follow : m.follow next moves = some m') :
    m'.Sound next ∧ ∃ n, Walk (View.Step next) n m.view m'.view := by
  refine follow_preserves
    (P := fun m' => m'.Sound next ∧ ∃ n, Walk (View.Step next) n m.view m'.view)
    ?_ ?_ follow ⟨sound, 0, .nil⟩
  · rintro m₁ m₂ i e turn ⟨sound, n, walk⟩
    refine ⟨turn.sound obedient sound, ?_⟩
    obtain ⟨same, -⟩ | step := turn.view sound.wakeful sound.quiet
    · exact ⟨n, same ▸ walk⟩
    · exact ⟨n + 1, walk.append (.single step)⟩
  · rintro m₁ i asleep ⟨sound, n, walk⟩
    exact ⟨sound.rouse asleep, n, (view_rouse m₁ i).symm ▸ walk⟩

section Descent

variable {D : Nat → Monitor α → Prop}
  (descends : ∀ {bound m m' i}, D bound m → m.act next i = some m' → ∃ less < bound, D less m')

include descends

/-- If every turn lowers a bound, so does a round in which a side has a turn. -/
lemma round_descends {bound : Nat} (holds : D bound m) (round : m.round next = some m') :
    ∃ less < bound, D less m' := by
  unfold Monitor.round at round
  split at round
  · next m₁ zero =>
    cases round
    obtain ⟨less, lt, holds₁⟩ := descends holds zero
    cases one : m₁.act next .one with
    | none => exact ⟨less, lt, holds₁⟩
    | some m₂ =>
      obtain ⟨less', lt', holds₂⟩ := descends holds₁ one
      exact ⟨less', Nat.lt_trans lt' lt, holds₂⟩
  · exact descends holds round

/-- If there is a bound that every turn lowers, then the threads settle. -/
lemma settle_of_descent {bound fuel : Nat} (holds : D bound m) (enough : bound < fuel) :
    ∃ m', m.settle next fuel = some m' := by
  induction fuel generalizing m bound with
  | zero => cases enough
  | succ fuel ih =>
    rw [Monitor.settle]
    cases round : m.round next with
    | none => exact ⟨m, rfl⟩
    | some m₁ =>
      obtain ⟨less, lt, holds₁⟩ := round_descends descends holds round
      exact ih holds₁ (by omega)

end Descent

/-- Threads that can come to rest are bounded in the turns they can still take. -/
structure Due (next : α → Option (Request α)) (v : View α) (bound : Nat) (m : Monitor α) :
    Prop where
  sound : m.Sound next
  final : Final (View.Step next) v
  walk : ∃ n, Walk (View.Step next) n m.view v ∧ 7 * n + m.weight ≤ bound

/-- Threads whose view has a walk to a final one are bounded by its length and their weight. -/
lemma Due.of_walk {v : View α} {n : Nat} (sound : m.Sound next) (final : Final (View.Step next) v)
    (walk : Walk (View.Step next) n m.view v) : m.Due next v (7 * n + m.weight) :=
  ⟨sound, final, n, walk, Nat.le_refl _⟩

/-- Every turn brings threads that can come to rest nearer to it. -/
lemma Due.act (obedient : Obedient next) {v : View α} {bound : Nat} (due : m.Due next v bound)
    (act : m.act next i = some m') : ∃ less < bound, m'.Due next v less := by
  obtain ⟨sound, final, n, walk, le⟩ := due
  have turn := turn_of_act act
  obtain ⟨same, less⟩ | step := turn.view sound.wakeful sound.quiet
  · refine ⟨7 * n + m'.weight, by omega, turn.sound obedient sound, final, n, ?_, Nat.le_refl _⟩
    rw [same]
    exact walk
  · obtain ⟨k, rfl, rest⟩ := walk.after_step (View.independent obedient) sound.quiet step final
    have weight := m'.weight_le
    exact ⟨7 * k + m'.weight, by omega, .of_walk (turn.sound obedient sound) final rest⟩

/-- Threads that can come to rest do so when they take turns. -/
lemma Due.settle (obedient : Obedient next) {v : View α} {bound fuel : Nat}
    (due : m.Due next v bound) (enough : bound < fuel) : ∃ m', m.settle next fuel = some m' :=
  settle_of_descent (fun due act => due.act obedient act) due enough

section Runs

variable {states : Both α} {moves moves' : List Move}

/-- However a run began, it can be carried on to the same end as any other. -/
lemma walk_of_follow (obedient : Obedient next) (follow : (fresh states).follow next moves = some m)
    (rest : m.AtRest next) (follow' : (fresh states).follow next moves' = some m') :
    m'.Sound next ∧ Final (View.Step next) m.view ∧
      ∃ n, Walk (View.Step next) n m'.view m.view := by
  obtain ⟨sound, n, walk⟩ := (sound_fresh states).walk_of_follow obedient follow
  obtain ⟨sound', n', walk'⟩ := (sound_fresh states).walk_of_follow obedient follow'
  have final := rest.final sound.wakeful
  obtain ⟨l, -, left⟩ :=
    walk.completes (View.independent obedient) (sound_fresh states).quiet final walk'
  exact ⟨sound', final, l, left⟩

/-- Two runs that have come to rest have come to the same view. -/
lemma view_eq_of_atRest (obedient : Obedient next)
    (follow : (fresh states).follow next moves = some m) (rest : m.AtRest next)
    (follow' : (fresh states).follow next moves' = some m') (rest' : m'.AtRest next) :
    m'.view = m.view := by
  obtain ⟨sound', final, n, walk⟩ := walk_of_follow obedient follow rest follow'
  exact (walk.of_final (rest'.final sound'.wakeful)).2

/-- If one run comes to rest, then every run does once the sides take turns. -/
lemma settle_of_follow (obedient : Obedient next)
    (follow : (fresh states).follow next moves = some m) (rest : m.AtRest next)
    (follow' : (fresh states).follow next moves' = some m') :
    ∃ fuel m'', m'.settle next fuel = some m'' := by
  obtain ⟨sound', final, n, walk⟩ := walk_of_follow obedient follow rest follow'
  exact ⟨_, (Due.of_walk sound' final walk).settle obedient (Nat.lt_succ_self _)⟩

end Runs

end Monitor

end Tandem
