import Tandem.Proofs.Diamond
import Tandem.Proofs.Monitor.Turn

/-!
# What a run comes to

Who waits, who has been woken and who is about to wake the other depends on the order in which the
sides take their turns. A `View` of the threads leaves all this out. It keeps the states of the
threads, what is in the queues, who has finished and whether there is a deadlock.

On views a side either has exactly one thing to do next or none at all (`View.Acts`), and as long as
the threads are well-behaved (`Obedient`) no side can take away from the other what it is about to
do (`Acts.persists`): a value comes in behind those already there, and an end is final. So the steps
of the two sides do not get in each other's way (`independent`).
-/

namespace Tandem

variable {α : Type} {next : α → Option (Request α)}

/-- A thread in this state may close its end, and does nothing else. -/
def Spent (next : α → Option (Request α)) (a : α) : Prop :=
  ∀ r, next a = some r → ∃ b, r = .close b

/-- Threads that stop once they are told that nothing will come, and that do nothing after they have
closed their end. -/
structure Obedient (next : α → Option (Request α)) : Prop where
  refused {a after} : next a = some (.receive after) → Spent next (after Link.policy .terminated)
  closed {a b} : next a = some (.close b) → next b = none

/-- Two threads and what lies between them. -/
@[ext] structure View (α : Type) where
  states : Both α
  inbound : Both (List Word)
  finished : Both Bool
  deadlocked : Bool

/-- What a side does to a view. -/
structure Effect (α : Type) where
  /-- The state in which its thread goes on. -/
  after : α
  /-- Whether it takes a value. -/
  takes : Bool := false
  sends : List Word := []
  closes : Bool := false
  /-- Whether it ends in a deadlock. -/
  deadlocks : Bool := false

namespace View

/-- What side `i` does to a view. -/
def apply (v : View α) (i : Side) (e : Effect α) : View α where
  states := v.states.set i e.after
  inbound :=
    (v.inbound.set i (if e.takes then (v.inbound.get i).tail else v.inbound.get i)).set i.peer
      (v.inbound.get i.peer ++ e.sends)
  finished := v.finished.set i (v.finished.get i || e.closes)
  deadlocked := v.deadlocked || e.deadlocks

/-- Side `i` asks for a value, and there is none. -/
structure Stuck (next : α → Option (Request α)) (v : View α) (i : Side) : Prop where
  receives : ∃ after, next (v.states.get i) = some (.receive after)
  empty : v.inbound.get i = []

/-- What side `i` does next. -/
inductive Acts (next : α → Option (Request α)) (v : View α) (i : Side) : Effect α → Prop where
  | work {after} :
    next (v.states.get i) = some (.work after) →
    Acts next v i { after }
  | send {w after} :
    next (v.states.get i) = some (.send w after) →
    Acts next v i { after, sends := [w] }
  | close {after} :
    next (v.states.get i) = some (.close after) →
    Acts next v i { after, closes := true }
  | take {after w rest} :
    next (v.states.get i) = some (.receive after) →
    v.inbound.get i = w :: rest →
    Acts next v i { after := after Link.policy (.value w), takes := true }
  | refuse {after} :
    next (v.states.get i) = some (.receive after) →
    v.inbound.get i = [] →
    v.deadlocked = false →
    v.finished.get i.peer = true →
    Acts next v i { after := after Link.policy .terminated }
  | deadlock {after} :
    next (v.states.get i) = some (.receive after) →
    v.inbound.get i = [] →
    v.deadlocked = true ∨ v.finished.get i.peer = false ∧ v.Stuck next i.peer →
    Acts next v i { after := after Link.policy .terminated, deadlocks := true }

/-- A step of side `i`. -/
def Step (next : α → Option (Request α)) (i : Side) (v v' : View α) : Prop :=
  ∃ e, v.Acts next i e ∧ v' = v.apply i e

/-- Side `i` is at the end of its run: there is no value for it, and it does nothing but learn of
that and close. -/
structure Ended (next : α → Option (Request α)) (v : View α) (i : Side) : Prop where
  empty : v.inbound.get i = []
  idle : (∃ after, next (v.states.get i) = some (.receive after)) ∨ Spent next (v.states.get i)

/-- A side that has finished asks for nothing, and a deadlock is the end of both runs. -/
structure Quiet (next : α → Option (Request α)) (v : View α) : Prop where
  finished : ∀ i, v.finished.get i = true → next (v.states.get i) = none
  deadlocked : v.deadlocked = true → ∀ i, v.Ended next i

variable {v v' : View α} {i : Side} {e f : Effect α}

section Apply

variable (v i e)

/-- An effect gives its side the state in which it goes on. -/
@[simp] lemma states_apply_self : (v.apply i e).states.get i = e.after := by
  simp [apply]

/-- An effect leaves the state of the other side. -/
@[simp] lemma states_apply_peer : (v.apply i e).states.get i.peer = v.states.get i.peer := by
  simp [apply]

/-- An effect takes the first value of its side, if it takes any. -/
@[simp] lemma inbound_apply_self : (v.apply i e).inbound.get i =
    if e.takes then (v.inbound.get i).tail else v.inbound.get i := by
  simp [apply]

/-- An effect puts what it sends behind the values of the other side. -/
@[simp] lemma inbound_apply_peer :
    (v.apply i e).inbound.get i.peer = v.inbound.get i.peer ++ e.sends := by
  simp [apply]

/-- An effect may close the end of its side. -/
@[simp] lemma finished_apply_self :
    (v.apply i e).finished.get i = (v.finished.get i || e.closes) := by
  simp [apply]

/-- An effect does not close the end of the other side. -/
@[simp] lemma finished_apply_peer : (v.apply i e).finished.get i.peer = v.finished.get i.peer := by
  simp [apply]

/-- An effect of the other side leaves the state. -/
@[simp] lemma states_apply_of_peer : (v.apply i.peer e).states.get i = v.states.get i := by
  simp [apply]

/-- An effect of the other side puts what it sends behind the values. -/
@[simp] lemma inbound_apply_of_peer :
    (v.apply i.peer e).inbound.get i = v.inbound.get i ++ e.sends := by
  simpa using inbound_apply_peer v i.peer e

/-- An effect of the other side does not close the end. -/
@[simp] lemma finished_apply_of_peer : (v.apply i.peer e).finished.get i = v.finished.get i := by
  simp [apply]

/-- A deadlock is completed by an effect, or lasts from before. -/
@[simp] lemma deadlocked_apply : (v.apply i e).deadlocked = (v.deadlocked || e.deadlocks) := rfl

end Apply

/-- A side that asks for nothing does nothing. -/
lemma not_acts_of_rest (rest : next (v.states.get i) = none) : ¬v.Acts next i e := by
  intro acts
  cases acts <;> simp_all

/-- A side that is stuck is at the end of its run. -/
lemma Stuck.ended (stuck : v.Stuck next i) : v.Ended next i :=
  ⟨stuck.empty, .inl stuck.receives⟩

/-- At the end of its run a side asks for a value or closes. -/
lemma Ended.request (ended : v.Ended next i) {r : Request α}
    (request : next (v.states.get i) = some r) :
    (∃ after, r = .receive after) ∨ ∃ after, r = .close after := by
  obtain ⟨after, receives⟩ | spent := ended.idle
  · exact .inl ⟨after, Option.some.inj (request.symm.trans receives)⟩
  · exact .inr (spent r request)

/-- A side at the end of its run sends nothing. -/
lemma Ended.sends_eq_nil (ended : v.Ended next i) (acts : v.Acts next i e) : e.sends = [] := by
  cases acts with
  | send request =>
    obtain ⟨_, eq⟩ | ⟨_, eq⟩ := ended.request request
    · cases eq
    · cases eq
  | _ => rfl

/-- A value is only taken if there is one. -/
lemma Acts.ne_nil_of_takes (acts : v.Acts next i e) (takes : e.takes = true) :
    v.inbound.get i ≠ [] := by
  cases acts with
  | take _ inbound => simp [inbound]
  | _ => cases takes

/-- A side has at most one thing to do. -/
lemma Acts.unique (acts : v.Acts next i e) (acts' : v.Acts next i f) : e = f := by
  cases acts <;> cases acts' <;> simp_all

/-- A side does what its thread asks for. The thread is told that nothing will come if it completes
a deadlock, and otherwise only after its peer has finished. -/
lemma Acts.yields (acts : v.Acts next i e) :
    ∃ r event, next (v.states.get i) = some r ∧ r.Yields Link.policy event e.after ∧
      (event = some (.received .terminated) → e.deadlocks = true ∨ v.finished.get i.peer = true) ∧
      (e.deadlocks = true → event = some (.received .terminated)) := by
  cases acts with
  | work request => exact ⟨_, _, request, .work, nofun, nofun⟩
  | send request => exact ⟨_, _, request, .send, nofun, nofun⟩
  | close request => exact ⟨_, _, request, .close, nofun, nofun⟩
  | take request => exact ⟨_, _, request, .receive, nofun, nofun⟩
  | refuse request _ _ finished =>
    exact ⟨_, _, request, .receive, fun _ => .inr finished, nofun⟩
  | deadlock request => exact ⟨_, _, request, .receive, fun _ => .inl rfl, fun _ => rfl⟩

/-- What the peer does leaves a side with what it was about to do. -/
lemma Acts.persists (quiet : v.Quiet next) (acts : v.Acts next i e) (other : v.Acts next i.peer f) :
    (v.apply i.peer f).Acts next i e := by
  cases acts with
  | work request => exact .work (by simpa using request)
  | send request => exact .send (by simpa using request)
  | close request => exact .close (by simpa using request)
  | @take after w rest request inbound =>
    have inbound' : (v.apply i.peer f).inbound.get i = w :: (rest ++ f.sends) := by simp [inbound]
    exact .take (by simpa using request) inbound'
  | refuse request empty deadlocked finished =>
    -- a finished peer does nothing
    exact absurd other (not_acts_of_rest (quiet.finished _ finished))
  | deadlock request empty ended =>
    -- the peer sends nothing any more, and the deadlock stays one
    have silent : f.sends = [] ∧ (v.deadlocked || f.deadlocks) = true := by
      obtain deadlocked | ⟨_, stuck⟩ := ended
      · exact ⟨(quiet.deadlocked deadlocked i.peer).sends_eq_nil other, by simp [deadlocked]⟩
      · obtain ⟨after', request'⟩ := stuck.receives
        have running : v.finished.get i = false := by
          cases finished : v.finished.get i with
          | false => rfl
          | true => simp [quiet.finished i finished] at request
        cases other with
        | take _ inbound => simp [stuck.empty] at inbound
        | refuse _ _ _ finished => simp [running] at finished
        | deadlock => simp
        | _ request'' => simp [request'] at request''
    refine .deadlock (by simpa using request) ?_ (.inl ?_)
    · simp [empty, silent.1]
    · simpa using silent.2

/-- The order in which the two sides act does not matter. -/
lemma apply_comm (take : e.takes = true → v.inbound.get i ≠ [])
    (take' : f.takes = true → v.inbound.get i.peer ≠ []) :
    (v.apply i e).apply i.peer f = (v.apply i.peer f).apply i e := by
  apply View.ext
  · exact Both.ext_peer i (by simp) (by simp)
  · apply Both.ext_peer i
    · cases takes : e.takes with
      | false => simp [takes]
      | true => simp [takes, List.tail_append_of_ne_nil (take takes)]
    · cases takes : f.takes with
      | false => simp [takes]
      | true => simp [takes, List.tail_append_of_ne_nil (take' takes)]
  · exact Both.ext_peer i (by simp) (by simp)
  · simp [Bool.or_right_comm]

/-- An obedient side that closes its end asks for nothing more. -/
lemma Acts.rest_of_closes (obedient : Obedient next) (acts : v.Acts next i e)
    (closes : e.closes = true) : next e.after = none := by
  cases acts with
  | close request => exact obedient.closed request
  | _ => cases closes

/-- A side that completes a deadlock has come to its end, and so has its peer. -/
lemma Quiet.ended_of_deadlocks (quiet : v.Quiet next) (acts : v.Acts next i e)
    (deadlocks : e.deadlocks = true) (j : Side) : v.Ended next j := by
  cases acts with
  | deadlock request empty ended =>
    obtain deadlocked | ⟨_, stuck⟩ := ended
    · exact quiet.deadlocked deadlocked j
    · obtain rfl | rfl := Side.eq_or_eq_peer i j
      · exact ⟨empty, .inl ⟨_, request⟩⟩
      · exact stuck.ended
  | _ => cases deadlocks

/-- An obedient side at the end of its run stays there, whatever it does. -/
lemma Ended.apply_self (obedient : Obedient next) (ended : v.Ended next i)
    (acts : v.Acts next i e) : (v.apply i e).Ended next i := by
  have empty : (v.apply i e).inbound.get i = [] := by simp [ended.empty]
  refine ⟨empty, .inr ?_⟩
  rw [states_apply_self]
  cases acts with
  | work request =>
    obtain ⟨_, eq⟩ | ⟨_, eq⟩ := ended.request request
    · cases eq
    · cases eq
  | send request =>
    obtain ⟨_, eq⟩ | ⟨_, eq⟩ := ended.request request
    · cases eq
    · cases eq
  | close request =>
    intro r request'
    simp [obedient.closed request] at request'
  | take _ inbound => simp [ended.empty] at inbound
  | refuse request => exact obedient.refused request
  | deadlock request => exact obedient.refused request

/-- Obedient sides keep quiet: who has finished asks for nothing, and a deadlock is the end of both
runs. -/
lemma Quiet.apply (obedient : Obedient next) (quiet : v.Quiet next) (acts : v.Acts next i e) :
    (v.apply i e).Quiet next := by
  refine ⟨fun j finished => ?_, fun deadlocked j => ?_⟩
  · obtain rfl | rfl := Side.eq_or_eq_peer i j
    · rw [finished_apply_self, Bool.or_eq_true] at finished
      rw [states_apply_self]
      obtain finished | closes := finished
      · exact absurd acts (not_acts_of_rest (quiet.finished _ finished))
      · exact acts.rest_of_closes obedient closes
    · rw [states_apply_peer]
      exact quiet.finished _ (by simpa using finished)
  · have ended : ∀ j, v.Ended next j := by
      rw [deadlocked_apply, Bool.or_eq_true] at deadlocked
      obtain deadlocked | deadlocks := deadlocked
      · exact quiet.deadlocked deadlocked
      · exact quiet.ended_of_deadlocks acts deadlocks
    obtain rfl | rfl := Side.eq_or_eq_peer i j
    · exact (ended j).apply_self obedient acts
    · -- the side that acts is at its end as well and sends nothing
      have silent := (ended i).sends_eq_nil acts
      refine ⟨?_, ?_⟩
      · simp [silent, (ended i.peer).empty]
      · simpa using (ended i.peer).idle

/-- On quiet views the steps of the two sides do not get in each other's way. -/
lemma independent (obedient : Obedient next) : Independent (Step next) (Quiet next) where
  keeps := by
    rintro i v _ quiet ⟨e, acts, rfl⟩
    exact quiet.apply obedient acts
  unique := by
    rintro i v _ _ _ ⟨e, acts, rfl⟩ ⟨f, acts', rfl⟩
    rw [acts.unique acts']
  diamond := by
    rintro i j v _ _ quiet ne ⟨e, acts, rfl⟩ ⟨f, acts', rfl⟩
    obtain rfl | rfl := Side.eq_or_eq_peer i j
    · exact absurd rfl ne
    · have second : (v.apply i.peer.peer e).Acts next i.peer f :=
        acts'.persists quiet (by rwa [Side.peer_peer])
      rw [Side.peer_peer] at second
      exact ⟨_, ⟨f, second, rfl⟩, e, acts.persists quiet acts',
        apply_comm acts.ne_nil_of_takes acts'.ne_nil_of_takes⟩

end View

end Tandem
