import Tandem.Proofs.Monitor.Confluence

/-!
# Schedules carried over to other threads

Two ways to turn threads on a link into other ones, such that the same schedule or its mirror image
can be followed there. `Monitor.map f` applies a function to the states; it carries schedules over
if `f` goes along with the requests of the threads (`follow_map`). `Monitor.mirror` exchanges the
two sides, of the threads and of the link (`follow_mirror`).

Together they compare the sides of one run: a map that makes the threads of both sides the same at
the start makes them the same at rest (`map_state_eq_of_atRest`).
-/

namespace Tandem

namespace Both

variable {α : Type}

/-- Exchange the sides. -/
def swap (b : Both α) : Both α :=
  ⟨b.one, b.zero⟩

/-- After the exchange each side has what its peer had. -/
@[simp] lemma get_swap (b : Both α) (i : Side) : b.swap.get i = b.get i.peer := by
  cases i <;> rfl

end Both

namespace Link

/-- The link with its sides exchanged. -/
def mirror (l : Link) : Link where
  inbound := l.inbound.swap
  waiting := l.waiting.swap
  finished := l.finished.swap
  deadlocked := l.deadlocked

variable (l : Link) (i : Side)

/-- A send is mirrored by a send of the other side. -/
lemma mirror_send (v : Word) : (l.send i v).mirror = l.mirror.send i.peer v := by
  cases i <;> rfl

/-- Waiting is mirrored by the waiting of the other side. -/
lemma mirror_setWaiting (b : Bool) : (l.setWaiting i b).mirror = l.mirror.setWaiting i.peer b := by
  cases i <;> rfl

/-- Closing is mirrored by the closing of the other side. -/
lemma mirror_close : (l.close i).mirror = l.mirror.close i.peer := by
  cases i <;> rfl

/-- The queues are exchanged. -/
@[simp] lemma inbound_mirror : l.mirror.inbound.get i = l.inbound.get i.peer :=
  Both.get_swap l.inbound i

/-- It is exchanged who has closed. -/
@[simp] lemma finished_mirror : l.mirror.finished.get i = l.finished.get i.peer :=
  Both.get_swap l.finished i

/-- A deadlock is one for both sides. -/
@[simp] lemma deadlocked_mirror : l.mirror.deadlocked = l.deadlocked := rfl

/-- A side starves if the other one does on the mirrored link. -/
@[simp] lemma isStarved_mirror : l.mirror.isStarved i = l.isStarved i.peer := by
  cases i <;> rfl

/-- A receive is mirrored by a receive of the other side, with the same answer. -/
lemma receive_mirror :
    l.mirror.receive i.peer = ((l.receive i).1, (l.receive i).2.mirror) := by
  cases pop : (l.inbound.get i).pop? with
  | some p =>
    obtain ⟨v, rest⟩ := p
    have pop' : (l.mirror.inbound.get i.peer).pop? = some (v, rest) := by simpa using pop
    rw [receive_of_pop? pop, receive_of_pop? pop', mirror_setWaiting]
    cases i <;> rfl
  | none =>
    have empty := Queue.pop?_eq_none_iff.1 pop
    have empty' : (l.mirror.inbound.get i.peer).toList = [] := by simpa using empty
    -- without a value a receive looks for an end first, and then for a deadlock
    by_cases ended : l.deadlocked = true ∨ l.finished.get i.peer = true
    · have ended' : l.mirror.deadlocked = true ∨ l.mirror.finished.get i.peer.peer = true := by
        simpa using ended
      rw [receive_of_ended empty ended, receive_of_ended empty' ended', mirror_setWaiting]
    · have deadlocked : l.deadlocked = false := by simp_all
      have finished : l.finished.get i.peer = false := by simp_all
      have finished' : l.mirror.finished.get i.peer.peer = false := by simpa using finished
      cases starved : l.isStarved i.peer with
      | true =>
        rw [receive_of_starved empty deadlocked finished starved,
          receive_of_starved empty' deadlocked finished' (by simpa using starved),
          mirror_setWaiting]
        rfl
      | false =>
        rw [receive_of_not_starved empty deadlocked finished starved,
          receive_of_not_starved empty' deadlocked finished' (by simpa using starved),
          mirror_setWaiting]

end Link

/-- A mapped request is served like the request. -/
lemma Request.Yields.map {α β : Type} {policy : Policy} {r : Request α} {e : Option Event} {a : α}
    (yields : r.Yields policy e a) (f : α → β) : (r.map f).Yields policy e (f a) := by
  cases yields with
  | work => exact .work
  | send => exact .send
  | receive => exact .receive
  | close => exact .close

/-- A function goes along with the requests of threads, as long as their states satisfy `P`. -/
structure Carries {α β : Type} (next : α → Option (Request α)) (next' : β → Option (Request β))
    (f : α → β) (P : α → Prop) : Prop where
  commutes {a} : P a → next' (f a) = (next a).map (Request.map f)
  keeps {a r e b} : P a → next a = some r → r.Yields Link.policy e b → P b

/-- A mapped request lets the same be seen. -/
lemma Request.event?_map {α β : Type} (received : Option Received) (f : α → β) (r : Request α) :
    (r.map f).event? received = r.event? received := by
  cases r <;> rfl

/-- The move of the other side. -/
def Move.mirror : Move → Move
  | .act i => .act i.peer
  | .rouse i => .rouse i.peer

namespace Monitor

variable {α β : Type} {next : α → Option (Request α)} {next' : β → Option (Request β)} {f : α → β}

section Serve

variable {m : Monitor α} {i : Side} {link : Link}

/-- A receive without an answer falls asleep. -/
lemma receive_of_none {after : Received → α} (received : m.link.receive i = (none, link)) :
    m.receive i after = { m with link }.put i (m.state i) .asleep := by
  rw [receive, received]

/-- A receive with an answer that declares no deadlock goes on. -/
lemma receive_of_some {after : Received → α} {r : Received}
    (received : m.link.receive i = (some r, link))
    (silent : (link.deadlocked && !m.link.deadlocked) = false) :
    m.receive i after = { m with link }.put i (after r) .ready := by
  rw [receive, received]
  simp only [silent, Bool.false_eq_true, if_false]

/-- A receive that declares a deadlock wakes the other side. -/
lemma receive_of_declares {after : Received → α} {r : Received}
    (received : m.link.receive i = (some r, link))
    (declares : (link.deadlocked && !m.link.deadlocked) = true) :
    m.receive i after = ({ m with link }.put i (after r) .ready).notify i := by
  rw [receive, received]
  simp only [declares, if_true]

/-- Closing an end twice does nothing to the link. -/
lemma close_of_finished {after : α} (finished : m.link.finished.get i = true) :
    m.close i after = m.put i after .ready :=
  if_pos finished

/-- Closing an end is announced. -/
lemma close_of_not_finished {after : α} (finished : m.link.finished.get i = false) :
    m.close i after = { m with link := m.link.close i }.put i after .announcing := by
  rw [close, finished]
  rfl

end Serve

/-! ### Other states -/

section Map

/-- The same threads with other states. -/
def map (f : α → β) (m : Monitor α) : Monitor β where
  link := m.link
  threads := m.threads.map fun t => ⟨f t.state, t.phase⟩

variable (f) (m : Monitor α) (i : Side)

/-- Other states leave the link. -/
@[simp] lemma link_map : (m.map f).link = m.link := rfl

/-- The states are mapped one by one. -/
@[simp] lemma state_map : (m.map f).state i = f (m.state i) := by
  simp [map, state]

/-- Other states leave the phases. -/
@[simp] lemma phase_map : (m.map f).phase i = m.phase i := by
  simp [map, phase]

/-- Threads about to begin are so with other states. -/
lemma map_fresh (states : Both α) : (fresh states).map f = fresh (states.map f) := rfl

/-- A thread can be changed before a map or after it. -/
lemma map_put (s : α) (p : Phase) : (m.put i s p).map f = (m.map f).put i (f s) p := by
  cases i <;> rfl

/-- A map leaves notifications. -/
lemma map_notify : (m.notify i).map f = (m.map f).notify i := by
  cases i <;> rfl

/-- A receive goes on in the image of the state. -/
lemma map_receive (after : Received → α) :
    (m.receive i after).map f = (m.map f).receive i fun r => f (after r) := by
  cases received : m.link.receive i with
  | mk answer link =>
    cases answer with
    | none =>
      rw [receive_of_none received, receive_of_none (m := m.map f) received, map_put, state_map]
      rfl
    | some r =>
      cases declares : link.deadlocked && !m.link.deadlocked with
      | true =>
        rw [receive_of_declares received declares,
          receive_of_declares (m := m.map f) received declares, map_notify, map_put]
        rfl
      | false =>
        rw [receive_of_some received declares, receive_of_some (m := m.map f) received declares,
          map_put]
        rfl

/-- Closing goes on in the image of the state. -/
lemma map_close (after : α) : (m.close i after).map f = (m.map f).close i (f after) := by
  cases finished : m.link.finished.get i with
  | true =>
    rw [close_of_finished finished, close_of_finished (m := m.map f) finished, map_put]
  | false =>
    rw [close_of_not_finished finished, close_of_not_finished (m := m.map f) finished, map_put]
    rfl

/-- A mapped request is served on mapped threads. -/
lemma map_serve (r : Request α) : (m.serve i r).map f = (m.map f).serve i (r.map f) := by
  cases r with
  | work after => exact map_put f m i after _
  | send v after => exact map_put f { m with link := m.link.send i v } i after _
  | receive after => exact map_receive f m i _
  | close after => exact map_close f m i after

end Map

variable {P : α → Prop} {m m' : Monitor α} {i : Side} {moves : List Move}

/-- A turn goes along with a map that goes along with the request of the side. -/
lemma act_map (commutes : next' (f (m.state i)) = (next (m.state i)).map (Request.map f)) :
    (m.map f).act next' i = (m.act next i).map (map f) := by
  have serves : (next' (f (m.state i))).map ((m.map f).serve i) =
      ((next (m.state i)).map (m.serve i)).map (map f) := by
    rw [commutes, Option.map_map, Option.map_map]
    congr 1
    funext r
    exact (map_serve f m i r).symm
  unfold act
  rw [phase_map, state_map]
  cases m.phase i with
  | ready => exact serves
  | awake => exact serves
  | asleep => rfl
  | announcing =>
    rw [Option.map_some, map_notify, map_put]

/-- Waking up for no reason goes along with every map. -/
lemma rouse_map : (m.map f).rouse i = (m.rouse i).map (map f) := by
  unfold rouse
  rw [phase_map, state_map]
  split
  · rw [Option.map_some, map_put]
  · rfl

/-- A move goes along with a map that goes along with the requests of both sides. -/
lemma move_map (commutes : ∀ i, next' (f (m.state i)) = (next (m.state i)).map (Request.map f))
    (first : Move) : (m.map f).move next' first = (m.move next first).map (map f) := by
  cases first with
  | act i => exact act_map (commutes i)
  | rouse i => exact rouse_map

/-- What every turn of a thread keeps about its state is kept by a move. -/
lemma forall_state_of_move {first : Move} (carries : Carries next next' f P)
    (holds : ∀ i, P (m.state i)) (made : m.move next first = some m') (i : Side) :
    P (m'.state i) := by
  cases first with
  | act j =>
    have turn := turn_of_act made
    obtain rfl | rfl := Side.eq_or_eq_peer j i
    · obtain ⟨same, -⟩ | ⟨r, request, yields⟩ := turn.state_self
      · rw [same]
        exact holds i
      · exact carries.keeps (holds i) request yields
    · rw [turn.state_peer]
      exact holds j.peer
  | rouse j =>
    obtain ⟨-, rfl⟩ := rouse_eq_some made
    obtain rfl | rfl := Side.eq_or_eq_peer j i
    · rw [state_put_self]
      exact holds i
    · rw [state_put_peer]
      exact holds j.peer

/-- What is kept by all requests holds of the states wherever a schedule leads. -/
lemma forall_state_of_follow (carries : Carries next next' f P) (holds : ∀ i, P (m.state i))
    (follow : m.follow next moves = some m') (i : Side) : P (m'.state i) := by
  induction moves generalizing m with
  | nil =>
    cases follow
    exact holds i
  | cons first rest ih =>
    obtain ⟨m₁, made, follow⟩ := Option.bind_eq_some_iff.1 follow
    exact ih (forall_state_of_move carries holds made) follow

/-- A function that goes along with the requests of threads carries their schedules over. -/
lemma follow_map (carries : Carries next next' f P) (holds : ∀ i, P (m.state i))
    (moves : List Move) : (m.map f).follow next' moves = (m.follow next moves).map (map f) := by
  induction moves generalizing m with
  | nil => rfl
  | cons first rest ih =>
    rw [follow_cons, follow_cons, move_map fun i => carries.commutes (holds i)]
    cases made : m.move next first with
    | none => rfl
    | some m₁ => exact ih (forall_state_of_move carries holds made)

/-- A mapped thread lets the same be seen. -/
lemma event?_map (commutes : next' (f (m.state i)) = (next (m.state i)).map (Request.map f)) :
    (m.map f).event? next' i = m.event? next i := by
  have shows : (next' (f (m.state i))).bind (Request.event? (m.link.receive i).1) =
      (next (m.state i)).bind (Request.event? (m.link.receive i).1) := by
    rw [commutes]
    cases next (m.state i) with
    | none => rfl
    | some r => exact Request.event?_map _ f r
  unfold event?
  rw [phase_map, state_map]
  cases m.phase i with
  | ready => exact shows
  | awake => exact shows
  | asleep => rfl
  | announcing => rfl

/-- Mapped threads have the same history. -/
lemma history_map (carries : Carries next next' f P) (holds : ∀ i, P (m.state i))
    (moves : List Move) : (m.map f).history next' moves = m.history next moves := by
  induction moves generalizing m with
  | nil => rfl
  | cons first rest ih =>
    have recorded : (m.map f).record next' first = m.record next first := by
      cases first with
      | act i => exact congrArg (History.single i) (event?_map (carries.commutes (holds i)))
      | rouse i => rfl
    rw [history, history, move_map fun i => carries.commutes (holds i), recorded]
    cases made : m.move next first with
    | none => rfl
    | some m₁ => exact congrArg _ (ih (forall_state_of_move carries holds made))

/-- Mapped threads are at rest exactly if the threads are. -/
lemma atRest_map_iff
    (commutes : ∀ i, next' (f (m.state i)) = (next (m.state i)).map (Request.map f)) :
    (m.map f).AtRest next' ↔ m.AtRest next := by
  refine forall_congr' fun i => ?_
  rw [act_map (commutes i), Option.map_eq_none_iff]

/-! ### The mirror image -/

section Mirror

/-- The same threads with the sides exchanged. -/
def mirror (m : Monitor α) : Monitor α where
  link := m.link.mirror
  threads := m.threads.swap

variable (m : Monitor α) (i : Side)

/-- The link is mirrored. -/
@[simp] lemma link_mirror : m.mirror.link = m.link.mirror := rfl

/-- The states are exchanged. -/
@[simp] lemma state_mirror : m.mirror.state i = m.state i.peer := by
  cases i <;> rfl

/-- The phases are exchanged. -/
@[simp] lemma phase_mirror : m.mirror.phase i = m.phase i.peer := by
  cases i <;> rfl

/-- Changing a thread is mirrored by changing the other one. -/
lemma mirror_put (s : α) (p : Phase) : (m.put i s p).mirror = m.mirror.put i.peer s p := by
  cases i <;> rfl

/-- A notification is mirrored by one of the other side. -/
lemma mirror_notify : (m.notify i).mirror = m.mirror.notify i.peer := by
  cases i <;> rfl

/-- The receive of a thread is mirrored by a receive of the other one. -/
lemma mirror_receive (after : Received → α) :
    (m.receive i after).mirror = m.mirror.receive i.peer after := by
  cases received : m.link.receive i with
  | mk answer link =>
    have received' : m.mirror.link.receive i.peer = (answer, link.mirror) := by
      rw [link_mirror, Link.receive_mirror, received]
    cases answer with
    | none =>
      rw [receive_of_none received, receive_of_none received', mirror_put, state_mirror,
        Side.peer_peer]
      rfl
    | some r =>
      cases declares : link.deadlocked && !m.link.deadlocked with
      | true =>
        rw [receive_of_declares received declares, receive_of_declares received' declares,
          mirror_notify, mirror_put]
        rfl
      | false =>
        rw [receive_of_some received declares, receive_of_some received' declares, mirror_put]
        rfl

/-- The closing of an end is mirrored by the closing of the other one. -/
lemma mirror_close (after : α) : (m.close i after).mirror = m.mirror.close i.peer after := by
  cases finished : m.link.finished.get i with
  | true =>
    have finished' : m.mirror.link.finished.get i.peer = true := by simpa using finished
    rw [close_of_finished finished, close_of_finished finished', mirror_put]
  | false =>
    have finished' : m.mirror.link.finished.get i.peer = false := by simpa using finished
    rw [close_of_not_finished finished, close_of_not_finished finished', mirror_put, link_mirror,
      ← Link.mirror_close]
    rfl

/-- A request is served for the other side in the mirror image. -/
lemma mirror_serve (r : Request α) : (m.serve i r).mirror = m.mirror.serve i.peer r := by
  cases r with
  | work after => exact mirror_put m i after _
  | send v after =>
    rw [serve, serve, mirror_put, link_mirror, ← Link.mirror_send]
    rfl
  | receive after => exact mirror_receive m i _
  | close after => exact mirror_close m i after

end Mirror

/-- A turn is mirrored by a turn of the other side. -/
lemma act_mirror : m.mirror.act next i.peer = (m.act next i).map mirror := by
  have serves : (next (m.state i)).map (m.mirror.serve i.peer) =
      ((next (m.state i)).map (m.serve i)).map mirror := by
    rw [Option.map_map]
    congr 1
    funext r
    exact (mirror_serve m i r).symm
  unfold act
  rw [phase_mirror, state_mirror, Side.peer_peer]
  cases m.phase i with
  | ready => exact serves
  | awake => exact serves
  | asleep => rfl
  | announcing => rw [Option.map_some, mirror_notify, mirror_put]

/-- Waking up for no reason is mirrored by that of the other side. -/
lemma rouse_mirror : m.mirror.rouse i.peer = (m.rouse i).map mirror := by
  unfold rouse
  rw [phase_mirror, state_mirror, Side.peer_peer]
  split
  · rw [Option.map_some, mirror_put]
  · rfl

/-- The mirror image of a schedule leads to the mirror image. -/
lemma follow_mirror (m : Monitor α) (moves : List Move) :
    m.mirror.follow next (moves.map Move.mirror) = (m.follow next moves).map mirror := by
  induction moves generalizing m with
  | nil => rfl
  | cons first rest ih =>
    have moved : m.mirror.move next first.mirror = (m.move next first).map mirror := by
      cases first with
      | act i => exact act_mirror
      | rouse i => exact rouse_mirror
    rw [List.map_cons, follow_cons, follow_cons, moved]
    cases m.move next first with
    | none => rfl
    | some m₁ => exact ih m₁

/-- The mirror image of threads at rest is at rest. -/
lemma AtRest.mirror (rest : m.AtRest next) : m.mirror.AtRest next := by
  intro i
  have act : m.mirror.act next i.peer.peer = (m.act next i.peer).map Monitor.mirror := act_mirror
  rw [Side.peer_peer, rest i.peer] at act
  exact act

/-- Threads about to begin are so in the mirror image. -/
lemma mirror_fresh (states : Both α) : (fresh states).mirror = fresh states.swap := rfl

/-- If a function goes along with the requests of threads and takes them to the same state at the
start, then it takes them to the same state at rest. -/
lemma map_state_eq_of_atRest {f : α → α} {states : Both α} (obedient : Obedient next)
    (carries : Carries next next f P) (holds : ∀ i, P (states.get i))
    (same : f (states.get .zero) = f (states.get .one))
    (follow : (fresh states).follow next moves = some m) (rest : m.AtRest next) :
    f (m.state .zero) = f (m.state .one) := by
  have begins : ∀ i, P ((fresh states).state i) := by
    intro i
    rw [state_fresh]
    exact holds i
  have ends := forall_state_of_follow carries begins follow
  have carried : (fresh (states.map f)).follow next moves = some (m.map f) := by
    rw [← map_fresh, follow_map carries begins, follow]
    rfl
  have rests : (m.map f).AtRest next := (atRest_map_iff fun i => carries.commutes (ends i)).2 rest
  -- seen through `f`, the threads are their own mirror image at the start
  have symmetric : (states.map f).swap = states.map f := by
    apply Both.ext_peer .zero
    · exact same.symm
    · exact same
  have mirrored : (fresh (states.map f)).follow next (moves.map Move.mirror) =
      some (m.map f).mirror := by
    rw [← symmetric, ← mirror_fresh, follow_mirror, carried]
    rfl
  have view := view_eq_of_atRest obedient carried rests mirrored rests.mirror
  have image : (m.map f).mirror.state .zero = (m.map f).state .zero := by
    rw [← states_view, view, states_view]
  rw [state_mirror, state_map, state_map] at image
  exact image.symm

end Monitor

end Tandem
