import Tandem.Proofs.DualRun.Deadlock
import Tandem.Proofs.Machine.Mailbox

/-!
# Each side of a dual run is a run alone

A machine on a link sees of its peer only the values that it receives, and that nothing will come.
What it does is a run of its own with these answers (`Performer.Trail`). The values are the first
ones that the peer sent; and once a side has been told that nothing will come, it is `Bereft`: its
queue is empty, and the peer sends nothing more. So the answers are those of a mailbox with
everything that the peer sends in the whole run, though the link gave them knowing only what had
happened so far.
-/

namespace Tandem

namespace Monitor

variable {α : Type} {next : α → Option (Request α)} {m m' : Monitor α} {i : Side} {e : Option Event}

/-- There is nothing for side `i`, and nothing will come. -/
structure Bereft (m : Monitor α) (i : Side) : Prop where
  empty : (m.link.inbound.get i).toList = []
  ended : m.link.deadlocked = true ∨ m.link.finished.get i.peer = true

/-- A side that is told that nothing will come is bereft. -/
lemma Turn.bereft_of_terminated (turn : Turn next i m (some (.received .terminated)) m') :
    m'.Bereft i := by
  cases turn with
  | refuse _ empty ended => exact ⟨by simpa using empty, by simpa using ended⟩
  | deadlock _ empty => exact ⟨by simpa using empty, .inl rfl⟩

/-- A side that is bereft stays so, whatever it does. -/
lemma Turn.bereft_self (turn : Turn next i m e m') (bereft : m.Bereft i) : m'.Bereft i := by
  obtain ⟨empty, ended⟩ := bereft
  cases turn with
  | take _ pop => simp [Queue.toList_of_pop?_eq_some pop] at empty
  | deadlock => exact ⟨by simpa using empty, .inl rfl⟩
  | _ => exact ⟨by simpa using empty, by simpa using ended⟩

/-- A side that has finished or is in a deadlock sends nothing. -/
lemma Bereft.not_send {v : Word} {after : α} (bereft : m.Bereft i) (sound : m.Sound next) :
    ¬m.Asks next i.peer (.send v after) := by
  intro ask
  obtain deadlocked | finished := bereft.ended
  · have ended := sound.quiet.deadlocked deadlocked i.peer
    obtain ⟨_, eq⟩ | ⟨_, eq⟩ := ended.request (by simpa using ask.request)
    · cases eq
    · cases eq
  · have rest := sound.quiet.finished i.peer finished
    simp [ask.request] at rest

/-- A side that is bereft stays so when the other side has a turn, since that side sends nothing
more. -/
lemma Turn.bereft_peer (turn : Turn next i.peer m e m') (sound : m.Sound next)
    (bereft : m.Bereft i) : m'.Bereft i := by
  cases turn with
  | send ask => exact absurd ask (bereft.not_send sound)
  | deadlock => exact ⟨by simpa using bereft.empty, .inl rfl⟩
  | close => exact ⟨by simpa using bereft.empty, .inr (by simp)⟩
  | _ => exact ⟨by simpa using bereft.empty, by simpa using bereft.ended⟩

/-- Whoever was told that nothing will come is bereft for good. -/
lemma bereft_of_follow (obedient : Obedient next) {states : Both α} {moves : List Move}
    (follow : (fresh states).follow next moves = some m)
    (told : (i, .received .terminated) ∈ (fresh states).history next moves) : m.Bereft i := by
  -- soundness is part of the invariant: only of a sound peer it is known that it sends nothing more
  refine (follow_records
    (P := fun h m => m.Sound next ∧ ∀ i, (i, .received .terminated) ∈ h → m.Bereft i)
    ?_ ?_ (h := []) follow ⟨sound_fresh states, nofun⟩).2 i told
  · rintro h m m' j e turn ⟨sound, bereft⟩
    refine ⟨turn.sound obedient sound, fun i told => ?_⟩
    obtain before | now := List.mem_append.1 told
    · obtain rfl | rfl := Side.eq_or_eq_peer i j
      · exact turn.bereft_self (bereft j before)
      · exact turn.bereft_peer sound (bereft i before)
    · obtain ⟨rfl, rfl⟩ : e = some (.received .terminated) ∧ j = i := by
        simpa [History.single] using now
      exact turn.bereft_of_terminated
  · rintro h m j asleep ⟨sound, bereft⟩
    exact ⟨sound.rouse asleep, fun i told => ⟨(bereft i told).empty, (bereft i told).ended⟩⟩

end Monitor

namespace Performer

/-- What a performer has done since it was told to run its machine. -/
inductive Trail (m : Machine) : List Event → Performer → Prop where
  | executing {es m'} :
    m.Path Link.policy es m' →
    Trail m es ⟨m', .executing⟩
  | leaving {es r m'} :
    m.Run Link.policy es r m' →
    Trail m es ⟨m', .leaving (.outcome r)⟩
  | done {es r m'} :
    m.Run Link.policy es r m' →
    Trail m (es ++ [.closed]) ⟨m', .done (.outcome r)⟩

variable {m : Machine} {p q : Performer} {e : Option Event} {es : List Event}

/-- What a performer does next goes on its trail. -/
lemma Trail.stride (trail : p.Trail m es) (stride : p.Stride e q) : q.Trail m (es ++ e.toList) := by
  cases trail with
  | executing path =>
    obtain ⟨m', step, rfl⟩ | ⟨x, m', step, rfl⟩ | ⟨f, m', step, rfl⟩ := stride.of_executing
    · exact .executing (path.step step)
    · exact .leaving (.exited path step)
    · exact .leaving (.failed path step)
  | leaving run =>
    obtain ⟨rfl, rfl⟩ := stride.of_leaving
    exact .done run
  | done => exact absurd stride not_stride_done

/-- A performer that has a result has made a run with it, and has closed its end. -/
lemma Trail.run_of_result {r : Except Fault Outcome} (trail : p.Trail m es)
    (result : p.result? = some r) :
    ∃ fs, es = fs ++ [.closed] ∧ m.Run Link.policy fs r p.machine := by
  cases trail with
  | executing => cases result
  | leaving => cases result
  | done run =>
    cases result
    exact ⟨_, rfl, run⟩

end Performer

namespace DualRun

variable {m : Monitor Performer} {machines : Both Machine} {moves : List Move} {i : Side}

/-- In a schedule each machine leaves the trail of the events of its side. -/
lemma trail_of_follow (follow : (start machines).follow Performer.next moves = some m) (i : Side) :
    (m.state i).Trail (machines.get i) ((chronicle machines moves).eventsBy i) := by
  refine Monitor.follow_records
    (P := fun h m => ∀ i, (m.state i).Trail (machines.get i) (h.eventsBy i))
    ?_ ?_ (h := []) follow ?_ i
  · intro h m m' j e turn trail i
    rw [History.eventsBy_append]
    obtain rfl | rfl := Side.eq_or_eq_peer j i
    · rw [History.eventsBy_single_self]
      obtain ⟨same, rfl⟩ | ⟨r, request, yields⟩ := turn.state_self
      · simpa [same] using trail i
      · exact (trail i).stride (Performer.stride_of_yields request yields)
    · rw [History.eventsBy_single_of_ne (Side.ne_peer j), List.append_nil, turn.state_peer]
      exact trail j.peer
  · intro h m j asleep trail i
    obtain rfl | rfl := Side.eq_or_eq_peer j i
    · simpa using trail i
    · simpa using trail j.peer
  · intro i
    cases i <;> exact .executing .refl

/-- A side that was told that nothing will come has received everything that was sent to it. -/
lemma receivedBy_of_told (follow : (start machines).follow Performer.next moves = some m)
    (told : (i, .received .terminated) ∈ chronicle machines moves) :
    (chronicle machines moves).receivedBy i = (chronicle machines moves).sentBy i.peer := by
  have bereft : m.Bereft i := by
    rw [start_eq] at follow
    exact Monitor.bereft_of_follow Performer.obedient follow told
  rw [sentBy_peer_eq follow, bereft.empty, List.append_nil]

/-- The run of a side is a run alone over a mailbox with everything that its peer sends. -/
lemma execute_of_follow (follow : (start machines).follow Performer.next moves = some m)
    {r : Except Fault Outcome} (result : (m.state i).result? = some r) :
    ∃ fuel, Solo.execute Mailbox.channel fuel
        ⟨machines.get i, { inbox := (chronicle machines moves).sentBy i.peer, policy := .store }⟩ =
      some (r, ⟨(m.state i).machine,
        { inbox := (m.link.inbound.get i).toList
          taken := ((chronicle machines moves).receivedBy i).length
          outbox := ((chronicle machines moves).sentBy i).toArray
          closes := 1
          policy := .store }⟩) := by
  obtain ⟨es, events, run⟩ := (trail_of_follow follow i).run_of_result result
  have received : (chronicle machines moves).receivedBy i = Event.receivedIn es := by
    simp [History.receivedBy_eq, events]
  have sent : (chronicle machines moves).sentBy i = Event.sentIn es := by
    simp [History.sentBy_eq, events]
  have delivers := sentBy_peer_eq follow i
  rw [received] at delivers
  have provides : Mailbox.Provides
      { inbox := (chronicle machines moves).sentBy i.peer, policy := .store } es := by
    -- what was sent is what was received and then the queue, so the queue is what the mailbox keeps
    refine ⟨⟨_, delivers.symm⟩, fun told => ?_⟩
    rw [← received]
    apply receivedBy_of_told follow
    rw [← History.mem_eventsBy, events]
    exact List.mem_append_left _ told
  obtain ⟨fuel, execute⟩ := run.execute rfl provides
  refine ⟨fuel, ?_⟩
  rw [execute, received, sent]
  simp [Mailbox.after, delivers]

/-- A machine that has terminated was told that nothing will come. -/
lemma told_of_exit {programs : Both Program} {files : Both Registers}
    (follow : (start (load programs files)).follow Performer.next moves = some m)
    {r : Except Fault Outcome} (result : (m.state i).result? = some r)
    (exit : (m.state i).machine.exit = some .terminated) :
    (i, .received .terminated) ∈ chronicle (load programs files) moves := by
  obtain ⟨es, events, run⟩ := (trail_of_follow follow i).run_of_result result
  obtain already | told := run.exit_eq_terminated_iff.1 exit
  · simp [load] at already
  · rw [← History.mem_eventsBy, events]
    exact List.mem_append_left _ told

/-- Each side of a dual run is a run alone. When both runs have returned, the result of a side and
the state of its machine are those that the machine comes to over a mailbox with everything that the
other side sent; in that run it sends the same values, and leaves those that are still pending on
the link. A side that was told that nothing will come, and so a side that has terminated, has
received everything. -/
theorem side_runs_alone (programs : Both Program) (files : Both Registers) (moves : List Move)
    (m : Monitor Performer)
    (follow : (start (load programs files)).follow Performer.next moves = some m)
    (complete : Complete m) (i : Side) :
    (∃ result fuel, (m.state i).result? = some result ∧
      Solo.execute Mailbox.channel fuel
        ⟨(load programs files).get i,
          { inbox := (chronicle (load programs files) moves).sentBy i.peer, policy := .store }⟩ =
      some (result, ⟨(m.state i).machine,
        { inbox := (m.link.inbound.get i).toList
          taken := ((chronicle (load programs files) moves).receivedBy i).length
          outbox := ((chronicle (load programs files) moves).sentBy i).toArray
          closes := 1
          policy := .store }⟩)) ∧
    ((i, .received .terminated) ∈ chronicle (load programs files) moves ∨
      (∃ outcome, (m.state i).result? = some (.ok outcome) ∧ outcome.exit = .terminated) →
        (chronicle (load programs files) moves).receivedBy i =
          (chronicle (load programs files) moves).sentBy i.peer) := by
  obtain ⟨r, result⟩ := Option.isSome_iff_exists.1 (complete i).2
  refine ⟨?_, ?_⟩
  · obtain ⟨fuel, execute⟩ := execute_of_follow follow result
    exact ⟨r, fuel, result, execute⟩
  · rintro (told | terminated)
    · exact receivedBy_of_told follow told
    · have exit := (complete.exit_eq_terminated_iff (orderly_of_follow follow) i).2 terminated
      exact receivedBy_of_told follow (told_of_exit follow result exit)

/-- Side zero sends one value and halts. Side one sleeps before it, takes the value and terminates,
as it does alone over a mailbox with that value. -/
theorem side_runs_alone_terminated :
    ∃ m,
      (start (load ⟨⟨#[.snd (.literal 7)]⟩, ⟨#[.rcv ⟨"a"⟩, .rcv ⟨"b"⟩]⟩⟩ ⟨.empty, .empty⟩)).follow
          Performer.next ((.one :: .replicate 5 .zero ++ .replicate 4 .one : List Side).map .act) =
        some m ∧
      Complete m ∧
      (∃ result fuel, (m.state .one).result? = some result ∧
        Solo.execute Mailbox.channel fuel
          ⟨{ program := ⟨#[.rcv ⟨"a"⟩, .rcv ⟨"b"⟩]⟩, registers := .empty }, { inbox := [7] }⟩ =
        some (result,
          ⟨(m.state .one).machine, { inbox := [], taken := 1, outbox := #[], closes := 1 }⟩)) ∧
      ∃ outcome, (m.state .one).result? = some (.ok outcome) ∧ outcome.exit = .terminated ∧
        (chronicle (load ⟨⟨#[.snd (.literal 7)]⟩, ⟨#[.rcv ⟨"a"⟩, .rcv ⟨"b"⟩]⟩⟩ ⟨.empty, .empty⟩)
            ((.one :: .replicate 5 .zero ++ .replicate 4 .one : List Side).map .act)).receivedBy
          .one = [7] := by
  have alone :=
    side_runs_alone ⟨⟨#[.snd (.literal 7)]⟩, ⟨#[.rcv ⟨"a"⟩, .rcv ⟨"b"⟩]⟩⟩ ⟨.empty, .empty⟩
      ((.one :: .replicate 5 .zero ++ .replicate 4 .one : List Side).map .act) _ rfl (by decide)
      .one
  exact ⟨_, rfl, by decide, alone.1, _, rfl, rfl, alone.2 (.inr ⟨_, rfl, rfl⟩)⟩

end DualRun

end Tandem
