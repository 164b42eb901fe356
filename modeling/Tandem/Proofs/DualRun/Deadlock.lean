import Tandem.Proofs.DualRun.Accounts

/-!
# Deadlocks

A deadlock is declared by a receive, and only when neither side can go on. In a dual run a machine
that has terminated was told so by a deadlock or by a peer that had finished; but a peer that was
told the same way can only have been told by the deadlock. `Told` says this of the view of a run,
every step keeps it (`Told.apply`), and at the end of the run it gives the equivalence: there was a
deadlock exactly when both machines have terminated.
-/

namespace Tandem

namespace Monitor

variable {α : Type} {next : α → Option (Request α)} {m m' : Monitor α} {i : Side} {e : Option Event}

/-- A deadlock lasts. -/
lemma Turn.deadlocked_mono (turn : Turn next i m e m') (deadlocked : m.link.deadlocked = true) :
    m'.link.deadlocked = true := by
  cases turn with
  | deadlock => rfl
  | _ => exact deadlocked

/-- Only a receive that finds both sides starved and its peer not finished declares a deadlock. -/
lemma Turn.starved_of_deadlocked (turn : Turn next i m e m') (before : m.link.deadlocked = false)
    (after : m'.link.deadlocked = true) :
    (∃ goes, m.Asks next i (.receive goes)) ∧ (m.link.inbound.get i).toList = [] ∧
      m.link.finished.get i.peer = false ∧ m.link.isStarved i.peer = true := by
  cases turn with
  | deadlock ask empty _ finished starved => exact ⟨⟨_, ask⟩, empty, finished, starved⟩
  | _ => exact absurd (before.symm.trans after) (by decide)

end Monitor

namespace DualRun

/-- The machine on side `i` of a view has terminated. -/
def Terminated (v : View Performer) (i : Side) : Prop :=
  (v.states.get i).machine.exit = some .terminated

/-- Who has terminated, and why. -/
structure Told (v : View Performer) : Prop where
  /-- In a deadlock a machine has terminated or is about to be told. -/
  deadlocked : v.deadlocked = true → ∀ i,
    (∃ after, Performer.next (v.states.get i) = some (.receive after)) ∨ Terminated v i
  /-- A machine has terminated in a deadlock or after a peer that came to another end. -/
  terminated : ∀ i, Terminated v i →
    v.deadlocked = true ∨ v.finished.get i.peer = true ∧ ¬Terminated v i.peer

variable {v : View Performer} {i : Side} {e : Effect Performer}

/-- A machine terminates in a deadlock or after its peer has finished. -/
lemma terminated_of_acts (acts : v.Acts Performer.next i e)
    (terminated : e.after.machine.exit = some .terminated) :
    Terminated v i ∨ e.deadlocks = true ∨ v.finished.get i.peer = true := by
  obtain ⟨r, event, request, yields, told, -⟩ := acts.yields
  have stride := Performer.stride_of_yields request yields
  obtain before | now := stride.exit_eq_terminated_iff.1 terminated
  · exact .inl before
  · exact .inr (told now)

/-- A machine that has terminated stays so in what its side still does. -/
lemma Terminated.acts (terminated : Terminated v i) (acts : v.Acts Performer.next i e) :
    e.after.machine.exit = some .terminated := by
  obtain ⟨r, event, request, yields, -⟩ := acts.yields
  exact (Performer.stride_of_yields request yields).exit_eq_terminated_iff.2 (.inl terminated)

/-- A machine that completes a deadlock terminates. -/
lemma exit_of_deadlocks (acts : v.Acts Performer.next i e) (deadlocks : e.deadlocks = true) :
    e.after.machine.exit = some .terminated := by
  obtain ⟨r, event, request, yields, -, now⟩ := acts.yields
  exact (Performer.stride_of_yields request yields).exit_eq_terminated_iff.2 (.inr (now deadlocks))

/-- A side that asks for a value in a deadlock can only learn of the deadlock. -/
lemma deadlocks_of_receives (quiet : v.Quiet Performer.next) (deadlocked : v.deadlocked = true)
    (acts : v.Acts Performer.next i e)
    (receives : ∃ after, Performer.next (v.states.get i) = some (.receive after)) :
    e.deadlocks = true := by
  obtain ⟨after, receives⟩ := receives
  cases acts with
  | take _ inbound => simp [(quiet.deadlocked deadlocked i).empty] at inbound
  | refuse _ _ running => exact absurd (running.symm.trans deadlocked) (by decide)
  | deadlock => rfl
  | _ request => simp [request] at receives

/-- What is known before side `i` acts in a deadlock, or so as to complete one. -/
lemma Told.before (told : Told v) (acts : v.Acts Performer.next i e)
    (deadlocked : (v.apply i e).deadlocked = true) (j : Side) :
    (∃ after, Performer.next (v.states.get j) = some (.receive after)) ∨ Terminated v j := by
  rw [View.deadlocked_apply, Bool.or_eq_true] at deadlocked
  obtain deadlocked | deadlocks := deadlocked
  · exact told.deadlocked deadlocked j
  · cases acts with
    | deadlock request empty ended =>
      obtain deadlocked | ⟨-, stuck⟩ := ended
      · exact told.deadlocked deadlocked j
      · obtain rfl | rfl := Side.eq_or_eq_peer i j
        · exact .inl ⟨_, request⟩
        · exact .inl stuck.receives
    | _ => cases deadlocks

/-- The side that acts has terminated as its machine was left. -/
lemma terminated_apply_self :
    Terminated (v.apply i e) i ↔ e.after.machine.exit = some .terminated := by
  rw [Terminated, View.states_apply_self]

/-- The other side has terminated as it had before. -/
lemma terminated_apply_peer : Terminated (v.apply i e) i.peer ↔ Terminated v i.peer := by
  rw [Terminated, View.states_apply_peer, Terminated]

/-- After every action in a deadlock, each side asks for a value or has terminated. -/
lemma Told.apply_deadlocked (told : Told v) (quiet : v.Quiet Performer.next)
    (acts : v.Acts Performer.next i e) (deadlocked : (v.apply i e).deadlocked = true) (j : Side) :
    (∃ after, Performer.next ((v.apply i e).states.get j) = some (.receive after)) ∨
      Terminated (v.apply i e) j := by
  have before := told.before acts deadlocked j
  obtain rfl | rfl := Side.eq_or_eq_peer i j
  · right
    rw [terminated_apply_self]
    rw [View.deadlocked_apply, Bool.or_eq_true] at deadlocked
    obtain receives | terminated := before
    · obtain deadlocked | deadlocks := deadlocked
      · exact exit_of_deadlocks acts (deadlocks_of_receives quiet deadlocked acts receives)
      · exact exit_of_deadlocks acts deadlocks
    · exact terminated.acts acts
  · rwa [View.states_apply_peer, terminated_apply_peer]

/-- After every action a machine that has terminated is in a deadlock, or its peer has finished for
another reason. -/
lemma Told.apply_terminated (told : Told v) (quiet : v.Quiet Performer.next)
    (acts : v.Acts Performer.next i e) (j : Side) (terminated : Terminated (v.apply i e) j) :
    (v.apply i e).deadlocked = true ∨
      (v.apply i e).finished.get j.peer = true ∧ ¬Terminated (v.apply i e) j.peer := by
  -- a side that acts has not finished
  have running : v.finished.get i ≠ true := fun finished =>
    View.not_acts_of_rest (quiet.finished i finished) acts
  obtain rfl | rfl := Side.eq_or_eq_peer i j
  · rw [View.finished_apply_peer, terminated_apply_peer, View.deadlocked_apply, Bool.or_eq_true]
    obtain before | deadlocks | finished :=
      terminated_of_acts acts (terminated_apply_self.1 terminated)
    · obtain deadlocked | other := told.terminated j before
      · exact .inl (.inl deadlocked)
      · exact .inr other
    · exact .inl (.inr deadlocks)
    · by_cases peer : Terminated v j.peer
      · -- the peer cannot have stopped on account of this side, so it was a deadlock
        obtain deadlocked | ⟨finished', -⟩ := told.terminated j.peer peer
        · exact .inl (.inl deadlocked)
        · rw [Side.peer_peer] at finished'
          exact absurd finished' running
      · exact .inr ⟨finished, peer⟩
  · obtain deadlocked | ⟨finished, -⟩ := told.terminated i.peer (terminated_apply_peer.1 terminated)
    · exact .inl (by simp [deadlocked])
    · rw [Side.peer_peer] at finished
      exact absurd finished running

/-- Who has terminated and why is kept by every action. -/
lemma Told.apply (told : Told v) (quiet : v.Quiet Performer.next)
    (acts : v.Acts Performer.next i e) : Told (v.apply i e) :=
  ⟨told.apply_deadlocked quiet acts, told.apply_terminated quiet acts⟩

/-- Two machines that are about to run their programs, each on its registers. -/
def load (programs : Both Program) (files : Both Registers) : Both Machine :=
  .ofFn fun i => { program := programs.get i, registers := files.get i }

variable {m m' : Monitor Performer} {moves : List Move} {programs : Both Program}
  {files : Both Registers}

/-- At the start of a dual run nobody has terminated. -/
lemma told_start (programs : Both Program) (files : Both Registers) :
    Told (start (load programs files)).view := by
  refine ⟨nofun, fun i terminated => ?_⟩
  cases i <;> cases terminated

/-- Whoever has terminated was told why, wherever a schedule leads. -/
lemma told_of_follow (follow : (start (load programs files)).follow Performer.next moves = some m) :
    Told m.view := by
  have sound := sound_start (load programs files)
  obtain ⟨-, n, walk⟩ := sound.walk_of_follow Performer.obedient follow
  refine (walk.preserves (P := fun v => v.Quiet Performer.next ∧ Told v) ?_
    ⟨sound.quiet, told_start programs files⟩).2
  rintro i v _ ⟨e, acts, rfl⟩ ⟨quiet, told⟩
  exact ⟨quiet.apply Performer.obedient acts, told.apply quiet acts⟩

/-- At the end of a run a deadlock has been told to both machines, and to no others. -/
lemma Told.deadlocked_iff (told : Told m.view) (rest : ∀ i, Performer.next (m.state i) = none) :
    m.link.deadlocked = true ↔ ∀ i, (m.state i).machine.exit = some .terminated := by
  constructor
  · intro deadlocked i
    obtain ⟨after, receives⟩ | terminated := told.deadlocked deadlocked i
    · simp [rest i] at receives
    · simpa [Terminated] using terminated
  · intro terminated
    obtain deadlocked | ⟨-, other⟩ :=
      told.terminated .zero (by simpa [Terminated] using terminated .zero)
    · exact deadlocked
    · exact absurd (by simpa [Terminated] using terminated Side.zero.peer) other

/-- The result of a run that terminated says so, and no other result does. -/
lemma Complete.exit_eq_terminated_iff (complete : Complete m) (orderly : Orderly m) (i : Side) :
    (m.state i).machine.exit = some .terminated ↔
      ∃ outcome, (m.state i).result? = some (.ok outcome) ∧ outcome.exit = .terminated := by
  obtain ⟨r, result⟩ := Option.isSome_iff_exists.1 (complete i).2
  rw [result]
  cases (orderly i).reports result with
  | exited exit => simp [exit, Machine.outcome]
  | failed exit => simp [exit]

/-- A move never takes a deadlock back, and only a receive declares one. -/
lemma deadlocked_of_move {move : Move} (sound : m.Sound Performer.next)
    (made : m.move Performer.next move = some m') :
    (m.link.deadlocked = true → m'.link.deadlocked = true) ∧
    (m.link.deadlocked = false → m'.link.deadlocked = true → ∃ i after, move = .act i ∧
      m.Asks Performer.next i (.receive after) ∧ (m.phase i.peer).isParked = true ∧
      ∀ j, (m.link.inbound.get j).toList = [] ∧ m.link.finished.get j = false) := by
  cases move with
  | rouse i =>
    obtain ⟨-, rfl⟩ := Monitor.rouse_eq_some made
    exact ⟨id, fun before after => absurd (before.symm.trans after) (by decide)⟩
  | act i =>
    have turn := Monitor.turn_of_act made
    refine ⟨turn.deadlocked_mono, fun before after => ?_⟩
    obtain ⟨⟨goes, ask⟩, empty, finished, starved⟩ := turn.starved_of_deadlocked before after
    obtain ⟨waiting, empty'⟩ := Link.isStarved_iff.1 starved
    -- a side that has finished asks for nothing, but this one asks for a value
    have running : m.link.finished.get i = false := by
      cases closed : m.link.finished.get i with
      | false => rfl
      | true =>
        have rest := sound.quiet.finished i closed
        simp [ask.request] at rest
    refine ⟨i, goes, rfl, ask, (sound.wakeful i.peer).waiting.symm.trans waiting, fun j => ?_⟩
    obtain rfl | rfl := Side.eq_or_eq_peer i j
    · exact ⟨empty, running⟩
    · exact ⟨empty', finished⟩

/-- A deadlock is declared exactly when it should be. It is declared by a receive only, when the
other side waits in a receive as well, nothing is left in the queues and neither side has finished;
and it is never taken back. When both runs have returned, there was a deadlock exactly if both have
terminated, and then each side has received everything that the other one sent. -/
theorem deadlocked_iff_terminated (programs : Both Program) (files : Both Registers)
    (moves : List Move) (m : Monitor Performer)
    (follow : (start (load programs files)).follow Performer.next moves = some m) :
    (∀ move m', m.move Performer.next move = some m' →
      (m.link.deadlocked = true → m'.link.deadlocked = true) ∧
      (m.link.deadlocked = false → m'.link.deadlocked = true → ∃ i after, move = .act i ∧
        m.Asks Performer.next i (.receive after) ∧ (m.phase i.peer).isParked = true ∧
        ∀ j, (m.link.inbound.get j).toList = [] ∧ m.link.finished.get j = false)) ∧
    (Complete m →
      (m.link.deadlocked = true ↔ ∀ i, ∃ outcome,
        (m.state i).result? = some (.ok outcome) ∧ outcome.exit = .terminated) ∧
      (m.link.deadlocked = true → ∀ i, (m.link.inbound.get i).toList = [] ∧
        (chronicle (load programs files) moves).receivedBy i =
          (chronicle (load programs files) moves).sentBy i.peer)) := by
  have sound := sound_of_follow follow
  refine ⟨fun move m' => deadlocked_of_move sound, fun complete => ⟨?_, fun deadlocked i => ?_⟩⟩
  · have orderly := orderly_of_follow follow
    rw [(told_of_follow follow).deadlocked_iff complete.rest]
    exact forall_congr' (complete.exit_eq_terminated_iff orderly)
  · have empty : (m.link.inbound.get i).toList = [] := by
      simpa using (sound.quiet.deadlocked deadlocked i).empty
    rw [sentBy_peer_eq follow, empty, List.append_nil]
    exact ⟨rfl, rfl⟩

/-- Two machines that only receive: side zero sleeps, side one declares the deadlock, and both end
with it. -/
theorem deadlocked_iff_terminated_mutual_wait :
    (∃ m m', (start (load ⟨⟨#[.rcv ⟨"a"⟩]⟩, ⟨#[.rcv ⟨"b"⟩]⟩⟩ ⟨.empty, .empty⟩)).follow
        Performer.next [.act .zero] = some m ∧ m.move Performer.next (.act .one) = some m' ∧
      m.link.deadlocked = false ∧ m'.link.deadlocked = true ∧
      ∃ i : Side, (m.phase i.peer).isParked = true ∧ ∀ j, m.link.finished.get j = false) ∧
    ∃ m, (start (load ⟨⟨#[.rcv ⟨"a"⟩]⟩, ⟨#[.rcv ⟨"b"⟩]⟩⟩ ⟨.empty, .empty⟩)).follow Performer.next
        ([.zero, .one, .zero, .zero, .zero, .one, .one].map .act) = some m ∧
      Complete m ∧ m.link.deadlocked = true ∧ ∀ i, ∃ outcome,
        (m.state i).result? = some (.ok outcome) ∧ outcome.exit = .terminated := by
  refine ⟨⟨_, _, rfl, rfl, rfl, rfl, ?_⟩, _, rfl, by decide, rfl, ?_⟩
  · obtain ⟨i, after, -, -, parked, starved⟩ :=
      ((deadlocked_iff_terminated ⟨⟨#[.rcv ⟨"a"⟩]⟩, ⟨#[.rcv ⟨"b"⟩]⟩⟩ ⟨.empty, .empty⟩ [.act .zero] _
        rfl).1 (.act .one) _ rfl).2 rfl rfl
    exact ⟨i, parked, fun j => (starved j).2⟩
  · exact ((deadlocked_iff_terminated ⟨⟨#[.rcv ⟨"a"⟩]⟩, ⟨#[.rcv ⟨"b"⟩]⟩⟩ ⟨.empty, .empty⟩
      ([.zero, .one, .zero, .zero, .zero, .one, .one].map .act) _ rfl).2 (by decide)).1.1 rfl

end DualRun

end Tandem
