import Tandem.Channel.Player
import Tandem.Proofs.Machine.Calls
import Tandem.Proofs.Program

/-!
# Why a machine has stopped

The exit of a machine tells why it has stopped, and this can be checked in the state in which it
stands and in what it did to its channel (`Machine.Justified`): its pointer is outside the program,
or it stands at the `rcv` whose answer was the last one that it got. A machine without an exit was
never given cause to stop. Every step keeps this, whatever it comes to (`Machine.kept_justified`),
and every step keeps count of what is sent (`Machine.kept_counted`).
-/

namespace Tandem

namespace Machine

variable {policy : Policy} {moments : List Moment} {m m' u : Machine} {e : Option Event}
  {p : Progress} {r : Received}

/-- The last answer on record was given to a machine as it stood then. -/
def LastAnswer (moments : List Moment) (u : Machine) (r : Received) : Prop :=
  ∃ before after, moments = before ++ ⟨u, .received r⟩ :: after ∧
    ∀ moment ∈ after, ∀ r', moment.event ≠ .received r'

/-- An answer lets the machine stop if it says that nothing will come, or if the machine is to
recover a value and the register of its `rcv` is not zero. -/
inductive Qualifies (policy : Policy) (u : Machine) : Received → Prop where
  | terminated :
    Qualifies policy u .terminated
  | recovered {x v} :
    policy = .recover →
    u.Fetches (.rcv x) →
    u.registers.get x ≠ 0 →
    Qualifies policy u (.value v)

/-- A machine has stopped with good reason, or has had no reason to stop. -/
structure Justified (policy : Policy) (moments : List Moment) (m : Machine) : Prop where
  halted : m.exit = some .halted → ¬(0 ≤ m.ip.toInt ∧ m.ip.toInt < m.program.size)
  terminated : m.exit = some .terminated →
    ∃ x u, m.program.fetch? m.ip = some (.rcv x) ∧ LastAnswer moments u .terminated ∧
      m = { u with steps := u.steps + 1, exit := some .terminated }
  recovered : ∀ v, m.exit = some (.recovered v) →
    policy = .recover ∧ ∃ x u, m.program.fetch? m.ip = some (.rcv x) ∧ m.registers.get x ≠ 0 ∧
      LastAnswer moments u (.value v) ∧
        m = { u with steps := u.steps + 1, exit := some (.recovered v) }
  running : m.exit = none → ∀ u r, ⟨u, .received r⟩ ∈ moments → ¬Qualifies policy u r

/-- A machine has counted what was sent, and has made a step for each value sent. -/
structure Counted (moments : List Moment) (m : Machine) : Prop where
  sent : m.sent = (Event.sentIn (moments.map (·.event))).length
  steps : m.sent ≤ m.steps

/-- An answer that is just put on record is the last one. -/
lemma lastAnswer_append (moments : List Moment) (u : Machine) (r : Received) :
    LastAnswer (moments ++ [⟨u, .received r⟩]) u r :=
  ⟨moments, [], rfl, nofun⟩

/-- The last answer stays the last until there is another. -/
lemma LastAnswer.append (last : LastAnswer moments u r) (silent : ∀ r, e ≠ some (.received r)) :
    LastAnswer (moments ++ e.toList.map fun e => ⟨m, e⟩) u r := by
  obtain ⟨before, after, rfl, quiet⟩ := last
  refine ⟨before, after ++ e.toList.map fun e => ⟨m, e⟩, by simp, ?_⟩
  intro moment mem r'
  rcases List.mem_append.1 mem with old | new
  · exact quiet moment old r'
  · obtain ⟨e', seen, rfl⟩ := List.mem_map.1 new
    rintro rfl
    exact silent r' (Option.mem_toList.1 seen)

/-- Nothing changes if the machine is left as it is and gets no answer. -/
lemma Justified.idle (justified : m.Justified policy moments)
    (silent : ∀ r, e ≠ some (.received r)) :
    m.Justified policy (moments ++ e.toList.map fun e => ⟨m, e⟩) where
  halted := justified.halted
  terminated exit := by
    obtain ⟨x, u, fetch, last, same⟩ := justified.terminated exit
    exact ⟨x, u, fetch, last.append silent, same⟩
  recovered v exit := by
    obtain ⟨recover, x, u, fetch, nonzero, last, same⟩ := justified.recovered v exit
    exact ⟨recover, x, u, fetch, nonzero, last.append silent, same⟩
  running exit u r mem := by
    rcases List.mem_append.1 mem with old | new
    · exact justified.running exit u r old
    · obtain ⟨e', seen, same⟩ := List.mem_map.1 new
      cases same
      exact absurd (Option.mem_toList.1 seen) (silent r)

/-- A machine that goes on, after no answer that lets it stop, has had no reason to stop. -/
lemma Justified.proceed (justified : m.Justified policy moments) (before : m.exit = none)
    (after : m'.exit = none) (unqualified : ∀ r, e = some (.received r) → ¬Qualifies policy m r) :
    m'.Justified policy (moments ++ e.toList.map fun e => ⟨m, e⟩) where
  halted exit := by cases after.symm.trans exit
  terminated exit := by cases after.symm.trans exit
  recovered v exit := by cases after.symm.trans exit
  running _ u r mem := by
    rcases List.mem_append.1 mem with old | new
    · exact justified.running before u r old
    · obtain ⟨e', seen, same⟩ := List.mem_map.1 new
      cases same
      exact unqualified r (Option.mem_toList.1 seen)

/-- A machine goes on only after an answer that does not let it stop. -/
lemma Step.unqualified (step : m.Step policy e .running m') :
    ∀ r, e = some (.received r) → ¬Qualifies policy m r := by
  intro r received
  cases step with
  | snd => cases received
  | update => cases received
  | store _ store =>
    cases received
    intro qualifies
    cases qualifies with
    | recovered recover => cases store.symm.trans recover
  | ignore fetches _ zero =>
    cases received
    intro qualifies
    cases qualifies with
    | recovered _ again nonzero =>
      cases fetches.fetch.symm.trans again.fetch
      exact nonzero zero
  | jgz => cases received

/-- A step leaves the machine stopped with good reason, or without reason to stop. -/
lemma Justified.step (justified : m.Justified policy moments) (step : m.Step policy e p m') :
    m'.Justified policy (moments ++ e.toList.map fun e => ⟨m, e⟩) := by
  cases p with
  | running => exact justified.proceed step.running_of_running step.exit_of_running step.unqualified
  | failed f =>
    cases step with
    -- a fault is no exit, and so the machine has not stopped
    | fault fetches => exact justified.proceed fetches.running fetches.running nofun
  | exited x =>
    cases step with
    | stopped => exact justified.idle nofun
    | halt _ fetch =>
      exact
        { halted := fun _ => Program.fetch?_eq_none_iff.1 fetch
          terminated := nofun
          recovered := nofun
          running := nofun }
    | @recover x v fetches recover nonzero =>
      refine { halted := nofun, terminated := nofun, recovered := ?_, running := nofun }
      intro w exit
      cases exit
      exact ⟨recover, x, m, fetches.fetch, nonzero, lastAnswer_append _ _ _, rfl⟩
    | @terminate x fetches =>
      refine { halted := nofun, terminated := ?_, recovered := nofun, running := nofun }
      intro _
      exact ⟨x, m, fetches.fetch, lastAnswer_append _ _ _, rfl⟩

/-- Good reason to stop is kept by steps and by the closing of the channel. -/
lemma kept_justified (policy : Policy) : Kept policy (Justified policy) where
  step step justified := justified.step step
  close justified := justified.idle (e := some .closed) nofun

/-- A step sends one value at most. -/
lemma Step.sent_le_steps (step : m.Step policy e p m') (le : m.sent ≤ m.steps) :
    m'.sent ≤ m'.steps := by
  cases step with
  | stopped => exact le
  | halt => exact le
  | snd => exact Nat.succ_le_succ le
  | jgz =>
    split
    · exact Nat.le_succ_of_le le
    · exact Nat.le_succ_of_le le
  | _ => exact Nat.le_succ_of_le le

/-- A step counts what it sends. -/
lemma Counted.step (counted : m.Counted moments) (step : m.Step policy e p m') :
    m'.Counted (moments ++ e.toList.map fun e => ⟨m, e⟩) := by
  refine ⟨?_, step.sent_le_steps counted.steps⟩
  have sent := step.sent_eq .zero
  rw [History.sentBy_eq, History.eventsBy_single_self] at sent
  simp [sent, counted.sent, Function.comp_def]

/-- Counts are kept by steps and by the closing of the channel. -/
lemma kept_counted (policy : Policy) : Kept policy Counted where
  step step counted := counted.step step
  close counted := ⟨by simpa using counted.sent, counted.steps⟩

/-- A machine about to run has had no reason to stop. -/
lemma justified_start (policy : Policy) (p : Program) (registers : Registers) :
    Justified policy [] { program := p, registers } where
  halted := nofun
  terminated := nofun
  recovered := nofun
  running := nofun

/-- A machine about to run has sent nothing. -/
lemma counted_start (p : Program) (registers : Registers) :
    Counted [] { program := p, registers } :=
  ⟨rfl, Nat.le_refl 0⟩

/-- A machine that stores what it receives has recovered nothing. -/
lemma Justified.ne_recovered (justified : m.Justified .store moments) (v : Word) :
    m.exit ≠ some (.recovered v) := by
  intro exit
  cases (justified.recovered v exit).1

end Machine

namespace Solo

variable {σ : Type} {c : Channel σ} {s t : Solo σ} {p : Program} {registers : Registers}

/-- An answer that is seen is the one that the channel gives. -/
lemma eq_receive_of_event? {r : Received} (seen : s.event? c = some (.received r)) :
    (c.receive s.channel).1 = r := by
  unfold event? at seen
  cases request : s.machine.next with
  | receive after =>
    rw [request] at seen
    cases seen
    rfl
  | _ =>
    rw [request] at seen
    cases seen

/-- A player never says that nothing will come. -/
lemma exit_ne_terminated_of_player {player : Player} {fuel : Nat} {made : List Call}
    {answers : List Machine.Answer} {t : Solo Player}
    (returns : (load p registers player).calls Player.channel fuel made = some (answers, t)) :
    t.machine.exit ≠ some .terminated := by
  refine calls_records (P := fun _ s => s.machine.exit ≠ some .terminated) ?_ ?_ returns [] nofun
  · intro _ s running exit
    rcases (s.step_spec Player.channel).exit_eq_terminated_iff.1 exit with before | told
    · exact running before
    · cases eq_receive_of_event? told
  · intro _ s running
    exact running

end Solo

end Tandem
