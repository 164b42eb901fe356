import Tandem.Proofs.Machine.Run
import Tandem.Proofs.Program
import Tandem.Recovery

/-!
# What recovery means

A recital of a program is its run in which `snd` only plays a value and `rcv` changes nothing:
neither channel nor counters are needed to follow it. It notes the values played and, for every
`rcv` that it passes, what the register held.

`recover` comes to its answer when the recital comes to an `rcv` whose register is not zero, leaves
the program, or meets a remainder by zero, whichever is first. A machine with a player does what the
recital does as long as every `rcv` passed had zero in its register, and then the player holds the
value played last (`Accompanies`).
-/

namespace Tandem

namespace Recital

/-- Where a recital stands. -/
structure Place where
  registers : Registers
  ip : Word

/-- What is noted of an instruction. -/
inductive Note where
  /-- A value was played. -/
  | played (v : Word)
  /-- An `rcv` was passed, and its register held this word. -/
  | passed (v : Word)

/-- One instruction of a recital, and what is noted of it. -/
inductive Step (p : Program) (s : Place) : List Note → Place → Prop where
  | snd {x} :
    p.fetch? s.ip = some (.snd x) →
    Step p s [.played (x.value s.registers)] ⟨s.registers, s.ip + 1⟩
  | update {u x y v} :
    p.fetch? s.ip = some (.update u x y) →
    u.apply? (s.registers.get x) (y.value s.registers) = some v →
    Step p s [] ⟨s.registers.set x v, s.ip + 1⟩
  | rcv {x} :
    p.fetch? s.ip = some (.rcv x) →
    Step p s [.passed (s.registers.get x)] ⟨s.registers, s.ip + 1⟩
  | jump {x y} :
    p.fetch? s.ip = some (.jgz x y) →
    0 < x.value s.registers →
    Step p s [] ⟨s.registers, Int64.ofIntClamp (s.ip.toInt + (y.value s.registers).toInt)⟩
  | pass {x y} :
    p.fetch? s.ip = some (.jgz x y) →
    ¬0 < x.value s.registers →
    Step p s [] ⟨s.registers, s.ip + 1⟩

/-- The places that a recital comes to, and what is noted up to there. -/
inductive Reaches (p : Program) : List Note → Place → Prop where
  | start :
    Reaches p [] ⟨.seeded 0, 0⟩
  | step {notes more s t} :
    Reaches p notes s →
    Step p s more t →
    Reaches p (notes ++ more) t

/-- The value played last. -/
def lastPlayed (notes : List Note) : Option Word :=
  (notes.filterMap fun
    | .played v => some v
    | .passed _ => none).getLast?

/-- Every `rcv` that was passed had zero in its register. -/
def Quiet (notes : List Note) : Prop :=
  ∀ v, .passed v ∈ notes → v = 0

/-- A value that is just played is the one played last. -/
@[simp] lemma lastPlayed_played (notes : List Note) (v : Word) :
    lastPlayed (notes ++ [.played v]) = some v := by
  simp [lastPlayed]

/-- An `rcv` that is passed plays nothing. -/
@[simp] lemma lastPlayed_passed (notes : List Note) (v : Word) :
    lastPlayed (notes ++ [.passed v]) = lastPlayed notes := by
  simp [lastPlayed]

/-- Notes are quiet exactly if both parts of them are. -/
lemma quiet_append {notes more : List Note} : Quiet (notes ++ more) ↔ Quiet notes ∧ Quiet more := by
  simp only [Quiet, List.mem_append, or_imp, forall_and]

/-- How a recital ends, as an answer of `recover`. -/
inductive Ends (p : Program) (notes : List Note) (s : Place) :
    Except Fault (Option Word) → Prop where
  | recovers {x} :
    p.fetch? s.ip = some (.rcv x) →
    s.registers.get x ≠ 0 →
    Ends p notes s (.ok (some ((lastPlayed notes).getD 0)))
  | leaves :
    p.fetch? s.ip = none →
    Ends p notes s (.ok none)
  | fails {x y} :
    p.fetch? s.ip = some (.update .mod x y) →
    y.value s.registers = 0 →
    Ends p notes s (.error (.moduloByZero s.ip.toNatClampNeg))

section Ends

variable {p : Program} {notes : List Note} {s : Place}

/-- A recital ends with a value at an `rcv` whose register is not zero, and it is the value played
last. -/
lemma ends_some_iff {v : Word} : Ends p notes s (.ok (some v)) ↔
    ∃ x, p.fetch? s.ip = some (.rcv x) ∧ s.registers.get x ≠ 0 ∧ v = (lastPlayed notes).getD 0 := by
  constructor
  · intro ends
    cases ends with
    | recovers fetch nonzero => exact ⟨_, fetch, nonzero, rfl⟩
  · rintro ⟨x, fetch, nonzero, rfl⟩
    exact .recovers fetch nonzero

/-- A recital ends without a value exactly outside the program. -/
lemma ends_none_iff : Ends p notes s (.ok none) ↔ ¬(0 ≤ s.ip.toInt ∧ s.ip.toInt < p.size) := by
  rw [← Program.fetch?_eq_none_iff]
  constructor
  · intro ends
    cases ends with
    | leaves fetch => exact fetch
  · exact .leaves

/-- A recital ends with a fault exactly at a remainder by zero. -/
lemma ends_fault_iff {index : Nat} : Ends p notes s (.error (.moduloByZero index)) ↔
    ∃ x y, p.fetch? s.ip = some (.update .mod x y) ∧ y.value s.registers = 0 ∧
      s.ip.toInt = index := by
  constructor
  · intro ends
    cases ends with
    | fails fetch zero => exact ⟨_, _, fetch, zero, (Program.toNatClampNeg_eq_iff fetch).1 rfl⟩
  · rintro ⟨x, y, fetch, zero, told⟩
    rw [← (Program.toNatClampNeg_eq_iff fetch).2 told]
    exact .fails fetch zero

/-- Whether a recital ends can be seen from where it stands. -/
lemma not_ends_iff : (∀ answer, ¬Ends p notes s answer) ↔
    (0 ≤ s.ip.toInt ∧ s.ip.toInt < p.size) ∧
    (∀ x, p.fetch? s.ip = some (.rcv x) → s.registers.get x = 0) ∧
    ∀ x y, p.fetch? s.ip = some (.update .mod x y) → y.value s.registers ≠ 0 := by
  constructor
  · intro never
    refine ⟨?_, fun x fetch => ?_, fun x y fetch zero => never _ (.fails fetch zero)⟩
    · exact Decidable.byContradiction fun outside => never _ (ends_none_iff.2 outside)
    · exact Decidable.byContradiction fun nonzero => never _ (.recovers fetch nonzero)
  · rintro ⟨inside, zero, nonzero⟩ answer ends
    cases ends with
    | recovers fetch fires => exact fires (zero _ fetch)
    | leaves fetch => exact Program.fetch?_eq_none_iff.1 fetch inside
    | fails fetch fails => exact nonzero _ _ fetch fails

end Ends

/-- Where a machine stands in the recital of its program. -/
def place (m : Machine) : Place :=
  ⟨m.registers, m.ip⟩

/-- A machine is under way, and its player has played what is noted. -/
structure Accompanies (p : Program) (notes : List Note) (t : Solo Player) : Prop where
  program : t.machine.program = p
  running : t.machine.exit = none
  played : t.channel.played = lastPlayed notes

variable {p : Program} {notes more : List Note} {s : Place} {t u : Solo Player}

/-- A machine that accompanies a recital stands at the same instruction. -/
lemma Accompanies.fetches {i : Instruction} (goes : Accompanies p notes t)
    (fetch : p.fetch? t.machine.ip = some i) : t.machine.Fetches i := by
  refine ⟨goes.running, ?_⟩
  rw [goes.program]
  exact fetch

/-- A machine accompanies a recital through an instruction of which nothing is noted. -/
lemma Accompanies.unnoted {m : Machine} (goes : Accompanies p notes t)
    (program : m.program = t.machine.program) (exit : m.exit = t.machine.exit) :
    Accompanies p (notes ++ []) ⟨m, t.channel⟩ := by
  rw [List.append_nil]
  exact ⟨program.trans goes.program, exit.trans goes.running, goes.played⟩

/-- A player answers with the value played last, and is left as it was. -/
lemma serves_receive (player : Player) :
    Player.channel.Serves .recover player
      (some (.received (.value (player.played.getD 0)))) player :=
  .receive rfl rfl

/-- A step of the recital is a step of the machine, unless it passes an `rcv` that recovers a
value. -/
lemma Accompanies.step (goes : Accompanies p notes t) (step : Step p (place t.machine) more s)
    (quiet : Quiet more) :
    ∃ u, t.step Player.channel = (.running, u) ∧ place u.machine = s ∧
      Accompanies p (notes ++ more) u := by
  cases step with
  | snd fetch =>
    have plays : t.machine.Step .recover _ .running _ := .snd (goes.fetches fetch)
    refine ⟨_, Solo.step_eq plays .send, rfl, goes.program, goes.running, ?_⟩
    rw [lastPlayed_played]
    rfl
  | update fetch apply =>
    have writes : t.machine.Step .recover _ .running _ := .update (goes.fetches fetch) apply
    exact ⟨_, Solo.step_eq writes .nothing, rfl, goes.unnoted rfl rfl⟩
  | @rcv x fetch =>
    -- over any other register the machine would recover the value and exit
    have zero : t.machine.registers.get x = 0 := quiet _ List.mem_cons_self
    have passes : t.machine.Step .recover
        (some (.received (.value (t.channel.played.getD 0)))) .running _ :=
      .ignore (goes.fetches fetch) rfl zero
    refine ⟨_, Solo.step_eq passes (serves_receive _), rfl, goes.program, goes.running, ?_⟩
    rw [lastPlayed_passed]
    exact goes.played
  | @jump x y fetch positive =>
    have jumps : t.machine.Step .recover _ .running _ := .jgz (goes.fetches fetch)
    rw [if_pos (show 0 < t.machine.value x from positive)] at jumps
    exact ⟨_, Solo.step_eq jumps .nothing, rfl, goes.unnoted rfl rfl⟩
  | @pass x y fetch nonpositive =>
    have passes : t.machine.Step .recover _ .running _ := .jgz (goes.fetches fetch)
    rw [if_neg (show ¬0 < t.machine.value x from nonpositive)] at passes
    exact ⟨_, Solo.step_eq passes .nothing, rfl, goes.unnoted rfl rfl⟩

/-- A machine with a player reaches the places of a quiet recital. -/
lemma Reaches.solo (reaches : Reaches p notes s) (quiet : Quiet notes) :
    ∃ t, Solo.Reaches Player.channel ⟨{ program := p, registers := .seeded 0 }, {}⟩ t ∧
      place t.machine = s ∧ Accompanies p notes t := by
  induction reaches with
  | start => exact ⟨_, .refl, rfl, rfl, rfl, rfl⟩
  | step _ step ih =>
    obtain ⟨before, now⟩ := quiet_append.1 quiet
    obtain ⟨t, reaches, rfl, goes⟩ := ih before
    obtain ⟨u, moves, stands, goes⟩ := goes.step step now
    exact ⟨u, reaches.tail moves, stands, goes⟩

/-- A player answers a receive with what was played last, and asks the machine to recover it. -/
lemma received_of_serves {policy : Policy} {player player' : Player} {r : Received}
    (serves : Player.channel.Serves policy player (some (.received r)) player') :
    r = .value (player.played.getD 0) ∧ policy = .recover ∧ player' = player := by
  cases serves with
  | receive receive recover =>
    cases receive
    exact ⟨rfl, recover.symm, rfl⟩

/-- A player is left as it was by what cannot be seen. -/
lemma eq_of_serves {policy : Policy} {player player' : Player}
    (serves : Player.channel.Serves policy player none player') : player' = player := by
  cases serves
  rfl

/-- A step of the machine is a quiet step of the recital. -/
lemma Accompanies.of_step (goes : Accompanies p notes t)
    (step : t.step Player.channel = (.running, u)) :
    ∃ more, Step p (place t.machine) more (place u.machine) ∧ Quiet more ∧
      Accompanies p (notes ++ more) u := by
  obtain rfl := goes.program
  obtain ⟨m, player⟩ := u
  obtain ⟨policy, e, step, serves⟩ := Solo.step_of_step_eq step
  cases step with
  | snd fetches =>
    cases serves
    refine ⟨_, .snd fetches.fetch, ?_, rfl, goes.running, ?_⟩
    · simp [Quiet]
    · rw [lastPlayed_played]
      rfl
  | update fetches apply =>
    obtain rfl := eq_of_serves serves
    exact ⟨_, .update fetches.fetch apply, nofun, goes.unnoted rfl rfl⟩
  | store _ store =>
    -- a player never asks for its values to be stored
    obtain ⟨-, recover, -⟩ := received_of_serves serves
    cases store.symm.trans recover
  | ignore fetches _ zero =>
    obtain ⟨-, -, rfl⟩ := received_of_serves serves
    refine ⟨_, .rcv fetches.fetch, ?_, rfl, goes.running, ?_⟩
    · simpa [Quiet, place] using zero
    · rw [lastPlayed_passed]
      exact goes.played
  | @jgz x y fetches =>
    obtain rfl := eq_of_serves serves
    by_cases positive : 0 < t.machine.value x
    · rw [if_pos positive]
      exact ⟨_, .jump fetches.fetch positive, nofun, goes.unnoted rfl rfl⟩
    · rw [if_neg positive]
      exact ⟨_, .pass fetches.fetch positive, nofun, goes.unnoted rfl rfl⟩

/-- A machine with a player reaches no places but those of a quiet recital. -/
lemma reaches_of_solo
    (reaches : Solo.Reaches Player.channel ⟨{ program := p, registers := .seeded 0 }, {}⟩ t) :
    ∃ notes, Reaches p notes (place t.machine) ∧ Quiet notes ∧ Accompanies p notes t := by
  induction reaches with
  | refl => exact ⟨[], .start, nofun, rfl, rfl, rfl⟩
  | tail _ step ih =>
    obtain ⟨notes, reaches, quiet, goes⟩ := ih
    obtain ⟨more, step, quiet', goes⟩ := goes.of_step step
    exact ⟨notes ++ more, reaches.step step, quiet_append.2 ⟨quiet, quiet'⟩, goes⟩

/-- Where the recital ends the machine ends its run, with the answer that the recital gives. -/
lemma Accompanies.ends (goes : Accompanies p notes t) {answer : Except Fault (Option Word)}
    (ends : Ends p notes (place t.machine) answer) :
    ∃ r u, t.Ends Player.channel r u ∧ r.map (fun outcome => outcome.exit.recovered?) = answer := by
  cases ends with
  | recovers fetch nonzero =>
    have recovers : t.machine.Step .recover
        (some (.received (.value (t.channel.played.getD 0)))) _ _ :=
      .recover (goes.fetches fetch) rfl nonzero
    refine ⟨_, _, .exited (Solo.step_eq recovers (serves_receive _)), ?_⟩
    rw [← goes.played]
    rfl
  | leaves fetch =>
    have halts : t.machine.Step .recover _ _ _ := .halt goes.running (goes.program ▸ fetch)
    exact ⟨_, _, .exited (Solo.step_eq halts .nothing), rfl⟩
  | fails fetch zero =>
    have fails : t.machine.Step .recover _ _ _ :=
      .fault (goes.fetches fetch) (Update.eq_none_iff.2 ⟨rfl, zero⟩)
    exact ⟨_, _, .failed (Solo.step_eq fails .nothing), rfl⟩

/-- Where the run of the machine ends, the recital ends with the same answer. -/
lemma Accompanies.of_ends (goes : Accompanies p notes t) {r : Except Fault Outcome}
    (ends : t.Ends Player.channel r u) :
    Ends p notes (place t.machine) (r.map fun outcome => outcome.exit.recovered?) := by
  obtain ⟨rfl, running, played⟩ := goes
  cases ends with
  | @exited x u step =>
    obtain ⟨m, player⟩ := u
    obtain ⟨policy, e, step, serves⟩ := Solo.step_of_step_eq step
    cases step with
    | stopped exit => cases running.symm.trans exit
    | halt _ fetch => exact .leaves fetch
    | recover fetches _ nonzero =>
      obtain ⟨value, -⟩ := received_of_serves serves
      cases value
      rw [played]
      exact .recovers fetches.fetch nonzero
    -- a player always has a value to answer with
    | terminate => cases (received_of_serves serves).1
  | @failed f u step =>
    obtain ⟨m, player⟩ := u
    obtain ⟨policy, e, step, serves⟩ := Solo.step_of_step_eq step
    cases step with
    | fault fetches apply =>
      obtain ⟨rfl, zero⟩ := Update.eq_none_iff.1 apply
      exact .fails fetches.fetch zero

end Recital

open Recital in
/-- Recovery answers what a recital that has recovered nothing so far ends with. -/
lemma recover_eq_some_iff {p : Program} {answer : Except Fault (Option Word)} :
    (∃ fuel, recover fuel p = some answer) ↔
      ∃ notes s, Reaches p notes s ∧ Quiet notes ∧ Ends p notes s answer := by
  constructor
  · rintro ⟨fuel, h⟩
    obtain ⟨⟨r, u⟩, execute, rfl⟩ := Option.map_eq_some_iff.1 h
    obtain ⟨t, reaches, ends⟩ := Solo.execute_eq_some_iff.1 ⟨fuel, execute⟩
    obtain ⟨notes, reaches, quiet, goes⟩ := reaches_of_solo reaches
    exact ⟨notes, _, reaches, quiet, goes.of_ends ends⟩
  · rintro ⟨notes, s, reaches, quiet, ends⟩
    obtain ⟨t, arrives, rfl, goes⟩ := reaches.solo quiet
    obtain ⟨r, u, stops, rfl⟩ := goes.ends ends
    obtain ⟨fuel, execute⟩ := Solo.execute_eq_some_iff.2 ⟨t, arrives, stops⟩
    exact ⟨fuel, Option.map_eq_some_iff.2 ⟨_, execute, rfl⟩⟩

open Recital in
/-- Recovery never comes to an answer exactly if the recital does not end as long as it is quiet. -/
lemma recover_eq_none_iff {p : Program} :
    (∀ fuel, recover fuel p = none) ↔
      ∀ notes s, Reaches p notes s → Quiet notes → ∀ answer, ¬Ends p notes s answer := by
  constructor
  · intro never notes s reaches quiet answer ends
    obtain ⟨fuel, h⟩ := recover_eq_some_iff.2 ⟨notes, s, reaches, quiet, ends⟩
    cases (never fuel).symm.trans h
  · intro never fuel
    cases h : recover fuel p with
    | none => rfl
    | some answer =>
      obtain ⟨notes, s, reaches, quiet, ends⟩ := recover_eq_some_iff.1 ⟨fuel, h⟩
      exact absurd ends (never notes s reaches quiet answer)

open Recital in
/-- What recovery means. Follow the recital of a program as long as every `rcv` that it passes has
zero in its register. A value is recovered exactly if the recital comes to an `rcv` whose register
is not zero, and it is the value played last, or zero if none was; nothing is recovered exactly if
the recital leaves the program; and there is a fault exactly if it comes to a remainder by zero,
with the index of that instruction. If the recital comes to nothing of the kind, recovery does not
end. -/
theorem recover_iff_recital_ends (p : Program) :
    (∀ v, (∃ fuel, recover fuel p = some (.ok (some v))) ↔
      ∃ notes s, Reaches p notes s ∧ Quiet notes ∧ ∃ x, p.fetch? s.ip = some (.rcv x) ∧
        s.registers.get x ≠ 0 ∧ v = (lastPlayed notes).getD 0) ∧
    ((∃ fuel, recover fuel p = some (.ok none)) ↔
      ∃ notes s, Reaches p notes s ∧ Quiet notes ∧ ¬(0 ≤ s.ip.toInt ∧ s.ip.toInt < p.size)) ∧
    (∀ index, (∃ fuel, recover fuel p = some (.error (.moduloByZero index))) ↔
      ∃ notes s, Reaches p notes s ∧ Quiet notes ∧ ∃ x y, p.fetch? s.ip = some (.update .mod x y) ∧
        y.value s.registers = 0 ∧ s.ip.toInt = index) ∧
    ((∀ fuel, recover fuel p = none) ↔
      ∀ notes s, Reaches p notes s → Quiet notes →
        (0 ≤ s.ip.toInt ∧ s.ip.toInt < p.size) ∧
        (∀ x, p.fetch? s.ip = some (.rcv x) → s.registers.get x = 0) ∧
        ∀ x y, p.fetch? s.ip = some (.update .mod x y) → y.value s.registers ≠ 0) := by
  refine ⟨fun v => ?_, ?_, fun index => ?_, ?_⟩
  · simp only [recover_eq_some_iff, ends_some_iff]
  · simp only [recover_eq_some_iff, ends_none_iff]
  · simp only [recover_eq_some_iff, ends_fault_iff]
  · simp only [recover_eq_none_iff, not_ends_iff]

/-- Every `rcv` but the last one passes over a register that holds zero. -/
example : recover 8 ⟨#[.snd (.literal 42), .rcv ⟨"p"⟩, .update .set ⟨"p"⟩ (.literal (-1)),
    .jgz (.literal 1) (.literal (-2))]⟩ = some (.ok (some 42)) := rfl

end Tandem
