import Tandem.Channel.Basic
import Tandem.Machine.Basic

/-!
# A machine alone

A machine attached to a channel that never waits, driven step by step or until it stops. Running
until the end takes a bound on the number of steps; nothing is returned if the bound is too small.
-/

namespace Tandem

/-- A machine and the state of its channel. -/
structure Solo (σ : Type) where
  machine : Machine
  channel : σ

namespace Solo

variable {σ : Type}

/-- One step. -/
def step (c : Channel σ) (s : Solo σ) : Progress × Solo σ :=
  let ((progress, machine), channel) := c.serve s.channel s.machine.next
  (progress, ⟨machine, channel⟩)

/-- At most `n` steps, none after one that exits or fails. Gives what the last step came to. -/
def steps (c : Channel σ) : Nat → Solo σ → Progress × Solo σ
  | 0, s => (.running, s)
  | n + 1, s =>
    match s.step c with
    | (.running, s) => steps c n s
    | stopped => stopped

/-- Close the channel. -/
def close (c : Channel σ) (s : Solo σ) : Solo σ :=
  { s with channel := c.close s.channel }

/-- Step until a step exits or fails, then close the channel. -/
def execute (c : Channel σ) : Nat → Solo σ → Option (Except Fault Outcome × Solo σ)
  | 0, _ => none
  | fuel + 1, s =>
    match s.step c with
    | (.running, s) => execute c fuel s
    | (.exited e, s) => some (.ok (s.machine.outcome e), s.close c)
    | (.failed f, s) => some (.error f, s.close c)

/-- Obey a command. -/
def obey (c : Channel σ) (fuel : Nat) (s : Solo σ) :
    Machine.Command → Option (Machine.Answer × Solo σ)
  | .steps n =>
    let (progress, s) := s.steps c n
    some (.progress progress, s)
  | .execute => (execute c fuel s).map fun (result, s) => (.outcome result, s)
  | .inspect => some (.nothing, s)

/-- More fuel changes nothing once a run has ended. -/
theorem execute_mono {c : Channel σ} {fuel fuel' : Nat} {s : Solo σ}
    {r : Except Fault Outcome × Solo σ} (h : s.execute c fuel = some r) (le : fuel ≤ fuel') :
    s.execute c fuel' = some r := by
  induction fuel generalizing s fuel' with
  | zero => cases h
  | succ fuel ih =>
    obtain ⟨extra, rfl⟩ := Nat.exists_eq_add_of_le' le
    rw [← Nat.add_assoc, execute]
    rw [execute] at h
    split at h
    · exact ih h (Nat.le_add_left _ _)
    · exact h
    · exact h

end Solo

end Tandem
