import Tandem.Monitor.Basic
import Tandem.Performer

/-!
# Dual runs

Two machines run at the same time on the two sides of a fresh link, each until it stops. In the run
of a single program both machines run that program and differ in register `p` only, which holds the
number of the side.
-/

namespace Tandem.DualRun

/-- What a dual run tells. -/
structure Report where
  /-- How many values the machine on side one sent. -/
  sentByOne : Nat
  /-- Whether the run ended in a deadlock. -/
  deadlocked : Bool
  deriving DecidableEq, Repr

/-- Why a dual run fails. -/
inductive Failure where
  /-- The machine with this number met a fault. -/
  | fault (id : Nat) (fault : Fault)
  /-- The machine with this number gave no result. -/
  | lost (id : Nat)
  deriving DecidableEq, Repr

/-- The text of a failure. -/
def Failure.message : Failure → String
  | .fault id f => s!"program {id}: {f.message}"
  | .lost id => s!"program {id} panicked"

/-- Two machines on a fresh link, about to run. -/
def start (machines : Both Machine) : Monitor Performer where
  threads := machines.map fun machine => { state := { machine, task := .executing } }

/-- How the run of a side ended. -/
def verdict (m : Monitor Performer) (i : Side) : Except Failure Outcome :=
  match (m.state i).result? with
  | none => .error (.lost i.id)
  | some (.error f) => .error (.fault i.id f)
  | some (.ok outcome) => .ok outcome

/-- The report on a run in which both sides have come to rest. A failure on side zero is told
first. -/
def conclude (m : Monitor Performer) : Except Failure Report :=
  match verdict m .zero, verdict m .one with
  | .error failure, _ => .error failure
  | .ok _, .error failure => .error failure
  | .ok _, .ok outcome => .ok ⟨outcome.sent, m.link.deadlocked⟩

/-- The machine that a program is given on a side. -/
def machine (p : Program) (i : Side) : Machine where
  program := p
  registers := .seeded (Int64.ofNat i.id)

/-- Run a program on both sides. -/
def run (fuel : Nat) (p : Program) : Option (Except Failure Report) :=
  ((start (.ofFn (machine p))).settle Performer.next fuel).map conclude

end Tandem.DualRun
