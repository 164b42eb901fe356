import Tandem.Machine.Basic

/-!
# Performers

A performer is a machine at work on a command. It is a thread: `Performer.next` is what it asks of
its channel next, and nothing once it has answered.
-/

namespace Tandem

/-- What is left of a command. -/
inductive Performer.Task where
  /-- So many more steps; what the last one came to. -/
  | stepping (left : Nat) (last : Progress)
  /-- Steps until one exits or fails. -/
  | executing
  /-- Only to close the channel. -/
  | leaving (answer : Machine.Answer)
  /-- Nothing. -/
  | done (answer : Machine.Answer)

/-- A machine at work. -/
structure Performer where
  machine : Machine
  task : Performer.Task := .done .nothing

namespace Performer

/-- What is left of a command that has just been given. -/
def Task.ofCommand : Machine.Command → Task
  | .steps count => .stepping count .running
  | .execute => .executing
  | .inspect => .done .nothing

/-- A machine after one step, with `left` more to make. -/
def afterStep (left : Nat) : Progress × Machine → Performer
  | (.running, machine) => ⟨machine, .stepping left .running⟩
  | (progress, machine) => ⟨machine, .done (.progress progress)⟩

/-- A machine after one step of a run. -/
def afterTurn : Progress × Machine → Performer
  | (.running, machine) => ⟨machine, .executing⟩
  | (.exited e, machine) => ⟨machine, .leaving (.outcome (.ok (machine.outcome e)))⟩
  | (.failed f, machine) => ⟨machine, .leaving (.outcome (.error f))⟩

/-- What a performer asks next. -/
def next (p : Performer) : Option (Request Performer) :=
  match p.task with
  | .stepping 0 last => some (.work { p with task := .done (.progress last) })
  | .stepping (left + 1) _ => some (p.machine.next.map (afterStep left))
  | .executing => some (p.machine.next.map afterTurn)
  | .leaving answer => some (.close { p with task := .done answer })
  | .done _ => none

/-- The last answer. -/
def answer (p : Performer) : Machine.Answer :=
  match p.task with
  | .done answer => answer
  | _ => .nothing

/-- How a run ended, once it has ended. -/
def result? (p : Performer) : Option (Except Fault Outcome) :=
  match p.task with
  | .done (.outcome result) => some result
  | _ => none

end Performer

end Tandem
