import Tandem.Performer
import Tandem.Session.Basic

/-!
# Sessions of machines

Two machines on a link, each driven by commands. The answer to a command comes with the machine as
it was left.
-/

namespace Tandem.Performer

/-- Performers serve commands. -/
def agent : Session.Agent Machine.Command (Machine.Answer × Machine) Performer where
  next := next
  start command p := { p with task := .ofCommand command }
  leave p := { p with task := .leaving .nothing }
  answer p := (p.answer, p.machine)

/-- A session of two machines on a fresh link. -/
def session (machines : Both Machine) : Session Performer where
  monitor := { threads := machines.map fun machine => { state := { machine } } }

end Tandem.Performer
