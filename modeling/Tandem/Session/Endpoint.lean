import Tandem.Session.Basic

/-!
# Sessions of bare endpoints

The two ends of a link, each driven directly by calls to send, receive and close.
-/

namespace Tandem

/-- A call on an end of a link. -/
inductive Endpoint.Call where
  | send (value : Word)
  | receive
  | close
  /-- Ask for the policy of the channel. -/
  | policy
  /-- Ask for the number of the side. -/
  | id
  deriving DecidableEq, Repr

/-- The answer to a call. -/
inductive Endpoint.Answer where
  | nothing
  | received (received : Received)
  | policy (policy : Policy)
  | id (id : Nat)
  deriving DecidableEq, Repr

/-- What is left of a call. -/
inductive Endpoint.Errand where
  | send (value : Word)
  | receive
  | close
  /-- Nothing. -/
  | done (answer : Endpoint.Answer)
  deriving DecidableEq, Repr

/-- An end of a link, at work on a call. -/
structure Endpoint where
  side : Side
  errand : Endpoint.Errand := .done .nothing
  deriving DecidableEq, Repr

namespace Endpoint

/-- An end that has answered. -/
def finish (e : Endpoint) (answer : Answer) : Endpoint :=
  { e with errand := .done answer }

/-- What an end asks next. -/
def next (e : Endpoint) : Option (Request Endpoint) :=
  match e.errand with
  | .send value => some (.send value (e.finish .nothing))
  | .receive => some (.receive fun _ received => e.finish (.received received))
  | .close => some (.close (e.finish .nothing))
  | .done _ => none

/-- Begin to serve a call. -/
def start (call : Call) (e : Endpoint) : Endpoint :=
  match call with
  | .send value => { e with errand := .send value }
  | .receive => { e with errand := .receive }
  | .close => { e with errand := .close }
  | .policy => e.finish (.policy Link.policy)
  | .id => e.finish (.id e.side.id)

/-- The last answer. -/
def answer (e : Endpoint) : Answer :=
  match e.errand with
  | .done answer => answer
  | _ => .nothing

/-- Ends of a link serve calls. -/
def agent : Session.Agent Call Answer Endpoint where
  next := next
  start := start
  leave := start .close
  answer := answer

/-- A session on the ends of a fresh link. -/
def session : Session Endpoint where
  monitor := { threads := .ofFn fun side => { state := { side } } }

end Endpoint

end Tandem
