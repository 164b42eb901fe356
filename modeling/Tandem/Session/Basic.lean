import Tandem.Monitor.Basic

/-!
# Sessions

A session drives the two sides of a link by calls. A side serves one call at a time. After each call
the threads run until neither has a turn; a call whose thread then sleeps stays under way, and is
answered after a later call of the other side has brought it to its end. A side that was dropped
takes no more calls.
-/

namespace Tandem

/-- Whether a side can take a call. -/
inductive Session.Standing where
  | idle
  /-- A call is under way. -/
  | busy
  /-- The side is being dropped. -/
  | leaving
  | dropped
  deriving DecidableEq, Repr

/-- Two threads on a link, and which calls are under way. -/
structure Session (α : Type) where
  monitor : Monitor α
  standing : Both Session.Standing := ⟨.idle, .idle⟩

namespace Session

/-- How threads with states `α` serve calls `κ` with answers `ρ`. -/
structure Agent (κ ρ α : Type) where
  /-- The next request, or nothing when the last call is served. -/
  next : α → Option (Request α)
  /-- Begin to serve a call. -/
  start : κ → α → α
  /-- Begin to close the end of the link. -/
  leave : α → α
  /-- The answer to the last call. -/
  answer : α → ρ

/-- A call on a side: one that its thread serves, or the end of the side. -/
inductive Call (κ : Type) where
  | serve (call : κ)
  | drop

/-- The reply to a call. -/
inductive Reply (ρ : Type) where
  /-- Ignored, because the side was dropped. -/
  | dropped
  /-- Ignored, because the last call of the side is under way. -/
  | blocked
  /-- The calls that came to their end, with the answers of those that were served, and the link
  once nothing moves. -/
  | settled (done : List (Side × Option ρ)) (link : Link)

variable {κ ρ α : Type}

/-- The standing of a side when neither side has a turn, and the call that came to its end there, if
any. -/
def conclude (agent : Agent κ ρ α) (s : Session α) (i : Side) : Standing × List (Side × Option ρ) :=
  if (s.monitor.phase i).isParked then (s.standing.get i, [])
  else
    match s.standing.get i with
    | .busy => (.idle, [(i, some (agent.answer (s.monitor.state i)))])
    | .leaving => (.dropped, [(i, none)])
    | standing => (standing, [])

/-- Let the threads run until neither has a turn, and tell which calls came to their end. -/
def settle (agent : Agent κ ρ α) (fuel : Nat) (s : Session α) : Option (Reply ρ × Session α) :=
  (s.monitor.settle agent.next fuel).map fun monitor =>
    let s := { s with monitor }
    let zero := s.conclude agent .zero
    let one := s.conclude agent .one
    (.settled (zero.2 ++ one.2) monitor.link, { s with standing := ⟨zero.1, one.1⟩ })

/-- Give a side, which is idle, its next call. -/
def begin (agent : Agent κ ρ α) (s : Session α) (i : Side) : Call κ → Session α
  | .serve call =>
    { monitor := s.monitor.put i (agent.start call (s.monitor.state i)) .ready
      standing := s.standing.set i .busy }
  | .drop =>
    { monitor := s.monitor.put i (agent.leave (s.monitor.state i)) .ready
      standing := s.standing.set i .leaving }

/-- Make a call. -/
def call (agent : Agent κ ρ α) (fuel : Nat) (s : Session α) (i : Side) (c : Call κ) :
    Option (Reply ρ × Session α) :=
  match s.standing.get i with
  | .dropped => some (.dropped, s)
  | .busy | .leaving => some (.blocked, s)
  | .idle => (s.begin agent i c).settle agent fuel

/-- Make calls one after another. -/
def calls (agent : Agent κ ρ α) (fuel : Nat) (s : Session α) :
    List (Side × Call κ) → Option (List (Reply ρ) × Session α)
  | [] => some ([], s)
  | (i, c) :: rest => do
    let (reply, s) ← s.call agent fuel i c
    let (replies, s) ← calls agent fuel s rest
    return (reply :: replies, s)

/-- Drop each of the sides that is idle when its turn comes. -/
def dropAll (agent : Agent κ ρ α) (fuel : Nat) (s : Session α) : List Side → Option (List (Reply ρ))
  | [] => some []
  | i :: rest =>
    if s.standing.get i = .idle then do
      let (reply, s) ← s.call agent fuel i .drop
      let replies ← dropAll agent fuel s rest
      return reply :: replies
    else dropAll agent fuel s rest

/-- Make calls, then end the session. A side whose call is brought to its end by the drop of the
other side is dropped after it. -/
def run (agent : Agent κ ρ α) (fuel : Nat) (s : Session α) (cs : List (Side × Call κ)) :
    Option (List (Reply ρ) × List (Reply ρ)) := do
  let (replies, s) ← s.calls agent fuel cs
  let last ← s.dropAll agent fuel [.zero, .one, .zero]
  return (replies, last)

end Session

end Tandem
