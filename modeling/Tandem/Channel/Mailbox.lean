import Tandem.Channel.Basic

/-!
# The mailbox

A channel whose incoming values are fixed beforehand. It hands them out in order, then it is at its
end; it keeps the values sent, and counts how often it was closed.
-/

namespace Tandem

/-- The values still to be handed out, how many were taken, the values sent and the number of times
the mailbox was closed. -/
structure Mailbox where
  inbox : List Word
  taken : Nat := 0
  outbox : Array Word := #[]
  closes : Nat := 0
  policy : Policy := .store
  deriving DecidableEq

namespace Mailbox

/-- Take the next value out of the inbox. -/
def receive (s : Mailbox) : Received × Mailbox :=
  match s.inbox with
  | [] => (.terminated, s)
  | v :: rest => (.value v, { s with inbox := rest, taken := s.taken + 1 })

/-- Values are handed out in order and sent values are kept in order. -/
def channel : Channel Mailbox where
  send s v := { s with outbox := s.outbox.push v }
  receive := receive
  policy := policy
  close s := { s with closes := s.closes + 1 }

end Mailbox

end Tandem
