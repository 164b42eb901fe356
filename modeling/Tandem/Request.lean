import Tandem.Numeral

/-!
# Requests

Whoever computes beside a channel does so in short turns. A turn ends in a request: what the channel
is to do, together with the state in which the computation goes on afterwards. What a machine does
is thereby said once, and every kind of channel serves the same requests.
-/

namespace Tandem

/-- What a receive gives. -/
inductive Received where
  | value (v : Word)
  /-- No value is there and none will come. -/
  | terminated
  deriving DecidableEq, Repr

/-- What a machine does with a value it receives. -/
inductive Policy where
  /-- Write the value to the register named. -/
  | store
  /-- Stop with the value if the register named is not zero; otherwise ignore the value. -/
  | recover
  deriving DecidableEq, Repr

/-- What a turn asks of a channel, and the state that follows. -/
inductive Request (α : Type) where
  /-- Nothing. -/
  | work (after : α)
  | send (value : Word) (after : α)
  /-- Receive; what follows depends on the policy of the channel and on what is received. -/
  | receive (after : Policy → Received → α)
  | close (after : α)

/-- Change the state that follows a request. -/
def Request.map {α β : Type} (f : α → β) : Request α → Request β
  | .work after => .work (f after)
  | .send value after => .send value (f after)
  | .receive after => .receive fun policy received => f (after policy received)
  | .close after => .close (f after)

end Tandem
