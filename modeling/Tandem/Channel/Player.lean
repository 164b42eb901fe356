import Tandem.Channel.Basic

/-!
# The player

A channel for one machine alone: it plays the values sent to it, and a receive recovers the value
played last.
-/

namespace Tandem

/-- The value played last, if any. -/
structure Player where
  played : Option Word := none
  deriving DecidableEq

namespace Player

/-- A receive gives the value played last, or zero, and leaves it in place. Closing does nothing. -/
def channel : Channel Player where
  send _ v := ⟨some v⟩
  receive s := (.value (s.played.getD 0), s)
  policy _ := .recover
  close s := s

end Player

end Tandem
