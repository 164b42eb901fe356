import Tandem.Request

/-!
# Channels that never wait

A channel of this kind answers every receive at once. It is given by what its operations do to a
state of its own.
-/

namespace Tandem

/-- The operations of a channel with states `σ`. -/
structure Channel (σ : Type) where
  send : σ → Word → σ
  receive : σ → Received × σ
  policy : σ → Policy
  close : σ → σ

/-- Serve a request. The policy is asked for after the receive. -/
def Channel.serve {α σ : Type} (c : Channel σ) (s : σ) : Request α → α × σ
  | .work after => (after, s)
  | .send value after => (after, c.send s value)
  | .receive after =>
    let (received, s) := c.receive s
    (after (c.policy s) received, s)
  | .close after => (after, c.close s)

end Tandem
