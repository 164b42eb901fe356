import Tandem.Channel.Player
import Tandem.Machine.Solo

/-!
# Recovery

The first value that a program recovers when it runs alone with a player.
-/

namespace Tandem

/-- The value in an exit that recovered one. -/
def Exit.recovered? : Exit → Option Word
  | .recovered v => some v
  | .halted | .terminated => none

/-- Run a program alone, with zero in register `p`, and give the value it recovers, if it recovers
any before it halts. -/
def recover (fuel : Nat) (p : Program) : Option (Except Fault (Option Word)) :=
  let start : Solo Player := ⟨{ program := p, registers := .seeded 0 }, {}⟩
  (start.execute Player.channel fuel).map fun (result, _) =>
    result.map fun outcome => outcome.exit.recovered?

end Tandem
