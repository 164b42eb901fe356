/-!
# Blank characters

Words of a program text are separated by blanks. A blank is any character with the Unicode property
`White_Space`; the table lists the property as ranges of code points, in increasing order.
-/

namespace Tandem.Text

/-- The code points with the property `White_Space`, as inclusive ranges. -/
def blankRanges : List (Nat × Nat) :=
  [(0x09, 0x0D), (0x20, 0x20), (0x85, 0x85), (0xA0, 0xA0), (0x1680, 0x1680), (0x2000, 0x200A),
    (0x2028, 0x2029), (0x202F, 0x202F), (0x205F, 0x205F), (0x3000, 0x3000)]

/-- Whether a character separates words. -/
def isBlank (c : Char) : Bool :=
  blankRanges.any fun (lo, hi) => decide (lo ≤ c.toNat) && decide (c.toNat ≤ hi)

/-- There are twenty-five blanks. -/
example : (blankRanges.map fun (lo, hi) => hi + 1 - lo).sum = 25 := by decide

/-- The ranges are in increasing order and do not touch. -/
example : blankRanges.Pairwise fun a b => a.2 + 1 < b.1 := by decide

end Tandem.Text
