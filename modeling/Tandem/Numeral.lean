/-!
# Numerals

Values of the machine are signed words of 64 bits. A numeral is a decimal text of such a word: one
sign at most, then one digit at least. Reading accepts leading zeros and a plus sign; writing gives
the shortest numeral, without either.
-/

namespace Tandem

/-- A value of the machine: a signed word of 64 bits. Sums and products wrap around. -/
abbrev Word := Int64

namespace Numeral

/-- The number written by a run of one or more decimal digits. -/
def magnitude? (digits : List Char) : Option Nat :=
  if !digits.isEmpty && digits.all Char.isDigit then some (Nat.ofDigitChars 10 digits 0) else none

/-- The word equal to an integer, if there is one. -/
def ofInt? (n : Int) : Option Word :=
  if Int64.minValue.toInt ≤ n ∧ n ≤ Int64.maxValue.toInt then some (Int64.ofInt n) else none

/-- The word that a numeral writes, or nothing if the text is no numeral. -/
def parse? : List Char → Option Word
  | '-' :: digits => (magnitude? digits).bind fun n => ofInt? (-(n : Int))
  | '+' :: digits => (magnitude? digits).bind fun n => ofInt? n
  | digits => (magnitude? digits).bind fun n => ofInt? n

/-- The shortest numeral of a word. -/
def format (w : Word) : List Char :=
  match w.toInt with
  | .ofNat n => Nat.toDigits 10 n
  | .negSucc n => '-' :: Nat.toDigits 10 (n + 1)

/-- The shortest numeral of a word, as a string. -/
def text (w : Word) : String :=
  String.ofList (format w)

end Numeral

end Tandem
