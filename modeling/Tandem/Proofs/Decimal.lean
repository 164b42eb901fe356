import Mathlib.Data.List.Basic
import Mathlib.Data.Nat.Digits.Defs
import Tandem.Proofs.Numeral

/-!
# Decimal notation

What a token means by the rules of decimal notation, said without a look at how it is read:
`Denotes` relates a token to the integer that it writes, whatever its size, and a token is a numeral
if that integer is in the range of words (`IsNumeral`). A token denotes one integer at most.

Numerals are read as the words they denote and all else is refused (`parse?_eq_some_iff`,
`parse?_eq_none_iff`), so an operand is a literal or a register according to its token being a
numeral or not.
-/

namespace Tandem

namespace Numeral

/-- The ten decimal digits. -/
def IsDigit (c : Char) : Prop :=
  '0' ≤ c ∧ c ≤ '9'

instance (c : Char) : Decidable (IsDigit c) :=
  inferInstanceAs (Decidable ('0' ≤ c ∧ c ≤ '9'))

/-- One digit or more. -/
structure IsDigits (cs : List Char) : Prop where
  ne_nil : cs ≠ []
  digit : ∀ c ∈ cs, IsDigit c

/-- The number that digits stand for, each counted by its place. -/
def placeValue (digits : List Char) : Nat :=
  Nat.ofDigits 10 (digits.map fun c => c.toNat - '0'.toNat).reverse

/-- The integer that a token writes in decimal notation: one sign at most, then digits. -/
inductive Denotes : List Char → Int → Prop where
  | unsigned {digits} :
    IsDigits digits →
    Denotes digits (placeValue digits)
  | plus {digits} :
    IsDigits digits →
    Denotes ('+' :: digits) (placeValue digits)
  | minus {digits} :
    IsDigits digits →
    Denotes ('-' :: digits) (-placeValue digits)

/-- The token denotes an integer that a signed word of 64 bits can hold. -/
def IsNumeral (token : List Char) : Prop :=
  ∃ n, Denotes token n ∧ -2 ^ 63 ≤ n ∧ n ≤ 2 ^ 63 - 1

variable {token digits : List Char} {v : Word} {n : Int}

/-! ### What a token denotes -/

/-- Characters that begin with a sign are not digits only. -/
lemma not_isDigits_cons {c : Char} (sign : ¬IsDigit c) : ¬IsDigits (c :: digits) :=
  fun isDigits => sign (isDigits.digit c List.mem_cons_self)

/-- After a minus sign stand the digits of the opposite number. -/
lemma denotes_minus_iff : Denotes ('-' :: digits) n ↔ IsDigits digits ∧ n = -placeValue digits := by
  constructor
  · intro denotes
    cases denotes with
    | unsigned isDigits => exact absurd isDigits (not_isDigits_cons (by decide))
    | minus isDigits => exact ⟨isDigits, rfl⟩
  · rintro ⟨isDigits, rfl⟩
    exact .minus isDigits

/-- After a plus sign stand the digits of the number. -/
lemma denotes_plus_iff : Denotes ('+' :: digits) n ↔ IsDigits digits ∧ n = placeValue digits := by
  constructor
  · intro denotes
    cases denotes with
    | unsigned isDigits => exact absurd isDigits (not_isDigits_cons (by decide))
    | plus isDigits => exact ⟨isDigits, rfl⟩
  · rintro ⟨isDigits, rfl⟩
    exact .plus isDigits

/-- Without a sign there are only the digits of the number. -/
lemma denotes_unsigned_iff (minus : ∀ digits, token ≠ '-' :: digits)
    (plus : ∀ digits, token ≠ '+' :: digits) :
    Denotes token n ↔ IsDigits token ∧ n = placeValue token := by
  constructor
  · intro denotes
    cases denotes with
    | unsigned isDigits => exact ⟨isDigits, rfl⟩
    | plus => exact absurd rfl (plus _)
    | minus => exact absurd rfl (minus _)
  · rintro ⟨isDigits, rfl⟩
    exact .unsigned isDigits

/-- A token denotes one integer at most. -/
lemma Denotes.unique {m : Int} (denotes : Denotes token n) (denotes' : Denotes token m) :
    n = m := by
  -- a sign is no digit, so the first character tells which of the three forms the token has
  cases denotes with
  | unsigned isDigits =>
    cases denotes' with
    | unsigned => rfl
    | plus => exact absurd isDigits (not_isDigits_cons (by decide))
    | minus => exact absurd isDigits (not_isDigits_cons (by decide))
  | plus => exact (denotes_plus_iff.1 denotes').2.symm
  | minus => exact (denotes_minus_iff.1 denotes').2.symm

/-! ### How a token is read -/

/-- The digits are the decimal digits of the library. -/
lemma isDigit_iff {c : Char} : c.isDigit = true ↔ IsDigit c :=
  Char.isDigit_iff_toNat

/-- The library reads digits by their place values. -/
lemma ofDigitChars_eq_placeValue (digits : List Char) :
    Nat.ofDigitChars 10 digits 0 = placeValue digits := by
  induction digits with
  | nil => rfl
  | cons c cs ih =>
    -- what has been read of the number before a digit moves up one place for every digit that
    -- follows
    rw [Nat.ofDigitChars_cons, Nat.ofDigitChars_eq_ofDigitChars_zero, ih, placeValue, placeValue,
      List.map_cons, Nat.ofDigits_reverse_cons, List.length_map, Nat.mul_zero, Nat.zero_add,
      Nat.add_comm]

/-- It can be computed whether characters are digits only. -/
lemma isDigits_iff : (!digits.isEmpty && digits.all Char.isDigit) = true ↔ IsDigits digits := by
  rw [Bool.and_eq_true, List.all_eq_true]
  constructor
  · rintro ⟨ne_nil, digit⟩
    exact ⟨by simpa using ne_nil, fun c mem => isDigit_iff.1 (digit c mem)⟩
  · rintro ⟨ne_nil, digit⟩
    exact ⟨by simpa using ne_nil, fun c mem => isDigit_iff.2 (digit c mem)⟩

/-- Characters have a magnitude if they are digits only, and it is their place value. -/
lemma magnitude?_eq_some_iff {m : Nat} :
    magnitude? digits = some m ↔ IsDigits digits ∧ m = placeValue digits := by
  rw [magnitude?, ofDigitChars_eq_placeValue, Option.ite_none_right_eq_some, isDigits_iff,
    Option.some.injEq, eq_comm]

/-- A word stands for an integer in the range of 64 bits. -/
lemma toInt_bounds (v : Word) : -2 ^ 63 ≤ v.toInt ∧ v.toInt ≤ 2 ^ 63 - 1 :=
  ⟨v.le_toInt, Int.le_sub_one_of_lt v.toInt_lt⟩

/-- An integer in the range of 64 bits is kept by its word. -/
lemma toInt_ofInt_of_bounds (lower : -2 ^ 63 ≤ n) (upper : n ≤ 2 ^ 63 - 1) :
    (Int64.ofInt n).toInt = n :=
  Int64.toInt_ofInt_of_le lower (Int.lt_of_le_sub_one upper)

/-- The word that is found for an integer stands for it. -/
lemma ofInt?_eq_some_iff : ofInt? n = some v ↔ v.toInt = n := by
  constructor
  · intro read
    rw [ofInt?, Option.ite_none_right_eq_some] at read
    obtain ⟨⟨lower, upper⟩, same⟩ := read
    rw [← Option.some.inj same]
    exact toInt_ofInt_of_bounds lower upper
  · rintro rfl
    exact ofInt?_toInt v

/-- Digits are read by their value, with the sign that was found before them. -/
lemma bind_magnitude?_eq_some_iff {signed : Nat → Int} :
    ((magnitude? digits).bind fun m => ofInt? (signed m)) = some v ↔
      IsDigits digits ∧ v.toInt = signed (placeValue digits) := by
  rw [Option.bind_eq_some_iff]
  constructor
  · rintro ⟨m, read, inRange⟩
    obtain ⟨isDigits, rfl⟩ := magnitude?_eq_some_iff.1 read
    exact ⟨isDigits, ofInt?_eq_some_iff.1 inRange⟩
  · rintro ⟨isDigits, same⟩
    exact ⟨_, magnitude?_eq_some_iff.2 ⟨isDigits, rfl⟩, ofInt?_eq_some_iff.2 same⟩

/-- A token is read as a word exactly if it denotes the word. -/
lemma parse?_eq_some_iff : parse? token = some v ↔ Denotes token v.toInt := by
  fun_cases parse? token with
  | case1 digits =>
    rw [denotes_minus_iff]
    exact bind_magnitude?_eq_some_iff
  | case2 digits =>
    rw [denotes_plus_iff]
    exact bind_magnitude?_eq_some_iff
  | case3 _ minus plus =>
    rw [denotes_unsigned_iff minus plus]
    exact bind_magnitude?_eq_some_iff

/-- All tokens but the numerals are refused. -/
lemma parse?_eq_none_iff : parse? token = none ↔ ¬IsNumeral token := by
  rw [Option.eq_none_iff_forall_ne_some]
  constructor
  · rintro refused ⟨n, denotes, lower, upper⟩
    rw [← toInt_ofInt_of_bounds lower upper] at denotes
    exact refused _ (parse?_eq_some_iff.2 denotes)
  · intro other v read
    exact other ⟨v.toInt, parse?_eq_some_iff.1 read, toInt_bounds v⟩

/-! ### Tokens that are no numerals -/

/-- A token that denotes an integer out of range is no numeral. -/
lemma not_isNumeral_of_out_of_range (denotes : Denotes token n)
    (outside : n < -2 ^ 63 ∨ 2 ^ 63 - 1 < n) : ¬IsNumeral token := by
  rintro ⟨m, denotes', lower, upper⟩
  obtain rfl := denotes.unique denotes'
  omega

/-- Digits only are one digit at least. -/
lemma IsDigits.exists_digit (isDigits : IsDigits digits) : ∃ c ∈ digits, IsDigit c := by
  obtain ⟨c, mem⟩ := List.exists_mem_of_ne_nil _ isDigits.ne_nil
  exact ⟨c, mem, isDigits.digit c mem⟩

/-- A token that denotes an integer has a digit. -/
lemma Denotes.exists_digit (denotes : Denotes token n) : ∃ c ∈ token, IsDigit c := by
  cases denotes with
  | unsigned isDigits => exact isDigits.exists_digit
  | plus isDigits => exact List.exists_mem_cons_of_exists isDigits.exists_digit
  | minus isDigits => exact List.exists_mem_cons_of_exists isDigits.exists_digit

/-- A token that denotes an integer has digits and signs only. -/
lemma Denotes.digit_or_sign (denotes : Denotes token n) :
    ∀ c ∈ token, IsDigit c ∨ c = '+' ∨ c = '-' := by
  cases denotes with
  | unsigned isDigits => exact fun c mem => .inl (isDigits.digit c mem)
  | plus isDigits =>
    exact List.forall_mem_cons.2 ⟨.inr (.inl rfl), fun c mem => .inl (isDigits.digit c mem)⟩
  | minus isDigits =>
    exact List.forall_mem_cons.2 ⟨.inr (.inr rfl), fun c mem => .inl (isDigits.digit c mem)⟩

end Numeral

namespace Operand

open Numeral

/-- A token that is no numeral names a register. -/
lemma ofToken_of_not_isNumeral {token : List Char} (other : ¬IsNumeral token) :
    ofToken token = .register ⟨String.ofList token⟩ :=
  ofToken_eq_register_iff.2 ⟨parse?_eq_none_iff.2 other, String.toList_ofList.symm⟩

/-- A token is a literal if it is a numeral, and then the literal is the word that it denotes. Every
other token names a register: those without a digit, such as the empty one or a lone sign; those
with a character that is neither a digit nor a sign; those that denote an integer out of range. An
operand is read back from its text unless it is a register that a numeral names. -/
theorem ofToken_reads_numerals :
    (∀ token v, ofToken token = .literal v ↔
      Denotes token v.toInt ∧ -2 ^ 63 ≤ v.toInt ∧ v.toInt ≤ 2 ^ 63 - 1) ∧
    (∀ token, ofToken token = .register ⟨String.ofList token⟩ ↔ ¬IsNumeral token) ∧
    (∀ token, (∀ c ∈ token, ¬IsDigit c) ∨ (∃ c ∈ token, ¬IsDigit c ∧ c ≠ '+' ∧ c ≠ '-') ∨
        (∃ n, Denotes token n ∧ (n < -2 ^ 63 ∨ 2 ^ 63 - 1 < n)) →
      ofToken token = .register ⟨String.ofList token⟩) ∧
    ∀ o : Operand, ofToken o.text.toList = o ↔
      (∃ v, o = .literal v) ∨ ∃ x, o = .register x ∧ ¬IsNumeral x.name.toList := by
  refine ⟨fun token v => ?_, fun token => ?_, fun token other => ?_, fun o => ?_⟩
  · rw [ofToken_eq_literal_iff, parse?_eq_some_iff, and_iff_left (toInt_bounds v)]
  · rw [ofToken_eq_register_iff, parse?_eq_none_iff, String.toList_ofList, and_iff_left rfl]
  · apply ofToken_of_not_isNumeral
    obtain noDigit | ⟨c, mem, notDigit, notPlus, notMinus⟩ | ⟨n, denotes, outside⟩ := other
    · rintro ⟨n, denotes, -⟩
      obtain ⟨c, mem, digit⟩ := denotes.exists_digit
      exact noDigit c mem digit
    · rintro ⟨n, denotes, -⟩
      obtain digit | plus | minus := denotes.digit_or_sign c mem
      · exact notDigit digit
      · exact notPlus plus
      · exact notMinus minus
    · exact not_isNumeral_of_out_of_range denotes outside
  · cases o with
    | literal v =>
      refine iff_of_true (ofToken_text ?_) (.inl ⟨v, rfl⟩)
      exact fun x register => nomatch register
    | register x =>
      rw [text, ofToken_eq_register_iff, parse?_eq_none_iff]
      simp

/-- Zeros may stand before the least word, but not one more than the greatest after a plus sign;
digits of other scripts are none, and the least word is read back from its text. -/
theorem ofToken_reads_numerals_limits :
    Denotes "-009223372036854775808".toList (-9223372036854775808) ∧
    ofToken "-009223372036854775808".toList = .literal Int64.minValue ∧
    ofToken "+9223372036854775808".toList = .register ⟨"+9223372036854775808"⟩ ∧
    ofToken [] = .register ⟨""⟩ ∧ ofToken ['-'] = .register ⟨"-"⟩ ∧
    ofToken ['٣'] = .register ⟨"٣"⟩ ∧
    ofToken (text (.literal Int64.minValue)).toList = .literal Int64.minValue := by
  obtain ⟨literal, -, register, back⟩ := ofToken_reads_numerals
  have least : Denotes "-009223372036854775808".toList (-9223372036854775808) :=
    .minus (isDigits_iff.1 rfl)
  have above : Denotes "+9223372036854775808".toList 9223372036854775808 :=
    .plus (isDigits_iff.1 rfl)
  have sign : ∀ c ∈ ['-'], ¬IsDigit c := List.forall_mem_singleton.2 (by decide)
  refine ⟨least, (literal _ _).2 ⟨least, by decide⟩, ?_, ?_, ?_, ?_, (back _).2 (.inl ⟨_, rfl⟩)⟩
  · exact register _ (.inr (.inr ⟨_, above, .inr (by decide)⟩))
  · exact register _ (.inl (List.forall_mem_nil _))
  · exact register _ (.inl sign)
  · exact register _ (.inr (.inl ⟨'٣', List.mem_cons_self, by decide⟩))

end Operand

end Tandem
