import Tandem.Instruction.Opcode
import Tandem.Instruction.Operand
import Tandem.Proofs.Text

/-!
# Numerals and the tokens of operands

The shortest numeral of a word is read as that word (`parse?_format`), and it is a word of a text.
So the token of an operand is read as the operand again, unless the operand is a register with a
numeral for a name.
-/

namespace Tandem

namespace Numeral

/-- The digits of a number have it as their magnitude. -/
lemma magnitude?_toDigits (n : Nat) : magnitude? (Nat.toDigits 10 n) = some n := by
  have digits : (Nat.toDigits 10 n).all Char.isDigit = true :=
    List.all_eq_true.2 fun c mem => Nat.isDigit_of_mem_toDigits (by decide) (by decide) mem
  rw [magnitude?, Nat.ofDigitChars_toDigits (by decide) (by decide), digits]
  simp [Nat.toDigits_ne_nil]

/-- A word is found for the integer that it stands for. -/
lemma ofInt?_toInt (w : Word) : ofInt? w.toInt = some w := by
  rw [ofInt?, if_pos ⟨Int64.minValue_le_toInt w, Int64.toInt_le w⟩, Int64.ofInt_toInt]

/-- Digits without a sign are read as the number, if it is in range. -/
lemma parse?_toDigits (n : Nat) : parse? (Nat.toDigits 10 n) = ofInt? n := by
  have digit {c : Char} {cs : List Char} (eq : Nat.toDigits 10 n = c :: cs) : c.isDigit = true :=
    Nat.isDigit_of_mem_toDigits (by decide) (by decide) (eq ▸ List.mem_cons_self)
  -- the first two cases are those of a sign
  unfold parse?
  split
  · next eq => simpa using digit eq
  · next eq => simpa using digit eq
  · rw [magnitude?_toDigits, Option.bind_some]

/-- The numeral of a word is read as that word. -/
@[simp] lemma parse?_format (w : Word) : parse? (format w) = some w := by
  rw [← ofInt?_toInt w, format]
  split
  · next n eq =>
    rw [eq]
    exact parse?_toDigits n
  · next n eq =>
    rw [eq, parse?, magnitude?_toDigits, Option.bind_some]
    rfl

/-- No digit is a blank. -/
lemma isBlank_of_isDigit {c : Char} (digit : c.isDigit = true) : Text.isBlank c = false := by
  have bounds : 48 ≤ c.toNat ∧ c.toNat ≤ 57 := Char.isDigit_iff_toNat.1 digit
  simp only [Text.isBlank, Text.blankRanges, List.any_cons, List.any_nil, Bool.or_false,
    Bool.or_eq_false_iff, Bool.and_eq_false_imp, decide_eq_true_eq, decide_eq_false_iff_not]
  omega

/-- The digits of a number are a word of a text. -/
lemma isWord_toDigits (n : Nat) : Text.IsWord (Nat.toDigits 10 n) := by
  refine ⟨Nat.toDigits_ne_nil, fun c mem => ?_⟩
  exact isBlank_of_isDigit (Nat.isDigit_of_mem_toDigits (by decide) (by decide) mem)

/-- The numeral of a word is a word of a text. -/
lemma isWord_format (w : Word) : Text.IsWord (format w) := by
  unfold format
  split
  · exact isWord_toDigits _
  · refine ⟨nofun, fun c mem => ?_⟩
    obtain rfl | mem := List.mem_cons.1 mem
    · rfl
    · exact (isWord_toDigits _).not_blank c mem

/-- No mnemonic is a numeral. -/
lemma parse?_mnemonic (op : Opcode) : parse? op.mnemonic.toList = none := by
  cases op with
  | update u => cases u <;> rfl
  | _ => rfl

end Numeral

namespace Operand

variable {token : List Char}

/-- A token is read as a literal exactly if it is a numeral of that word. -/
lemma ofToken_eq_literal_iff {v : Word} :
    ofToken token = .literal v ↔ Numeral.parse? token = some v := by
  rw [ofToken]
  cases Numeral.parse? token <;> simp

/-- A token is read as a register exactly if it is the name and no numeral. -/
lemma ofToken_eq_register_iff {x : Register} :
    ofToken token = .register x ↔ Numeral.parse? token = none ∧ token = x.name.toList := by
  rw [ofToken]
  cases Numeral.parse? token with
  | some v => simp
  | none =>
    obtain ⟨name⟩ := x
    simp [← String.toList_inj]

/-- The token of an operand is read as the operand, unless it is a register named by a numeral. -/
lemma ofToken_text {o : Operand}
    (plain : ∀ x, o = .register x → Numeral.parse? x.name.toList = none) :
    ofToken o.text.toList = o := by
  cases o with
  | literal v =>
    rw [text, Numeral.text, String.toList_ofList]
    exact ofToken_eq_literal_iff.2 (Numeral.parse?_format v)
  | register x => exact ofToken_eq_register_iff.2 ⟨plain x rfl, rfl⟩

end Operand

end Tandem
