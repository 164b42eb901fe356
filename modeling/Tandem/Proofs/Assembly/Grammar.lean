import Mathlib.Data.List.Forall2
import Tandem.Assembly
import Tandem.Proofs.Instruction
import Tandem.Proofs.Numeral

/-!
# The grammar of program texts

What the words of a line must be to write an instruction, said without a look at how they are read:
`Spells` relates the words to the instruction, `Good` says that there is one or that the line is
blank, and `Flaw` says what is wrong with a line that is not good. A line has one flaw at most, the
first that applies.

Reading the words of a line decides between the three (`readWords_cases`). A text is read line by
line up to its first line with a flaw (`readLines_eq_error_iff`), or to its end
(`readLines_eq_ok_iff`).
-/

namespace Tandem.Assembly

open Numeral (parse?)

/-- The words of a line write an instruction. -/
def Spells (ws : List (List Char)) (i : Instruction) : Prop :=
  ∃ tokens, ws = i.opcode.mnemonic.toList :: tokens ∧ i.operands = tokens.map Operand.ofToken

/-- The line is blank, or a mnemonic stands before as many words as its opcode takes, the first of
which is no numeral if it is to be written. -/
def Good : List (List Char) → Prop
  | [] => True
  | first :: rest => ∃ op : Opcode, first = op.mnemonic.toList ∧ rest.length = op.arity ∧
    (op.hasTarget = true → ∀ target ∈ rest.head?, parse? target = none)

/-- What is wrong with a line. -/
inductive Flaw : List (List Char) → Cause → Prop where
  | unexpectedToken {first rest v} :
    parse? first = some v →
    Flaw (first :: rest) (.unexpectedToken (Numeral.text v))
  | unknownOpcode {first rest} :
    parse? first = none →
    (∀ op : Opcode, first ≠ op.mnemonic.toList) →
    Flaw (first :: rest) (.instruction (.unknownOpcode (String.ofList first)))
  | wrongArity {op rest} :
    rest.length ≠ op.arity →
    Flaw (op.mnemonic.toList :: rest) (.instruction (.arity op op.arity rest.length))
  | literalTarget {op target rest v} :
    (target :: rest).length = op.arity →
    op.hasTarget = true →
    parse? target = some v →
    Flaw (op.mnemonic.toList :: target :: rest) (.instruction (.literalTarget op v))

variable {ws tokens : List (List Char)} {i : Instruction} {cause : Cause} {op : Opcode}

/-- A word that is a mnemonic is known. -/
lemma ofMnemonic?_ofList_mnemonic (op : Opcode) :
    Opcode.ofMnemonic? (String.ofList op.mnemonic.toList) = some op := by
  rw [String.ofList_toList, Opcode.ofMnemonic?_mnemonic]

/-- After a mnemonic an instruction is made of the tokens that follow. -/
lemma readWords_mnemonic (op : Opcode) (tokens : List (List Char)) :
    readWords (op.mnemonic.toList :: tokens) =
      ((Instruction.make op (tokens.map Operand.ofToken)).mapError .instruction).map some := by
  rw [readWords, Numeral.parse?_mnemonic]
  simp only [ofMnemonic?_ofList_mnemonic]
  cases Instruction.make op (tokens.map Operand.ofToken) <;> rfl

/-- A word that is known is the mnemonic of its opcode. -/
lemma eq_mnemonic_of_ofMnemonic? {first : List Char}
    (known : Opcode.ofMnemonic? (String.ofList first) = some op) : first = op.mnemonic.toList := by
  rw [Opcode.mnemonic_of_ofMnemonic? known, String.toList_ofList]

/-- No two opcodes share a mnemonic. -/
lemma mnemonic_injective {op' : Opcode} (same : op.mnemonic.toList = op'.mnemonic.toList) :
    op = op' := by
  have known := ofMnemonic?_ofList_mnemonic op
  rw [same, ofMnemonic?_ofList_mnemonic op'] at known
  exact (Option.some.inj known).symm

/-- What is wrong with the operands is wrong with the line. -/
lemma flaw_of_misfit {e : Instruction.Error}
    (misfit : Instruction.Misfit op (tokens.map Operand.ofToken) e) :
    Flaw (op.mnemonic.toList :: tokens) (.instruction e) := by
  cases misfit with
  | arity wrong =>
    rw [List.length_map] at wrong ⊢
    exact .wrongArity wrong
  | @literalTarget v others first right target =>
    obtain ⟨token, rest, rfl, literal, -⟩ := List.map_eq_cons_iff.1 first
    rw [List.length_map] at right
    exact .literalTarget right target (Operand.ofToken_eq_literal_iff.1 literal)

/-- The words of a line are blank, write an instruction or have a flaw, and are read as such. -/
lemma readWords_cases (ws : List (List Char)) :
    (ws = [] ∧ readWords ws = .ok none) ∨
      (∃ i, Spells ws i ∧ readWords ws = .ok (some i)) ∨
        ∃ cause, Flaw ws cause ∧ readWords ws = .error cause := by
  fun_cases readWords ws with
  | case1 => exact .inl ⟨rfl, rfl⟩
  | case2 first rest v numeral => exact .inr (.inr ⟨_, .unexpectedToken numeral, rfl⟩)
  | case3 first rest word unknown =>
    refine .inr (.inr ⟨_, .unknownOpcode word ?_, rfl⟩)
    rintro op rfl
    cases unknown.symm.trans (ofMnemonic?_ofList_mnemonic op)
  | case4 first rest word op known e failed =>
    obtain rfl := eq_mnemonic_of_ofMnemonic? known
    exact .inr (.inr ⟨_, flaw_of_misfit (Instruction.make_eq_error_iff.1 failed), rfl⟩)
  | case5 first rest word op known i made =>
    obtain rfl := eq_mnemonic_of_ofMnemonic? known
    obtain ⟨rfl, operands⟩ := Instruction.make_eq_ok_iff.1 made
    exact .inr (.inl ⟨i, ⟨rest, rfl, operands⟩, rfl⟩)

/-- Words that spell an instruction are read as it. -/
lemma Spells.readWords_eq (spells : Spells ws i) : readWords ws = .ok (some i) := by
  obtain ⟨tokens, rfl, operands⟩ := spells
  rw [readWords_mnemonic, ← operands, Instruction.make_opcode_operands]
  rfl

/-- Words with a flaw are refused for it. -/
lemma Flaw.readWords_eq (flaw : Flaw ws cause) : readWords ws = .error cause := by
  cases flaw with
  | unexpectedToken numeral => rw [readWords, numeral]
  | unknownOpcode word unknown =>
    rw [readWords, word]
    cases known : Opcode.ofMnemonic? (String.ofList _) with
    | none => rfl
    | some op => exact absurd (eq_mnemonic_of_ofMnemonic? known) (unknown op)
  | @wrongArity op rest wrong =>
    have misfit : Instruction.Misfit op (rest.map Operand.ofToken)
        (.arity op op.arity rest.length) := by
      rw [← List.length_map Operand.ofToken]
      exact .arity (by rwa [List.length_map])
    rw [readWords_mnemonic, Instruction.make_eq_error_iff.2 misfit]
    rfl
  | literalTarget right target numeral =>
    have first := Operand.ofToken_eq_literal_iff.2 numeral
    rw [readWords_mnemonic,
      Instruction.make_eq_error_iff.2
        (.literalTarget (by rw [List.map_cons, first]) (by rwa [List.length_map]) target)]
    rfl

/-- It takes a word at least to spell an instruction. -/
lemma Spells.ne_nil (spells : Spells ws i) : ws ≠ [] := by
  obtain ⟨tokens, rfl, -⟩ := spells
  exact List.cons_ne_nil _ _

/-- Words spell one instruction at most. -/
lemma Spells.unique {j : Instruction} (spells : Spells ws i) (spells' : Spells ws j) : i = j := by
  cases spells.readWords_eq.symm.trans spells'.readWords_eq
  rfl

/-- Words have one flaw at most. -/
lemma Flaw.unique {cause' : Cause} (flaw : Flaw ws cause) (flaw' : Flaw ws cause') :
    cause = cause' := by
  cases flaw.readWords_eq.symm.trans flaw'.readWords_eq
  rfl

/-- Words that spell an instruction are good. -/
lemma Spells.good (spells : Spells ws i) : Good ws := by
  obtain ⟨tokens, rfl, operands⟩ := spells
  have right : tokens.length = i.opcode.arity := by
    rw [← i.length_operands, operands, List.length_map]
  refine ⟨i.opcode, rfl, right, fun hasTarget target mem => ?_⟩
  cases numeral : parse? target with
  | none => rfl
  | some v =>
    obtain ⟨rest, rfl⟩ := List.head?_eq_some_iff.1 mem
    rw [List.map_cons, Operand.ofToken_eq_literal_iff.2 numeral] at operands
    exact absurd (.literalTarget operands i.length_operands hasTarget) i.not_misfit

/-- Words with a flaw are not good. -/
lemma Flaw.not_good (flaw : Flaw ws cause) : ¬Good ws := by
  intro good
  cases flaw with
  | unexpectedToken numeral =>
    obtain ⟨op, rfl, -⟩ := good
    cases numeral.symm.trans (Numeral.parse?_mnemonic op)
  | unknownOpcode _ unknown =>
    obtain ⟨op, rfl, -⟩ := good
    exact unknown op rfl
  | wrongArity wrong =>
    obtain ⟨op, same, right, -⟩ := good
    obtain rfl := mnemonic_injective same
    exact wrong right
  | literalTarget _ hasTarget numeral =>
    obtain ⟨op, same, -, word⟩ := good
    obtain rfl := mnemonic_injective same
    cases numeral.symm.trans (word hasTarget _ rfl)

/-- A line without words is good. -/
lemma good_nil : Good [] := trivial

/-- A line without words has no flaw. -/
lemma Flaw.ne_nil (flaw : Flaw ws cause) : ws ≠ [] := by
  rintro rfl
  exact flaw.not_good good_nil

/-! ### Lines -/

/-- A mapped result is good exactly if the result is. -/
lemma map_eq_ok_iff {ε α β : Type} {f : α → β} {r : Except ε α} {b : β} :
    r.map f = .ok b ↔ ∃ a, r = .ok a ∧ f a = b := by
  cases r <;> simp [Except.map]

/-- A map neither hides an error nor makes one. -/
lemma exists_map_eq_ok_iff {ε α β : Type} {f : α → β} {r : Except ε α} :
    (∃ b, r.map f = .ok b) ↔ ∃ a, r = .ok a := by
  cases r <;> simp [Except.map]

/-- A map leaves errors as they are. -/
lemma map_eq_error_iff {ε α β : Type} {f : α → β} {r : Except ε α} {e : ε} :
    r.map f = .error e ↔ r = .error e := by
  cases r <;> simp [Except.map]

variable {n : Nat} {line : List Char} {ls : List (List Char)} {is : List Instruction} {e : Error}

/-- The words of the lines that are not blank. -/
def wordLists (ls : List (List Char)) : List (List (List Char)) :=
  (ls.map Text.words).filter fun ws => !ws.isEmpty

/-- A blank line has no word list. -/
lemma wordLists_blank (blank : Text.words line = []) : wordLists (line :: ls) = wordLists ls := by
  rw [wordLists, List.map_cons, blank]
  rfl

/-- A line that is not blank comes with its words before those of the later lines. -/
lemma wordLists_cons (text : Text.words line ≠ []) :
    wordLists (line :: ls) = Text.words line :: wordLists ls := by
  rw [wordLists, List.map_cons, List.filter_cons_of_pos (by simpa using text)]
  rfl

/-- The first line with a flaw is the one that is told, the lines before it being good. -/
def FirstFlaw (n : Nat) (ls : List (List Char)) (e : Error) : Prop :=
  ∃ before line after, ls = before ++ line :: after ∧ (∀ l ∈ before, Good (Text.words l)) ∧
    Flaw (Text.words line) e.cause ∧ e.line = n + before.length

/-- A blank line is passed over, but counted. -/
lemma readLines_blank (blank : Text.words line = []) :
    readLines n (line :: ls) = readLines (n + 1) ls := by
  rw [readLines, blank]
  rfl

/-- A line that spells an instruction adds it in front. -/
lemma readLines_spells (spells : Spells (Text.words line) i) :
    readLines n (line :: ls) = (readLines (n + 1) ls).map (i :: ·) := by
  rw [readLines, spells.readWords_eq]

/-- A line with a flaw is reported with its number, and no later line is looked at. -/
lemma readLines_flaw (flaw : Flaw (Text.words line) cause) :
    readLines n (line :: ls) = .error ⟨n, cause⟩ := by
  rw [readLines, flaw.readWords_eq]

/-- Lines are read as instructions exactly if those that are not blank spell them in order. -/
lemma readLines_eq_ok_iff : readLines n ls = .ok is ↔ List.Forall₂ Spells (wordLists ls) is := by
  induction ls generalizing n is with
  | nil =>
    rw [readLines, wordLists, List.map_nil, List.filter_nil, List.forall₂_nil_left_iff,
      Except.ok.injEq]
    exact eq_comm
  | cons line ls ih =>
    -- blank lines change neither side, and after a line with a flaw both sides are false
    obtain ⟨blank, -⟩ | ⟨i, spells, -⟩ | ⟨cause, flaw, -⟩ := readWords_cases (Text.words line)
    · rw [readLines_blank blank, wordLists_blank blank]
      exact ih
    · rw [readLines_spells spells, wordLists_cons spells.ne_nil, map_eq_ok_iff,
        List.forall₂_cons_left_iff]
      constructor
      · rintro ⟨js, read, rfl⟩
        exact ⟨i, js, spells, ih.1 read, rfl⟩
      · rintro ⟨j, js, spells', all, rfl⟩
        obtain rfl := spells.unique spells'
        exact ⟨js, ih.2 all, rfl⟩
    · rw [readLines_flaw flaw, wordLists_cons flaw.ne_nil, List.forall₂_cons_left_iff]
      refine iff_of_false nofun ?_
      rintro ⟨i, -, spells, -⟩
      exact flaw.not_good spells.good

/-- The first flaw is in the first line, or that line is good and the flaw is further on. -/
lemma firstFlaw_cons :
    FirstFlaw n (line :: ls) e ↔
      (Flaw (Text.words line) e.cause ∧ e.line = n) ∨
        (Good (Text.words line) ∧ FirstFlaw (n + 1) ls e) := by
  constructor
  · rintro ⟨before, flawed, after, split, good, flaw, number⟩
    cases before with
    | nil =>
      cases split
      exact .inl ⟨flaw, number⟩
    | cons first before =>
      cases split
      obtain ⟨goodFirst, goodBefore⟩ := List.forall_mem_cons.1 good
      refine .inr ⟨goodFirst, before, flawed, after, rfl, goodBefore, flaw, ?_⟩
      rw [number, List.length_cons, Nat.add_right_comm, Nat.add_assoc]
  · rintro (⟨flaw, number⟩ | ⟨good, before, flawed, after, rfl, goodBefore, flaw, number⟩)
    · exact ⟨[], line, ls, rfl, nofun, flaw, number⟩
    · refine
        ⟨line :: before, flawed, after, rfl, List.forall_mem_cons.2 ⟨good, goodBefore⟩, flaw, ?_⟩
      rw [number, List.length_cons, Nat.add_right_comm, Nat.add_assoc]

/-- After a good line the first flaw is further on. -/
lemma firstFlaw_cons_of_good (good : Good (Text.words line)) :
    FirstFlaw n (line :: ls) e ↔ FirstFlaw (n + 1) ls e := by
  rw [firstFlaw_cons]
  constructor
  · rintro (⟨flaw, -⟩ | ⟨-, later⟩)
    · exact absurd good flaw.not_good
    · exact later
  · exact fun later => .inr ⟨good, later⟩

/-- A flaw of the first line is the first flaw. -/
lemma firstFlaw_cons_of_flaw (flaw : Flaw (Text.words line) cause) :
    FirstFlaw n (line :: ls) e ↔ e = ⟨n, cause⟩ := by
  rw [firstFlaw_cons]
  constructor
  · rintro (⟨flaw', number⟩ | ⟨good, -⟩)
    · obtain ⟨number', cause'⟩ := e
      obtain rfl : number' = n := number
      obtain rfl : cause = cause' := flaw.unique flaw'
      rfl
    · exact absurd good flaw.not_good
  · rintro rfl
    exact .inl ⟨flaw, rfl⟩

/-- Lines are refused exactly for their first flaw. -/
lemma readLines_eq_error_iff : readLines n ls = .error e ↔ FirstFlaw n ls e := by
  induction ls generalizing n with
  | nil =>
    refine iff_of_false nofun ?_
    rintro ⟨before, line, after, split, -⟩
    simp at split
  | cons line ls ih =>
    obtain ⟨blank, -⟩ | ⟨i, spells, -⟩ | ⟨cause, flaw, -⟩ := readWords_cases (Text.words line)
    · rw [readLines_blank blank, ih, firstFlaw_cons_of_good (blank ▸ good_nil)]
    · rw [readLines_spells spells, map_eq_error_iff, ih, firstFlaw_cons_of_good spells.good]
    · rw [readLines_flaw flaw, firstFlaw_cons_of_flaw flaw, Except.error.injEq]
      exact eq_comm

/-- Lines are read exactly if all are good. -/
lemma exists_readLines_eq_ok_iff :
    (∃ is, readLines n ls = .ok is) ↔ ∀ line ∈ ls, Good (Text.words line) := by
  induction ls generalizing n with
  | nil => exact iff_of_true ⟨[], rfl⟩ nofun
  | cons line ls ih =>
    rw [List.forall_mem_cons]
    obtain ⟨blank, -⟩ | ⟨i, spells, -⟩ | ⟨cause, flaw, -⟩ := readWords_cases (Text.words line)
    · rw [readLines_blank blank, ih, blank, and_iff_right good_nil]
    · rw [readLines_spells spells, exists_map_eq_ok_iff, ih, and_iff_right spells.good]
    · rw [readLines_flaw flaw]
      exact iff_of_false nofun fun good => flaw.not_good good.1

end Tandem.Assembly

namespace Tandem

open Assembly

/-- A text is read as a program exactly if its lines, the blank ones apart, spell the instructions
in order. -/
lemma assemble_eq_ok_iff {text : String} {p : Program} :
    assemble text = .ok p ↔
      List.Forall₂ Spells (wordLists (Text.lines text.toList)) p.instructions.toList := by
  rw [assemble, map_eq_ok_iff, ← readLines_eq_ok_iff]
  constructor
  · rintro ⟨is, read, rfl⟩
    exact read
  · intro read
    exact ⟨_, read, rfl⟩

/-- Texts are accepted when all their lines are good, and then the program is what the lines that
are not blank write, in their order. Otherwise the first line that is not good is told, with its
number among all lines, counted from one, and with what is wrong with it. -/
theorem assemble_accepts_grammar (text : String) :
    ((∃ p, assemble text = .ok p) ↔ ∀ line ∈ Text.lines text.toList, Good (Text.words line)) ∧
      (∀ p, assemble text = .ok p ↔
        List.Forall₂ Spells (((Text.lines text.toList).map Text.words).filter fun ws => !ws.isEmpty)
          p.instructions.toList) ∧
        ∀ e, assemble text = .error e ↔
          ∃ before line after, Text.lines text.toList = before ++ line :: after ∧
            (∀ l ∈ before, Good (Text.words l)) ∧ ¬Good (Text.words line) ∧
              e.line = before.length + 1 ∧ Flaw (Text.words line) e.cause := by
  refine ⟨?_, fun p => assemble_eq_ok_iff, fun e => ?_⟩
  · rw [assemble, exists_map_eq_ok_iff, exists_readLines_eq_ok_iff]
  · rw [assemble, map_eq_error_iff, readLines_eq_error_iff]
    constructor
    · rintro ⟨before, line, after, split, good, flaw, number⟩
      exact ⟨before, line, after, split, good, flaw.not_good, number.trans (Nat.add_comm _ _), flaw⟩
    · rintro ⟨before, line, after, split, good, -, number, flaw⟩
      exact ⟨before, line, after, split, good, flaw, number.trans (Nat.add_comm _ _)⟩

end Tandem
