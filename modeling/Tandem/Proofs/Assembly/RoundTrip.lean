import Tandem.Proofs.Assembly.Grammar

/-!
# Programs written out and read back

A program is clean if its registers have names that can be written in a text: words that are no
numerals. The programs that are read from a text are clean, because a register name is one of the
words of a line. The text of a clean instruction is cut into the words that it was put together
from, and these spell the instruction; so a program is read back from its own text exactly when it
is clean.
-/

namespace Tandem

open Assembly

/-- Names that stand in a text as one word and are not read as a numeral. -/
structure Register.Clean (x : Register) : Prop where
  ne_empty : x.name ≠ ""
  not_blank : ∀ c ∈ x.name.toList, Text.isBlank c = false
  not_numeral : Numeral.parse? x.name.toList = none

/-- The registers of the instruction, its target included, are clean. -/
def Instruction.Clean (i : Instruction) : Prop :=
  ∀ x, .register x ∈ i.operands → x.Clean

/-- The registers of all instructions are clean. -/
def Program.Clean (p : Program) : Prop :=
  ∀ i ∈ p.instructions.toList, i.Clean

variable {ws : List (List Char)} {i : Instruction} {p : Program}

/-! ### Texts are read as clean programs -/

/-- Words that can stand in a text spell clean instructions. -/
lemma Assembly.Spells.clean (spells : Spells ws i) (isWord : ∀ w ∈ ws, Text.IsWord w) :
    i.Clean := by
  intro x mem
  obtain ⟨tokens, rfl, operands⟩ := spells
  rw [operands] at mem
  obtain ⟨token, mem, register⟩ := List.mem_map.1 mem
  obtain ⟨not_numeral, rfl⟩ := Operand.ofToken_eq_register_iff.1 register
  have word := isWord _ (List.mem_cons_of_mem _ mem)
  exact ⟨fun empty => word.ne_nil (by rw [empty]; rfl), word.not_blank, not_numeral⟩

/-- The words of a line can stand in a text. -/
lemma isWord_of_mem_wordLists {ls : List (List Char)} (mem : ws ∈ wordLists ls) :
    ∀ w ∈ ws, Text.IsWord w := by
  obtain ⟨line, -, rfl⟩ := List.mem_map.1 (List.mem_filter.1 mem).1
  exact fun w => Text.isWord_of_mem_words

/-- Lists of words that can stand in a text spell clean instructions throughout. -/
lemma clean_of_forall₂ {lists : List (List (List Char))} {is : List Instruction}
    (all : List.Forall₂ Spells lists is) (isWord : ∀ ws ∈ lists, ∀ w ∈ ws, Text.IsWord w) :
    ∀ i ∈ is, i.Clean := by
  induction all with
  | nil => nofun
  | cons spells _ ih =>
    obtain ⟨first, others⟩ := List.forall_mem_cons.1 isWord
    exact List.forall_mem_cons.2 ⟨spells.clean first, ih others⟩

/-- A program that was read from a text is clean. -/
lemma clean_of_assemble {text : String} (read : assemble text = .ok p) : p.Clean :=
  clean_of_forall₂ (assemble_eq_ok_iff.1 read) fun _ => isWord_of_mem_wordLists

/-! ### Clean programs are read back -/

/-- A clean name is a word. -/
lemma Register.Clean.isWord {x : Register} (clean : x.Clean) : Text.IsWord x.name.toList :=
  ⟨fun nil => clean.ne_empty (String.toList_eq_nil_iff.1 nil), clean.not_blank⟩

/-- Mnemonics are words. -/
lemma isWord_mnemonic (op : Opcode) : Text.IsWord op.mnemonic.toList := by
  have ne_nil : op.mnemonic.toList ≠ [] := by
    cases op with
    | update u => cases u <;> decide
    | _ => decide
  have not_blank : (op.mnemonic.toList.all fun c => !Text.isBlank c) = true := by
    cases op with
    | update u => cases u <;> rfl
    | _ => rfl
  exact ⟨ne_nil, fun c mem => by simpa using List.all_eq_true.1 not_blank c mem⟩

namespace Instruction

/-- The words that the text of an instruction is put together from. -/
def wordList (i : Instruction) : List (List Char) :=
  i.opcode.mnemonic.toList :: i.operands.map fun o => o.text.toList

/-- The text of an instruction is its words with blanks between them. -/
lemma toList_text (i : Instruction) : i.text.toList = [' '].intercalate i.wordList := by
  rw [text, String.toList_intercalate, List.map_cons, List.map_map]
  rfl

variable (clean : i.Clean)
include clean

/-- Everything that the text of a clean instruction is put together from is a word. -/
lemma Clean.isWord : ∀ w ∈ i.wordList, Text.IsWord w := by
  refine List.forall_mem_cons.2 ⟨isWord_mnemonic i.opcode, ?_⟩
  intro w mem
  obtain ⟨o, memOperands, rfl⟩ := List.mem_map.1 mem
  cases o with
  | literal v =>
    rw [Operand.text, Numeral.text, String.toList_ofList]
    exact Numeral.isWord_format v
  | register x => exact (clean x memOperands).isWord

/-- The text of a clean instruction is cut into the words that it was put together from. -/
lemma Clean.words_text : Text.words i.text.toList = i.wordList := by
  rw [toList_text, Text.words_intercalate clean.isWord]

/-- The text of a clean instruction is a single line. -/
lemma Clean.single : '\n' ∉ i.text.toList := by
  rw [toList_text]
  exact Text.not_mem_intercalate (by decide) fun w mem => (clean.isWord w mem).not_mem (by decide)

/-- The words of a clean instruction spell it. -/
lemma Clean.spells : Spells i.wordList i := by
  have operands : ∀ o ∈ i.operands, Operand.ofToken o.text.toList = o := by
    rintro o mem
    refine Operand.ofToken_text ?_
    rintro x rfl
    exact (clean x mem).not_numeral
  refine ⟨_, rfl, ?_⟩
  rw [List.map_map]
  exact (List.map_id i.operands).symm.trans (List.map_congr_left fun o mem => (operands o mem).symm)

end Instruction

/-- The text of a program is the texts of its instructions, each with the end of a line. -/
lemma Program.toList_render (p : Program) :
    p.render.toList =
      (p.instructions.toList.map fun i => i.text.toList).flatMap fun l => l ++ ['\n'] := by
  rw [render, String.toList_join, List.flatMap_map, List.flatMap_map]
  refine List.flatMap_congr fun i _ => ?_
  rw [String.toList_append]
  rfl

/-- The lines of the text of a clean program have the words of its instructions. -/
lemma Program.Clean.wordLists_render (clean : p.Clean) :
    wordLists (Text.lines p.render.toList) = p.instructions.toList.map Instruction.wordList := by
  have single : ∀ l ∈ p.instructions.toList.map fun i => i.text.toList, '\n' ∉ l := by
    intro l mem
    obtain ⟨i, memProgram, rfl⟩ := List.mem_map.1 mem
    exact (clean i memProgram).single
  have words : (p.instructions.toList.map fun i => Text.words (Text.dropReturn i.text.toList)) =
      p.instructions.toList.map Instruction.wordList := by
    refine List.map_congr_left fun i mem => ?_
    rw [Text.words_dropReturn, (clean i mem).words_text]
  rw [p.toList_render, Text.lines_flatMap single, wordLists, List.map_map, List.map_map]
  refine (congrArg _ words).trans ?_
  -- the text of an instruction has its mnemonic at least, so no line is blank
  refine List.filter_eq_self.2 fun ws mem => ?_
  obtain ⟨i, -, rfl⟩ := List.mem_map.1 mem
  rfl

/-- A clean program is read back from its text. -/
lemma Program.Clean.assemble_render (clean : p.Clean) : assemble p.render = .ok p := by
  rw [assemble_eq_ok_iff, clean.wordLists_render, List.forall₂_map_left_iff, List.forall₂_same]
  exact fun i mem => (clean i mem).spells

/-- Texts are read as clean programs, and the programs that are read back from their own text are
the clean ones. So every program that was read from a text is read back, and its text is rendered as
itself. -/
theorem assemble_render_iff_clean :
    (∀ text p, assemble text = .ok p → p.Clean) ∧
      (∀ p : Program, assemble p.render = .ok p ↔ p.Clean) ∧
        (∀ text p, assemble text = .ok p → assemble p.render = .ok p) ∧
          ∀ text p, assemble text = .ok p →
            (assemble p.render).map Program.render = .ok p.render := by
  refine ⟨fun _ _ => clean_of_assemble, fun p => ⟨clean_of_assemble, Program.Clean.assemble_render⟩,
    ?_, ?_⟩
  · intro text p read
    exact (clean_of_assemble read).assemble_render
  · intro text p read
    rw [(clean_of_assemble read).assemble_render]
    rfl

/-- A text that is not canonical is read, and the program is read back from its canonical text; a
register that is named by a numeral is not. -/
theorem assemble_render_iff_clean_numeral :
    assemble "snd +7\r\n\n\tset a -1" =
      .ok ⟨#[.snd (.literal 7), .update .set ⟨"a"⟩ (.literal (-1))]⟩ ∧
      assemble (Program.render ⟨#[.snd (.literal 7), .update .set ⟨"a"⟩ (.literal (-1))]⟩) =
        .ok ⟨#[.snd (.literal 7), .update .set ⟨"a"⟩ (.literal (-1))]⟩ ∧
      assemble (Program.render ⟨#[.rcv ⟨"7"⟩]⟩) ≠ .ok ⟨#[.rcv ⟨"7"⟩]⟩ := by
  have read : assemble "snd +7\r\n\n\tset a -1" =
      .ok ⟨#[.snd (.literal 7), .update .set ⟨"a"⟩ (.literal (-1))]⟩ := rfl
  obtain ⟨-, iff, back, -⟩ := assemble_render_iff_clean
  refine ⟨read, back _ _ read, fun same => ?_⟩
  have clean := (iff _).1 same _ List.mem_cons_self ⟨"7"⟩ List.mem_cons_self
  cases clean.not_numeral

end Tandem
