import Mathlib.Tactic.Lemma
import Tandem.Text.Lines

/-!
# Words and lines of a text

Cutting a text is the reverse of putting it together. A word is not empty and holds no blank
(`IsWord`); words put together with spaces are cut into the same words (`words_intercalate`), and
lines put together with line feeds into the same lines, up to a carriage return at the end of a line
(`lines_append`). Carriage returns are blanks, so the words of a line do not depend on them.
-/

namespace Tandem.Text

variable {line rest w : List Char} {c : Char}

/-- Words are not empty and hold no blanks. -/
structure IsWord (w : List Char) : Prop where
  ne_nil : w ≠ []
  not_blank : ∀ c ∈ w, isBlank c = false

/-- An empty line has no words. -/
@[simp] lemma words_nil : words [] = [] := rfl

/-- No piece of a text that is cut holds a character at which it was cut. -/
lemma eq_false_of_mem_splitOnP {p : Char → Bool} {text piece : List Char}
    (mem : piece ∈ text.splitOnP p) : ∀ c ∈ piece, p c = false := by
  induction text generalizing piece with
  | nil =>
    obtain rfl : piece = [] := by simpa using mem
    nofun
  | cons a text ih =>
    rw [List.splitOnP_cons_eq_if_modifyHead] at mem
    split at mem
    · obtain rfl | mem := List.mem_cons.1 mem
      · nofun
      · exact ih mem
    · next not_cut =>
      -- a character at which the text is not cut goes to the front of the first piece
      obtain ⟨first, others, split⟩ := List.exists_cons_of_ne_nil (List.splitOnP_ne_nil p text)
      rw [split, List.modifyHead_cons] at mem
      obtain rfl | mem := List.mem_cons.1 mem
      · have uncut := ih (split ▸ List.mem_cons_self)
        simpa [not_cut] using uncut
      · exact ih (split ▸ List.mem_cons_of_mem _ mem)

/-- What a line is cut into are words. -/
lemma isWord_of_mem_words (mem : w ∈ words line) : IsWord w := by
  obtain ⟨piece, nonempty⟩ := List.mem_filter.1 mem
  exact ⟨by simpa using nonempty, eq_false_of_mem_splitOnP piece⟩

/-- A word is cut into itself. -/
lemma IsWord.words_eq (word : IsWord w) : words w = [w] := by
  rw [words, List.splitOnP_eq_singleton word.not_blank]
  simp [word.ne_nil]

/-- Lines are cut into words at every blank. -/
lemma words_append_cons (line rest : List Char) (blank : isBlank c = true) :
    words (line ++ c :: rest) = words line ++ words rest := by
  rw [words, List.splitOnP_append_cons line rest blank, List.filter_append]
  rfl

/-- Words put together with spaces are cut into the same words. -/
lemma words_intercalate {ws : List (List Char)} (isWord : ∀ w ∈ ws, IsWord w) :
    words ([' '].intercalate ws) = ws := by
  induction ws with
  | nil => rfl
  | cons w ws ih =>
    have first := (isWord w List.mem_cons_self).words_eq
    have others := ih fun v mem => isWord v (List.mem_cons_of_mem _ mem)
    cases ws with
    | nil => simpa using first
    | cons v ws =>
      rw [List.intercalate_cons_cons, List.append_assoc, List.singleton_append,
        words_append_cons _ _ (by decide), first, others]
      rfl

/-- A character that is in no piece, and not in the separator, is not in what is put together from
them. -/
lemma not_mem_intercalate {separator : List Char} {ws : List (List Char)}
    (not_separator : c ∉ separator) (not_mem : ∀ w ∈ ws, c ∉ w) : c ∉ separator.intercalate ws := by
  induction ws with
  | nil => exact List.not_mem_nil
  | cons w ws ih =>
    obtain ⟨first, others⟩ := List.forall_mem_cons.1 not_mem
    cases ws with
    | nil => rwa [List.intercalate_singleton]
    | cons v ws =>
      rw [List.intercalate_cons_cons, List.mem_append, List.mem_append]
      rintro ((mem | mem) | mem)
      · exact first mem
      · exact not_separator mem
      · exact ih others mem

/-- There is no blank in a word. -/
lemma IsWord.not_mem (word : IsWord w) (blank : isBlank c = true) : c ∉ w := by
  intro mem
  cases blank.symm.trans (word.not_blank c mem)

/-- The words of a line do not depend on a carriage return at its end. -/
@[simp] lemma words_dropReturn (line : List Char) : words (dropReturn line) = words line := by
  unfold dropReturn
  split
  · next last =>
    obtain ⟨front, rfl⟩ := List.getLast?_eq_some_iff.1 last
    rw [List.dropLast_concat, words_append_cons _ _ (by decide), words_nil, List.append_nil]
  · rfl

/-- The pieces before the last one are lines, whatever the last one is. -/
lemma ofPieces_append (pieces : List (List Char)) {others : List (List Char)}
    (ne_nil : others ≠ []) :
    ofPieces (pieces ++ others) = pieces.map dropReturn ++ ofPieces others := by
  induction pieces with
  | nil => rfl
  | cons piece pieces ih =>
    rw [List.map_cons, List.cons_append, List.cons_append, ← ih, ofPieces]
    exact List.append_ne_nil_of_right_ne_nil pieces ne_nil

/-- A line feed ends the last line of a text, also if nothing stands in that line. -/
lemma lines_append_newline (text rest : List Char) :
    lines (text ++ '\n' :: rest) = (text.splitOn '\n').map dropReturn ++ lines rest := by
  rw [lines, List.splitOn_append_cons_self, ofPieces_append _ (List.splitOn_ne_nil _ _)]
  rfl

/-- The first line of a text goes up to the first line feed. -/
lemma lines_append (line rest : List Char) (single : '\n' ∉ line) :
    lines (line ++ '\n' :: rest) = dropReturn line :: lines rest := by
  rw [lines_append_newline, List.splitOn_eq_singleton single]
  rfl

/-- Cutting at a character gives one piece more than there are such characters. -/
lemma length_splitOn (c : Char) (text : List Char) :
    (text.splitOn c).length = text.count c + 1 := by
  induction text with
  | nil => rfl
  | cons a text ih =>
    rw [List.splitOn_cons_eq_if_modifyHead, List.count_cons]
    split
    · simp [ih]
    · simp [ih]

/-- Lines put together with line feeds are cut into the same lines, up to carriage returns. -/
lemma lines_flatMap {ls : List (List Char)} (single : ∀ l ∈ ls, '\n' ∉ l) :
    lines (ls.flatMap fun l => l ++ ['\n']) = ls.map dropReturn := by
  induction ls with
  | nil => rfl
  | cons l ls ih =>
    have others := ih fun l mem => single l (List.mem_cons_of_mem _ mem)
    rw [List.flatMap_cons, List.append_assoc, List.singleton_append,
      lines_append l _ (single l List.mem_cons_self), others, List.map_cons]

end Tandem.Text
