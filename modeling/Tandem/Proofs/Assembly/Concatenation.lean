import Tandem.Proofs.Assembly.Grammar

/-!
# Texts put together

A line feed between two texts ends the last line of the first one, so the lines of both are read one
after the other (`readLines_append`). What changes for the second text is where its lines are: read
from a later number on, lines give the same instructions, or the same error at a later line
(`readLines_add`).

A text that stands alone may lack its last line feed. Its last piece then keeps a carriage return,
and is no line at all if it is empty; but neither makes a difference to the words that are read
(`readLines_ofPieces`).
-/

namespace Tandem.Assembly

/-- The same error, so many lines later. -/
def Error.later (e : Error) (count : Nat) : Error :=
  { e with line := e.line + count }

/-- Lines are read up to a cut, and then from there on with the line numbers going on. -/
lemma readLines_append (n : Nat) (ls ls' : List (List Char)) :
    readLines n (ls ++ ls') =
      (readLines n ls).bind fun is => (readLines (n + ls.length) ls').map (is ++ ·) := by
  induction ls generalizing n with
  | nil =>
    rw [List.nil_append, readLines]
    show _ = (readLines n ls').map id
    cases readLines n ls' <;> rfl
  | cons line ls ih =>
    have numbers : n + 1 + ls.length = n + (line :: ls).length := by
      rw [List.length_cons, Nat.add_assoc, Nat.add_comm 1]
    rw [List.cons_append]
    rcases readWords_cases (Text.words line) with ⟨blank, -⟩ | ⟨i, spells, -⟩ | ⟨cause, flaw, -⟩
    · rw [readLines_blank blank, readLines_blank blank, ih, numbers]
    · rw [readLines_spells spells, readLines_spells spells, ih, numbers]
      cases readLines (n + 1) ls with
      | error e => rfl
      | ok is => cases readLines (n + (line :: ls).length) ls' <;> rfl
    · rw [readLines_flaw flaw, readLines_flaw flaw]
      rfl

/-- Lines that are numbered from further on are read alike, except that errors are found later. -/
lemma readLines_add (n count : Nat) (ls : List (List Char)) :
    readLines (n + count) ls = (readLines n ls).mapError (·.later count) := by
  induction ls generalizing n with
  | nil => rfl
  | cons line ls ih =>
    rcases readWords_cases (Text.words line) with ⟨blank, -⟩ | ⟨i, spells, -⟩ | ⟨cause, flaw, -⟩
    · rw [readLines_blank blank, readLines_blank blank, Nat.add_right_comm, ih]
    · rw [readLines_spells spells, readLines_spells spells, Nat.add_right_comm, ih]
      cases readLines (n + 1) ls <;> rfl
    · rw [readLines_flaw flaw, readLines_flaw flaw]
      rfl

/-- Lines are read by their words alone. -/
lemma readLines_congr {n : Nat} {line line' : List Char} {ls ls' : List (List Char)}
    (words : Text.words line = Text.words line')
    (others : readLines (n + 1) ls = readLines (n + 1) ls') :
    readLines n (line :: ls) = readLines n (line' :: ls') := by
  rw [readLines, readLines, words, others]

/-- The pieces of a text can be read in place of its lines. -/
lemma readLines_ofPieces (n : Nat) (pieces : List (List Char)) :
    readLines n (pieces.map Text.dropReturn) = readLines n (Text.ofPieces pieces) := by
  induction pieces generalizing n with
  | nil => rfl
  | cons piece pieces ih =>
    cases pieces with
    | nil =>
      rw [Text.ofPieces]
      split
      · next empty =>
        -- a last piece that is empty is no line, but as one it would be blank
        rw [List.isEmpty_iff.1 empty]
        exact readLines_blank rfl
      · exact readLines_congr (Text.words_dropReturn piece) rfl
    | cons second others => exact readLines_congr rfl (ih (n + 1))

/-- A text with a line feed and another text after it is read as the one text and then the other,
which begins as many lines later as the first text has pieces. -/
lemma readLines_lines_append (n : Nat) (text rest : List Char) :
    readLines n (Text.lines (text ++ '\n' :: rest)) =
      (readLines n (Text.lines text)).bind fun is =>
        ((readLines n (Text.lines rest)).mapError (·.later (text.count '\n' + 1))).map
          (is ++ ·) := by
  rw [Text.lines_append_newline, readLines_append, readLines_ofPieces, List.length_map,
    Text.length_splitOn, readLines_add]
  rfl

end Tandem.Assembly

namespace Tandem

open Assembly

/-- Two texts with a line feed between them are read one after the other. If the first one cannot be
read, its error is told; otherwise the program is that of the first text followed by that of the
second one, or the error is that of the second text, as many lines later as the first text has line
feeds, and one more. -/
theorem assemble_append_newline (a b : String) :
    assemble (a ++ "\n" ++ b) =
      match assemble a, assemble b with
      | .error e, _ => .error e
      | .ok p, .ok q => .ok ⟨p.instructions ++ q.instructions⟩
      | .ok _, .error e => .error { e with line := e.line + (a.toList.count '\n' + 1) } := by
  have chars : (a ++ "\n" ++ b).toList = a.toList ++ '\n' :: b.toList := by
    rw [String.toList_append, String.toList_append, List.append_assoc]
    rfl
  rw [assemble, assemble, assemble, chars, readLines_lines_append]
  cases readLines 1 (Text.lines a.toList) with
  | error e => rfl
  | ok is =>
    cases readLines 1 (Text.lines b.toList) with
    | error e => rfl
    | ok js =>
      show Except.ok (Program.mk (is ++ js).toArray) = .ok ⟨is.toArray ++ js.toArray⟩
      rw [List.append_toArray]

end Tandem
