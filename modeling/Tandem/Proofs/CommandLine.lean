import Mathlib.Logic.Function.Basic
import Tandem.CommandLine
import Tandem.Proofs.Assembly.RoundTrip

/-!
# Formatting a file

What `fmt` prints is the canonical text of the program in the file. A program that was read from a
text is read back from its canonical text, and apart from the program a command only looks at the
path. So no command can tell the printed text from the text that it was made of.
-/

namespace Tandem.CommandLine

variable {fuel : Nat} {path : String} {text : String} {p : Program} {report : Report}

/-- A text that was written to a file is read back. -/
lemma decode_toUTF8 (text : String) : decode text.toUTF8 = .ok text := by
  have valid : text.toUTF8.IsValidUTF8 := text.isValidUTF8
  rw [decode, String.fromUTF8?, dif_pos valid]
  rfl

/-- The command `fmt` formats the file that is named. -/
lemma run_format (fuel : Nat) (files : String → Except ReadError String) (path : String) :
    run fuel files ["fmt", path] = Verb.format.process fuel path (files path) := rfl

/-- A command is applied to the program that its file is read as. -/
lemma Verb.process_of_assemble (verb : Verb) (read : assemble text = .ok p) :
    verb.process fuel path (.ok text) = verb.apply fuel path p := by
  simp only [process, read]

/-- Formatting succeeds on the text of a program, and prints the program. -/
lemma exists_program_of_format {source : Except ReadError String}
    (formats : Verb.format.process fuel path source = some report) (succeeds : report.code = 0) :
    ∃ text p, source = .ok text ∧ assemble text = .ok p ∧ report = { stdout := p.render } := by
  cases source with
  | error e =>
    cases formats
    cases succeeds
  | ok text =>
    cases read : assemble text with
    | error e =>
      simp only [Verb.process, read] at formats
      cases formats
      cases succeeds
    | ok p =>
      rw [Verb.process_of_assemble .format read] at formats
      cases formats
      exact ⟨text, p, rfl, read, rfl⟩

/-- Commands cannot tell two texts of the same program apart. -/
lemma run_update {files : String → Except ReadError String} {text' : String}
    (found : files path = .ok text) (read : assemble text = .ok p)
    (read' : assemble text' = .ok p) (fuel : Nat) (args : List String) :
    run fuel (Function.update files path (.ok text')) args = run fuel files args := by
  unfold run
  cases plan args with
  | report report => rfl
  | process verb path' =>
    by_cases same : path' = path
    · subst same
      simp only [Function.update_self, found]
      rw [verb.process_of_assemble read, verb.process_of_assemble read']
    · simp only [Function.update_of_ne same]

/-- Formatting keeps the meaning of a file. If `fmt` succeeds on a file, then put what it prints
into the file: the program that is read from it is the same, instruction by instruction; whatever
the arguments ask for, with any bound on the steps, the report is the same on the formatted file as
on the file before, or there is none on either; and formatting once more prints the same text. -/
theorem format_preserves_reports (fuel : Nat) (files : String → Except ReadError String)
    (path : String) (report : Report) (formats : run fuel files ["fmt", path] = some report)
    (succeeds : report.code = 0) :
    report.stderr = "" ∧
    (∃ text p, files path = .ok text ∧ assemble text = .ok p ∧ assemble report.stdout = .ok p) ∧
    (∀ fuel' args, run fuel' (Function.update files path (decode report.stdout.toUTF8)) args =
      run fuel' files args) ∧
    ∀ fuel', run fuel' (Function.update files path (decode report.stdout.toUTF8)) ["fmt", path] =
      some report := by
  rw [run_format] at formats
  obtain ⟨text, p, found, read, rfl⟩ := exists_program_of_format formats succeeds
  have back : assemble p.render = .ok p := (clean_of_assemble read).assemble_render
  rw [decode_toUTF8]
  refine ⟨rfl, ⟨text, p, found, read, back⟩, run_update found read back, fun fuel' => ?_⟩
  rw [run_format, Function.update_self, Verb.process_of_assemble .format back]
  rfl

/-- A text with a blank line, a carriage return, numerals that are not the shortest ones, and a
register whose name is a number that is too large for a word. -/
theorem format_preserves_reports_numerals :
    ∃ files : String → Except ReadError String,
      files "f" = .ok "snd +05\r\n\n\tset 9223372036854775808 -0" ∧
      run 0 files ["fmt", "f"] = some { stdout := "snd 5\nset 9223372036854775808 0\n" } ∧
      (∀ fuel,
        run fuel (Function.update files "f" (decode "snd 5\nset 9223372036854775808 0\n".toUTF8))
            ["run", "f"] =
          run fuel files ["run", "f"]) ∧
      run 0 (Function.update files "f" (decode "snd 5\nset 9223372036854775808 0\n".toUTF8))
          ["fmt", "f"] =
        some { stdout := "snd 5\nset 9223372036854775808 0\n" } := by
  let files : String → Except ReadError String :=
    fun _ => .ok "snd +05\r\n\n\tset 9223372036854775808 -0"
  have formats : run 0 files ["fmt", "f"] =
      some { stdout := "snd 5\nset 9223372036854775808 0\n" } := rfl
  obtain ⟨-, -, same, again⟩ := format_preserves_reports 0 files "f" _ formats rfl
  exact ⟨files, rfl, formats, fun fuel => same fuel ["run", "f"], again 0⟩

end Tandem.CommandLine
