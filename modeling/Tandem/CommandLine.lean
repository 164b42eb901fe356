import Tandem.Assembly
import Tandem.DualRun
import Tandem.Recovery

/-!
# The command line

The commands offered to a user, as functions of the arguments and of the file they name: what is
printed on either stream and the exit code. The code is one for a mistake in the arguments, the file
or the program text, and three for a program that fails or recovers nothing.
-/

namespace Tandem.CommandLine

/-- The commands that take a program. -/
inductive Verb where
  | recover
  | run
  | check
  | format
  deriving DecidableEq, Repr

namespace Verb

/-- The word for a command. -/
def name : Verb → String
  | .recover => "recover"
  | .run => "run"
  | .check => "check"
  | .format => "fmt"

/-- The command with a given word. -/
def ofName? (word : String) : Option Verb :=
  [recover, run, check, format].find? fun verb => verb.name == word

end Verb

/-- What a command prints and its exit code. -/
structure Report where
  code : Nat := 0
  stdout : String := ""
  stderr : String := ""
  deriving DecidableEq, Repr

/-- Why a file cannot be read. -/
inductive ReadError where
  | notFound
  | isDirectory
  | notUnicode
  | other (reason : String)
  deriving DecidableEq, Repr

/-- The text of a reason. -/
def ReadError.message : ReadError → String
  | .notFound => "No such file or directory (os error 2)"
  | .isDirectory => "Is a directory (os error 21)"
  | .notUnicode => "stream did not contain valid UTF-8"
  | .other reason => reason

/-- The text in the bytes of a file. -/
def decode (bytes : ByteArray) : Except ReadError String :=
  match String.fromUTF8? bytes with
  | some text => .ok text
  | none => .error .notUnicode

/-- How to call the program. -/
def usage : String :=
  "Usage: duet <command> <program>\n" ++
  "\n" ++
  "Commands:\n" ++
  "  recover <program>   Run one instance; print the first recovered value\n" ++
  "  run <program>       Run two instances; print how many values program 1 sent\n" ++
  "  check <program>     Assemble only and report the instruction count\n" ++
  "  fmt <program>       Print the program in canonical form\n" ++
  "\n" ++
  "Set DUET_LOG=<filter> to enable logging on stderr.\n"

/-- How to call one command. -/
def Verb.usage (verb : Verb) : String :=
  s!"Usage: duet {verb.name} <program>\n"

/-- What the arguments ask for: a report at once, or a command on a file. -/
inductive Plan where
  | report (report : Report)
  | process (verb : Verb) (path : String)
  deriving DecidableEq, Repr

/-- Read the arguments that follow a command: one path. -/
def Verb.plan (verb : Verb) : List String → Plan
  | [path] => .process verb path
  | [] =>
    .report { code := 1, stderr := s!"error: {verb.name} requires an input file\n" ++ verb.usage }
  | _ :: extra :: _ =>
    .report { code := 1, stderr := s!"error: unexpected argument '{extra}'\n" ++ verb.usage }

/-- Read the arguments. -/
def plan : List String → Plan
  | [] => .report { code := 1, stderr := usage }
  | word :: rest =>
    match Verb.ofName? word with
    | some verb => verb.plan rest
    | none =>
      if word ∈ ["--help", "-h", "help"] then .report { stderr := usage }
      else .report { code := 1, stderr := s!"error: unknown command '{word}'\n\n" ++ usage }

/-- A report on a run that failed. -/
def failure (message : String) : Report where
  code := 3
  stderr := s!"runtime error: {message}\n"

/-- Carry out a command on a program read from a path. -/
def Verb.apply (fuel : Nat) (path : String) (p : Program) : Verb → Option Report
  | .recover =>
    (Tandem.recover fuel p).map fun
      | .ok (some v) => { stdout := Numeral.text v ++ "\n" }
      | .ok none => { code := 3, stderr := s!"error: {path} finished without recovering a value\n" }
      | .error fault => failure fault.message
  | .run =>
    (DualRun.run fuel p).map fun
      | .ok report => { stdout := s!"{report.sentByOne}\n" }
      | .error e => failure e.message
  | .check => some { stdout := s!"OK: {path} ({p.size} instructions)\n" }
  | .format => some { stdout := p.render }

/-- Carry out a command on what was found at a path. -/
def Verb.process (fuel : Nat) (path : String) (source : Except ReadError String) (verb : Verb) :
    Option Report :=
  match source with
  | .error e => some { code := 1, stderr := s!"error: cannot read '{path}': {e.message}\n" }
  | .ok text =>
    match assemble text with
    | .error e => some { code := 1, stderr := s!"error: {path}: {e.message}\n" }
    | .ok p => verb.apply fuel path p

/-- Carry out what the arguments ask for, where `files` gives what is found at a path. -/
def run (fuel : Nat) (files : String → Except ReadError String) (args : List String) :
    Option Report :=
  match plan args with
  | .report report => some report
  | .process verb path => verb.process fuel path (files path)

end Tandem.CommandLine
