import TranscriptLint.Dialect
import TranscriptLint.Path

namespace TranscriptLint

/-!
# The linter

How the external linter is called: one script at a time, for one dialect, with its findings as JSON.
-/

/-- The linter as it is set up for a run. -/
structure Linter where
  executable : Path
  /-- The dialects whose blocks are linted. -/
  dialects : List Dialect
  /-- The mark of a command line in a transcript. -/
  prompt : Char
deriving DecidableEq, Repr

namespace Linter

/-- The name of the linter in messages. -/
def name : Text := "shellcheck".toList

/-- The program and arguments that lint a script as a dialect. -/
def argv (l : Linter) (d : Dialect) (script : Path) : List Text :=
  [l.executable.text, "--shell=".toList ++ d.name, "--color=never".toList, "--format=json".toList,
   script.text]

/-- The dialects that are linted, in the fixed order of dialects. -/
def supported (l : Linter) : List Dialect := Dialect.inOrder l.dialects

end Linter
end TranscriptLint
