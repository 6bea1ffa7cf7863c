import TranscriptLint.Docstring
import TranscriptLint.FileTree
import TranscriptLint.Linter

namespace TranscriptLint

/-!
# Running tools

A tool is run to its end, or until a time limit. Its exit status is reported and not judged, because
linters exit with a status of their own when they find something.

* A `Host` says what a program does; everything else here is the same for every host.
* `Host.execute` runs a program, `Host.lint` runs the linter on a script in a temporary file.
-/

/-- What a program that was started shows, from its start to its end. -/
structure Completion where
  stdout : List UInt8 := []
  stderr : List UInt8 := []
  /-- The exit status; none when a signal ended the program. -/
  status : Option Nat := some 0
  /-- The time it ran in milliseconds; none when it never ends. -/
  elapsed : Option Nat := some 0
deriving DecidableEq, Repr

/-- A host runs programs. It may remember what it ran. -/
structure Host (σ : Type) where
  run : Disk → List Text → σ → Except Fault Completion × σ
  /-- The library for patterns that the host has. -/
  [patterns : PatternLibrary]

/-- The captured output of a tool. -/
structure ToolOutput where
  stdout : Text
  stderr : Text
  /-- The exit status; -1 when a signal ended the tool. -/
  exitCode : Int
deriving DecidableEq, Repr

/-- Why a tool has no output. A fault while the tool is waited for, or while its output is read,
would be a fifth reason. It is left out, because a host that starts a tool answers with a whole
`Completion`. -/
inductive ToolError where
  | emptyCommand
  | notStarted (tool : Text) (fault : Fault)
  | timeout (tool : Text) (limit : Nat)
  | noScriptFile (path : Path) (fault : Fault)
deriving DecidableEq, Repr

namespace ToolError

/-- What the operating system says about a temporary file that could not be made. -/
def fileMessage (path : Path) (fault : Fault) : Text :=
  fault.message ++ " at path \"".toList ++ path.text ++ "\"".toList

/-- The wording of a tool error. -/
def message : ToolError → Text
  | .emptyCommand => "Empty command".toList
  | .notStarted tool fault =>
    "Failed to spawn '".toList ++ tool ++ "': ".toList ++ fault.message
  | .timeout tool limit =>
    "Tool '".toList ++ tool ++ "' timed out after ".toList ++ Text.ofNat limit ++ "ms".toList
  | .noScriptFile path fault =>
    "Failed to write temporary script: ".toList ++ fileMessage path fault

/-- The messages of a tool error and of what caused it. -/
def chain (e : ToolError) : List Text :=
  match e with
  | .notStarted _ fault => [e.message, fault.message]
  | .noScriptFile path fault => [e.message, fileMessage path fault]
  | _ => [e.message]

end ToolError

/-- The time limit of a tool that sets none itself, in milliseconds. -/
def defaultTimeout : Nat := 30000

namespace Completion

/-- Whether a program was still running when its time was up. A limit of zero is none: a program
that never ends would then be waited for without end. Runs always end here, so it counts as late
under every limit. -/
def isLate (limit : Nat) (c : Completion) : Bool :=
  match c.elapsed with
  | none => true
  | some ms => 0 < limit && limit ≤ ms

/-- The output of a program that has ended. -/
def output (c : Completion) : ToolOutput :=
  { stdout := Text.decodeLossy c.stdout, stderr := Text.decodeLossy c.stderr
    exitCode := (c.status.map Int.ofNat).getD (-1) }

end Completion

namespace Host

variable {σ : Type}

/-- Runs a program with its arguments, for at most `limit` milliseconds. -/
def execute (h : Host σ) (limit : Nat) (d : Disk) (argv : List Text) (s : σ) :
    Except ToolError ToolOutput × σ :=
  match argv with
  | [] => (.error .emptyCommand, s)
  | tool :: _ =>
    match h.run d argv s with
    | (.error fault, s) => (.error (.notStarted tool fault), s)
    | (.ok c, s) => (if c.isLate limit then .error (.timeout tool limit) else .ok c.output, s)

/-- The name of the temporary file that holds a script. -/
def scriptName : Text := "shdoclint-script.sh".toList

/-- Writes a script to a temporary file and runs the linter on it. The file is gone afterwards. -/
def lint (h : Host σ) (l : Linter) (limit : Nat) (tempDir : Path) (d : Disk) (dialect : Dialect)
    (script : Text) (s : σ) : Except ToolError ToolOutput × σ :=
  let path := tempDir.join ⟨scriptName⟩
  match d.write? path script with
  | .error fault => (.error (.noScriptFile path fault), s)
  | .ok d => h.execute limit d (l.argv dialect path) s

end Host
end TranscriptLint
