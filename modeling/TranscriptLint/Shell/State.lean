import TranscriptLint.Shell.Command
import TranscriptLint.Shell.Format
import TranscriptLint.Tool

namespace TranscriptLint.Shell

/-!
# The state of a shell

A shell has variables, functions, an input and two output streams. Time passes only while something
sleeps.

* `Shell.State` is what a shell knows, `Shell.State.completion` what it shows at its end.
* `Shell.Starter` runs the other programs.
-/

/-- Where a stream goes. -/
inductive Sink where
  | out
  | err
  | nowhere
  | file (path : Path)
deriving DecidableEq, Repr

/-- How a shell or a function ended. -/
inductive Ending where
  | exited (status : Nat)
  | returned (status : Nat)
  | killed
  | stuck
  /-- A number of loops is left; the outermost of them may go on. -/
  | left (levels : Nat) (again : Bool)
deriving DecidableEq, Repr

/-- What a command that was not waited for shows, and when it is done. -/
structure Job where
  done : Nat
  /-- What it writes to the two streams, newest first. -/
  stdout : List UInt8
  stderr : List UInt8

/-- Starts another program on its input. -/
abbrev Starter (σ : Type) :=
  Disk → List UInt8 → List Text → σ → Except Fault Completion × σ

/-- What a shell knows while it runs. -/
structure State (σ : Type) where
  disk : Disk
  /-- The state of the programs that it starts. -/
  tools : σ
  /-- The name of the shell or script, and its arguments. -/
  name : Text
  arguments : List Text
  assigned : List (Text × Text) := []
  functions : List (Text × Command) := []
  status : Nat := 0
  out : Sink := .out
  err : Sink := .err
  /-- What can still be read. -/
  input : List UInt8 := []
  /-- What was written to the two streams, newest first. -/
  stdout : List UInt8 := []
  stderr : List UInt8 := []
  elapsed : Nat := 0
  ending : Option Ending := none
  /-- Whether a command that fails ends the shell. -/
  strict : Bool := false
  /-- Whether the outcome of the command that runs is tested. -/
  tested : Bool := false
  /-- What is run at the end. -/
  atExit : Text := []
  /-- The commands that are not done yet, in the order in which they will be. -/
  jobs : List Job := []

namespace State

variable {σ : Type}

/-- Writes octets to a sink. -/
def writeTo (s : State σ) (sink : Sink) (bytes : List UInt8) : State σ :=
  match sink with
  | .out => { s with stdout := bytes.reverse ++ s.stdout }
  | .err => { s with stderr := bytes.reverse ++ s.stderr }
  | .nowhere => s
  | .file path =>
    match s.disk.update? path (· ++ bytes) with
    | .ok disk => { s with disk }
    | .error _ => s

/-- Writes octets to standard output. -/
def print (s : State σ) (bytes : List UInt8) : State σ := s.writeTo s.out bytes

/-- Writes a text to standard error. -/
def warn (s : State σ) (t : Text) : State σ := s.writeTo s.err (Text.utf8 t)

/-- Writes a message with the name of the shell before it. -/
def complain (s : State σ) (message : Text) : State σ :=
  s.warn (s.name ++ ": 1: ".toList ++ message ++ ['\n'])

/-- Ends a command with a status. -/
def finish (s : State σ) (status : Nat) : State σ := { s with status }

/-- Ends the shell. -/
def exit (s : State σ) (status : Nat) : State σ :=
  { s with status, ending := some (.exited status) }

/-- The value of a variable, if it is set. -/
def value? (s : State σ) (name : Text) : Option Text :=
  match s.assigned.lookup name with
  | some v => some v
  | none => if name == "PWD".toList then some s.disk.cwdPath.text else none

/-- Sets a variable. -/
def assign (s : State σ) (name value : Text) : State σ :=
  { s with assigned := (name, value) :: s.assigned.filter fun v => v.1 != name }

/-- The value of a parameter, if it is set. -/
def parameter? (s : State σ) (name : Text) : Option Text :=
  match name with
  | ['#'] => some (Text.ofNat s.arguments.length)
  | ['?'] => some (Text.ofNat s.status)
  | ['$'] => some "4242".toList
  | ['@'] | ['*'] =>
    if s.arguments.isEmpty then none else some (Text.joinWith " ".toList s.arguments)
  | ['0'] => some s.name
  | _ =>
    match Text.toNat? name with
    | some n => (s.arguments.drop (n - 1)).head?
    | none => s.value? name

/-- The value of a parameter; empty if it is not set. -/
def parameter (s : State σ) (name : Text) : Text := (s.parameter? name).getD []

/-- The value of a variable as a number. -/
def number (s : State σ) (name : Text) : Int :=
  (integer? ((s.value? name).getD [])).getD 0

/-- The shell with its streams as they were before. -/
def restore (before after : State σ) : State σ :=
  { after with out := before.out, err := before.err }

/-- Adds a command that is not waited for. -/
def addJob (s : State σ) (j : Job) : State σ :=
  { s with
    jobs := (s.jobs.takeWhile fun i => i.done ≤ j.done) ++
      j :: s.jobs.dropWhile fun i => i.done ≤ j.done }

/-- Takes in the output of jobs. -/
def collect (s : State σ) (jobs : List Job) : State σ :=
  jobs.foldl (fun s j => { s with stdout := j.stdout ++ s.stdout, stderr := j.stderr ++ s.stderr }) s

/-- Takes in the output of the jobs that are done. -/
def settle (s : State σ) : State σ :=
  let isDone (j : Job) := decide (j.done ≤ s.elapsed)
  { s with jobs := s.jobs.dropWhile isDone }.collect (s.jobs.takeWhile isDone)

/-- Waits for all jobs. -/
def await (s : State σ) : State σ :=
  settle { s with elapsed := s.jobs.foldl (fun t j => max t j.done) s.elapsed }

/-- What the shell shows when it is done. The output of its jobs comes last. -/
def completion (s : State σ) : Completion :=
  let s := s.collect s.jobs
  { stdout := s.stdout.reverse, stderr := s.stderr.reverse
    status := match s.ending with
      | some (.exited n) => some n
      | some .killed | some .stuck => none
      | _ => some s.status
    elapsed := if s.ending == some .stuck then none else some s.elapsed }

/-- Takes in what another program showed. -/
def absorb (s : State σ) (c : Completion) : State σ :=
  let s := (s.print c.stdout).writeTo s.err c.stderr
  match c.elapsed with
  | none => { s with ending := some .stuck }
  | some ms => { s with elapsed := s.elapsed + ms, status := c.status.getD 137 }

end State

end TranscriptLint.Shell
