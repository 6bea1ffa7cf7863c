import TranscriptLint.Text.Basic

namespace TranscriptLint.Shell

/-!
# Shell commands

The commands of a small shell: enough for wrappers around a linter and for the programs that a run
may start.
-/

/-- A part of a word. The flag says that it stood in quotes. -/
inductive Piece where
  | text (t : Text) (quoted : Bool)
  /-- The value of a parameter. -/
  | parameter (name : Text) (quoted : Bool)
  /-- The value of a parameter, changed by an operator and a word. -/
  | expansion (name operator operand : Text) (quoted : Bool)
  /-- The value of an arithmetic expression. -/
  | arithmetic (expression : Text) (quoted : Bool)
  /-- The output of commands. -/
  | output (commands : Text) (quoted : Bool)
deriving DecidableEq, Repr

/-- A word before it is expanded. -/
abbrev Word := List Piece

/-- How a file is opened. -/
inductive FileMode where
  | read
  | write
  | append
deriving DecidableEq, Repr

/-- A redirection of a stream. -/
inductive Redirection where
  /-- To where another stream goes. -/
  | toStream (stream target : Nat)
  | toFile (stream : Nat) (mode : FileMode) (name : Word)
  /-- From a text that stands in the script. -/
  | fromText (content : Word)
deriving DecidableEq, Repr

/-- A command. -/
inductive Command where
  | nothing
  | simple (assignments : List (Text × Word)) (words : List Word)
      (redirections : List Redirection)
  | sequence (first second : Command)
  /-- The second command if the first succeeds. -/
  | andThen (first second : Command)
  /-- The second command if the first fails. -/
  | orElse (first second : Command)
  | negate (c : Command)
  | pipe (first second : Command)
  /-- A command that is not waited for. -/
  | background (c : Command)
  | conditional (test yes no : Command)
  /-- Repeats the body as long as the test has the given outcome. -/
  | loop (outcome : Bool) (test body : Command)
  | forEach (name : Text) (words : List Word) (body : Command)
  /-- The body if a pattern fits the subject, else the other branches. -/
  | choose (subject : Word) (patterns : List Word) (body others : Command)
  | group (isolated : Bool) (body : Command) (redirections : List Redirection)
  /-- Gives a name to a command. -/
  | define (name : Text) (body : Command)
deriving Repr

end TranscriptLint.Shell
