import TranscriptLint.Text.Indent

namespace TranscriptLint

/-!
# Transcripts

A transcript mixes prompted commands with their captured output. Every line is classified by its
own content and by whether the line before it left a command continued with a final backslash.

* `Transcript.classify` gives one entry per line.
* `Transcript.margin` is the least indentation over the command bodies that are not blank.
-/

/-- What a transcript line is. -/
inductive LineKind where
  /-- Its first character that is not whitespace is the prompt. -/
  | command
  /-- It follows a command line that ended with a backslash. -/
  | continuation
  /-- Captured output, or anything else that belongs to no command. -/
  | output
  /-- Only whitespace, outside of a continued command. -/
  | blank
deriving DecidableEq, Repr

/-- Whether lines of this kind carry shell source into the script. -/
def LineKind.isCommand : LineKind → Bool
  | .command | .continuation => true
  | .output | .blank => false

/-- A transcript line with its kind. -/
structure ClassifiedLine where
  kind : LineKind
  /-- The shell source of a command line, before dedenting; empty for all other lines. -/
  body : Text
deriving DecidableEq, Repr

/-- A classified transcript. -/
structure Transcript where
  lines : List ClassifiedLine
  /-- The least indentation over the command bodies that are not blank. -/
  margin : Nat
deriving DecidableEq, Repr

/-- Whether the first character of a line that is not whitespace is the prompt. A prompt that is
itself whitespace is never found. -/
def isPrompted (prompt : Char) (line : Text) : Bool := line.trimStart.head? == some prompt

/-- Replaces the prompt by one space, so that a command line keeps its columns. -/
def blankPrompt (line : Text) : Text :=
  line.takeWhile Text.isWhite ++ ' ' :: line.trimStart.tail

/-- Whether a command line goes on in the next line. -/
def endsInBackslash (line : Text) : Bool := line.trimEnd.getLast? == some '\\'

/-- The entry of one line, given whether the line before it left a command open. -/
def classifyLine (prompt : Char) (continued : Bool) (line : Text) : ClassifiedLine :=
  if isPrompted prompt line then ⟨.command, blankPrompt line⟩
  else if continued then ⟨.continuation, line⟩
  else if line.isBlank then ⟨.blank, []⟩
  else ⟨.output, []⟩

namespace Transcript

/-- Classifies the lines in order; `continued` says whether a command was left open before. -/
def classify (prompt : Char) : Bool → List Text → List ClassifiedLine
  | _, [] => []
  | continued, line :: rest =>
    let entry := classifyLine prompt continued line
    entry :: classify prompt (entry.kind.isCommand && endsInBackslash line) rest

/-- The command bodies that are not blank. -/
def sourceBodies (lines : List ClassifiedLine) : List Text :=
  (lines.filter fun l => l.kind.isCommand && !l.body.isBlank).map ClassifiedLine.body

/-- Reads a code block, with `prompt` as the mark of a command line. -/
def ofLines (prompt : Char) (lines : List Text) : Transcript :=
  let classified := classify prompt false lines
  { lines := classified
    margin := ((sourceBodies classified).map Text.indentWidth).min?.getD 0 }

/-- The number of lines that belong to a command. -/
def commandCount (t : Transcript) : Nat := (t.lines.filter fun l => l.kind.isCommand).length

end Transcript
end TranscriptLint
