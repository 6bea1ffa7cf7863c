import TranscriptLint.Text.Indent

namespace TranscriptLint

/-!
# Literal blocks

A literal block is a run of source lines without their common indentation. Dedenting is a normal
form: blank lines become empty, and some line that is not blank starts at column zero.
-/

/-- A block of literal text and where it sits in its source. -/
structure LiteralBlock where
  /-- The language tag; empty if there is none. -/
  language : Text
  /-- The content without its common indentation; blank lines are empty. -/
  lines : List Text
  /-- The index of the first content line, counted from zero. -/
  firstLine : Nat
  /-- The width of the indentation that was removed. -/
  indent : Nat
deriving DecidableEq, Repr

/-- A line without `width` columns of indentation; a blank line becomes empty. -/
def dedentLine (width : Nat) (line : Text) : Text :=
  if line.isBlank then [] else line.stripIndent width

/-- The block made of raw source lines, without their common indentation. -/
def LiteralBlock.ofLines (language : Text) (raw : List Text) (firstLine : Nat) : LiteralBlock :=
  let indent := (Text.minIndent raw).getD 0
  { language, lines := raw.map (dedentLine indent), firstLine, indent }

end TranscriptLint
