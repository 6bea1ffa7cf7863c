import TranscriptLint.Block
import TranscriptLint.Markdown.Block
import TranscriptLint.Markdown.Info

namespace TranscriptLint.Markdown

/-!
# Fenced code in Markdown

* `spans` says where the fenced code blocks of a text are, as its block structure has it.
* `scan` turns the spans into literal blocks, by whole lines.
-/

/-- The extent of a fenced code block, in characters from the beginning of the text. -/
structure Span where
  start : Nat
  stop : Nat
  language : Text
deriving DecidableEq, Repr

/-- The extents of the fenced code blocks of a text. -/
def spans (content : Text) : List Span :=
  (fencedBlocks content).map fun f =>
    ⟨content.length - f.startLeft, content.length - f.stopLeft, languageOf f.info⟩

/-- The line on which a place is, counted from zero. -/
def lineOf (content : Text) (place : Nat) : Nat := (content.take place).count '\n'

/-- The last line of an extent. An extent that ends behind a line feed ends on the line before. -/
def lastLine (content : Text) (s : Span) : Nat :=
  let line := lineOf content s.stop
  if (content.take s.stop).getLast? == some '\n' then line - 1 else line

/-- The run of fence characters that a line begins with. -/
def fenceRun (line : Text) : Text :=
  let line := line.trimStart
  line.takeWhile (· == if line.head? == some '~' then '~' else '\x60')

/-- The line behind the content of an extent: its last line if that begins like the first, and the
line after it otherwise, because a fence that is not closed runs to the end of its container. -/
def closingLine (lines : List Text) (content : Text) (s : Span) : Nat :=
  let first := lineOf content s.start
  let last := lastLine content s
  let closes := match lines[last]? with
    | some line => first < last && line.trimStart.startsWith (fenceRun (lines.getD first []))
    | none => false
  if closes then last else last + 1

/-- The literal block of an extent; none if it has no content. -/
def block? (lines : List Text) (content : Text) (s : Span) : Option LiteralBlock :=
  let first := lineOf content s.start + 1
  let stop := min (closingLine lines content s) lines.length
  if first < stop then
    some (.ofLines s.language ((lines.drop first).take (stop - first)) first)
  else none

/-- The fenced code blocks of a text whose tabs have been expanded. -/
def scan (content : Text) : List LiteralBlock :=
  (spans content).filterMap (block? content.lines content)

end TranscriptLint.Markdown
