import TranscriptLint.Text.Indent
import TranscriptLint.Text.Utf8

namespace TranscriptLint

/-!
# Docstrings

A reader of Python source by lines: it finds a function defined at the top level and the
triple-quoted string that opens its body, and keeps the source line of every docstring line.

* `Docstring.findFunction` finds the line of a definition, if the pattern for its head compiles.
* `Docstring.read` reads and cleans the docstring of the definition on a line.
-/

/-- The library that compiles the patterns for the heads of functions. It refuses patterns that get
too large. -/
class PatternLibrary where
  /-- Whether the pattern for the heads of the functions of this name compiles. -/
  compiles : Text → Bool

namespace PatternLibrary

/-- The number of octets that a compiled pattern may take: 10 MiB. -/
def limit : Nat := 10 * 1024 * 1024

/-- The library by a rule of thumb: a compiled pattern takes 32 octets for each octet of the name.
What the rest of the pattern takes is left out. Runs use this instance; what is proved about lookups
holds for every library. -/
instance bounded : PatternLibrary where
  compiles name := 32 * (Text.utf8 name).length ≤ limit

end PatternLibrary

/-- A cleaned docstring. -/
structure Docstring where
  /-- The lines without the margin and without blank lines around them. -/
  lines : List Text
  /-- The source line of each of the lines, counted from zero. -/
  sourceLines : List Nat
  /-- The indentation removed from every line but the first. -/
  margin : Nat
  /-- The line of the definition, counted from zero. -/
  defLine : Nat
deriving DecidableEq, Repr

namespace Docstring

/-! ## Finding a definition -/

/-- The text after a keyword and the whitespace that must follow it, for each way to end the
whitespace: shorter runs leave some of it to what follows. -/
def afterKeyword (keyword line : Text) : List Text :=
  match line.after? keyword with
  | none => []
  | some rest => (List.range rest.indentWidth).map fun k => rest.drop (k + 1)

/-- Whether the rest of a line begins with the name and an opening parenthesis. -/
def beginsWithCall (name rest : Text) : Bool :=
  ((rest.after? name).map fun r => r.trimStart.head? == some '(').getD false

/-- Whether a line that starts at `def` defines the function. -/
def isDef (name line : Text) : Bool := (afterKeyword "def".toList line).any (beginsWithCall name)

/-- Whether a line is the head of a top-level definition of the function. -/
def definesFunction (name line : Text) : Bool :=
  isDef name line || (afterKeyword "async".toList line).any (isDef name)

/-- The first line that defines the function. If the pattern for its heads does not compile, the
function counts as not defined. -/
def findFunction [PatternLibrary] (lines : List Text) (name : Text) : Option Nat :=
  if PatternLibrary.compiles name then lines.findIdx? (definesFunction name) else none

/-! ## Reading a docstring -/

/-- The line without its comment. -/
def stripComment (line : Text) : Text := line.takeWhile (· ≠ '#')

/-- Whether a line ends the head of a definition. -/
def endsHead (line : Text) : Bool := (stripComment line).trimEnd.getLast? == some ':'

/-- The two kinds of triple quote. -/
def quotes : List Text := ["\"\"\"".toList, "'''".toList]

/-- Whether a character may stand before the quote of a string. -/
def isStringMark (c : Char) : Bool := c == 'r' || c == 'R' || c == 'u' || c == 'U'

/-- The quote a text opens with, and what follows it. Up to two marks may stand before it. -/
def opening? (t : Text) : Option (Text × Text) :=
  let marks := t.takeWhile isStringMark
  if marks.length ≤ 2 then
    quotes.findSome? fun q => (Text.after? (t.drop marks.length) q).map fun rest => (q, rest)
  else none

/-- The lines up to the first occurrence of the quote; none if it does not occur. -/
def untilQuote (quote : Text) : List Text → Option (List Text)
  | [] => none
  | line :: rest =>
    match Text.find? quote line with
    | some k => some [line.take k]
    | none => (untilQuote quote rest).map (line :: ·)

/-- A docstring line other than the first, without the margin. -/
def cleanLine (margin : Nat) (line : Text) : Text :=
  if line.isBlank then [] else (line.stripIndent margin).trimEnd

/-- Cleans the raw lines of a docstring, the first of which stands on line `first`. The margin is
measured without the first line, which begins behind the quote. -/
def clean (defLine first : Nat) (raw : List Text) : Docstring :=
  let margin := (Text.minIndent raw.tail).getD 0
  let cleaned := raw.head?.toList.map Text.trimStart ++ raw.tail.map (cleanLine margin)
  let kept := cleaned.dropWhile List.isEmpty
  let lines := Text.dropEnd List.isEmpty kept
  { lines, sourceLines := List.range' (first + (cleaned.length - kept.length)) lines.length
    margin, defLine }

/-- Reads the docstring of the function defined on line `defLine`. The head of the definition may
span several lines; the first line behind it that is not blank must open the string. -/
def read (lines : List Text) (defLine : Nat) : Option Docstring := do
  let head ← (lines.drop defLine).findIdx? endsHead
  let bodyStart := defLine + head + 1
  let blanks ← (lines.drop bodyStart).findIdx? fun l => !l.isBlank
  let start := bodyStart + blanks
  match lines.drop start with
  | [] => none
  | openLine :: rest =>
    let (quote, text) ← opening? openLine.trimStart
    let raw ← untilQuote quote (text :: rest)
    return clean defLine start raw

end Docstring
end TranscriptLint
