import TranscriptLint.Text.Basic

namespace TranscriptLint.Markdown

/-!
# Places in a Markdown text

A place is what follows it. A `Cursor` is a place at the beginning of a line that also knows its
column, because a tab there counts as the spaces up to the next multiple of four, and a container
may take only some of them.
-/

/-! ## Line ends -/

/-- What follows a line end. A line ends with a line feed, a carriage return, both, or the text. -/
def lineEnd? : Text → Option Text
  | [] => some []
  | '\n' :: rest => some rest
  | '\r' :: '\n' :: rest => some rest
  | '\r' :: rest => some rest
  | _ => none

/-- Whether a character is blank inside a line. -/
def isLineBlank (c : Char) : Bool := c == ' ' || c == '\t' || c == '\x0b' || c == '\x0c'

/-- Whether a character is ASCII whitespace. -/
def isAsciiWhite (c : Char) : Bool := c == ' ' || ('\t' ≤ c && c ≤ '\r')

/-- The text without the blanks at its beginning, as far as they are on one line. -/
def skipBlanks (t : Text) : Text := t.dropWhile isLineBlank

/-- What follows a line of which nothing but blanks is left. -/
def blankLine? (t : Text) : Option Text := lineEnd? (skipBlanks t)

/-- Whether nothing but blanks is left of a line. -/
def isBlankLine (t : Text) : Bool := (blankLine? t).isSome

/-- What follows the next line feed. -/
def nextLine (t : Text) : Text := (t.dropWhile (· ≠ '\n')).drop 1

/-- What is left of the line, up to the next line feed. -/
def restOfLine (t : Text) : Text := t.takeWhile (· ≠ '\n')

/-- The number of times that `c` is repeated at the beginning of a text. -/
def runLength (c : Char) (t : Text) : Nat := (t.takeWhile (· == c)).length

/-! ## Cursors -/

/-- A place at the beginning of a line. -/
structure Cursor where
  /-- What follows. -/
  rest : Text
  /-- The column, counted from the last tab stop. -/
  column : Nat
  /-- Columns of a tab that was passed but not all taken. -/
  pending : Nat
deriving DecidableEq, Repr

namespace Cursor

/-- The beginning of a line. -/
def start (t : Text) : Cursor := ⟨t, 0, 0⟩

/-- Takes up to `n` columns of blanks from column `column` on; the number is that of the columns
that could not be taken. -/
def takeFrom (column n : Nat) : Text → Nat × Cursor
  | [] => (n, ⟨[], column, 0⟩)
  | c :: rest =>
    if n = 0 then (0, ⟨c :: rest, column, 0⟩)
    else if c = ' ' then takeFrom (column + 1) (n - 1) rest
    else if c = '\t' then
      let width := 4 - column % 4
      if width ≤ n then takeFrom 0 (n - width) rest else (0, ⟨rest, 0, width - n⟩)
    else (n, ⟨c :: rest, column, 0⟩)

/-- Takes up to `n` columns of blanks; the number is that of the columns that could not be
taken. -/
def take (n : Nat) (c : Cursor) : Nat × Cursor :=
  if n ≤ c.pending then (0, { c with pending := c.pending - n })
  else takeFrom c.column (n - c.pending) c.rest

/-- Takes up to `n` columns of blanks and says how many were there. -/
def takeUpTo (n : Nat) (c : Cursor) : Nat × Cursor := (n - (c.take n).1, (c.take n).2)

/-- Takes all spaces and tabs. -/
def takeAll (c : Cursor) : Cursor :=
  let blanks := c.rest.takeWhile fun d => d == ' ' || d == '\t'
  ⟨c.rest.drop blanks.length, c.column + blanks.length, 0⟩

/-- Whether the line ends here. -/
def atLineEnd (c : Cursor) : Bool :=
  match c.rest with
  | [] => true
  | d :: _ => d == '\n' || d == '\r'

/-- Passes over `n` characters that are no blanks. -/
def advance (n : Nat) (c : Cursor) : Cursor := { c with rest := c.rest.drop n, column := c.column + n }

end Cursor
end TranscriptLint.Markdown
