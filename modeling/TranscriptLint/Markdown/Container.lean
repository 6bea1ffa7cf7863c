import TranscriptLint.Markdown.Html
import TranscriptLint.Markdown.Opener

namespace TranscriptLint.Markdown

/-!
# Containers and what stops a paragraph

A line belongs to the open containers as far as it carries their marks. A paragraph goes on over
lines that do not, until something interrupts it.

* `Container.enterAll` passes the marks of the open containers.
* `interruptsParagraph` says which lines a paragraph cannot take in.
* `paragraphEnd`, `tableEnd` and `reference?` give what follows a paragraph, a table and a link
  reference definition.
-/

/-- A block that holds other blocks. -/
inductive Container where
  | quote
  /-- A list. It is tight as long as no blank line was seen between its items. -/
  | list (tight : Bool) (sign : Char)
  /-- A list item whose content is indented by this much. -/
  | item (indent : Nat)
  | definitionList
  /-- A definition whose content is indented by this much. -/
  | definition (indent : Nat)
  | footnote
deriving DecidableEq, Repr

namespace Container

/-- Passes what a line must carry to belong to a container. -/
def enter? (c : Cursor) : Container → Option Cursor
  | .quote => quoteMark? (c.take 3).2
  | .item indent | .definition indent =>
    let (missing, next) := c.take indent
    if missing == 0 || next.atLineEnd then some next else none
  | .list .. | .definitionList | .footnote => some c

/-- Passes the marks of the containers from the outermost on, as far as the line carries them. The
number is that of the containers entered. -/
def enterAll : List Container → Cursor → Nat × Cursor
  | [], c => (0, c)
  | k :: ks, c =>
    match k.enter? c with
    | none => (0, c)
    | some next =>
      let (count, last) := enterAll ks next
      (count + 1, last)

/-- Passes the marks of all the containers. -/
def enterEvery? (ks : List Container) (t : Text) : Option Cursor :=
  let (count, c) := enterAll ks (.start t)
  if count == ks.length then some c else none

/-- Whether a container is a definition. -/
def isDefinition : Container → Bool
  | .definition _ => true
  | _ => false

end Container

/-! ## Labels -/

/-- Whether a text begins with the end of a line, the end of the text apart. -/
def atBreak (t : Text) : Bool := t.head? == some '\n' || t.head? == some '\r'

/-- Passes whitespace inside a label, with at most one line break. `pass` says what follows the
break, if the label may go on there. -/
def labelSpace? (pass : Text → Option Text) (t : Text) : Option Text :=
  let t := skipBlanks t
  if atBreak t then do
    let next := skipBlanks (← pass ((lineEnd? t).getD []))
    if atBreak next then none else some next
  else some t

/-- The size of a label from which on it is too long. -/
def maxLabel : Nat := 1000

/-- What a character adds to the size of a label: its octets, unless it is ASCII. -/
def labelWeight (c : Char) : Nat := if c.toNat < 0x80 then 0 else c.utf8Size

/-- What follows the closing bracket of a label, which must hold more than whitespace. -/
def labelEnd? (pass : Text → Option Text) : Nat → Nat → Bool → Text → Option Text
  | 0, _, _, _ => none
  | fuel + 1, size, isBlank, t =>
    if maxLabel ≤ size then none
    else
      match t with
      | [] => none
      | c :: rest =>
        if c == '[' then none
        else if c == ']' then if isBlank then none else some rest
        else if c == '\\' then labelEnd? pass fuel (size + 1) false (rest.drop 1)
        else if isAsciiWhite c then do
          let next ← labelSpace? pass t
          labelEnd? pass fuel (size + (t.length - next.length)) isBlank next
        else labelEnd? pass fuel (size + labelWeight c) false rest

/-- What follows a label, given what follows its opening bracket. -/
def label? (pass : Text → Option Text) (t : Text) : Option Text :=
  labelEnd? pass (t.length + 1) 0 true t

/-- Whether a line begins with the label of a footnote and a colon. -/
def isFootnoteLabel (t : Text) : Bool :=
  match t with
  | '[' :: '^' :: rest => ((label? (fun _ => none) rest).bind List.head?) == some ':'
  | _ => false

/-! ## Interruptions -/

/-- The situation in which a line is judged. -/
structure Surroundings where
  /-- The open containers, outermost first. -/
  containers : List Container
  /-- Whether the block being read is a table. -/
  inTable : Bool := false
deriving DecidableEq, Repr

/-- Whether a list item begins with two blank lines, its own included. -/
def isEmptyItem (m : ListMark) (t : Text) : Bool :=
  ((blankLine? (t.drop m.length)).map isBlankLine).getD false

/-- Whether a list item can interrupt a paragraph of the same containers: it must not be empty, and
a number must be one. -/
def isStrongItem (m : ListMark) (t : Text) : Bool :=
  (isBullet m.sign || m.number == 1) && !isEmptyItem m t

/-- Whether what is left of a line interrupts a paragraph or ends a table. `inside` says that the
line belongs to all open containers. -/
def interrupts (s : Surroundings) (inside : Bool) (t : Text) : Bool :=
  (lineEnd? t).isSome || (thematicBreak? t).isSome || isHeading t || (fenceMark? t).isSome ||
    t.head? == some '>' ||
    ((listItem? t).map fun m => !inside || s.inTable || isStrongItem m t).getD false ||
    (t.head? == some '<' &&
      ((Html.endMark? t.tail).isSome || Html.beginsBlockElement t.tail)) ||
    ((inside || s.containers.any Container.isDefinition) && t.head? == some ':') ||
    isFootnoteLabel t

/-- What follows the end of the line; none on the last line of a text. -/
def followingLine? (t : Text) : Option Text :=
  match t.dropWhile fun c => c != '\n' && c != '\r' with
  | [] => none
  | rest => lineEnd? rest

/-- What follows the end of the line. -/
def followingLine (t : Text) : Text := (followingLine? t).getD []

/-- Whether a line is the first row of a table, judged by the row below it. -/
def headsTable (containers : List Container) (t : Text) : Bool :=
  match followingLine? t with
  | none => false
  | some below =>
    match Container.enterEvery? containers below with
    | none => false
    | some c =>
      match delimiterRow? c.rest, headColumns? t with
      | some columns, some expected => columns == expected
      | _, _ => false

/-- Whether what is left of a line interrupts a paragraph. -/
def interruptsParagraph (s : Surroundings) (inside : Bool) (t : Text) : Bool :=
  interrupts s inside t || (t.head? == some '|' && headsTable s.containers t)

/-! ## Paragraphs and tables -/

/-- What a paragraph turned out to be. -/
inductive ParagraphKind where
  | paragraph
  | heading
  | table
deriving DecidableEq, Repr

/-- What follows a paragraph, given the line that may go on with it. -/
def paragraphEnd (s : Surroundings) : Nat → Text → ParagraphKind × Text
  | 0, t => (.paragraph, t)
  | fuel + 1, t =>
    let (count, c) := Container.enterAll s.containers (.start t)
    let inside := count == s.containers.length
    let (missing, c) := c.take 4
    let shallow := missing != 0
    match if shallow && inside then underline? c.rest else none with
    | some after => (.heading, after)
    | none =>
      let c' := c.takeAll
      if shallow && interruptsParagraph s inside c.rest || c'.atLineEnd then (.paragraph, t)
      else paragraphEnd s fuel (followingLine c'.rest)

/-- Whether a row of a table has cells: it is more than a bar. -/
def hasCells (row : Text) : Bool :=
  !isBlankLine (match row with
    | '|' :: rest => rest
    | _ => row)

/-- What follows the rows of a table. -/
def tableEnd (s : Surroundings) : Nat → Text → Text
  | 0, t => t
  | fuel + 1, t =>
    match Container.enterEvery? s.containers t with
    | none => t
    | some c =>
      let row := c.takeAll.rest
      if interrupts { s with inTable := true } true row || !hasCells row then t
      else tableEnd s fuel (followingLine row)

/-- Whether a line ends in a backslash that is not escaped. -/
def endsInBackslash (t : Text) : Bool :=
  let line := t.takeWhile fun c => c != '\n' && c != '\r'
  (line.reverse.takeWhile (· == '\\')).length % 2 == 1

/-- Reads a paragraph or a table from its first line. A hard line break does not end the first row
of a table. -/
def readParagraph (s : Surroundings) (t : Text) : ParagraphKind × Text :=
  if !endsInBackslash t && headsTable s.containers t then
    (.table, tableEnd s (t.length + 1) (followingLine (followingLine t)))
  else paragraphEnd s (t.length + 1) (followingLine t)

/-! ## Link reference definitions -/

/-- Passes a line break inside a label. The next line must be able to go on with a paragraph. -/
def labelBreak? (s : Surroundings) (t : Text) : Option Text :=
  let (count, c) := Container.enterAll s.containers (.start t)
  let inside := count == s.containers.length
  let (missing, c) := c.take 4
  if missing == 0 then some c.rest
  else if interrupts s inside c.rest || (inside && (underline? c.rest).isSome) then none
  else some c.rest

/-- Passes whitespace between the parts of a definition, with at most one line break. The flag says
that there was one. -/
def partSpace? (s : Surroundings) (t : Text) : Option (Text × Bool) :=
  let t := skipBlanks t
  match lineEnd? t with
  | none => some (t, false)
  | some next =>
    let (count, c) := Container.enterAll s.containers (.start next)
    let (missing, c) := c.take 4
    if missing != 0 && (interruptsParagraph s (count == s.containers.length) c.rest ||
        (underline? c.rest).isSome) then none
    else
      let rest := skipBlanks c.rest
      if (lineEnd? rest).isSome then none else some (rest, true)

/-- Whether a character is ASCII punctuation. -/
def isPunctuation (c : Char) : Bool :=
  ('!' ≤ c && c ≤ '/') || (':' ≤ c && c ≤ '@') || ('[' ≤ c && c ≤ '\x60') ||
    ('\x7b' ≤ c && c ≤ '~')

/-- What follows a destination in angle brackets. -/
def pointyDestination? : Text → Option Text
  | [] => none
  | '\\' :: c :: rest =>
    if isPunctuation c then pointyDestination? rest else pointyDestination? (c :: rest)
  | c :: rest =>
    if c == '>' then some rest
    else if c == '\n' || c == '\r' || c == '<' then none
    else pointyDestination? rest

/-- How deep parentheses may be nested in a destination. -/
def maxNesting : Nat := 32

/-- What follows a destination without brackets, inside `depth` parentheses. -/
def plainDestination? (depth : Nat) : Text → Option Text
  | [] => if depth = 0 then some [] else none
  | '\\' :: c :: rest =>
    if isPunctuation c then plainDestination? depth rest
    else plainDestination? depth (c :: rest)
  | c :: rest =>
    if c ≤ ' ' then if depth = 0 then some (c :: rest) else none
    else if c == '(' then if depth > maxNesting then none else plainDestination? (depth + 1) rest
    else if c == ')' then
      if depth = 0 then some (c :: rest) else plainDestination? (depth - 1) rest
    else plainDestination? depth rest

/-- What follows the destination of a link, which is not empty. -/
def destination? (t : Text) : Option Text :=
  match t with
  | '<' :: rest => pointyDestination? rest
  | _ => (plainDestination? 0 t).filter fun rest => rest.length < t.length

/-- What follows a title that ends with `close`. -/
def titleEnd? (s : Surroundings) (close : Char) : Nat → Text → Option Text
  | 0, _ => none
  | fuel + 1, t =>
    match t with
    | [] => none
    | c :: rest =>
      if c == close then some rest
      else if c == '(' && close == ')' then none
      else if c == '\n' || c == '\r' then
        let next := (lineEnd? t).getD []
        let (count, cursor) := Container.enterAll s.containers (.start next)
        let (missing, cursor) := cursor.take 4
        if missing != 0 && (interruptsParagraph s (count == s.containers.length) cursor.rest ||
            (underline? cursor.rest).isSome) then none
        else
          let line := cursor.takeAll.rest
          if isBlankLine line then none else titleEnd? s close fuel line
      else if c == '\\' then
        match rest with
        | d :: rest' =>
          titleEnd? s close fuel (if d == '\n' || d == '\r' then rest else rest')
        | [] => none
      else titleEnd? s close fuel rest

/-- What follows a title. -/
def title? (s : Surroundings) (t : Text) : Option Text :=
  match t with
  | '"' :: rest => titleEnd? s '"' (rest.length + 1) rest
  | '\'' :: rest => titleEnd? s '\'' (rest.length + 1) rest
  | '(' :: rest => titleEnd? s ')' (rest.length + 1) rest
  | _ => none

/-- What follows the title of a definition, if it has one. A title that cannot be read is left to
the next line, if it stands there. -/
def afterDestination? (s : Surroundings) (t : Text) : Option Text :=
  match partSpace? s t with
  | none => some t
  | some (next, broken) =>
    if next.length == t.length && !broken then none
    else
      match (title? s next).filter isBlankLine with
      | some after => some after
      | none => if broken then some t else none

/-- What follows a link reference definition. -/
def reference? (s : Surroundings) (t : Text) : Option Text :=
  match t with
  | '[' :: rest => do
    match ← label? (labelBreak? s) rest with
    | ':' :: after =>
      let (next, _) ← partSpace? s after
      afterDestination? s (← destination? next)
    | _ => none
  | _ => none

end TranscriptLint.Markdown
