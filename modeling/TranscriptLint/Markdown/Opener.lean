import TranscriptLint.Markdown.Cursor

namespace TranscriptLint.Markdown

/-!
# How blocks begin

Recognisers for the beginnings of Markdown blocks. Each looks at what follows the indentation of a
line and decides without regard to the blocks around it.
-/

/-! ## Breaks and headings -/

/-- What follows a thematic break: three or more of the same mark with nothing but blanks between
and after them. -/
def thematicBreak? (t : Text) : Option Text :=
  match t with
  | [] => none
  | mark :: _ =>
    if mark == '*' || mark == '-' || mark == '_' then
      let row := t.takeWhile fun c => c == mark || c == ' ' || c == '\t'
      if 3 ≤ row.count mark then lineEnd? (t.drop row.length) else none
    else none

/-- Whether a line is a heading that starts with one to six number signs. -/
def isHeading (t : Text) : Bool :=
  let level := runLength '#' t
  1 ≤ level && level ≤ 6 &&
    match t.drop level with
    | [] => true
    | c :: _ => isAsciiWhite c

/-- What follows a heading, which takes its line. -/
def headingEnd (t : Text) : Text :=
  let content := t.drop (runLength '#' t)
  (lineEnd? content).getD (nextLine content)

/-- What follows the underline of a heading. -/
def underline? (t : Text) : Option Text :=
  match t with
  | [] => none
  | mark :: _ =>
    if mark == '=' || mark == '-' then blankLine? (t.drop (runLength mark t)) else none

/-! ## Code fences -/

/-- The opening of a fenced block. -/
structure FenceMark where
  mark : Char
  length : Nat
deriving DecidableEq, Repr

/-- The fence that a line opens with. A fence of grave accents has none of them in the rest of its
line. -/
def fenceMark? (t : Text) : Option FenceMark :=
  match t with
  | [] => none
  | mark :: _ =>
    let length := runLength mark t
    if mark == '~' && 3 ≤ length then some ⟨mark, length⟩
    else if mark == '\x60' && 3 ≤ length && !(restOfLine (t.drop length)).contains '\x60' then
      some ⟨mark, length⟩
    else none

/-- What follows a closing fence, up to the line end. The end of the text closes every fence. -/
def closingFence? (f : FenceMark) (t : Text) : Option Text :=
  if t.isEmpty then some []
  else
    let found := runLength f.mark t
    let rest := (t.drop found).dropWhile (· == ' ')
    if f.length ≤ found && (lineEnd? rest).isSome then some rest else none

/-! ## List items -/

/-- The mark of a list item: a bullet, or a number with the sign after it. -/
structure ListMark where
  /-- The bullet, or the sign after the number. -/
  sign : Char
  number : Nat
  /-- The number of characters. -/
  length : Nat
deriving DecidableEq, Repr

/-- Whether a character is a bullet. -/
def isBullet (c : Char) : Bool := c == '-' || c == '+' || c == '*'

/-- The list mark at the beginning of a text, whatever follows it. -/
def listMark? (t : Text) : Option ListMark :=
  match t with
  | [] => none
  | c :: _ =>
    if isBullet c then some ⟨c, 0, 1⟩
    else
      let digits := t.takeWhile Char.isDigit
      match t.drop digits.length with
      | [] => none
      | sign :: _ =>
        if !digits.isEmpty && digits.length ≤ 9 && (sign == '.' || sign == ')') then
          some ⟨sign, Text.decimalValue digits, digits.length + 1⟩
        else none

/-- Whether a text is at a blank or at the end of a line. -/
def atGap (t : Text) : Bool :=
  match t with
  | [] => true
  | c :: _ => c == ' ' || c == '\t' || c == '\n' || c == '\r'

/-- The list mark of a line: it must be followed by a blank or the end of the line. -/
def listItem? (t : Text) : Option ListMark :=
  (listMark? t).filter fun m => atGap (t.drop m.length)

/-- The cursor and the indentation after the mark of an item: up to four more columns belong to the
indentation, unless they make indented code. -/
def afterMark (c : Cursor) (indent : Nat) : Nat × Cursor :=
  if isBlankLine c.rest then (indent, c)
  else
    let (columns, next) := c.takeUpTo 4
    if columns < 4 then (indent + columns, next) else (indent, c)

/-- A list item that opens at a cursor, which stands `outer` columns deep: its mark, the
indentation of its content and the cursor at the content. -/
def itemStart? (outer : Nat) (c : Cursor) : Option (ListMark × Nat × Cursor) :=
  match listMark? c.rest with
  | none => none
  | some m =>
    if isBullet m.sign && (thematicBreak? c.rest).isSome then none
    else
      let behind := c.advance m.length
      let (missing, next) := behind.take 1
      if missing == 0 || next.atLineEnd then
        let (indent, content) := afterMark next (outer + m.length + 1)
        some (m, indent, content)
      else none

/-- A definition that opens at a cursor: the indentation of its content and the cursor there. No
blank has to follow the colon. -/
def definitionStart? (outer : Nat) (c : Cursor) : Option (Nat × Cursor) :=
  match c.rest with
  | ':' :: _ =>
    let (missing, next) := (c.advance 1).take 1
    some (if missing == 0 || next.atLineEnd then afterMark next (outer + 2) else (outer + 1, next))
  | _ => none

/-- The cursor after the box of a task, which a blank or the end of the line follows. -/
def taskBox? (c : Cursor) : Option Cursor :=
  let (indent, c) := c.takeUpTo 3
  match c.rest with
  | '[' :: mark :: ']' :: after :: _ =>
    if indent < 4 && (mark == 'x' || mark == 'X' || isLineBlank mark) && isAsciiWhite after then
      some (c.advance 3)
    else none
  | _ => none

/-! ## Quotes -/

/-- The cursor after the mark of a block quote and one blank. -/
def quoteMark? (c : Cursor) : Option Cursor :=
  match c.rest with
  | '>' :: _ => some ((c.advance 1).take 1).2
  | _ => none

/-- The kinds of alert that a block quote can be. -/
def alertTags : List Text :=
  ["[!NOTE]".toList, "[!TIP]".toList, "[!IMPORTANT]".toList, "[!WARNING]".toList,
   "[!CAUTION]".toList]

/-- What follows the line of an alert's tag. -/
def alertTag? (c : Cursor) : Option Text :=
  let rest := c.rest
  alertTags.findSome? fun tag =>
    if (rest.take tag.length).map Char.toUpper == tag then blankLine? (rest.drop tag.length)
    else none

/-! ## Tables -/

/-- The number of blanks at the beginning of a line and what follows them. -/
def leadingColumns (t : Text) : Nat × Text :=
  let (columns, c) := (Cursor.start t).takeUpTo 4
  (columns, c.rest)

/-- The columns of a delimiter row. `blank` says that the column has just begun, `hyphen` that a
hyphen was seen in it. -/
def delimiterCells (blank hyphen : Bool) : Text → Option Nat
  | [] => some (if blank then 0 else 1)
  | c :: rest =>
    if c == '\n' || c == '\r' then some (if blank then 0 else 1)
    else if c == ' ' then delimiterCells blank hyphen rest
    else if c == ':' then delimiterCells false hyphen rest
    else if c == '-' then delimiterCells false true rest
    else if c == '|' && hyphen then (delimiterCells true false rest).map (· + 1)
    else none

/-- The number of columns of a table's delimiter row. -/
def delimiterRow? (t : Text) : Option Nat :=
  let (columns, rest) := leadingColumns t
  if columns > 3 || rest.isEmpty then none
  else
    let row := rest.takeWhile fun c => c != '\n' && c != '\r'
    if row.contains '|' && row.contains '-' then
      delimiterCells true false (match row with
        | '|' :: cells => cells
        | _ => row)
    else none

/-- The number of bars in a line that have no backslash before them, and what follows the last of
them. -/
def bars (escaped : Bool) : Text → Nat × Option Text
  | [] => (0, none)
  | c :: rest =>
    if c == '\n' || c == '\r' then (0, none)
    else
      let (count, last) := bars (c == '\\') rest
      if c == '|' && !escaped then (count + 1, some (last.getD rest)) else (count, last)

/-- The number of columns of a table's first row; none when it has no bar. -/
def headColumns? (t : Text) : Option Nat :=
  match bars false t with
  | (_, none) => none
  | (count, some afterLast) =>
    let inner := if (skipBlanks t).head? == some '|' then count - 1 else count
    some (if isBlankLine afterLast then inner else inner + 1)

end TranscriptLint.Markdown
