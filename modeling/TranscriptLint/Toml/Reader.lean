import TranscriptLint.Toml.Scalar

namespace TranscriptLint.Toml

/-!
# Reading TOML

* `Reader.value?` reads a value, `Reader.document?` a document.
* `Toml.read?` accepts a text that is a document, with or without a byte order mark.
-/

namespace Reader

/-! ## Blanks, comments and line ends -/

/-- The text without the blanks at its beginning. -/
def skipBlanks (t : Text) : Text := t.dropWhile fun c => c == ' ' || c == '\t'

/-- Whether a character may stand in comments and strings. -/
def isPlain (c : Char) : Bool := c == '\t' || (' ' ≤ c && c != '\x7f')

/-- What follows a comment, if there is one. -/
def skipComment (t : Text) : Text :=
  match t with
  | '#' :: rest => rest.dropWhile isPlain
  | _ => t

/-- What follows a line end. -/
def newline? : Text → Option Text
  | '\n' :: rest => some rest
  | '\r' :: '\n' :: rest => some rest
  | _ => none

/-- What follows the rest of a line that holds nothing more. -/
def endOfLine? (t : Text) : Option Text :=
  match skipComment (skipBlanks t) with
  | [] => some []
  | rest => newline? rest

/-- The text without blanks, comments and line ends at its beginning. -/
def skipGaps : Nat → Text → Text
  | 0, t => t
  | fuel + 1, t =>
    let rest := skipComment (skipBlanks t)
    match newline? rest with
    | some next => skipGaps fuel next
    | none => rest

/-! ## Strings -/

/-- The character of a code point. -/
def scalarValue? (n : Nat) : Option Char :=
  if n < 0xD800 || (0xE000 ≤ n && n < 0x110000) then some (Char.ofNat n) else none

/-- The character that `n` hexadecimal digits stand for, and what follows them. -/
def hexEscape? (n : Nat) (t : Text) : Option (Char × Text) := do
  let ds := t.take n
  if ds.length == n && ds.all fun c => (Text.hexDigit? c).isSome then
    return (← scalarValue? (valueIn 16 ds), t.drop n)
  else none

/-- The character of an escape, and what follows it. -/
def escape? : Text → Option (Char × Text)
  | [] => none
  | c :: rest =>
    match c with
    | 'b' => some ('\x08', rest)
    | 't' => some ('\t', rest)
    | 'n' => some ('\n', rest)
    | 'f' => some ('\x0c', rest)
    | 'r' => some ('\r', rest)
    | 'e' => some ('\x1b', rest)
    | '"' => some ('"', rest)
    | '\\' => some ('\\', rest)
    | 'x' => hexEscape? 2 rest
    | 'u' => hexEscape? 4 rest
    | 'U' => hexEscape? 8 rest
    | _ => none

/-- The content of a string on one line and what follows its closing quote. -/
def lineString? (quote : Char) : Nat → Text → Option (Text × Text)
  | 0, _ => none
  | _, [] => none
  | fuel + 1, c :: rest =>
    if c == quote then some ([], rest)
    else if c == '\\' && quote == '"' then do
      let (d, rest) ← escape? rest
      let (content, rest) ← lineString? quote fuel rest
      return (d :: content, rest)
    else if isPlain c then do
      let (content, rest) ← lineString? quote fuel rest
      return (c :: content, rest)
    else none

/-- The text without blanks and line ends at its beginning. -/
def skipLines : Nat → Text → Text
  | 0, t => t
  | fuel + 1, t =>
    let rest := skipBlanks t
    match newline? rest with
    | some next => skipLines fuel next
    | none => rest

/-- What follows a backslash that ends a line: all blanks and line ends up to the next content. -/
def lineContinuation? (t : Text) : Option Text :=
  (newline? (skipBlanks t)).map fun rest => skipLines (rest.length + 1) rest

/-- The content of a string over several lines and what follows its closing quotes. Up to two
quotes may stand right before them. -/
def blockString? (quote : Char) : Nat → Text → Option (Text × Text)
  | 0, _ => none
  | _, [] => none
  | fuel + 1, c :: rest =>
    if c == quote && rest.head? == some quote && (rest.drop 1).head? == some quote then
      let run := min ((c :: rest).takeWhile (· == quote)).length 5
      some (List.replicate (run - 3) quote, (c :: rest).drop run)
    else if c == '\\' && quote == '"' then
      match lineContinuation? rest with
      | some rest => blockString? quote fuel rest
      | none => do
        let (d, rest) ← escape? rest
        let (content, rest) ← blockString? quote fuel rest
        return (d :: content, rest)
    else if c == '\n' || isPlain c || (c == '\r' && rest.head? == some '\n') then do
      let (content, rest) ← blockString? quote fuel rest
      return (c :: content, rest)
    else none

/-- The content of a string that may span lines, given what follows its first quote. -/
def string? (quote : Char) (t : Text) : Option (Text × Text) :=
  match Text.after? t [quote, quote] with
  | some body => blockString? quote (body.length + 1) ((newline? body).getD body)
  | none => lineString? quote (t.length + 1) t

/-! ## Keys -/

/-- Whether a character can stand in a key without quotes. -/
def isKeyChar (c : Char) : Bool := c.isAlphanum || c == '_' || c == '-'

/-- One part of a key, and what follows it. -/
def keyPart? (t : Text) : Option (Text × Text) :=
  match t with
  | '"' :: rest => lineString? '"' (rest.length + 1) rest
  | '\'' :: rest => lineString? '\'' (rest.length + 1) rest
  | _ =>
    let key := t.takeWhile isKeyChar
    if key.isEmpty then none else some (key, t.drop key.length)

/-- The parts of a key, and what follows it and the blanks after it. -/
def keyParts? : Nat → Text → Option (List Text × Text)
  | 0, _ => none
  | fuel + 1, t => do
    let (part, rest) ← keyPart? (skipBlanks t)
    match skipBlanks rest with
    | '.' :: rest =>
      let (parts, rest) ← keyParts? fuel rest
      return (part :: parts, rest)
    | rest => return ([part], rest)

/-- How deep values may be nested, and how many parts a key may have. -/
def maxDepth : Nat := 80

/-- A key, and what follows it and the blanks after it. -/
def key? (t : Text) : Option (List Text × Text) :=
  (keyParts? (t.length + 1) t).filter fun r => r.1.length ≤ maxDepth

/-! ## Values -/

mutual

/-- A value inside `depth` others, and what follows it. -/
def value? : Nat → Nat → Text → Option (Toml × Text)
  | 0, _, _ => none
  | fuel + 1, depth, t =>
    match t with
    | '"' :: rest => (string? '"' rest).map fun r => (.string r.1, r.2)
    | '\'' :: rest => (string? '\'' rest).map fun r => (.string r.1, r.2)
    | '[' :: rest =>
      if maxDepth ≤ depth then none
      else
        (items? fuel (depth + 1) (skipGaps (rest.length + 1) rest)).map fun r =>
          (.array r.1, r.2)
    | '\x7b' :: rest =>
      if maxDepth ≤ depth then none
      else
        (members? fuel (depth + 1) [] (skipGaps (rest.length + 1) rest)).map fun r =>
          (.table (freezeEntries r.1), r.2)
    | _ =>
      let (word, rest) := scalarWord t
      (scalar? word).map fun v => (v, rest)

/-- The items of an array up to its end, and what follows it. -/
def items? : Nat → Nat → Text → Option (List Toml × Text)
  | 0, _, _ => none
  | fuel + 1, depth, t =>
    match t with
    | ']' :: rest => some ([], rest)
    | _ => do
      let (v, rest) ← value? fuel depth t
      match skipGaps (rest.length + 1) rest with
      | ',' :: rest =>
        let (vs, rest) ← items? fuel depth (skipGaps (rest.length + 1) rest)
        return (v :: vs, rest)
      | ']' :: rest => return ([v], rest)
      | _ => none

/-- The members of a table in braces up to its end, added to `es`, and what follows it. -/
def members? : Nat → Nat → Entries → Text → Option (Entries × Text)
  | 0, _, _, _ => none
  | fuel + 1, depth, es, t =>
    match t with
    | '\x7d' :: rest => some (es, rest)
    | _ => do
      let (path, rest) ← key? t
      match skipGaps (rest.length + 1) rest with
      | '=' :: rest =>
        let (v, rest) ← value? fuel depth (skipGaps (rest.length + 1) rest)
        let es ← Entries.insert? v path es
        match skipGaps (rest.length + 1) rest with
        | ',' :: rest => members? fuel depth es (skipGaps (rest.length + 1) rest)
        | '\x7d' :: rest => some (es, rest)
        | _ => none
      | _ => none

end

/-! ## Documents -/

/-- A document while it is read: its entries, and the path of the table that lines add to. -/
structure Draft where
  entries : Entries := []
  current : List Text := []

/-- Adds a value to the current table. -/
def Draft.insert? (d : Draft) (path : List Text) (v : Toml) : Option Draft :=
  (d.entries.modifyAt? (Entries.insert? v path) d.current).map fun es => { d with entries := es }

/-- Opens the table of a header. -/
def Draft.open? (d : Draft) (path : List Text) (declare : Text → Entries → Option Entries) :
    Option Draft := do
  let last ← path.getLast?
  return ⟨← d.entries.modifyAt? (declare last) path.dropLast, path⟩

/-- Reads a header or a key with its value, and what follows it. -/
def expression? (d : Draft) (t : Text) : Option (Draft × Text) :=
  match t with
  | '[' :: '[' :: rest => do
    let (path, rest) ← key? rest
    return (← d.open? path Entries.declareItem?, ← Text.after? rest "]]".toList)
  | '[' :: rest => do
    let (path, rest) ← key? rest
    return (← d.open? path Entries.declare?, ← pass? ']' rest)
  | _ => do
    let (path, rest) ← key? t
    let (v, rest) ← value? (t.length + 1) 0 (skipBlanks (← pass? '=' rest))
    return (← d.insert? path v, rest)

/-- Reads the lines of a document. -/
def document? : Nat → Draft → Text → Option Draft
  | 0, _, _ => none
  | fuel + 1, d, t =>
    if t.isEmpty then some d
    else
      match endOfLine? t with
      | some rest => document? fuel d rest
      | none => do
        let (d, rest) ← expression? d (skipBlanks t)
        document? fuel d (← endOfLine? rest)

end Reader

/-- Reads a document. -/
def read? (t : Text) : Option Toml :=
  let t := match t with
    | '\uFEFF' :: rest => rest
    | _ => t
  (Reader.document? (t.length + 1) {} t).map fun d => .table (freezeEntries d.entries)

end TranscriptLint.Toml
