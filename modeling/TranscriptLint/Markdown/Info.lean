import TranscriptLint.Markdown.Container
import TranscriptLint.Markdown.ReferenceTable

namespace TranscriptLint.Markdown

/-!
# Info strings

The text after an opening fence may hold backslash escapes and character references. The first word
of what they stand for is the language of the block.
-/

/-! ## Character references -/

/-- The value of hexadecimal digits. -/
def hexValue (digits : Text) : Nat :=
  digits.foldl (fun n c => 16 * n + (Text.hexDigit? c).getD 0) 0

/-- The character of a code point; the replacement character if it is none. -/
def charOfCode (n : Nat) : Char :=
  if n == 0 || (0xD800 ≤ n && n < 0xE000) || 0x110000 ≤ n then '\uFFFD' else Char.ofNat n

/-- The text that a named reference stands for. -/
def namedReference? (name : Text) : Option Text :=
  (referenceTable.flatMap fun row => Text.splitOn ' ' row.toList).findSome? fun entry =>
    match Text.after? entry (name ++ ['=']) with
    | some codes => some ((Text.splitOn '+' codes).map fun c => Char.ofNat (hexValue c))
    | none => none

/-- The text that digits stand for in a numeric reference, of which there may be at most `most`, and
what follows the semicolon. -/
def numericReference? (isDigit : Char → Bool) (value : Text → Nat) (most : Nat) (t : Text) :
    Option (Text × Text) :=
  let digits := (t.takeWhile isDigit).take most
  match t.drop digits.length with
  | ';' :: rest => if digits.isEmpty then none else some ([charOfCode (value digits)], rest)
  | _ => none

/-- The text of a reference and what follows it, given what follows its ampersand. -/
def reference : Text → Option (Text × Text)
  | '#' :: 'x' :: t | '#' :: 'X' :: t =>
    numericReference? (fun c => (Text.hexDigit? c).isSome) hexValue 6 t
  | '#' :: t => numericReference? Char.isDigit Text.decimalValue 7 t
  | t =>
    let name := t.takeWhile Char.isAlphanum
    match t.drop name.length with
    | ';' :: rest => (namedReference? name).map fun value => (value, rest)
    | _ => none

/-- The text that an info string stands for. -/
def unescape : Nat → Text → Text
  | 0, _ => []
  | _, [] => []
  | fuel + 1, c :: rest =>
    if c == '\r' then unescape fuel rest
    else if c == '\\' then
      match rest with
      | d :: rest' => if isPunctuation d then d :: unescape fuel rest' else c :: unescape fuel rest
      | [] => [c]
    else if c == '&' then
      match reference rest with
      | some (value, rest') => value ++ unescape fuel rest'
      | none => c :: unescape fuel rest
    else c :: unescape fuel rest

/-- The language that an info string names; empty if it names none. -/
def languageOf (info : Text) : Text := (unescape (info.length + 1) info).firstWord

end TranscriptLint.Markdown
