import TranscriptLint.Json.Basic

namespace TranscriptLint.Json

/-!
# Writing JSON

Values are written over several lines, indented by two spaces a level; an empty array or object is
written on one line. In strings only the quote, the backslash and the control characters below
U+0020 are escaped.
-/

namespace Writer

/-- A digit of a `\u` escape, in lower case. -/
def hexDigit (n : Nat) : Char := Nat.digitChar n

/-- A character of a string as it is written. -/
def escapeChar (c : Char) : Text :=
  if c = '"' then "\\\"".toList
  else if c = '\\' then "\\\\".toList
  else if c = '\n' then "\\n".toList
  else if c = '\r' then "\\r".toList
  else if c = '\t' then "\\t".toList
  else if c = '\x08' then "\\b".toList
  else if c = '\x0c' then "\\f".toList
  else if c < ' ' then "\\u00".toList ++ [hexDigit (c.toNat / 16), hexDigit (c.toNat % 16)]
  else [c]

/-- A string as it is written, with its quotes. -/
def quote (t : Text) : Text := '"' :: t.flatMap escapeChar ++ ['"']

/-- The start of a line at a level of nesting. -/
def newline (level : Nat) : Text := '\n' :: List.replicate (2 * level) ' '

/-- The items of a container, each on lines of its own, between the two marks. -/
def enclose (first last : Char) (level : Nat) (items : List Text) : Text :=
  if items.isEmpty then [first, last]
  else
    first :: newline (level + 1) ++
      Text.joinWith (',' :: newline (level + 1)) items ++ newline level ++ [last]

mutual

/-- A value at a level of nesting. -/
def value (level : Nat) : Json → Text
  | .null => "null".toList
  | .bool true => "true".toList
  | .bool false => "false".toList
  | .number literal => literal
  | .string t => quote t
  | .brokenString => quote []
  | .array items => enclose '[' ']' level (values (level + 1) items)
  | .object ms => enclose '\x7b' '\x7d' level (members (level + 1) ms)

/-- The items of an array. -/
def values (level : Nat) : List Json → List Text
  | [] => []
  | v :: vs => value level v :: values level vs

/-- The members of an object. -/
def members (level : Nat) : List (Option Text × Json) → List Text
  | [] => []
  | (key, v) :: ms =>
    (quote (key.getD []) ++ ": ".toList ++ value level v) :: members level ms

end

end Writer

/-- The text of a value. -/
def pretty (v : Json) : Text := Writer.value 0 v

end TranscriptLint.Json
