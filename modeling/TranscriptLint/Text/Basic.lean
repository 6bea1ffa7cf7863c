namespace TranscriptLint

/-!
# Text

Text is the list of its characters, so that every operation on it is a list function and every
law about it is a law of lists. Columns and widths count characters.

* `Text.isWhite` is the Unicode property `White_Space`.
* `Text.lines` splits at line feeds; a carriage return before a line feed belongs to the ending.
* `splitOn` and `joinWith` split and join texts as the library does lists; they are inverse to each
  other when the separator is one character.
-/

/-- A text is the list of its characters. -/
abbrev Text := List Char

namespace Text

/-! ## Whitespace -/

/-- The ranges of code points with the Unicode property `White_Space`. -/
def whiteRanges : List (Nat × Nat) :=
  [(0x09, 0x0D), (0x20, 0x20), (0x85, 0x85), (0xA0, 0xA0), (0x1680, 0x1680), (0x2000, 0x200A),
   (0x2028, 0x2029), (0x202F, 0x202F), (0x205F, 0x205F), (0x3000, 0x3000)]

/-- Whether a character has the Unicode property `White_Space`. -/
def isWhite (c : Char) : Bool :=
  whiteRanges.any fun r => r.1 ≤ c.toNat && c.toNat ≤ r.2

/-- A text is blank when it holds nothing but whitespace. -/
def isBlank (t : Text) : Bool := t.all isWhite

/-- The text without its leading whitespace. -/
def trimStart (t : Text) : Text := t.dropWhile isWhite

/-- Drops the longest final run of elements that satisfy `p`. This is `List.rdropWhile` of Mathlib,
without which the program is built. -/
def dropEnd {α : Type} (p : α → Bool) (l : List α) : List α := (l.reverse.dropWhile p).reverse

/-- The text without its trailing whitespace. -/
def trimEnd (t : Text) : Text := dropEnd isWhite t

/-- The text without its leading and trailing whitespace. -/
def trim (t : Text) : Text := trimEnd (trimStart t)

/-- The first maximal run of characters that are not whitespace; empty if there is none. -/
def firstWord (t : Text) : Text := (trimStart t).takeWhile fun c => !isWhite c

/-! ## Searching and cutting -/

/-- Whether `t` begins with `p`. -/
def startsWith (t p : Text) : Bool := p.isPrefixOf t

/-- Whether `t` ends with `p`. -/
def endsWith (t p : Text) : Bool := p.isSuffixOf t

/-- What follows `p` in `t`, if `t` begins with `p`. -/
def after? : Text → Text → Option Text
  | t, [] => some t
  | [], _ :: _ => none
  | c :: t, d :: p => if c = d then after? t p else none

/-- The number of characters before the first occurrence of `p` in `t`. -/
def find? (p : Text) : Text → Option Nat
  | [] => if p.isEmpty then some 0 else none
  | c :: t => if startsWith (c :: t) p then some 0 else (find? p t).map (· + 1)

/-- Whether `p` occurs in `t`. -/
def occursIn (p t : Text) : Bool := (find? p t).isSome

-- A text is split like any list, into at least one piece.
export List (splitOn)

/-- The texts in order with `sep` between each two of them. -/
abbrev joinWith (sep : Text) (ts : List Text) : Text := sep.intercalate ts

/-- Splits at the last occurrence of `sep`: what stands before it and what stands after it. -/
def splitLast? (sep : Char) (t : Text) : Option (Text × Text) :=
  let tail := (t.reverse.takeWhile (· ≠ sep)).reverse
  if tail.length = t.length then none
  else some (t.take (t.length - tail.length - 1), tail)

/-! ## Lines -/

/-- A line's text without the carriage return that is part of its ending. -/
def chompReturn (t : Text) : Text :=
  if t.getLast? = some '\r' then t.dropLast else t

/-- The lines of a text. Each line feed ends a line, together with a carriage return right before
it; what follows the last line feed is a line of its own unless it is empty. -/
def lines (t : Text) : List Text :=
  let pieces : List Text := splitOn '\n' t
  pieces.dropLast.map chompReturn ++ pieces.getLast?.toList.filter fun last => !last.isEmpty

/-! ## Case and numbers -/

/-- ASCII letters in lower case; all other characters stay. -/
def lowerAscii (t : Text) : Text := t.map Char.toLower

/-- A number in decimal. -/
def ofNat (n : Nat) : Text := Nat.toDigits 10 n

/-- An integer in decimal, with a minus sign when it is negative. -/
def ofInt : Int → Text
  | .ofNat n => ofNat n
  | .negSucc n => '-' :: ofNat (n + 1)

/-- The value of a run of decimal digits. -/
def decimalValue (digits : Text) : Nat :=
  digits.foldl (fun n c => 10 * n + (c.toNat - '0'.toNat)) 0

/-- The value of a hexadecimal digit of either case. -/
def hexDigit? (c : Char) : Option Nat :=
  if c.isDigit then some (c.toNat - '0'.toNat)
  else if 'a' ≤ c && c ≤ 'f' then some (c.toNat - 'a'.toNat + 10)
  else if 'A' ≤ c && c ≤ 'F' then some (c.toNat - 'A'.toNat + 10)
  else none

/-- The number a non-empty run of decimal digits writes; nothing else is a number. -/
def toNat? (t : Text) : Option Nat :=
  if t.isEmpty || !t.all Char.isDigit then none else some (decimalValue t)

end Text
end TranscriptLint
