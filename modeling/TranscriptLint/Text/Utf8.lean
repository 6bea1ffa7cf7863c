import TranscriptLint.Text.Basic

namespace TranscriptLint.Text

/-!
# UTF-8

One machine reads octets. It yields a character for each well-formed sequence and a gap for each
longest piece that only begins one.

* `decodeUtf8?` accepts texts without a gap.
* `decodeLossy` puts a replacement character in place of every gap.
-/

/-- The octets of a text. -/
def utf8 (t : Text) : List UInt8 := t.flatMap String.utf8EncodeChar

/-- What the decoder has read of a sequence. -/
inductive Utf8State where
  | start
  /-- In a sequence of value `value` so far. The next octet must lie between `low` and `high`, and
  `more` octets follow it. -/
  | owed (value low high more : Nat)
deriving DecidableEq, Repr

namespace Utf8State

/-- Reads the first octet of a sequence. -/
def begin (b : Nat) : List (Option Char) × Utf8State :=
  if b < 0x80 then ([some (Char.ofNat b)], .start)
  else if 0xC2 ≤ b && b ≤ 0xDF then ([], .owed (b - 0xC0) 0x80 0xBF 0)
  else if b = 0xE0 then ([], .owed 0 0xA0 0xBF 1)
  else if b = 0xED then ([], .owed 0xD 0x80 0x9F 1)
  else if 0xE1 ≤ b && b ≤ 0xEF then ([], .owed (b - 0xE0) 0x80 0xBF 1)
  else if b = 0xF0 then ([], .owed 0 0x90 0xBF 2)
  else if 0xF1 ≤ b && b ≤ 0xF3 then ([], .owed (b - 0xF0) 0x80 0xBF 2)
  else if b = 0xF4 then ([], .owed 4 0x80 0x8F 2)
  else ([none], .start)

/-- Reads one octet: what it completes, and the state after it. -/
def step (s : Utf8State) (b : Nat) : List (Option Char) × Utf8State :=
  match s with
  | .start => begin b
  | .owed value low high more =>
    if low ≤ b && b ≤ high then
      let value := value * 64 + (b - 0x80)
      if more = 0 then ([some (Char.ofNat value)], .start)
      else ([], .owed value 0x80 0xBF (more - 1))
    else
      let next := begin b
      (none :: next.1, next.2)

end Utf8State

/-- The characters and gaps that octets spell. -/
def utf8Parts : Utf8State → List UInt8 → List (Option Char)
  | .start, [] => []
  | .owed .., [] => [none]
  | s, b :: bs =>
    let next := s.step b.toNat
    next.1 ++ utf8Parts next.2 bs

/-- The text that octets spell; none if they are not well formed. -/
def decodeUtf8? (bs : List UInt8) : Option Text := (utf8Parts .start bs).mapM id

/-- The text that octets spell, with U+FFFD for every piece that is not well formed. -/
def decodeLossy (bs : List UInt8) : Text := (utf8Parts .start bs).map fun c => c.getD '\uFFFD'

end TranscriptLint.Text
