import TranscriptLint.Text.Basic

namespace TranscriptLint

/-!
# Versions of the linter

* `Version.read?` reads a version with any suffix, `Version.text` writes one.
* `Version.ofOutput?` finds the version in what the linter says about itself.
* `Version.isSupported` compares with the oldest version that writes JSON.
-/

/-- A version of three numbers. -/
structure Version where
  major : Nat
  minor : Nat
  patch : Nat
deriving DecidableEq, Repr

namespace Version

/-- The greatest number that can stand in a version. -/
def maxNumber : Nat := 4294967295

/-- The number at the beginning of a piece; none when there is none or it is too large. -/
def number? (piece : Text) : Option Nat :=
  (Text.toNat? (piece.takeWhile Char.isDigit)).filter (· ≤ maxNumber)

/-- Reads a version. Leading `v`s and everything after the numbers are passed over; the third
number is zero when it is missing. -/
def read? (t : Text) : Option Version :=
  match Text.splitOn '.' (t.trim.dropWhile (· == 'v')) with
  | major :: minor :: rest => do
    return ⟨← number? major, ← number? minor, (rest.head?.bind number?).getD 0⟩
  | _ => none

/-- A version as it is written. -/
def text (v : Version) : Text :=
  Text.joinWith ".".toList [Text.ofNat v.major, Text.ofNat v.minor, Text.ofNat v.patch]

/-- The version in the first line of an output that starts with `version:`. -/
def ofOutput? (output : Text) : Option Version :=
  (output.lines.findSome? fun line => line.trim.after? "version:".toList).bind read?

/-- The order of versions: by the first number that differs. -/
def lt (v w : Version) : Bool :=
  v.major < w.major ||
    (v.major == w.major && (v.minor < w.minor || (v.minor == w.minor && v.patch < w.patch)))

/-- The oldest version of the linter that can be used. -/
def oldest : Version := ⟨0, 4, 0⟩

/-- Whether a version is new enough. -/
def isSupported (v : Version) : Bool := !v.lt oldest

end Version
end TranscriptLint
