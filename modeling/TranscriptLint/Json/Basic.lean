import TranscriptLint.Text.Basic

namespace TranscriptLint

/-!
# JSON values

A JSON value keeps what its reader may still have to judge: numbers keep their literal, and objects
keep their members in order, repeated keys included.
-/

/-- A JSON value. -/
inductive Json where
  | null
  | bool (b : Bool)
  /-- A number, as its literal. -/
  | number (literal : Text)
  | string (t : Text)
  /-- A string with an escape that names only half of a surrogate pair; it stands for no text. -/
  | brokenString
  | array (items : List Json)
  /-- An object with its members in order. A key that stands for no text is `none`. -/
  | object (members : List (Option Text × Json))
deriving Repr

namespace Json

/-- A whole number. -/
def ofNat (n : Nat) : Json := .number (Text.ofNat n)

/-- A string. -/
def ofString (s : String) : Json := .string s.toList

/-- An object with the given keys. -/
def ofMembers (members : List (String × Json)) : Json :=
  .object (members.map fun m => (some m.1.toList, m.2))

/-- An array of strings. -/
def ofTexts (ts : List Text) : Json := .array (ts.map .string)

end Json
end TranscriptLint
