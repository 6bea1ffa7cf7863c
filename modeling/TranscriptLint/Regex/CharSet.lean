import TranscriptLint.Text.Fold
import TranscriptLint.Text.Word

namespace TranscriptLint

/-!
# Sets of characters

The sets that stand for one character of a regular expression.

* `CharSet.has` says what is in a set.
* `CharSet.ofName?` finds the sets with a name.
-/

/-- A set of characters. -/
inductive CharSet where
  /-- The characters from one to another. -/
  | range (first last : Char)
  /-- Decimal digits of every script. -/
  | digit
  /-- Whitespace. -/
  | white
  /-- Characters of words in every script. -/
  | word
  /-- The characters that are not in a set. -/
  | compl (s : CharSet)
  | union (s t : CharSet)
  /-- The characters that differ from one of a set in case only. -/
  | folded (s : CharSet)
deriving DecidableEq, Repr

namespace CharSet

/-- Whether a character is in a set. -/
def has : CharSet → Char → Bool
  | .range a b, c => a ≤ c && c ≤ b
  | .digit, c => Text.isDecimalDigit c
  | .white, c => Text.isWhite c
  | .word, c => Text.isWordChar c
  | .compl s, c => !s.has c
  | .union s t, c => s.has c || t.has c
  | .folded s, c => (Text.variants c).any fun d => s.has d

/-- The set of one character. -/
def single (c : Char) : CharSet := .range c c

/-- The set of all characters. -/
def all : CharSet := .range (Char.ofNat 0) (Char.ofNat 0x10FFFF)

/-- The set of no characters. -/
def none : CharSet := .compl all

/-- The characters of two sets. -/
def inter (s t : CharSet) : CharSet := .compl (.union (.compl s) (.compl t))

/-- The characters of one set that are not in another. -/
def diff (s t : CharSet) : CharSet := inter s (.compl t)

/-- The characters of just one of two sets. -/
def symmDiff (s t : CharSet) : CharSet := .union (diff s t) (diff t s)

/-- The characters in some ranges. -/
def ofRanges (ranges : List (Char × Char)) : CharSet :=
  ranges.foldl (fun s r => .union s (.range r.1 r.2)) none

/-- The complement of a set, if asked for. -/
def negatedIf (negated : Bool) (s : CharSet) : CharSet := if negated then .compl s else s

/-- The variants of a set in case, if asked for. -/
def foldedIf (folded : Bool) (s : CharSet) : CharSet := if folded then .folded s else s

/-- The digits of ASCII. -/
def asciiDigit : CharSet := .range '0' '9'

/-- The whitespace of ASCII. -/
def asciiWhite : CharSet := .union (.range '\t' '\r') (single ' ')

/-- The word characters of ASCII. -/
def asciiWord : CharSet := ofRanges [('0', '9'), ('A', 'Z'), ('_', '_'), ('a', 'z')]

/-- The sets of ASCII characters that have a name. -/
def named : List (Text × CharSet) :=
  [("alnum".toList, ofRanges [('0', '9'), ('A', 'Z'), ('a', 'z')]),
   ("alpha".toList, ofRanges [('A', 'Z'), ('a', 'z')]),
   ("ascii".toList, .range (Char.ofNat 0) '\x7f'),
   ("blank".toList, ofRanges [('\t', '\t'), (' ', ' ')]),
   ("cntrl".toList, ofRanges [(Char.ofNat 0, '\x1f'), ('\x7f', '\x7f')]),
   ("digit".toList, asciiDigit),
   ("graph".toList, .range '!' '~'),
   ("lower".toList, .range 'a' 'z'),
   ("print".toList, .range ' ' '~'),
   ("punct".toList, ofRanges [('!', '/'), (':', '@'), ('[', '\x60'), ('\x7b', '~')]),
   ("space".toList, asciiWhite),
   ("upper".toList, .range 'A' 'Z'),
   ("word".toList, asciiWord),
   ("xdigit".toList, ofRanges [('0', '9'), ('A', 'F'), ('a', 'f')])]

/-- The set of ASCII characters with a name. -/
def ofName? (name : Text) : Option CharSet := named.lookup name

/-- A set does not change under two complements. -/
theorem has_compl_compl (s : CharSet) (c : Char) : (CharSet.compl (.compl s)).has c = s.has c := by
  simp [has]

/-- An intersection holds what both of its sets hold. -/
theorem has_inter (s t : CharSet) (c : Char) : (inter s t).has c = (s.has c && t.has c) := by
  simp [inter, has]

end CharSet
end TranscriptLint
