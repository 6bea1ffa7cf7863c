import TranscriptLint.Regex.CharSet

namespace TranscriptLint

/-!
# Regular expressions

A regular expression stands for pieces of a text, seen from a place in it: anchors look at what
stands next to the place.

* `Regex.reach` lists the places where pieces from given places can end.
* `Regex.occursIn` says whether there is such a piece at all.
-/

namespace Regex

/-- A place in a text. -/
structure Place where
  /-- The character before the place. -/
  before : Option Char := none
  /-- What follows the place. -/
  rest : Text
deriving DecidableEq, Repr

namespace Place

/-- The character after a place. -/
def next (p : Place) : Option Char := p.rest.head?

/-- The places of a text from one place on. -/
def onwards (before : Option Char) : Text → List Place
  | [] => [⟨before, []⟩]
  | c :: t => ⟨before, c :: t⟩ :: onwards (some c) t

end Place

/-- What an anchor asks of a place. -/
inductive Anchor where
  | textStart
  | textEnd
  /-- The start of a line; `crlf` lets carriage returns end lines too. -/
  | lineStart (crlf : Bool)
  | lineEnd (crlf : Bool)
  /-- Between a character of a word and another character. -/
  | boundary (ascii : Bool)
  | noBoundary (ascii : Bool)
  | wordStart (ascii : Bool)
  | wordEnd (ascii : Bool)
  /-- No character of a word stands before the place. -/
  | noWordBefore (ascii : Bool)
  /-- No character of a word stands after the place. -/
  | noWordAfter (ascii : Bool)
deriving DecidableEq, Repr

namespace Anchor

/-- Whether a character is there and part of a word. -/
def isWord (ascii : Bool) (c : Option Char) : Bool :=
  c.any (if ascii then CharSet.asciiWord else CharSet.word).has

/-- Whether an anchor holds at a place. -/
def holds (a : Anchor) (p : Place) : Bool :=
  match a with
  | .textStart => p.before.isNone
  | .textEnd => p.next.isNone
  | .lineStart crlf =>
    p.before.isNone || p.before == some '\n' ||
      (crlf && p.before == some '\r' && p.next != some '\n')
  | .lineEnd crlf =>
    p.next.isNone ||
      (if crlf then p.next == some '\r' || (p.next == some '\n' && p.before != some '\r')
       else p.next == some '\n')
  | .boundary a => isWord a p.before != isWord a p.next
  | .noBoundary a => isWord a p.before == isWord a p.next
  | .wordStart a => !isWord a p.before && isWord a p.next
  | .wordEnd a => isWord a p.before && !isWord a p.next
  | .noWordBefore a => !isWord a p.before
  | .noWordAfter a => !isWord a p.next

end Anchor

end Regex

/-- A regular expression. -/
inductive Regex where
  | empty
  | one (s : CharSet)
  | anchor (a : Regex.Anchor)
  | seq (a b : Regex)
  | either (a b : Regex)
  /-- At least `least` copies, and at most `most` if there is a bound. -/
  | repeated (r : Regex) (least : Nat) (most : Option Nat)
deriving DecidableEq, Repr

namespace Regex

/-- The places of two lists. -/
def merge (ps qs : List Place) : List Place := ps ++ qs.filter fun q => q ∉ ps

/-- What `n` steps lead to. -/
def steps {α : Type} (f : α → α) : Nat → α → α
  | 0, x => x
  | n + 1, x => steps f n (f x)

/-- The places that at most `n` steps lead to. Those of `latest` were reached last, so that only
they can lead to further ones. -/
def grow (f : List Place → List Place) : Nat → List Place → List Place → List Place
  | 0, _, known => known
  | n + 1, latest, known =>
    let further := (f latest).filter fun q => q ∉ known
    if further.isEmpty then known else grow f n further (known ++ further)

/-- One more than the number of characters after the first of some places. -/
def enough (ps : List Place) : Nat := ps.foldl (fun n p => max n p.rest.length) 0 + 1

/-- The places where pieces can end that begin at one of some places. Among copies there are no
more that are not empty than there are characters, and one empty copy does as well as many, so that
`enough` copies do as well as more. -/
def reach : Regex → List Place → List Place
  | .empty, ps => ps
  | .one s, ps => ps.filterMap fun p =>
    match p.rest with
    | c :: t => if s.has c then some ⟨some c, t⟩ else none
    | [] => none
  | .anchor a, ps => ps.filter a.holds
  | .seq a b, ps => b.reach (a.reach ps)
  | .either a b, ps => merge (a.reach ps) (b.reach ps)
  | .repeated r least most, ps =>
    let first := steps (fun qs => r.reach qs) (min least (enough ps)) ps
    let further := match most with
      | some m => min (m - least) (enough ps)
      | none => enough ps
    grow (fun qs => r.reach qs) further first first

/-- Whether a regular expression stands for a piece of a text. -/
def occursIn (r : Regex) (t : Text) : Bool := !(r.reach (Place.onwards none t)).isEmpty

/-- The empty piece is found in every text. -/
theorem empty_occursIn (t : Text) : Regex.empty.occursIn t = true := by
  cases t <;> simp [occursIn, Place.onwards, reach]

end Regex
end TranscriptLint
