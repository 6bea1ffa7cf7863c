import TranscriptLint.Text.Utf8

namespace TranscriptLint

/-!
# Glob patterns

A pattern is made of parts, one after the other or as alternatives. A part takes some octets off the
beginning of a path, often in several ways (`GlobPart.rests`). A pattern matches a path if some way
of its parts leaves nothing.

* `Glob.read` reads a pattern, `Glob.Error` says why it can fail.
* `Glob.matches` matches whole paths.
-/

/-- A part of a pattern. Parts never match a separator unless they say so. -/
inductive GlobPart where
  | octet (b : UInt8)
  /-- One octet that is not a separator. -/
  | one
  /-- Any number of octets that are not separators. -/
  | many
  /-- One octet in one of the ranges, or in none of them. -/
  | oneOf (negated : Bool) (ranges : List (UInt8 × UInt8))
  /-- Any number of directories at the beginning of a path. -/
  | anyLead
  /-- A separator and anything below it. -/
  | anyBelow
  /-- A separator, or directories between two separators. -/
  | anyBetween
  /-- Anything. -/
  | anything
deriving DecidableEq, Repr

/-- The octet that separates the names of a path. -/
def separatorOctet : UInt8 := 0x2F

namespace GlobPart

/-- All ends of a list, from the list itself to the empty one. -/
def ends : List UInt8 → List (List UInt8)
  | [] => [[]]
  | b :: bs => (b :: bs) :: ends bs

/-- The ends of a list behind each of its separators. -/
def endsBehindSeparator : List UInt8 → List (List UInt8)
  | [] => []
  | b :: bs =>
    if b == separatorOctet then bs :: endsBehindSeparator bs else endsBehindSeparator bs

/-- The ends of a list behind runs without a separator. -/
def endsBeforeSeparator : List UInt8 → List (List UInt8)
  | [] => [[]]
  | b :: bs =>
    (b :: bs) :: if b == separatorOctet then [] else endsBeforeSeparator bs

/-- What can follow a part that was taken off the beginning of a path. -/
def rests (p : GlobPart) (path : List UInt8) : List (List UInt8) :=
  match p, path with
  | .octet b, c :: rest => if b == c then [rest] else []
  | .one, c :: rest => if c == separatorOctet then [] else [rest]
  | .oneOf negated ranges, c :: rest =>
    if (ranges.any fun r => r.1 ≤ c && c ≤ r.2) != negated then [rest] else []
  | .many, path => endsBeforeSeparator path
  | .anyLead, path => path :: endsBehindSeparator path
  | .anyBelow, c :: rest => if c == separatorOctet then ends rest else []
  | .anyBetween, c :: rest =>
    if c == separatorOctet then rest :: endsBehindSeparator rest else []
  | .anything, path => ends path
  | _, [] => []

end GlobPart

/-- A pattern. -/
inductive Glob where
  | empty
  | part (p : GlobPart)
  | seq (a b : Glob)
  | either (a b : Glob)
deriving DecidableEq, Repr

namespace Glob

/-- What can follow a pattern that was taken off the beginning of one of some paths. -/
def rests : Glob → List (List UInt8) → List (List UInt8)
  | .empty, paths => paths
  | .part p, paths => (paths.flatMap p.rests).eraseDups
  | .seq a b, paths => b.rests (a.rests paths)
  | .either a b, paths => (a.rests paths ++ b.rests paths).eraseDups

/-- Whether a pattern matches a whole path. -/
def matchesBytes (g : Glob) (path : List UInt8) : Bool := (g.rests [path]).any List.isEmpty

/-- Whether a pattern matches a whole path. -/
def «matches» (g : Glob) (path : Text) : Bool := g.matchesBytes path.utf8

/-! ## Reading patterns -/

/-- Why a pattern cannot be read. -/
inductive Error where
  | unclosedClass
  | invalidRange (low high : Char)
  | unopenedAlternates
  | unclosedAlternates
  | danglingEscape
deriving DecidableEq, Repr

/-- The wording of a pattern error. -/
def Error.message : Error → Text
  | .unclosedClass => "unclosed character class; missing ']'".toList
  | .invalidRange low high =>
    "invalid range; '".toList ++ [low] ++ "' > '".toList ++ [high] ++ "'".toList
  | .unopenedAlternates =>
    "unopened alternate group; missing '\x7b' (maybe escape '\x7d' with '[\x7d]'?)".toList
  | .unclosedAlternates =>
    "unclosed alternate group; missing '\x7d' (maybe escape '\x7b' with '[\x7b]'?)".toList
  | .danglingEscape => "dangling '\\'".toList

/-- A group of alternatives that is being read. -/
structure Group where
  /-- The alternatives that are complete. -/
  complete : List Glob := []
  /-- The pieces of the current alternative, the latest first. -/
  current : List Glob := []
  /-- Whether something was read for the current alternative. -/
  started : Bool := false
deriving Repr

/-- The pattern of pieces that follow each other, the latest first. -/
def ofPieces : List Glob → Glob
  | [] => .empty
  | g :: gs => gs.foldl (fun later earlier => .seq earlier later) g

/-- The reader: the open groups, innermost first, and the character before. -/
structure Reader where
  group : Group := {}
  outer : List Group := []
  previous : Option Char := none
deriving Repr

namespace Reader

/-- Adds parts to the current alternative. -/
def add (r : Reader) (parts : List GlobPart) : Reader :=
  { r with group := { r.group with
      current := (parts.map .part).reverse ++ r.group.current, started := true } }

/-- Adds a character. -/
def addChar (r : Reader) (c : Char) : Reader := r.add ((Text.utf8 [c]).map .octet)

/-- Whether the current alternative has just begun. -/
def isFresh (r : Reader) : Bool := !r.group.started

/-- Whether the reader is inside a group. -/
def inGroup (r : Reader) : Bool := !r.outer.isEmpty

/-- Replaces the last piece, which is a separator or stands for one. -/
def replaceLast (r : Reader) (p : GlobPart) : Reader :=
  { r with group := { r.group with current := match r.group.current with
      | .part .anyLead :: gs => .part .anyLead :: gs
      | .part .anyBelow :: gs => .part .anyBelow :: gs
      | _ :: gs => .part p :: gs
      | [] => [] } }

/-- Ends the current alternative. Empty alternatives do not count. -/
def endAlternative (g : Group) : List Glob :=
  if g.current.isEmpty then g.complete else g.complete ++ [ofPieces g.current]

/-- Opens a group. -/
def openGroup (r : Reader) : Reader := { r with group := {}, outer := r.group :: r.outer }

/-- Begins the next alternative of a group. -/
def nextAlternative (r : Reader) : Reader :=
  { r with group := { complete := endAlternative r.group } }

/-- Closes a group, which becomes a piece of the alternative around it. -/
def closeGroup? (r : Reader) : Option Reader :=
  match r.outer with
  | [] => none
  | around :: outer =>
    let current := match endAlternative r.group with
      | [] => around.current
      | g :: gs => gs.foldl .either g :: around.current
    some { r with group := { around with current, started := true }, outer }

end Reader

/-- A class of characters while it is read. -/
structure ClassRanges where
  /-- The ranges so far, newest first. -/
  ranges : List (Char × Char) := []
  /-- Whether a hyphen has been read that may join two characters. -/
  joining : Bool := false
deriving Repr

/-- Adds a character to a class. -/
def ClassRanges.add (k : ClassRanges) (c : Char) : Except Error ClassRanges :=
  match k.joining, k.ranges with
  | true, (low, _) :: rest =>
    if c < low then .error (.invalidRange low c) else .ok { ranges := (low, c) :: rest }
  | _, _ => .ok { ranges := (c, c) :: k.ranges }

/-- Reads the characters of a class up to its closing bracket; none if there is no such bracket. -/
def classBody (isFirst : Bool) (k : ClassRanges) :
    Text → Except Error (Option (List (Char × Char) × Text))
  | [] => .ok none
  | c :: rest =>
    if c == ']' && !isFirst then
      let ranges := if k.joining then ('-', '-') :: k.ranges else k.ranges
      .ok (some (ranges.reverse, rest))
    else if c == '-' && !isFirst && !k.joining then
      classBody false { k with joining := true } rest
    else
      match k.add c with
      | .error e => .error e
      | .ok k => classBody false k rest

/-- The octet ranges of a character range: the octets of its two ends, joined where they meet. -/
def octetRanges (r : Char × Char) : List (UInt8 × UInt8) :=
  let low := Text.utf8 [r.1]
  let high := Text.utf8 [r.2]
  if r.1 == r.2 then low.map fun b => (b, b)
  else
    low.dropLast.map (fun b => (b, b)) ++ [(low.getLastD 0, high.headD 0)] ++
      high.tail.map fun b => (b, b)

/-- Reads a class after its opening bracket. -/
def readClass (t : Text) : Except Error (Option (GlobPart × Text)) :=
  let (negated, body) := match t with
    | '!' :: rest | '^' :: rest => (true, rest)
    | _ => (false, t)
  match classBody true {} body with
  | .error e => .error e
  | .ok none => .ok none
  | .ok (some (ranges, rest)) => .ok (some (.oneOf negated (ranges.flatMap octetRanges), rest))

/-- Reads two asterisks, given what follows them. They stand for directories only between
separators, and the separator after them is then read with them. -/
def readDoubleStar (r : Reader) (rest : Text) : Reader × Text :=
  let star (r : Reader) : Reader := { r with previous := some '*' }
  let slash (r : Reader) : Reader := { r with previous := some '/' }
  let plain := (star (r.add [.many, .many]), rest)
  if r.isFresh then
    match rest with
    | [] => (star (r.add [.anyLead]), [])
    | '/' :: rest => (slash (r.add [.anyLead]), rest)
    | _ => plain
  else if r.previous != some '/' &&
      !(r.inGroup && (r.previous == some ',' || r.previous == some '\x7b')) then plain
  else
    match rest with
    | [] => (star (r.replaceLast .anyBelow), [])
    | '/' :: rest => (slash (r.replaceLast .anyBetween), rest)
    | c :: _ =>
      if r.inGroup && (c == ',' || c == '\x7d') then (star (r.replaceLast .anyBelow), rest)
      else plain

/-- Reads the characters of a pattern. `openClass` says that a bracket which opens no class stands
for itself, together with all brackets after it; `literal` that such a bracket was seen. -/
def readFrom (openClass : Bool) : Nat → Bool → Reader → Text → Except Error Reader
  | 0, _, r, _ => .ok r
  | _, _, r, [] => .ok r
  | fuel + 1, literal, r, c :: rest =>
    let go (r : Reader) (rest : Text) := readFrom openClass fuel literal r rest
    let next (r : Reader) : Reader := { r with previous := some c }
    match c with
    | '?' => go (next (r.add [.one])) rest
    | '*' =>
      match rest with
      | '*' :: rest =>
        let (r, rest) := readDoubleStar r rest
        go r rest
      | _ => go (next (r.add [.many])) rest
    | '[' =>
      if literal then go (next (r.addChar c)) rest
      else
        match readClass rest with
        | .error e => .error e
        | .ok (some (p, rest)) => go { r.add [p] with previous := some ']' } rest
        | .ok none =>
          if openClass then readFrom openClass fuel true (next (r.addChar c)) rest
          else .error .unclosedClass
    | '\x7b' => go (next r.openGroup) rest
    | '\x7d' =>
      match r.closeGroup? with
      | none => .error .unopenedAlternates
      | some r => go (next r) rest
    | ',' => go (next (if r.inGroup then r.nextAlternative else r.addChar c)) rest
    | '\\' =>
      match rest with
      | [] => .error .danglingEscape
      | d :: rest => go { r.addChar d with previous := some d } rest
    | c => go (next (r.addChar c)) rest

/-- Reads a pattern. One that is nothing but directories at the beginning, without groups, matches
anything. -/
def read (openClass : Bool) (t : Text) : Except Error Glob :=
  match readFrom openClass (t.length + 1) false {} t with
  | .error e => .error e
  | .ok r =>
    if r.inGroup then .error .unclosedAlternates
    else if r.group.current == [.part .anyLead] && !t.contains '\x7b' then .ok (.part .anything)
    else .ok (ofPieces r.group.current)

end Glob
end TranscriptLint
