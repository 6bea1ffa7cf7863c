import TranscriptLint.Text.Basic

namespace TranscriptLint

/-!
# Paths

A path is kept as it was written and is compared by its components: repeated separators, inner `.`
components and a final separator do not matter, while a leading `.` does.

* `Path.components` is the view through which paths are compared (`Path.same`, `Path.le`).
* `Path.join`, `Path.parent?`, `Path.withExtension` and the like keep the written form of what they
  do not change.
-/

/-- One step of a path. -/
inductive Component where
  /-- The root directory, at the beginning of an absolute path. -/
  | root
  /-- A `.` at the beginning of a relative path. -/
  | here
  /-- A `..`. -/
  | up
  /-- A name. -/
  | name (n : Text)
deriving DecidableEq, Repr

namespace Component

/-- The rank of a component's kind in the order of paths. -/
def rank : Component → Nat
  | .root => 0
  | .here => 1
  | .up => 2
  | .name _ => 3

/-- Orders texts by their characters' code points. -/
def textLe : Text → Text → Bool
  | [], _ => true
  | _ :: _, [] => false
  | c :: t, d :: u => c.toNat < d.toNat || (c == d && textLe t u)

/-- The order of components: by kind, then names by their code points. -/
def le : Component → Component → Bool
  | .name n, .name m => textLe n m
  | a, b => a.rank ≤ b.rank

/-- A component as it is written. -/
def text : Component → Text
  | .root => "/".toList
  | .here => ".".toList
  | .up => "..".toList
  | .name n => n

end Component

/-- A path as it was written. -/
structure Path where
  text : Text
deriving DecidableEq, Repr

namespace Path

/-- The path a string writes. -/
def ofString (s : String) : Path := ⟨s.toList⟩

/-- Whether a path starts at the root directory. -/
def isAbsolute (p : Path) : Bool := p.text.head? == some '/'

/-- A piece between separators that adds nothing: an empty one or a single dot. -/
def isInert (piece : Text) : Bool := piece.isEmpty || piece == ".".toList

/-- The component a piece between separators stands for; inert pieces stand for none. -/
def pieceComponent (piece : Text) : Option Component :=
  if isInert piece then none else if piece == "..".toList then some .up else some (.name piece)

/-- The components of a path. -/
def components (p : Path) : List Component :=
  let pieces := Text.splitOn '/' p.text
  let first :=
    if p.isAbsolute then [.root] else if pieces.head? == some ".".toList then [.here] else []
  first ++ pieces.filterMap pieceComponent

/-- Whether two paths have the same components. -/
def same (p q : Path) : Bool := p.components == q.components

/-- The order of component lists, a shorter one first. -/
def componentsLe : List Component → List Component → Bool
  | [], _ => true
  | _ :: _, [] => false
  | a :: as, b :: bs => if a = b then componentsLe as bs else Component.le a b

/-- The order of paths: by components. -/
def le (p q : Path) : Bool := componentsLe p.components q.components

/-- Appends `q` below `p`; an absolute `q` takes the place of `p`. -/
def join (p q : Path) : Path :=
  if q.isAbsolute then q
  else if p.text.isEmpty || p.text.getLast? == some '/' then ⟨p.text ++ q.text⟩
  else ⟨p.text ++ '/' :: q.text⟩

/-- Appends one component. -/
def push (p : Path) (c : Component) : Path := p.join ⟨c.text⟩

/-- The pieces of a path up to the last one that stands for a component. -/
def corePieces (pieces : List Text) : List Text := Text.dropEnd isInert pieces

/-- The path without its last component; none for the empty path and for the root. -/
def parent? (p : Path) : Option Path :=
  let pieces := Text.splitOn '/' p.text
  let lead := if p.isAbsolute then "/".toList else ".".toList
  if p.isAbsolute || pieces.head? == some ".".toList then
    match corePieces pieces.tail with
    | [] => if p.isAbsolute then none else some ⟨[]⟩
    | body =>
      match corePieces body.dropLast with
      | [] => some ⟨lead⟩
      | rest => some ⟨(if p.isAbsolute then [] else lead) ++ '/' :: Text.joinWith "/".toList rest⟩
  else
    match corePieces pieces with
    | [] => none
    | body => some ⟨Text.joinWith "/".toList (corePieces body.dropLast)⟩

/-- The last name of a path and the text before it; none when the path does not end in a name. -/
def splitName? (p : Path) : Option (Text × Text) :=
  match (corePieces (Text.splitOn '/' p.text)).reverse with
  | [] => none
  | last :: before =>
    if last == "..".toList then none
    else
      let lead := if before.isEmpty then [] else Text.joinWith "/".toList before.reverse ++ ['/']
      some (lead, last)

/-- The last name of a path. -/
def fileName? (p : Path) : Option Text := p.splitName?.map Prod.snd

/-- Splits a file name before its last dot. A name with no dot but a leading one has no
extension. -/
def splitExtension (name : Text) : Text × Option Text :=
  match Text.splitLast? '.' name with
  | some (stem, ext) => if stem.isEmpty then (name, none) else (stem, some ext)
  | none => (name, none)

/-- What follows the last dot of the file name. -/
def extension? (p : Path) : Option Text := p.fileName?.bind fun n => (splitExtension n).2

/-- The path with another extension on its file name; unchanged when it has no file name. -/
def withExtension (p : Path) (ext : Text) : Path :=
  match p.splitName? with
  | none => p
  | some (lead, name) => ⟨lead ++ (splitExtension name).1 ++ '.' :: ext⟩

/-- The path without a leading `.` component; none when there is no such component. -/
def dropHere? (p : Path) : Option Path :=
  let pieces := Text.splitOn '/' p.text
  if !p.isAbsolute && pieces.head? == some ".".toList then
    some ⟨Text.joinWith "/".toList (corePieces (pieces.tail.dropWhile isInert))⟩
  else none

/-- The path below `base` that a path means, without `.` components; `..` components stay. Two
leading separators and a final one are kept. The empty path means nothing. -/
def absolute? (base p : Path) : Option Path :=
  if p.text.isEmpty then none
  else
    let steps := ((p.dropHere?).getD p).components
    let (start, steps) :=
      if !p.isAbsolute then (base, steps)
      else if p.text.startsWith "//".toList && !p.text.startsWith "///".toList then
        (ofString "//", steps.drop 1)
      else (⟨[]⟩, steps)
    let full := steps.foldl push start
    some (if p.text.getLast? == some '/' then full.join ⟨[]⟩ else full)

end Path
end TranscriptLint
