import TranscriptLint.Text.Basic

namespace TranscriptLint.Shell

/-!
# Patterns of the shell

A pattern is a text in which each character carries a flag: whether it stands for itself. Else `*`,
`?` and brackets stand for other characters.

* `Shell.matchesPattern` says whether a pattern fits a text.
* `Shell.dropStart` and `Shell.dropFinish` take away what a pattern fits.
-/

/-- The ranges of a bracket expression, and what follows its closing bracket. -/
def bracketRanges (isFirst : Bool) : Nat → List (Char × Bool) →
    Option (List (Char × Char) × List (Char × Bool))
  | 0, _ => none
  | fuel + 1, p =>
    match p with
    | (']', _) :: rest =>
      if isFirst then (bracketRanges false fuel rest).map fun r => ((']', ']') :: r.1, r.2)
      else some ([], rest)
    | (a, _) :: ('-', _) :: (b, x) :: rest =>
      if b == ']' then
        (bracketRanges false fuel (('-', false) :: (b, x) :: rest)).map fun r =>
          ((a, a) :: r.1, r.2)
      else (bracketRanges false fuel rest).map fun r => ((a, b) :: r.1, r.2)
    | (a, _) :: rest => (bracketRanges false fuel rest).map fun r => ((a, a) :: r.1, r.2)
    | [] => none

/-- Whether a pattern fits a whole text. The flag of a character says that it stands for itself. -/
def fits : Nat → List (Char × Bool) → Text → Bool
  | 0, _, _ => false
  | _, [], t => t.isEmpty
  | fuel + 1, (c, literal) :: p, t =>
    let one := match t with
      | d :: rest => c == d && fits fuel p rest
      | [] => false
    if literal then one
    else if c == '*' then
      fits fuel p t || match t with
        | _ :: rest => fits fuel ((c, literal) :: p) rest
        | [] => false
    else if c == '?' then !t.isEmpty && fits fuel p t.tail
    else if c == '[' then
      let (negated, body) := match p with
        | ('!', false) :: rest => (true, rest)
        | _ => (false, p)
      match bracketRanges true (body.length + 1) body, t with
      | some (ranges, p), d :: rest =>
        (ranges.any fun r => r.1 ≤ d && d ≤ r.2) != negated && fits fuel p rest
      | some _, [] => false
      | none, _ => one
    else one

/-- Whether a pattern fits a text. -/
def matchesPattern (p : List (Char × Bool)) (t : Text) : Bool :=
  fits (2 * (p.length + t.length) + 2) p t

/-- A text without the shortest or longest start that a pattern fits. -/
def dropStart (longest : Bool) (p : List (Char × Bool)) (t : Text) : Text :=
  let lengths := List.range (t.length + 1)
  let lengths := if longest then lengths.reverse else lengths
  match lengths.find? fun n => matchesPattern p (t.take n) with
  | some n => t.drop n
  | none => t

/-- A text without the shortest or longest end that a pattern fits. -/
def dropFinish (longest : Bool) (p : List (Char × Bool)) (t : Text) : Text :=
  let lengths := List.range (t.length + 1)
  let lengths := if longest then lengths else lengths.reverse
  match lengths.find? fun n => matchesPattern p (t.drop n) with
  | some n => t.take n
  | none => t

end TranscriptLint.Shell
