import TranscriptLint.Glob
import TranscriptLint.Path

namespace TranscriptLint

/-!
# Rules for what to leave out

A rule names paths by a glob pattern and ignores them or, with an exclamation mark, takes them back.
Of the rules in one list the last that matches decides.

* `IgnoreRule.ofLine` reads a rule.
* `RuleList.verdict` judges a path below the directory of the rules.
-/

/-- What a rule says about a path. -/
inductive Verdict where
  | ignored
  | kept
deriving DecidableEq, Repr

/-- A rule. -/
structure IgnoreRule where
  glob : Glob
  verdict : Verdict
  /-- Whether the rule is about directories only. -/
  directoriesOnly : Bool
deriving DecidableEq, Repr

namespace IgnoreRule

/-- The line without its trailing whitespace, unless a backslash keeps it. -/
def trimLine (line : Text) : Text :=
  if line.endsWith "\\ ".toList then line else line.trimEnd

/-- The verdict of a rule, whether it starts at the directory of the rules, and its pattern. -/
def splitMarks (line : Text) : Verdict × Bool × Text :=
  match line with
  | '\\' :: '!' :: _ | '\\' :: '#' :: _ => (.ignored, false, line.drop 1)
  | _ =>
    let (verdict, rest) := match line with
      | '!' :: rest => (Verdict.kept, rest)
      | _ => (.ignored, line)
    match rest with
    | '/' :: rest => (verdict, true, rest)
    | _ => (verdict, false, rest)

/-- Whether a pattern ends in a separator, and the pattern without it. -/
def splitSlash (pattern : Text) : Bool × Text :=
  if pattern.getLast? == some '/' then
    let rest := pattern.dropLast
    (true, if rest.getLast? == some '\\' then rest.dropLast else rest)
  else (false, pattern)

/-- The pattern of a rule for whole paths. A pattern without a separator can match anywhere, and one
that ends in any directories does not match the directory above them. -/
def fullPattern (anchored : Bool) (pattern : Text) : Text :=
  let everywhere :=
    if anchored || pattern.contains '/' || pattern == "**".toList then pattern
    else "**/".toList ++ pattern
  if everywhere.endsWith "/**".toList then everywhere ++ "/*".toList else everywhere

/-- Reads a rule. Blank lines and comments are none. -/
def ofLine (openClass : Bool) (line : Text) : Except Glob.Error (Option IgnoreRule) :=
  let line := trimLine line
  if line.isEmpty || line.head? == some '#' then .ok none
  else
    let (verdict, anchored, rest) := splitMarks line
    let (directoriesOnly, pattern) := splitSlash rest
    match Glob.read openClass (fullPattern anchored pattern) with
    | .error e => .error e
    | .ok glob => .ok (some { glob, verdict, directoriesOnly })

/-- Whether a rule is about a path. -/
def applies (r : IgnoreRule) (path : Text) (isDirectory : Bool) : Bool :=
  (!r.directoriesOnly || isDirectory) && r.glob.matches path

end IgnoreRule

/-- Rules and the directory they are about. -/
structure RuleList where
  root : Text
  rules : List IgnoreRule
deriving DecidableEq, Repr

namespace RuleList

/-- A path without a leading `./`. -/
def stripHere (path : Text) : Text := (path.after? "./".toList).getD path

/-- A path relative to the directory of the rules. A bare name stays as it is. -/
def relative (rs : RuleList) (path : Text) : Text :=
  let path := stripHere path
  let root := stripHere rs.root
  if root == ".".toList || !path.contains '/' then path
  else
    match path.after? root with
    | some rest => (Text.after? rest "/".toList).getD rest
    | none => path

/-- What the rules say about a path; none if no rule is about it. -/
def verdict (rs : RuleList) (path : Text) (isDirectory : Bool) : Option Verdict :=
  if rs.rules.isEmpty then none
  else
    (rs.rules.reverse.find? fun r => r.applies (rs.relative path) isDirectory).map
      IgnoreRule.verdict

/-- The lines of a file of rules, up to the first that is not UTF-8. -/
def linesOf (content : List UInt8) : List Text :=
  let lines := (splitLines content).map Text.decodeUtf8?
  ((lines.takeWhile Option.isSome).filterMap id).map Text.chompReturn
where
  /-- The octets between line feeds. -/
  splitLines (bs : List UInt8) : List (List UInt8) :=
    bs.foldr (fun b lines => if b == 0x0A then [] :: lines
      else match lines with
        | line :: rest => (b :: line) :: rest
        | [] => [[b]]) [[]]

/-- Reads a file of rules, which may begin with byte order marks. Rules that cannot be read are
passed over; the flag says that there were some. -/
def ofFile (root : Text) (content : List UInt8) : RuleList × Bool :=
  let lines := match linesOf content with
    | first :: rest => first.dropWhile (· == '\uFEFF') :: rest
    | [] => []
  let read := lines.map (IgnoreRule.ofLine true)
  (⟨root, read.filterMap fun r => match r with
    | .ok rule => rule
    | .error _ => none⟩,
   read.any fun r => match r with
    | .ok _ => false
    | .error _ => true)

end RuleList
end TranscriptLint
