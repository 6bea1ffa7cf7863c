import TranscriptLint.Regex.Basic

namespace TranscriptLint.Regex

/-!
# Reading regular expressions

The written form of regular expressions: characters, sets in brackets, groups, alternatives, copies
and anchors, with flags that change what they mean.

* `Regex.read?` reads a whole expression, or says where it is wrong.
* `Fault.message` shows the place below the expression.
-/

/-! ## Faults -/

/-- Why an expression cannot be read. -/
inductive Reason where
  | backreference
  | classEscape
  | classRange
  | classRangeBound
  | classUnclosed
  | decimalInvalid
  | escapeEnd
  | escapeUnknown
  | flagDangling
  | flagDuplicate
  | flagEnd
  | flagNegatedAgain
  | flagUnknown
  | groupNameEmpty
  | groupNameEnd
  | groupNameInvalid
  | groupUnclosed
  | groupUnopened
  | hexDigit
  | hexEmpty
  | hexInvalid
  | lookAround
  | property
  | repetitionCount
  | repetitionDecimal
  | repetitionMissing
  | repetitionUnclosed
  | wordBoundaryUnclosed
  | wordBoundaryUnknown
deriving DecidableEq, Repr

namespace Reason

/-- What is wrong, in words. -/
def message : Reason → String
  | .backreference => "backreferences are not supported"
  | .classEscape => "invalid escape sequence found in character class"
  | .classRange => "invalid character class range, the start must be <= the end"
  | .classRangeBound => "invalid range boundary, must be a literal"
  | .classUnclosed => "unclosed character class"
  | .decimalInvalid => "decimal literal invalid"
  | .escapeEnd => "incomplete escape sequence, reached end of pattern prematurely"
  | .escapeUnknown => "unrecognized escape sequence"
  | .flagDangling => "dangling flag negation operator"
  | .flagDuplicate => "duplicate flag"
  | .flagEnd => "expected flag but got end of regex"
  | .flagNegatedAgain => "flag negation operator repeated"
  | .flagUnknown => "unrecognized flag"
  | .groupNameEmpty => "empty capture group name"
  | .groupNameEnd => "unclosed capture group name"
  | .groupNameInvalid => "invalid capture group character"
  | .groupUnclosed => "unclosed group"
  | .groupUnopened => "unopened group"
  | .hexDigit => "invalid hexadecimal digit"
  | .hexEmpty => "hexadecimal literal empty"
  | .hexInvalid => "hexadecimal literal is not a Unicode scalar value"
  | .lookAround => "look-around, including look-ahead and look-behind, is not supported"
  | .property => "Unicode property not found"
  | .repetitionCount => "invalid repetition count range, the start must be <= the end"
  | .repetitionDecimal => "repetition quantifier expects a valid decimal"
  | .repetitionMissing => "repetition operator missing expression"
  | .repetitionUnclosed => "unclosed counted repetition"
  | .wordBoundaryUnclosed =>
    "special word boundary assertion is either unclosed or contains an invalid character"
  | .wordBoundaryUnknown =>
    "unrecognized special word boundary assertion, valid choices are: start, end, start-half " ++
      "or end-half"

end Reason

/-- A part of an expression that cannot be read. -/
structure Fault where
  reason : Reason
  /-- The number of characters from the start of the part on. -/
  start : Nat
  /-- The number of characters after the part. -/
  stop : Nat
deriving DecidableEq, Repr

namespace Fault

/-- A fault between what is left of an expression and what is left of it later. -/
def between (reason : Reason) (start stop : Text) : Fault := ⟨reason, start.length, stop.length⟩

/-- A fault at the first character of what is left of an expression. -/
def atFirst (reason : Reason) (t : Text) : Fault := between reason t t.tail

/-- A fault and its place in the expression. -/
def message (e : Fault) (pattern : Text) : Text :=
  "regex parse error:\n    ".toList ++ pattern ++ "\n    ".toList ++
    List.replicate (pattern.length - e.start) ' ' ++
    List.replicate (max 1 (e.start - e.stop)) '^' ++
    "\nerror: ".toList ++ e.reason.message.toList

end Fault

/-! ## Flags -/

/-- How an expression is meant. -/
structure Flags where
  /-- Letters stand for both of their cases. -/
  ignoresCase : Bool := false
  /-- `^` and `$` stand at the ends of lines. -/
  byLine : Bool := false
  /-- A dot stands for line ends too. -/
  dotAll : Bool := false
  /-- Carriage returns end lines too. -/
  crlf : Bool := false
  /-- Digits, whitespace and words are those of ASCII. -/
  ascii : Bool := false
  /-- Whitespace and comments between the parts of an expression are left out. -/
  spaced : Bool := false
deriving DecidableEq, Repr

namespace Flags

/-- What follows whitespace and comments. -/
def skipBlank : Bool → Text → Text
  | _, [] => []
  | true, c :: t => skipBlank (c ≠ '\n') t
  | false, c :: t =>
    if Text.isWhite c then skipBlank false t
    else if c = '#' then skipBlank true t
    else c :: t

/-- What follows the whitespace and comments that are left out. -/
def skip (f : Flags) (t : Text) : Text := if f.spaced then skipBlank false t else t

/-- Turns the flag with a letter on or off. -/
def set? (f : Flags) (on : Bool) : Char → Option Flags
  | 'i' => some { f with ignoresCase := on }
  | 'm' => some { f with byLine := on }
  | 's' => some { f with dotAll := on }
  | 'R' => some { f with crlf := on }
  | 'u' => some { f with ascii := !on }
  | 'x' => some { f with spaced := on }
  | 'U' => some f
  | _ => none

/-- Reads flags up to the colon or bracket that ends them. `seen` are the letters and signs before
them. -/
def read (f : Flags) (seen : List Char) : Text → Except Fault (Flags × Text)
  | [] => .error (.atFirst .flagEnd [])
  | c :: t =>
    if c = ':' || c = ')' then
      if seen.head? = some '-' then .error ⟨.flagDangling, t.length + 2, t.length + 1⟩
      else .ok (f, c :: t)
    else if c ∈ seen then
      .error (.atFirst (if c = '-' then .flagNegatedAgain else .flagDuplicate) (c :: t))
    else if c = '-' then read f (c :: seen) t
    else
      match f.set? ('-' ∉ seen) c with
      | some f => read f (c :: seen) t
      | none => .error (.atFirst .flagUnknown (c :: t))

/-- The set of one character. -/
def char (f : Flags) (c : Char) : CharSet := .foldedIf f.ignoresCase (.single c)

/-- What a dot stands for. -/
def dot (f : Flags) : CharSet :=
  if f.dotAll then .all
  else .compl (if f.crlf then .union (.single '\n') (.single '\r') else .single '\n')

/-- The anchor at the start of a text or line. -/
def startAnchor (f : Flags) : Anchor := if f.byLine then .lineStart f.crlf else .textStart

/-- The anchor at the end of a text or line. -/
def endAnchor (f : Flags) : Anchor := if f.byLine then .lineEnd f.crlf else .textEnd

/-- The set of characters with a letter. -/
def letterSet? (f : Flags) : Char → Option CharSet
  | 'd' => some (if f.ascii then .asciiDigit else .digit)
  | 's' => some (if f.ascii then .asciiWhite else .white)
  | 'w' => some (if f.ascii then .asciiWord else .word)
  | 'D' => some (.compl (if f.ascii then .asciiDigit else .digit))
  | 'S' => some (.compl (if f.ascii then .asciiWhite else .white))
  | 'W' => some (.compl (if f.ascii then .asciiWord else .word))
  | _ => none

end Flags

/-! ## Escapes -/

/-- What an escape stands for. -/
inductive Escape where
  | char (c : Char)
  | set (s : CharSet)
  | anchor (a : Anchor)
deriving DecidableEq, Repr

namespace Escape

/-- The character with a code point between two places. -/
def ofCode (n : Nat) (start stop : Text) : Except Fault Char :=
  if n < 0xD800 || (0xE000 ≤ n && n < 0x110000) then .ok (Char.ofNat n)
  else .error (.between .hexInvalid start stop)

/-- Reads a number of hexadecimal digits. -/
def hexDigits : Nat → Nat → Text → Except Fault (Nat × Text)
  | 0, n, t => .ok (n, t)
  | _ + 1, _, [] => .error (.atFirst .escapeEnd [])
  | k + 1, n, c :: t =>
    match Text.hexDigit? c with
    | some d => hexDigits k (16 * n + d) t
    | none => .error (.atFirst .hexDigit (c :: t))

/-- Reads hexadecimal digits up to a closing brace. -/
def hexUntilBrace (brace : Text) : Nat → Text → Except Fault (Nat × Text)
  | _, [] => .error (.between .escapeEnd brace [])
  | n, c :: t =>
    if c = '\x7d' then .ok (n, c :: t)
    else
      match Text.hexDigit? c with
      | some d => hexUntilBrace brace (16 * n + d) t
      | none => .error (.atFirst .hexDigit (c :: t))

/-- Reads a code point of a number of digits, or in braces. -/
def hex (digits : Nat) (t : Text) : Except Fault (Char × Text) :=
  match t with
  | [] => .error (.atFirst .escapeEnd [])
  | '\x7b' :: u =>
    match hexUntilBrace t 0 u with
    | .error e => .error e
    | .ok (n, rest) =>
      if rest.length = u.length then .error (.between .hexEmpty t rest.tail)
      else (ofCode n u rest).map fun c => (c, rest.tail)
  | _ =>
    match hexDigits digits 0 t with
    | .error e => .error e
    | .ok (n, rest) => (ofCode n t rest).map fun c => (c, rest)

/-- The anchors at words that have a name. -/
def wordAnchor? (ascii : Bool) (name : Text) : Option Anchor :=
  [("start".toList, Anchor.wordStart ascii), ("end".toList, .wordEnd ascii),
   ("start-half".toList, .noWordBefore ascii), ("end-half".toList, .noWordAfter ascii)].lookup name

/-- Reads what follows the letter of a word boundary: perhaps a name in braces. -/
def boundary (f : Flags) (t : Text) : Except Fault (Escape × Text) :=
  match t with
  | '\x7b' :: u =>
    let isNameChar (c : Char) := c.isAlpha || c == '-'
    let name := u.takeWhile isNameChar
    let rest := u.dropWhile isNameChar
    if name.isEmpty then .ok (.anchor (.boundary f.ascii), t)
    else if rest.head? = some '\x7d' then
      match wordAnchor? f.ascii name with
      | some a => .ok (.anchor a, rest.tail)
      | none => .error (.between .wordBoundaryUnknown u rest)
    else .error (.between .wordBoundaryUnclosed t rest)
  | _ => .ok (.anchor (.boundary f.ascii), t)

/-- Whether a character stands for itself after a backslash. -/
def isPlain (c : Char) : Bool :=
  c.toNat < 0x80 && !c.isAlphanum && c != '<' && c != '>'

/-- The control characters with a letter. -/
def control? : Char → Option Char
  | 'a' => some '\x07'
  | 'f' => some '\x0c'
  | 't' => some '\t'
  | 'n' => some '\n'
  | 'r' => some '\r'
  | 'v' => some '\x0b'
  | _ => none

/-- The anchors with a letter or sign. -/
def anchor? (f : Flags) : Char → Option Anchor
  | 'A' => some .textStart
  | 'z' => some .textEnd
  | 'B' => some (.noBoundary f.ascii)
  | '<' => some (.wordStart f.ascii)
  | '>' => some (.wordEnd f.ascii)
  | _ => none

/-- Reads what follows a backslash; `start` begins with the backslash. -/
def read (f : Flags) (start : Text) : Text → Except Fault (Escape × Text)
  | [] => .error (.between .escapeEnd start [])
  | c :: t =>
    if c.isDigit then .error (.between .backreference start t)
    else if c = 'x' then (hex 2 t).map fun r => (.char r.1, r.2)
    else if c = 'u' then (hex 4 t).map fun r => (.char r.1, r.2)
    else if c = 'U' then (hex 8 t).map fun r => (.char r.1, r.2)
    else if c = 'p' || c = 'P' then .error (.between .property start t)
    else if c = 'b' then boundary f t
    else if isPlain c then .ok (.char c, t)
    else
      match f.letterSet? c, control? c, anchor? f c with
      | some s, _, _ => .ok (.set s, t)
      | none, some d, _ => .ok (.char d, t)
      | none, none, some a => .ok (.anchor a, t)
      | none, none, none => .error (.between .escapeUnknown start t)

end Escape

/-! ## Sets in brackets -/

/-- An operator between sets. -/
inductive SetOperator where
  | inter
  | diff
  | symmDiff
deriving DecidableEq, Repr

/-- The set that an operator makes of two. -/
def SetOperator.apply : SetOperator → CharSet → CharSet → CharSet
  | .inter => .inter
  | .diff => .diff
  | .symmDiff => .symmDiff

/-- A set whose bracket is open. -/
structure OpenSet where
  negated : Bool
  /-- The fault if the bracket is never closed. -/
  unclosed : Fault
  /-- An operator and the set on its left. -/
  pending : Option (CharSet × SetOperator) := none
  /-- The characters so far, since the last operator. -/
  members : CharSet := .none
deriving DecidableEq, Repr

namespace OpenSet

/-- Adds characters. -/
def add (s : OpenSet) (more : CharSet) : OpenSet := { s with members := .union s.members more }

/-- The set so far. -/
def value (f : Flags) (s : OpenSet) : CharSet :=
  match s.pending with
  | none => s.members
  | some (left, op) =>
    op.apply (.foldedIf f.ignoresCase left) (.foldedIf f.ignoresCase s.members)

/-- Begins the operand after an operator. -/
def apply (f : Flags) (s : OpenSet) (op : SetOperator) : OpenSet :=
  { s with pending := some (s.value f, op), members := .none }

/-- The set when its bracket is closed. -/
def close (f : Flags) (s : OpenSet) : CharSet :=
  .negatedIf s.negated (.foldedIf f.ignoresCase (s.value f))

/-- Reads hyphens at the start of a set, which stand for themselves. -/
def hyphens (f : Flags) : Nat → Text → Nat × Text
  | 0, t => (0, t)
  | fuel + 1, t =>
    match t with
    | '-' :: u =>
      let (n, rest) := hyphens f fuel (f.skip u)
      (n + 1, rest)
    | _ => (0, t)

/-- Reads the start of a set. A closing bracket right at its start stands for itself. `start` begins
with the opening bracket. -/
def start (f : Flags) (start : Text) : Except Fault (OpenSet × Text) :=
  let inner := f.skip start.tail
  let (negated, inner) := match inner with
    | '^' :: u => (true, f.skip u)
    | _ => (false, inner)
  let (n, rest) := hyphens f inner.length inner
  let (members, rest) := match n, rest with
    | 0, ']' :: u => (CharSet.single ']', f.skip u)
    | 0, _ => (.none, rest)
    | _ + 1, _ => (.single '-', rest)
  if rest.isEmpty then
    .error (if n = 0 then .between .classUnclosed start [] else .between .classUnclosed start start)
  else
    .ok ({ negated, unclosed := .between .classUnclosed start rest, members }, rest)

/-- Reads the name of a set between `[:` and `:]`. -/
def named? (t : Text) : Option (CharSet × Text) :=
  match Text.after? t "[:".toList with
  | none => none
  | some t =>
    let (negated, t) := match t with
      | '^' :: u => (true, u)
      | _ => (false, t)
    let name := t.takeWhile (· ≠ ':')
    match CharSet.ofName? name, Text.after? (t.drop name.length) ":]".toList with
    | some s, some rest => some (.negatedIf negated s, rest)
    | _, _ => none

/-- Reads an operator. -/
def operator? : Text → Option (SetOperator × Text)
  | '&' :: '&' :: t => some (.inter, t)
  | '-' :: '-' :: t => some (.diff, t)
  | '~' :: '~' :: t => some (.symmDiff, t)
  | _ => none

/-- Reads a character or an escape. -/
def item (f : Flags) (unclosed : Fault) (t : Text) : Except Fault (Escape × Text) :=
  match t with
  | [] => .error unclosed
  | '\\' :: u => Escape.read f t u
  | c :: u => .ok (.char c, u)

/-- The characters of an item. -/
def itemMembers (start stop : Text) : Escape → Except Fault CharSet
  | .char c => .ok (.single c)
  | .set s => .ok s
  | .anchor _ => .error (.between .classEscape start stop)

/-- The character at an end of a range. -/
def bound (start stop : Text) : Escape → Except Fault Char
  | .char c => .ok c
  | _ => .error (.between .classRangeBound start stop)

/-- Whether a hyphen at the start of a text stands between the ends of a range. -/
def isRangeHyphen (f : Flags) (t : Text) : Bool :=
  match t with
  | '-' :: u =>
    let next := (f.skip u).head?
    next != some ']' && next != some '-'
  | _ => false

/-- Reads a character, an escape or a range. -/
def itemOrRange (f : Flags) (unclosed : Fault) (t : Text) : Except Fault (CharSet × Text) := do
  let (first, afterFirst) ← item f unclosed t
  let rest := f.skip afterFirst
  if rest.isEmpty then throw unclosed
  if !isRangeHyphen f rest then return (← itemMembers t afterFirst first, rest)
  let second := f.skip rest.tail
  let (last, afterLast) ← item f unclosed second
  let a ← bound t afterFirst first
  let b ← bound second afterLast last
  if b < a then throw (.between .classRange t afterLast)
  return (.range a b, afterLast)

/-- Reads a set up to its closing bracket. -/
def finish (f : Flags) : Nat → OpenSet → Text → Except Fault (CharSet × Text)
  | 0, s, _ => .error s.unclosed
  | fuel + 1, s, t =>
    match f.skip t with
    | [] => .error s.unclosed
    | ']' :: u => .ok (s.close f, u)
    | '[' :: u =>
      match named? ('[' :: u) with
      | some (more, rest) => finish f fuel (s.add more) rest
      | none =>
        match OpenSet.start f ('[' :: u) with
        | .error e => .error e
        | .ok (inner, rest) =>
          match finish f fuel inner rest with
          | .error e => .error e
          | .ok (more, rest) => finish f fuel (s.add more) rest
    | t =>
      match operator? t with
      | some (op, rest) => finish f fuel (s.apply f op) rest
      | none =>
        match itemOrRange f s.unclosed t with
        | .error e => .error e
        | .ok (more, rest) => finish f fuel (s.add more) rest

/-- Reads a set; the text begins with the opening bracket. -/
def read (f : Flags) (t : Text) : Except Fault (CharSet × Text) :=
  match start f t with
  | .error e => .error e
  | .ok (s, rest) => finish f (t.length + 1) s rest

end OpenSet

/-! ## Copies -/

/-- The numbers of copies, at least and at most. -/
structure Copies where
  least : Nat
  most : Option Nat
deriving DecidableEq, Repr

namespace Copies

/-- Reads a number with whitespace around it. -/
def number (t : Text) : Except Fault Nat × Text :=
  let t := t.dropWhile Text.isWhite
  let digits := t.takeWhile Char.isDigit
  let rest := t.drop digits.length
  let value := Text.decimalValue digits
  (if digits.isEmpty then .error (.between .repetitionDecimal t rest)
   else if 0xFFFFFFFF < value then .error (.between .decimalInvalid t rest)
   else .ok value, rest.dropWhile Text.isWhite)

/-- Leaves out the sign that asks for few copies, which changes no answer. -/
def skipLazy (t : Text) : Text := (Text.after? t ['?']).getD t

/-- Reads numbers of copies in braces; the text begins with the opening brace. -/
def read (f : Flags) (t : Text) : Except Fault (Copies × Text) := do
  let inner := f.skip t.tail
  if inner.isEmpty then throw (.between .repetitionUnclosed t [])
  let (least, rest) := number inner
  let (copies, rest) ← match rest with
    | [] => throw (.between .repetitionUnclosed t [])
    | ',' :: u =>
      let u := f.skip u
      if u.isEmpty then throw (.between .repetitionUnclosed t [])
      let least ← least
      if u.head? = some '\x7d' then pure (⟨least, none⟩, u)
      else
        let (most, rest) := number u
        pure ((⟨least, some (← most)⟩ : Copies), rest)
    | _ =>
      let least ← least
      pure (⟨least, some least⟩, rest)
  if rest.head? ≠ some '\x7d' then throw (.between .repetitionUnclosed t rest)
  let rest := skipLazy rest.tail
  if copies.most.any (· < copies.least) then throw (.between .repetitionCount t rest)
  return (copies, rest)

end Copies

/-! ## Groups -/

/-- What an opening bracket begins. -/
inductive Opening where
  | group (f : Flags)
  /-- Only flags for what follows. -/
  | flags (f : Flags)
deriving DecidableEq, Repr

namespace Opening

/-- Whether a character may be in the name of a group. -/
def isNameChar (isFirst : Bool) (c : Char) : Bool :=
  if isFirst then c == '_' || (Text.isWordChar c && !Text.isDecimalDigit c)
  else c == '_' || c == '.' || c == '[' || c == ']' || Text.isWordChar c

/-- Reads the name of a group and the sign that ends it. -/
def groupName (isFirst : Bool) : Text → Except Fault Text
  | [] => .error (.atFirst .groupNameEnd [])
  | c :: t =>
    if c = '>' then if isFirst then .error (.between .groupNameEmpty (c :: t) (c :: t)) else .ok t
    else if isNameChar isFirst c then groupName false t
    else .error (.atFirst .groupNameInvalid (c :: t))

/-- The signs of groups that look around. -/
def lookArounds : List Text := ["?=".toList, "?!".toList, "?<=".toList, "?<!".toList]

/-- Reads the start of a group; the text begins with the opening bracket. -/
def read (f : Flags) (t : Text) : Except Fault (Opening × Text) :=
  let inner := f.skip t.tail
  match lookArounds.findSome? (Text.after? inner) with
  | some rest => .error (.between .lookAround t rest)
  | none =>
    match Text.after? inner "?P<".toList <|> Text.after? inner "?<".toList with
    | some name => (groupName true name).map fun rest => (.group f, rest)
    | none =>
      match inner with
      | ['?'] => .error (.atFirst .groupUnclosed t)
      | '?' :: u =>
        match f.read [] u with
        | .error e => .error e
        | .ok (g, rest) =>
          if rest.head? = some ':' then .ok (.group g, rest.tail)
          else if rest.length = u.length then .error (.between .repetitionMissing inner inner)
          else .ok (.flags g, rest.tail)
      | _ => .ok (.group f, inner)

end Opening

/-! ## Expressions -/

/-- The alternatives of a group that were read so far. -/
structure Branches where
  /-- The finished ones, the latest first. -/
  finished : List Regex := []
  /-- The parts of the present one, the latest first. Flags are parts that stand for nothing. -/
  parts : List (Option Regex) := []
deriving DecidableEq, Repr

namespace Branches

/-- Adds a part. -/
def add (b : Branches) (r : Regex) : Branches := { b with parts := some r :: b.parts }

/-- Adds flags. -/
def addFlags (b : Branches) : Branches := { b with parts := none :: b.parts }

/-- The parts of the present alternative, one after the other. -/
def present (b : Branches) : Regex :=
  match b.parts.filterMap id with
  | [] => .empty
  | r :: rs => rs.foldl (fun later earlier => .seq earlier later) r

/-- Begins the next alternative. -/
def split (b : Branches) : Branches := { finished := b.present :: b.finished }

/-- One of the alternatives. -/
def value (b : Branches) : Regex :=
  b.finished.foldl (fun later earlier => .either earlier later) b.present

/-- Replaces the last part by copies of it, if there is one. -/
def repeatLast? (b : Branches) (n : Copies) : Option Branches :=
  match b.parts with
  | some r :: parts => some { b with parts := some (.repeated r n.least n.most) :: parts }
  | _ => none

end Branches

/-- Reads the sign or the numbers of copies at the start of a text. -/
def copies? (f : Flags) (t : Text) : Option (Except Fault (Copies × Text)) :=
  match t with
  | '?' :: u => some (.ok (⟨0, some 1⟩, Copies.skipLazy u))
  | '*' :: u => some (.ok (⟨0, none⟩, Copies.skipLazy u))
  | '+' :: u => some (.ok (⟨1, none⟩, Copies.skipLazy u))
  | '\x7b' :: _ => some (Copies.read f t)
  | _ => none

/-- What an escape stands for, as an expression. -/
def ofEscape (f : Flags) : Escape → Regex
  | .char c => .one (f.char c)
  | .set s => .one s
  | .anchor a => .anchor a

/-- Reads a part that is neither a group nor copies of another part. -/
def readPart (f : Flags) (t : Text) : Except Fault (Regex × Text) :=
  match t with
  | [] => .ok (.empty, [])
  | '[' :: _ => (OpenSet.read f t).map fun r => (.one r.1, r.2)
  | '\\' :: u => (Escape.read f t u).map fun r => (ofEscape f r.1, r.2)
  | '.' :: u => .ok (.one f.dot, u)
  | '^' :: u => .ok (.anchor f.startAnchor, u)
  | '$' :: u => .ok (.anchor f.endAnchor, u)
  | c :: u => .ok (.one (f.char c), u)

/-- Reads alternatives up to the end of their group. -/
def readBranches : Nat → Flags → Branches → Text → Except Fault (Regex × Text)
  | 0, _, _, t => .error (.atFirst .groupUnclosed t)
  | fuel + 1, f, b, t =>
    match f.skip t with
    | [] => .ok (b.value, [])
    | ')' :: u => .ok (b.value, ')' :: u)
    | '|' :: u => readBranches fuel f b.split u
    | '(' :: u =>
      match Opening.read f ('(' :: u) with
      | .error e => .error e
      | .ok (.flags g, rest) => readBranches fuel g b.addFlags rest
      | .ok (.group g, rest) =>
        match readBranches fuel g {} rest with
        | .error e => .error e
        | .ok (r, ')' :: rest) => readBranches fuel f (b.add r) rest
        | .ok _ => .error (.atFirst .groupUnclosed ('(' :: u))
    | t =>
      match copies? f t with
      | some read =>
        match b.parts, read with
        | some _ :: _, .error e => .error e
        | _, .error _ => .error (.between .repetitionMissing t t)
        | _, .ok (n, rest) =>
          match b.repeatLast? n with
          | some b => readBranches fuel f b rest
          | none => .error (.between .repetitionMissing t t)
      | none =>
        match readPart f t with
        | .error e => .error e
        | .ok (r, rest) => readBranches fuel f (b.add r) rest

/-- Reads a whole expression. -/
def read? (t : Text) : Except Fault Regex :=
  match readBranches (t.length + 1) {} {} t with
  | .error e => .error e
  | .ok (r, []) => .ok r
  | .ok (_, rest) => .error (.atFirst .groupUnopened rest)

end TranscriptLint.Regex
