import TranscriptLint.Shell.Command

namespace TranscriptLint.Shell

/-!
# Reading shell commands

A script is cut into words and operators, and commands are read from these. What the small shell
does not know is a fault in the script.
-/

/-! ## Words -/

/-- Whether a character can stand in a name. -/
def isNameChar (c : Char) : Bool := c.isAlphanum || c == '_'

/-- Whether a text is the name of a variable. -/
def isName (t : Text) : Bool :=
  t.all isNameChar && ((t.head?.map fun c => !c.isDigit).getD false)

/-- Whether a character is the name of a special parameter. -/
def isSpecialParameter (c : Char) : Bool :=
  c.isDigit || c == '#' || c == '?' || c == '$' || c == '@' || c == '*' || c == '!'

/-- The text up to the parenthesis that closes `depth` open ones, and what follows it. -/
def untilClose : Nat → Text → Option (Text × Text)
  | _, [] => none
  | depth, c :: rest =>
    if c == ')' then
      match depth with
      | 0 => some ([], rest)
      | depth + 1 => (untilClose depth rest).map fun r => (c :: r.1, r.2)
    else
      (untilClose (if c == '(' then depth + 1 else depth) rest).map fun r => (c :: r.1, r.2)

/-- The text up to the brace that closes `depth` open ones, and what follows it. -/
def untilBrace : Nat → Text → Option (Text × Text)
  | _, [] => none
  | depth, c :: rest =>
    if c == '\x7d' then
      match depth with
      | 0 => some ([], rest)
      | depth + 1 => (untilBrace depth rest).map fun r => (c :: r.1, r.2)
    else
      (untilBrace (if c == '\x7b' then depth + 1 else depth) rest).map fun r => (c :: r.1, r.2)

/-- The operators between a parameter and a word, longer ones first. -/
def expansionOperators : List Text :=
  [":-".toList, ":=".toList, ":+".toList, ":?".toList, "%%".toList, "##".toList, "-".toList,
   "=".toList, "+".toList, "?".toList, "%".toList, "#".toList]

/-- The piece that stands between braces after a dollar sign. -/
def braced (quoted : Bool) (t : Text) : Piece :=
  match t with
  | '#' :: c :: rest => .expansion (c :: rest) "length".toList [] quoted
  | _ =>
    let letters := t.takeWhile isNameChar
    let name := if letters.isEmpty then t.take 1 else letters
    let rest := t.drop name.length
    match expansionOperators.findSome? fun o => (Text.after? rest o).map fun operand => (o, operand)
      with
    | some (o, operand) => .expansion name o operand quoted
    | none => .parameter name quoted

/-- The piece after a dollar sign, and what follows it. -/
def dollar (quoted : Bool) (t : Text) : Piece × Text :=
  match t with
  | '(' :: '(' :: rest =>
    match untilClose 0 rest with
    | some (expression, ')' :: rest) => (.arithmetic expression quoted, rest)
    | _ => (.text "$".toList quoted, t)
  | '(' :: rest =>
    match untilClose 0 rest with
    | some (commands, rest) => (.output commands quoted, rest)
    | none => (.text "$".toList quoted, t)
  | '\x7b' :: rest =>
    match untilBrace 0 rest with
    | some (inner, rest) => (braced quoted inner, rest)
    | none => (.text "$".toList quoted, t)
  | c :: rest =>
    if isSpecialParameter c then (.parameter [c] quoted, rest)
    else
      let name := t.takeWhile isNameChar
      if name.isEmpty then (.text "$".toList quoted, t)
      else (.parameter name quoted, t.drop name.length)
  | [] => (.text "$".toList quoted, [])

/-- The commands between backquotes, and what follows the closing one. A backslash takes the meaning
from a backquote, a dollar sign and a backslash. -/
def backquoted : Text → Option (Text × Text)
  | [] => none
  | '\x60' :: rest => some ([], rest)
  | '\\' :: c :: rest =>
    (backquoted rest).map fun r =>
      (if c == '\x60' || c == '$' || c == '\\' then c :: r.1 else '\\' :: c :: r.1, r.2)
  | c :: rest => (backquoted rest).map fun r => (c :: r.1, r.2)

/-- The pieces of a text in double quotes, and what follows the closing one. Without a closing quote
the text may only end if it is `whole`; quotes then stand for themselves. -/
def doubleQuoted (whole : Bool) : Nat → Text → Option (Word × Text)
  | 0, _ => none
  | _, [] => if whole then some ([], []) else none
  | fuel + 1, c :: rest =>
    if c == '"' && !whole then some ([], rest)
    else if c == '$' then
      let (piece, rest) := dollar true rest
      (doubleQuoted whole fuel rest).map fun r => (piece :: r.1, r.2)
    else if c == '\x60' then do
      let (commands, rest) ← backquoted rest
      let (more, rest) ← doubleQuoted whole fuel rest
      return (.output commands true :: more, rest)
    else
      match c, rest with
      | '\\', '\n' :: rest => doubleQuoted whole fuel rest
      | '\\', d :: rest' =>
        if d == '$' || d == '\x60' || d == '"' && !whole || d == '\\' then
          (doubleQuoted whole fuel rest').map fun r => (.text [d] true :: r.1, r.2)
        else (doubleQuoted whole fuel rest).map fun r => (.text [c] true :: r.1, r.2)
      | _, _ => (doubleQuoted whole fuel rest).map fun r => (.text [c] true :: r.1, r.2)

/-- The pieces of a text that is expanded as a whole. -/
def expandable (t : Text) : Word :=
  match doubleQuoted true (t.length + 1) t with
  | some (w, _) => w
  | none => [.text t true]

/-- Whether a character ends a word. -/
def endsWord (c : Char) : Bool :=
  c == ' ' || c == '\t' || c == '\n' || c == ';' || c == '&' || c == '|' || c == '<' || c == '>' ||
    c == '(' || c == ')'

/-- The pieces of a word, and what follows it. -/
def word : Nat → Text → Option (Word × Text)
  | 0, _ => none
  | _, [] => some ([], [])
  | fuel + 1, c :: rest =>
    if endsWord c then some ([], c :: rest)
    else if c == '\'' then
      let content := rest.takeWhile (· != '\'')
      if content.length == rest.length then none
      else
        (word fuel (rest.drop (content.length + 1))).map fun r => (.text content true :: r.1, r.2)
    else if c == '"' then do
      let (pieces, rest) ← doubleQuoted false (rest.length + 1) rest
      let (more, rest) ← word fuel rest
      return (.text [] true :: pieces ++ more, rest)
    else if c == '$' then
      let (piece, rest) := dollar false rest
      (word fuel rest).map fun r => (piece :: r.1, r.2)
    else if c == '\x60' then do
      let (commands, rest) ← backquoted rest
      let (more, rest) ← word fuel rest
      return (.output commands false :: more, rest)
    else
      match c, rest with
      | '\\', '\n' :: rest => word fuel rest
      | '\\', d :: rest => (word fuel rest).map fun r => (.text [d] true :: r.1, r.2)
      | _, _ => (word fuel rest).map fun r => (.text [c] false :: r.1, r.2)

/-- The text of a word without quotes and expansions. -/
def plainText? : Word → Option Text
  | [] => some []
  | .text t false :: rest => (plainText? rest).map (t ++ ·)
  | _ => none

/-! ## Tokens -/

/-- A word or an operator. -/
inductive Token where
  | word (w : Word)
  | operator (t : Text)
  /-- The start of a redirection of a stream. -/
  | redirect (stream : Nat) (sign : Text)
  /-- A text in the script that is read from. -/
  | hereText (content : Word)
deriving DecidableEq, Repr

/-- The operators, longer ones first. -/
def operators : List Text :=
  ["&&".toList, "||".toList, ";;".toList, ";".toList, "\n".toList, "&".toList, "|".toList,
   "(".toList, ")".toList]

/-- The signs of redirections, longer ones first. -/
def redirectSigns : List Text :=
  [">&".toList, "<&".toList, ">>".toList, ">".toList, "<".toList]

/-- The redirection that a text begins with. A digit before the sign names the stream. -/
def redirect? (t : Text) : Option (Token × Text) :=
  let (stream, t) : Option Nat × Text := match t with
    | c :: rest => if c.isDigit then (some (c.toNat - '0'.toNat), rest) else (none, t)
    | [] => (none, t)
  redirectSigns.findSome? fun sign =>
    (Text.after? t sign).map fun rest =>
      (.redirect (stream.getD (if sign.head? == some '<' then 0 else 1)) sign, rest)

/-- The characters of a word without its quotes. -/
def bareText (w : Word) : Text :=
  w.flatMap fun p => match p with
    | .text t _ => t
    | _ => []

/-- The lines up to one that is the delimiter, and what follows that line. -/
def hereLines (dropTabs : Bool) (delimiter : Text) : Nat → Text → Text × Text
  | 0, t => ([], t)
  | _, [] => ([], [])
  | fuel + 1, t =>
    let line := t.takeWhile (· != '\n')
    let rest := t.drop (line.length + 1)
    let line := if dropTabs then line.dropWhile (· == '\t') else line
    if line == delimiter then ([], rest)
    else
      let (more, rest) := hereLines dropTabs delimiter fuel rest
      (line ++ '\n' :: more, rest)

/-- A text that is read from, after the sign `<<`, and the script without the text. -/
def hereText? (t : Text) : Option (Token × Text) := do
  let (dropTabs, t) := match t with
    | '-' :: rest => (true, rest)
    | _ => (false, t)
  let t := t.dropWhile fun c => c == ' ' || c == '\t'
  let (delimiter, t) ← word (t.length + 1) t
  let line := t.takeWhile (· != '\n')
  let after := t.drop (line.length + 1)
  let (content, rest) := hereLines dropTabs (bareText delimiter) (after.length + 1) after
  let w := if (plainText? delimiter).isSome then expandable content else [.text content true]
  return (.hereText w, line ++ '\n' :: rest)

/-- The tokens of a script. -/
def tokens : Nat → Text → Option (List Token)
  | 0, _ => none
  | _, [] => some []
  | fuel + 1, c :: rest =>
    let t := c :: rest
    if c == ' ' || c == '\t' then tokens fuel rest
    else if c == '#' then tokens fuel (rest.dropWhile (· != '\n'))
    else if c == '\\' && rest.head? == some '\n' then tokens fuel (rest.drop 1)
    else if Text.startsWith t "<<".toList then do
      let (token, rest) ← hereText? (t.drop 2)
      return token :: (← tokens fuel rest)
    else
      match redirect? t with
      | some (token, rest) => (tokens fuel rest).map (token :: ·)
      | none =>
        match operators.findSome? fun o => (Text.after? t o).map fun rest => (o, rest) with
        | some (o, rest) => (tokens fuel rest).map (.operator o :: ·)
        | none => do
          let (w, rest) ← word (t.length + 1) t
          return .word w :: (← tokens fuel rest)

/-! ## Commands -/

/-- The reserved word or operator at the beginning of tokens. -/
def keyword? : List Token → Option Text
  | .word w :: _ => plainText? w
  | .operator o :: _ => some o
  | _ => none

/-- Passes a reserved word or operator. -/
def expect? (k : String) (ts : List Token) : Option (List Token) :=
  if keyword? ts == some k.toList then some ts.tail else none

/-- Whether a list of commands ends here. -/
def endsList (ts : List Token) : Bool :=
  match keyword? ts with
  | none => ts.isEmpty
  | some k =>
    ["then".toList, "else".toList, "elif".toList, "fi".toList, "do".toList, "done".toList,
     "\x7d".toList, ")".toList, ";;".toList, "esac".toList].contains k

/-- Tokens without line ends at their beginning. -/
def skipLines (ts : List Token) : List Token :=
  ts.dropWhile (· == .operator "\n".toList)

/-- An assignment, if a word is one. -/
def assignment? (w : Word) : Option (Text × Word) :=
  let name := (w.takeWhile fun p => match p with
    | .text [c] false => isNameChar c
    | _ => false)
  match plainText? name, w.drop name.length with
  | some n, .text ['='] false :: value => if isName n then some (n, value) else none
  | _, _ => none

/-- A redirection with its target, and what follows it. -/
def redirection? : List Token → Option (Redirection × List Token)
  | .redirect stream sign :: .word w :: rest =>
    if sign == ">&".toList || sign == "<&".toList then
      ((plainText? w).bind Text.toNat?).map fun target => (.toStream stream target, rest)
    else if sign == "<".toList then some (.toFile stream .read w, rest)
    else if sign == ">>".toList then some (.toFile stream .append w, rest)
    else some (.toFile stream .write w, rest)
  | .hereText content :: rest => some (.fromText content, rest)
  | _ => none

/-- The redirections at the beginning of tokens. -/
def redirections : Nat → List Token → List Redirection × List Token
  | 0, ts => ([], ts)
  | fuel + 1, ts =>
    match redirection? ts with
    | none => ([], ts)
    | some (r, rest) =>
      let (rs, rest) := redirections fuel rest
      (r :: rs, rest)

/-- The words and redirections of a simple command, and what follows it. -/
def simpleParts : Nat → List Token → List Word × List Redirection × List Token
  | 0, ts => ([], [], ts)
  | fuel + 1, ts =>
    match ts with
    | .word w :: rest =>
      let (ws, rs, rest) := simpleParts fuel rest
      (w :: ws, rs, rest)
    | _ =>
      match redirection? ts with
      | none => ([], [], ts)
      | some (r, rest) =>
        let (ws, rs, rest) := simpleParts fuel rest
        (ws, r :: rs, rest)

/-- A simple command: assignments, then words. -/
def simple? (ts : List Token) : Option (Command × List Token) :=
  let (ws, rs, rest) := simpleParts (ts.length + 1) ts
  if ws.isEmpty && rs.isEmpty then none
  else
    let leading := ws.takeWhile fun w => (assignment? w).isSome
    some (.simple (leading.filterMap assignment?) (ws.drop leading.length) rs, rest)

/-- The words of a loop over words. -/
def loopWords : List Token → List Word × List Token
  | .word w :: rest =>
    let (ws, rest) := loopWords rest
    (w :: ws, rest)
  | ts => ([], ts)

/-- The patterns of a branch, separated by bars, and what follows their closing parenthesis. -/
def branchPatterns : Nat → List Token → Option (List Word × List Token)
  | 0, _ => none
  | fuel + 1, ts =>
    match ts with
    | .word w :: rest =>
      match expect? "|" rest with
      | some rest => (branchPatterns fuel rest).map fun r => (w :: r.1, r.2)
      | none => (expect? ")" rest).map fun rest => ([w], rest)
    | _ => none

/-- Passes a semicolon or line ends. -/
def skipBreak (ts : List Token) : List Token :=
  skipLines ((expect? ";" ts).getD ts)

/-- A command with the redirections after it. -/
def withRedirections (r : Command × List Token) : Command × List Token :=
  let (rs, rest) := redirections r.2.length r.2
  (if rs.isEmpty then r.1 else .group false r.1 rs, rest)

mutual

/-- A list of commands, and what follows it. -/
def list? : Nat → List Token → Option (Command × List Token)
  | 0, _ => none
  | fuel + 1, ts =>
    let ts := skipLines ts
    if endsList ts then some (.nothing, ts)
    else do
      let (c, ts) ← chain? fuel ts
      match keyword? ts with
      | some k =>
        if k == ";".toList || k == "\n".toList || k == "&".toList then
          let (more, ts) ← list? fuel ts.tail
          return (.sequence (if k == "&".toList then .background c else c) more, ts)
        else if endsList ts then return (c, ts)
        else none
      | none => if ts.isEmpty then return (c, ts) else none

/-- Commands joined by `&&` and `||`. -/
def chain? : Nat → List Token → Option (Command × List Token)
  | 0, _ => none
  | fuel + 1, ts => do
    let (c, ts) ← pipeline? fuel ts
    chainRest? fuel c ts

/-- What follows the first command of a chain. -/
def chainRest? : Nat → Command → List Token → Option (Command × List Token)
  | 0, _, _ => none
  | fuel + 1, c, ts =>
    match expect? "&&" ts, expect? "||" ts with
    | some rest, _ => do
      let (d, rest) ← pipeline? fuel (skipLines rest)
      chainRest? fuel (.andThen c d) rest
    | _, some rest => do
      let (d, rest) ← pipeline? fuel (skipLines rest)
      chainRest? fuel (.orElse c d) rest
    | none, none => some (c, ts)

/-- Commands joined by pipes. -/
def pipeline? : Nat → List Token → Option (Command × List Token)
  | 0, _ => none
  | fuel + 1, ts =>
    match expect? "!" ts with
    | some rest => (pipeline? fuel rest).map fun r => (.negate r.1, r.2)
    | none => do
      let (c, ts) ← command? fuel ts
      match expect? "|" ts with
      | some rest =>
        let (d, rest) ← pipeline? fuel (skipLines rest)
        return (.pipe c d, rest)
      | none => return (c, ts)

/-- One command. -/
def command? : Nat → List Token → Option (Command × List Token)
  | 0, _ => none
  | fuel + 1, ts =>
    match keyword? ts with
    | some ['i', 'f'] => (conditional? fuel ts.tail).map withRedirections
    | some ['w', 'h', 'i', 'l', 'e'] => (loop? fuel true ts.tail).map withRedirections
    | some ['u', 'n', 't', 'i', 'l'] => (loop? fuel false ts.tail).map withRedirections
    | some ['c', 'a', 's', 'e'] =>
      match ts.tail with
      | .word subject :: rest => do
        let rest ← expect? "in" (skipLines rest)
        (branches? fuel subject rest).map withRedirections
      | _ => none
    | some ['f', 'o', 'r'] => do
      let name ← keyword? ts.tail
      let rest ← expect? "in" ts.tail.tail
      let (ws, rest) := loopWords rest
      let rest ← expect? "do" (skipBreak rest)
      let (body, rest) ← list? fuel rest
      return withRedirections (.forEach name ws body, ← expect? "done" rest)
    | some ['\x7b'] => do
      let (body, rest) ← list? fuel ts.tail
      let (rs, rest) := redirections rest.length (← expect? "\x7d" rest)
      return (.group false body rs, rest)
    | some ['('] => do
      let (body, rest) ← list? fuel ts.tail
      let (rs, rest) := redirections rest.length (← expect? ")" rest)
      return (.group true body rs, rest)
    | some name =>
      match (expect? "(" ts.tail).bind (expect? ")") with
      | some rest =>
        if isName name then
          (command? fuel (skipLines rest)).map fun r => (.define name r.1, r.2)
        else none
      | none => simple? ts
    | none => simple? ts

/-- The branches of a choice, after its subject. -/
def branches? : Nat → Word → List Token → Option (Command × List Token)
  | 0, _, _ => none
  | fuel + 1, subject, ts =>
    let ts := skipLines ts
    match expect? "esac" ts with
    | some rest => some (.nothing, rest)
    | none => do
      let (patterns, ts) ← branchPatterns (ts.length + 1) ((expect? "(" ts).getD ts)
      let (body, ts) ← list? fuel ts
      let (others, ts) ← branches? fuel subject ((expect? ";;" ts).getD ts)
      return (.choose subject patterns body others, ts)

/-- A conditional, after its first word. -/
def conditional? : Nat → List Token → Option (Command × List Token)
  | 0, _ => none
  | fuel + 1, ts => do
    let (test, ts) ← list? fuel ts
    let (yes, ts) ← list? fuel (← expect? "then" ts)
    match expect? "elif" ts, expect? "else" ts with
    | some rest, _ =>
      let (no, rest) ← conditional? fuel rest
      return (.conditional test yes no, rest)
    | _, some rest =>
      let (no, rest) ← list? fuel rest
      return (.conditional test yes no, ← expect? "fi" rest)
    | none, none => return (.conditional test yes .nothing, ← expect? "fi" ts)

/-- A loop, after its first word. -/
def loop? : Nat → Bool → List Token → Option (Command × List Token)
  | 0, _, _ => none
  | fuel + 1, outcome, ts => do
    let (test, ts) ← list? fuel ts
    let (body, ts) ← list? fuel (← expect? "do" ts)
    return (.loop outcome test body, ← expect? "done" ts)

end

/-- Why a script is no list of commands. -/
inductive ScriptError where
  | unterminated
  | unexpected (t : Option Token)
deriving DecidableEq, Repr

/-- The wording of a script error. -/
def ScriptError.message : ScriptError → Text
  | .unterminated => "Unterminated quoted string".toList
  | .unexpected (some (.operator ['\n'])) => "newline unexpected".toList
  | .unexpected (some (.operator o)) => '"' :: o ++ "\" unexpected".toList
  | .unexpected (some (.word w)) => '"' :: bareText w ++ "\" unexpected".toList
  | .unexpected (some _) => "redirection unexpected".toList
  | .unexpected none => "end of file unexpected".toList

/-- Reads a script. -/
def read (script : Text) : Except ScriptError Command :=
  match tokens (script.length + 1) script with
  | none => .error .unterminated
  | some ts =>
    match list? (4 * ts.length + 8) ts with
    | some (c, []) => .ok c
    | some (_, t :: _) => .error (.unexpected (some t))
    | none => .error (.unexpected none)

end TranscriptLint.Shell
