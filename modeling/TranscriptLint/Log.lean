import TranscriptLint.Lookup
import TranscriptLint.Regex.Reader
import TranscriptLint.Render

namespace TranscriptLint

/-!
# The log

Which notices are shown, and how. A filter comes from the environment; without one, warnings are
shown, and progress too if the user asks for it.

* `LogFilter.read` reads a filter: directives between commas, each a level, a topic or
  `topic=level`, and after a `/` a regular expression that has to occur in messages.
* `LogFilter.shows` decides by the longest directive whose name begins the notice's topic.
* `Log.line` is a notice as it is shown. Without colours, messages lose their escape sequences.
-/

namespace Level

/-- The name of a level. -/
def name : Level → Text
  | .error => "ERROR".toList
  | .warn => "WARN".toList
  | .info => "INFO".toList
  | .debug => "DEBUG".toList
  | .trace => "TRACE".toList

/-- The levels, the most important first. -/
def all : List Level := [.error, .warn, .info, .debug, .trace]

/-- The style of a level's name. -/
def style : Level → String
  | .error => "1;31"
  | .warn => "33"
  | .info => "32"
  | .debug => "34"
  | .trace => "36"

/-- The rank up to which notices are shown, by its name in either case of letters; zero shows
none. -/
def readRank? (t : Text) : Option Nat :=
  if t.lowerAscii == "off".toList then some 0
  else (all.find? fun l => l.name.lowerAscii == t.lowerAscii).map rank

end Level

/-! ## Filters -/

/-- Shows the notices of topics whose name begins with `name`, or of all topics, up to a rank. -/
structure Directive where
  name : Option Text
  rank : Nat
deriving DecidableEq, Repr

/-- The start that names of topics have to have. -/
def Directive.start (d : Directive) : Text := d.name.getD []

/-- A filter of notices. -/
structure LogFilter where
  directives : List Directive
  /-- An expression that has to occur in messages. -/
  expression : Regex := .empty
deriving DecidableEq, Repr

namespace LogFilter

/-- Shows notices of every topic up to a level. -/
def upTo (l : Level) : LogFilter := { directives := [⟨none, l.rank⟩] }

/-- Reads one directive, or gives the part of it that is no level. -/
def readDirective (t : Text) : Except Text Directive :=
  match Text.splitOn '=' t with
  | [one] =>
    match Level.readRank? one with
    | some rank => .ok ⟨none, rank⟩
    | none => .ok ⟨some one, Level.trace.rank⟩
  | [name, level] =>
    let level := Text.trim level
    if level.isEmpty then .ok ⟨some name, Level.trace.rank⟩
    else
      match Level.readRank? level with
      | some rank => .ok ⟨some name, rank⟩
      | none => .error level
  | _ => .error t

/-- Puts a directive in place of an earlier one of the same name. -/
def insert (d : Directive) (ds : List Directive) : List Directive :=
  if ds.any fun e => e.name == d.name then ds.map fun e => if e.name == d.name then d else e
  else ds ++ [d]

/-- Reads the directives between commas, and gives those that cannot be read. -/
def readDirectives (t : Text) : List Directive × List Text :=
  let read := ((((Text.splitOn ',' t).map Text.trim).filter fun s => !s.isEmpty)).map readDirective
  (read.foldl (fun ds r => match r with
    | .ok d => insert d ds
    | .error _ => ds) [],
   read.filterMap fun r => match r with
    | .ok _ => none
    | .error bad => some ("invalid logging spec '".toList ++ bad ++ "'".toList))

/-- The filter with these directives; errors are shown when there are none. -/
def ofDirectives (ds : List Directive) (expression : Regex) : LogFilter :=
  { directives := if ds.isEmpty then [⟨none, Level.error.rank⟩] else ds, expression }

/-- Reads the expression of a filter. One that cannot be read counts as empty; none is refused for
its size. -/
def readExpression (t : Text) : Regex × List Text :=
  match Regex.read? t with
  | .ok r => (r, [])
  | .error e => (.empty, ["invalid regex filter - ".toList ++ e.message t])

/-- Reads a filter, and gives what is wrong with it. -/
def read (t : Text) : LogFilter × List Text :=
  match Text.splitOn '/' t with
  | [] => (ofDirectives [] .empty, [])
  | [directives] =>
    let (ds, bad) := readDirectives directives
    (ofDirectives ds .empty, bad)
  | [directives, expression] =>
    let (ds, bad) := readDirectives directives
    let (r, alsoBad) := readExpression expression
    (ofDirectives ds r, bad ++ alsoBad)
  | _ =>
    (ofDirectives [] .empty,
      ["invalid logging spec '".toList ++ t ++ "' (too many '/'s)".toList])

/-- The longer of two directives; of two that are as long, the later one. -/
def longer (best : Option Directive) (d : Directive) : Option Directive :=
  match best with
  | some b => if b.start.length ≤ d.start.length then some d else some b
  | none => some d

/-- Whether a notice is shown. -/
def shows (f : LogFilter) (n : Notice) : Bool :=
  let fitting := f.directives.filter fun d => n.topic.name.startsWith d.start
  match fitting.foldl longer none with
  | none => false
  | some d => n.level.rank ≤ d.rank && f.expression.occursIn n.message

end LogFilter

/-! ## Escape sequences -/

/-- Where in an escape sequence a text is. -/
inductive EscapeState where
  | ground
  | escape
  /-- After an intermediate character of a short sequence. -/
  | intermediate
  /-- In a control sequence, which ends with a letter. -/
  | control
  /-- In a command of the operating system, which may end with a bell. -/
  | command
  /-- In a string that only another escape ends. -/
  | string
deriving DecidableEq, Repr

namespace EscapeState

/-- The state after a printable character of a sequence. -/
def next (s : EscapeState) (c : Char) : EscapeState :=
  match s with
  | .ground => .ground
  | .escape =>
    if c < '0' then .intermediate
    else if c = '[' then .control
    else if c = ']' then .command
    else if c = 'P' || c = 'X' || c = '^' || c = '_' then .string
    else .ground
  | .intermediate => if c < '0' then .intermediate else .ground
  | .control => if c < '@' then .control else .ground
  | .command => .command
  | .string => .string

/-- The state after a character, and whether the character is kept. -/
def step (s : EscapeState) (c : Char) : EscapeState × Bool :=
  let isBlank := c == '\t' || c == '\n' || c == '\r' || c == '\x0c'
  if c = '\x1b' then (.escape, false)
  else if c = '\x18' || c = '\x1a' then (.ground, false)
  else if c < ' ' then
    match s with
    | .command => (if c = '\x07' then .ground else s, false)
    | .string => (s, false)
    | _ => (s, isBlank)
  else if c = '\x7f' then (s, false)
  else if '\x7f' < c then (s, s == .ground)
  else (s.next c, s == .ground)

/-- A text without its escape sequences and without control characters other than blanks. -/
def strip (s : EscapeState) : Text → Text
  | [] => []
  | c :: t =>
    match s.step c with
    | (s, true) => c :: strip s t
    | (s, false) => strip s t

end EscapeState

/-! ## Lines -/

namespace Log

/-- Whether the results have colours, though no stream is a terminal. -/
def forcesColours (e : Environment) : Bool :=
  match e.get? "CLICOLOR_FORCE" with
  | some v => v != "0".toList
  | none => false

/-- Whether the log has colours: a style says so if there is a filter too. Else one variable asks
for colours and another forbids them, each by any text that is not empty. -/
def usesColours (e : Environment) : Bool :=
  let style := if (e.get? "RUST_LOG").isSome then e.get? "RUST_LOG_STYLE" else none
  if style == some "always".toList then true
  else if style == some "never".toList then false
  else ((e.get? "NO_COLOR").getD []).isEmpty && !((e.get? "CLICOLOR_FORCE").getD []).isEmpty

/-- The filter of a run, and what is wrong with it. The environment wins over the user's wish to see
progress. -/
def filter (e : Environment) (verbose : Bool) : LogFilter × List Text :=
  match e.get? "RUST_LOG" with
  | some t => LogFilter.read t
  | none => (.upTo (if verbose then .info else .warn), [])

/-- The name of a level, filled up to the width of a column. -/
def column (l : Level) : Text := l.name ++ List.replicate (5 - l.name.length) ' '

/-- A message with its further lines indented. -/
def indented (message : Text) : Text :=
  Text.joinWith "\n    ".toList (Text.splitOn '\n' message)

/-- A notice as it is shown. -/
def line (colours : Bool) (n : Notice) : Text :=
  let plain (t : Text) := if colours then t else EscapeState.ground.strip t
  let mark (t : String) := if colours then Render.style "90" ++ t.toList ++ Render.reset else t.toList
  let level :=
    if colours then Render.style n.level.style ++ column n.level ++ Render.reset
    else column n.level
  mark "[" ++ level ++ mark "]" ++ " ".toList ++ plain (indented n.message)

end Log
end TranscriptLint
