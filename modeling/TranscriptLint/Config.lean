import TranscriptLint.Dialect
import TranscriptLint.FileTree
import TranscriptLint.Toml.Reader
import TranscriptLint.Version

namespace TranscriptLint

/-!
# Configuration

Options come from a TOML file, are replaced by those given on the command line, and are checked
before anything else happens.

* `Config.ofToml` reads a file of options, `Config.ofProject` the options in a project file.
* `Config.load` finds and reads the file that applies.
* `Config.check` says which options are valid, and which mistake is reported first.
-/

/-- The `debug` option, which is a truth value or a number. -/
inductive DebugFlag where
  | bool (b : Bool)
  | int (n : Int)
deriving DecidableEq, Repr

/-- The options of a run. -/
structure Config where
  /-- Language tags that are treated as shell transcripts. -/
  dialects : List Text := Dialect.all.map Dialect.name
  /-- The name or path of the linter. -/
  executable : Text := "shellcheck".toList
  /-- The mark of a command line in a transcript. -/
  prompt : Text := "$".toList
  debug : DebugFlag := .int 0
  tabWidth : Nat := 8
  /-- The time limit of the linter in milliseconds; zero for none. -/
  timeout : Nat := 30000
  reportFile : Option Path := none
  /-- Directories in which modules are looked up. -/
  searchPath : List Path := [.ofString "."]
  /-- Glob patterns of documents that are left out. -/
  exclude : List Text := []
deriving DecidableEq, Repr

/-- Why a configuration cannot be used. -/
inductive ConfigError where
  | unreadable (path : Path) (fault : Fault)
  | malformed (path : Path)
  | invalidDialect (name : Text)
  | invalidPrompt (prompt : Text)
  | invalidDebug (n : Int)
  | invalidTabWidth (n : Nat)
  | linterNotFound (name : Text)
  | unknownVersion (path : Path)
  | linterTooOld (path : Path) (found : Version)
deriving DecidableEq, Repr

/-- The wording of a configuration error. The description of a malformed file is left open. -/
def ConfigError.message : ConfigError → Text
  | .unreadable path fault =>
    "Failed to read config file at ".toList ++ path.text ++ ": ".toList ++ fault.message
  | .malformed path => "Failed to parse config file at ".toList ++ path.text ++ ": ".toList
  | .invalidDialect name =>
    "Invalid dialect '".toList ++ name ++ "' (allowed: sh, bash, dash, ksh)".toList
  | .invalidPrompt prompt =>
    "Invalid prompt '".toList ++ prompt ++ "': the prompt must be exactly one character".toList
  | .invalidDebug n => "Invalid debug value ".toList ++ Text.ofInt n ++ ": expected 0 or 1".toList
  | .invalidTabWidth n =>
    "Invalid tab width ".toList ++ Text.ofNat n ++ ": must be at least 1".toList
  | .linterNotFound name => "Linter executable '".toList ++ name ++ "' not found".toList
  | .unknownVersion path => "Could not determine the version of ".toList ++ path.text
  | .linterTooOld path found =>
    path.text ++ " is version ".toList ++ found.text ++ ", at least ".toList ++
      Version.oldest.text ++ " is required".toList

/-- The messages of a configuration error and of what caused it. -/
def ConfigError.chain (e : ConfigError) : List Text :=
  match e with
  | .unreadable _ fault => [e.message, fault.message]
  | _ => [e.message]

namespace Config

/-! ## Reading options -/

/-- The bound of numbers that count something: two to the power of 64. -/
def countBound : Nat := 18446744073709551616

/-- The bound of numbers with a sign: two to the power of 63. -/
def signedBound : Int := 9223372036854775808

/-- Whether a number fits into 64 bits with a sign. -/
def isSigned (n : Int) : Bool := -signedBound ≤ n && n < signedBound

/-- A text. -/
def textOf? : Toml → Option Text
  | .string t => some t
  | _ => none

/-- A list of texts. -/
def textsOf? : Toml → Option (List Text)
  | .array items => items.mapM textOf?
  | _ => none

/-- A number that counts something. -/
def countOf? : Toml → Option Nat
  | .integer n => if 0 ≤ n && n < countBound then some n.toNat else none
  | _ => none

/-- A truth value or a number. -/
def debugOf? : Toml → Option DebugFlag
  | .bool b => some (.bool b)
  | .integer n => if isSigned n then some (.int n) else none
  | _ => none

/-- The names of the options, in their order. -/
def optionNames : List Text :=
  ["dialects".toList, "executable".toList, "prompt".toList, "debug".toList, "tab-width".toList,
   "timeout".toList, "report-file".toList, "python-path".toList, "exclude".toList]

/-- Sets the option at a place in the order of options. -/
def setOption? (place : Nat) (v : Toml) (c : Config) : Option Config :=
  match place with
  | 0 => (textsOf? v).map fun ds => { c with dialects := ds }
  | 1 => (textOf? v).map fun e => { c with executable := e }
  | 2 => (textOf? v).map fun p => { c with prompt := p }
  | 3 => (debugOf? v).map fun d => { c with debug := d }
  | 4 => (countOf? v).map fun n => { c with tabWidth := n }
  | 5 => (countOf? v).map fun n => { c with timeout := n }
  | 6 => (textOf? v).map fun p => { c with reportFile := some ⟨p⟩ }
  | 7 => (textsOf? v).map fun ps => { c with searchPath := ps.map Path.mk }
  | 8 => (textsOf? v).map fun es => { c with exclude := es }
  | _ => none

/-- Sets options in turn, each given by its place. -/
def setOptions? : List (Option Nat × Toml) → Config → Option Config
  | [], c => some c
  | (some place, v) :: rest, c => (setOption? place v c).bind (setOptions? rest)
  | (none, _) :: _, _ => none

/-- Reads options: a table by names, of which none may be unknown, or an array in the order of
options. -/
def ofValue? : Toml → Option Config
  | .table entries =>
    setOptions? (entries.map fun e => (optionNames.idxOf? e.1, e.2)) {}
  | .array items => setOptions? (items.mapIdx fun i v => (some i, v)) {}
  | _ => none

/-- Reads a file of options. -/
def ofToml (path : Path) (content : Text) : Except ConfigError Config :=
  match (Toml.read? content).bind ofValue? with
  | some c => .ok c
  | none => .error (.malformed path)

mutual

/-- Whether every number in a value fits into 64 bits with a sign. -/
def hasSignedNumbers : Toml → Bool
  | .integer n => isSigned n
  | .array items => allSigned items
  | .table entries => allEntriesSigned entries
  | _ => true

/-- Whether every number in the items fits. -/
def allSigned : List Toml → Bool
  | [] => true
  | v :: vs => hasSignedNumbers v && allSigned vs

/-- Whether every number in the entries fits. -/
def allEntriesSigned : List (Text × Toml) → Bool
  | [] => true
  | (_, v) :: es => hasSignedNumbers v && allEntriesSigned es

end

/-- Reads the options in a project file; none if it has no table for them. There a date or a time
counts as its text. -/
def ofProject (path : Path) (content : Text) : Except ConfigError (Option Config) :=
  match (Toml.read? content).filter hasSignedNumbers with
  | none => .error (.malformed path)
  | some document =>
    match (document.get? "tool".toList).bind (Toml.get? "shdoclint".toList) with
    | none => .ok none
    | some v =>
      match ofValue? v.datesAsText with
      | some c => .ok (some c)
      | none => .error (.malformed path)

/-! ## Finding the file -/

/-- The name of a project file. -/
def projectFile : Text := "pyproject.toml".toList

/-- The names of configuration files, the first of which counts. -/
def fileNames : List Text := [".shdoclint.toml".toList, "shdoclint.toml".toList, projectFile]

/-- Reads the file at a path. -/
def loadFile (d : Disk) (path : Path) : Except ConfigError Config :=
  match d.readText? path with
  | .error fault => .error (.unreadable path fault)
  | .ok content =>
    if path.fileName? == some projectFile then
      match ofProject path content with
      | .ok c => .ok (c.getD {})
      | .error e => .error e
    else ofToml path content

/-- Whether a file counts as a configuration file. A project file must mention the options. -/
def isCandidate (d : Disk) (dir : Path) (name : Text) : Bool :=
  let path := dir.join ⟨name⟩
  d.isFile path &&
    (name != projectFile ||
      match d.readText? path with
      | .ok content => Text.occursIn "tool.shdoclint".toList content
      | .error _ => false)

/-- The configuration file of a directory. -/
def discover (d : Disk) (dir : Path) : Option Path :=
  (fileNames.find? (isCandidate d dir)).map fun name => dir.join ⟨name⟩

/-- The options of a run and the file they come from: one named by the user, one found in the
directory, or none. -/
def load (d : Disk) (explicit : Option Path) (ignoreFiles : Bool) (dir : Path) :
    Except ConfigError (Config × Option Path) :=
  match if ignoreFiles then none else explicit <|> discover d dir with
  | none => .ok ({}, none)
  | some path =>
    match loadFile d path with
    | .ok c => .ok (c, some path)
    | .error e => .error e

/-! ## Overriding and checking -/

/-- Options given on the command line. -/
structure Overrides where
  dialects : Option (List Text) := none
  executable : Option Text := none
  prompt : Option Text := none
  debug : Bool := false
  tabWidth : Option Nat := none
  timeout : Option Nat := none
  reportFile : Option Path := none
  exclude : Option (List Text) := none
deriving DecidableEq, Repr

/-- The options with those of the command line in place of the others. -/
def override (c : Config) (o : Overrides) : Config :=
  { c with
    dialects := o.dialects.getD c.dialects
    executable := o.executable.getD c.executable
    prompt := o.prompt.getD c.prompt
    debug := if o.debug then .bool true else c.debug
    tabWidth := o.tabWidth.getD c.tabWidth
    timeout := o.timeout.getD c.timeout
    reportFile := o.reportFile <|> c.reportFile
    exclude := o.exclude.getD c.exclude }

/-- Options that have been checked. -/
structure Checked where
  /-- The dialects, each once and in the fixed order. -/
  dialects : List Dialect
  prompt : Char
  debug : Bool
  tabWidth : Nat
deriving DecidableEq, Repr

/-- The dialects that names stand for, or the first name that stands for none. -/
def checkDialects : List Text → Except ConfigError (List Dialect)
  | [] => .ok []
  | name :: names =>
    match Dialect.ofName name with
    | .error _ => .error (.invalidDialect name)
    | .ok d =>
      match checkDialects names with
      | .error e => .error e
      | .ok ds => .ok (d :: ds)

/-- The prompt, if it is one character. -/
def checkPrompt : Text → Except ConfigError Char
  | [c] => .ok c
  | prompt => .error (.invalidPrompt prompt)

/-- Whether debugging is on. -/
def checkDebug : DebugFlag → Except ConfigError Bool
  | .bool b => .ok b
  | .int n => if n = 0 then .ok false else if n = 1 then .ok true else .error (.invalidDebug n)

/-- The tab width, if it is not zero. -/
def checkTabWidth (n : Nat) : Except ConfigError Nat :=
  if n = 0 then .error (.invalidTabWidth n) else .ok n

/-- Checks the options in the order dialects, prompt, debug, tab width. -/
def check (c : Config) : Except ConfigError Checked := do
  let dialects ← checkDialects c.dialects
  let prompt ← checkPrompt c.prompt
  let debug ← checkDebug c.debug
  let tabWidth ← checkTabWidth c.tabWidth
  return ⟨Dialect.inOrder dialects, prompt, debug, tabWidth⟩

end Config
end TranscriptLint
