import TranscriptLint.Config
import TranscriptLint.Render

namespace TranscriptLint

/-!
# The command line

Arguments are read from left to right: options with one or two dashes, operands, and after a lone
`--` only operands. Reading stops at the first mistake, or where help or the version is asked for.

* `Scope.read` reads the arguments of one command.
* `Invocation.ofArguments` says what the user wants. The name of a command is one only as the very
  first argument; later it is a path like any other.
-/

/-! ## Options -/

/-- An option of the command line. -/
inductive Opt where
  | config
  | noConfig
  | verbose
  | dialects
  | executable
  | prompt
  | debug
  | report
  | tabWidth
  | timeout
  | exclude
  | outputFormat
  | stderr
  | quiet
  | silent
  | list
  | help
  | version
deriving DecidableEq, Repr

namespace Opt

/-- The name of an option, as it stands after two dashes. -/
def long : Opt → String
  | .config => "config"
  | .noConfig => "no-config"
  | .verbose => "verbose"
  | .dialects => "dialects"
  | .executable => "executable"
  | .prompt => "prompt"
  | .debug => "debug"
  | .report => "report"
  | .tabWidth => "tab-width"
  | .timeout => "timeout"
  | .exclude => "exclude"
  | .outputFormat => "output-format"
  | .stderr => "stderr"
  | .quiet => "quiet"
  | .silent => "silent"
  | .list => "list"
  | .help => "help"
  | .version => "version"

/-- The letter of an option, as it stands after one dash. -/
def letter? : Opt → Option Char
  | .config => some 'c'
  | .verbose => some 'v'
  | .outputFormat => some 'o'
  | .quiet => some 'q'
  | .silent => some 's'
  | .help => some 'h'
  | .version => some 'V'
  | _ => none

/-- What an option is for. -/
def description : Opt → String
  | .config => "Configuration file path"
  | .noConfig => "Ignore all configuration files and use built-in defaults"
  | .verbose => "Show detailed output"
  | .dialects => "Shell dialects to lint (comma-separated: sh, bash, dash, ksh)"
  | .executable => "shellcheck executable (name on PATH or path)"
  | .prompt => "Character that starts a command line in a transcript"
  | .debug => "Trace blocks, generated scripts and linter output"
  | .report => "Also write the report to this file (truncated first)"
  | .tabWidth => "Tab stop used when expanding tabs"
  | .timeout => "Linter timeout in milliseconds (0 disables it)"
  | .exclude => "Exclude specific files or directories (comma-separated glob patterns)"
  | .outputFormat => "Output format for lint results"
  | .stderr => "Output diagnostics to stderr instead of stdout"
  | .quiet => "Print diagnostics, but nothing else"
  | .silent => "Disable all output (but still exit with status code upon detecting diagnostics)"
  | .list => "List available shells"
  | .help => "Print help"
  | .version => "Print version"

/-- Whether an option has a value. -/
def takesValue : Opt → Bool
  | .config | .dialects | .executable | .prompt | .report | .tabWidth | .timeout | .exclude
  | .outputFormat => true
  | _ => false

/-- Whether an option may be given more than once; its values are then put together. -/
def isList : Opt → Bool
  | .dialects | .exclude => true
  | _ => false

/-- A number on the command line, which may have a plus sign and fits into 64 bits. -/
def count? (t : Text) : Option Nat :=
  (Text.toNat? (if t.head? == some '+' then t.tail else t)).filter (· < Config.countBound)

/-- The names of output formats on the command line, in lower case only. -/
def formatNames : List Text :=
  ["text".toList, "full".toList, "concise".toList, "json".toList]

/-- Whether a value is one that an option takes. -/
def accepts (o : Opt) (v : Text) : Bool :=
  match o with
  | .config | .report => !v.isEmpty
  | .tabWidth | .timeout => (count? v).isSome
  | .outputFormat => formatNames.contains v
  | _ => true

end Opt

/-! ## Commands -/

/-- What is done with the schema file. -/
inductive SchemaAction where
  | print
  | generate
  | check
deriving DecidableEq, Repr

/-- A shell that completion scripts are made for. -/
inductive CompletionShell where
  | bash
  | zsh
  | fish
  | powershell
  | elvish
deriving DecidableEq, Repr

namespace CompletionShell

/-- All shells, in the order in which they are listed. -/
def all : List CompletionShell := [.bash, .zsh, .fish, .powershell, .elvish]

/-- The name of a shell. -/
def name : CompletionShell → Text
  | .bash => "bash".toList
  | .zsh => "zsh".toList
  | .fish => "fish".toList
  | .powershell => "powershell".toList
  | .elvish => "elvish".toList

/-- The shell of a name. -/
def ofName? (t : Text) : Option CompletionShell := all.find? fun s => s.name == t

/-- The shell whose program is at a path. -/
def ofProgram? (p : Path) : Option CompletionShell :=
  p.fileName?.bind fun n => if n == "pwsh".toList then some .powershell else ofName? n

end CompletionShell

/-- A command, with its own options and operands. -/
inductive Scope where
  /-- No command: documents are checked. -/
  | root
  | check
  | init
  | completions
  | schema
  | schemaAction (a : SchemaAction)
  | help
deriving DecidableEq, Repr

namespace Scope

/-- The options of every command. -/
def sharedOptions : List Opt := [.config, .noConfig, .verbose, .help]

/-- The options for checking documents. -/
def checkOptions : List Opt :=
  [.dialects, .executable, .prompt, .debug, .report, .tabWidth, .timeout, .exclude, .outputFormat,
   .stderr, .quiet, .silent]

/-- The options of a command. -/
def options : Scope → List Opt
  | .root => checkOptions ++ sharedOptions ++ [.version]
  | .check => checkOptions ++ sharedOptions
  | .init => .quiet :: sharedOptions
  | .completions => .list :: sharedOptions
  | .schema | .schemaAction _ => sharedOptions
  | .help => []

/-- The names after which another command is meant. -/
def commands : Scope → List (Text × Scope)
  | .root =>
    [("check".toList, .check), ("init".toList, .init), ("completions".toList, .completions),
     ("schema".toList, .schema), ("help".toList, .help)]
  | .schema =>
    [("print".toList, .schemaAction .print), ("generate".toList, .schemaAction .generate),
     ("check".toList, .schemaAction .check), ("help".toList, .help)]
  | _ => []

/-- Whether a command takes one more operand after `n` operands. -/
def takesOperand (n : Nat) : Scope → Bool
  | .root | .check => true
  | .completions => n == 0
  | _ => false

/-- Whether a text can be an operand of a command. -/
def acceptsOperand (t : Text) : Scope → Bool
  | .completions => (CompletionShell.ofName? t).isSome
  | _ => !t.isEmpty

/-- The option with a name. -/
def byName? (s : Scope) (name : Text) : Option Opt := s.options.find? fun o => o.long.toList == name

/-- The option with a letter. -/
def byLetter? (s : Scope) (c : Char) : Option Opt := s.options.find? fun o => o.letter? == some c

end Scope

/-! ## Reading -/

/-- What is wrong with arguments. -/
inductive Misuse where
  | unknownArgument (t : Text)
  | unknownCommand (t : Text)
  | missingCommand
  | missingValue (o : Opt)
  | needlessValue (o : Opt)
  | repeated (o : Opt)
  | invalidValue (o : Opt) (v : Text)
  | invalidOperand (t : Text)
deriving DecidableEq, Repr

/-- The wording of a mistake. -/
def Misuse.message : Misuse → Text
  | .unknownArgument t => "unexpected argument '".toList ++ t ++ "' found".toList
  | .unknownCommand t => "unrecognized subcommand '".toList ++ t ++ "'".toList
  | .missingCommand => "a subcommand is required".toList
  | .missingValue o => "a value is required for '--".toList ++ o.long.toList ++ "'".toList
  | .needlessValue o => "no value is allowed for '--".toList ++ o.long.toList ++ "'".toList
  | .repeated o => "'--".toList ++ o.long.toList ++ "' cannot be used multiple times".toList
  | .invalidValue o v =>
    "invalid value '".toList ++ v ++ "' for '--".toList ++ o.long.toList ++ "'".toList
  | .invalidOperand t => "invalid value '".toList ++ t ++ "'".toList

/-- Why no command is carried out. -/
inductive Stop where
  | help (s : Scope)
  | version
  | misuse (m : Misuse)
deriving DecidableEq, Repr

/-- The arguments of a command as far as they were read. -/
structure Reading where
  /-- The options with their values, in order; a flag has an empty value. -/
  given : List (Opt × Text) := []
  operands : List Text := []
  /-- The option that still needs its value. -/
  pending : Option Opt := none
  /-- Whether only operands follow. -/
  operandsOnly : Bool := false
deriving DecidableEq, Repr

namespace Reading

/-- Whether an option was given. -/
def has (r : Reading) (o : Opt) : Bool := r.given.any fun g => g.1 == o

/-- The value of an option. -/
def value? (r : Reading) (o : Opt) : Option Text := r.given.lookup o

/-- The values of an option that may be repeated, each split at its commas. -/
def values? (r : Reading) (o : Opt) : Option (List Text) :=
  if r.has o then
    some ((r.given.filter fun g => g.1 == o).flatMap fun g => Text.splitOn ',' g.2)
  else none

/-- Records an option with its value. -/
def give (r : Reading) (o : Opt) (v : Text) : Except Stop Reading :=
  if r.has o && !o.isList then .error (.misuse (.repeated o))
  else if !o.accepts v then .error (.misuse (.invalidValue o v))
  else .ok { r with given := r.given ++ [(o, v)], pending := none }

/-- Records an option without a value. Help and version end the reading. -/
def flag (r : Reading) (s : Scope) (o : Opt) : Except Stop Reading :=
  match o with
  | .help => .error (.help s)
  | .version => .error .version
  | o => r.give o []

/-- Records an operand. -/
def operand (r : Reading) (s : Scope) (t : Text) : Except Stop Reading :=
  if !s.takesOperand r.operands.length then .error (.misuse (.unknownArgument t))
  else if !s.acceptsOperand t then .error (.misuse (.invalidOperand t))
  else .ok { r with operands := r.operands ++ [t] }

/-- Reads an option by its name, with a value after an equals sign if there is one. -/
def long (r : Reading) (s : Scope) (body : Text) : Except Stop Reading :=
  let name := body.takeWhile (· != '=')
  match s.byName? name, body.drop name.length with
  | none, _ => .error (.misuse (.unknownArgument ("--".toList ++ name)))
  | some o, [] => if o.takesValue then .ok { r with pending := some o } else r.flag s o
  | some o, _ :: v => if o.takesValue then r.give o v else .error (.misuse (.needlessValue o))

/-- Reads options by their letters. The rest after the letter of an option with a value is the
value; an equals sign before it is dropped. -/
def letters (s : Scope) : Text → Reading → Except Stop Reading
  | [], r => .ok r
  | c :: rest, r =>
    match s.byLetter? c with
    | none => .error (.misuse (.unknownArgument ['-', c]))
    | some o =>
      if o.takesValue then
        match rest with
        | [] => .ok { r with pending := some o }
        | '=' :: v => r.give o v
        | v => r.give o v
      else
        match r.flag s o with
        | .error stop => .error stop
        | .ok r => letters s rest r

/-- Whether an argument is neither an option nor the value of one. -/
def isOperand (r : Reading) (a : Text) : Bool :=
  r.operandsOnly || (r.pending.isNone && (a.head? != some '-' || a == ['-']))

/-- Nothing may stand in place of a value that is still needed. -/
def settled (r : Reading) : Except Stop Unit :=
  match r.pending with
  | some o => .error (.misuse (.missingValue o))
  | none => .ok ()

/-- Reads one argument. -/
def step (r : Reading) (s : Scope) (a : Text) : Except Stop Reading :=
  if r.isOperand a then r.operand s a
  else
    match a with
    | ['-', '-'] => do
      r.settled
      return { r with operandsOnly := true }
    | '-' :: '-' :: body => do
      r.settled
      r.long s body
    | '-' :: c :: rest => do
      r.settled
      letters s (c :: rest) r
    | v =>
      match r.pending with
      | some o => r.give o v
      | none => r.operand s v

end Reading

/-- Reads the arguments of a command. In a command with commands of its own, reading ends before the
name of one; the arguments from there on are given back. -/
def Scope.read (s : Scope) (r : Reading) : List Text → Except Stop (Reading × List Text)
  | [] => do
    r.settled
    return (r, [])
  | a :: rest =>
    if s == .schema && !r.operandsOnly && r.isOperand a then .ok (r, a :: rest)
    else
      match r.step s a with
      | .error stop => .error stop
      | .ok r => s.read r rest

/-! ## What the user wants -/

/-- How the results of a check are shown. -/
structure Presentation where
  format : OutputFormat := .text
  /-- Whether results go to the standard error stream. -/
  toStderr : Bool := false
  /-- Whether the summary is left out. -/
  quiet : Bool := false
  /-- Whether neither results nor the summary are shown. -/
  silent : Bool := false
deriving DecidableEq, Repr

/-- What is checked, and with which options. -/
structure CheckRequest where
  paths : List Path := []
  /-- The configuration file that the user names. -/
  config : Option Path := none
  /-- Whether configuration files are ignored. -/
  ignoreConfig : Bool := false
  overrides : Config.Overrides := {}
deriving DecidableEq, Repr

/-- A command with its options. -/
inductive Action where
  | check (q : CheckRequest) (p : Presentation)
  | init (quiet : Bool)
  | completions (shell : Option CompletionShell) (list : Bool)
  | schema (a : SchemaAction)
deriving DecidableEq, Repr

/-- What the user wants. -/
structure Invocation where
  /-- Whether the progress of a run is shown. -/
  verbose : Bool := false
  action : Action
deriving DecidableEq, Repr

namespace Reading

/-- The request in the arguments of a check. -/
def request (r : Reading) : CheckRequest := {
  paths := r.operands.map Path.mk
  config := (r.value? .config).map Path.mk
  ignoreConfig := r.has .noConfig
  overrides := {
    dialects := r.values? .dialects
    executable := r.value? .executable
    prompt := r.value? .prompt
    debug := r.has .debug
    tabWidth := (r.value? .tabWidth).bind Opt.count?
    timeout := (r.value? .timeout).bind Opt.count?
    reportFile := (r.value? .report).map Path.mk
    exclude := r.values? .exclude } }

/-- How the arguments of a check want its results shown. -/
def presentation (r : Reading) : Presentation := {
  format := ((r.value? .outputFormat).bind OutputFormat.ofName?).getD .text
  toStderr := r.has .stderr
  quiet := r.has .quiet
  silent := r.has .silent }

end Reading

/-- Help on the command that names lead to. -/
def Stop.helpOn (s : Scope) : List Text → Stop
  | [] => .help s
  | name :: rest =>
    match s.commands.lookup name with
    | some inner => helpOn inner rest
    | none => .misuse (.unknownCommand name)

namespace Invocation

/-- The arguments of a command that has no commands of its own. -/
def leaf (s : Scope) (args : List Text) (action : Reading → Action) : Except Stop Invocation :=
  match s.read {} args with
  | .error stop => .error stop
  | .ok (r, _) => .ok ⟨r.has .verbose, action r⟩

/-- What the arguments of the schema command mean. -/
def ofSchema (args : List Text) : Except Stop Invocation :=
  match Scope.schema.read {} args with
  | .error stop => .error stop
  | .ok (_, []) => .error (.misuse .missingCommand)
  | .ok (r, name :: rest) =>
    match Scope.schema.commands.lookup name with
    | some (.schemaAction a) =>
      (leaf (.schemaAction a) rest fun _ => .schema a).map fun i =>
        { i with verbose := i.verbose || r.has .verbose }
    | some s => .error (.helpOn (if s == .help then .schema else s) rest)
    | none => .error (.misuse (.unknownCommand name))

/-- What arguments mean after the name of a command. -/
def ofCommand (s : Scope) (args : List Text) : Except Stop Invocation :=
  match s with
  | .root | .check => leaf s args fun r => .check r.request r.presentation
  | .init => leaf s args fun r => .init (r.has .quiet)
  | .completions =>
    leaf s args fun r =>
      .completions (r.operands.head?.bind CompletionShell.ofName?) (r.has .list)
  | .schema => ofSchema args
  | .schemaAction a => leaf s args fun _ => .schema a
  | .help => .error (.helpOn .root args)

/-- What the user wants. -/
def ofArguments (args : List Text) : Except Stop Invocation :=
  match args.head?.bind fun name => Scope.root.commands.lookup name with
  | some s => ofCommand s args.tail
  | none => ofCommand .root args

end Invocation
end TranscriptLint
