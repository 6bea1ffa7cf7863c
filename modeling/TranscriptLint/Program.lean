import TranscriptLint.Check
import TranscriptLint.CompletionScript
import TranscriptLint.Init
import TranscriptLint.Log
import TranscriptLint.Schema

namespace TranscriptLint

/-!
# The program

One run of the program: from its arguments, its environment and the files it sees to an exit status,
two streams of text and changed files.

* `Program.run` is the run.
* `CheckRun.screen` shows a check. It is a function of the events and decides nothing else.
-/

/-! ## The screen -/

/-- What was written to the two streams of the terminal. -/
structure Screen where
  stdout : Text := []
  stderr : Text := []
deriving DecidableEq, Repr

namespace Screen

/-- A line on the standard output stream. -/
def print (s : Screen) (t : Text) : Screen := { s with stdout := s.stdout ++ t ++ ['\n'] }

/-- A line on the standard error stream. -/
def report (s : Screen) (t : Text) : Screen := { s with stderr := s.stderr ++ t ++ ['\n'] }

end Screen

/-- How notices are shown. -/
structure LogSettings where
  filter : LogFilter
  /-- Whether the filter is the user's, so that debugging does not widen it. -/
  fixed : Bool
  colours : Bool
deriving DecidableEq, Repr

namespace LogSettings

/-- The settings for debugging. -/
def widened (l : LogSettings) : LogSettings :=
  if l.fixed then l else { l with filter := .upTo .debug }

/-- Shows a notice, if the filter lets it through. -/
def tell (l : LogSettings) (s : Screen) (n : Notice) : Screen :=
  if l.filter.shows n then s.report (Log.line l.colours n) else s

end LogSettings

namespace Presentation

/-- A line of the results. -/
def result (p : Presentation) (s : Screen) (t : Text) : Screen :=
  if p.silent then s else if p.toStderr then s.report t else s.print t

/-- The results of a document, unless there is nothing to show. -/
def document (p : Presentation) (colours : Bool) (s : Screen) (r : DocumentResult) : Screen :=
  let shown := Render.document p.format colours r
  if shown.isEmpty then s else p.result s shown

/-- What is shown at the end of a check that did not fail. -/
def finish (p : Presentation) (colours : Bool) (s : Screen) (rs : List DocumentResult)
    (t : Totals) : Screen :=
  let s := if p.format = .json then p.result s (Render.json rs) else s
  match Render.summary p.format colours t.documents t.withIssues t.issues with
  | some summary => if p.quiet || p.silent then s else s.report summary
  | none => s

end Presentation

namespace Program

/-- The word before a failure. -/
def errorWord (colours : Bool) : Text := Render.paint colours "1;31" "Error".toList

/-- A line for a failure, with its causes. -/
def errorLine (colours : Bool) (chain : List Text) : Text :=
  errorWord colours ++ ": ".toList ++ Text.joinWith ": ".toList chain

end Program

namespace CheckRun

variable {σ : Type}

/-- Shows events in turn. -/
def showEvents (p : Presentation) (colours : Bool) :
    List Event → LogSettings → Screen → Screen
  | [], _, s => s
  | .notice n :: es, l, s => showEvents p colours es l (l.tell s n)
  | .debugging :: es, l, s => showEvents p colours es l.widened s
  | .document r :: es, l, s => showEvents p colours es l (p.document colours s r)

/-- Shows a check. -/
def screen (r : CheckRun σ) (p : Presentation) (colours : Bool) (l : LogSettings) (s : Screen) :
    Screen :=
  let s := showEvents p colours r.events l s
  match r.outcome with
  | .error e => s.report (Program.errorLine colours e.chain)
  | .ok t => p.finish colours s r.results t

end CheckRun

/-! ## Runs -/

/-- How a run ended and what it left behind. -/
structure Outcome (σ : Type) where
  status : ExitStatus
  screen : Screen
  disk : Disk
  /-- The state of the host. -/
  tools : σ

namespace Program

/-- The name and version of the program. -/
def versionLine : Text := "shdoclint 0.1.0".toList

/-- The line that says how a command is written. -/
def usage (s : Scope) : Text :=
  "Usage: shdoclint ".toList ++ match s with
    | .root => "[OPTIONS] [PATHS]...\n       shdoclint <COMMAND>".toList
    | .check => "check [OPTIONS] [PATHS]...".toList
    | .init => "init [OPTIONS]".toList
    | .completions => "completions [OPTIONS] [SHELL]".toList
    | .schema => "schema [OPTIONS] <COMMAND>".toList
    | .schemaAction .print => "schema print [OPTIONS]".toList
    | .schemaAction .generate => "schema generate [OPTIONS]".toList
    | .schemaAction .check => "schema check [OPTIONS]".toList
    | .help => "help [COMMAND]...".toList

/-- An option in the help of a command. -/
def helpLine (o : Opt) : Text :=
  let letter := match o.letter? with
    | some c => ['-', c, ',', ' ']
    | none => "    ".toList
  "  ".toList ++ letter ++ "--".toList ++ o.long.toList ++
    (if o.takesValue then " <VALUE>".toList else []) ++ "\n          ".toList ++
    o.description.toList

/-- The help of a command. -/
def help (s : Scope) : Text :=
  let commands := if s.commands.isEmpty then [] else
    "".toList :: "Commands:".toList :: s.commands.map fun c => "  ".toList ++ c.1
  let options := if s.options.isEmpty then [] else
    "".toList :: "Options:".toList :: s.options.map helpLine
  Text.joinWith "\n".toList (usage s :: commands ++ options)

/-- What is shown instead of carrying out a command. -/
def stop : Stop → ExitStatus × Screen
  | .help s => (.success, Screen.print {} (help s))
  | .version => (.success, Screen.print {} versionLine)
  | .misuse m =>
    (.failure, Screen.report {} ("error: ".toList ++ m.message ++
      "\n\nFor more information, try '--help'.".toList))

/-- The configuration file that is made by default. -/
def configFile : Path := .ofString ".shdoclint.toml"

/-- Makes a default configuration file in the current directory. -/
def init (quiet colours : Bool) (d : Disk) (s : Screen) : ExitStatus × Screen × Disk :=
  match Init.create d configFile with
  | .ok (true, d) =>
    (.success, if quiet then s
      else s.print ("Created default configuration file: ".toList ++ configFile.text), d)
  | .ok (false, d) =>
    (.failure, s.report (errorLine colours
      [configFile.text ++ " already exists; remove it first to regenerate".toList]), d)
  | .error fault =>
    (.failure, s.report (errorLine colours
      ["Failed to create config file".toList, Init.failure configFile fault]), d)

/-- Lists the shells with completion scripts. -/
def listShells (s : Screen) : Screen :=
  CompletionShell.all.foldl (fun s shell => s.print ("  ".toList ++ shell.name))
    (s.print "Available shells:".toList)

/-- The shell that the environment names. -/
def shellOf (e : Environment) : Option CompletionShell :=
  (e.get? "SHELL").bind fun p => CompletionShell.ofProgram? ⟨p⟩

/-- Prints a completion script, or the shells that have one. -/
def completions (shell : Option CompletionShell) (list colours : Bool) (e : Environment)
    (s : Screen) : ExitStatus × Screen :=
  if list then (.success, listShells s)
  else
    match shell <|> shellOf e with
    | some shell => (.success, s.print (CompletionScript.text shell))
    | none =>
      (.failure, s.report (errorLine colours
        ["Could not detect shell from $SHELL; pass one explicitly, e.g. ".toList ++
          "`shdoclint completions bash`".toList]))

/-- Prints, writes or compares the schema. -/
def schema (a : SchemaAction) (colours : Bool) (d : Disk) (s : Screen) :
    ExitStatus × Screen × Disk :=
  let file := Schema.file d
  let present := (d.readText? file).toOption
  match a with
  | .print => (.success, s.print Schema.text, d)
  | .generate =>
    if present == some Schema.text then
      (.success, s.print ("Schema is already up-to-date: ".toList ++ file.text), d)
    else
      match d.write? file Schema.text with
      | .ok d => (.success, s.print ("Schema updated: ".toList ++ file.text), d)
      | .error fault =>
        (.failure, s.report (errorLine colours
          ["Failed to write schema file".toList, fault.message]), d)
  | .check =>
    match present with
    | none =>
      (.failure, (s.report ("Error: Schema file not found: ".toList ++ file.text)).report
        "Run 'shdoclint schema generate' to create it.".toList, d)
    | some t =>
      if t == Schema.text then
        (.success, s.print ("Schema is up-to-date: ".toList ++ file.text), d)
      else
        (.failure, (s.report ("Error: Schema is out of date: ".toList ++ file.text)).report
          "Run 'shdoclint schema generate' to update it.".toList, d)

variable {σ : Type}

/-- Carries out what the user wants. -/
def perform (h : Host σ) (e : Environment) (i : Invocation) (d : Disk) (s : σ) : Outcome σ :=
  let colours := Log.forcesColours e
  let (filter, bad) := Log.filter e i.verbose
  let start := bad.foldl (fun (s : Screen) m =>
    s.report ("warning: ".toList ++ m ++ ", ignoring it".toList)) {}
  match i.action with
  | .check q p =>
    let r := Check.run h e q d s
    let l : LogSettings := ⟨filter, (e.get? "RUST_LOG").isSome, Log.usesColours e⟩
    ⟨r.status, r.screen p colours l start, r.disk, r.tools⟩
  | .init quiet =>
    let (status, screen, d) := init quiet colours d start
    ⟨status, screen, d, s⟩
  | .completions shell list =>
    let (status, screen) := completions shell list colours e start
    ⟨status, screen, d, s⟩
  | .schema a =>
    let (status, screen, d) := schema a colours d start
    ⟨status, screen, d, s⟩

/-- One run of the program. -/
def run (h : Host σ) (e : Environment) (args : List Text) (d : Disk) (s : σ) : Outcome σ :=
  match Invocation.ofArguments args with
  | .ok i => perform h e i d s
  | .error reason =>
    let (status, screen) := stop reason
    ⟨status, screen, d, s⟩

end Program
end TranscriptLint
