import TranscriptLint.Document
import TranscriptLint.Lookup
import TranscriptLint.Report

namespace TranscriptLint

/-!
# Linting documents

The blocks of a document are linted strictly one after the other: the next block is only looked at
when the diagnostics of the one before are in the report. The first block that fails ends the
document.

* `Engine.lintDocument` lints one document into the report of a session.
* What is remembered within a document (`DocumentState`) is forgotten at its end.
-/

/-- Why a document could not be linted. -/
inductive LintError where
  | unreadable (path : Path) (fault : Fault)
  | tool (document : Path) (e : ToolError)
  | malformed (document : Path) (e : MalformedOutput)
  | report (fault : Fault)
deriving DecidableEq, Repr

namespace LintError

/-- The wording of a lint error. -/
def message : LintError → Text
  | .unreadable path fault => "Failed to read ".toList ++ path.text ++ ": ".toList ++ fault.message
  | .tool document e => document.text ++ ": ".toList ++ e.message
  | .malformed document e => document.text ++ ": ".toList ++ e.message
  | .report fault => "Failed to write report: ".toList ++ fault.message

/-- The messages of a lint error and of what caused it. -/
def chain (e : LintError) : List Text :=
  e.message :: match e with
    | .unreadable _ fault => [fault.message]
    | .tool _ cause => cause.chain
    | .malformed _ cause => [cause.message]
    | .report fault => [fault.message]

end LintError

/-- How documents are linted. The state `σ` is that of the linter. -/
structure Engine (σ : Type) where
  scanner : Scanner
  /-- The mark of a command line. -/
  prompt : Char
  /-- Runs the linter on a script of a dialect. -/
  lint : Disk → Dialect → Text → σ → Except ToolError ToolOutput × σ
  /-- Finds the interpreter of a dialect. -/
  interpreter : Disk → Dialect → Interpreter × List Notice

/-- What changes while documents are linted. -/
structure Session (σ : Type) where
  disk : Disk
  report : Report := {}
  /-- The interpreters found so far. -/
  interpreters : List (Dialect × Interpreter) := []
  /-- What the user was told so far, in order. -/
  notices : List Notice := []
  /-- The state of the linter. -/
  tools : σ

namespace Session

variable {σ : Type}

/-- Tells the user something. -/
def tell (s : Session σ) (ns : List Notice) : Session σ := { s with notices := s.notices ++ ns }

/-- Appends an entry to the report. It is counted even if it cannot be written. -/
def append (s : Session σ) (e : ReportEntry) : Except LintError Unit × Session σ :=
  let counted := { s with report := s.report.count e }
  match s.report.writeEntry s.disk e with
  | .error fault => (.error (.report fault), counted)
  | .ok disk => (.ok (), { counted with disk })

/-- Appends entries in turn, up to the first that fails. -/
def appendAll : List ReportEntry → Session σ → Except LintError Unit × Session σ
  | [], s => (.ok (), s)
  | e :: es, s =>
    match s.append e with
    | (.error err, s) => (.error err, s)
    | (.ok _, s) => appendAll es s

end Session

namespace Engine

variable {σ : Type}

/-- The interpreter of a dialect, which is looked up once. -/
def interpreterOf (e : Engine σ) (d : Dialect) (s : Session σ) : Interpreter × Session σ :=
  match s.interpreters.lookup d with
  | some i => (i, s)
  | none =>
    let (i, ns) := e.interpreter s.disk d
    (i, { s.tell ns with interpreters := s.interpreters ++ [(d, i)] })

/-- The script of a block. -/
def script (e : Engine σ) (b : CodeBlock) (i : Interpreter) : Script :=
  .synthesize b (.ofLines e.prompt b.lines) i

/-- The findings of a block, with the offset of the script they refer to. -/
def lintBlock (e : Engine σ) (b : CodeBlock) (s : Session σ) :
    Except LintError (Offset × List Finding) × Session σ :=
  let (i, s) := e.interpreterOf b.dialect s
  let script := e.script b i
  let (result, tools) := e.lint s.disk b.dialect script.text s.tools
  let s := { s with tools }
  match result with
  | .error err => (.error (.tool b.document err), s)
  | .ok output =>
    match Finding.readAll output.stdout with
    | .error err => (.error (.malformed b.document err), s)
    | .ok findings => (.ok (script.offset, findings), s)

/-- The path that a header names for a source. -/
def headerPath (d : Disk) (source : Path) : Path := (d.cwdPath.absolute? source).getD source

/-- The report lines for the new diagnostics of a block, after the header if one is due. -/
def entriesOf (d : Disk) (document : Text) (source : Path) (ds : List Diagnostic)
    (state : DocumentState) : List ReportEntry × DocumentState :=
  if ds.isEmpty then ([], state)
  else
    let (due, state) := state.enterSource source
    let header := if due then [ReportEntry.header document (headerPath d source)] else []
    (header ++ ds.map (.diagnostic document), state)

/-- Lints the blocks in turn and gives the lines that were reported for them. -/
def lintBlocks (e : Engine σ) (document : Text) :
    List CodeBlock → DocumentState → Session σ → Except LintError (List ReportEntry) × Session σ
  | [], _, s => (.ok [], s)
  | b :: bs, state, s =>
    match e.lintBlock b s with
    | (.error err, s) => (.error err, s)
    | (.ok (offset, findings), s) =>
      let (ds, state) := state.record b offset findings
      let (entries, state) := entriesOf s.disk document b.source ds state
      match s.appendAll entries with
      | (.error err, s) => (.error err, s)
      | (.ok _, s) =>
        match e.lintBlocks document bs state s with
        | (.error err, s) => (.error err, s)
        | (.ok rest, s) => (.ok (entries ++ rest), s)

/-- Lints the text of the document at a path. -/
def lintDocument (e : Engine σ) (path : Path) (content : Text) (s : Session σ) :
    Except LintError DocumentResult × Session σ :=
  let (blocks, ns) := e.scanner.scan s.disk path content
  let found := Notice.info .linting
    (path.text ++ ": ".toList ++ Text.ofNat blocks.length ++ " shell block(s)".toList)
  let s := s.tell (ns ++ [found])
  match e.lintBlocks path.text blocks {} s with
  | (.error err, s) => (.error err, s)
  | (.ok entries, s) =>
    let result : DocumentResult := ⟨path, blocks.length, entries⟩
    (.ok result,
      if result.hasDiagnostics then { s with report := s.report.documentFailed } else s)

/-- Reads and lints the document at a path. -/
def lintFile (e : Engine σ) (path : Path) (s : Session σ) :
    Except LintError DocumentResult × Session σ :=
  match s.disk.readText? path with
  | .error fault => (.error (.unreadable path fault), s)
  | .ok content => e.lintDocument path content s

end Engine
end TranscriptLint
