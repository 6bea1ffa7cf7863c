import TranscriptLint.Arguments
import TranscriptLint.Discovery
import TranscriptLint.Lint

namespace TranscriptLint

/-!
# Checking documents

A check loads and validates its options, finds documents, starts the report and lints the documents
one after the other. The first failure ends it. What happens is recorded as events; how they are
shown is decided elsewhere and changes nothing here.

* `Check.run` is a whole check.
* `CheckRun.status` is its exit status: a failure wins over diagnostics.
-/

/-- How a run of the program ends. -/
inductive ExitStatus where
  | success
  /-- Some document has a diagnostic. -/
  | violations
  /-- The run itself failed. -/
  | failure
deriving DecidableEq, Repr

namespace ExitStatus

/-- All ways to end, by their codes. -/
def all : List ExitStatus := [.success, .violations, .failure]

/-- The number that the operating system is given. -/
def code : ExitStatus → Nat
  | .success => 0
  | .violations => 1
  | .failure => 2

end ExitStatus

/-- Why a check failed. -/
inductive CheckError where
  | options (e : ConfigError)
  | search (e : Discovery.SearchError)
  | reportFile (path : Path) (fault : Fault)
  | document (e : LintError)
deriving DecidableEq, Repr

/-- The messages of a failure and of what caused it. -/
def CheckError.chain : CheckError → List Text
  | .options e => e.chain
  | .search e => ["Failed to find documents".toList, e.message]
  | .reportFile path fault =>
    ["Failed to create report file ".toList ++ path.text, fault.message]
  | .document e => e.chain

/-- Something that happens during a check. -/
inductive Event where
  | notice (n : Notice)
  /-- The options ask for debugging. -/
  | debugging
  | document (r : DocumentResult)
deriving DecidableEq, Repr

/-- The numbers in the summary of a check. -/
structure Totals where
  documents : Nat
  withIssues : Nat
  issues : Nat
deriving DecidableEq, Repr

/-- A check from beginning to end. -/
structure CheckRun (σ : Type) where
  events : List Event
  outcome : Except CheckError Totals
  disk : Disk
  /-- The state of the host. -/
  tools : σ

namespace CheckRun

variable {σ : Type}

/-- The same run with events before it. -/
def after (events : List Event) (r : CheckRun σ) : CheckRun σ :=
  { r with events := events ++ r.events }

/-- A run that ends here. -/
def failed (e : CheckError) (d : Disk) (s : σ) : CheckRun σ := ⟨[], .error e, d, s⟩

/-- The results of the documents that were linted. -/
def results (r : CheckRun σ) : List DocumentResult :=
  r.events.filterMap fun e => match e with
    | .document d => some d
    | _ => none

/-- How a check ends. -/
def status (r : CheckRun σ) : ExitStatus :=
  match r.outcome with
  | .error _ => .failure
  | .ok t => if 0 < t.issues then .violations else .success

end CheckRun

namespace Check

variable {σ : Type}

/-- The engine for valid options. -/
def engine (h : Host σ) (e : Environment) (v : ValidConfig) : Engine σ where
  scanner :=
    { dialects := v.checked.dialects, tabWidth := v.checked.tabWidth, searchPath := v.searchPath
      patterns := h.patterns }
  prompt := v.checked.prompt
  lint := h.lint ⟨v.executable, v.checked.dialects, v.checked.prompt⟩ v.timeout e.tempDir
  interpreter := fun d dialect => Lookup.interpreter d e dialect

/-- Lints documents in turn, up to the first that fails. -/
def lintAll (engine : Engine σ) :
    List Path → Session σ → List Event × Except LintError Unit × Session σ
  | [], s => ([], .ok (), s)
  | p :: ps, s =>
    let (result, s) := engine.lintFile p { s with notices := [] }
    let told := s.notices.map Event.notice
    match result with
    | .error err => (told, .error err, s)
    | .ok r =>
      let (events, result, s) := lintAll engine ps s
      (told ++ .document r :: events, result, s)

/-- The totals of a session in which documents were linted. -/
def totals (documents : List Path) (s : Session σ) : Totals :=
  ⟨documents.length, s.report.documents, s.report.diagnostics⟩

/-- Lints the documents that were found, into a report. -/
def lintInto (engine : Engine σ) (documents : List Path) (report : Report) (d : Disk) (s : σ) :
    CheckRun σ :=
  let (events, result, session) := lintAll engine documents { disk := d, report, tools := s }
  let outcome := match result with
    | .error err => .error (.document err)
    | .ok _ => .ok (totals documents session)
  ⟨events, outcome, session.disk, session.tools⟩

/-- The report of a run, which may have a file. -/
def startReport (file : Option Path) (d : Disk) : Except CheckError (Report × Disk) :=
  match file with
  | none => .ok ({}, d)
  | some path =>
    match Report.create d path with
    | .ok r => .ok r
    | .error fault => .error (.reportFile path fault)

/-- A check with valid options. -/
def runWith (h : Host σ) (e : Environment) (v : ValidConfig) (paths : List Path) (d : Disk)
    (s : σ) : CheckRun σ :=
  let (found, ns) := Discovery.findDocuments d paths v.exclude
  CheckRun.after (ns.map .notice) <|
    match found with
    | .error err => .failed (.search err) d s
    | .ok documents =>
      CheckRun.after [.notice (.info .check
          ("Checking ".toList ++ Text.ofNat documents.length ++ " document(s)".toList))] <|
        match startReport v.reportFile d with
        | .error err => .failed err d s
        | .ok (report, d) => lintInto (engine h e v) documents report d s

/-- A check. Nothing is written before the options are known to be valid. -/
def run (h : Host σ) (e : Environment) (q : CheckRequest) (d : Disk) (s : σ) : CheckRun σ :=
  match Config.load d q.config q.ignoreConfig d.cwdPath with
  | .error err => .failed (.options err) d s
  | .ok (c, file) =>
    CheckRun.after (file.toList.map fun p =>
        .notice (.info .check ("Using configuration from ".toList ++ p.text))) <|
      match (c.override q.overrides).validate h d e s with
      | (.error err, s) => .failed (.options err) d s
      | (.ok v, s) =>
        CheckRun.after (.notice (.info .options
            ("Using ".toList ++ v.executable.text ++ " ".toList ++ v.version.text)) ::
          if v.checked.debug then [.debugging] else [])
          (runWith h e v q.paths d s)

end Check
end TranscriptLint
