import TranscriptLint.Diagnostic
import TranscriptLint.FileTree

namespace TranscriptLint

/-!
# The report

The report of a run is a list of lines that only grows. It counts diagnostics and the documents that
have some, and it may also be kept in a file, which is emptied once and then only added to.

* `Report.create` starts a report with a file, `Report.append` adds an entry.
-/

/-- One line of the report. -/
inductive ReportEntry where
  /-- Names the file that the diagnostics after it point into. -/
  | header (document : Text) (source : Path)
  | diagnostic (document : Text) (d : Diagnostic)
deriving DecidableEq, Repr

namespace ReportEntry

/-- The text of a line. -/
def text : ReportEntry → Text
  | .header document source => document ++ ": ".toList ++ source.text
  | .diagnostic document d =>
    document ++ ": Line ".toList ++ Text.ofNat d.line ++ ", column ".toList ++ Text.ofNat d.column ++
      " [".toList ++ d.code ++ "]: ".toList ++ d.message

/-- The diagnostic of a line. -/
def diagnostic? : ReportEntry → Option Diagnostic
  | .header .. => none
  | .diagnostic _ d => some d

end ReportEntry

/-- The report of a run. -/
structure Report where
  file : Option Path := none
  /-- The number of diagnostics. -/
  diagnostics : Nat := 0
  /-- The number of documents that ended with at least one diagnostic. -/
  documents : Nat := 0
deriving DecidableEq, Repr

namespace Report

/-- A report that is also kept in a file. The file is emptied, and directories above it are made if
they are missing. -/
def create (d : Disk) (file : Path) : Except Fault (Report × Disk) := do
  let d ← match file.parent? with
    | some dir => if dir.text.isEmpty then pure d else d.makeDirs? dir
    | none => pure d
  return ({ file := some file }, ← d.write? file [])

/-- The report with one more entry in its counts. -/
def count (r : Report) (e : ReportEntry) : Report :=
  { r with diagnostics := r.diagnostics + e.diagnostic?.toList.length }

/-- The disk after an entry was written to the report's file. -/
def writeEntry (r : Report) (d : Disk) (e : ReportEntry) : Except Fault Disk :=
  match r.file with
  | none => .ok d
  | some file => d.append? file (e.text ++ ['\n'])

/-- Records that a document ended with a diagnostic. -/
def documentFailed (r : Report) : Report := { r with documents := r.documents + 1 }

/-- Whether no diagnostic was recorded. -/
def isClean (r : Report) : Bool := r.diagnostics == 0

end Report

/-- What linting one document produced. -/
structure DocumentResult where
  document : Path
  /-- The number of shell blocks. -/
  blocks : Nat
  /-- The lines written for the document, in order. -/
  entries : List ReportEntry
deriving DecidableEq, Repr

namespace DocumentResult

/-- The diagnostics of a document. -/
def diagnostics (r : DocumentResult) : List Diagnostic := r.entries.filterMap (·.diagnostic?)

/-- Whether a document has diagnostics. -/
def hasDiagnostics (r : DocumentResult) : Bool := !r.diagnostics.isEmpty

end DocumentResult
end TranscriptLint
