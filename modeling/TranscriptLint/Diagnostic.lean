import TranscriptLint.Finding
import TranscriptLint.Script

namespace TranscriptLint

/-!
# Diagnostics

A diagnostic is a finding in the coordinates of the file it points into. Within one document each
diagnostic is reported once, and a header names the source whenever it changes.

* `DocumentState.record` maps the findings of one block and keeps those not seen before.
* `DocumentState.enterSource` says whether a header is due.
-/

/-- A finding in source coordinates. -/
structure Diagnostic where
  /-- The file the finding points into. -/
  source : Path
  line : Nat
  column : Nat
  code : Text
  message : Text
  severity : Severity
deriving DecidableEq, Repr

namespace Diagnostic

/-- A finding moved from script coordinates to its source. `Offset.apply` says up to which bound 64
bits hold the new position. -/
def ofFinding (source : Path) (offset : Offset) (f : Finding) : Diagnostic :=
  let position := offset.apply f.line f.column
  { source, line := position.1, column := position.2, code := f.code, message := f.message,
    severity := f.severity }

/-- What makes two diagnostics the same: everything but the severity, with the source compared by
its components. -/
structure Key where
  source : List Component
  line : Nat
  column : Nat
  code : Text
  message : Text
deriving DecidableEq, Repr

/-- The key of a diagnostic. -/
def key (d : Diagnostic) : Key :=
  ⟨d.source.components, d.line, d.column, d.code, d.message⟩

end Diagnostic

/-- What is remembered while one document is linted. -/
structure DocumentState where
  /-- The keys of all diagnostics reported so far, newest first. -/
  seen : List Diagnostic.Key := []
  /-- The source named by the last header. -/
  header : Option Path := none
deriving DecidableEq, Repr

namespace DocumentState

/-- Keeps the diagnostics whose key was not seen before, and remembers them. -/
def keepNew : List Diagnostic → DocumentState → List Diagnostic × DocumentState
  | [], s => ([], s)
  | d :: ds, s =>
    if d.key ∈ s.seen then keepNew ds s
    else
      let rest := keepNew ds { s with seen := d.key :: s.seen }
      (d :: rest.1, rest.2)

/-- The diagnostics of one block's findings that were not reported before. -/
def record (b : CodeBlock) (offset : Offset) (findings : List Finding) (s : DocumentState) :
    List Diagnostic × DocumentState :=
  keepNew (findings.map (Diagnostic.ofFinding b.source offset)) s

/-- The number of diagnostics reported so far. -/
def seenCount (s : DocumentState) : Nat := s.seen.length

/-- Whether a header is due before diagnostics of this source; if so, it is taken as given. -/
def enterSource (source : Path) (s : DocumentState) : Bool × DocumentState :=
  if (s.header.map (Path.same source)).getD false then (false, s)
  else (true, { s with header := some source })

end DocumentState
end TranscriptLint
