import TranscriptLint.Json.Writer
import TranscriptLint.Report

namespace TranscriptLint

/-!
# What the user sees

Results are shown as the lines of the report, as one concise line per diagnostic, or as JSON.

* `Render.text` with colours differs from the plain text only by escape sequences.
* `Render.json` holds every diagnostic of all documents.
-/

/-- A way to show results. -/
inductive OutputFormat where
  | text
  | concise
  | json
deriving DecidableEq, Repr

namespace OutputFormat

/-- The format of a name, in either case of letters. -/
def ofName? (name : Text) : Option OutputFormat :=
  let name := name.lowerAscii
  if name == "text".toList || name == "full".toList then some .text
  else if name == "concise".toList then some .concise
  else if name == "json".toList then some .json
  else none

/-- Whether a format has colours where the terminal takes them. -/
def usesColours : OutputFormat → Bool
  | .text => true
  | .concise | .json => false

/-- The wording for a name that is no format. -/
def unknown (name : Text) : Text := "Unknown output format: ".toList ++ name

end OutputFormat

namespace Render

/-! ## Colours -/

/-- The start of an escape sequence. -/
def escape : Text := ['\x1b', '[']

/-- The sequence that ends a style. -/
def reset : Text := escape ++ "0m".toList

/-- The sequence that begins a style. -/
def style (code : String) : Text := escape ++ code.toList ++ ['m']

/-- A text in which `mark` stands again after every reset; `skip` characters are part of a reset
that was already seen. -/
def restyle (mark : Text) (skip : Nat) : Text → Text
  | [] => []
  | c :: t =>
    match skip with
    | 1 => c :: mark ++ restyle mark 0 t
    | skip + 2 => c :: restyle mark (skip + 1) t
    | 0 =>
      if Text.startsWith (c :: t) reset then c :: restyle mark (reset.length - 1) t
      else c :: restyle mark 0 t

/-- A text in a style, if there are colours. -/
def paint (colours : Bool) (code : String) (t : Text) : Text :=
  if colours then style code ++ restyle (style code) 0 t ++ reset else t

/-! ## Documents -/

/-- A line of the report, with or without colours. -/
def entry (colours : Bool) : ReportEntry → Text
  | .header document source => document ++ ": ".toList ++ paint colours "4;34" source.text
  | .diagnostic document d =>
    document ++ ": Line ".toList ++ paint colours "36" (Text.ofNat d.line) ++
      ", column ".toList ++ paint colours "36" (Text.ofNat d.column) ++ " ".toList ++
      paint colours "33" ("[".toList ++ d.code ++ "]".toList) ++ ": ".toList ++ d.message

/-- The report lines of a document. -/
def text (colours : Bool) (r : DocumentResult) : Text :=
  Text.joinWith "\n".toList (r.entries.map (entry colours))

/-- A diagnostic on one line. -/
def conciseLine (d : Diagnostic) : Text :=
  d.source.text ++ ":".toList ++ Text.ofNat d.line ++ ":".toList ++ Text.ofNat d.column ++
    ": [".toList ++ d.code ++ "] ".toList ++ d.message

/-- One line per diagnostic of a document. -/
def concise (r : DocumentResult) : Text :=
  Text.joinWith "\n".toList (r.diagnostics.map conciseLine)

/-- A diagnostic of a document as a JSON object. -/
def diagnosticJson (document : Path) (d : Diagnostic) : Json :=
  .ofMembers [("document", .string document.text), ("source", .string d.source.text),
    ("line", .ofNat d.line), ("column", .ofNat d.column), ("code", .string d.code),
    ("severity", .string d.severity.name), ("message", .string d.message)]

/-- The diagnostics of all documents as a JSON array. -/
def json (rs : List DocumentResult) : Text :=
  Json.pretty (.array (rs.flatMap fun r => r.diagnostics.map (diagnosticJson r.document)))

/-- What is shown for a document as soon as it is done. JSON is shown at the end. -/
def document (f : OutputFormat) (colours : Bool) (r : DocumentResult) : Text :=
  match f with
  | .text => text colours r
  | .concise => concise r
  | .json => []

/-! ## Summaries -/

/-- The summary of a run in words. -/
def plainSummary (documents withIssues issues : Nat) : Text :=
  if issues = 0 then "No issues found in ".toList ++ Text.ofNat documents ++ " document(s)".toList
  else
    "Found ".toList ++ Text.ofNat issues ++ " issue(s) in ".toList ++ Text.ofNat withIssues ++
      " of ".toList ++ Text.ofNat documents ++ " document(s)".toList

/-- The summary that a format shows, if it shows one. -/
def summary (f : OutputFormat) (colours : Bool) (documents withIssues issues : Nat) :
    Option Text :=
  match f with
  | .text =>
    some (paint colours (if issues = 0 then "32" else "1;31")
      (plainSummary documents withIssues issues))
  | .concise =>
    some (Text.ofNat issues ++ " issue(s) in ".toList ++ Text.ofNat documents ++
      " document(s)".toList)
  | .json => none

end Render
end TranscriptLint
