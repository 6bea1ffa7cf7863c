import TranscriptLint.Json.Reader

namespace TranscriptLint

/-!
# Findings

What the linter says about a script: a JSON array with one record per finding. Every record counts:
one record that cannot be read makes the whole output malformed, so no finding is passed over.

* `Finding.ofJson?` reads one record.
* `Finding.readAll` reads the linter's output.
-/

/-- How severe a finding is. -/
inductive Severity where
  | error
  | warning
  | info
  | style
deriving DecidableEq, Repr

namespace Severity

/-- Every severity. -/
def all : List Severity := [.error, .warning, .info, .style]

/-- The name of a severity. -/
def name : Severity → Text
  | .error => "error".toList
  | .warning => "warning".toList
  | .info => "info".toList
  | .style => "style".toList

/-- The severity of a name. -/
def ofName? (n : Text) : Option Severity := all.find? fun s => s.name == n

end Severity

/-- A finding in script coordinates, which count from one. -/
structure Finding where
  line : Nat
  column : Nat
  code : Text
  message : Text
  severity : Severity
deriving DecidableEq, Repr

/-- Output of the linter that is not a list of findings. -/
inductive MalformedOutput where
  | notFindings
deriving DecidableEq, Repr

/-- The wording of malformed output, up to the description of the fault. -/
def MalformedOutput.message : MalformedOutput → Text
  | .notFindings => "shellcheck produced malformed output: ".toList

namespace Finding

/-- The bound of numbers in a record: two to the power of 64. -/
def numberBound : Nat := 18446744073709551616

/-- A number in a record: plain digits below the bound. -/
def natOf? : Json → Option Nat
  | .number literal => (Text.toNat? literal).filter (· < numberBound)
  | _ => none

/-- A text in a record. -/
def textOf? : Json → Option Text
  | .string t => some t
  | _ => none

/-- A code: a text, or a number in decimal. -/
def codeOf? (v : Json) : Option Text :=
  match natOf? v with
  | some n => some (Text.ofNat n)
  | none => textOf? v

/-- A severity: its name, or an object with the name as its only key and the value null. -/
def severityOf? : Json → Option Severity
  | .string name => Severity.ofName? name
  | .object [(some name, .null)] => Severity.ofName? name
  | _ => none

/-- The severity of a record: a warning unless it says otherwise. -/
def levelOf? : Option Json → Option Severity
  | none | some .null => some .warning
  | some v => severityOf? v

/-- The finding with these five values. -/
def ofFields? (line column code message : Json) (level : Option Json) : Option Finding := do
  return ⟨← natOf? line, ← natOf? column, ← codeOf? code, ← textOf? message, ← levelOf? level⟩

/-- The keys of a record that mean something. -/
def keys : List Text :=
  ["line".toList, "column".toList, "code".toList, "message".toList, "level".toList]

/-- The values of a key in a record. -/
def valuesOf (key : Text) (members : List (Option Text × Json)) : List Json :=
  (members.filter fun m => m.1 == some key).map Prod.snd

/-- Whether every key stands for a text and no key that means something is repeated. -/
def hasSoundKeys (members : List (Option Text × Json)) : Bool :=
  members.all (fun m => m.1.isSome) && keys.all fun k => (valuesOf k members).length ≤ 1

/-- Reads one record: an object, or the values alone in their order. Other keys may hold anything. -/
def ofJson? : Json → Option Finding
  | .object members =>
    let value (key : String) : Option Json := (valuesOf key.toList members).head?
    match hasSoundKeys members, value "line", value "column", value "code", value "message" with
    | true, some line, some column, some code, some message =>
      ofFields? line column code message (value "level")
    | _, _, _, _, _ => none
  | .array [line, column, code, message] => ofFields? line column code message none
  | .array [line, column, code, message, level] => ofFields? line column code message (some level)
  | _ => none

/-- Reads the output of the linter. -/
def readAll (output : Text) : Except MalformedOutput (List Finding) :=
  match Json.read? output with
  | some (.array records) =>
    match records.mapM ofJson? with
    | some findings => .ok findings
    | none => .error .notFindings
  | _ => .error .notFindings

end Finding
end TranscriptLint
