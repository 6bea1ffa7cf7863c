import TranscriptLint.Text.Basic

namespace TranscriptLint

/-!
# Shell dialects

The dialects a code block can be tagged with. A tag is read without regard to case and to
surrounding whitespace (`Dialect.ofName`), and sets of dialects are listed in one fixed order
(`Dialect.inOrder`).
-/

/-- A shell flavour declared on a code block. -/
inductive Dialect where
  | sh
  | bash
  | dash
  | ksh
deriving DecidableEq, Repr

/-- A language tag that names no dialect, without its surrounding whitespace. -/
structure UnknownDialect where
  name : Text
deriving DecidableEq, Repr

/-- The wording of an unknown dialect. -/
def UnknownDialect.message (e : UnknownDialect) : Text :=
  "unknown shell dialect '".toList ++ e.name ++ "'".toList

namespace Dialect

/-- Every dialect, in the order of the default configuration. -/
def all : List Dialect := [.sh, .bash, .dash, .ksh]

/-- The name of a dialect. -/
def name : Dialect → Text
  | .sh => "sh".toList
  | .bash => "bash".toList
  | .dash => "dash".toList
  | .ksh => "ksh".toList

/-- Reads a language tag: surrounding whitespace and ASCII case do not matter. -/
def ofName (tag : Text) : Except UnknownDialect Dialect :=
  match all.find? fun d => d.name == Text.lowerAscii (Text.trim tag) with
  | some d => .ok d
  | none => .error ⟨Text.trim tag⟩

/-- The dialects that occur in a list, each once and in the fixed order. -/
def inOrder (ds : List Dialect) : List Dialect := all.filter ds.contains

end Dialect
end TranscriptLint
