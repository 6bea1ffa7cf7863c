import TranscriptLint.Text.Basic

namespace TranscriptLint

/-!
# Notices

What a run tells its user besides its results. Notices are values: the parts of a run return them
in order, and only the program decides which of them are shown.
-/

/-- How important a notice is. -/
inductive Level where
  | error
  | warn
  | info
  | debug
  | trace
deriving DecidableEq, Repr

/-- The rank of a level; more important levels have lower ranks. -/
def Level.rank : Level → Nat
  | .error => 1
  | .warn => 2
  | .info => 3
  | .debug => 4
  | .trace => 5

/-- Which part of a run a notice comes from. -/
inductive Topic where
  /-- Leading a check. -/
  | check
  /-- The options and the linter they name. -/
  | options
  /-- The search for documents. -/
  | search
  /-- The code blocks of documents. -/
  | blocks
  /-- The scripts that are made of blocks. -/
  | scripts
  /-- Linting documents. -/
  | linting
deriving DecidableEq, Repr

/-- The name of a topic, by which users choose notices. -/
def Topic.name : Topic → Text
  | .check => "shdoclint::commands::check".toList
  | .options => "shdoclint_lib::config".toList
  | .search => "shdoclint_lib::discovery".toList
  | .blocks => "shdoclint_lib::scanner".toList
  | .scripts => "shdoclint_lib::synthesizer".toList
  | .linting => "shdoclint_lib::engine".toList

/-- A message to the user. -/
structure Notice where
  level : Level
  topic : Topic
  message : Text
deriving DecidableEq, Repr

/-- A warning. -/
def Notice.warning (topic : Topic) (message : Text) : Notice := ⟨.warn, topic, message⟩

/-- A message on the progress of a run. -/
def Notice.info (topic : Topic) (message : Text) : Notice := ⟨.info, topic, message⟩

/-- The messages of the warnings in a list of notices. -/
def Notice.warnings (ns : List Notice) : List Text :=
  (ns.filter fun n => n.level == .warn).map Notice.message

end TranscriptLint
