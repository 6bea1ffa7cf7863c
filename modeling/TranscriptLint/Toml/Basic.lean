import TranscriptLint.Text.Basic

namespace TranscriptLint

/-!
# TOML values and tables

A document is a tree of tables. While it is read, each table remembers how it came about, because
that decides whether a later line may add to it (`Toml.Node`).
-/

/-- A TOML value. Floats are only known as such, and dates and times by their text. -/
inductive Toml where
  | string (t : Text)
  | integer (n : Int)
  | float
  | bool (b : Bool)
  | date (t : Text)
  | array (items : List Toml)
  | table (entries : List (Text × Toml))
deriving Repr

namespace Toml

/-- The value of a key in a table; other values have no keys. -/
def get? (key : Text) : Toml → Option Toml
  | .table entries => entries.lookup key
  | _ => none

mutual

/-- A value with the texts of dates and times in their place. -/
def datesAsText : Toml → Toml
  | .date t => .string t
  | .array items => .array (itemsAsText items)
  | .table entries => .table (entriesAsText entries)
  | v => v

/-- Items with texts in place of dates and times. -/
def itemsAsText : List Toml → List Toml
  | [] => []
  | v :: vs => v.datesAsText :: itemsAsText vs

/-- Entries with texts in place of dates and times. -/
def entriesAsText : List (Text × Toml) → List (Text × Toml)
  | [] => []
  | (key, v) :: es => (key, v.datesAsText) :: entriesAsText es

end

/-- How a table came about. -/
inductive TableKind where
  /-- As part of the name of a deeper table. -/
  | implied
  /-- As part of a dotted key. -/
  | dotted
  /-- By a header of its own. -/
  | declared
deriving DecidableEq, Repr

/-- A part of a document while it is read. -/
inductive Node where
  | value (v : Toml)
  | table (kind : TableKind) (entries : List (Text × Node))
  /-- An array of tables, each with a header of its own. -/
  | tables (items : List (List (Text × Node)))
deriving Repr

/-- The entries of a table while it is read. -/
abbrev Entries := List (Text × Node)

namespace Entries

/-- Puts a node under a key, in place of an earlier one. -/
def set (es : Entries) (key : Text) (n : Node) : Entries :=
  if es.any fun e => e.1 == key then es.map fun e => if e.1 == key then (key, n) else e
  else es ++ [(key, n)]

/-- Adds a value under a dotted key. Every part but the last names a table without a header of its
own, or the last one of an array of tables. -/
def insert? (v : Toml) : List Text → Entries → Option Entries
  | [], _ => none
  | [key], es => if (es.lookup key).isSome then none else some (es ++ [(key, .value v)])
  | key :: path, es =>
    match es.lookup key with
    | none => (insert? v path []).map fun inner => es ++ [(key, .table .dotted inner)]
    | some (.table .declared _) => none
    | some (.table kind inner) =>
      (insert? v path inner).map fun inner => set es key (.table kind inner)
    | some (.tables items) =>
      match items.reverse with
      | [] => none
      | last :: before =>
        (insert? v path last).map fun last => set es key (.tables (before.reverse ++ [last]))
    | some (.value _) => none

/-- Changes the table at a path. Missing tables are implied, and an array of tables stands for its
last one. -/
def modifyAt? (f : Entries → Option Entries) : List Text → Entries → Option Entries
  | [], es => f es
  | key :: path, es =>
    match es.lookup key with
    | none => (modifyAt? f path []).map fun inner => set es key (.table .implied inner)
    | some (.table kind inner) =>
      (modifyAt? f path inner).map fun inner => set es key (.table kind inner)
    | some (.tables items) =>
      match items.reverse with
      | [] => none
      | last :: before =>
        (modifyAt? f path last).map fun last => set es key (.tables (before.reverse ++ [last]))
    | some (.value _) => none

/-- Declares a table under a key that no header has declared yet. -/
def declare? (key : Text) (es : Entries) : Option Entries :=
  match es.lookup key with
  | none => some (set es key (.table .declared []))
  | some (.table .implied inner) => some (set es key (.table .declared inner))
  | some _ => none

/-- Adds a table to the array of tables under a key. -/
def declareItem? (key : Text) (es : Entries) : Option Entries :=
  match es.lookup key with
  | none => some (set es key (.tables [[]]))
  | some (.tables items) => some (set es key (.tables (items ++ [[]])))
  | some _ => none

end Entries

mutual

/-- The value of a node that has been read completely. -/
def Node.freeze : Node → Toml
  | .value v => v
  | .table _ entries => .table (freezeEntries entries)
  | .tables items => .array (freezeItems items)

/-- The values of entries. -/
def freezeEntries : List (Text × Node) → List (Text × Toml)
  | [] => []
  | (key, n) :: rest => (key, n.freeze) :: freezeEntries rest

/-- The values of the tables in an array. -/
def freezeItems : List (List (Text × Node)) → List Toml
  | [] => []
  | es :: rest => .table (freezeEntries es) :: freezeItems rest

end

end Toml
end TranscriptLint
