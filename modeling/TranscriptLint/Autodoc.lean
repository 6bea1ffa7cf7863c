import TranscriptLint.Docstring
import TranscriptLint.FileTree

namespace TranscriptLint

/-!
# Targets of docstring directives

A target is the dotted name of a function. Its module is looked up below a list of search roots,
as a file of that name or as a package, and the first file found decides.
-/

/-- Why a target leads to no docstring. -/
inductive AutodocError where
  | invalidTarget (target : Text)
  | moduleNotFound (module : Text)
  | functionNotFound (function : Text) (file : Path)
  | noDocstring (function : Text) (file : Path)
  | unreadable (file : Path) (fault : Fault)
deriving DecidableEq, Repr

/-- The wording of a failed target. -/
def AutodocError.message : AutodocError → Text
  | .invalidTarget target =>
    "'".toList ++ target ++ "' is not a dotted module.function name".toList
  | .moduleNotFound module => "module '".toList ++ module ++ "' not found in python path".toList
  | .functionNotFound function file =>
    "function '".toList ++ function ++ "' not found in ".toList ++ file.text
  | .noDocstring function file =>
    "function '".toList ++ function ++ "' in ".toList ++ file.text ++ " has no docstring".toList
  | .unreadable file fault =>
    "failed to read ".toList ++ file.text ++ ": ".toList ++ fault.message

/-- A docstring and where it was found. -/
structure Autodoc where
  file : Path
  qualname : Text
  docstring : Docstring
deriving DecidableEq, Repr

namespace Autodoc

/-- The relative path of a dotted module name. -/
def modulePath (module : Text) : Path :=
  (Text.splitOn '.' module).foldl (fun p piece => p.join ⟨piece⟩) ⟨[]⟩

/-- The files that can hold a module below a root, in the order in which they are tried. -/
def candidates (module : Text) (root : Path) : List Path :=
  let base := root.join (modulePath module)
  [base.withExtension "py".toList, base.join (.ofString "__init__.py")]

/-- Splits a target into its module and its function. -/
def splitTarget (target : Text) : Except AutodocError (Text × Text) :=
  match Text.splitLast? '.' target with
  | some (module, function) =>
    if module.isEmpty || function.isEmpty then .error (.invalidTarget target)
    else .ok (module, function)
  | none => .error (.invalidTarget target)

/-- The file of a module: the first candidate that is a file. -/
def findModule (d : Disk) (roots : List Path) (module : Text) : Except AutodocError Path :=
  match (roots.flatMap (candidates module)).find? d.isFile with
  | some file => .ok file
  | none => .error (.moduleNotFound module)

/-- The docstring of a function in a file. -/
def readFrom [PatternLibrary] (d : Disk) (tabWidth : Nat) (function : Text) (file : Path) :
    Except AutodocError Docstring :=
  match d.readText? file with
  | .error fault => .error (.unreadable file fault)
  | .ok content =>
    let lines := content.lines.map (Text.expandTabs tabWidth)
    match Docstring.findFunction lines function with
    | none => .error (.functionNotFound function file)
    | some defLine =>
      match Docstring.read lines defLine with
      | none => .error (.noDocstring function file)
      | some docstring => .ok docstring

/-- Finds the docstring of a target. -/
def resolve [PatternLibrary] (d : Disk) (roots : List Path) (tabWidth : Nat) (target : Text) :
    Except AutodocError Autodoc := do
  let (module, function) ← splitTarget target
  let file ← findModule d roots module
  return ⟨file, target, ← readFrom d tabWidth function file⟩

end Autodoc
end TranscriptLint
