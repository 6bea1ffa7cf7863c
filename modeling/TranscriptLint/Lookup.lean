import TranscriptLint.Config
import TranscriptLint.Notice
import TranscriptLint.Script
import TranscriptLint.Tool

namespace TranscriptLint

/-!
# Finding programs

A program is named by a path or looked up in the directories of the search path. This is how the
linter is found and how the interpreter of a dialect is found.

* `Lookup.which` finds a program.
* `Lookup.linter` finds the linter and asks for its version.
-/

/-- Environment variables. -/
abbrev Environment := List (Text × Text)

namespace Environment

/-- The value of a variable. -/
def get? (e : Environment) (name : String) : Option Text := e.lookup name.toList

/-- The directories in which programs are looked up. -/
def searchDirs (e : Environment) : List Path :=
  match e.get? "PATH" with
  | none => []
  | some dirs => (Text.splitOn ':' dirs).map Path.mk

/-- The directory for temporary files. -/
def tempDir (e : Environment) : Path := ((e.get? "TMPDIR").map Path.mk).getD (.ofString "/tmp")

end Environment

namespace Lookup

/-- Whether there is a program at a path. -/
def isProgram (d : Disk) (p : Path) : Bool :=
  match d.entry? p with
  | some e => e.isFile && e.isExecutable
  | none => false

/-- The path below the current directory that a relative path means. -/
def fromCwd (d : Disk) (p : Path) : Path :=
  (p.components.dropWhile (· == .here)).foldl Path.push d.cwdPath

/-- The places where a program may be. A name of more than one component is a path. -/
def candidates (d : Disk) (e : Environment) (name : Text) : List Path :=
  let p : Path := ⟨name⟩
  if 1 < p.components.length then [if p.isAbsolute then p else fromCwd d p]
  else e.searchDirs.map fun dir => dir.join p

/-- The first place with a program. A `~` in the search path is a name like any other and does not
stand for the directory of the user. -/
def which (d : Disk) (e : Environment) (name : Text) : Option Path :=
  (candidates d e name).find? (isProgram d)

/-- The interpreter of a dialect. One that is not found is left to `env`, with a warning. -/
def interpreter (d : Disk) (e : Environment) (dialect : Dialect) : Interpreter × List Notice :=
  match which d e dialect.name with
  | some path => (.resolved path, [])
  | none =>
    (.viaEnv dialect, [.warning .scripts ("Interpreter for '".toList ++ dialect.name ++
      "' not found (cannot find binary path); using /usr/bin/env".toList)])

variable {σ : Type}

/-- The version that a program says it is. -/
def queryVersion (h : Host σ) (d : Disk) (p : Path) (s : σ) : Option Version × σ :=
  match h.run d [p.text, "--version".toList] s with
  | (.ok c, s) => (Version.ofOutput? (Text.decodeLossy c.stdout), s)
  | (.error _, s) => (none, s)

/-- Finds the linter and checks its version. -/
def linter (h : Host σ) (d : Disk) (e : Environment) (name : Text) (s : σ) :
    Except ConfigError (Path × Version) × σ :=
  match which d e name with
  | none => (.error (.linterNotFound name), s)
  | some path =>
    match queryVersion h d path s with
    | (none, s) => (.error (.unknownVersion path), s)
    | (some v, s) =>
      (if v.isSupported then .ok (path, v) else .error (.linterTooOld path v), s)

end Lookup

/-- A configuration that has been checked, with the linter that was found. -/
structure ValidConfig where
  checked : Config.Checked
  executable : Path
  version : Version
  timeout : Nat
  reportFile : Option Path
  searchPath : List Path
  exclude : List Text
deriving DecidableEq, Repr

/-- Checks a configuration and finds its linter. -/
def Config.validate {σ : Type} (c : Config) (h : Host σ) (d : Disk) (e : Environment) (s : σ) :
    Except ConfigError ValidConfig × σ :=
  match c.check with
  | .error err => (.error err, s)
  | .ok checked =>
    match Lookup.linter h d e c.executable s with
    | (.error err, s) => (.error err, s)
    | (.ok (executable, version), s) =>
      (.ok { checked, executable, version, timeout := c.timeout, reportFile := c.reportFile
             searchPath := c.searchPath, exclude := c.exclude }, s)

end TranscriptLint
