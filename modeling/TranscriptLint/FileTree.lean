import TranscriptLint.Path
import TranscriptLint.Text.Utf8

namespace TranscriptLint

/-!
# Files

The files a run can see, as a value: a list of entries under their absolute names, and a current
directory that relative paths start from. There are no links, so every entry has one place.

* `Disk.locate` follows a path through directories.
* `Disk.readText?`, `Disk.write?`, `Disk.append?` and `Disk.makeDirs?` are the operations, with the
  faults the operating system reports.
-/

/-- Why an operation on files or programs failed. -/
inductive Fault where
  | notFound
  | notRunnable
  | permissionDenied
  | exists
  | notADirectory
  | isADirectory
  | noSpace
  | notUtf8
deriving DecidableEq, Repr

/-- The wording of a fault. -/
def Fault.message : Fault → Text
  | .notFound => "No such file or directory (os error 2)".toList
  | .notRunnable => "Exec format error (os error 8)".toList
  | .permissionDenied => "Permission denied (os error 13)".toList
  | .exists => "File exists (os error 17)".toList
  | .notADirectory => "Not a directory (os error 20)".toList
  | .isADirectory => "Is a directory (os error 21)".toList
  | .noSpace => "No space left on device (os error 28)".toList
  | .notUtf8 => "stream did not contain valid UTF-8".toList

/-- Something that has a name in a directory. -/
inductive Entry where
  | directory
  | file (executable : Bool) (content : List UInt8)
  /-- A device that swallows what is written and reads as empty. -/
  | nullDevice
  /-- A device that takes no octets. -/
  | fullDevice
  /-- An installed program, known by what it does. -/
  | program (name : Text)
deriving DecidableEq, Repr

/-- Whether an entry is a regular file. -/
def Entry.isFile : Entry → Bool
  | .file .. | .program _ => true
  | _ => false

/-- Whether an entry may be run. -/
def Entry.isExecutable : Entry → Bool
  | .file executable _ => executable
  | .program _ => true
  | _ => false

/-- Entries under their absolute names, the names from the root down. The root directory itself
has no entry. -/
abbrev FileTree := List (List Text × Entry)

namespace FileTree

/-- The entry of a name. -/
def get? (t : FileTree) (names : List Text) : Option Entry :=
  if names.isEmpty then some .directory else t.lookup names

/-- Puts an entry under a name, in place of an earlier one. -/
def put (t : FileTree) (names : List Text) (e : Entry) : FileTree :=
  if t.any fun p => p.1 == names then t.map fun p => if p.1 == names then (names, e) else p
  else t ++ [(names, e)]

/-- The names in a directory with their entries. -/
def children (t : FileTree) (dir : List Text) : List (Text × Entry) :=
  t.filterMap fun p =>
    match p.1.reverse with
    | last :: above => if above.reverse == dir then some (last, p.2) else none
    | [] => none

/-- The tree with a directory of this name and all directories above it. -/
def withDirs (t : FileTree) (names : List Text) : FileTree :=
  ((List.range names.length).map fun k => names.take (k + 1)).foldl
    (fun t dir => if (t.get? dir).isSome then t else t.put dir .directory) t

/-- The tree with an entry, and with the directories above it. -/
def withEntry (t : FileTree) (names : List Text) (e : Entry) : FileTree :=
  (t.withDirs names.dropLast).put names e

end FileTree

/-- Where a path leads. -/
inductive Place where
  | entry (names : List Text) (e : Entry)
  /-- To a name that is free in an existing directory. The flag says that the path can only mean a
  directory. -/
  | free (names : List Text) (asDirectory : Bool)
deriving DecidableEq, Repr

/-- The files and the current directory. -/
structure Disk where
  tree : FileTree
  /-- The names of the current directory, from the root down. -/
  cwd : List Text
deriving DecidableEq, Repr

namespace Disk

/-- The absolute path of a list of names. -/
def pathOf (names : List Text) : Path :=
  if names.isEmpty then ⟨['/']⟩ else ⟨names.flatMap fun n => '/' :: n⟩

/-- The path of the current directory. -/
def cwdPath (d : Disk) : Path := pathOf d.cwd

/-- Follows the pieces of a path. Every piece but the first needs a directory before it. -/
def follow (t : FileTree) (names : List Text) : List Text → Except Fault Place
  | [] =>
    match t.get? names with
    | some e => .ok (.entry names e)
    | none => .ok (.free names false)
  | piece :: rest =>
    match t.get? names with
    | some .directory =>
      if Path.isInert piece then follow t names rest
      else if piece = "..".toList then follow t names.dropLast rest
      else follow t (names ++ [piece]) rest
    | some _ => .error .notADirectory
    | none => if (piece :: rest).all Path.isInert then .ok (.free names true) else .error .notFound

/-- Where a path leads. The empty path leads nowhere. -/
def locate (d : Disk) (p : Path) : Except Fault Place :=
  if p.text.isEmpty then .error .notFound
  else follow d.tree (if p.isAbsolute then [] else d.cwd) (Text.splitOn '/' p.text)

/-- The entry at a path. -/
def entry? (d : Disk) (p : Path) : Option Entry :=
  match d.locate p with
  | .ok (.entry _ e) => some e
  | _ => none

/-- Whether there is anything at a path. -/
def exists? (d : Disk) (p : Path) : Bool := (d.entry? p).isSome

/-- Whether there is a regular file at a path. -/
def isFile (d : Disk) (p : Path) : Bool := ((d.entry? p).map Entry.isFile).getD false

/-- Whether there is a directory at a path. -/
def isDirectory (d : Disk) (p : Path) : Bool := d.entry? p == some .directory

/-- The octets of a file. -/
def read? (d : Disk) (p : Path) : Except Fault (List UInt8) :=
  match d.locate p with
  | .error f => .error f
  | .ok (.free ..) => .error .notFound
  | .ok (.entry _ .directory) => .error .isADirectory
  | .ok (.entry _ (.file _ content)) => .ok content
  | .ok (.entry _ (.program _)) => .ok [0x7F, 0x45, 0x4C, 0x46, 0xFF]
  | .ok (.entry _ .nullDevice) | .ok (.entry _ .fullDevice) => .ok []

/-- The text of a file. -/
def readText? (d : Disk) (p : Path) : Except Fault Text :=
  match d.read? p with
  | .error f => .error f
  | .ok content =>
    match Text.decodeUtf8? content with
    | some t => .ok t
    | none => .error .notUtf8

/-- Changes the content of a file, which starts as empty if there is no file yet. -/
def update? (d : Disk) (p : Path) (f : List UInt8 → List UInt8) : Except Fault Disk :=
  match d.locate p with
  | .error e => .error e
  | .ok (.free names false) => .ok { d with tree := d.tree.put names (.file false (f [])) }
  | .ok (.free _ true) => .error .isADirectory
  | .ok (.entry _ .directory) => .error .isADirectory
  | .ok (.entry names (.file x content)) =>
    .ok { d with tree := d.tree.put names (.file x (f content)) }
  | .ok (.entry names (.program _)) => .ok { d with tree := d.tree.put names (.file true (f [])) }
  | .ok (.entry _ .nullDevice) => .ok d
  | .ok (.entry _ .fullDevice) => if (f []).isEmpty then .ok d else .error .noSpace

/-- Writes a file in place of what it held. -/
def write? (d : Disk) (p : Path) (t : Text) : Except Fault Disk := d.update? p fun _ => t.utf8

/-- Writes at the end of a file. -/
def append? (d : Disk) (p : Path) (t : Text) : Except Fault Disk := d.update? p (· ++ t.utf8)

/-- Makes one directory. -/
def makeDir? (d : Disk) (p : Path) : Except Fault Disk :=
  match d.locate p with
  | .error e => .error e
  | .ok (.free names _) => .ok { d with tree := d.tree.put names .directory }
  | .ok (.entry ..) => .error .exists

/-- Makes a directory and those above it that are missing; `depth` bounds how many. A directory
that is there already is no fault. -/
def makeDirsUpTo? : Nat → Disk → Path → Except Fault Disk
  | 0, _, _ => .error .notFound
  | depth + 1, d, p =>
    if p.text.isEmpty then .ok d
    else
      match d.makeDir? p with
      | .ok d' => .ok d'
      | .error .notFound =>
        match p.parent? with
        | none => .error .notFound
        | some above =>
          match makeDirsUpTo? depth d above with
          | .error f => .error f
          | .ok d' =>
            match d'.makeDir? p with
            | .ok d'' => .ok d''
            | .error f => if d'.isDirectory p then .ok d' else .error f
      | .error f => if d.isDirectory p then .ok d else .error f

/-- Makes a directory and all directories above it that are missing. -/
def makeDirs? (d : Disk) (p : Path) : Except Fault Disk :=
  makeDirsUpTo? (p.components.length + 1) d p

end Disk
end TranscriptLint
