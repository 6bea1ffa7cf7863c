import TranscriptLint.Machine
import TranscriptLint.Program

namespace TranscriptLint.Main

/-!
# The executable

The outer layer: it takes a snapshot of the files that a run can see, plays the run on it, writes
back what has changed and shows the two streams. Everything else is decided by `Program.run`.

The run is played on a machine and starts no programs: `Program.run` is a function, and its host
answers from the snapshot. The linter of the machine does not say its version, so a check ends there
at the latest, as a failure. The other commands do what they do on any host.
-/

/-- The environment variables that a run looks at. -/
def variableNames : List String :=
  ["PATH", "TMPDIR", "SHELL", "RUST_LOG", "RUST_LOG_STYLE", "NO_COLOR", "CLICOLOR_FORCE"]

/-- Reads the environment. -/
def readEnvironment : IO Environment :=
  variableNames.filterMapM fun name => do
    return (← IO.getEnv name).map fun value => (name.toList, value.toList)

/-- The names in an absolute path, from the root down. -/
def namesOf (path : String) : List Text :=
  (Text.splitOn '/' path.toList).filter fun n => !Path.isInert n

/-- Whether a file starts as scripts or as programs do. -/
def isRunnable (content : List UInt8) : Bool :=
  content.take 2 == [0x23, 0x21] || content.take 4 == [0x7F, 0x45, 0x4C, 0x46]

/-- Adds the entries of a directory to a tree, down to a depth. Entries that cannot be read are left
out, and so are those that are not kept; an entry that the tree has already stays. -/
def readDirectory (keep : String → Bool) : Nat → String → FileTree → IO FileTree
  | 0, _, tree => return tree
  | depth + 1, dir, tree => do
    let entries ← try (← IO.FS.realPath dir).readDir catch _ => pure #[]
    entries.foldlM (fun (tree : FileTree) entry => do
      if !keep entry.fileName then return tree
      let path := dir ++ "/" ++ entry.fileName
      let names := namesOf path
      if ← entry.path.isDir then
        readDirectory keep depth path (tree.withDirs names)
      else if (tree.get? names).isSome then return tree
      else
        try
          let content := (← IO.FS.readBinFile path).toList
          return tree.withEntry names (.file (isRunnable content) content)
        catch _ => return tree) tree

/-- How deep directories are read. -/
def depthLimit : Nat := 64

/-- The programs that a run may look for. -/
def isWanted (name : String) : Bool :=
  name.toList == Linter.name || (Dialect.all.map Dialect.name).contains name.toList

/-- The files that a run can see: those below the current directory, and the programs that it may
look for. -/
def readDisk (e : Environment) : IO Disk := do
  let cwd := (← IO.currentDir).toString
  let programs ← e.searchDirs.foldlM
    (fun tree dir => readDirectory isWanted 1 (String.ofList dir.text) tree) Machine.baseTree
  let tree ← readDirectory (fun _ => true) depthLimit cwd (programs.withDirs (namesOf cwd))
  return ⟨tree, namesOf cwd⟩

/-- Writes what has changed. -/
def writeChanges (before after : Disk) : IO Unit :=
  after.tree.forM fun (names, entry) => do
    if before.tree.get? names == some entry then return
    let path := String.ofList (Disk.pathOf names).text
    match entry with
    | .directory => IO.FS.createDirAll path
    | .file _ content => IO.FS.writeBinFile path ⟨content.toArray⟩
    | _ => return

end TranscriptLint.Main

open TranscriptLint in
/-- Runs the program and gives its exit status. The host is a machine in place of the real system:
no linter is started, and a check fails when the linter is asked for its version. -/
def main (args : List String) : IO UInt32 := do
  let environment ← Main.readEnvironment
  let disk ← Main.readDisk environment
  let host := Machine.host { version := [] } environment
  let outcome := Program.run host environment (args.map String.toList) disk []
  Main.writeChanges disk outcome.disk
  (← IO.getStdout).putStr (String.ofList outcome.screen.stdout)
  (← IO.getStderr).putStr (String.ofList outcome.screen.stderr)
  return UInt32.ofNat outcome.status.code
