import TranscriptLint.Lookup
import TranscriptLint.Shell.Run

namespace TranscriptLint

/-!
# A machine

A host on which whole runs can be played through: it has a few installed programs, it runs shell
scripts from its disk, and its linter answers from a list that was written down before.

* `Machine.host` is the host.
* The calls of the linter are kept in the order in which they were made.
-/

/-- What the linter of a machine does. -/
structure LinterScript where
  /-- What it says about itself. -/
  version : List UInt8
  /-- What it prints, call by call. -/
  outputs : List (List UInt8) := []
  /-- What it writes to standard error. -/
  stderr : List UInt8 := []
  status : Nat := 1
  /-- Whether it takes five seconds to answer. -/
  hangs : Bool := false
deriving DecidableEq, Repr

/-- A call of the linter: its options and the script it was given. -/
structure LinterCall where
  options : List Text
  script : Text
deriving DecidableEq, Repr

/-- The calls of the linter so far. -/
abbrev CallLog := List LinterCall

namespace Machine

/-- The time after which a linter that hangs goes on, in milliseconds. -/
def hangTime : Nat := 5000

/-- What the linter prints when nothing else was written down: no findings. -/
def noFindings : List UInt8 := Text.utf8 "[]\n".toList

/-- The linter's answer to a call. -/
def answer (l : LinterScript) (d : Disk) (arguments : List Text) (log : CallLog) :
    Completion × CallLog :=
  if arguments.head? == some "--version".toList then ({ stdout := l.version }, log)
  else
    let script := match d.read? ⟨arguments.getD 3 []⟩ with
      | .ok bytes => Text.decodeLossy bytes
      | .error _ => []
    ({ stdout := l.outputs.getD log.length noFindings, stderr := l.stderr
       status := some l.status, elapsed := some (if l.hangs then hangTime else 0) },
      log ++ [⟨arguments.take 3, script⟩])

/-- The first argument of a shell that is no option, with those after it. The flags say whether it is
a script itself and whether a command that fails ends the shell. -/
def shellOptions (isScript strict : Bool) : List Text → Bool × Bool × List Text
  | [] => (isScript, strict, [])
  | a :: rest =>
    match a with
    | '-' :: c :: letters =>
      if c == '-' then (isScript, strict, rest)
      else
        shellOptions (isScript || (c :: letters).contains 'c')
          (strict || (c :: letters).contains 'e') rest
    | _ => (isScript, strict, a :: rest)

/-- Runs a shell: a script after `-c`, a script in a file, or the script that is its input. -/
def shell (start : Shell.Starter CallLog) (d : Disk) (input : List UInt8) (name : Text)
    (arguments : List Text) (log : CallLog) : Completion × CallLog :=
  let run (strict : Bool) (name : Text) (arguments : List Text) (script : Text) :=
    let s := Shell.runScript start { disk := d, tools := log, name, arguments, input, strict } script
    (s.completion, s.tools)
  let refuse (message : Text) :=
    ({ stderr := Text.utf8 (name ++ ": 0: ".toList ++ message ++ ['\n']), status := some 2 }, log)
  match shellOptions false false arguments with
  | (true, _, []) => refuse "-c requires an argument".toList
  | (true, strict, [script]) => run strict name [] script
  | (true, strict, script :: name :: arguments) => run strict name arguments script
  | (false, strict, []) =>
    let s := Shell.runScript start { disk := d, tools := log, name, arguments := [], strict }
      (Text.decodeLossy input)
    (s.completion, s.tools)
  | (false, strict, file :: arguments) =>
    match d.readText? ⟨file⟩ with
    | .ok script => run strict file arguments script
    | .error _ => refuse ("cannot open ".toList ++ file ++ ": No such file".toList)

/-- Prints the arguments; escapes count only after `-e`. -/
def echo (arguments : List Text) : List UInt8 :=
  match arguments with
  | ['-', 'e'] :: rest => Shell.echo rest
  | ['-', 'n'] :: rest => Text.utf8 (Text.joinWith " ".toList rest)
  | _ => Text.utf8 (Text.joinWith " ".toList arguments ++ ['\n'])

/-- Prints arguments after a format, with a warning about those for which it has no place. -/
def printFormat (format : Text) (arguments : List Text) : Completion :=
  let f := Shell.printf true format (arguments.length + 1) arguments
  let complaint (fault : Text × Shell.NumberFault) : Text :=
    "printf: '".toList ++ fault.1 ++ (match fault.2 with
      | .notNumeric => "': expected a numeric value\n".toList
      | .notAll => "': value not completely converted\n".toList)
  let excess := match f.arguments with
    | a :: _ =>
      if f.stopped then []
      else "printf: warning: ignoring excess arguments, starting with '".toList ++ a ++
        "'\n".toList
    | [] => []
  { stdout := f.bytes, stderr := Text.utf8 (f.faults.flatMap complaint ++ excess)
    status := some (if f.faults.isEmpty then 0 else 1) }

/-- What an installed program other than a linter or a shell does. -/
def program (d : Disk) (input : List UInt8) (kind : Text) (arguments : List Text) : Completion :=
  match String.ofList kind, arguments with
  | "printf", [] =>
    { stderr := Text.utf8 ("printf: missing operand\n".toList ++ Shell.helpHint kind)
      status := some 1 }
  | "printf", ['-', '-'] :: format :: as | "printf", format :: as => printFormat format as
  | "echo", _ => { stdout := echo arguments }
  | _, _ =>
    let s : Shell.State Unit := { disk := d, tools := (), name := kind, arguments := [], input }
    match Shell.builtin? s kind arguments with
    | some s => s.completion
    | none => { status := some 127 }

/-- The interpreter that the first line of a file names, with an argument. -/
def interpreterLine? (content : List UInt8) : Option (List Text) :=
  match content with
  | 0x23 :: 0x21 :: rest =>
    let line := (Text.decodeLossy (rest.takeWhile (· != 0x0A))).trim
    let interpreter := line.takeWhile fun c => c != ' ' && c != '\t'
    let argument := Text.trim (line.drop interpreter.length)
    if interpreter.isEmpty then none
    else some (interpreter :: if argument.isEmpty then [] else [argument])
  | _ => none

/-- The entry of a program that is started by its path. -/
def startable (d : Disk) (path : Path) : Except Fault Entry :=
  match d.locate path with
  | .error f => .error f
  | .ok (.free ..) => .error .notFound
  | .ok (.entry _ e) => if e.isFile && e.isExecutable then .ok e else .error .permissionDenied

/-- The path at which a program is started. A name without a separator is looked up; what cannot be
started is passed over. -/
def startPath (d : Disk) (e : Environment) (name : Text) : Except Fault Path :=
  if name.contains '/' then .ok ⟨name⟩
  else if name.isEmpty then .error .notFound
  else
    let candidates := e.searchDirs.map fun dir => dir.join ⟨name⟩
    match candidates.find? fun p => (startable d p).isOk with
    | some p => .ok p
    | none =>
      if candidates.any d.exists? then .error .permissionDenied else .error .notFound

/-- Starts a program on its input; `depth` bounds how often programs start one another. -/
def start (l : LinterScript) (e : Environment) : Nat → Shell.Starter CallLog
  | 0, _, _, _, log => (.error .notRunnable, log)
  | _, _, _, [], log => (.error .notFound, log)
  | depth + 1, d, input, name :: arguments, log =>
    match startPath d e name with
    | .error f => (.error f, log)
    | .ok path =>
      match startable d path with
      | .error f => (.error f, log)
      | .ok (.program kind) =>
        match String.ofList kind with
        | "env" => start l e depth d input arguments log
        | "linter" =>
          let (c, log) := answer l d arguments log
          (.ok c, log)
        | "sh" | "dash" | "bash" =>
          let (c, log) := shell (start l e depth) d input name arguments log
          (.ok c, log)
        | _ => (.ok (program d input kind arguments), log)
      | .ok (.file _ content) =>
        match interpreterLine? content with
        | none => (.error .notRunnable, log)
        | some interpreter => start l e depth d input (interpreter ++ path.text :: arguments) log
      | .ok _ => (.error .permissionDenied, log)

/-- How deep programs can start one another. -/
def maxDepth : Nat := 8

/-- The host of a machine. -/
def host (l : LinterScript) (e : Environment) : Host CallLog :=
  ⟨fun d argv log => start l e maxDepth d [] argv log⟩

/-- The names of the programs that are installed. -/
def installed : List Text :=
  ["sh".toList, "bash".toList, "dash".toList, "cat".toList, "printf".toList, "sleep".toList,
   "echo".toList, "env".toList, "true".toList, "false".toList, "test".toList, "kill".toList]

/-- The files of a machine before anything else is put there. -/
def baseTree : FileTree :=
  let programs := installed.map fun n =>
    (["usr".toList, "bin".toList, n], Entry.program n)
  let links := installed.map fun n => (["bin".toList, n], Entry.program n)
  let base := FileTree.withDirs (FileTree.withDirs (FileTree.withDirs (FileTree.withDirs []
    ["usr".toList, "bin".toList]) ["bin".toList]) ["dev".toList]) ["tmp".toList]
  base ++ programs ++ links ++
    [(["dev".toList, "null".toList], .nullDevice), (["dev".toList, "full".toList], .fullDevice)]

end Machine
end TranscriptLint
