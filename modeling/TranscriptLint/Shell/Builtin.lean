import TranscriptLint.Shell.State

namespace TranscriptLint.Shell

/-!
# Commands that are built in

The commands that a shell carries out itself and that run no other commands. Some of them are
programs as well.

* `Shell.builtin?` runs such a command.
-/

/-- Whether a flag holds of a text or of the file that it names. -/
def holds (d : Disk) (flag a : Text) : Bool :=
  let p : Path := ⟨a⟩
  match String.ofList flag with
  | "-z" => a.isEmpty
  | "-n" => !a.isEmpty
  | "-f" => d.isFile p
  | "-d" => d.isDirectory p
  | "-e" | "-r" | "-w" => d.exists? p
  | "-x" => ((d.entry? p).map Entry.isExecutable).getD false
  | "-s" =>
    match d.read? p with
    | .ok bytes => !bytes.isEmpty
    | .error _ => false
  | _ => false

/-- A comparison of numbers. -/
def comparison? (operator : Text) : Option (Int → Int → Bool) :=
  match String.ofList operator with
  | "-eq" => some fun x y => x == y
  | "-ne" => some fun x y => x != y
  | "-lt" => some fun x y => x < y
  | "-le" => some fun x y => x ≤ y
  | "-gt" => some fun x y => x > y
  | "-ge" => some fun x y => x ≥ y
  | _ => none

/-- The outcome of a test; an error names the operand that is no number. -/
def test (d : Disk) : Nat → List Text → Except Text Bool
  | 0, _ => .ok false
  | _, [] => .ok false
  | _, [a] => .ok (!a.isEmpty)
  | fuel + 1, as =>
    let alternatives := as.takeWhile (· != "-o".toList)
    let conditions := as.takeWhile (· != "-a".toList)
    if alternatives.length < as.length then do
      let first ← test d fuel alternatives
      let second ← test d fuel (as.drop (alternatives.length + 1))
      return first || second
    else if conditions.length < as.length then do
      let first ← test d fuel conditions
      let second ← test d fuel (as.drop (conditions.length + 1))
      return first && second
    else
      match as with
      | ['!'] :: rest => (test d fuel rest).map (!·)
      | [flag, a] => .ok (holds d flag a)
      | [a, operator, b] =>
        match comparison? operator, integer? a, integer? b with
        | some compare, some x, some y => .ok (compare x y)
        | some _, none, _ => .error a
        | some _, _, none => .error b
        | none, _, _ =>
          .ok (if operator == "=".toList then a == b else operator == "!=".toList && a != b)
      | _ => .ok false

/-- A time in milliseconds, given in seconds with an optional fraction and unit. -/
def duration? (t : Text) : Option Nat :=
  let whole := t.takeWhile Char.isDigit
  let rest := t.drop whole.length
  let (fraction, unit) := match rest with
    | '.' :: more => (more.takeWhile Char.isDigit, more.dropWhile Char.isDigit)
    | _ => ([], rest)
  if whole.isEmpty && fraction.isEmpty then none
  else
    let ms := 1000 * Text.decimalValue whole +
      Text.decimalValue ((fraction ++ "000".toList).take 3)
    match unit with
    | [] | ['s'] => some ms
    | ['m'] => some (60 * ms)
    | ['h'] => some (3600 * ms)
    | ['d'] => some (86400 * ms)
    | _ => none

/-- Whether a time is without end. -/
def isForever (t : Text) : Bool := t == "infinity".toList || t == "inf".toList

/-- The last line of the messages of many programs. -/
def helpHint (program : Text) : Text :=
  "Try '".toList ++ program ++ " --help' for more information.\n".toList

/-- The output of `cat`, its messages, its status, and the input that it leaves. -/
def concatenate (d : Disk) (input : List UInt8) :
    List Text → List UInt8 × List UInt8 × Nat × List UInt8
  | [] => ([], [], 0, input)
  | name :: names =>
    if name == "-".toList then
      let (out, err, status, input') := concatenate d [] names
      (input ++ out, err, status, input')
    else
      let (out, err, status, input) := concatenate d input names
      match d.read? ⟨name⟩ with
      | .ok bytes => (bytes ++ out, err, status, input)
      | .error fault =>
        let cause := (fault.message.takeWhile (· != '(')).dropLast
        let shown := if name.isEmpty then "''".toList else name
        (out, Text.utf8 ("cat: ".toList ++ shown ++ ": ".toList ++ cause ++ ['\n']) ++ err, 1,
          input)

variable {σ : Type}

/-- Reports an option that a program does not know. -/
def refuseOption (s : State σ) (program : Text) (c : Char) : State σ :=
  (s.warn (program ++ ": invalid option -- '".toList ++ c :: "'\n".toList ++
    helpHint program)).finish 1

/-- Runs `sleep`. -/
def sleep (s : State σ) (as : List Text) : State σ :=
  match as.find? fun a => (duration? a).isNone && !isForever a with
  | some ('-' :: c :: _) => refuseOption s "sleep".toList c
  | some bad =>
    (s.warn ("sleep: invalid time interval '".toList ++ bad ++ "'\n".toList ++
      helpHint "sleep".toList)).finish 1
  | none =>
    if as.isEmpty then
      (s.warn ("sleep: missing operand\n".toList ++ helpHint "sleep".toList)).finish 1
    else if as.any isForever then { s with ending := some .stuck }
    else
      let ms := (as.filterMap duration?).foldl (· + ·) 0
      { s with elapsed := s.elapsed + ms, status := 0 }

/-- Runs `cat`. Without arguments it copies its input. -/
def cat (s : State σ) (as : List Text) : State σ :=
  match as with
  | ('-' :: c :: _) :: rest => if c == '-' then copy rest else refuseOption s "cat".toList c
  | _ => copy as
where
  copy (as : List Text) : State σ :=
    let (out, err, status, input) :=
      concatenate s.disk s.input (if as.isEmpty then ["-".toList] else as)
    (({ s with input }.print out).writeTo s.err err).finish status

/-- Reads a line of the input into variables; the last of them takes the rest of the line. -/
def readLine (s : State σ) (names : List Text) : State σ :=
  let line := s.input.takeWhile (· != 0x0A)
  let ended := line.length < s.input.length
  let s := { s with input := s.input.drop (line.length + 1) }
  let rec assignWords (s : State σ) (t : Text) : List Text → State σ
    | [] => s
    | [name] => s.assign name t.trim
    | name :: names =>
      let t := t.trimStart
      let first := t.takeWhile fun c => c != ' ' && c != '\t'
      assignWords (s.assign name first) (t.drop first.length) names
  (assignWords s (Text.decodeLossy line) (names.filter fun n => n != "-r".toList)).finish
    (if ended then 0 else 1)

/-- Runs `printf`. -/
def printFormat (s : State σ) (format : Text) (as : List Text) : State σ :=
  let f := printf false format (as.length + 1) as
  let complaint (fault : Text × NumberFault) : Text :=
    "printf: ".toList ++ fault.1 ++ (match fault.2 with
      | .notNumeric => ": expected numeric value".toList
      | .notAll => ": not completely converted".toList)
  (f.faults.foldl (fun s fault => s.complain (complaint fault)) (s.print f.bytes)).finish
    (if f.faults.isEmpty then 0 else 1)

/-- Runs a test. -/
def runTest (s : State σ) (name : Text) (as : List Text) : State σ :=
  match test s.disk (as.length + 1) as with
  | .ok outcome => s.finish (if outcome then 0 else 1)
  | .error operand => (s.complain (name ++ ": Illegal number: ".toList ++ operand)).finish 2

/-- Runs a command that is built in and runs no other commands; none if there is no such
command. -/
def builtin? (s : State σ) (name : Text) (as : List Text) : Option (State σ) :=
  match String.ofList name with
  | "echo" => some ((s.print (echo as)).finish 0)
  | "printf" =>
    some (match as with
      | [] => (s.complain "printf: usage: printf format [arg ...]".toList).finish 2
      | ['-', '-'] :: format :: as | format :: as => printFormat s format as)
  | ":" | "true" => some (s.finish 0)
  | "wait" => some (s.await.finish 0)
  | "break" | "continue" =>
    let levels := (as.head?.bind Text.toNat?).getD 1
    some { s with status := 0, ending := some (.left levels (name == "continue".toList)) }
  | "export" =>
    some ((as.foldl (fun s a =>
      match Text.splitOn '=' a with
      | n :: v :: more => s.assign n (Text.joinWith "=".toList (v :: more))
      | _ => s) s).finish 0)
  | "false" => some (s.finish 1)
  | "exit" =>
    some (match as with
      | [] => s.exit s.status
      | a :: _ =>
        match Text.toNat? a with
        | some n => s.exit (n % 256)
        | none => (s.complain ("exit: Illegal number: ".toList ++ a)).exit 2)
  | "return" =>
    let status := ((as.head?.bind Text.toNat?).getD s.status) % 256
    some { s with status, ending := some (.returned status) }
  | "kill" =>
    some (if as.head? == some "-0".toList then s.finish 0 else { s with ending := some .killed })
  | "test" => some (runTest s name as)
  | "[" =>
    some (if as.getLast? == some "]".toList then runTest s name as.dropLast
      else (s.complain "[: missing ]".toList).finish 2)
  | "sleep" => some (sleep s as)
  | "cat" => some (cat s as)
  | "read" => some (readLine s as)
  | "pwd" => some ((s.print (Text.utf8 (s.disk.cwdPath.text ++ ['\n']))).finish 0)
  | "cd" =>
    let target := as.headD "/".toList
    some (match s.disk.locate ⟨target⟩ with
      | .ok (.entry names .directory) =>
        { s with disk := { s.disk with cwd := names }, status := 0 }
      | _ => (s.complain ("cd: can't cd to ".toList ++ target)).finish 2)
  | "shift" =>
    let n := (as.head?.bind Text.toNat?).getD 1
    some (if n ≤ s.arguments.length then { s with arguments := s.arguments.drop n, status := 0 }
      else (s.complain "shift: can't shift that many".toList).exit 2)
  | "unset" =>
    some { s with assigned := s.assigned.filter fun v => !as.contains v.1, status := 0 }
  | "set" =>
    some (match as with
      | ['-', 'e'] :: _ => { s with strict := true, status := 0 }
      | ['+', 'e'] :: _ => { s with strict := false, status := 0 }
      | ['-', '-'] :: rest => { s with arguments := rest, status := 0 }
      | _ => s.finish 0)
  | "trap" =>
    some (match as with
      | action :: signals =>
        if signals.contains "EXIT".toList || signals.contains "0".toList then
          { s with atExit := action, status := 0 }
        else s.finish 0
      | [] => s.finish 0)
  | _ => none

end TranscriptLint.Shell
