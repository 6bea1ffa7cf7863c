import TranscriptLint.Shell.Arithmetic
import TranscriptLint.Shell.Builtin
import TranscriptLint.Shell.Pattern

namespace TranscriptLint.Shell

/-!
# Running shell commands

A shell runs commands over its state. Other programs are run by a `Starter`. `fuel` bounds the
number of steps; a script that needs more never ends.

* `Shell.run` runs a command, `Shell.runScript` a script from beginning to end.
-/

/-! ## Fields -/

/-- What a word becomes: fields under construction. The first flag says that a field is open. -/
structure Fields where
  done : List Text := []
  current : Text := []
  isOpen : Bool := false

namespace Fields

/-- Adds text that is not split. -/
def add (f : Fields) (t : Text) : Fields := { f with current := f.current ++ t, isOpen := true }

/-- Ends the current field. -/
def close (f : Fields) : Fields :=
  if f.isOpen then { done := f.done ++ [f.current] } else f

/-- Adds text that is split at blanks. -/
def addSplit (f : Fields) (t : Text) : Fields :=
  t.foldl (fun f c => if c == ' ' || c == '\t' || c == '\n' then f.close else f.add [c]) f

/-- Adds text, split at blanks unless it is `joined`. -/
def addText (f : Fields) (joined : Bool) (t : Text) : Fields :=
  if joined then f.add t else f.addSplit t

end Fields

/-! ## Commands -/

variable {σ : Type}

/-- The cause of a file that cannot be opened. -/
def openFault (mode : FileMode) (fault : Fault) : Text :=
  match mode, fault with
  | .read, .notFound => "No such file".toList
  | _, .notFound => "Directory nonexistent".toList
  | _, fault => (fault.message.takeWhile (· != '(')).dropLast

/-- The shell with a stream that goes to a sink. -/
def setSink (s : State σ) (stream : Nat) (sink : Sink) : State σ :=
  if stream == 1 then { s with out := sink } else if stream == 2 then { s with err := sink } else s

/-- Opens a file for a stream; none with a message if that fails. -/
def openFile (s : State σ) (stream : Nat) (mode : FileMode) (name : Text) : State σ × Bool :=
  let path : Path := ⟨name⟩
  let failed (fault : Fault) : State σ × Bool :=
    let verb := if mode == .read then "cannot open ".toList else "cannot create ".toList
    ((s.complain (verb ++ name ++ ": ".toList ++ openFault mode fault)).finish 2, false)
  match mode with
  | .read =>
    match s.disk.read? path with
    | .ok input => ({ s with input }, true)
    | .error fault => failed fault
  | .write =>
    match s.disk.update? path fun _ => [] with
    | .ok disk => (setSink { s with disk } stream (.file path), true)
    | .error fault => failed fault
  | .append =>
    match s.disk.update? path id with
    | .ok disk => (setSink { s with disk } stream (.file path), true)
    | .error fault => failed fault

/-- Ends a strict shell after a command that failed, unless its outcome is tested. -/
def checked (s : State σ) : State σ :=
  if s.strict && !s.tested && s.status != 0 && s.ending.isNone then s.exit s.status else s

/-- Ends a shell with another program in its place. -/
def replace (start : Starter σ) (s : State σ) (name : Text) (as : List Text) : State σ :=
  match start s.disk s.input (name :: as) s.tools with
  | (.ok c, tools) =>
    let after := ({ s with tools, atExit := [] }.absorb c)
    if after.ending.isSome then after
    else if c.status.isNone then { after with ending := some .killed }
    else after.exit after.status
  | (.error fault, tools) =>
    let (cause, status) := if fault == .permissionDenied then (": Permission denied", 126)
      else (": not found", 127)
    ({ s with tools }.complain ("exec: ".toList ++ name ++ cause.toList)).exit status

/-- What is left of an ending at the end of the body of a loop, and whether the loop goes on. -/
def Ending.afterBody : Option Ending → Option Ending × Bool
  | some (.left levels again) =>
    if levels ≤ 1 then (none, again) else (some (.left (levels - 1) again), false)
  | e => (e, e.isNone)

/-- Whether commands are run for their output in words. -/
def hasOutput (ws : List Word) : Bool :=
  ws.any fun w => w.any fun p => match p with
    | .output .. => true
    | _ => false

/-- Runs a command that is neither a function nor runs other commands of the shell. -/
def external (start : Starter σ) (s : State σ) (name : Text) (as : List Text) : State σ :=
  match builtin? s name as with
  | some after => after.settle
  | none =>
    match start s.disk s.input (name :: as) s.tools with
    | (.ok c, tools) => ({ s with tools }.absorb c).settle
    | (.error .permissionDenied, tools) =>
      ({ s with tools }.complain (name ++ ": Permission denied".toList)).finish 126
    | (.error _, tools) => ({ s with tools }.complain (name ++ ": not found".toList)).finish 127

mutual

/-- Runs a command. -/
def run (start : Starter σ) : Nat → Command → State σ → State σ
  | 0, _, s => { s with ending := some .stuck }
  | fuel + 1, c, s =>
    if s.ending.isSome then s
    else
      match c with
      | .nothing => s
      | .sequence a b => run start fuel b (run start fuel a s)
      | .andThen a b =>
        let after := { run start fuel a { s with tested := true } with tested := s.tested }
        if after.status == 0 then run start fuel b after else after
      | .orElse a b =>
        let after := { run start fuel a { s with tested := true } with tested := s.tested }
        if after.status == 0 then after else run start fuel b after
      | .negate a =>
        let after := { run start fuel a { s with tested := true } with tested := s.tested }
        after.finish (if after.status == 0 then 1 else 0)
      | .pipe a b =>
        let first := run start fuel a { s with out := .out, stdout := [] }
        let s := { s with
          disk := first.disk, tools := first.tools, elapsed := first.elapsed
          stderr := first.stderr }
        let input := s.input
        let second := run start fuel b { s with input := first.stdout.reverse }
        checked { second with
          input
          assigned := s.assigned
          ending := match second.ending with
            | some (.exited _) => none
            | e => e }
      | .background a =>
        let after := run start fuel a { s with input := [], stdout := [], stderr := [], jobs := [] }
        let job := { done := after.elapsed, stdout := after.stdout, stderr := after.stderr }
        State.settle ({ s with disk := after.disk, tools := after.tools, status := 0 }.addJob job)
      | .conditional test yes no =>
        let after := { run start fuel test { s with tested := true } with tested := s.tested }
        if after.status == 0 then run start fuel yes (after.finish 0)
        else run start fuel no (after.finish 0)
      | .loop outcome test body =>
        let after := { run start fuel test { s with tested := true } with tested := s.tested }
        if after.ending.isSome then after
        else if (after.status == 0) == outcome then
          let after := run start fuel body after
          let (ending, again) := Ending.afterBody after.ending
          let after := { after with ending }
          if again then run start fuel (.loop outcome test body) after else after
        else after.finish 0
      | .forEach name words body =>
        let (values, s) := expandAll start fuel words s
        runEach start fuel name body values s
      | .choose subject patterns body others =>
        let (f, s) := expandPieces start fuel true subject {} s
        let (found, s) := anyFits start fuel f.current patterns s
        if found then run start fuel body (s.finish 0) else run start fuel others (s.finish 0)
      | .define name body =>
        { s with
          functions := (name, body) :: s.functions.filter fun f => f.1 != name
          status := 0 }
      | .group isolated body rs =>
        let (inner, opened) := redirectAll start fuel rs s
        if !opened then s.restore inner
        else
          let after := run start fuel body inner
          let after := if isolated then
              { after with
                assigned := s.assigned, functions := s.functions, strict := s.strict
                disk := { after.disk with cwd := s.disk.cwd }
                ending := match after.ending with
                  | some (.exited _) => none
                  | e => e }
            else after
          s.restore (checked { after with input := if rs.isEmpty then after.input else s.input })
      | .simple assignments words rs =>
        let (values, s) := expandAll start fuel words s
        let (inner, opened) := redirectAll start fuel rs s
        if !opened || inner.ending.isSome then checked (s.restore inner)
        else
          match values with
          | [] =>
            let after := assignAll start fuel assignments inner
            let after :=
              if hasOutput (words ++ assignments.map Prod.snd) then after else after.finish 0
            checked (s.restore after)
          | name :: as =>
            if name == "exec".toList && as.isEmpty then inner.finish 0
            else
              let after := invoke start fuel name as inner
              s.restore (checked
                { after with input := if rs.isEmpty then after.input else s.input })

/-- Runs a command by its name: a function, a command that is built in, or another program. -/
def invoke (start : Starter σ) : Nat → Text → List Text → State σ → State σ
  | 0, _, _, s => { s with ending := some .stuck }
  | fuel + 1, name, as, s =>
    match s.functions.lookup name, as with
    | some body, _ =>
      let after := run start fuel body { s with arguments := as }
      { after with
        arguments := s.arguments
        ending := match after.ending with
          | some (.returned _) => none
          | e => e }
    | none, argument :: rest =>
      match String.ofList name with
      | "exec" => replace start s argument rest
      | "command" => invoke start fuel argument rest s
      | "eval" => runText start fuel (Text.joinWith " ".toList as) s
      | "." =>
        match s.disk.readText? ⟨argument⟩ with
        | .ok script => runText start fuel script s
        | .error _ =>
          (s.complain (".: cannot open ".toList ++ argument ++ ": No such file".toList)).exit 2
      | _ => external start s name as
    | none, [] => external start s name as

/-- Runs the commands in a text. -/
def runText (start : Starter σ) : Nat → Text → State σ → State σ
  | 0, _, s => { s with ending := some .stuck }
  | fuel + 1, t, s =>
    match read t with
    | .ok c => run start fuel c s
    | .error e => (s.complain ("Syntax error: ".toList ++ e.message)).exit 2

/-- Runs the body of a loop for each of the values. -/
def runEach (start : Starter σ) : Nat → Text → Command → List Text → State σ → State σ
  | 0, _, _, _, s => { s with ending := some .stuck }
  | _, _, _, [], s => s
  | fuel + 1, name, body, v :: vs, s =>
    let after := run start fuel body (s.assign name v)
    let (ending, again) := Ending.afterBody after.ending
    let after := { after with ending }
    if again then runEach start fuel name body vs after else after

/-- Carries out assignments in turn. -/
def assignAll (start : Starter σ) : Nat → List (Text × Word) → State σ → State σ
  | 0, _, s => { s with ending := some .stuck }
  | _, [], s => s
  | fuel + 1, (name, value) :: rest, s =>
    let (f, s) := expandPieces start fuel true value {} s
    assignAll start fuel rest (s.assign name f.current)

/-- Redirects streams in turn; the flag says that all of them could be redirected. -/
def redirectAll (start : Starter σ) : Nat → List Redirection → State σ → State σ × Bool
  | 0, _, s => ({ s with ending := some .stuck }, false)
  | _, [], s => (s, true)
  | fuel + 1, r :: rs, s =>
    match r with
    | .toStream stream target =>
      redirectAll start fuel rs (setSink s stream (if target == 2 then s.err else s.out))
    | .fromText content =>
      let (f, s) := expandPieces start fuel true content {} s
      redirectAll start fuel rs { s with input := Text.utf8 f.current }
    | .toFile stream mode name =>
      let (f, s) := expandPieces start fuel true name {} s
      match openFile s stream mode f.current with
      | (s, true) => redirectAll start fuel rs s
      | (s, false) => (s, false)

/-- Whether one of the patterns fits a text. -/
def anyFits (start : Starter σ) : Nat → Text → List Word → State σ → Bool × State σ
  | 0, _, _, s => (false, { s with ending := some .stuck })
  | _, _, [], s => (false, s)
  | fuel + 1, t, w :: ws, s =>
    let (p, s) := patternOf start fuel w s
    if matchesPattern p t then (true, s) else anyFits start fuel t ws s

/-- The pattern that a word stands for. -/
def patternOf (start : Starter σ) : Nat → Word → State σ → List (Char × Bool) × State σ
  | 0, _, s => ([], { s with ending := some .stuck })
  | _, [], s => ([], s)
  | fuel + 1, p :: ps, s =>
    let literal := match p with
      | .text _ quoted | .parameter _ quoted | .expansion _ _ _ quoted | .arithmetic _ quoted
      | .output _ quoted => quoted
    let (f, s) := expandPieces start fuel true [p] {} s
    let (more, s) := patternOf start fuel ps s
    (f.current.map (fun c => (c, literal)) ++ more, s)

/-- Expands words into fields. -/
def expandAll (start : Starter σ) : Nat → List Word → State σ → List Text × State σ
  | 0, _, s => ([], { s with ending := some .stuck })
  | _, [], s => ([], s)
  | fuel + 1, w :: ws, s =>
    let (f, s) := expandPieces start fuel false w {} s
    let (more, s) := expandAll start fuel ws s
    (f.close.done ++ more, s)

/-- Expands the pieces of a word; a word that is taken `whole` is not split. -/
def expandPieces (start : Starter σ) :
    Nat → Bool → Word → Fields → State σ → Fields × State σ
  | 0, _, _, f, s => (f, { s with ending := some .stuck })
  | _, _, [], f, s => (f, s)
  | fuel + 1, whole, p :: ps, f, s =>
    match p with
    | .text t _ => expandPieces start fuel whole ps (f.add t) s
    | .parameter ['@'] true =>
      let f := match s.arguments with
        | [] => f
        | a :: as => as.foldl (fun f a => f.close.add a) (f.add a)
      expandPieces start fuel whole ps f s
    | .parameter name quoted =>
      expandPieces start fuel whole ps (f.addText (quoted || whole) (s.parameter name)) s
    | .arithmetic expression quoted =>
      let result := Text.ofInt (arithmetic s.number expression)
      expandPieces start fuel whole ps (f.addText (quoted || whole) result) s
    | .expansion name operator operand quoted =>
      let (text, s) := expansion start fuel name operator operand s
      expandPieces start fuel whole ps (f.addText (quoted || whole) text) s
    | .output commands quoted =>
      let inner := runText start fuel commands { s with stdout := [], out := .out }
      let text := Text.decodeLossy (inner.stdout.dropWhile (· == 0x0A)).reverse
      let s := { s with
        disk := { inner.disk with cwd := s.disk.cwd }, tools := inner.tools
        elapsed := inner.elapsed, stderr := inner.stderr, status := inner.status
        ending := if inner.ending == some .stuck then inner.ending else s.ending }
      expandPieces start fuel whole ps (f.addText (quoted || whole) text) s

/-- The value of a parameter, changed by an operator. -/
def expansion (start : Starter σ) : Nat → Text → Text → Text → State σ → Text × State σ
  | 0, _, _, _, s => ([], { s with ending := some .stuck })
  | fuel + 1, name, operator, operand, s =>
    let value := s.parameter name
    let isSet :=
      if operator.head? == some ':' then !value.isEmpty else (s.parameter? name).isSome
    let alternative (s : State σ) : Text × State σ :=
      let (f, s) := expandPieces start fuel true (expandable operand) {} s
      (f.current, s)
    let pattern (s : State σ) : List (Char × Bool) × State σ :=
      patternOf start fuel (((word (operand.length + 1) operand).map Prod.fst).getD []) s
    match String.ofList operator with
    | "length" => (Text.ofNat value.length, s)
    | ":-" | "-" => if isSet then (value, s) else alternative s
    | ":+" | "+" => if isSet then alternative s else ([], s)
    | ":=" | "=" =>
      if isSet then (value, s)
      else
        let (t, s) := alternative s
        (t, s.assign name t)
    | ":?" | "?" =>
      if isSet then (value, s)
      else
        let (t, s) := alternative s
        let message := if t.isEmpty then "parameter not set".toList else t
        ([], (s.complain (name ++ ": ".toList ++ message)).exit 2)
    | o =>
      let (p, s) := pattern s
      match o with
      | "#" => (dropStart false p value, s)
      | "##" => (dropStart true p value, s)
      | "%" => (dropFinish false p value, s)
      | _ => (dropFinish true p value, s)

end

/-- The number of steps after which a script is taken never to end. -/
def maxSteps : Nat := 200000

/-- Runs a script, and what is to be run at its end. -/
def runScript (start : Starter σ) (s : State σ) (script : Text) : State σ :=
  let after := runText start maxSteps script s
  if after.atExit.isEmpty || after.ending == some .killed || after.ending == some .stuck then after
  else
    let last := runText start maxSteps after.atExit
      { after with ending := none, atExit := [], strict := false }
    match last.ending, after.ending with
    | none, some e => { last with ending := some e }
    | none, none => last.exit after.status
    | some _, _ => last

end TranscriptLint.Shell
