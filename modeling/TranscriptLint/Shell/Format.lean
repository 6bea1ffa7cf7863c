import TranscriptLint.Text.Utf8

namespace TranscriptLint.Shell

/-!
# Formatted output

The escapes of `echo` and the formats of `printf`. The results are octets, because an escape can
name any octet.
-/

/-- Whether a character is an octal digit. -/
def isOctal (c : Char) : Bool := '0' ≤ c && c ≤ '7'

/-- The octet that octal digits stand for. -/
def octalByte (digits : Text) : UInt8 :=
  UInt8.ofNat (digits.foldl (fun n c => 8 * n + (c.toNat - '0'.toNat)) 0)

/-- The character of a one-letter escape. -/
def letterEscape (c : Char) : Option Char :=
  match c with
  | 'a' => some '\x07'
  | 'b' => some '\x08'
  | 'f' => some '\x0c'
  | 'n' => some '\n'
  | 'r' => some '\r'
  | 't' => some '\t'
  | 'v' => some '\x0b'
  | '\\' => some '\\'
  | _ => none

/-- The value of a hexadecimal digit. -/
def hexValue? (c : Char) : Option Nat :=
  if c.isDigit then some (c.toNat - '0'.toNat)
  else if 'a' ≤ c && c ≤ 'f' then some (c.toNat - 'a'.toNat + 10)
  else if 'A' ≤ c && c ≤ 'F' then some (c.toNat - 'A'.toNat + 10)
  else none

/-- The octet that hexadecimal digits stand for. -/
def hexByte (digits : Text) : UInt8 :=
  UInt8.ofNat (digits.foldl (fun n c => 16 * n + (hexValue? c).getD 0) 0)

/-- The octets of an escape and what follows it, given what follows its backslash. Hexadecimal
digits count only if `hex` says so. -/
def formatEscape (hex : Bool) (t : Text) : List UInt8 × Text :=
  let digits := (t.takeWhile isOctal).take 3
  let hexDigits := ((t.drop 1).takeWhile fun c => (hexValue? c).isSome).take 2
  if !digits.isEmpty then ([octalByte digits], t.drop digits.length)
  else if hex && t.head? == some 'x' && !hexDigits.isEmpty then
    ([hexByte hexDigits], t.drop (hexDigits.length + 1))
  else
    match t with
    | [] => (Text.utf8 ['\\'], [])
    | c :: rest =>
      match letterEscape c with
      | some d => (Text.utf8 [d], rest)
      | none =>
        if c == '"' then ([0x22], rest)
        else if hex && c == 'e' then ([0x1B], rest)
        else (Text.utf8 ['\\', c], rest)

/-- The octets of an argument in which escapes count; the flag says that output ends here. -/
def echoBytes : Nat → Text → List UInt8 × Bool
  | 0, _ => ([], false)
  | _, [] => ([], false)
  | fuel + 1, c :: rest =>
    match c, rest with
    | '\\', 'c' :: _ => ([], true)
    | '\\', '0' :: more =>
      let digits := (more.takeWhile isOctal).take 3
      let (bytes, stop) := echoBytes fuel (more.drop digits.length)
      (octalByte digits :: bytes, stop)
    | '\\', d :: more =>
      let (bytes, stop) := echoBytes fuel more
      match letterEscape d with
      | some e => (Text.utf8 [e] ++ bytes, stop)
      | none => (Text.utf8 [c, d] ++ bytes, stop)
    | _, _ =>
      let (bytes, stop) := echoBytes fuel rest
      (Text.utf8 [c] ++ bytes, stop)

/-- The output of `echo`. -/
def echo (arguments : List Text) : List UInt8 :=
  let (newline, words) := match arguments with
    | ['-', 'n'] :: rest => (false, rest)
    | _ => (true, arguments)
  let line := Text.joinWith " ".toList words
  let (bytes, stop) := echoBytes (line.length + 1) line
  if newline && !stop then bytes ++ [0x0A] else bytes

/-- A whole number with an optional sign. -/
def integer? (t : Text) : Option Int :=
  match t with
  | '-' :: ds => (Text.toNat? ds).map fun n => -(n : Int)
  | '+' :: ds => (Text.toNat? ds).map Int.ofNat
  | _ => (Text.toNat? t).map Int.ofNat

/-- Why an argument is no number. -/
inductive NumberFault where
  | notNumeric
  /-- Something follows the number. -/
  | notAll
deriving DecidableEq, Repr

/-- The value of digits in a base, and what follows them. -/
def digitsIn (base : Nat) (t : Text) : Nat × Text :=
  let digits := t.takeWhile fun c => (hexValue? c).any (· < base)
  (digits.foldl (fun n c => base * n + (hexValue? c).getD 0) 0, t.drop digits.length)

/-- The number that an argument stands for. A quote before a character stands for its code point. -/
def argumentNumber (t : Text) : Int × Option NumberFault :=
  match t with
  | '\'' :: c :: rest | '"' :: c :: rest =>
    (c.toNat, if rest.isEmpty then none else some .notAll)
  | _ =>
    let (negative, digits) := match t with
      | '-' :: ds => (true, ds)
      | '+' :: ds => (false, ds)
      | _ => (false, t)
    let (n, rest) := match digits with
      | '0' :: 'x' :: ds | '0' :: 'X' :: ds => digitsIn 16 ds
      | '0' :: _ => digitsIn 8 digits
      | _ => digitsIn 10 digits
    let fault :=
      if rest.isEmpty then none
      else if rest.length == digits.length then some .notNumeric
      else some .notAll
    (if negative then -(n : Int) else n, fault)

/-- Fills a text up to a width. -/
def pad (left zero : Bool) (width : Nat) (t : Text) : Text :=
  let missing := width - t.length
  if left then t ++ List.replicate missing ' '
  else List.replicate missing (if zero then '0' else ' ') ++ t

/-- What `printf` has to say. -/
structure Formatted where
  bytes : List UInt8 := []
  /-- The arguments that are no numbers. -/
  faults : List (Text × NumberFault) := []
  /-- The arguments that are left. -/
  arguments : List Text := []
  /-- Whether output ends here. -/
  stopped : Bool := false

namespace Formatted

/-- Puts octets before the output. -/
def after (bytes : List UInt8) (f : Formatted) : Formatted := { f with bytes := bytes ++ f.bytes }

end Formatted

/-- Whether a conversion is that of a number. -/
def isNumeric (kind : Char) : Bool :=
  kind == 'd' || kind == 'i' || kind == 'u' || kind == 'x' || kind == 'X' || kind == 'o'

/-- The octets of a conversion. -/
def convert (left zero : Bool) (width : Nat) (kind : Char) (argument : Text) : List UInt8 :=
  let number := (argumentNumber argument).1
  match kind with
  | 'd' | 'i' | 'u' => Text.utf8 (pad left zero width (Text.ofInt number))
  | 'x' => Text.utf8 (pad left zero width (Nat.toDigits 16 number.toNat))
  | 'X' => Text.utf8 (pad left zero width ((Nat.toDigits 16 number.toNat).map Char.toUpper))
  | 'o' => Text.utf8 (pad left zero width (Nat.toDigits 8 number.toNat))
  | 'c' => Text.utf8 (pad left false width (argument.take 1))
  | 'b' => (echoBytes (argument.length + 1) argument).1
  | _ => Text.utf8 (pad left false width argument)

/-- One pass over a format. -/
def formatOnce (hex : Bool) : Nat → Text → List Text → Formatted
  | 0, _, as => { arguments := as }
  | _, [], as => { arguments := as }
  | fuel + 1, c :: rest, as =>
    if c == '\\' then
      if rest.head? == some 'c' then { arguments := as, stopped := true }
      else
        let (bytes, rest) := formatEscape hex rest
        (formatOnce hex fuel rest as).after bytes
    else if c == '%' then
      match rest with
      | '%' :: rest => (formatOnce hex fuel rest as).after [0x25]
      | _ =>
        let flags := rest.takeWhile fun f => f == '-' || f == '0' || f == '+' || f == ' '
        let digits := (rest.drop flags.length).takeWhile Char.isDigit
        let rest := rest.drop (flags.length + digits.length)
        let places := match rest with
          | '.' :: more => some (more.takeWhile Char.isDigit)
          | _ => none
        match rest.drop ((places.map fun ds => ds.length + 1).getD 0) with
        | [] => { bytes := [0x25], arguments := as }
        | kind :: rest =>
          let argument := as.headD []
          let argument := match places with
            | some ds => if kind == 's' then argument.take (Text.decimalValue ds) else argument
            | none => argument
          let bytes := convert (flags.contains '-') (flags.contains '0') (Text.decimalValue digits)
            kind argument
          let more := formatOnce hex fuel rest as.tail
          match isNumeric kind, (argumentNumber argument).2 with
          | true, some fault =>
            { more.after bytes with faults := (argument, fault) :: more.faults }
          | _, _ => more.after bytes
    else (formatOnce hex fuel rest as).after (Text.utf8 [c])

/-- The output of `printf`: the format is used again as long as it takes arguments. -/
def printf (hex : Bool) (format : Text) : Nat → List Text → Formatted
  | 0, as => { arguments := as }
  | fuel + 1, as =>
    let first := formatOnce hex (format.length + 1) format as
    if first.stopped || first.arguments.isEmpty || first.arguments.length == as.length then first
    else
      let more := printf hex format fuel first.arguments
      { more.after first.bytes with faults := first.faults ++ more.faults }

end TranscriptLint.Shell
