import TranscriptLint.Toml.Basic

namespace TranscriptLint.Toml

/-!
# TOML scalars without quotes

Numbers, booleans and dates. A scalar is given as a whole word and is judged by its form.
-/

/-! ## Numbers -/

/-- The digits of a run in which single underscores may stand between digits. -/
def digitRun? (isDigit : Char → Bool) (t : Text) : Option Text :=
  let groups := Text.splitOn '_' t
  if groups.all fun g => !g.isEmpty && g.all isDigit then some groups.flatten else none

/-- The sign and the rest of a number. -/
def splitSign : Text → Bool × Text
  | '-' :: t => (true, t)
  | '+' :: t => (false, t)
  | t => (false, t)

/-- The digits of a whole number in decimal, which has no zero before other digits. -/
def decimalRun? (t : Text) : Option Text :=
  (digitRun? Char.isDigit t).filter fun ds => ds.length ≤ 1 || ds.head? != some '0'

/-- The value of digits in a base. -/
def valueIn (base : Nat) (digits : Text) : Nat :=
  digits.foldl (fun n c => base * n + (Text.hexDigit? c).getD 0) 0

/-- The value of a number in another base, given its digits. -/
def basedValue? (base : Nat) (t : Text) : Option Nat :=
  (digitRun? (fun c => (Text.hexDigit? c).any (· < base)) t).map (valueIn base)

/-- A whole number. -/
def integer? (t : Text) : Option Int :=
  match t with
  | '0' :: 'x' :: ds => (basedValue? 16 ds).map Int.ofNat
  | '0' :: 'o' :: ds => (basedValue? 8 ds).map Int.ofNat
  | '0' :: 'b' :: ds => (basedValue? 2 ds).map Int.ofNat
  | _ =>
    let (negative, ds) := splitSign t
    (decimalRun? ds).map fun ds =>
      if negative then -(Text.decimalValue ds : Int) else Text.decimalValue ds

/-- The value of an exponent, given what follows its mark. -/
def exponent? (t : Text) : Option Int :=
  let (negative, ds) := splitSign t
  (digitRun? Char.isDigit ds).map fun ds =>
    if negative then -(Text.decimalValue ds : Int) else Text.decimalValue ds

/-- The least number that is too great for a float of 64 bits: half a unit above the greatest. -/
def floatBound : Nat := (Nat.pow 2 54 - 1) * Nat.pow 2 970

/-- The number of digits of `floatBound`. -/
def floatBoundDigits : Nat := 309

/-- Whether digits, times a power of ten, are too great for a float. -/
def overflows (digits : Text) (exponent : Int) : Bool :=
  let n := Text.decimalValue digits
  let places := (Text.ofNat n).length + exponent
  if n == 0 || places < floatBoundDigits then false
  else if floatBoundDigits < places then true
  else if 0 ≤ exponent then floatBound ≤ n * Nat.pow 10 exponent.toNat
  else floatBound * Nat.pow 10 (-exponent).toNat ≤ n

/-- Whether a text is a number with a fraction or an exponent that is not too great, or a special
number. -/
def isFloat (t : Text) : Bool :=
  let body := (splitSign t).2
  let mantissa := body.takeWhile fun c => c != 'e' && c != 'E'
  let tail := body.drop mantissa.length
  let whole := mantissa.takeWhile (· != '.')
  let fraction := mantissa.drop whole.length
  let places := if fraction.isEmpty then some [] else digitRun? Char.isDigit (fraction.drop 1)
  let exponent := if tail.isEmpty then some 0 else exponent? (tail.drop 1)
  body == "inf".toList || body == "nan".toList ||
    match decimalRun? whole, places, exponent with
    | some ds, some places, some e =>
      !(tail.isEmpty && fraction.isEmpty) && !overflows (ds ++ places) (e - places.length)
    | _, _, _ => false

/-! ## Dates and times -/

/-- The value of exactly `n` digits, and what follows them. -/
def fixedDigits? (n : Nat) (t : Text) : Option (Nat × Text) :=
  let ds := t.take n
  if ds.length == n && ds.all Char.isDigit then some (Text.decimalValue ds, t.drop n) else none

/-- Passes one character. -/
def pass? (c : Char) (t : Text) : Option Text := Text.after? t [c]

/-- The number of days of a month. -/
def daysIn (year month : Nat) : Nat :=
  if month == 2 then
    if year % 4 == 0 && (year % 100 != 0 || year % 400 == 0) then 29 else 28
  else if month == 4 || month == 6 || month == 9 || month == 11 then 30
  else 31

/-- A date, and what follows it. -/
def date? (t : Text) : Option (Text × Text) := do
  let (year, rest) ← fixedDigits? 4 t
  let (month, rest) ← fixedDigits? 2 (← pass? '-' rest)
  let (day, rest) ← fixedDigits? 2 (← pass? '-' rest)
  if 1 ≤ month && month ≤ 12 && 1 ≤ day && day ≤ daysIn year month then some (t.take 10, rest)
  else none

/-- The fraction of a second, to nine places and without zeros at its end, and what follows it. -/
def secondFraction? (t : Text) : Option (Text × Text) :=
  match t with
  | '.' :: t =>
    let digits := t.takeWhile Char.isDigit
    let shown := Text.dropEnd (· == '0') (digits.take 9)
    if digits.isEmpty then none
    else some ('.' :: if shown.isEmpty then ['0'] else shown, t.drop digits.length)
  | _ => some ([], t)

/-- The seconds of a time, which may be missing, and what follows them. -/
def seconds? (t : Text) : Option (Text × Text) :=
  match t with
  | ':' :: rest => do
    let (second, after) ← fixedDigits? 2 rest
    if second ≤ 60 then
      let (fraction, after) ← secondFraction? after
      return (':' :: rest.take 2 ++ fraction, after)
    else none
  | _ => some ([], t)

/-- The hours and minutes of a time, and what follows them. -/
def clock? (t : Text) : Option (Text × Text) := do
  let (hour, rest) ← fixedDigits? 2 t
  let (minute, rest) ← fixedDigits? 2 (← pass? ':' rest)
  if hour ≤ 23 && minute ≤ 59 then some (t.take 5, rest) else none

/-- A time, and what follows it. -/
def time? (t : Text) : Option (Text × Text) := do
  let (clock, rest) ← clock? t
  let (seconds, rest) ← seconds? rest
  return (clock ++ seconds, rest)

/-- A distance from universal time, which may be missing. No distance is never negative. -/
def zone? (t : Text) : Option Text :=
  match t with
  | [] => some []
  | ['z'] | ['Z'] => some ['Z']
  | sign :: rest =>
    match clock? rest with
    | some (clock, []) =>
      if sign == '+' || clock == "00:00".toList && sign == '-' then some ('+' :: clock)
      else if sign == '-' then some (sign :: clock)
      else none
    | _ => none

/-- The text of a date, a time or both. -/
def dateText? (t : Text) : Option Text :=
  match date? t with
  | none => ((time? t).filter fun r => r.2.isEmpty).map Prod.fst
  | some (day, []) => some day
  | some (day, c :: rest) =>
    if c == 'T' || c == 't' || c == ' ' then do
      let (time, rest) ← time? rest
      let zone ← zone? rest
      return day ++ 'T' :: time ++ zone
    else none

/-! ## Words -/

/-- The scalar that a word spells. -/
def scalar? (t : Text) : Option Toml :=
  if t == "true".toList then some (.bool true)
  else if t == "false".toList then some (.bool false)
  else
    match dateText? t, integer? t with
    | some d, _ => some (.date d)
    | none, some n => some (.integer n)
    | none, none => if isFloat t then some .float else none

/-- Whether a character can stand in a scalar. -/
def isScalarChar (c : Char) : Bool :=
  c.isAlphanum || c == '_' || c == '+' || c == '-' || c == '.' || c == ':'

/-- The word that a scalar is, and what follows it. One space may stand between a date and a
time. -/
def scalarWord (t : Text) : Text × Text :=
  let word := t.takeWhile isScalarChar
  let rest := t.drop word.length
  match date? word, rest with
  | some (_, []), ' ' :: c :: _ =>
    if c.isDigit then
      let more := (rest.drop 1).takeWhile isScalarChar
      (word ++ ' ' :: more, rest.drop (1 + more.length))
    else (word, rest)
  | _, _ => (word, rest)

end TranscriptLint.Toml
