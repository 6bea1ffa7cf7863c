import TranscriptLint.Shell.Format
import TranscriptLint.Shell.Reader

namespace TranscriptLint.Shell

/-!
# Arithmetic of the shell

Expressions over whole numbers and variables. A comparison has the value 1 or 0.

* `Shell.arithmetic` is the value of an expression.
-/

/-- The operators of an expression by precedence, weakest first. -/
def precedences : List (List Text) :=
  [["==".toList, "!=".toList], ["<=".toList, ">=".toList, "<".toList, ">".toList],
   ["+".toList, "-".toList], ["*".toList, "/".toList, "%".toList]]

/-- The result of an operator. -/
def apply (operator : Text) (a b : Int) : Int :=
  match operator with
  | ['+'] => a + b
  | ['-'] => a - b
  | ['*'] => a * b
  | ['/'] => Int.tdiv a b
  | ['%'] => Int.tmod a b
  | ['<'] => if a < b then 1 else 0
  | ['>'] => if a > b then 1 else 0
  | ['<', '='] => if a ≤ b then 1 else 0
  | ['>', '='] => if a ≥ b then 1 else 0
  | ['=', '='] => if a = b then 1 else 0
  | _ => if a = b then 0 else 1

mutual

/-- The value of an expression over the operators of `levels`, and what follows it. -/
def evaluate (value : Text → Int) : Nat → List (List Text) → Text → Int × Text
  | 0, _, t => (0, t)
  | fuel + 1, levels, t =>
    match levels with
    | [] => operand value fuel t.trimStart
    | operators :: tighter =>
      let (a, t) := evaluate value fuel tighter t
      evaluateRest value fuel operators tighter a t

/-- Goes on with an expression whose first part has the value `a`. -/
def evaluateRest (value : Text → Int) :
    Nat → List Text → List (List Text) → Int → Text → Int × Text
  | 0, _, _, a, t => (a, t)
  | fuel + 1, operators, tighter, a, t =>
    let t := t.trimStart
    match operators.findSome? fun o => (Text.after? t o).map fun rest => (o, rest) with
    | none => (a, t)
    | some (o, rest) =>
      let (b, rest) := evaluate value fuel tighter rest
      evaluateRest value fuel operators tighter (apply o a b) rest

/-- The value of a number, a variable, a sign or an expression in parentheses. -/
def operand (value : Text → Int) : Nat → Text → Int × Text
  | 0, t => (0, t)
  | fuel + 1, t =>
    match t with
    | '(' :: rest =>
      let (a, rest) := evaluate value fuel precedences rest
      (a, rest.trimStart.drop 1)
    | '-' :: rest =>
      let (a, rest) := operand value fuel (Text.trimStart rest)
      (-a, rest)
    | '$' :: rest => operand value fuel rest
    | _ =>
      let name := t.takeWhile isNameChar
      (((integer? name).getD (value name)), t.drop name.length)

end

/-- The value of an arithmetic expression. -/
def arithmetic (value : Text → Int) (t : Text) : Int :=
  (evaluate value (8 * t.length + 16) precedences t).1

end TranscriptLint.Shell
