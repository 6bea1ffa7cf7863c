import TranscriptLint.Block

namespace TranscriptLint.Rest

/-!
# reStructuredText

Only what is needed to find tagged literal blocks is read: code directives with their bodies, and
directives that pull the docstring of a function into the document.

* `Directive.ofLine?` recognises the two kinds of directive.
* `scan` lists what a document holds in the order of its lines. A code directive covers the lines
  below it that are blank or indented deeper, and scanning goes on behind them.
-/

/-- A directive of interest. -/
inductive Directive where
  /-- A code directive of this indentation, with its language; empty if it names none. -/
  | code (indent : Nat) (language : Text)
  /-- A directive for the docstring of a function. -/
  | autofunction (target : Text)
deriving DecidableEq, Repr

namespace Directive

/-- The names of code directives. -/
def codeNames : List Text := ["code-block".toList, "code".toList, "sourcecode".toList]

/-- The text after the two dots and the blanks of an explicit markup start. -/
def markup? (line : Text) : Option Text := do
  let rest ← line.trimStart.after? "..".toList
  if (rest.head?.map Text.isWhite).getD false then some rest.trimStart else none

/-- What follows a directive's name and its two colons. -/
def tail? (name rest : Text) : Option Text := rest.after? (name ++ "::".toList)

/-- The single word that a directive has as its argument; empty if there is nothing but
whitespace. -/
def argument? (tail : Text) : Option Text :=
  if tail.isBlank then some []
  else
    let word := tail.firstWord
    if (tail.head?.map Text.isWhite).getD false && Text.isBlank (tail.trimStart.drop word.length) then
      some word
    else none

/-- Recognises the directive on a line. -/
def ofLine? (line : Text) : Option Directive :=
  match markup? line with
  | none => none
  | some rest =>
    match (tail? "autofunction".toList rest).bind argument? with
    | some (c :: target) => some (.autofunction (c :: target))
    | _ =>
      ((codeNames.findSome? fun n => tail? n rest).bind argument?).map (.code line.indentWidth)

end Directive

/-- Something of interest in a document. -/
inductive Item where
  | literal (block : LiteralBlock)
  /-- A directive for a docstring, on the given line counted from zero. -/
  | autodoc (line : Nat) (target : Text)
deriving DecidableEq, Repr

/-- Whether a line belongs to the body of a directive of this indentation. -/
def isNested (indent : Nat) (line : Text) : Bool := line.isBlank || indent < line.indentWidth

/-- Whether a line of a body is an option of the directive. -/
def isOption (line : Text) : Bool := line.trimStart.head? == some ':'

/-- The content of a body: the options right below the directive do not count, and neither do
blank lines around the rest. The number is that of the lines before the content. -/
def content (body : List Text) : Nat × List Text :=
  let rest := (body.dropWhile isOption).dropWhile Text.isBlank
  (body.length - rest.length, Text.dropEnd Text.isBlank rest)

/-- The literal block of a code directive whose body starts at line `first`. -/
def bodyBlock? (language : Text) (first : Nat) (body : List Text) : Option LiteralBlock :=
  let c := content body
  if c.2.isEmpty then none else some (LiteralBlock.ofLines language c.2 (first + c.1))

/-- Scans the lines from line number `i` on, the first `skip` of which belong to a directive. -/
def scanFrom (i skip : Nat) : List Text → List Item
  | [] => []
  | line :: rest =>
    match skip with
    | skip + 1 => scanFrom (i + 1) skip rest
    | 0 =>
      match Directive.ofLine? line with
      | none => scanFrom (i + 1) 0 rest
      | some (.autofunction target) => .autodoc i target :: scanFrom (i + 1) 0 rest
      | some (.code indent language) =>
        let body := rest.takeWhile (isNested indent)
        (bodyBlock? language (i + 1) body).toList.map .literal ++ scanFrom (i + 1) body.length rest

/-- The items of a document whose tabs have been expanded, in the order of their lines. -/
def scan (lines : List Text) : List Item := scanFrom 0 0 lines

end TranscriptLint.Rest
