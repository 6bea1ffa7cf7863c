import TranscriptLint.Block
import TranscriptLint.Dialect
import TranscriptLint.Path
import TranscriptLint.Transcript

namespace TranscriptLint

/-!
# Scripts

A code block becomes a script of one interpreter directive followed by exactly one line per block
line. Because of that fixed shape one additive offset takes a position in the script to the
position of the same character in the source.

* `CodeBlock.source` and `CodeBlock.lineOffset` say where a block's diagnostics point.
* `Script.synthesize` builds the script, `Offset.apply` maps positions back.
-/

/-! ## Code blocks -/

/-- Where the text of a code block lives. -/
inductive Origin where
  /-- In the document itself. -/
  | document
  /-- In the docstring of the function `qualname` in `file`, whose definition stands on line
  `defLine` (counted from zero) if it could be located. -/
  | docstring (file : Path) (qualname : Text) (defLine : Option Nat)
deriving DecidableEq, Repr

/-- A shell transcript found in a document. -/
structure CodeBlock where
  /-- The block's text without `indent` columns. -/
  lines : List Text
  dialect : Dialect
  /-- The document the block was found in. -/
  document : Path
  /-- The index of the line just above the first content line; for docstring blocks relative to
  the line of the definition. The directive of the script stands for this line. -/
  line : Nat
  /-- The width of the indentation removed from every line. -/
  indent : Nat
  origin : Origin
deriving DecidableEq, Repr

namespace CodeBlock

/-- The file that diagnostics of this block are attributed to. -/
def source (b : CodeBlock) : Path :=
  match b.origin with
  | .docstring file _ (some _) => file
  | _ => b.document

/-- The distance between script lines and source lines. -/
def lineOffset (b : CodeBlock) : Nat :=
  match b.origin with
  | .docstring _ _ (some defLine) => b.line + defLine
  | _ => b.line

end CodeBlock

/-! ## Interpreters and offsets -/

/-- The interpreter named in the first line of a script. -/
inductive Interpreter where
  /-- A program found by its path. -/
  | resolved (path : Path)
  /-- The dialect's name, looked up by `env` when the script is run. -/
  | viaEnv (dialect : Dialect)
deriving DecidableEq, Repr

/-- The first line of a script. -/
def Interpreter.directive : Interpreter → Text
  | .resolved path => "#!".toList ++ path.text
  | .viaEnv dialect => "#!/usr/bin/env ".toList ++ dialect.name

/-- The distance from script positions to source positions. -/
structure Offset where
  line : Nat
  column : Nat
deriving DecidableEq, Repr

/-- The source position of a script position; both count from one. The sums are not bounded. With
64 bits they are the same as long as they are below `2 ^ 64`; only a position that a linter makes
up, far outside of the script, takes them further. -/
def Offset.apply (o : Offset) (line column : Nat) : Nat × Nat := (line + o.line, column + o.column)

/-! ## Synthesis -/

/-- The comment that stands for a line that belongs to no command. -/
def placeholder : Text := "# Output line".toList

/-- A script made from a code block. -/
structure Script where
  /-- The directive, then one line per transcript line. -/
  lines : List Text
  offset : Offset
deriving DecidableEq, Repr

namespace Script

/-- The script line of a transcript line: commands lose the common margin, all else becomes the
placeholder. -/
def lineOf (margin : Nat) (l : ClassifiedLine) : Text :=
  if l.kind.isCommand then l.body.stripIndent margin else placeholder

/-- The script of a block. The prompt has become a space, so the column offset is the block's
indentation plus the common margin of its commands. -/
def synthesize (b : CodeBlock) (t : Transcript) (i : Interpreter) : Script :=
  { lines := i.directive :: t.lines.map (lineOf t.margin)
    offset := ⟨b.lineOffset, b.indent + t.margin⟩ }

/-- The text of a script; every line is ended by a line feed. -/
def text (s : Script) : Text := Text.joinWith "\n".toList s.lines ++ ['\n']

end Script
end TranscriptLint
