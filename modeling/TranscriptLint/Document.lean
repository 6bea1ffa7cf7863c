import TranscriptLint.Autodoc
import TranscriptLint.Markdown.Fence
import TranscriptLint.Notice
import TranscriptLint.Rest
import TranscriptLint.Script

namespace TranscriptLint

/-!
# Documents

The shell transcripts of a document, in the order of the document. The extension of the file name
decides how a document is read; anything but Markdown is read as reStructuredText.

* `Scanner.scan` gives the code blocks of a document, with a warning for each target of a docstring
  directive that leads nowhere.
-/

/-- The markup language of a document. -/
inductive Markup where
  | rest
  | markdown
deriving DecidableEq, Repr

/-- The markup language that the extension of a path names, in either case of letters. -/
def Markup.ofPath? (p : Path) : Option Markup :=
  match p.extension? with
  | none => none
  | some ext =>
    let ext := ext.lowerAscii
    if ["rst".toList, "rest".toList, "txt".toList].contains ext then some .rest
    else if ["md".toList, "markdown".toList].contains ext then some .markdown
    else none

/-- What documents are searched for, and how. -/
structure Scanner where
  /-- The dialects whose blocks are wanted. -/
  dialects : List Dialect
  tabWidth : Nat
  /-- The directories in which modules are looked up first. -/
  searchPath : List Path
  /-- The library with which definitions are looked for. -/
  [patterns : PatternLibrary]

namespace Scanner

/-- The dialect of a language tag, if it is wanted. -/
def dialectOf? (s : Scanner) (language : Text) : Option Dialect :=
  match Dialect.ofName language with
  | .ok d => if d ∈ s.dialects then some d else none
  | .error _ => none

/-- The code block of a literal block that stands in the document itself. -/
def documentBlock? (s : Scanner) (document : Path) (b : LiteralBlock) : Option CodeBlock :=
  (s.dialectOf? b.language).map fun dialect =>
    { lines := b.lines, dialect, document, line := b.firstLine - 1, indent := b.indent
      origin := .document }

/-- The directories in which modules are looked up: those of the search path, then that of the
document. -/
def roots (s : Scanner) (document : Path) : List Path :=
  match document.parent? with
  | none => s.searchPath
  | some dir =>
    let dir := if dir.text.isEmpty then .ofString "." else dir
    if s.searchPath.any dir.same then s.searchPath else s.searchPath ++ [dir]

/-- What a target in a document leads to. -/
def resolve (s : Scanner) (d : Disk) (document : Path) (target : Text) :
    Except AutodocError Autodoc :=
  @Autodoc.resolve s.patterns d (s.roots document) s.tabWidth target

/-- The code block of a literal block that stands in a docstring. Its line counts from the
definition, if the block can be placed in the source. -/
def docstringBlock? (s : Scanner) (document : Path) (a : Autodoc) (b : LiteralBlock) :
    Option CodeBlock :=
  (s.dialectOf? b.language).map fun dialect =>
    let placed := a.docstring.sourceLines[b.firstLine]?
    let line := match placed with
      | some source => source - 1 - a.docstring.defLine
      | none => b.firstLine - 1
    { lines := b.lines, dialect, document, line, indent := a.docstring.margin + b.indent
      origin := .docstring a.file a.qualname (placed.map fun _ => a.docstring.defLine) }

/-- The literal block of an item. -/
def literal? : Rest.Item → Option LiteralBlock
  | .literal b => some b
  | .autodoc .. => none

/-- The code blocks of the docstring that a directive names, or the warning that there is none. -/
def docstringBlocks (s : Scanner) (d : Disk) (document : Path) (line : Nat) (target : Text) :
    List CodeBlock × List Notice :=
  match s.resolve d document target with
  | .error e =>
    ([], [.warning .blocks (document.text ++ ":".toList ++ Text.ofNat (line + 1) ++
      ": cannot resolve autodoc target: ".toList ++ e.message)])
  | .ok a =>
    (((Rest.scan a.docstring.lines).filterMap literal?).filterMap (s.docstringBlock? document a),
      [])

/-- The code blocks of one item. -/
def itemBlocks (s : Scanner) (d : Disk) (document : Path) :
    Rest.Item → List CodeBlock × List Notice
  | .literal b => ((s.documentBlock? document b).toList, [])
  | .autodoc line target => s.docstringBlocks d document line target

/-- The lines of a document with its tabs expanded. -/
def expandedLines (s : Scanner) (content : Text) : List Text :=
  content.lines.map (Text.expandTabs s.tabWidth)

/-- The code blocks of a document. -/
def scan (s : Scanner) (d : Disk) (document : Path) (content : Text) :
    List CodeBlock × List Notice :=
  let lines := s.expandedLines content
  match Markup.ofPath? document with
  | some .markdown =>
    ((Markdown.scan (Text.joinWith "\n".toList lines)).filterMap (s.documentBlock? document), [])
  | _ =>
    let found := (Rest.scan lines).map (s.itemBlocks d document)
    (found.flatMap Prod.fst, found.flatMap Prod.snd)

end Scanner
end TranscriptLint
