import TranscriptLint.Text.Basic

namespace TranscriptLint.Text

/-!
# Indentation and tab stops

Widths are counted in characters after tabs have been expanded, which is also the unit in which
linters report columns.

* `indentWidth`, `minIndent` measure, `stripIndent` removes, and never cuts into content.
* `expandTabs` replaces every tab by the spaces that reach the next tab stop.
-/

/-- The width of the leading whitespace of a line. -/
def indentWidth (line : Text) : Nat := (line.takeWhile isWhite).length

/-- The least indentation over the lines that are not blank; none when every line is blank. -/
def minIndent (lines : List Text) : Option Nat :=
  ((lines.filter fun l => !isBlank l).map indentWidth).min?

/-- Removes up to `width` leading whitespace characters, and stops early at content. -/
def stripIndent : Nat → Text → Text
  | 0, line => line
  | _ + 1, [] => []
  | width + 1, c :: line => if isWhite c then stripIndent width line else c :: line

/-- Expands tabs to stops every `width` columns, starting at column `column`. A carriage return or
line feed starts a new row of columns. -/
def expandFrom (width column : Nat) : Text → Text
  | [] => []
  | c :: rest =>
    if c = '\t' then
      let pad := width - column % width
      List.replicate pad ' ' ++ expandFrom width (column + pad) rest
    else if c = '\n' ∨ c = '\r' then c :: expandFrom width 0 rest
    else c :: expandFrom width (column + 1) rest

/-- Expands tabs to the next multiple of the tab width; a width of zero counts as one. A line that
holds no tab is returned at once. -/
def expandTabs (width : Nat) (line : Text) : Text :=
  if '\t' ∈ line then expandFrom (max width 1) 0 line else line

end TranscriptLint.Text
