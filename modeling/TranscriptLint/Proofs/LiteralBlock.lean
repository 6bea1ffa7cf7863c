import TranscriptLint.Proofs.BlockNormalForm
import TranscriptLint.Proofs.Lines

namespace TranscriptLint

open Text

/-! # Literal blocks as ranges of lines

Dedenting shifts every line of a block by the block's indentation, and both markup languages make
their blocks out of a range of the document's lines.

* `LiteralBlock.TakenFrom lines b` says that `b` is such a range: not empty, and below the first
  line.
* `LiteralBlock.StandsIn lines b` says what that means for its lines: line `k` of the block is line
  `b.firstLine + k`, shifted by `b.indent`.
-/

namespace LiteralBlock

/-- The block is made of the lines from its first line on up to some later one. -/
structure TakenFrom (lines : List Text) (b : LiteralBlock) : Prop where
  first_pos : 0 < b.firstLine
  range : ∃ last, b.firstLine < last ∧ last ≤ lines.length ∧
    b = ofLines b.language (linesBetween lines b.firstLine last) b.firstLine

/-- A block has lines, and they end inside the document. -/
theorem TakenFrom.bounds {lines : List Text} {b : LiteralBlock} (h : TakenFrom lines b) :
    0 < b.lines.length ∧ b.firstLine + b.lines.length ≤ lines.length := by
  obtain ⟨-, last, hlt, hlast, hb⟩ := h
  have hlen : b.lines.length = last - b.firstLine := by
    rw [hb]
    exact (List.length_map _).trans (length_linesBetween hlast)
  omega

/-- Every line of the block stands under its number among the lines, shifted by the indentation of
the block. -/
structure StandsIn (lines : List Text) (b : LiteralBlock) : Prop where
  first_pos : 0 < b.firstLine
  line : ∀ k, k < b.lines.length → ∃ source line, lines[b.firstLine + k]? = some source ∧
    b.lines[k]? = some line ∧ Shifted b.indent source line

theorem TakenFrom.standsIn {lines : List Text} {b : LiteralBlock} (h : TakenFrom lines b) :
    StandsIn lines b := by
  obtain ⟨hpos, last, -, hlast, hb⟩ := h
  have hnormal : b.NormalFormOf (linesBetween lines b.firstLine last) := by
    rw [hb]
    exact normalFormOf_ofLines _ _ _
  have hlines := hnormal.lines_eq
  refine ⟨hpos, ?_⟩
  intro k hk
  rw [hlines, List.length_map] at hk
  have hget := List.getElem?_eq_getElem hk
  have hmem := List.getElem_mem hk
  generalize (linesBetween lines b.firstLine last)[k] = source at hget hmem
  refine ⟨source, dedentLine b.indent source, ?_, ?_, ?_⟩
  · rw [length_linesBetween hlast] at hk
    have hlt : b.firstLine + k < last := by omega
    rw [← getElem?_linesBetween hlt, hget]
  · rw [hlines, List.getElem?_map, hget]
    rfl
  · exact (hnormal.unindents hmem).shifted

end LiteralBlock
end TranscriptLint
