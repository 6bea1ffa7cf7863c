import Mathlib.Data.List.Forall2
import Mathlib.Data.Set.Image
import TranscriptLint.Block
import TranscriptLint.Proofs.Indentation

namespace TranscriptLint

open Text

/-! # The normal form of a literal block

Dedenting takes the same width of whitespace off all lines of a block, as much as they have in
common. How far to the right the block stood is then kept in one number, and its lines do not depend
on it.

* `Unindents width source line` says for one line what dedenting leaves, and
  `LiteralBlock.NormalFormOf raw b` says for a block that it stands as far left as its lines allow.
  Neither mentions a minimum, nor how the indentation is cut off.
* `LiteralBlock.NormalFormOf.eq_ofLines`: raw lines have no other normal form than the block that is
  made of them.
* `LiteralBlock.NormalFormOf.again`, `prepend` and `prepend_of_blank`: the normal form of a block's
  own lines, and of lines with more whitespace in front.
* `LiteralBlock.ofLines_normal_form` puts these together.
-/

/-! ## One line -/

/-- What dedenting leaves of a source line: nothing of a blank line, and of every other line what
stands behind exactly `width` characters of whitespace. -/
inductive Unindents (width : Nat) : Text → Text → Prop where
  | blank {source : Text} : source.isBlank = true → Unindents width source []
  | behind {lead line : Text} :
      lead.isBlank = true → lead.length = width → isBlank (lead ++ line) = false →
      Unindents width (lead ++ line) line

namespace Unindents

variable {width : Nat} {source line : Text}

theorem shifted (h : Unindents width source line) : Shifted width source line := by
  cases h with
  | blank hblank => exact .nil_of_isBlank hblank width
  | behind hlead hlength =>
    refine ⟨?_, [], rfl, ?_⟩
    · rw [List.take_left' hlength, hlead]
    · rw [List.drop_left' hlength, List.append_nil]

theorem eq_nil_of_isBlank (h : Unindents width source line) (hblank : source.isBlank = true) :
    line = [] := by
  cases h with
  | blank => rfl
  | behind _ _ hvisible => exact absurd (hblank.symm.trans hvisible) (by decide)

/-- Every line that can be unindented is unindented by dedenting. -/
theorem of_isBlank_take (h : isBlank (source.take width) = true) :
    Unindents width source (dedentLine width source) := by
  cases hvisible : source.isBlank with
  | true =>
    rw [dedentLine, if_pos hvisible]
    exact .blank hvisible
  | false =>
    have hshift := Shifted.of_stripIndent h
    have hlength : (source.take width).length = width :=
      hshift.length_take (hshift.isBlank_eq.symm.trans hvisible)
    have hbehind : Unindents width (source.take width ++ source.drop width)
        (source.drop width) := by
      apply behind h hlength
      rw [List.take_append_drop, hvisible]
    rw [List.take_append_drop] at hbehind
    rw [dedentLine, hvisible, if_neg Bool.false_ne_true, stripIndent_eq_drop h]
    exact hbehind

/-- There is no other way to unindent a line. -/
theorem eq_dedentLine (h : Unindents width source line) : line = dedentLine width source := by
  have hlead := h.shifted.lead
  cases h with
  | blank hblank => rw [dedentLine, if_pos hblank]
  | behind _ hlength hvisible =>
    rw [dedentLine, hvisible, if_neg Bool.false_ne_true, stripIndent_eq_drop hlead,
      List.drop_left' hlength]

/-- Nothing is left to take off. -/
theorem again (h : Unindents width source line) : Unindents 0 line line := by
  cases hvisible : line.isBlank with
  | true =>
    rw [h.eq_nil_of_isBlank (h.shifted.isBlank_eq.trans hvisible)]
    exact .blank rfl
  | false => exact @behind 0 [] line rfl rfl hvisible

/-- Whitespace in front of a line adds to the width. -/
theorem prepend {pad : Text} (hpad : pad.isBlank = true) (h : Unindents width source line) :
    Unindents (width + pad.length) (pad ++ source) line := by
  cases h with
  | blank hblank =>
    apply blank
    rw [isBlank_append, hpad, hblank, Bool.true_and]
  | behind hlead hlength hvisible =>
    rw [← List.append_assoc]
    apply behind
    · rw [isBlank_append, hpad, hlead, Bool.true_and]
    · rw [List.length_append, hlength, Nat.add_comm]
    · rw [List.append_assoc, isBlank_append, hvisible, Bool.and_false]

end Unindents

/-! ## A block -/

/-- Whitespace in front of lines does not change which of them are measured. -/
theorem visibleLines_map_append {pad : Text} (hpad : pad.isBlank = true) (raw : List Text) :
    visibleLines (raw.map (pad ++ ·)) = (pad ++ ·) '' visibleLines raw := by
  ext line
  constructor
  · rintro ⟨hmem, hvisible⟩
    obtain ⟨source, hsource, rfl⟩ := List.mem_map.mp hmem
    rw [isBlank_append, hpad, Bool.true_and] at hvisible
    exact ⟨source, ⟨hsource, hvisible⟩, rfl⟩
  · rintro ⟨source, ⟨hsource, hvisible⟩, rfl⟩
    refine ⟨List.mem_map_of_mem hsource, ?_⟩
    rw [isBlank_append, hvisible, Bool.and_false]

namespace LiteralBlock

/-- The block holds the lines `raw` as far left as they can stand: each of them has lost `indent`
characters of whitespace, and one that is not blank has no more to lose. If all lines are blank, the
block has no indentation. -/
structure NormalFormOf (raw : List Text) (b : LiteralBlock) : Prop where
  line : List.Forall₂ (Unindents b.indent) raw b.lines
  unindented : (visibleLines raw).Nonempty →
    ∃ line ∈ b.lines, line.isBlank = false ∧ line.indentWidth = 0
  indent_zero : visibleLines raw = ∅ → b.indent = 0

theorem normalFormOf_ofLines (language : Text) (raw : List Text) (firstLine : Nat) :
    (ofLines language raw firstLine).NormalFormOf raw := by
  have hline : ∀ source ∈ raw, Unindents ((minIndent raw).getD 0) source
      (dedentLine ((minIndent raw).getD 0) source) :=
    fun source hsource => .of_isBlank_take (isBlank_take_minIndent hsource)
  constructor
  case line => exact List.forall₂_map_right_iff.mpr (List.forall₂_same.mpr hline)
  case unindented =>
    intro hsome
    obtain ⟨source, ⟨hmem, hvisible⟩, hwidth⟩ := exists_indentWidth_eq_minIndent hsome
    have hshift := (hline source hmem).shifted
    have hleft := hshift.isBlank_eq.symm.trans hvisible
    refine ⟨_, List.mem_map_of_mem hmem, hleft, ?_⟩
    -- the line with the least indentation loses all of it
    have hsum := hshift.indentWidth_eq hleft
    omega
  case indent_zero => exact minIndent_getD_of_visibleLines_eq_empty

namespace NormalFormOf

variable {raw : List Text} {b : LiteralBlock}

theorem lines_eq (h : b.NormalFormOf raw) : b.lines = raw.map (dedentLine b.indent) := by
  have hmap : List.Forall₂ (· = ·) (raw.map (dedentLine b.indent)) b.lines :=
    List.forall₂_map_left_iff.mpr (h.line.imp fun _ _ hline => hline.eq_dedentLine.symm)
  rw [List.forall₂_eq_eq_eq] at hmap
  exact hmap.symm

/-- Every raw line has lost the indentation of the block. -/
theorem unindents (h : b.NormalFormOf raw) {source : Text} (hsource : source ∈ raw) :
    Unindents b.indent source (dedentLine b.indent source) := by
  have hline := h.line
  rw [h.lines_eq, List.forall₂_map_right_iff, List.forall₂_same] at hline
  exact hline source hsource

theorem exists_source (h : b.NormalFormOf raw) {line : Text} (hline : line ∈ b.lines) :
    ∃ source ∈ raw, Unindents b.indent source line := by
  rw [h.lines_eq] at hline
  obtain ⟨source, hsource, rfl⟩ := List.mem_map.mp hline
  exact ⟨source, hsource, h.unindents hsource⟩

/-- The raw lines determine the indentation: with less, no line would reach the left margin, and
more is not there to be taken off. -/
theorem indent_eq (h : b.NormalFormOf raw) : b.indent = (minIndent raw).getD 0 := by
  rcases (visibleLines raw).eq_empty_or_nonempty with hnone | hsome
  · rw [h.indent_zero hnone, minIndent_getD_of_visibleLines_eq_empty hnone]
  · refine IsGreatest.unique ⟨?_, ?_⟩ (isGreatest_minIndent hsome)
    · intro source hsource
      exact (h.unindents hsource.1).shifted.lead
    · intro m hm
      obtain ⟨line, hline, hleft, hwidth⟩ := h.unindented hsome
      obtain ⟨source, hsource, hunindents⟩ := h.exists_source hline
      have hshift := hunindents.shifted
      have hvisible := hshift.isBlank_eq.trans hleft
      have hle := le_indentWidth_of_isBlank_take hvisible (hm source ⟨hsource, hvisible⟩)
      rw [hshift.indentWidth_eq hleft, hwidth] at hle
      exact hle

/-- Raw lines have one normal form. -/
theorem eq_ofLines (h : b.NormalFormOf raw) : b = ofLines b.language raw b.firstLine := by
  obtain ⟨language, lines, firstLine, indent⟩ := b
  obtain rfl : indent = (minIndent raw).getD 0 := h.indent_eq
  obtain rfl : lines = raw.map (dedentLine ((minIndent raw).getD 0)) := h.lines_eq
  rfl

/-- The lines of a normal form are their own normal form. -/
theorem again (h : b.NormalFormOf raw) (language : Text) (firstLine : Nat) :
    (⟨language, b.lines, firstLine, 0⟩ : LiteralBlock).NormalFormOf b.lines := by
  constructor
  case line =>
    apply List.forall₂_same.mpr
    intro line hline
    obtain ⟨source, -, hunindents⟩ := h.exists_source hline
    exact hunindents.again
  case unindented =>
    rintro ⟨line, hline, hleft⟩
    obtain ⟨source, hsource, hunindents⟩ := h.exists_source hline
    exact h.unindented ⟨source, hsource, hunindents.shifted.isBlank_eq.trans hleft⟩
  case indent_zero => exact fun _ => rfl

/-- Lines with more whitespace in front have the same normal form, and it counts that whitespace. -/
theorem prepend (h : b.NormalFormOf raw) {pad : Text} (hpad : pad.isBlank = true)
    (hsome : (visibleLines raw).Nonempty) :
    { b with indent := b.indent + pad.length }.NormalFormOf (raw.map (pad ++ ·)) := by
  constructor
  case line =>
    exact List.forall₂_map_left_iff.mpr (h.line.imp fun _ _ hline => hline.prepend hpad)
  case unindented => exact fun _ => h.unindented hsome
  case indent_zero =>
    intro hnone
    rw [visibleLines_map_append hpad, Set.image_eq_empty] at hnone
    rw [hnone] at hsome
    exact absurd hsome Set.not_nonempty_empty

/-- Blank lines have the same normal form whatever whitespace stands in front of them. -/
theorem prepend_of_blank (h : b.NormalFormOf raw) {pad : Text} (hpad : pad.isBlank = true)
    (hnone : visibleLines raw = ∅) : b.NormalFormOf (raw.map (pad ++ ·)) := by
  have hstill : visibleLines (raw.map (pad ++ ·)) = ∅ := by
    rw [visibleLines_map_append hpad, hnone, Set.image_empty]
  constructor
  case line =>
    rw [h.lines_eq, List.forall₂_map_left_iff, List.forall₂_map_right_iff, List.forall₂_same]
    intro source hsource
    have hblank := visibleLines_eq_empty_iff.mp hnone source hsource
    rw [(h.unindents hsource).eq_nil_of_isBlank hblank]
    apply Unindents.blank
    rw [isBlank_append, hpad, hblank, Bool.true_and]
  case unindented => exact fun hsome => absurd hstill hsome.ne_empty
  case indent_zero => exact fun _ => h.indent_zero hnone

end NormalFormOf

/-- **Dedenting is a normal form.** The block made of raw lines is their one normal form: its blank
lines are empty, every other raw line is a prefix of whitespace as long as the block's indentation
and behind it the line of the block, and if any line is not blank then some line of the block is not
indented. The lines of a block make the same lines again, without indentation. Raw lines with the
same number of spaces in front of all of them make the same lines, indented by as much more if any
line is not blank and not indented if all are. -/
theorem ofLines_normal_form (language : Text) (raw : List Text) (firstLine : Nat) :
    let b := ofLines language raw firstLine
    (∀ other : LiteralBlock, other = b ↔
        other.language = language ∧ other.firstLine = firstLine ∧ other.NormalFormOf raw) ∧
      (∀ language' firstLine', ofLines language' b.lines firstLine' =
        { language := language', lines := b.lines, firstLine := firstLine', indent := 0 }) ∧
      ∀ n, let moved := ofLines language (raw.map (List.replicate n ' ' ++ ·)) firstLine
        ((visibleLines raw).Nonempty → moved = { b with indent := b.indent + n }) ∧
          (visibleLines raw = ∅ → moved = b ∧ b.indent = 0) := by
  intro b
  have hb : b.NormalFormOf raw := normalFormOf_ofLines language raw firstLine
  refine ⟨?_, fun language' firstLine' => (hb.again language' firstLine').eq_ofLines.symm, ?_⟩
  · intro other
    constructor
    · rintro rfl
      exact ⟨rfl, rfl, hb⟩
    · rintro ⟨rfl, rfl, hother⟩
      exact hother.eq_ofLines
  · intro n
    have hpad := isBlank_replicate_space n
    constructor
    · intro hsome
      have hmoved := hb.prepend hpad hsome
      rw [List.length_replicate] at hmoved
      exact hmoved.eq_ofLines.symm
    · intro hnone
      exact ⟨(hb.prepend_of_blank hpad hnone).eq_ofLines.symm, hb.indent_zero hnone⟩

/-- Blank lines with and without whitespace in them, wide and narrow whitespace of several widths in
bytes, and a run of lines that are all blank. -/
theorem ofLines_normal_form_mixed :
    let raw := ["\u3000 \u00a0$ ls".toList, [], " \t ".toList, "\u2003 x ".toList,
      "\u3000".toList]
    let blanks := ["\u3000".toList, [], "    ".toList]
    let b : LiteralBlock := ⟨"sh".toList, ["\u00a0$ ls".toList, [], [], "x ".toList, []], 7, 2⟩
    (visibleLines raw).Nonempty ∧ visibleLines blanks = ∅ ∧
      ofLines "sh".toList raw 7 = b ∧ b.NormalFormOf raw ∧
      ofLines "sh".toList b.lines 9 = { b with firstLine := 9, indent := 0 } ∧
      ofLines "sh".toList (raw.map (List.replicate 3 ' ' ++ ·)) 7 = { b with indent := 5 } ∧
      ofLines [] (blanks.map (List.replicate 3 ' ' ++ ·)) 7 = ⟨[], [[], [], []], 7, 0⟩ := by
  intro raw blanks b
  have hblock : ofLines "sh".toList raw 7 = b := by decide +kernel
  have hblanks : ofLines [] blanks 7 = ⟨[], [[], [], []], 7, 0⟩ := by decide +kernel
  have hsome : (visibleLines raw).Nonempty := ⟨"\u2003 x ".toList, by decide, by decide⟩
  have hnone : visibleLines blanks = ∅ := visibleLines_eq_empty_iff.mpr (by decide)
  obtain ⟨honly, hagain, hmoved⟩ := ofLines_normal_form "sh".toList raw 7
  obtain ⟨-, -, hstill⟩ := ofLines_normal_form [] blanks 7
  rw [hblock] at honly hagain hmoved
  rw [hblanks] at hstill
  exact ⟨hsome, hnone, hblock, ((honly b).mp rfl).2.2, hagain "sh".toList 9, (hmoved 3).1 hsome,
    ((hstill 3).2 hnone).1⟩

end LiteralBlock
end TranscriptLint
