import TranscriptLint.Proofs.Classification
import TranscriptLint.Script

namespace TranscriptLint

open Text

/-! # Scripts line by line

A script has one line for each line of its block. What a script line shows of the source line it
stands for is said by `Mirrors`, and `exists_mirrors` gets it from one fact about the block: that
its lines are the source's lines, shifted by the block's indentation.

* `LineKind.shown` is the source line with its prompt counted as a space.
* `Shifted.shown`: blanking the prompt commutes with taking off indentation.
* `isBlank_take_margin`: the margin of a transcript is whitespace in every command body.
-/

/-! ## Prompts -/

/-- A source line as a script can show it: the prompt of a command line counts as one space. -/
def LineKind.shown : LineKind → Text → Text
  | .command, line => line.set line.indentWidth ' '
  | _, line => line

/-- A prompted line has the prompt behind its indentation. -/
theorem getElem?_indentWidth_of_isPrompted {prompt : Char} {t : Text}
    (h : isPrompted prompt t = true) : t[t.indentWidth]? = some prompt := by
  rw [isPrompted, beq_iff_eq, trimStart_eq_drop, List.head?_drop] at h
  exact h

theorem isBlank_eq_false_of_isPrompted {prompt : Char} {line : Text}
    (h : isPrompted prompt line = true) : line.isBlank = false := by
  rw [isPrompted, beq_iff_eq] at h
  exact isBlank_eq_false_of_head?_trimStart h

theorem blankPrompt_eq_shown {prompt : Char} {line : Text} (h : isPrompted prompt line = true) :
    blankPrompt line = LineKind.command.shown line := by
  have hlt : line.indentWidth < line.length :=
    (List.getElem?_eq_some_iff.mp (getElem?_indentWidth_of_isPrompted h)).1
  rw [blankPrompt, LineKind.shown, List.set_eq_take_append_cons_drop, if_pos hlt,
    takeWhile_isWhite_eq_take, trimStart_eq_drop, List.tail_drop]

/-- The prompt of a shifted line is the prompt of the line it was shifted from. -/
theorem Text.Shifted.shown {n : Nat} {source line : Text} {kind : LineKind}
    (h : Shifted n source line) (hkind : kind = .command → line.isBlank = false) :
    Shifted n (kind.shown source) (kind.shown line) := by
  cases kind with
  | command =>
    -- the prompt is behind the shift, so that it is blanked at the same place in both lines
    have hline := hkind rfl
    have hwidth := h.indentWidth_eq hline
    have hlt : line.indentWidth < line.length := indentWidth_lt_length hline
    obtain ⟨hlead, tail, htail, hdrop⟩ := h
    refine ⟨?_, tail, htail, ?_⟩
    · rw [LineKind.shown, hwidth, List.take_set_of_le (by omega)]
      exact hlead
    · rw [LineKind.shown, hwidth, List.drop_set, if_neg (by omega), Nat.add_sub_cancel_left, hdrop,
        List.set_append_left _ _ hlt]
      rfl
  | continuation => exact h
  | output => exact h
  | blank => exact h

/-! ## Transcripts -/

/-- The body of a command line is the line with its prompt blanked. -/
theorem classifyLine_command {prompt : Char} {continued : Bool} {line : Text}
    {entry : ClassifiedLine} (h : classifyLine prompt continued line = entry)
    (hcmd : entry.kind.isCommand = true) :
    entry.body = entry.kind.shown line ∧
      (entry.kind = .command → isPrompted prompt line = true) := by
  unfold classifyLine at h
  split at h
  · next hprompt =>
    subst h
    exact ⟨blankPrompt_eq_shown hprompt, fun _ => hprompt⟩
  · split at h
    · subst h
      exact ⟨rfl, fun hkind => by simp at hkind⟩
    · split at h <;> subst h <;> simp [LineKind.isCommand] at hcmd

/-- The margin is whitespace at the front of every command body; blank bodies are not measured, but
there is nothing else in them. -/
theorem isBlank_take_margin {prompt : Char} {lines : List Text} {entry : ClassifiedLine}
    (h : entry ∈ (Transcript.ofLines prompt lines).lines) (hcmd : entry.kind.isCommand = true) :
    isBlank (entry.body.take (Transcript.ofLines prompt lines).margin) = true := by
  cases hblank : entry.body.isBlank with
  | true => exact isBlank_take hblank _
  | false =>
    have hmem : entry.body ∈ Transcript.sourceBodies (Transcript.ofLines prompt lines).lines := by
      apply List.mem_map_of_mem
      exact List.mem_filter.mpr ⟨h, by simp [hcmd, hblank]⟩
    exact isBlank_take_least hmem

/-! ## Script lines -/

/-- A script has its directive and one line for each line of the block. -/
theorem Script.length_synthesize (b : CodeBlock) (prompt : Char) (i : Interpreter) :
    (synthesize b (.ofLines prompt b.lines) i).lines.length = b.lines.length + 1 := by
  rw [synthesize, List.length_cons, List.length_map, Transcript.ofLines, Transcript.length_classify]

/-- Line `k` of a block, which stands as `source` on line `n` of its file, is shown by the script as
`out`. A command line is the source line behind the first `offset.column` characters, all of them
whitespace once the prompt is blanked, up to trailing whitespace; each of its characters is mapped
to the place where it stands in the source, lines and columns counted from one. Any other line is
the placeholder. -/
structure Mirrors (prompt : Char) (offset : Offset) (k n : Nat) (kind : LineKind)
    (source out : Text) : Prop where
  prompted : kind = .command → source[source.indentWidth]? = some prompt
  text : kind.isCommand = true → out.trimEnd = Text.trimEnd ((kind.shown source).drop offset.column)
  removed : kind.isCommand = true → Text.isBlank ((kind.shown source).take offset.column) = true
  position : kind.isCommand = true → ∀ c, c < out.length →
    (kind.shown source)[offset.column + c]? = out[c]? ∧
      offset.apply (k + 2) (c + 1) = (n + 1, offset.column + c + 1)
  other : kind.isCommand = false → out = placeholder

/-- What the script line of a command body shows, once the body is known to be shifted. -/
theorem Mirrors.of_shifted {prompt : Char} {offset : Offset} {k n : Nat} {kind : LineKind}
    {source out : Text} (hcmd : kind.isCommand = true) (hn : n = offset.line + 1 + k)
    (hprompt : kind = .command → source[source.indentWidth]? = some prompt)
    (h : Shifted offset.column (kind.shown source) out) :
    Mirrors prompt offset k n kind source out := by
  refine ⟨hprompt, fun _ => h.trimEnd_eq, fun _ => h.lead, ?_, ?_⟩
  · intro _ c hc
    refine ⟨h.getElem?_eq hc, ?_⟩
    rw [Offset.apply, hn]
    congr 1 <;> omega
  · intro hother
    rw [hcmd] at hother
    exact absurd hother (by decide)

/-- A block line that is a shifted source line is mirrored by its script line. -/
theorem exists_mirrors (prompt : Char) (i : Interpreter) {b : CodeBlock} {k : Nat}
    {source line : Text} (hline : b.lines[k]? = some line) (hshift : Shifted b.indent source line) :
    ∃ entry out, (Transcript.ofLines prompt b.lines).lines[k]? = some entry ∧
      (Script.synthesize b (.ofLines prompt b.lines) i).lines[k + 1]? = some out ∧
      Mirrors prompt (Script.synthesize b (.ofLines prompt b.lines) i).offset k
        (b.lineOffset + 1 + k) entry.kind source out := by
  have hentry := Transcript.getElem?_classify prompt false b.lines k
  rw [hline, Option.map_some] at hentry
  generalize hclass : classifyLine prompt _ line = entry at hentry
  have hentry' : (Transcript.ofLines prompt b.lines).lines[k]? = some entry := hentry
  have hmargin := isBlank_take_margin (List.mem_of_getElem? hentry')
  generalize Transcript.ofLines prompt b.lines = t at hentry' hmargin ⊢
  have hout : (Script.synthesize b t i).lines[k + 1]? = some (Script.lineOf t.margin entry) := by
    rw [Script.synthesize, List.getElem?_cons_succ, List.getElem?_map, hentry']
    rfl
  refine ⟨entry, Script.lineOf t.margin entry, hentry', hout, ?_⟩
  cases hcmd : entry.kind.isCommand with
  | true =>
    obtain ⟨hbody, hprompt⟩ := classifyLine_command hclass hcmd
    have hblank : entry.kind = .command → line.isBlank = false := by
      intro hkind
      exact isBlank_eq_false_of_isPrompted (hprompt hkind)
    have hshown : Shifted b.indent (entry.kind.shown source) entry.body := by
      rw [hbody]
      exact hshift.shown hblank
    -- the block's indentation, then the margin of the commands
    have hall : Shifted (b.indent + t.margin) (entry.kind.shown source)
        (Script.lineOf t.margin entry) := by
      rw [Script.lineOf, if_pos hcmd]
      exact hshown.trans (Shifted.of_stripIndent (hmargin hcmd))
    apply Mirrors.of_shifted hcmd rfl _ hall
    intro hkind
    have hget := getElem?_indentWidth_of_isPrompted (hprompt hkind)
    rw [hshift.indentWidth_eq (hblank hkind),
      hshift.getElem?_eq (indentWidth_lt_length (hblank hkind)), hget]
  | false =>
    have hplace : Script.lineOf t.margin entry = placeholder := by
      rw [Script.lineOf, hcmd]
      rfl
    have hkind : entry.kind ≠ .command := by
      intro hkind
      rw [hkind] at hcmd
      exact absurd hcmd (by decide)
    exact ⟨fun h => absurd h hkind, fun h => by simp [hcmd] at h, fun h => by simp [hcmd] at h,
      fun h => by simp [hcmd] at h, fun _ => hplace⟩

end TranscriptLint
