import TranscriptLint.Proofs.ScriptLines

namespace TranscriptLint.Script

open Text

/-! # Dedented commands

The margin of a transcript is taken off every command line of its script. It is measured only on
the command bodies that are not blank, and those are the lines this module is about: the margin is
as wide as it can be, and it is the same for all of them.

* `ShowsSource b prompt i k entry out`: line `k` is such a line, and the script shows it as `out`.
* `ShowsSource.indentWidth_body`: what is left of its indentation.
* `dedent_keeps_relative_indentation`: what follows for the lines of a script among each other.
-/

/-- Line `k` of the block carries shell source that is not blank, and the script shows it as
`out`. -/
structure ShowsSource (b : CodeBlock) (prompt : Char) (i : Interpreter) (k : Nat)
    (entry : ClassifiedLine) (out : Text) : Prop where
  classified : (Transcript.ofLines prompt b.lines).lines[k]? = some entry
  command : entry.kind.isCommand = true
  visible : entry.body.isBlank = false
  shown : (synthesize b (.ofLines prompt b.lines) i).lines[k + 1]? = some out

variable {b : CodeBlock} {prompt : Char} {i : Interpreter} {k : Nat} {entry : ClassifiedLine}
  {out : Text}

/-- Every line that carries shell source is shown. -/
theorem exists_showsSource (i : Interpreter)
    (hentry : (Transcript.ofLines prompt b.lines).lines[k]? = some entry)
    (hcmd : entry.kind.isCommand = true) (hvisible : entry.body.isBlank = false) :
    ∃ out, ShowsSource b prompt i k entry out := by
  refine ⟨lineOf (Transcript.ofLines prompt b.lines).margin entry, hentry, hcmd, hvisible, ?_⟩
  rw [synthesize, List.getElem?_cons_succ, List.getElem?_map, hentry, Option.map_some]

namespace ShowsSource

/-- The body is the line of the block with its prompt counted as a space. -/
theorem body_eq_shown (h : ShowsSource b prompt i k entry out) :
    ∃ source, b.lines[k]? = some source ∧ entry.body = entry.kind.shown source ∧
      (entry.kind = .command → source[source.indentWidth]? = some prompt) := by
  have hentry := h.classified
  rw [Transcript.ofLines, Transcript.getElem?_classify] at hentry
  obtain ⟨source, hsource, hclass⟩ := Option.map_eq_some_iff.mp hentry
  obtain ⟨hbody, hprompt⟩ := classifyLine_command hclass h.command
  refine ⟨source, hsource, hbody, ?_⟩
  intro hkind
  exact getElem?_indentWidth_of_isPrompted (hprompt hkind)

/-- The margin is whitespace in the body, so all of it is taken off. -/
theorem out_eq_drop (h : ShowsSource b prompt i k entry out) :
    out = entry.body.drop (Transcript.ofLines prompt b.lines).margin := by
  have hmargin := isBlank_take_margin (List.mem_of_getElem? h.classified) h.command
  have hout := h.shown
  rw [synthesize, List.getElem?_cons_succ, List.getElem?_map, h.classified, Option.map_some] at hout
  have hline : lineOf (Transcript.ofLines prompt b.lines).margin entry = out := Option.some.inj hout
  rw [← hline, lineOf, if_pos h.command, stripIndent_eq_drop hmargin]

/-- The body is indented by the margin and by what the script line keeps. -/
theorem indentWidth_body (h : ShowsSource b prompt i k entry out) :
    entry.body.indentWidth = (Transcript.ofLines prompt b.lines).margin + out.indentWidth := by
  have hmargin := isBlank_take_margin (List.mem_of_getElem? h.classified) h.command
  have hshift := Shifted.of_stripIndent hmargin
  rw [stripIndent_eq_drop hmargin, ← h.out_eq_drop] at hshift
  apply hshift.indentWidth_eq
  rw [← hshift.isBlank_eq]
  exact h.visible

/-- Behind the indentation nothing has changed. -/
theorem trimStart_out (h : ShowsSource b prompt i k entry out) :
    out.trimStart = entry.body.trimStart := by
  rw [trimStart_eq_drop, trimStart_eq_drop, h.indentWidth_body, ← List.drop_drop, ← h.out_eq_drop]

end ShowsSource

/-- The margin is reached: some script line that shows shell source is not indented. -/
theorem exists_indentWidth_eq_zero (i : Interpreter)
    (h : ∃ entry ∈ (Transcript.ofLines prompt b.lines).lines,
      entry.kind.isCommand = true ∧ entry.body.isBlank = false) :
    ∃ k entry out, ShowsSource b prompt i k entry out ∧ out.indentWidth = 0 := by
  obtain ⟨measured, hmem, hcmd, hvisible⟩ := h
  have hleast := (Transcript.isLeast_bodyWidths (Transcript.ofLines prompt b.lines).lines).1
    ⟨_, measured, hmem, hcmd, hvisible, rfl⟩
  -- the least indentation is that of some body, which keeps nothing of it
  obtain ⟨entry, hentry, hcmd', hvisible', hwidth⟩ := hleast.1
  obtain ⟨k, hget⟩ := List.getElem?_of_mem hentry
  obtain ⟨out, hshows⟩ := exists_showsSource i hget hcmd' hvisible'
  refine ⟨k, entry, out, hshows, ?_⟩
  have hbody := hshows.indentWidth_body
  have hmargin : entry.body.indentWidth = (Transcript.ofLines prompt b.lines).margin := hwidth
  omega

/-- **Dedenting is tight and keeps relative indentation.** Suppose that the transcript of a block has
a command body that is not blank. Every such body is the block's line with its prompt counted as a
space, and the script shows it; at least one of the script lines that show them is not indented; any
two of them are indented relative to each other as the bodies are; and each is what its body is from
the first character on that is not whitespace. -/
theorem dedent_keeps_relative_indentation (b : CodeBlock) (prompt : Char) (i : Interpreter)
    (h : ∃ entry ∈ (Transcript.ofLines prompt b.lines).lines,
      entry.kind.isCommand = true ∧ entry.body.isBlank = false) :
    (∀ k entry, (Transcript.ofLines prompt b.lines).lines[k]? = some entry →
        entry.kind.isCommand = true → entry.body.isBlank = false →
          ∃ source out, b.lines[k]? = some source ∧
            (entry.kind = .command → source[source.indentWidth]? = some prompt) ∧
            entry.body = entry.kind.shown source ∧ ShowsSource b prompt i k entry out) ∧
      (∃ k entry out, ShowsSource b prompt i k entry out ∧ out.indentWidth = 0) ∧
      (∀ j k entry entry' out out', ShowsSource b prompt i j entry out →
        ShowsSource b prompt i k entry' out' →
          (out.indentWidth : ℤ) - out'.indentWidth =
            entry.body.indentWidth - entry'.body.indentWidth) ∧
      ∀ k entry out, ShowsSource b prompt i k entry out →
        out.trimStart = entry.body.trimStart := by
  refine ⟨?_, exists_indentWidth_eq_zero i h, ?_, fun k entry out hshows => hshows.trimStart_out⟩
  · intro k entry hentry hcmd hvisible
    obtain ⟨out, hshows⟩ := exists_showsSource i hentry hcmd hvisible
    obtain ⟨source, hsource, hbody, hprompt⟩ := hshows.body_eq_shown
    exact ⟨source, out, hsource, hprompt, hbody, hshows⟩
  · intro j k entry entry' out out' hj hk
    have hbody := hj.indentWidth_body
    have hbody' := hk.indentWidth_body
    omega

/-- A prompt behind two spaces, its continuation further left, and blank command lines, which are
not measured. -/
theorem dedent_keeps_relative_indentation_outdented :
    let b : CodeBlock :=
      ⟨["  $ ls \\".toList, " \\".toList, "   ".toList, "$ ".toList, "   $ pwd".toList], .sh,
        .ofString "a.rst", 3, 4, .document⟩
    (∃ entry ∈ (Transcript.ofLines '$' b.lines).lines,
      entry.kind.isCommand = true ∧ entry.body.isBlank = false) ∧
      ShowsSource b '$' (.viaEnv .sh) 0 ⟨.command, "    ls \\".toList⟩ "   ls \\".toList ∧
      ShowsSource b '$' (.viaEnv .sh) 1 ⟨.continuation, " \\".toList⟩ "\\".toList ∧
      ((indentWidth "   ls \\".toList : Nat) : ℤ) - (indentWidth "\\".toList : Nat) =
        (indentWidth "    ls \\".toList : Nat) - (indentWidth " \\".toList : Nat) := by
  intro b
  have hfirst : ShowsSource b '$' (.viaEnv .sh) 0 ⟨.command, "    ls \\".toList⟩
      "   ls \\".toList := ⟨by decide +kernel, rfl, by decide, by decide +kernel⟩
  have hsecond : ShowsSource b '$' (.viaEnv .sh) 1 ⟨.continuation, " \\".toList⟩ "\\".toList :=
    ⟨by decide +kernel, rfl, by decide, by decide +kernel⟩
  have hbody : ∃ entry ∈ (Transcript.ofLines '$' b.lines).lines,
      entry.kind.isCommand = true ∧ entry.body.isBlank = false :=
    ⟨_, List.mem_of_getElem? hfirst.classified, hfirst.command, hfirst.visible⟩
  obtain ⟨-, -, hrelative, -⟩ := dedent_keeps_relative_indentation b '$' (.viaEnv .sh) hbody
  exact ⟨hbody, hfirst, hsecond, hrelative 0 1 _ _ _ _ hfirst hsecond⟩

end TranscriptLint.Script
