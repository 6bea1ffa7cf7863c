import TranscriptLint.Proofs.DocstringCoordinates

namespace TranscriptLint

open Text

/-! # Physical lines of a script

The line offset of a script is one number for all its lines. That is right only if the text handed
to the linter has one physical line for each line of the block, so a line feed must not get into a
line anywhere between the files and the script.

* `Scanner.newline_not_mem_block`: the lines of a block come from lines of a file, and nothing is
  ever put into them.
* `Script.newline_not_mem_lines`: neither does the prompt that becomes a space, nor the placeholder.
* `Scanner.script_text_has_line_for_each`: the text of the script, cut at its line feeds.
-/

/-! ## Block lines -/

/-- A shifted text has no characters of its own. -/
theorem Text.Shifted.subset {n : Nat} {whole part : Text} (h : Shifted n whole part) :
    part ⊆ whole := by
  obtain ⟨-, tail, -, hdrop⟩ := h
  intro c hc
  have hmem : c ∈ whole.drop n := by
    rw [hdrop]
    exact List.mem_append_left tail hc
  exact List.mem_of_mem_drop hmem

/-- No line of a block holds a line feed, whichever file the block comes from. -/
theorem Scanner.newline_not_mem_block {s : Scanner} {d : Disk} {document : Path} {content : Text}
    {b : CodeBlock} (h : b ∈ (s.scan d document content).1) {line : Text} (hline : line ∈ b.lines) :
    '\n' ∉ line := by
  obtain ⟨k, hget⟩ := List.getElem?_of_mem hline
  have hk : k < b.lines.length := (List.getElem?_eq_some_iff.mp hget).1
  intro hnewline
  cases horigin : b.origin with
  | document =>
    obtain ⟨-, source, line', hsource, hline', hshift⟩ := exists_shifted_of_document h horigin hk
    obtain rfl : line' = line := Option.some.inj (hline'.symm.trans hget)
    exact newline_not_mem_of_mem_expanded (List.mem_of_getElem? hsource) (hshift.subset hnewline)
  | docstring file qualname placed =>
    obtain ⟨a, text, quote, start, stop, -, -, -, -, -, -, hlines⟩ :=
      exists_shifted_of_docstring h horigin
    obtain ⟨source, line', hsource, -, -, hline', hshift⟩ := hlines k hk
    obtain rfl : line' = line := Option.some.inj (hline'.symm.trans hget)
    -- the closing quote cuts the line short, and takes nothing else away
    have hmem : '\n' ∈ source := List.mem_of_mem_take (hshift.subset hnewline)
    exact newline_not_mem_of_mem_expanded (List.mem_of_getElem? hsource) hmem

/-! ## Script lines -/

namespace Script

/-- A prompt is replaced by a space, so blanking it makes no line feed. -/
theorem newline_not_mem_shown {kind : LineKind} {line : Text} (h : '\n' ∉ line) :
    '\n' ∉ kind.shown line := by
  cases kind with
  | command =>
    intro hmem
    rcases List.mem_or_eq_of_mem_set hmem with hold | hspace
    · exact h hold
    · exact absurd hspace (by decide)
  | continuation => exact h
  | output => exact h
  | blank => exact h

/-- The script line of a block line is a piece of the line with its prompt blanked, or the
placeholder. -/
theorem newline_not_mem_lineOf {prompt : Char} {continued : Bool} {line : Text} (margin : Nat)
    (h : '\n' ∉ line) : '\n' ∉ lineOf margin (classifyLine prompt continued line) := by
  generalize hentry : classifyLine prompt continued line = entry
  unfold lineOf
  split
  · next hcmd =>
    obtain ⟨hbody, -⟩ := classifyLine_command hentry hcmd
    intro hmem
    have hin : '\n' ∈ entry.body := (stripIndent_suffix margin entry.body).subset hmem
    rw [hbody] at hin
    exact newline_not_mem_shown h hin
  · decide

theorem newline_not_mem_lines {b : CodeBlock} (prompt : Char) {i : Interpreter}
    (hdirective : '\n' ∉ i.directive) (hlines : ∀ line ∈ b.lines, '\n' ∉ line) {out : Text}
    (hout : out ∈ (synthesize b (.ofLines prompt b.lines) i).lines) : '\n' ∉ out := by
  rcases List.mem_cons.mp hout with rfl | hmem
  · exact hdirective
  · obtain ⟨entry, hentry, rfl⟩ := List.mem_map.mp hmem
    obtain ⟨k, hget⟩ := List.getElem?_of_mem hentry
    rw [Transcript.ofLines, Transcript.getElem?_classify] at hget
    obtain ⟨line, hline, rfl⟩ := Option.map_eq_some_iff.mp hget
    exact newline_not_mem_lineOf _ (hlines line (List.mem_of_getElem? hline))

/-- Every line of a script ends with a line feed, and nothing stands behind the last one. -/
theorem splitOn_text {script : Script} (hne : script.lines ≠ [])
    (h : ∀ out ∈ script.lines, '\n' ∉ out) :
    splitOn '\n' script.text = script.lines ++ [[]] := by
  have hlines : splitOn '\n' (joinWith "\n".toList script.lines) = script.lines :=
    List.splitOn_intercalate '\n' h hne
  rw [text, List.splitOn_append_cons_self, hlines]
  rfl

end Script

/-- **One physical line for each line.** No line of a block holds a line feed. If the directive of the
interpreter does not either, the text of the block's script is cut at its line feeds into the lines
of the script, with nothing behind the last line feed, and these are the directive and one line for
each line of the block. -/
theorem Scanner.script_text_has_line_for_each (s : Scanner) (d : Disk) (document : Path)
    (content : Text) (prompt : Char) (i : Interpreter) {b : CodeBlock}
    (h : b ∈ (s.scan d document content).1) (hdirective : '\n' ∉ i.directive) :
    let script := Script.synthesize b (.ofLines prompt b.lines) i
    (∀ line ∈ b.lines, '\n' ∉ line) ∧
      splitOn '\n' script.text = script.lines ++ [[]] ∧
      script.lines.length = b.lines.length + 1 ∧ script.lines[0]? = some i.directive := by
  intro script
  have hblock : ∀ line ∈ b.lines, '\n' ∉ line := fun line => newline_not_mem_block h
  refine ⟨hblock, ?_, Script.length_synthesize b prompt i, rfl⟩
  apply Script.splitOn_text (List.cons_ne_nil _ _)
  intro out hout
  exact Script.newline_not_mem_lines prompt hdirective hblock hout

/-- A fenced block in a list item, with line endings of two characters and a blank line in a
continued command. -/
theorem Scanner.script_text_has_line_for_each_fenced :
    let s : Scanner := ⟨Dialect.all, 8, []⟩
    let content : Text :=
      "1. Run\r\n\r\n   ~~~ bash\r\n   $ ls \\\r\n\r\n\t  -l\r\n   ~~~\r\n".toList
    let b : CodeBlock :=
      ⟨["$ ls \\".toList, [], "       -l".toList], .bash, .ofString "a.md", 2, 3, .document⟩
    let script := Script.synthesize b (.ofLines '$' b.lines) (.resolved (.ofString "/bin/bash"))
    b ∈ (s.scan ⟨[], []⟩ (.ofString "a.md") content).1 ∧
      '\n' ∉ (Interpreter.resolved (.ofString "/bin/bash")).directive ∧
      splitOn '\n' script.text = script.lines ++ [[]] ∧ script.lines.length = 4 := by
  intro s content b script
  have hmem : b ∈ (s.scan ⟨[], []⟩ (.ofString "a.md") content).1 := by decide +kernel
  have hdirective : '\n' ∉ (Interpreter.resolved (.ofString "/bin/bash")).directive := by decide
  obtain ⟨-, htext, hlength, -⟩ :=
    script_text_has_line_for_each s _ _ content '$' _ hmem hdirective
  exact ⟨hmem, hdirective, htext, hlength⟩

end TranscriptLint
