import TranscriptLint.Document
import TranscriptLint.Proofs.RestCover
import TranscriptLint.Proofs.ScriptLines

namespace TranscriptLint

open Text

/-! # Coordinates of document blocks

A block that stands in a document itself is a range of the document's lines, and its script mirrors
them one by one.

* `Scanner.mem_scan_cases`: where a block of a scan can come from.
* `Scanner.exists_shifted_of_document`: the lines of a document block in the document.
* `Scanner.document_block_mirrors_source`: the lines of its script.
-/

/-! ## Where blocks come from -/

/-- A fenced block is a range of lines below its fence, wherever the reader of the block structure
says that the fence begins and ends. -/
theorem Markdown.takenFrom_of_mem_scan {content : Text} {b : LiteralBlock}
    (h : b ∈ Markdown.scan content) : b.TakenFrom content.lines := by
  obtain ⟨span, -, hblock⟩ := List.mem_filterMap.mp h
  unfold Markdown.block? at hblock
  simp only at hblock
  split at hblock
  · next hlt =>
    have hb := Option.some.inj hblock
    subst hb
    exact ⟨Nat.succ_pos _, _, hlt, Nat.min_le_right _ _, rfl⟩
  · exact absurd hblock (by simp)

/-- Joining the lines of a document does not move them, so a fenced block stands where it stood. -/
theorem Markdown.standsIn_of_mem_scan_joinWith {lines : List Text} {b : LiteralBlock}
    (hlines : ∀ line ∈ lines, '\n' ∉ line)
    (h : b ∈ Markdown.scan (joinWith "\n".toList lines)) : b.StandsIn lines := by
  have hstands := (Markdown.takenFrom_of_mem_scan h).standsIn
  refine ⟨hstands.first_pos, ?_⟩
  intro k hk
  obtain ⟨joined, line, hjoined, hline, hshift⟩ := hstands.line k hk
  obtain ⟨source, hsource, hchomp⟩ := getElem?_lines_joinWith hlines hjoined
  refine ⟨source, line, hsource, hline, ?_⟩
  rw [← Nat.zero_add b.indent]
  exact hchomp.trans hshift

namespace Scanner

/-- A block of a scan comes from a fence, from a code directive, or from a code directive in the
docstring that an autodoc directive leads to. -/
theorem mem_scan_cases {s : Scanner} {d : Disk} {document : Path} {content : Text} {b : CodeBlock}
    (h : b ∈ (s.scan d document content).1) :
    (∃ literal, literal ∈ Markdown.scan (joinWith "\n".toList (s.expandedLines content)) ∧
        s.documentBlock? document literal = some b) ∨
      (∃ literal, Rest.Item.literal literal ∈ Rest.scan (s.expandedLines content) ∧
        s.documentBlock? document literal = some b) ∨
      (∃ line target a literal,
        Rest.Item.autodoc line target ∈ Rest.scan (s.expandedLines content) ∧
        s.resolve d document target = .ok a ∧
        Rest.Item.literal literal ∈ Rest.scan a.docstring.lines ∧
        s.docstringBlock? document a literal = some b) := by
  unfold scan at h
  simp only at h
  split at h
  · -- a Markdown document has fences only
    obtain ⟨literal, hmem, hblock⟩ := List.mem_filterMap.mp h
    exact .inl ⟨literal, hmem, hblock⟩
  · rw [List.mem_flatMap] at h
    obtain ⟨found, hfound, hb⟩ := h
    obtain ⟨item, hitem, rfl⟩ := List.mem_map.mp hfound
    cases item with
    | literal literal =>
      rw [itemBlocks, Option.mem_toList] at hb
      exact .inr (.inl ⟨literal, hitem, hb⟩)
    | autodoc line target =>
      rw [itemBlocks, docstringBlocks] at hb
      split at hb
      · exact absurd hb (by simp)
      · next a hresolve =>
        obtain ⟨literal, hmem, hblock⟩ := List.mem_filterMap.mp hb
        obtain ⟨item', hitem', hlit⟩ := List.mem_filterMap.mp hmem
        cases item' with
        | autodoc => exact absurd hlit (by simp [literal?])
        | literal inner =>
          have hsame : inner = literal := Option.some.inj hlit
          subst hsame
          exact .inr (.inr ⟨line, target, a, inner, hitem, hresolve, hitem', hblock⟩)

/-- What a document block takes over from its literal block. -/
theorem documentBlock?_eq_some {s : Scanner} {document : Path} {literal : LiteralBlock}
    {b : CodeBlock} (h : s.documentBlock? document literal = some b) :
    b.lines = literal.lines ∧ b.line = literal.firstLine - 1 ∧ b.indent = literal.indent ∧
      b.lineOffset = b.line := by
  obtain ⟨dialect, -, rfl⟩ := Option.map_eq_some_iff.mp h
  exact ⟨rfl, rfl, rfl, rfl⟩

/-! ## Document blocks -/

/-- A document block is made from a literal block that stands in the document. -/
theorem exists_standsIn_of_document {s : Scanner} {d : Disk} {document : Path} {content : Text}
    {b : CodeBlock} (h : b ∈ (s.scan d document content).1) (horigin : b.origin = .document) :
    ∃ literal : LiteralBlock, s.documentBlock? document literal = some b ∧
      literal.StandsIn (s.expandedLines content) := by
  rcases mem_scan_cases h with ⟨literal, hmem, hblock⟩ | ⟨literal, hmem, hblock⟩ |
      ⟨line, target, a, literal, -, -, -, hblock⟩
  · refine ⟨literal, hblock, Markdown.standsIn_of_mem_scan_joinWith ?_ hmem⟩
    intro line hline
    exact newline_not_mem_of_mem_expanded hline
  · exact ⟨literal, hblock, (Rest.takenFrom_of_mem_scan hmem).standsIn⟩
  · -- a docstring block does not stand in the document
    obtain ⟨dialect, -, rfl⟩ := Option.map_eq_some_iff.mp hblock
    exact absurd horigin (by simp)

/-- Line `k` of a document block is line `b.line + 1 + k` of the document, shifted by the block's
indentation. -/
theorem exists_shifted_of_document {s : Scanner} {d : Disk} {document : Path} {content : Text}
    {b : CodeBlock} (h : b ∈ (s.scan d document content).1) (horigin : b.origin = .document)
    {k : Nat} (hk : k < b.lines.length) :
    b.lineOffset = b.line ∧ ∃ source line,
      (s.expandedLines content)[b.line + 1 + k]? = some source ∧ b.lines[k]? = some line ∧
      Shifted b.indent source line := by
  obtain ⟨literal, hblock, hstands⟩ := exists_standsIn_of_document h horigin
  obtain ⟨hlines, hline, hindent, hoffset⟩ := documentBlock?_eq_some hblock
  have hnumber : b.line + 1 = literal.firstLine := by
    have hpos := hstands.first_pos
    omega
  rw [hnumber, hlines, hindent]
  rw [hlines] at hk
  exact ⟨hoffset, hstands.line k hk⟩

/-- **Coordinates of document blocks.** Every line of a block that stands in the document itself is
a line of the document with its tabs expanded, and its script line mirrors it: findings on script
line `k + 2` belong to the document line with the index `b.line + 1 + k`. -/
theorem document_block_mirrors_source (s : Scanner) (d : Disk) (document : Path) (content : Text)
    (prompt : Char) (i : Interpreter) {b : CodeBlock} (h : b ∈ (s.scan d document content).1)
    (horigin : b.origin = .document) :
    let transcript := Transcript.ofLines prompt b.lines
    let script := Script.synthesize b transcript i
    ∀ k, k < b.lines.length → ∃ source entry out,
      (s.expandedLines content)[b.line + 1 + k]? = some source ∧
      transcript.lines[k]? = some entry ∧ script.lines[k + 1]? = some out ∧
      Mirrors prompt script.offset k (b.line + 1 + k) entry.kind source out := by
  intro transcript script k hk
  obtain ⟨hoffset, source, line, hsource, hline, hshift⟩ := exists_shifted_of_document h horigin hk
  obtain ⟨entry, out, hentry, hout, hmirrors⟩ := exists_mirrors prompt i hline hshift
  rw [hoffset] at hmirrors
  exact ⟨source, entry, out, hsource, hentry, hout, hmirrors⟩

/-- A block behind tabs whose continued command goes on over a blank line. -/
theorem document_block_mirrors_source_tabbed :
    let s : Scanner := ⟨Dialect.all, 8, []⟩
    let content : Text := ".. code-block:: bash\n\n\t$ ls \\\n\t\n\t  out\n".toList
    let b : CodeBlock :=
      ⟨["$ ls \\".toList, [], "  out".toList], .bash, .ofString "a.rst", 1, 8, .document⟩
    let transcript := Transcript.ofLines '$' b.lines
    let script := Script.synthesize b transcript (.viaEnv .bash)
    b ∈ (s.scan ⟨[], []⟩ (.ofString "a.rst") content).1 ∧ b.origin = .document ∧
      ∀ k, k < b.lines.length → ∃ source entry out,
        (s.expandedLines content)[b.line + 1 + k]? = some source ∧
        transcript.lines[k]? = some entry ∧ script.lines[k + 1]? = some out ∧
        Mirrors '$' script.offset k (b.line + 1 + k) entry.kind source out := by
  intro s content b transcript script
  have hmem : b ∈ (s.scan ⟨[], []⟩ (.ofString "a.rst") content).1 := by decide +kernel
  exact ⟨hmem, rfl, document_block_mirrors_source s _ _ content '$' (.viaEnv .bash) hmem rfl⟩

end Scanner
end TranscriptLint
