import Mathlib.Algebra.GroupWithZero.Nat
import Mathlib.Data.Finset.Card
import Mathlib.Order.Interval.Finset.Nat
import TranscriptLint.Proofs.Classification
import TranscriptLint.Proofs.Deduplication
import TranscriptLint.Proofs.LinterCalls

namespace TranscriptLint

/-! # Findings of different blocks

A script has one line more than its block, because the directive stands for the line above the
block. That line still belongs to the directive of the markup, so that no two blocks of a document
reach the same source line, and dropping repeated diagnostics never drops those of another block.

* `CodeBlock.reach`: the source lines that findings in the script of a block can point to.
* `Scanner.pairwise_reach_lt`: blocks of a reStructuredText document reach different lines, in
  their order.
* `Engine.Lints.length_fresh`: so each block has as many new diagnostics as distinct findings.
* `Engine.blocks_hide_no_findings`: what a document reports.
-/

/-! ## The lines that blocks reach -/

namespace Rest

/-- The content of a literal block lies in the extent of its directive, behind the first line. -/
theorem Cover.literal_span {lines : List Text} {i : Nat} {extents : List Extent} {x : Extent}
    {b : LiteralBlock} (h : Cover lines i extents) (hx : x ∈ extents)
    (hitem : x.item = some (.literal b)) :
    x.start < b.firstLine ∧ b.firstLine + b.lines.length ≤ x.stop := by
  obtain ⟨-, line, -, hcase⟩ := h.mem_cases hx
  rcases hcase with ⟨target, -, -, hauto⟩ |
      ⟨indent, language, first, last, -, hext, ⟨⟨options, hoptions, hblanks⟩, htail⟩, hcode⟩
  · rw [hitem] at hauto
    simp at hauto
  · rw [hitem, contentItem] at hcode
    split at hcode
    · next hlt =>
      obtain rfl := Item.literal.inj (Option.some.inj hcode)
      have hstart := hoptions.start_le
      have hfirst := hblanks.start_le
      have hlast := htail.le_stop
      have hlength : (Text.linesBetween lines first last).length = last - first :=
        Text.length_linesBetween (hlast.trans hext.stop_le)
      simp only [LiteralBlock.ofLines, List.length_map, hlength]
      omega
    · simp at hcode

/-- Between the contents of two literal blocks there is a line, that of the second directive. -/
theorem pairwise_scan_literal (lines : List Text) :
    (scan lines).Pairwise fun x y => ∀ a b, x = .literal a → y = .literal b →
      0 < a.firstLine ∧ a.firstLine + a.lines.length < b.firstLine := by
  obtain ⟨extents, hcover, hitems⟩ := exists_cover_scanFrom lines 0
  rw [List.drop_zero] at hitems
  rw [scan, ← hitems, List.pairwise_filterMap]
  apply hcover.pairwise_stop_le_start.imp_of_mem
  rintro x y hx hy hxy _ ha _ hb a b rfl rfl
  have hfirst := hcover.literal_span hx ha
  have hsecond := hcover.literal_span hy hb
  omega

end Rest

/-- The source lines that findings in the script of a block can point to: the line above the block,
which the directive of the script stands for, and the lines of the block. -/
def CodeBlock.reach (b : CodeBlock) : Finset Nat :=
  Finset.Icc (b.lineOffset + 1) (b.lineOffset + 1 + b.lines.length)

namespace Scanner

variable {s : Scanner} {d : Disk} {document : Path} {content : Text}

/-- Documents that are not Markdown are read item by item. -/
theorem scan_eq_flatMap (hmarkup : Markup.ofPath? document ≠ some .markdown) :
    (s.scan d document content).1 =
      (Rest.scan (s.expandedLines content)).flatMap fun item =>
        (s.itemBlocks d document item).1 := by
  unfold scan
  split
  · next hmarkdown => exact absurd hmarkdown hmarkup
  · exact List.flatMap_map ..

/-- A block that an item has in the document itself is that of a literal block. -/
theorem exists_literal_of_mem_itemBlocks {item : Rest.Item} {b : CodeBlock}
    (h : b ∈ (s.itemBlocks d document item).1) (horigin : b.origin = .document) :
    ∃ literal, item = .literal literal ∧ s.documentBlock? document literal = some b := by
  cases item with
  | literal literal =>
    rw [itemBlocks, Option.mem_toList] at h
    exact ⟨literal, rfl, h⟩
  | autodoc line target =>
    rw [itemBlocks, docstringBlocks] at h
    split at h
    · simp at h
    · obtain ⟨literal, -, hblock⟩ := List.mem_filterMap.mp h
      obtain ⟨dialect, -, rfl⟩ := Option.map_eq_some_iff.mp hblock
      simp at horigin

/-- Blocks of a document reach lines further down than the blocks before them. -/
theorem pairwise_reach_lt (s : Scanner) (d : Disk) (content : Text)
    (hmarkup : Markup.ofPath? document ≠ some .markdown) :
    (s.scan d document content).1.Pairwise fun a b => a.origin = .document →
      b.origin = .document → a.lineOffset + 1 + a.lines.length < b.lineOffset + 1 := by
  rw [scan_eq_flatMap hmarkup, List.pairwise_flatMap]
  constructor
  · intro item _
    cases item with
    | literal literal =>
      rw [itemBlocks]
      cases s.documentBlock? document literal <;> simp
    | autodoc line target =>
      -- no block of a docstring stands in the document
      apply List.Pairwise.imp_of_mem (R := fun _ _ => True)
      · intro a b ha _ _ horigin
        obtain ⟨literal, hitem, -⟩ := exists_literal_of_mem_itemBlocks ha horigin
        simp at hitem
      · exact List.pairwise_of_forall fun _ _ => trivial
  · apply (Rest.pairwise_scan_literal (s.expandedLines content)).imp
    intro x y hxy a ha b hb horigin horigin'
    obtain ⟨literal, hx, hblock⟩ := exists_literal_of_mem_itemBlocks ha horigin
    obtain ⟨literal', hy, hblock'⟩ := exists_literal_of_mem_itemBlocks hb horigin'
    obtain ⟨hpos, hlt⟩ := hxy literal literal' hx hy
    obtain ⟨hlines, hline, -, hoffset⟩ := documentBlock?_eq_some hblock
    obtain ⟨-, hline', -, hoffset'⟩ := documentBlock?_eq_some hblock'
    rw [hlines, hoffset, hline, hoffset', hline']
    omega

/-- No source line is reached by two blocks of a document. -/
theorem pairwise_disjoint_reach (s : Scanner) (d : Disk) (content : Text)
    (hmarkup : Markup.ofPath? document ≠ some .markdown) :
    (s.scan d document content).1.Pairwise fun a b => a.origin = .document →
      b.origin = .document → Disjoint a.reach b.reach := by
  apply (pairwise_reach_lt s d content hmarkup).imp
  intro a b hlt horigin horigin'
  have hline := hlt horigin horigin'
  rw [Finset.disjoint_left]
  intro line hmem hmem'
  rw [CodeBlock.reach, Finset.mem_Icc] at hmem hmem'
  omega

/-- Without a docstring directive that leads somewhere, all blocks stand in the document itself. -/
theorem origin_of_unresolved
    (hunresolved : ∀ line target,
      Rest.Item.autodoc line target ∈ Rest.scan (s.expandedLines content) →
      ∀ a, s.resolve d document target ≠ .ok a)
    {b : CodeBlock} (h : b ∈ (s.scan d document content).1) : b.origin = .document := by
  rcases mem_scan_cases h with ⟨literal, -, hblock⟩ | ⟨literal, -, hblock⟩ |
      ⟨line, target, a, _, hitem, hresolve, -, -⟩
  · obtain ⟨dialect, -, rfl⟩ := Option.map_eq_some_iff.mp hblock
    rfl
  · obtain ⟨dialect, -, rfl⟩ := Option.map_eq_some_iff.mp hblock
    rfl
  · exact absurd hresolve (hunresolved line target hitem a)

end Scanner

/-! ## Counting diagnostics -/

/-- What tells the findings in one script apart. -/
def Finding.spot (f : Finding) : Nat × Nat × Text × Text := (f.line, f.column, f.code, f.message)

/-- The number of distinct findings; the severity does not count. -/
def Finding.distinct (findings : List Finding) : Nat := (findings.map Finding.spot).toFinset.card

/-- As many diagnostics are reported as there are keys. -/
theorem length_reported (ds : List Diagnostic) :
    (reported ds).length = (ds.map Diagnostic.key).toFinset.card := by
  induction ds using List.reverseRecOn with
  | nil => rfl
  | append_singleton ds d ih =>
    -- the last diagnostic has a like before it just if its key is there already
    have hany : ds.any (fun earlier => earlier.same d) = true ↔
        d.key ∈ (ds.map Diagnostic.key).toFinset := by
      simp [Diagnostic.same_iff_key_eq]
    have hkeys : ((ds ++ [d]).map Diagnostic.key).toFinset =
        insert d.key (ds.map Diagnostic.key).toFinset := by
      ext key
      simp
    rw [reported_concat, List.length_append, ih, hkeys]
    by_cases hold : d.key ∈ (ds.map Diagnostic.key).toFinset
    · rw [if_pos (hany.mpr hold), Finset.insert_eq_of_mem hold]
      rfl
    · rw [if_neg (mt hany.mp hold), Finset.card_insert_of_notMem hold]
      rfl

/-- Moving the findings of a script to its source keeps them apart. -/
theorem card_key_ofFinding (source : Path) (offset : Offset) (findings : List Finding) :
    ((findings.map (Diagnostic.ofFinding source offset)).map Diagnostic.key).toFinset.card =
      Finding.distinct findings := by
  let moved : Nat × Nat × Text × Text → Diagnostic.Key := fun spot =>
    ⟨source.components, spot.1 + offset.line, spot.2.1 + offset.column, spot.2.2.1, spot.2.2.2⟩
  have hmoved : moved.Injective := by
    rintro ⟨line, column, code, message⟩ ⟨line', column', code', message'⟩ heq
    simp only [moved, Diagnostic.Key.mk.injEq, true_and] at heq
    obtain ⟨hline, hcolumn, rfl, rfl⟩ := heq
    rw [Nat.add_right_cancel hline, Nat.add_right_cancel hcolumn]
  have hkeys : ((findings.map (Diagnostic.ofFinding source offset)).map Diagnostic.key).toFinset =
      (findings.map Finding.spot).toFinset.image moved := by
    ext key
    simp only [List.map_map, List.mem_toFinset, List.mem_map, Finset.mem_image,
      exists_exists_and_eq_and]
    rfl
  rw [hkeys, Finding.distinct, Finset.card_image_of_injective _ hmoved]

/-- Lists of diagnostics without a key in common count on their own. -/
theorem card_key_flatMap {α : Type} {f : α → List Diagnostic} {xs : List α}
    (h : xs.Pairwise fun a b => ∀ d ∈ f a, ∀ d' ∈ f b, d.key ≠ d'.key) :
    ((xs.flatMap f).map Diagnostic.key).toFinset.card =
      (xs.map fun x => ((f x).map Diagnostic.key).toFinset.card).sum := by
  induction xs with
  | nil => rfl
  | cons x xs ih =>
    obtain ⟨hfirst, hrest⟩ := List.pairwise_cons.mp h
    have hdisjoint : Disjoint ((f x).map Diagnostic.key).toFinset
        ((xs.flatMap f).map Diagnostic.key).toFinset := by
      rw [Finset.disjoint_left]
      intro key hkey hkey'
      rw [List.mem_toFinset] at hkey hkey'
      obtain ⟨d, hd, rfl⟩ := List.mem_map.mp hkey
      obtain ⟨d', hd', heq⟩ := List.mem_map.mp hkey'
      obtain ⟨y, hy, hd'⟩ := List.mem_flatMap.mp hd'
      exact hfirst y hy d hd d' hd' heq.symm
    rw [List.flatMap_cons, List.map_append, List.toFinset_append, Finset.card_union_of_disjoint
      hdisjoint, ih hrest, List.map_cons, List.sum_cons]

/-- What was said before is all that a state remembers; its header has no part in it. -/
theorem DocumentState.Remembers.of_seen_eq {history : List Diagnostic} {s t : DocumentState}
    (h : Remembers history s) (hseen : t.seen = s.seen) : Remembers history t := by
  refine ⟨?_, ?_⟩
  · rw [hseen]
    exact h.mem_seen
  · rw [seenCount, hseen]
    exact h.count

/-! ## What the blocks of a document report -/

namespace Engine

/-- The lines of a block hold its new diagnostics, and writing them leaves the seen keys alone. -/
theorem diagnostics_of_entriesOf {d : Disk} {document : Text} {source : Path}
    {ds : List Diagnostic} {state state' : DocumentState} {entries : List ReportEntry}
    (h : entriesOf d document source ds state = (entries, state')) :
    entries.filterMap ReportEntry.diagnostic? = ds ∧ state'.seen = state.seen := by
  have hmap : (ds.map (ReportEntry.diagnostic document)).filterMap ReportEntry.diagnostic? = ds := by
    rw [List.filterMap_map]
    exact List.filterMap_some
  rcases entriesOf_cases h with ⟨rfl, rfl, rfl⟩ | ⟨-, rfl, rfl, -⟩ | ⟨-, rfl, rfl, -⟩
  · exact ⟨rfl, rfl⟩
  · exact ⟨hmap, rfl⟩
  · exact ⟨hmap, rfl⟩

variable {σ : Type} {e : Engine σ} {document : Text}

theorem Lints.diagnostics_entries {state state' : DocumentState} {s u : Session σ}
    {ls : List LintedBlock} (h : e.Lints document state s ls state' u) :
    (ls.flatMap LintedBlock.entries).filterMap ReportEntry.diagnostic? =
      ls.flatMap LintedBlock.fresh := by
  induction h with
  | nil => rfl
  | cons _ _ hentries _ _ ih =>
    rw [List.flatMap_cons, List.flatMap_cons, List.filterMap_append, ih,
      (diagnostics_of_entriesOf hentries).1]

/-- The new diagnostics of blocks are what is reported beyond the history. -/
theorem Lints.reported {history : List Diagnostic} {state state' : DocumentState}
    {s u : Session σ} {ls : List LintedBlock} (h : e.Lints document state s ls state' u)
    (hhistory : state.Remembers history) :
    TranscriptLint.reported (history ++ ls.flatMap (·.mapped e)) =
      TranscriptLint.reported history ++ ls.flatMap LintedBlock.fresh := by
  induction h generalizing history with
  | nil => simp
  | @cons state kept entered _ _ _ _ l ls _ hrecord hentries _ _ ih =>
    -- the findings of the first block go over into the history
    obtain ⟨hremembers, hreported⟩ := DocumentState.remembers_keepNew (l.mapped e) hhistory
    have hkept : (DocumentState.keepNew (l.mapped e) state) = (l.fresh, kept) := hrecord
    rw [hkept] at hremembers hreported
    have hentered := hremembers.of_seen_eq (diagnostics_of_entriesOf hentries).2
    rw [List.flatMap_cons, List.flatMap_cons, ← List.append_assoc, ih hentered, hreported,
      List.append_assoc]

/-- The findings of a call for a block lie on the lines of its script: the directive, and one line
for each line of the block. -/
def PointsInto (e : Engine σ) (path : Path) (b : CodeBlock) (c : LintCall σ) : Prop :=
  ∀ findings, e.verdict path c = .ok findings →
    ∀ f ∈ findings, 1 ≤ f.line ∧ f.line ≤ b.lines.length + 1

/-- The number of distinct findings of a call. A call that fails has none. -/
def distinctFindings (e : Engine σ) (path : Path) (c : LintCall σ) : Nat :=
  match e.verdict path c with
  | .ok findings => Finding.distinct findings
  | .error _ => 0

/-- The directive is the one line that a script has more than its block. -/
theorem length_script (e : Engine σ) (b : CodeBlock) (i : Interpreter) :
    (e.script b i).lines.length = b.lines.length + 1 := by
  rw [script, Script.length_synthesize]

/-- The diagnostics of a block point to the lines that it reaches. -/
theorem line_mem_reach {l : LintedBlock} {d : Diagnostic} (hd : d ∈ l.mapped e)
    (hlines : ∀ f ∈ l.findings, 1 ≤ f.line ∧ f.line ≤ l.block.lines.length + 1) :
    d.line ∈ l.block.reach := by
  obtain ⟨f, hf, rfl⟩ := List.mem_map.mp hd
  obtain ⟨hfirst, hlast⟩ := hlines f hf
  have hline : (Diagnostic.ofFinding l.block.source (e.offset l.block) f).line =
      f.line + l.block.lineOffset := rfl
  rw [hline, CodeBlock.reach, Finset.mem_Icc]
  omega

/-- Blocks that reach different lines have as many new diagnostics as distinct findings. -/
theorem Lints.length_fresh {state' : DocumentState} {s u : Session σ} {ls : List LintedBlock}
    (h : e.Lints document {} s ls state' u)
    (hreach : ls.Pairwise fun l l' => Disjoint l.block.reach l'.block.reach)
    (hlines : ∀ l ∈ ls, ∀ f ∈ l.findings, 1 ≤ f.line ∧ f.line ≤ l.block.lines.length + 1) :
    (ls.flatMap LintedBlock.fresh).length =
      (ls.map fun l => Finding.distinct l.findings).sum := by
  have hfresh : ls.flatMap LintedBlock.fresh =
      TranscriptLint.reported (ls.flatMap (·.mapped e)) :=
    (h.reported DocumentState.remembers_nil).symm
  -- a key holds the source line, which tells the block
  have hkeys : ls.Pairwise fun l l' => ∀ d ∈ l.mapped e, ∀ d' ∈ l'.mapped e, d.key ≠ d'.key := by
    apply hreach.imp_of_mem
    intro l l' hl hl' hdisjoint d hd d' hd' heq
    have hsame : d.line = d'.line := congrArg Diagnostic.Key.line heq
    have hmem := line_mem_reach hd (hlines l hl)
    have hmem' := line_mem_reach hd' (hlines l' hl')
    rw [← hsame] at hmem'
    exact Finset.disjoint_left.mp hdisjoint hmem hmem'
  rw [hfresh, length_reported, card_key_flatMap hkeys]
  congr 1
  apply List.map_congr_left
  intro l _
  exact card_key_ofFinding ..

/-- The same for the calls that the blocks made. -/
theorem sum_distinctFindings {path : Path} {known : List (Dialect × Interpreter)}
    {ls : List LintedBlock} {made : List (LintCall σ)}
    (hmade : List.Forall₂ (e.MadeBy path known) ls made) :
    (made.map (e.distinctFindings path)).sum =
      (ls.map fun l => Finding.distinct l.findings).sum := by
  induction hmade with
  | nil => rfl
  | cons hhead _ ih =>
    rw [List.map_cons, List.map_cons, List.sum_cons, List.sum_cons, ih, distinctFindings,
      hhead.verdict]

/-- The findings of blocks that went through lie on the lines of their scripts, if those of their
calls do. -/
theorem lines_of_pointsInto {path : Path} {known : List (Dialect × Interpreter)}
    {ls : List LintedBlock} {made : List (LintCall σ)}
    (hmade : List.Forall₂ (e.MadeBy path known) ls made)
    (hpoints : ∀ p ∈ (ls.map LintedBlock.block).zip made, e.PointsInto path p.1 p.2) :
    ∀ l ∈ ls, ∀ f ∈ l.findings, 1 ≤ f.line ∧ f.line ≤ l.block.lines.length + 1 := by
  induction hmade with
  | nil => simp
  | @cons l c ls made hhead _ ih =>
    rw [List.map_cons, List.zip_cons_cons] at hpoints
    intro l' hl'
    rcases List.mem_cons.mp hl' with rfl | hrest
    · exact hpoints _ (List.mem_cons_self ..) _ hhead.verdict
    · exact ih (fun p hp => hpoints p (List.mem_cons_of_mem _ hp)) l' hrest

/-- The blocks of a document that went through report each of their distinct findings, if they stand
in the document and their findings lie on the lines of the scripts. -/
theorem length_fresh_of_document {path : Path} {content : Text} {s u : Session σ}
    {state : DocumentState} {ls : List LintedBlock} {left : List CodeBlock}
    {made rest : List (LintCall σ)} {known : List (Dialect × Interpreter)}
    (hmarkup : Markup.ofPath? path ≠ some .markdown)
    (horigin : ∀ b ∈ (e.scanner.scan s.disk path content).1, b.origin = .document)
    (hblocks : (e.scanner.scan s.disk path content).1 = ls.map LintedBlock.block ++ left)
    (hlints : e.Lints path.text {} (s.tell (e.opening path content s.disk)) ls state u)
    (hmade : List.Forall₂ (e.MadeBy path known) ls made)
    (hpoints : ∀ p ∈ (e.scanner.scan s.disk path content).1.zip (made ++ rest),
      e.PointsInto path p.1 p.2) :
    (ls.flatMap LintedBlock.fresh).length = (made.map (e.distinctFindings path)).sum := by
  rw [sum_distinctFindings hmade]
  apply hlints.length_fresh
  · have hpairwise := e.scanner.pairwise_disjoint_reach s.disk content hmarkup
    rw [hblocks] at hpairwise horigin
    have hlinted := List.pairwise_map.mp (List.pairwise_append.mp hpairwise).1
    apply hlinted.imp_of_mem
    intro l l' hl hl' hdisjoint
    exact hdisjoint (horigin _ (List.mem_append_left _ (List.mem_map_of_mem hl)))
      (horigin _ (List.mem_append_left _ (List.mem_map_of_mem hl')))
  · apply lines_of_pointsInto hmade
    intro p hp
    apply hpoints
    rw [hblocks, List.zip_append (by rw [List.length_map, hmade.length_eq])]
    exact List.mem_append_left _ hp

section Document

variable {path : Path} {content : Text} {s : Session σ}
  (hmarkup : Markup.ofPath? path ≠ some .markdown)
  (horigin : ∀ b ∈ (e.scanner.scan s.disk path content).1, b.origin = .document)
  (hpoints : ∀ p ∈ (e.scanner.scan s.disk path content).1.zip (e.calls path content s),
    e.PointsInto path p.1 p.2)
include hmarkup horigin hpoints

/-- A result has the distinct findings of all blocks. -/
theorem length_diagnostics_of_ok {r : DocumentResult}
    (hr : (e.lintDocument path content s).1 = .ok r) :
    List.Forall₂ (e.MadeFor (e.lintDocument path content s).2.interpreters)
        (e.scanner.scan s.disk path content).1 (e.calls path content s) ∧
      r.diagnostics.length = ((e.calls path content s).map (e.distinctFindings path)).sum := by
  obtain ⟨ls, state, u, made, hlints, hmade, ⟨hblocks, hcalls, r', hentries, houtcome⟩ |
    ⟨_, _, _, err, -, -, -, herror, -⟩⟩ := e.calls_cases path content s
  · rw [houtcome] at hr
    obtain rfl := Except.ok.inj hr
    rw [hcalls] at hpoints ⊢
    have hfresh := length_fresh_of_document hmarkup horigin
      (hblocks.trans (List.append_nil _).symm) hlints hmade
      (by rw [List.append_nil]; exact hpoints)
    refine ⟨?_, ?_⟩
    · rw [hblocks]
      exact List.forall₂_map_left_iff.mpr (hmade.imp fun _ _ h => h.madeFor)
    · rw [DocumentResult.diagnostics, hentries, ← hfresh, ← hlints.diagnostics_entries]
  · rw [herror] at hr
    simp at hr

/-- The report counts the distinct findings of all blocks up to one that fails. -/
theorem report_diagnostics_of_written
    (hwritten : ∀ fault, (e.lintDocument path content s).1 ≠ .error (.report fault)) :
    (e.lintDocument path content s).2.report.diagnostics = s.report.diagnostics +
      ((e.calls path content s).map (e.distinctFindings path)).sum := by
  obtain ⟨ls, state, u, made, hlints, hmade, hend⟩ := e.calls_cases path content s
  have hcounted : u.report.diagnostics =
      s.report.diagnostics + (ls.flatMap LintedBlock.fresh).length := by
    rw [← hlints.diagnostics_entries]
    exact hlints.appended.1.counted
  rcases hend with ⟨hblocks, hcalls, r, -, houtcome⟩ |
      ⟨b, left, c, err, hblocks, hcalls, -, herror, ⟨hfailed, -, hreport⟩ | ⟨-, fault, rfl⟩⟩
  · rw [hcalls] at hpoints ⊢
    have hfresh := length_fresh_of_document hmarkup horigin
      (hblocks.trans (List.append_nil _).symm) hlints hmade
      (by rw [List.append_nil]; exact hpoints)
    rw [houtcome, Session.close_diagnostics, hcounted, hfresh]
  · rw [hcalls] at hpoints ⊢
    have hfresh := length_fresh_of_document hmarkup horigin hblocks hlints hmade hpoints
    -- the call that failed found nothing
    have hnone : e.distinctFindings path c = 0 := by rw [distinctFindings, hfailed]
    rw [hreport, hcounted, hfresh, List.map_append, List.sum_append, List.map_singleton,
      List.sum_singleton, hnone, Nat.add_zero]
  · exact absurd herror (hwritten fault)

end Document

/-- **Blocks hide no findings.** In a document that is not Markdown, no source line is reached from
the scripts of two blocks that stand in the document, the line above a block included. So if all
blocks stand in the document and the linter points into the scripts, dropping repeated diagnostics
drops only those that one block repeats: each block adds the number of its distinct findings to the
result and to the report, also when a later block fails. -/
theorem blocks_hide_no_findings (e : Engine σ) (path : Path) (content : Text) (s : Session σ)
    (hmarkup : Markup.ofPath? path ≠ some .markdown) :
    let blocks := (e.scanner.scan s.disk path content).1
    let calls := e.calls path content s
    let outcome := e.lintDocument path content s
    (∀ (i j : Nat) (a b : CodeBlock), i ≠ j → blocks[i]? = some a → blocks[j]? = some b →
      a.origin = .document → b.origin = .document → Disjoint a.reach b.reach) ∧
    (∀ b ∈ blocks, ∀ i, (e.script b i).lines.length = b.lines.length + 1) ∧
    ((∀ line target, Rest.Item.autodoc line target ∈ Rest.scan (e.scanner.expandedLines content) →
        ∀ a, e.scanner.resolve s.disk path target ≠ .ok a) →
      (∀ p ∈ blocks.zip calls, e.PointsInto path p.1 p.2) →
      (∀ r, outcome.1 = .ok r → List.Forall₂ (e.MadeFor outcome.2.interpreters) blocks calls ∧
        r.diagnostics.length = (calls.map (e.distinctFindings path)).sum) ∧
      ((∀ fault, outcome.1 ≠ .error (.report fault)) → outcome.2.report.diagnostics =
        s.report.diagnostics + (calls.map (e.distinctFindings path)).sum)) := by
  intro blocks calls outcome
  refine ⟨?_, fun b _ i => e.length_script b i, ?_⟩
  · intro i j a b hij ha hb horigin horigin'
    have hpairwise := List.pairwise_iff_getElem.mp
      (e.scanner.pairwise_disjoint_reach s.disk content hmarkup)
    obtain ⟨hi, rfl⟩ := List.getElem?_eq_some_iff.mp ha
    obtain ⟨hj, rfl⟩ := List.getElem?_eq_some_iff.mp hb
    rcases Nat.lt_or_gt_of_ne hij with hlt | hgt
    · exact hpairwise i j hi hj hlt horigin horigin'
    · exact (hpairwise j i hj hi hgt horigin' horigin).symm
  · intro hunresolved hpoints
    have horigin : ∀ b ∈ blocks, b.origin = .document :=
      fun b => Scanner.origin_of_unresolved hunresolved
    exact ⟨fun r => length_diagnostics_of_ok hmarkup horigin hpoints,
      report_diagnostics_of_written hmarkup horigin hpoints⟩

/-- Two blocks with the same findings, one of them twice and one on the line above the block, and a
docstring directive that leads nowhere. -/
theorem blocks_hide_no_findings_repeated :
    let output : Text := "[[1,1,1,\"m\"],[2,1,1,\"m\"],[2,1,1,\"m\"]]".toList
    let e : Engine Unit :=
      { scanner := ⟨Dialect.all, 8, []⟩, prompt := '$', interpreter := fun _ d => (.viaEnv d, [])
        lint := fun _ _ _ s => (.ok ⟨output, [], 1⟩, s) }
    let s : Session Unit := { disk := ⟨[], []⟩, tools := () }
    let path := Path.ofString "a.rst"
    let content : Text :=
      ".. code:: sh\n\n $ ls\n\n.. autofunction:: m.f\n\n.. code:: sh\n\n $ cd\n".toList
    let found (line : Nat) : Finding := ⟨line, 1, "1".toList, "m".toList, .warning⟩
    let distinct := (e.calls path content s).map (e.distinctFindings path)
    (∀ c, e.verdict path c = .ok [found 1, found 2, found 2]) ∧ distinct = [2, 2] ∧
      ∃ r, (e.lintDocument path content s).1 = .ok r ∧ r.diagnostics.length = distinct.sum := by
  intro output e s path content found distinct
  have hverdict : ∀ c, e.verdict path c = .ok [found 1, found 2, found 2] := by
    have hread : Finding.readAll output = .ok [found 1, found 2, found 2] := by decide +kernel
    intro c
    simp only [verdict, e, hread]
  have hpoints : ∀ p ∈ (e.scanner.scan s.disk path content).1.zip (e.calls path content s),
      e.PointsInto path p.1 p.2 := by
    have hlines : ∀ b ∈ (e.scanner.scan s.disk path content).1, b.lines.length = 1 := by
      decide +kernel
    intro p hp findings hfindings f hf
    rw [hlines p.1 (List.of_mem_zip hp).1]
    rw [hverdict] at hfindings
    obtain rfl := Except.ok.inj hfindings
    simp only [List.mem_cons, List.not_mem_nil, or_false] at hf
    rcases hf with rfl | rfl | rfl <;> decide
  have hunresolved : ∀ line target,
      Rest.Item.autodoc line target ∈ Rest.scan (e.scanner.expandedLines content) →
      ∀ a, e.scanner.resolve s.disk path target ≠ .ok a := by
    have hall : (Rest.scan (e.scanner.expandedLines content)).all (fun
        | .autodoc _ target => !(e.scanner.resolve s.disk path target).isOk
        | .literal _ => true) = true := by decide +kernel
    intro line target hitem a hresolve
    have hbad := List.all_eq_true.mp hall _ hitem
    simp only [hresolve] at hbad
    exact absurd hbad (by simp [Except.isOk, Except.toBool])
  obtain ⟨r, hr⟩ : ∃ r, (e.lintDocument path content s).1 = .ok r := by
    have hok : (e.lintDocument path content s).1.isOk = true := by decide +kernel
    cases hresult : (e.lintDocument path content s).1 with
    | ok r => exact ⟨r, rfl⟩
    | error err => simp [hresult, Except.isOk, Except.toBool] at hok
  obtain ⟨-, -, hcount⟩ := blocks_hide_no_findings e path content s (by decide +kernel)
  exact ⟨hverdict, by decide +kernel, r, hr, ((hcount hunresolved hpoints).1 r hr).2⟩

end Engine
end TranscriptLint
