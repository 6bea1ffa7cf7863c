import Mathlib.Data.List.Forall2
import TranscriptLint.Proofs.LintRun
import TranscriptLint.Proofs.PathComponents

namespace TranscriptLint

/-! # Headers

A header names the source of the diagnostics below it. It is written when the source changes, and
only if there is something to say about the new source, so that blocks without new diagnostics leave
no trace between the headers.

* `Laid last lines`: the invariant. `lines` may follow diagnostics of the source `last`.
* `Engine.laid_append_entriesOf`: the lines of one block keep it, and `Engine.Lints.laid` those of a
  run.
* `UnderHeaders lines`: what the invariant says about the finished lines.
* `Engine.headers_name_sources`: the lines of a document.
-/

/-! ## Lines under headers -/

/-- Lines that may follow diagnostics of the source `last`: more diagnostics of that source, or a
header right above a diagnostic of another one. -/
inductive Laid : Option Path → List ReportEntry → Prop
  | nil {last : Option Path} : Laid last []
  | diagnostic {source : Path} {document : Text} {d : Diagnostic} {lines : List ReportEntry} :
      source.same d.source = true → Laid (some source) lines →
      Laid (some source) (.diagnostic document d :: lines)
  | header {last : Option Path} {document document' : Text} {named : Path} {d : Diagnostic}
      {lines : List ReportEntry} :
      (∀ source, last = some source → source.same d.source = false) →
      Laid (some d.source) (.diagnostic document' d :: lines) →
      Laid last (.header document named :: .diagnostic document' d :: lines)

/-- Lines in which every diagnostic stands under a header of its source. -/
structure UnderHeaders (lines : List ReportEntry) : Prop where
  /-- The first line is a header. -/
  first : ∀ line, lines.head? = some line → line.diagnostic? = none
  /-- A header is neither the last line nor above another header. -/
  above : ∀ before document named after, lines = before ++ .header document named :: after →
    ∃ document' d rest, after = .diagnostic document' d :: rest
  /-- Between two diagnostics that follow each other there is one header if their sources differ,
  and none if they are the same. -/
  between : ∀ before document d middle document' d' after,
    lines = before ++ .diagnostic document d :: (middle ++ .diagnostic document' d' :: after) →
    (∀ line ∈ middle, line.diagnostic? = none) →
    middle.length = if d.source.same d'.source then 0 else 1

namespace Laid

/-- Behind a diagnostic the lines are laid out for its source. -/
theorem of_append {last : Option Path} {lines : List ReportEntry} (h : Laid last lines) :
    ∀ {before : List ReportEntry} {document : Text} {d : Diagnostic} {after : List ReportEntry},
      lines = before ++ .diagnostic document d :: after →
      ∃ source : Path, source.same d.source = true ∧ Laid (some source) after := by
  induction h with
  | nil =>
    intro before document d after heq
    simp at heq
  | @diagnostic source _ d lines hsame hrest ih =>
    intro before document d' after heq
    cases before with
    | nil =>
      obtain ⟨hline, rfl⟩ := List.cons.inj heq
      obtain ⟨-, rfl⟩ := ReportEntry.diagnostic.inj hline
      exact ⟨source, hsame, hrest⟩
    | cons line before => exact ih (List.cons.inj heq).2
  | header _ _ ih =>
    intro before document d' after heq
    cases before with
    | nil => simp at heq
    | cons line before => exact ih (List.cons.inj heq).2

/-- The headers up to the next diagnostic. -/
theorem length_of_headers {source : Path} {middle after : List ReportEntry} {document : Text}
    {d : Diagnostic} (h : Laid (some source) (middle ++ .diagnostic document d :: after))
    (hmiddle : ∀ line ∈ middle, line.diagnostic? = none) :
    middle.length = if source.same d.source then 0 else 1 := by
  generalize hlines : middle ++ .diagnostic document d :: after = lines at h
  generalize hlast : some source = last at h
  cases h with
  | nil => simp at hlines
  | diagnostic hsame _ =>
    cases middle with
    | nil =>
      obtain ⟨hline, -⟩ := List.cons.inj hlines
      obtain ⟨-, rfl⟩ := ReportEntry.diagnostic.inj hline
      rw [Option.some.inj hlast, hsame]
      rfl
    | cons line middle =>
      obtain ⟨rfl, -⟩ := List.cons.inj hlines
      simpa [ReportEntry.diagnostic?] using hmiddle _ (List.mem_cons_self ..)
  | header hother _ =>
    cases middle with
    | nil => simp at hlines
    | cons line middle =>
      obtain ⟨-, hrest⟩ := List.cons.inj hlines
      cases middle with
      | nil =>
        obtain ⟨hline, -⟩ := List.cons.inj hrest
        obtain ⟨-, rfl⟩ := ReportEntry.diagnostic.inj hline
        rw [hother source hlast.symm]
        rfl
      | cons next middle =>
        obtain ⟨rfl, -⟩ := List.cons.inj hrest
        simpa [ReportEntry.diagnostic?] using
          hmiddle _ (List.mem_cons_of_mem _ (List.mem_cons_self ..))

theorem above {last : Option Path} {lines : List ReportEntry} (h : Laid last lines) :
    ∀ {before : List ReportEntry} {document : Text} {named : Path} {after : List ReportEntry},
      lines = before ++ .header document named :: after →
      ∃ document' d rest, after = .diagnostic document' d :: rest := by
  induction h with
  | nil =>
    intro before document named after heq
    simp at heq
  | diagnostic _ _ ih =>
    intro before document named after heq
    cases before with
    | nil => simp at heq
    | cons line before => exact ih (List.cons.inj heq).2
  | @header _ _ document' _ d lines _ _ ih =>
    intro before document named after heq
    cases before with
    | nil => exact ⟨document', d, lines, (List.cons.inj heq).2.symm⟩
    | cons line before => exact ih (List.cons.inj heq).2

/-- Lines that are laid out from the beginning stand under headers. -/
theorem underHeaders {lines : List ReportEntry} (h : Laid none lines) : UnderHeaders lines := by
  refine ⟨?_, ?_, ?_⟩
  · intro line hline
    cases h with
    | nil => simp at hline
    | header =>
      rw [← Option.some.inj hline]
      rfl
  · intro before document named after heq
    exact h.above heq
  · intro before document d middle document' d' after heq hmiddle
    obtain ⟨source, hsame, hafter⟩ := h.of_append heq
    rw [hafter.length_of_headers hmiddle]
    -- the source named by the header is the source of the first of the two
    have hsource : source.same d'.source = d.source.same d'.source := by
      rw [Path.same, Path.same, Path.same_iff.mp hsame]
    rw [hsource]

/-! ## What one block adds -/

/-- Diagnostics of the source of the last header need no header. -/
theorem append_diagnostics {last source : Path} {document : Text} {ds : List Diagnostic}
    {lines : List ReportEntry} (hsame : last.same source = true) (hds : ∀ d ∈ ds, d.source = source)
    (h : Laid (some last) lines) :
    Laid (some last) (ds.map (.diagnostic document) ++ lines) := by
  induction ds with
  | nil => exact h
  | cons d ds ih =>
    rw [List.map_cons, List.cons_append]
    refine .diagnostic ?_ (ih fun d' hd' => hds d' (List.mem_cons_of_mem _ hd'))
    rw [hds d (List.mem_cons_self ..)]
    exact hsame

end Laid

namespace DocumentState

theorem mem_of_mem_keepNew {ds : List Diagnostic} {d : Diagnostic} {state : DocumentState}
    (h : d ∈ (keepNew ds state).1) : d ∈ ds := by
  induction ds generalizing state with
  | nil => exact h
  | cons first ds ih =>
    rw [keepNew] at h
    split at h
    · exact List.mem_cons_of_mem _ (ih h)
    · rcases List.mem_cons.mp h with rfl | hrest
      · exact List.mem_cons_self ..
      · exact List.mem_cons_of_mem _ (ih hrest)

theorem keepNew_header (ds : List Diagnostic) (state : DocumentState) :
    (keepNew ds state).2.header = state.header := by
  induction ds generalizing state with
  | nil => rfl
  | cons d ds ih =>
    rw [keepNew]
    split
    · exact ih state
    · exact ih _

/-- Recording findings leaves the last header as it is. -/
theorem record_header {b : CodeBlock} {offset : Offset} {findings : List Finding}
    {state kept : DocumentState} {fresh : List Diagnostic}
    (h : state.record b offset findings = (fresh, kept)) : kept.header = state.header := by
  have hkept : kept = (state.record b offset findings).2 := by rw [h]
  rw [hkept]
  exact keepNew_header _ _

/-- The diagnostics of a block point into the source of the block. -/
theorem source_of_record {b : CodeBlock} {offset : Offset} {findings : List Finding}
    {state kept : DocumentState} {fresh : List Diagnostic}
    (h : state.record b offset findings = (fresh, kept)) : ∀ d ∈ fresh, d.source = b.source := by
  intro d hd
  have hfresh : fresh = (state.record b offset findings).1 := by rw [h]
  rw [hfresh] at hd
  obtain ⟨f, -, rfl⟩ := List.mem_map.mp (mem_of_mem_keepNew hd)
  rfl

/-- A header is due unless the last one named the same source. -/
theorem enterSource_cases (source : Path) (state : DocumentState) :
    (state.enterSource source = (false, state) ∧
        ∃ last, state.header = some last ∧ last.same source = true) ∨
      (state.enterSource source = (true, { state with header := some source }) ∧
        ∀ last, state.header = some last → last.same source = false) := by
  have hcomm : ∀ last : Path, last.same source = source.same last := by
    intro last
    rw [Path.same, Path.same, Bool.beq_comm]
  unfold enterSource
  cases hheader : state.header with
  | none => exact .inr ⟨rfl, fun last hlast => by simp at hlast⟩
  | some last =>
    cases hsame : source.same last with
    | true => exact .inl ⟨by simp [hsame], last, rfl, (hcomm last).trans hsame⟩
    | false =>
      refine .inr ⟨by simp [hsame], ?_⟩
      intro last' hlast
      rw [← Option.some.inj hlast, hcomm, hsame]

end DocumentState

namespace Engine

/-- What is written for the new diagnostics of a block: nothing if there are none, else the
diagnostics, below a header if their source is not that of the last header. -/
theorem entriesOf_cases {d : Disk} {document : Text} {source : Path} {ds : List Diagnostic}
    {state state' : DocumentState} {entries : List ReportEntry}
    (h : entriesOf d document source ds state = (entries, state')) :
    (ds = [] ∧ entries = [] ∧ state' = state) ∨
      (ds ≠ [] ∧ entries = ds.map (.diagnostic document) ∧ state' = state ∧
        ∃ last, state.header = some last ∧ last.same source = true) ∨
      (ds ≠ [] ∧
        entries = .header document (headerPath d source) :: ds.map (.diagnostic document) ∧
        state' = { state with header := some source } ∧
        ∀ last, state.header = some last → last.same source = false) := by
  unfold entriesOf at h
  split at h
  · next hempty =>
    obtain ⟨hentries, hstate⟩ := Prod.mk.inj h
    exact .inl ⟨List.isEmpty_iff.mp hempty, hentries.symm, hstate.symm⟩
  · next hne =>
    rw [List.isEmpty_iff] at hne
    rcases state.enterSource_cases source with ⟨henter, hlast⟩ | ⟨henter, hother⟩
    · rw [henter] at h
      obtain ⟨rfl, rfl⟩ := Prod.mk.inj h
      exact .inr (.inl ⟨hne, rfl, rfl, hlast⟩)
    · rw [henter] at h
      obtain ⟨rfl, rfl⟩ := Prod.mk.inj h
      exact .inr (.inr ⟨hne, rfl, rfl, hother⟩)

/-- The lines of one block may follow whatever the state says was written last, and what may follow
the state behind the block may follow them. -/
theorem laid_append_entriesOf {d : Disk} {document : Text} {source : Path}
    {ds : List Diagnostic} {state state' : DocumentState} {entries lines : List ReportEntry}
    (hentries : entriesOf d document source ds state = (entries, state'))
    (hds : ∀ x ∈ ds, x.source = source) (h : Laid state'.header lines) :
    Laid state.header (entries ++ lines) := by
  rcases entriesOf_cases hentries with ⟨-, rfl, rfl⟩ | ⟨-, rfl, rfl, last, hlast, hsame⟩ |
      ⟨hne, rfl, rfl, hother⟩
  · exact h
  · rw [hlast] at h ⊢
    exact h.append_diagnostics hsame hds
  · cases ds with
    | nil => exact absurd rfl hne
    | cons x ds =>
      have hx : x.source = source := hds x (List.mem_cons_self ..)
      have hself : source.same source = true := Path.same_iff.mpr rfl
      have hbody : Laid (some source) ((x :: ds).map (.diagnostic document) ++ lines) :=
        h.append_diagnostics hself hds
      refine .header ?_ ?_
      · rw [hx]
        exact hother
      · rw [hx]
        exact hbody

/-! ## What a document adds -/

/-- The lines of one block: none, or its diagnostics, with or without a header above them that names
the block's source by its absolute path. -/
inductive BlockLines (d : Disk) (document : Text) (b : CodeBlock) : List ReportEntry → Prop
  | none : BlockLines d document b []
  | continued {ds : List Diagnostic} : ds ≠ [] → (∀ x ∈ ds, x.source = b.source) →
      BlockLines d document b (ds.map (.diagnostic document))
  | headed {ds : List Diagnostic} : ds ≠ [] → (∀ x ∈ ds, x.source = b.source) →
      BlockLines d document b
        (.header document (headerPath d b.source) :: ds.map (.diagnostic document))

/-- Only the current directory decides what a header calls a source. -/
theorem headerPath_congr {d d' : Disk} (h : d'.cwd = d.cwd) : headerPath d' = headerPath d := by
  funext source
  rw [headerPath, headerPath, Disk.cwdPath, Disk.cwdPath, h]

theorem blockLines_of_entriesOf {d : Disk} {document : Text} {b : CodeBlock}
    {ds : List Diagnostic} {state state' : DocumentState} {entries : List ReportEntry}
    (hentries : entriesOf d document b.source ds state = (entries, state'))
    (hds : ∀ x ∈ ds, x.source = b.source) : BlockLines d document b entries := by
  rcases entriesOf_cases hentries with ⟨-, rfl, -⟩ | ⟨hne, rfl, -, -⟩ | ⟨hne, rfl, -, -⟩
  · exact .none
  · exact .continued hne hds
  · exact .headed hne hds

variable {σ : Type} {e : Engine σ} {document : Text}

/-- The lines of blocks that go through may follow whatever the state says was written last. -/
theorem Lints.laid {state state' : DocumentState} {s u : Session σ} {ls : List LintedBlock}
    (h : e.Lints document state s ls state' u) :
    Laid state.header (ls.flatMap LintedBlock.entries) := by
  induction h with
  | nil => exact .nil
  | cons _ hrecord hentries _ _ ih =>
    have hheader := DocumentState.record_header hrecord
    rw [List.flatMap_cons, ← hheader]
    exact laid_append_entriesOf hentries (DocumentState.source_of_record hrecord) ih

/-- Each block has its share of the lines. The current directory stays, so that all headers are
named from the same one. -/
theorem Lints.blockLines {state state' : DocumentState} {s u : Session σ} {ls : List LintedBlock}
    (h : e.Lints document state s ls state' u) :
    List.Forall₂ (BlockLines s.disk document) (ls.map LintedBlock.block)
      (ls.map LintedBlock.entries) := by
  induction h with
  | nil => exact .nil
  | @cons _ _ _ _ s t u l ls _ hrecord hentries happend _ ih =>
    have hfirst : BlockLines s.disk document l.block l.entries :=
      blockLines_of_entriesOf hentries (DocumentState.source_of_record hrecord)
    refine .cons hfirst (ih.imp ?_)
    intro b lines hlines
    have hcwd : t.disk.cwd = s.disk.cwd := by
      rw [(Session.appended_of_appendAll happend).1.cwd, called_disk]
    cases hlines with
    | none => exact .none
    | continued hne hds => exact .continued hne hds
    | headed hne hds =>
      rw [headerPath_congr hcwd]
      exact .headed hne hds

/-- **Headers.** The lines of a document that was linted stand under headers: the first is a header,
no header is last or above another one, and between two diagnostics that follow each other there is
one header if their sources differ and none if they are the same. The lines are those of the blocks
in their order, and a header names the source of the block whose diagnostics it stands above. -/
theorem headers_name_sources (e : Engine σ) (path : Path) (content : Text) (s : Session σ)
    {r : DocumentResult} (h : (e.lintDocument path content s).1 = .ok r) :
    UnderHeaders r.entries ∧ ∃ shares : List (List ReportEntry), r.entries = shares.flatten ∧
      List.Forall₂ (BlockLines s.disk path.text) (e.scanner.scan s.disk path content).1 shares := by
  obtain ⟨ls, state, u, hlints, ⟨hblocks, r', hentries, heq⟩ | ⟨b, left, err, t, -, -, heq⟩⟩ :=
    e.lintDocument_cases path content s
  · rw [heq] at h
    obtain rfl := Except.ok.inj h
    rw [hentries, hblocks]
    refine ⟨Laid.underHeaders hlints.laid, ls.map LintedBlock.entries, ?_, hlints.blockLines⟩
    rw [List.flatMap_def]
  · rw [heq] at h
    simp at h

/-- A docstring block between blocks of the document, and two blocks that share a header. -/
theorem headers_name_sources_interleaved :
    let e : Engine Unit :=
      { scanner := ⟨Dialect.all, 8, []⟩, prompt := '$', interpreter := fun _ d => (.viaEnv d, [])
        lint := fun _ _ _ s => (.ok ⟨"[[2,1,1,\"m\"]]".toList, [], 1⟩, s) }
    let python : Text := "def f():\n  '''Doc.\n\n  .. code:: sh\n\n   $ ls'''\n".toList
    let s : Session Unit :=
      { disk := ⟨[(["r".toList], .directory),
          (["r".toList, "m.py".toList], .file false python.utf8)], ["r".toList]⟩, tools := () }
    let path := Path.ofString "a.rst"
    let content : Text :=
      (".. code:: sh\n\n $ ls\n\n.. autofunction:: m.f\n\n" ++
        ".. code:: sh\n\n $ cd\n\n.. code:: sh\n\n $ rm\n").toList
    let found (source : String) (line column : Nat) : ReportEntry :=
      .diagnostic path.text ⟨.ofString source, line, column, "1".toList, "m".toList, .warning⟩
    let header (source : String) : ReportEntry := .header path.text (.ofString source)
    let r : DocumentResult := ⟨path, 4,
      [header "/r/a.rst", found "a.rst" 3 4, header "/r/m.py", found "./m.py" 6 6,
        header "/r/a.rst", found "a.rst" 9 4, found "a.rst" 13 4]⟩
    (e.lintDocument path content s).1 = .ok r ∧ UnderHeaders r.entries := by
  intro e python s path content found header r
  have hok : (e.lintDocument path content s).1 = .ok r := by decide +kernel
  exact ⟨hok, (headers_name_sources e path content s hok).1⟩

end Engine
end TranscriptLint
