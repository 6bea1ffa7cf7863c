import TranscriptLint.Proofs.ReportFile

namespace TranscriptLint

/-! # Documents on their own

An engine carries state from one document to the next: the interpreters that it has looked up, the
report, and whatever the linter remembers. If what it reads is fixed, none of this reaches the
outcome of a document.

* `Report.Reaches`: the disks that writing report lines leads to. Whether a line can be written is
  the same on all of them.
* `Engine.Steady`: what the documents of a run depend on is the same on all of these disks.
* `Engine.Later s t`: the invariant of a run from `s`. The session `t` looks up the same
  interpreters and writes to the same file.
* `Engine.Settled`: a part of a run with a fixed outcome and fixed counts.
  `Engine.settled_lintBlocks` says so for blocks and `Engine.settled_lintRequest` for documents.
* `Engine.documents_keep_to_themselves`: the outcomes and counts of a run do not depend on the order
  of its documents.
-/

/-! ## Disks that a report leads to -/

namespace Report

/-- Report lines that are written one after the other lead from one disk to another. -/
def Reaches (r : Report) (d d' : Disk) : Prop :=
  ∃ entries : List ReportEntry, entries.foldlM r.writeEntry d = .ok d'

theorem Reaches.refl (r : Report) (d : Disk) : r.Reaches d d := ⟨[], rfl⟩

theorem Reaches.write {r : Report} {d d' d'' : Disk} {entry : ReportEntry} (h : r.Reaches d d')
    (hwrite : r.writeEntry d' entry = .ok d'') : r.Reaches d d'' := by
  obtain ⟨entries, hentries⟩ := h
  refine ⟨entries ++ [entry], ?_⟩
  rw [List.foldlM_append, hentries]
  show [entry].foldlM r.writeEntry d' = .ok d''
  rw [List.foldlM_cons, hwrite]
  rfl

/-- Whether a line can be written is up to the disk, and so is the fault if it cannot. -/
theorem writeEntry_uniform (r : Report) (d : Disk) (entry entry' : ReportEntry) :
    (r.writeEntry d entry).map (fun _ => ()) = (r.writeEntry d entry').map fun _ => () := by
  have hline : ∀ entry : ReportEntry, ([] ++ Text.utf8 (entry.text ++ ['\n'])).isEmpty = false := by
    intro entry
    have hend : Text.utf8 (entry.text ++ ['\n']) = Text.utf8 entry.text ++ Text.utf8 ['\n'] :=
      List.flatMap_append ..
    rw [List.nil_append, hend]
    cases Text.utf8 entry.text <;> rfl
  unfold writeEntry
  cases r.file with
  | none => rfl
  | some file =>
    show Except.map _ (d.update? file _) = Except.map _ (d.update? file _)
    unfold Disk.update?
    split
    -- a device without space takes no line at all
    all_goals try rfl
    simp only [hline]

/-- Behind one line there is room for another. -/
theorem writeEntry_again {r : Report} {d d' : Disk} {entry : ReportEntry}
    (h : r.writeEntry d entry = .ok d') : ∃ d'', r.writeEntry d' entry = .ok d'' := by
  unfold writeEntry at h ⊢
  cases hfile : r.file with
  | none => exact ⟨d', rfl⟩
  | some file =>
    simp only [hfile] at h ⊢
    rcases Disk.update?_cases h with ⟨names, executable, old, -, hlocate, -⟩ | ⟨rfl, -⟩
    · exact ⟨_, by rw [Disk.append?, Disk.update?, hlocate]⟩
    · exact ⟨_, h⟩

/-- A line can be written on a disk that is reached if it could be written at the start. -/
theorem Reaches.writeEntry_map {r : Report} {d d' : Disk} (h : r.Reaches d d')
    (entry : ReportEntry) :
    (r.writeEntry d' entry).map (fun _ => ()) = (r.writeEntry d entry).map fun _ => () := by
  obtain ⟨entries, hentries⟩ := h
  induction entries generalizing d with
  | nil => rw [Except.ok.inj hentries]
  | cons first entries ih =>
    obtain ⟨between, hfirst, hrest⟩ := Session.foldlM_cons_eq_ok hentries
    obtain ⟨after, hagain⟩ := writeEntry_again hfirst
    rw [ih hrest, r.writeEntry_uniform between entry first, r.writeEntry_uniform d entry first,
      hfirst, hagain]
    rfl

theorem Reaches.cwd {r : Report} {d d' : Disk} (h : r.Reaches d d') : d'.cwd = d.cwd := by
  obtain ⟨entries, hentries⟩ := h
  exact Session.cwd_of_foldlM_writeEntry hentries

end Report

/-! ## What is fixed -/

/-- Whether an item stands in the document itself. -/
def Rest.Item.isLiteral : Rest.Item → Bool
  | .literal _ => true
  | .autodoc .. => false

/-- A document without docstring directives is scanned without a look at the disk. -/
theorem Scanner.scan_of_literal {s : Scanner} {document : Path} {content : Text}
    (h : ∀ item ∈ Rest.scan (s.expandedLines content), item.isLiteral = true)
    (d d' : Disk) : s.scan d' document content = s.scan d document content := by
  have hitems : (Rest.scan (s.expandedLines content)).map (s.itemBlocks d' document) =
      (Rest.scan (s.expandedLines content)).map (s.itemBlocks d document) := by
    apply List.map_congr_left
    intro item hitem
    have hliteral := h item hitem
    cases item with
    | literal block => rfl
    | autodoc line target => simp [Rest.Item.isLiteral] at hliteral
  simp only [scan, hitems]

/-- The text of a requested document, as it is given or as the disk has it. -/
def Request.text? (q : Request) (d : Disk) : Except Fault Text :=
  match q.content with
  | some content => .ok content
  | none => d.readText? q.path

namespace Engine

variable {σ : Type}

/-- What the documents of a run from `s` depend on is fixed: on every disk that report lines lead
to, their texts, the blocks in them and the interpreters are those at the start, and the linter's
answer depends on nothing but the dialect and the script. -/
structure Steady (e : Engine σ) (qs : List Request) (s : Session σ) : Prop where
  text : ∀ d, s.report.Reaches s.disk d → ∀ q ∈ qs, q.text? d = q.text? s.disk
  blocks : ∀ d, s.report.Reaches s.disk d → ∀ q ∈ qs, ∀ content, q.text? s.disk = .ok content →
    (e.scanner.scan d q.path content).1 = (e.scanner.scan s.disk q.path content).1
  interpreter : ∀ d, s.report.Reaches s.disk d → ∀ dialect,
    (e.interpreter d dialect).1 = (e.interpreter s.disk dialect).1
  answer : ∀ d, s.report.Reaches s.disk d → ∀ dialect script tools,
    (e.lint d dialect script tools).1 = (e.lint s.disk dialect script s.tools).1

/-- A session that a run from `s` may come to. Which interpreters are known already may differ, but
not what they are. -/
structure Later (e : Engine σ) (s t : Session σ) : Prop where
  disk : s.report.Reaches s.disk t.disk
  file : t.report.file = s.report.file
  interpreter : ∀ dialect, (e.interpreterOf dialect t).1 = (e.interpreterOf dialect s).1

theorem Later.refl (e : Engine σ) (s : Session σ) : e.Later s s :=
  ⟨.refl s.report s.disk, rfl, fun _ => rfl⟩

/-- The interpreter of a dialect is the known one, or else the one that is found. -/
theorem interpreterOf_fst (e : Engine σ) (d : Dialect) (s : Session σ) :
    (e.interpreterOf d s).1 = (s.interpreters.lookup d).getD (e.interpreter s.disk d).1 := by
  unfold interpreterOf
  cases s.interpreters.lookup d <;> rfl

/-- Looking up one interpreter does not change what the others are. -/
theorem interpreterOf_called (e : Engine σ) (b : CodeBlock) (s : Session σ) (d : Dialect) :
    (e.interpreterOf d (e.called b s)).1 = (e.interpreterOf d s).1 := by
  rw [interpreterOf_fst, interpreterOf_fst, called_disk]
  show ((e.interpreterOf b.dialect s).2.interpreters.lookup d).getD _ = _
  unfold interpreterOf
  cases hknown : s.interpreters.lookup b.dialect with
  | some i => rfl
  | none =>
    -- the new entry is the one that would be found again
    simp only [List.lookup_append]
    cases s.interpreters.lookup d with
    | some i => rfl
    | none =>
      by_cases hsame : d = b.dialect
      · subst hsame
        simp
      · simp [List.lookup_cons, beq_false_of_ne hsame]

section Run

variable {e : Engine σ} {qs : List Request} {s t : Session σ}

theorem Later.called (h : e.Later s t) (b : CodeBlock) : e.Later s (e.called b t) := by
  refine ⟨?_, ?_, ?_⟩
  · rw [called_disk]
    exact h.disk
  · rw [called_report]
    exact h.file
  · intro dialect
    rw [interpreterOf_called]
    exact h.interpreter dialect

/-- A session stays behind `s` if nothing but report lines was written. -/
theorem Later.of_written {u : Session σ} (hsteady : e.Steady qs s) (h : e.Later s t)
    (hdisk : s.report.Reaches s.disk u.disk) (hfile : u.report.file = t.report.file)
    (hknown : u.interpreters = t.interpreters) : e.Later s u := by
  refine ⟨hdisk, hfile.trans h.file, ?_⟩
  intro dialect
  have hfound : (e.interpreter u.disk dialect).1 = (e.interpreter t.disk dialect).1 :=
    (hsteady.interpreter _ hdisk dialect).trans (hsteady.interpreter _ h.disk dialect).symm
  rw [← h.interpreter, interpreterOf_fst, interpreterOf_fst, hknown, hfound]

theorem Later.close (hsteady : e.Steady qs s) (h : e.Later s t) (r : DocumentResult) :
    e.Later s (t.close r) := by
  unfold Session.close
  split
  · exact h.of_written hsteady h.disk rfl rfl
  · exact h

/-- The verdict on a block is the same in every session behind `s`. -/
theorem Later.verdict (hsteady : e.Steady qs s) (h : e.Later s t) (b : CodeBlock) :
    e.verdict b.document (e.callFor b t) = e.verdict b.document (e.callFor b s) := by
  have hscript : (e.callFor b t).script = (e.callFor b s).script := by
    rw [callFor, callFor, h.interpreter]
  have hanswer : (e.lint (e.callFor b t).disk (e.callFor b t).dialect (e.callFor b t).script
        (e.callFor b t).tools).1 =
      (e.lint (e.callFor b s).disk (e.callFor b s).dialect (e.callFor b s).script
        (e.callFor b s).tools).1 := by
    rw [hscript]
    exact hsteady.answer _ h.disk ..
  rw [Engine.verdict, Engine.verdict, hanswer]

end Run

/-! ## Fixed outcomes -/

/-- From the session `t` behind `s`, a part of a run has this outcome, adds this much to the counts
of the report and leads to a session behind `s`. -/
structure Gives {α : Type} (e : Engine σ) (s t : Session σ) (outcome : α)
    (diagnostics documents : Nat) (result : α × Session σ) : Prop where
  outcome : result.1 = outcome
  later : e.Later s result.2
  diagnostics : result.2.report.diagnostics = t.report.diagnostics + diagnostics
  documents : result.2.report.documents = t.report.documents + documents

/-- A part of a run whose outcome and counts are the same in every session behind `s`. -/
def Settled {α : Type} (e : Engine σ) (s : Session σ) (part : Session σ → α × Session σ) : Prop :=
  ∃ outcome diagnostics documents, ∀ t, e.Later s t →
    e.Gives s t outcome diagnostics documents (part t)

section Parts

variable {e : Engine σ} {qs : List Request} {s : Session σ}

/-- One line is counted, and it can be written if it could be written at the start. -/
theorem gives_append (hsteady : e.Steady qs s) {t : Session σ} (h : e.Later s t)
    (entry : ReportEntry) :
    e.Gives s t (s.append entry).1 entry.diagnostic?.toList.length 0 (t.append entry) := by
  have hwriter : t.report.writeEntry = s.report.writeEntry := Session.writeEntry_congr h.file
  have hsame := h.disk.writeEntry_map entry
  unfold Session.append
  rw [hwriter]
  cases hstart : s.report.writeEntry s.disk entry with
  | error fault =>
    cases hwrite : s.report.writeEntry t.disk entry with
    | error fault' =>
      rw [hstart, hwrite] at hsame
      obtain rfl : fault' = fault := Except.error.inj hsame
      exact ⟨rfl, h.of_written hsteady h.disk rfl rfl, rfl, rfl⟩
    | ok disk =>
      rw [hstart, hwrite] at hsame
      simp [Except.map] at hsame
  | ok disk' =>
    cases hwrite : s.report.writeEntry t.disk entry with
    | error fault =>
      rw [hstart, hwrite] at hsame
      simp [Except.map] at hsame
    | ok disk => exact ⟨rfl, h.of_written hsteady (h.disk.write hwrite) rfl rfl, rfl, rfl⟩

theorem Gives.eq {α : Type} {t : Session σ} {outcome : α} {diagnostics documents : Nat}
    {result : α × Session σ} (h : e.Gives s t outcome diagnostics documents result) :
    result = (outcome, result.2) := Prod.ext h.outcome rfl

/-- Parts of a run that follow each other add up. -/
theorem Gives.trans {α β : Type} {t : Session σ} {first : α} {second : β}
    {diagnostics documents diagnostics' documents' : Nat} {result : α × Session σ}
    {result' : β × Session σ} (h : e.Gives s t first diagnostics documents result)
    (h' : e.Gives s result.2 second diagnostics' documents' result') :
    e.Gives s t second (diagnostics + diagnostics') (documents + documents') result' := by
  refine ⟨h'.outcome, h'.later, ?_, ?_⟩
  · rw [h'.diagnostics, h.diagnostics, Nat.add_assoc]
  · rw [h'.documents, h.documents, Nat.add_assoc]

theorem settled_appendAll (hsteady : e.Steady qs s) (entries : List ReportEntry) :
    e.Settled s (Session.appendAll entries) := by
  induction entries with
  | nil => exact ⟨.ok (), 0, 0, fun t h => ⟨rfl, h, rfl, rfl⟩⟩
  | cons entry entries ih =>
    obtain ⟨outcome, diagnostics, documents, hrest⟩ := ih
    -- the first line can be written in all of these sessions or in none
    cases hfirst : (s.append entry).1 with
    | error err =>
      refine ⟨.error err, entry.diagnostic?.toList.length, 0, ?_⟩
      intro t h
      have hgives := gives_append hsteady h entry
      rw [hfirst] at hgives
      rw [Session.appendAll, hgives.eq]
      exact ⟨rfl, hgives.later, hgives.diagnostics, hgives.documents⟩
    | ok _ =>
      refine ⟨outcome, entry.diagnostic?.toList.length + diagnostics, 0 + documents, ?_⟩
      intro t h
      have hgives := gives_append hsteady h entry
      rw [hfirst] at hgives
      rw [Session.appendAll, hgives.eq]
      exact hgives.trans (hrest _ hgives.later)

/-- Blocks are linted with a fixed outcome. What the document remembers is the same in every
session, because it starts with nothing. -/
theorem settled_lintBlocks (hsteady : e.Steady qs s) (document : Text) (bs : List CodeBlock)
    (state : DocumentState) : e.Settled s (e.lintBlocks document bs state) := by
  induction bs generalizing state with
  | nil => exact ⟨.ok [], 0, 0, fun t h => ⟨rfl, h, rfl, rfl⟩⟩
  | cons b bs ih =>
    have hcalled : ∀ t, e.Later s t → e.Gives s t () 0 0 ((), e.called b t) := by
      intro t h
      exact ⟨rfl, h.called b, by rw [called_report]; rfl, by rw [called_report]; rfl⟩
    cases hverdict : e.verdict b.document (e.callFor b s) with
    | error err =>
      refine ⟨.error err, 0, 0, ?_⟩
      intro t h
      have hsame := (h.verdict hsteady b).trans hverdict
      have hgives := hcalled t h
      rw [lintBlocks_of_error hsame]
      exact ⟨rfl, hgives.later, hgives.diagnostics, hgives.documents⟩
    | ok findings =>
      rcases hrecord : state.record b (e.offset b) findings with ⟨fresh, kept⟩
      rcases hentries : entriesOf s.disk document b.source fresh kept with ⟨entries, entered⟩
      -- headers name sources by the current directory, which stays
      have hlines : ∀ t, e.Later s t →
          entriesOf t.disk document b.source fresh kept = (entries, entered) := by
        intro t h
        rw [← hentries]
        unfold entriesOf
        rw [headerPath_congr h.disk.cwd]
      obtain ⟨written, diagnostics, documents, happends⟩ := settled_appendAll hsteady entries
      cases written with
      | error err =>
        refine ⟨.error err, 0 + diagnostics, 0 + documents, ?_⟩
        intro t h
        have hsame := (h.verdict hsteady b).trans hverdict
        have happend := happends _ (h.called b)
        have hgives := (hcalled t h).trans happend
        rw [lintBlocks_of_unwritten hsame hrecord (hlines t h) happend.eq]
        exact ⟨rfl, hgives.later, hgives.diagnostics, hgives.documents⟩
      | ok _ =>
        obtain ⟨outcome, diagnostics', documents', hrest⟩ := ih entered
        refine ⟨outcome.map (entries ++ ·), 0 + diagnostics + diagnostics',
          0 + documents + documents', ?_⟩
        intro t h
        have hsame := (h.verdict hsteady b).trans hverdict
        have happend := happends _ (h.called b)
        have hgives := ((hcalled t h).trans happend).trans (hrest _ happend.later)
        rw [lintBlocks_of_written hsame hrecord (hlines t h) happend.eq]
        refine ⟨?_, hgives.later, hgives.diagnostics, hgives.documents⟩
        rw [hgives.outcome]

/-! ## Documents -/

theorem settled_lintDocument (hsteady : e.Steady qs s) (path : Path) (content : Text)
    (hblocks : ∀ d, s.report.Reaches s.disk d →
      (e.scanner.scan d path content).1 = (e.scanner.scan s.disk path content).1) :
    e.Settled s (e.lintDocument path content) := by
  obtain ⟨outcome, diagnostics, documents, hlints⟩ :=
    settled_lintBlocks hsteady path.text (e.scanner.scan s.disk path content).1 {}
  have htold : ∀ t, e.Later s t → e.Later s (t.tell (e.opening path content t.disk)) :=
    fun t h => h.of_written hsteady h.disk rfl rfl
  cases outcome with
  | error err =>
    refine ⟨.error err, diagnostics, documents, ?_⟩
    intro t h
    have hgives := hlints _ (htold t h)
    rw [lintDocument_eq, hblocks _ h.disk, hgives.eq]
    exact ⟨rfl, hgives.later, hgives.diagnostics, hgives.documents⟩
  | ok entries =>
    let r : DocumentResult := ⟨path, (e.scanner.scan s.disk path content).1.length, entries⟩
    refine ⟨.ok r, diagnostics, documents + if r.hasDiagnostics then 1 else 0, ?_⟩
    intro t h
    have hgives := hlints _ (htold t h)
    rw [lintDocument_eq, hblocks _ h.disk, hgives.eq]
    refine ⟨rfl, hgives.later.close hsteady r, ?_, ?_⟩
    · show (Session.close _ r).report.diagnostics = _
      rw [Session.close_diagnostics, hgives.diagnostics]
      rfl
    · show (Session.close _ r).report.documents = _
      rw [Session.close_documents, hgives.documents, Nat.add_assoc]
      rfl

theorem lintRequest_eq (e : Engine σ) (q : Request) (t : Session σ) :
    e.lintRequest q t =
      match q.text? t.disk with
      | .error fault => (.error (.unreadable q.path fault), t)
      | .ok content => e.lintDocument q.path content t := by
  unfold lintRequest lintFile Request.text?
  cases q.content <;> rfl

/-- A requested document is linted with a fixed outcome, also if it cannot be read. -/
theorem settled_lintRequest (hsteady : e.Steady qs s) {q : Request} (hq : q ∈ qs) :
    e.Settled s (e.lintRequest q) := by
  cases htext : q.text? s.disk with
  | error fault =>
    refine ⟨.error (.unreadable q.path fault), 0, 0, ?_⟩
    intro t h
    rw [lintRequest_eq, hsteady.text _ h.disk q hq, htext]
    exact ⟨rfl, h, rfl, rfl⟩
  | ok content =>
    obtain ⟨outcome, diagnostics, documents, hgives⟩ :=
      settled_lintDocument hsteady q.path content
        fun d hd => hsteady.blocks d hd q hq content htext
    refine ⟨outcome, diagnostics, documents, ?_⟩
    intro t h
    rw [lintRequest_eq, hsteady.text _ h.disk q hq, htext]
    exact hgives t h

/-! ## Runs -/

/-- What a document adds to the counts of the report when it is the first. -/
def gain (e : Engine σ) (s : Session σ) (q : Request) (count : Report → Nat) : Nat :=
  count (e.lintRequest q s).2.report - count s.report

/-- A document has the outcome that it has when it is the first, wherever it stands in a run. -/
theorem gives_lintRequest (hsteady : e.Steady qs s) {q : Request} (hq : q ∈ qs) {t : Session σ}
    (h : e.Later s t) :
    e.Gives s t (e.lintRequest q s).1 (e.gain s q Report.diagnostics)
      (e.gain s q Report.documents) (e.lintRequest q t) := by
  obtain ⟨outcome, diagnostics, documents, hgives⟩ := settled_lintRequest hsteady hq
  have hfirst := hgives s (.refl e s)
  have hdiagnostics : e.gain s q Report.diagnostics = diagnostics := by
    rw [gain, hfirst.diagnostics, Nat.add_sub_cancel_left]
  have hdocuments : e.gain s q Report.documents = documents := by
    rw [gain, hfirst.documents, Nat.add_sub_cancel_left]
  rw [hfirst.outcome, hdiagnostics, hdocuments]
  exact hgives t h

/-- A run gives every document the outcome that it has when it is the first, and counts what each
document adds on its own. -/
theorem gives_lintEach (hsteady : e.Steady qs s) {ps : List Request} (hps : ∀ q ∈ ps, q ∈ qs)
    {t : Session σ} (h : e.Later s t) :
    e.Gives s t (ps.map fun q => (e.lintRequest q s).1)
      (ps.map fun q => e.gain s q Report.diagnostics).sum
      (ps.map fun q => e.gain s q Report.documents).sum
      ((e.lintEach ps t).1.map Answered.outcome, (e.lintEach ps t).2) := by
  induction ps generalizing t with
  | nil => exact ⟨rfl, h, rfl, rfl⟩
  | cons q ps ih =>
    have hfirst := gives_lintRequest hsteady (hps q (List.mem_cons_self ..)) h
    have hrest := ih (fun p hp => hps p (List.mem_cons_of_mem _ hp)) hfirst.later
    have hall := hfirst.trans hrest
    rw [lintEach]
    simp only [List.map_cons, List.sum_cons]
    exact ⟨congrArg₂ List.cons hfirst.outcome hrest.outcome, hall.later, hall.diagnostics,
      hall.documents⟩

end Parts

/-- **Documents keep to themselves.** If what documents depend on is fixed, each has the outcome in
a run that it has when it is linted first, whatever comes before it, and so it has the same outcome
in every order of the documents. The counts of the report do not depend on the order either. -/
theorem documents_keep_to_themselves (e : Engine σ) (s : Session σ) {qs qs' : List Request}
    (hperm : qs.Perm qs') (hsteady : e.Steady qs s) :
    let run := e.lintEach qs s
    let run' := e.lintEach qs' s
    run.1.map Answered.outcome = (qs.map fun q => (e.lintRequest q s).1) ∧
    run'.1.map Answered.outcome = (qs'.map fun q => (e.lintRequest q s).1) ∧
    (∀ (i j : Nat) (q : Request), qs[i]? = some q → qs'[j]? = some q →
      run.1[i]?.map Answered.outcome = run'.1[j]?.map Answered.outcome) ∧
    run.2.report.diagnostics = run'.2.report.diagnostics ∧
    run.2.report.documents = run'.2.report.documents := by
  intro run run'
  have hrun := gives_lintEach hsteady (fun q hq => hq) (.refl e s)
  have hrun' := gives_lintEach hsteady (fun q hq => hperm.mem_iff.mpr hq) (.refl e s)
  have houtcomes : run.1.map Answered.outcome = qs.map fun q => (e.lintRequest q s).1 :=
    hrun.outcome
  have houtcomes' : run'.1.map Answered.outcome = qs'.map fun q => (e.lintRequest q s).1 :=
    hrun'.outcome
  refine ⟨houtcomes, houtcomes', ?_, ?_, ?_⟩
  · intro i j q hi hj
    rw [← List.getElem?_map, ← List.getElem?_map, houtcomes, houtcomes', List.getElem?_map,
      List.getElem?_map, hi, hj]
  · show run.2.report.diagnostics = run'.2.report.diagnostics
    have hsum := (hperm.map fun q => e.gain s q Report.diagnostics).sum_nat
    rw [hrun.diagnostics, hrun'.diagnostics, hsum]
  · have hsum := (hperm.map fun q => e.gain s q Report.documents).sum_nat
    rw [hrun.documents, hrun'.documents, hsum]

/-- Two documents with the same finding, one of them on the disk beside the report, and one that
fails. -/
theorem documents_keep_to_themselves_reordered :
    let e : Engine Nat :=
      { scanner := ⟨Dialect.all, 8, []⟩, prompt := '$', interpreter := fun _ d => (.viaEnv d, [])
        lint := fun _ dialect _ n =>
          (.ok ⟨(if dialect = .bash then "oops" else "[[2,1,1,\"m\"]]").toList, [], 0⟩, n + 1) }
    let doc : Text := ".. code:: sh\n\n $ ls\n".toList
    let bad : Text := ".. code:: sh\n\n $ ls\n\n.. code:: bash\n\n $ cd\n".toList
    let s : Session Nat :=
      { disk := ⟨[([['a']], .file false doc.utf8), ([['r']], .file false [])], []⟩
        report := { file := some ⟨['r']⟩ }, tools := 0 }
    let a : Request := ⟨⟨['a']⟩, none⟩
    let b : Request := ⟨⟨['b']⟩, some bad⟩
    let c : Request := ⟨⟨['c']⟩, some doc⟩
    e.Steady [a, b, c] s ∧ [a, b, c].Perm [c, a, b] ∧
      (e.lintEach [a, b, c] s).1.map (fun x => x.outcome.isOk) = [true, false, true] ∧
      (e.lintEach [c, a, b] s).1.map Answered.outcome =
        [(e.lintRequest c s).1, (e.lintRequest a s).1, (e.lintRequest b s).1] ∧
      (e.lintEach [a, b, c] s).2.report.diagnostics = 3 ∧
      (e.lintEach [c, a, b] s).2.report.diagnostics = 3 := by
  intro e doc bad s a b c
  let disk (content : List UInt8) : Disk :=
    ⟨[([['a']], .file false doc.utf8), ([['r']], .file false content)], []⟩
  -- writing lines changes nothing but the content of the report
  have hreach : ∀ d, s.report.Reaches s.disk d → ∃ content, d = disk content := by
    have hstep : ∀ (entries : List ReportEntry) content d,
        entries.foldlM s.report.writeEntry (disk content) = .ok d →
          ∃ content', d = disk content' := by
      intro entries
      induction entries with
      | nil =>
        intro content d h
        exact ⟨content, (Except.ok.inj h).symm⟩
      | cons entry entries ih =>
        intro content d h
        obtain ⟨between, hfirst, hrest⟩ := Session.foldlM_cons_eq_ok h
        have hwrite : s.report.writeEntry (disk content) entry =
            .ok (disk (content ++ Text.utf8 (entry.text ++ ['\n']))) := rfl
        rw [hwrite] at hfirst
        obtain rfl := Except.ok.inj hfirst
        exact ih _ d hrest
    rintro d ⟨entries, hentries⟩
    exact hstep entries [] d hentries
  have hliteral : ∀ q ∈ [a, b, c], ∀ content, q.text? s.disk = .ok content →
      ∀ item ∈ Rest.scan (e.scanner.expandedLines content), item.isLiteral = true := by
    have hall : [a, b, c].all (fun q => (q.text? s.disk).toOption.all fun content =>
        (Rest.scan (e.scanner.expandedLines content)).all Rest.Item.isLiteral) = true := by
      decide +kernel
    intro q hq content hcontent
    have hitems := List.all_eq_true.mp hall q hq
    rw [hcontent] at hitems
    exact List.all_eq_true.mp hitems
  have hsteady : e.Steady [a, b, c] s := by
    refine ⟨?_, ?_, fun _ _ _ => rfl, fun _ _ _ _ _ => rfl⟩
    · intro d hd q hq
      obtain ⟨content, rfl⟩ := hreach d hd
      simp only [List.mem_cons, List.not_mem_nil, or_false] at hq
      rcases hq with rfl | rfl | rfl <;> rfl
    · intro d _ q hq content hcontent
      rw [Scanner.scan_of_literal (hliteral q hq content hcontent) s.disk d]
  have hperm : [a, b, c].Perm [c, a, b] :=
    show ([a, b] ++ [c]).Perm ([c] ++ [a, b]) from List.perm_append_comm
  obtain ⟨-, halone, -, hdiagnostics, -⟩ := documents_keep_to_themselves e s hperm hsteady
  have hthree : (e.lintEach [a, b, c] s).2.report.diagnostics = 3 := by decide +kernel
  refine ⟨hsteady, hperm, by decide +kernel, halone, hthree, ?_⟩
  rw [← hdiagnostics, hthree]

end Engine
end TranscriptLint
