import TranscriptLint.Lint
import TranscriptLint.Proofs.Files

namespace TranscriptLint

/-! # Linting block by block

The blocks of a document go through the linter one after the other, and a document ends at the first
block that does not. Everything that holds of whole documents is derived from what one block does.

* `Engine.lintBlock_eq`: for a block the linter is called once, and the session changes in nothing
  else but what the interpreter lookup and the linter leave behind.
* `Engine.Lints`: the blocks that went through, one step for each block, with what was found and
  reported.
* `Engine.Ends`: what comes behind them. All blocks are done, the linter fails on the next block, or
  its lines cannot be written.
* `Engine.exists_lints`: linting blocks is always a run of steps and such an end.
-/

/-! ## Calls of the linter -/

/-- A call of the linter: what it is given, and the state that it is in. -/
structure LintCall (σ : Type) where
  disk : Disk
  dialect : Dialect
  script : Text
  tools : σ
deriving DecidableEq

namespace Engine

variable {σ : Type}

/-- What a call of the linter means for a document: the findings, or the error that ends the
document. -/
def verdict (e : Engine σ) (document : Path) (c : LintCall σ) :
    Except LintError (List Finding) :=
  match (e.lint c.disk c.dialect c.script c.tools).1 with
  | .error cause => .error (.tool document cause)
  | .ok output =>
    match Finding.readAll output.stdout with
    | .error cause => .error (.malformed document cause)
    | .ok findings => .ok findings

/-- The call that is made for a block. -/
def callFor (e : Engine σ) (b : CodeBlock) (s : Session σ) : LintCall σ :=
  ⟨s.disk, b.dialect, (e.script b (e.interpreterOf b.dialect s).1).text, s.tools⟩

/-- The session behind the call for a block. -/
def called (e : Engine σ) (b : CodeBlock) (s : Session σ) : Session σ :=
  let c := e.callFor b s
  { (e.interpreterOf b.dialect s).2 with tools := (e.lint c.disk c.dialect c.script c.tools).2 }

/-- The distance from the script of a block to its source. The interpreter has no part in it. -/
def offset (e : Engine σ) (b : CodeBlock) : Offset :=
  ⟨b.lineOffset, b.indent + (Transcript.ofLines e.prompt b.lines).margin⟩

theorem interpreterOf_frame (e : Engine σ) (d : Dialect) (s : Session σ) :
    (e.interpreterOf d s).2.disk = s.disk ∧ (e.interpreterOf d s).2.report = s.report ∧
      (e.interpreterOf d s).2.tools = s.tools := by
  unfold interpreterOf
  split <;> exact ⟨rfl, rfl, rfl⟩

@[simp] theorem called_disk (e : Engine σ) (b : CodeBlock) (s : Session σ) :
    (e.called b s).disk = s.disk := (e.interpreterOf_frame b.dialect s).1

@[simp] theorem called_report (e : Engine σ) (b : CodeBlock) (s : Session σ) :
    (e.called b s).report = s.report := (e.interpreterOf_frame b.dialect s).2.1

/-- Linting a block is one call of the linter. -/
theorem lintBlock_eq (e : Engine σ) (b : CodeBlock) (s : Session σ) :
    e.lintBlock b s =
      ((e.verdict b.document (e.callFor b s)).map fun findings => (e.offset b, findings),
        e.called b s) := by
  obtain ⟨hdisk, -, htools⟩ := e.interpreterOf_frame b.dialect s
  unfold lintBlock verdict called callFor
  rw [← hdisk, ← htools]
  generalize e.interpreterOf b.dialect s = found
  obtain ⟨i, t⟩ := found
  cases hanswer : e.lint t.disk b.dialect (e.script b i).text t.tools with
  | mk result tools =>
    cases result with
    | error cause => simp [hanswer, Except.map]
    | ok output =>
      cases hread : Finding.readAll output.stdout with
      | error cause => simp [hanswer, hread, Except.map]
      | ok findings =>
        simp only [hanswer, hread, Except.map]
        rfl

/-- An error of a call says which document it is about. -/
theorem verdict_eq_error {e : Engine σ} {document : Path} {c : LintCall σ} {err : LintError}
    (h : e.verdict document c = .error err) :
    ((∃ cause, err = .tool document cause) ∨ ∃ cause, err = .malformed document cause) ∧
      ∃ cause, err.message = document.text ++ ": ".toList ++ cause := by
  unfold verdict at h
  split at h
  · next cause _ =>
    obtain rfl := Except.error.inj h
    exact ⟨.inl ⟨cause, rfl⟩, cause.message, rfl⟩
  · split at h
    · next cause _ =>
      obtain rfl := Except.error.inj h
      exact ⟨.inr ⟨cause, rfl⟩, cause.message, rfl⟩
    · simp at h

/-! ## Steps -/

/-- A block that went through. -/
structure LintedBlock where
  block : CodeBlock
  findings : List Finding
  /-- The diagnostics that were not reported before. -/
  fresh : List Diagnostic
  /-- The lines that were appended to the report. -/
  entries : List ReportEntry

/-- The findings of a block in source coordinates, new or not. -/
def LintedBlock.mapped (l : LintedBlock) (e : Engine σ) : List Diagnostic :=
  l.findings.map (Diagnostic.ofFinding l.block.source (e.offset l.block))

/-- These blocks go through one after the other. -/
inductive Lints (e : Engine σ) (document : Text) :
    DocumentState → Session σ → List LintedBlock → DocumentState → Session σ → Prop
  | nil {state : DocumentState} {s : Session σ} : Lints e document state s [] state s
  | cons {state kept entered state' : DocumentState} {s t u : Session σ} {l : LintedBlock}
      {ls : List LintedBlock} :
      e.verdict l.block.document (e.callFor l.block s) = .ok l.findings →
      state.record l.block (e.offset l.block) l.findings = (l.fresh, kept) →
      entriesOf s.disk document l.block.source l.fresh kept = (l.entries, entered) →
      (e.called l.block s).appendAll l.entries = (.ok (), t) →
      Lints e document entered t ls state' u →
      Lints e document state s (l :: ls) state' u

/-- What comes behind the blocks that went through: the blocks that are left, the session before and
the session at the end. -/
inductive Ends (e : Engine σ) :
    List CodeBlock → Session σ → Except LintError Unit → Session σ → Prop
  | done {s : Session σ} : Ends e [] s (.ok ()) s
  | failed {b : CodeBlock} {bs : List CodeBlock} {s : Session σ} {err : LintError} :
      e.verdict b.document (e.callFor b s) = .error err →
      Ends e (b :: bs) s (.error err) (e.called b s)
  | unwritten {b : CodeBlock} {bs : List CodeBlock} {s t : Session σ} {findings : List Finding}
      {entries : List ReportEntry} {fault : Fault} :
      e.verdict b.document (e.callFor b s) = .ok findings →
      (e.called b s).appendAll entries = (.error (.report fault), t) →
      Ends e (b :: bs) s (.error (.report fault)) t

end Engine

namespace Session

variable {σ : Type}

/-- An entry is appended to the disk and to the counts, or it cannot be written. -/
theorem append_cases (s : Session σ) (entry : ReportEntry) :
    (∃ disk, s.report.writeEntry s.disk entry = .ok disk ∧
        s.append entry = (.ok (), { s with report := s.report.count entry, disk })) ∨
      ∃ fault, s.append entry =
        (.error (.report fault), { s with report := s.report.count entry }) := by
  unfold append
  cases s.report.writeEntry s.disk entry with
  | error fault => exact .inr ⟨fault, rfl⟩
  | ok disk => exact .inl ⟨disk, rfl, rfl⟩

/-- Appending fails only because the report's file cannot be written. -/
theorem appendAll_eq_error {entries : List ReportEntry} {s t : Session σ} {err : LintError}
    (h : s.appendAll entries = (.error err, t)) : ∃ fault, err = .report fault := by
  induction entries generalizing s with
  | nil => simp [appendAll] at h
  | cons entry entries ih =>
    rw [appendAll] at h
    rcases s.append_cases entry with ⟨disk, -, happend⟩ | ⟨fault, happend⟩
    · rw [happend] at h
      exact ih h
    · rw [happend] at h
      exact ⟨fault, (Except.error.inj (Prod.mk.inj h).1).symm⟩

/-- What entries that were appended to the report leave behind: they were written one after the other,
and their diagnostics were counted. -/
structure Appended (s : Session σ) (entries : List ReportEntry) (t : Session σ) : Prop where
  written : entries.foldlM s.report.writeEntry s.disk = .ok t.disk
  file : t.report.file = s.report.file
  counted : t.report.diagnostics =
    s.report.diagnostics + (entries.filterMap ReportEntry.diagnostic?).length

theorem Appended.nil {s t : Session σ} (hdisk : t.disk = s.disk) (hreport : t.report = s.report) :
    s.Appended [] t := by
  refine ⟨?_, by rw [hreport], by rw [hreport]; rfl⟩
  rw [hdisk]
  rfl

/-- Only its file decides how a report is written. -/
theorem writeEntry_congr {r r' : Report} (h : r'.file = r.file) : r'.writeEntry = r.writeEntry := by
  funext d entry
  rw [Report.writeEntry, Report.writeEntry, h]

theorem Appended.trans {s t u : Session σ} {first second : List ReportEntry}
    (h : s.Appended first t) (h' : t.Appended second u) : s.Appended (first ++ second) u := by
  refine ⟨?_, h'.file.trans h.file, ?_⟩
  · rw [List.foldlM_append, h.written, ← writeEntry_congr h.file]
    exact h'.written
  · rw [h'.counted, h.counted, List.filterMap_append, List.length_append, Nat.add_assoc]

/-- Writing goes on behind the first entry if that was written. -/
theorem foldlM_cons_eq_ok {f : Disk → ReportEntry → Except Fault Disk} {d d' : Disk}
    {entry : ReportEntry} {entries : List ReportEntry}
    (h : (entry :: entries).foldlM f d = .ok d') :
    ∃ between, f d entry = .ok between ∧ entries.foldlM f between = .ok d' := by
  rw [List.foldlM_cons] at h
  cases hfirst : f d entry with
  | error fault =>
    rw [hfirst] at h
    simp [bind, Except.bind] at h
  | ok between =>
    rw [hfirst] at h
    exact ⟨between, rfl, h⟩

/-- Writing entries does not change the current directory. -/
theorem cwd_of_foldlM_writeEntry {r : Report} {entries : List ReportEntry} {d d' : Disk}
    (h : entries.foldlM r.writeEntry d = .ok d') : d'.cwd = d.cwd := by
  induction entries generalizing d with
  | nil => rw [Except.ok.inj h]
  | cons entry entries ih =>
    obtain ⟨between, hfirst, hrest⟩ := foldlM_cons_eq_ok h
    rw [ih hrest]
    unfold Report.writeEntry at hfirst
    split at hfirst
    · rw [Except.ok.inj hfirst]
    · exact Disk.update?_cwd hfirst

theorem Appended.cwd {s t : Session σ} {entries : List ReportEntry} (h : s.Appended entries t) :
    t.disk.cwd = s.disk.cwd := cwd_of_foldlM_writeEntry h.written

/-- The session at the end of a document with a result: the document is counted if it has
diagnostics. -/
def close (s : Session σ) (r : DocumentResult) : Session σ :=
  if r.hasDiagnostics then { s with report := s.report.documentFailed } else s

@[simp] theorem close_interpreters (s : Session σ) (r : DocumentResult) :
    (s.close r).interpreters = s.interpreters := by
  unfold close
  split <;> rfl

@[simp] theorem close_tools (s : Session σ) (r : DocumentResult) :
    (s.close r).tools = s.tools := by
  unfold close
  split <;> rfl

@[simp] theorem close_documents (s : Session σ) (r : DocumentResult) :
    (s.close r).report.documents =
      s.report.documents + if r.hasDiagnostics then 1 else 0 := by
  unfold close
  split <;> rfl

theorem Appended.close {s t : Session σ} {entries : List ReportEntry} (h : s.Appended entries t)
    (r : DocumentResult) : s.Appended entries (t.close r) := by
  unfold Session.close
  split
  · exact ⟨h.written, h.file, h.counted⟩
  · exact h

@[simp] theorem close_diagnostics (s : Session σ) (r : DocumentResult) :
    (s.close r).report.diagnostics = s.report.diagnostics := by
  unfold close
  split <;> rfl

theorem appended_of_appendAll {entries : List ReportEntry} {s t : Session σ}
    (h : s.appendAll entries = (.ok (), t)) :
    s.Appended entries t ∧ t.report.documents = s.report.documents := by
  induction entries generalizing s with
  | nil =>
    obtain rfl := (Prod.mk.inj h).2
    exact ⟨.nil rfl rfl, rfl⟩
  | cons entry entries ih =>
    rw [appendAll] at h
    rcases s.append_cases entry with ⟨disk, hwrite, happend⟩ | ⟨fault, happend⟩
    · rw [happend] at h
      obtain ⟨hrest, hdocuments⟩ := ih h
      have hfirst : s.Appended [entry] { s with report := s.report.count entry, disk } := by
        refine ⟨?_, rfl, ?_⟩
        · rw [List.foldlM_cons, hwrite]
          rfl
        · show s.report.diagnostics + entry.diagnostic?.toList.length = _
          cases entry <;> rfl
      exact ⟨hfirst.trans hrest, hdocuments⟩
    · rw [happend] at h
      simp at h

end Session

namespace Engine

variable {σ : Type} {e : Engine σ} {document : Text}

/-! ## Runs -/

theorem lintBlocks_of_error {b : CodeBlock} {s : Session σ} {err : LintError}
    (hverdict : e.verdict b.document (e.callFor b s) = .error err) (bs : List CodeBlock)
    (state : DocumentState) :
    e.lintBlocks document (b :: bs) state s = (.error err, e.called b s) := by
  rw [lintBlocks, lintBlock_eq, hverdict]
  rfl

section OneBlock

variable {b : CodeBlock} {state kept entered : DocumentState} {s t : Session σ}
  {findings : List Finding} {fresh : List Diagnostic} {entries : List ReportEntry}
  (hverdict : e.verdict b.document (e.callFor b s) = .ok findings)
  (hrecord : state.record b (e.offset b) findings = (fresh, kept))
  (hentries : entriesOf s.disk document b.source fresh kept = (entries, entered))
include hverdict hrecord hentries

theorem lintBlocks_of_unwritten {err : LintError}
    (happend : (e.called b s).appendAll entries = (.error err, t)) (bs : List CodeBlock) :
    e.lintBlocks document (b :: bs) state s = (.error err, t) := by
  rw [lintBlocks, lintBlock_eq, hverdict]
  simp only [Except.map, called_disk, hrecord, hentries, happend]

theorem lintBlocks_of_written (happend : (e.called b s).appendAll entries = (.ok (), t))
    (bs : List CodeBlock) :
    e.lintBlocks document (b :: bs) state s =
      ((e.lintBlocks document bs entered t).1.map (entries ++ ·),
        (e.lintBlocks document bs entered t).2) := by
  rw [lintBlocks, lintBlock_eq, hverdict]
  simp only [Except.map, called_disk, hrecord, hentries, happend]
  rcases e.lintBlocks document bs entered t with ⟨rest, u⟩
  cases rest <;> rfl

end OneBlock

/-- Linting blocks that go through gives their lines. -/
theorem Lints.lintBlocks_eq {state state' : DocumentState} {s u : Session σ}
    {ls : List LintedBlock} (h : e.Lints document state s ls state' u) :
    e.lintBlocks document (ls.map LintedBlock.block) state s =
      (.ok (ls.flatMap LintedBlock.entries), u) := by
  induction h with
  | nil => rfl
  | cons hverdict hrecord hentries happend _ ih =>
    rw [List.map_cons, lintBlocks_of_written hverdict hrecord hentries happend, ih,
      List.flatMap_cons]
    rfl

/-- Linting blocks is a run of blocks that go through, and an end. The induction is on the blocks;
the first of them is either a step or the end. -/
theorem exists_lints (e : Engine σ) (document : Text) (bs : List CodeBlock)
    (state : DocumentState) (s : Session σ) :
    ∃ ls state' u left ending t, e.Lints document state s ls state' u ∧
      bs = ls.map LintedBlock.block ++ left ∧ e.Ends left u ending t ∧
      e.lintBlocks document bs state s =
        (ending.map fun _ => ls.flatMap LintedBlock.entries, t) := by
  induction bs generalizing state s with
  | nil => exact ⟨[], state, s, [], .ok (), s, .nil, rfl, .done, rfl⟩
  | cons b bs ih =>
    cases hverdict : e.verdict b.document (e.callFor b s) with
    | error err =>
      exact ⟨[], state, s, b :: bs, .error err, _, .nil, rfl, .failed hverdict,
        lintBlocks_of_error hverdict bs state⟩
    | ok findings =>
      rcases hrecord : state.record b (e.offset b) findings with ⟨fresh, kept⟩
      rcases hentries : entriesOf s.disk document b.source fresh kept with ⟨entries, entered⟩
      rcases happend : (e.called b s).appendAll entries with ⟨written, t⟩
      cases written with
      | error err =>
        obtain ⟨fault, rfl⟩ := Session.appendAll_eq_error happend
        exact ⟨[], state, s, b :: bs, _, t, .nil, rfl, .unwritten hverdict happend,
          lintBlocks_of_unwritten hverdict hrecord hentries happend bs⟩
      | ok _ =>
        obtain ⟨ls, state', u, left, ending, t', hlints, hsplit, hends, heq⟩ := ih entered t
        refine ⟨⟨b, findings, fresh, entries⟩ :: ls, state', u, left, ending, t',
          .cons hverdict hrecord hentries happend hlints, by simp [hsplit], hends, ?_⟩
        rw [lintBlocks_of_written hverdict hrecord hentries happend, heq]
        cases ending <;> rfl

/-- What the blocks that went through appended to the report. -/
theorem Lints.appended {state state' : DocumentState} {s u : Session σ} {ls : List LintedBlock}
    (h : e.Lints document state s ls state' u) :
    s.Appended (ls.flatMap LintedBlock.entries) u ∧ u.report.documents = s.report.documents := by
  induction h with
  | nil => exact ⟨.nil rfl rfl, rfl⟩
  | @cons _ _ _ _ s t u l ls _ _ _ happend _ ih =>
    obtain ⟨hlines, hdocuments⟩ := Session.appended_of_appendAll happend
    have hcalled : s.Appended [] (e.called l.block s) := .nil (by simp) (by simp)
    rw [List.flatMap_cons]
    refine ⟨(hcalled.trans hlines).trans ih.1, ?_⟩
    rw [ih.2, hdocuments, called_report]

/-! ## Documents -/

/-- What the user is told before the blocks of a document are linted. -/
def opening (e : Engine σ) (path : Path) (content : Text) (d : Disk) : List Notice :=
  let found := e.scanner.scan d path content
  found.2 ++ [.info .linting
    (path.text ++ ": ".toList ++ Text.ofNat found.1.length ++ " shell block(s)".toList)]

/-- Linting a document in terms of linting its blocks. -/
theorem lintDocument_eq (e : Engine σ) (path : Path) (content : Text) (s : Session σ) :
    e.lintDocument path content s =
      match e.lintBlocks path.text (e.scanner.scan s.disk path content).1 {}
          (s.tell (e.opening path content s.disk)) with
      | (.error err, t) => (.error err, t)
      | (.ok entries, t) =>
        let r : DocumentResult := ⟨path, (e.scanner.scan s.disk path content).1.length, entries⟩
        (.ok r, t.close r) := by
  unfold lintDocument opening
  rcases e.scanner.scan s.disk path content with ⟨blocks, ns⟩
  rfl

/-- The blocks of a document that went through, and how the document ended: with a result that holds
all their lines, or with an error at the next block. -/
theorem lintDocument_cases (e : Engine σ) (path : Path) (content : Text) (s : Session σ) :
    ∃ ls state u,
      e.Lints path.text {} (s.tell (e.opening path content s.disk)) ls state u ∧
      (((e.scanner.scan s.disk path content).1 = ls.map LintedBlock.block ∧
          ∃ r : DocumentResult, r.entries = ls.flatMap LintedBlock.entries ∧
            e.lintDocument path content s = (.ok r, u.close r)) ∨
        ∃ b left err t,
          (e.scanner.scan s.disk path content).1 = ls.map LintedBlock.block ++ b :: left ∧
          e.Ends (b :: left) u (.error err) t ∧
          e.lintDocument path content s = (.error err, t)) := by
  rw [lintDocument_eq]
  obtain ⟨ls, state, u, left, ending, t, hlints, hsplit, hends, heq⟩ :=
    e.exists_lints path.text (e.scanner.scan s.disk path content).1 {}
      (s.tell (e.opening path content s.disk))
  refine ⟨ls, state, u, hlints, ?_⟩
  rw [heq]
  cases hends with
  | done =>
    rw [List.append_nil] at hsplit
    exact .inl ⟨hsplit, _, rfl, rfl⟩
  | @failed b left _ err hverdict => exact .inr ⟨b, left, err, _, hsplit, .failed hverdict, rfl⟩
  | @unwritten b left _ _ _ _ fault hverdict happend =>
    exact .inr ⟨b, left, .report fault, t, hsplit, .unwritten hverdict happend, rfl⟩

end Engine
end TranscriptLint
