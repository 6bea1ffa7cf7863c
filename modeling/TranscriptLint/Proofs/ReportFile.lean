import Mathlib.Algebra.GroupWithZero.Nat
import TranscriptLint.Proofs.Colours
import TranscriptLint.Proofs.LinterCalls

namespace TranscriptLint

/-! # The report of a run

Documents are linted one after the other into one report. The report keeps two counts and a file, and
every document has a result of its own; they all speak of the same lines.

* `Session.Appended.holds`: the file of a report grows by the lines that are appended.
* `Engine.lintEach` lints any documents in turn. One that fails does not stop those behind it.
* `Engine.added` are the lines that a document adds. `Engine.appended_added` says that they were
  appended, and `Engine.appended_lintEach` says so for a run.
* `Engine.report_agrees_with_results`: file, counts and results after a run.
-/

/-! ## The file of a report -/

/-- Report lines as a text, each ended by a line feed. -/
def reportText (entries : List ReportEntry) : Text :=
  entries.flatMap fun entry => entry.text ++ ['\n']

theorem utf8_reportText_append (first second : List ReportEntry) :
    (reportText (first ++ second)).utf8 = (reportText first).utf8 ++ (reportText second).utf8 := by
  rw [reportText, List.flatMap_append]
  exact List.flatMap_append ..

/-- An entry is written at the end of the file. -/
theorem Disk.Holds.writeEntry {r : Report} {file : Path} {d d' : Disk} {content : List UInt8}
    {entry : ReportEntry} (h : d.Holds file content) (hfile : r.file = some file)
    (hwrite : r.writeEntry d entry = .ok d') :
    d'.Holds file (content ++ (reportText [entry]).utf8) := by
  rw [Report.writeEntry, hfile] at hwrite
  have hone : reportText [entry] = entry.text ++ ['\n'] := List.append_nil _
  rw [hone]
  exact h.update? hwrite

/-- The file of a report grows by the lines that are appended. -/
theorem Session.Appended.holds {σ : Type} {s t : Session σ} {entries : List ReportEntry}
    {file : Path} {content : List UInt8} (h : s.Appended entries t)
    (hfile : s.report.file = some file) (hheld : s.disk.Holds file content) :
    t.disk.Holds file (content ++ (reportText entries).utf8) := by
  obtain ⟨hwritten, -, -⟩ := h
  -- by induction on the entries, with whatever the file holds before the first of them
  generalize s.disk = d at hwritten hheld
  induction entries generalizing d content with
  | nil =>
    rw [← Except.ok.inj hwritten]
    simpa [reportText, Text.utf8] using hheld
  | cons entry entries ih =>
    obtain ⟨d', hfirst, hrest⟩ := foldlM_cons_eq_ok hwritten
    have hgrown := ih d' hrest (hheld.writeEntry hfile hfirst)
    rw [List.append_assoc, ← utf8_reportText_append] at hgrown
    exact hgrown

/-- A new report is written as an empty file behind whatever directories had to be made. -/
theorem Report.create_eq_ok {d disk : Disk} {file : Path} {r : Report}
    (h : Report.create d file = .ok (r, disk)) :
    r = { file := some file } ∧ ∃ above : Disk, above.write? file [] = .ok disk := by
  -- the file is written last, on the disk with the directories above it
  have hlast : ∀ above : Disk, (above.write? file []).bind
      (fun disk' => .ok (({ file := some file } : Report), disk')) = .ok (r, disk) →
      r = { file := some file } ∧ above.write? file [] = .ok disk := by
    intro above habove
    cases hwrite : above.write? file [] with
    | error fault =>
      rw [hwrite] at habove
      simp [Except.bind] at habove
    | ok disk' =>
      rw [hwrite] at habove
      obtain ⟨hr, hdisk⟩ := Prod.mk.inj (Except.ok.inj habove)
      exact ⟨hr.symm, by rw [hdisk]⟩
  unfold Report.create at h
  simp only [bind, Except.bind, pure, Except.pure] at h
  split at h
  · split at h
    · exact ⟨(hlast d h).1, d, (hlast d h).2⟩
    · split at h
      · simp at h
      · next above _ => exact ⟨(hlast above h).1, above, (hlast above h).2⟩
  · exact ⟨(hlast d h).1, d, (hlast d h).2⟩

/-- The file of a new report is an empty regular file, unless its path leads to a device. -/
theorem Report.holds_of_create {d disk : Disk} {file : Path} {r : Report}
    (h : Report.create d file = .ok (r, disk)) :
    (disk.isFile file = true ∨ disk.entry? file = some .nullDevice ∨
        disk.entry? file = some .fullDevice) ∧
      (disk.isFile file = true → disk.Holds file []) := by
  obtain ⟨-, above, hwrite⟩ := create_eq_ok h
  rcases Disk.holds_of_write? hwrite with hheld | ⟨rfl, hdevice⟩
  · exact ⟨.inl hheld.isFile, fun _ => hheld⟩
  · -- a device takes an empty text and stays what it is
    refine ⟨.inr hdevice, ?_⟩
    intro hregular
    rcases hdevice with hnull | hfull
    · simp [Disk.isFile, hnull, Entry.isFile] at hregular
    · simp [Disk.isFile, hfull, Entry.isFile] at hregular

/-! ## The lines as they are shown -/

/-- What is shown for lines is what is written for them, up to the last line feed. -/
theorem reportText_eq_joinWith {entries : List ReportEntry} (h : entries ≠ []) :
    reportText entries = Text.joinWith "\n".toList (entries.map ReportEntry.text) ++ ['\n'] := by
  have hlines : entries.map ReportEntry.text ≠ [] := by simpa using h
  rw [reportText, ← List.flatMap_map ReportEntry.text (· ++ ['\n'])]
  exact (Text.intercalate_append_sep "\n".toList hlines).symm

/-- The lines of several results are what is shown for those that have lines, each with a line
feed behind it. -/
theorem reportText_flatMap_entries (results : List DocumentResult) :
    reportText (results.flatMap DocumentResult.entries) =
      (results.filter fun r => !r.entries.isEmpty).flatMap fun r =>
        Render.text false r ++ ['\n'] := by
  induction results with
  | nil => rfl
  | cons r results ih =>
    rw [List.flatMap_cons, reportText, List.flatMap_append]
    change reportText r.entries ++ reportText (results.flatMap DocumentResult.entries) = _
    rw [ih, List.filter_cons]
    by_cases hempty : r.entries = []
    · simp [hempty, reportText]
    · have hfirst : reportText r.entries = Render.text false r ++ ['\n'] := by
        rw [reportText_eq_joinWith hempty, Render.text, Render.entry_false]
      rw [hfirst]
      simp [hempty]

/-! ## Runs over documents -/

/-- A document that is to be linted: with a text that is given, or as its file is. -/
structure Request where
  path : Path
  content : Option Text := none

/-- What became of a document. -/
structure Answered where
  outcome : Except LintError DocumentResult
  /-- The lines that were appended to the report. -/
  entries : List ReportEntry

/-- Whether a document is counted as one with diagnostics: it has a result, with a diagnostic. -/
def Answered.isCounted (a : Answered) : Bool :=
  match a.outcome with
  | .ok r => r.hasDiagnostics
  | .error _ => false

namespace Engine

variable {σ : Type}

/-- Lints a requested document. -/
def lintRequest (e : Engine σ) (q : Request) (s : Session σ) :
    Except LintError DocumentResult × Session σ :=
  match q.content with
  | some content => e.lintDocument q.path content s
  | none => e.lintFile q.path s

/-- The lines that a document appends to the report: those of its result. If it fails, the lines that
the blocks before the one that failed append on their own. -/
def added (e : Engine σ) (path : Path) (content : Text) (s : Session σ) : List ReportEntry :=
  match (e.lintDocument path content s).1 with
  | .ok r => r.entries
  | .error _ =>
    let before := (e.scanner.scan s.disk path content).1.take
      ((e.calls path content s).length - 1)
    match (e.lintBlocks path.text before {} (s.tell (e.opening path content s.disk))).1 with
    | .ok entries => entries
    | .error _ => []

/-- The lines that a requested document appends to the report. -/
def addedBy (e : Engine σ) (q : Request) (s : Session σ) : List ReportEntry :=
  match q.content with
  | some content => e.added q.path content s
  | none =>
    match s.disk.readText? q.path with
    | .ok content => e.added q.path content s
    | .error _ => []

/-- Lints documents in turn, also behind those that fail. -/
def lintEach (e : Engine σ) : List Request → Session σ → List Answered × Session σ
  | [], s => ([], s)
  | q :: qs, s =>
    let first := e.lintRequest q s
    let rest := e.lintEach qs first.2
    (⟨first.1, e.addedBy q s⟩ :: rest.1, rest.2)

/-- A document is linted with some text, or it cannot be read and nothing happens. -/
theorem lintRequest_cases (e : Engine σ) (q : Request) (s : Session σ) :
    (∃ content, e.lintRequest q s = e.lintDocument q.path content s ∧
        e.addedBy q s = e.added q.path content s) ∨
      ∃ fault, e.lintRequest q s = (.error (.unreadable q.path fault), s) ∧ e.addedBy q s = [] := by
  unfold lintRequest addedBy
  cases q.content with
  | some content => exact .inl ⟨content, rfl, rfl⟩
  | none =>
    simp only [lintFile]
    cases s.disk.readText? q.path with
    | ok content => exact .inl ⟨content, rfl, rfl⟩
    | error fault => exact .inr ⟨fault, rfl, rfl⟩

theorem added_of_ok {e : Engine σ} {path : Path} {content : Text} {s : Session σ}
    {r : DocumentResult} (h : (e.lintDocument path content s).1 = .ok r) :
    e.added path content s = r.entries := by
  rw [added, h]

/-- The lines that a document adds were appended, and a document with a result that has a diagnostic
was counted. -/
theorem appended_added (e : Engine σ) (path : Path) (content : Text) (s : Session σ)
    (hwritten : ∀ fault, (e.lintDocument path content s).1 ≠ .error (.report fault)) :
    s.Appended (e.added path content s) (e.lintDocument path content s).2 ∧
      (e.lintDocument path content s).2.report.documents = s.report.documents +
        if Answered.isCounted ⟨(e.lintDocument path content s).1, e.added path content s⟩
          then 1 else 0 := by
  obtain ⟨ls, state, u, made, hlints, hmade, hend⟩ := e.calls_cases path content s
  obtain ⟨happended, hdocuments⟩ := hlints.appended
  have hlines : s.Appended (ls.flatMap LintedBlock.entries) u :=
    ⟨happended.written, happended.file, happended.counted⟩
  have hbefore : u.report.documents = s.report.documents := hdocuments
  rcases hend with ⟨-, -, r, hentries, houtcome⟩ |
      ⟨b, left, c, err, hblocks, hcalls, -, herror, ⟨-, hdisk, hreport⟩ | ⟨-, fault, rfl⟩⟩
  · have hadded : e.added path content s = ls.flatMap LintedBlock.entries :=
      (added_of_ok (congrArg Prod.fst houtcome)).trans hentries
    rw [hadded, houtcome, Session.close_documents, hbefore]
    exact ⟨hlines.close r, rfl⟩
  · -- the blocks before the failed one go through on their own
    have htake : (e.scanner.scan s.disk path content).1.take
        ((e.calls path content s).length - 1) = ls.map LintedBlock.block := by
      rw [hblocks, hcalls, List.length_append, List.length_singleton, Nat.add_sub_cancel,
        ← hmade.length_eq, ← List.length_map LintedBlock.block, List.take_left]
    have hadded : e.added path content s = ls.flatMap LintedBlock.entries := by
      unfold added
      simp only [herror, htake, hlints.lintBlocks_eq]
    have hleft := hlines.trans (.nil hdisk hreport)
    rw [List.append_nil] at hleft
    rw [hadded, herror, hreport, hbefore]
    exact ⟨hleft, rfl⟩
  · exact absurd herror (hwritten fault)

/-- The same for a requested document. -/
theorem appended_addedBy (e : Engine σ) (q : Request) (s : Session σ)
    (hwritten : ∀ fault, (e.lintRequest q s).1 ≠ .error (.report fault)) :
    s.Appended (e.addedBy q s) (e.lintRequest q s).2 ∧
      (e.lintRequest q s).2.report.documents = s.report.documents +
        if Answered.isCounted ⟨(e.lintRequest q s).1, e.addedBy q s⟩ then 1 else 0 := by
  rcases e.lintRequest_cases q s with ⟨content, hlint, hadded⟩ | ⟨fault, hlint, hadded⟩
  · rw [hlint] at hwritten ⊢
    rw [hadded]
    exact e.appended_added q.path content s hwritten
  · rw [hlint, hadded]
    exact ⟨.nil rfl rfl, rfl⟩

/-! ## Whole runs -/

theorem lintEach_append (e : Engine σ) (first second : List Request) (s : Session σ) :
    e.lintEach (first ++ second) s =
      ((e.lintEach first s).1 ++ (e.lintEach second (e.lintEach first s).2).1,
        (e.lintEach second (e.lintEach first s).2).2) := by
  induction first generalizing s with
  | nil => rfl
  | cons q first ih =>
    rw [List.cons_append, lintEach, lintEach, ih]
    rfl

/-- The lines of all documents of a run were appended one after the other, and the documents with
diagnostics were counted. -/
theorem appended_lintEach (e : Engine σ) (qs : List Request) (s : Session σ)
    (hwritten : ∀ a ∈ (e.lintEach qs s).1, ∀ fault, a.outcome ≠ .error (.report fault)) :
    s.Appended ((e.lintEach qs s).1.flatMap Answered.entries) (e.lintEach qs s).2 ∧
      (e.lintEach qs s).2.report.documents =
        s.report.documents + (e.lintEach qs s).1.countP Answered.isCounted := by
  induction qs generalizing s with
  | nil => exact ⟨.nil rfl rfl, rfl⟩
  | cons q qs ih =>
    -- what the first document leaves is where the others start
    rw [lintEach] at hwritten ⊢
    simp only [List.forall_mem_cons, List.flatMap_cons, List.countP_cons] at hwritten ⊢
    obtain ⟨hfirst, hdocuments⟩ := e.appended_addedBy q s hwritten.1
    obtain ⟨hrest, hdocuments'⟩ := ih (e.lintRequest q s).2 hwritten.2
    refine ⟨hfirst.trans hrest, ?_⟩
    rw [hdocuments', hdocuments]
    omega

/-- A document with a result adds the lines of the result. -/
theorem entries_of_mem_lintEach {e : Engine σ} {qs : List Request} {s : Session σ} {a : Answered}
    (ha : a ∈ (e.lintEach qs s).1) {r : DocumentResult} (hr : a.outcome = .ok r) :
    a.entries = r.entries := by
  induction qs generalizing s with
  | nil => simp [lintEach] at ha
  | cons q qs ih =>
    rcases List.mem_cons.mp ha with rfl | hrest
    · rcases e.lintRequest_cases q s with ⟨content, hlint, hadded⟩ | ⟨fault, hlint, -⟩
      · have hresult : (e.lintDocument q.path content s).1 = .ok r := by
          rw [← hlint]
          exact hr
        exact hadded.trans (added_of_ok hresult)
      · have hresult : (e.lintRequest q s).1 = .ok r := hr
        rw [hlint] at hresult
        simp at hresult
    · exact ih hrest

/-- If all documents have results, the lines of a run are those of the results. -/
theorem flatMap_entries_of_results {answers : List Answered} {results : List DocumentResult}
    (hentries : ∀ a ∈ answers, ∀ r, a.outcome = .ok r → a.entries = r.entries)
    (hresults : answers.map Answered.outcome = results.map .ok) :
    answers.flatMap Answered.entries = results.flatMap DocumentResult.entries := by
  induction answers generalizing results with
  | nil =>
    obtain rfl := List.map_eq_nil_iff.mp hresults.symm
    rfl
  | cons a answers ih =>
    cases results with
    | nil => simp at hresults
    | cons r results =>
      obtain ⟨hfirst, hrest⟩ := List.cons.inj hresults
      rw [List.flatMap_cons, List.flatMap_cons, hentries a (List.mem_cons_self ..) r hfirst,
        ih (fun a' ha' => hentries a' (List.mem_cons_of_mem _ ha')) hrest]

/-- The file of the report after a run that started with an empty file. -/
theorem holds_lintEach {e : Engine σ} {qs : List Request} {s : Session σ} {file : Path}
    (hfile : s.report.file = some file) (hheld : s.disk.Holds file [])
    (hwritten : ∀ a ∈ (e.lintEach qs s).1, ∀ fault, a.outcome ≠ .error (.report fault)) :
    (e.lintEach qs s).2.disk.read? file =
      .ok (reportText ((e.lintEach qs s).1.flatMap Answered.entries)).utf8 :=
  ((e.appended_lintEach qs s hwritten).1.holds hfile hheld).read?

/-- Each document leaves what was in the file before it. -/
theorem prefix_lintEach {e : Engine σ} {before : List Request} {q : Request} {s : Session σ}
    {file : Path} (hfile : s.report.file = some file) (hheld : s.disk.Holds file [])
    (hwritten : ∀ a ∈ (e.lintEach (before ++ [q]) s).1, ∀ fault,
      a.outcome ≠ .error (.report fault)) :
    ∃ old new, (e.lintEach before s).2.disk.read? file = .ok old ∧
      (e.lintEach (before ++ [q]) s).2.disk.read? file = .ok new ∧ old <+: new := by
  have hafter := holds_lintEach hfile hheld hwritten
  rw [lintEach_append] at hwritten
  have hbefore := holds_lintEach hfile hheld fun a ha => hwritten a (List.mem_append_left _ ha)
  refine ⟨_, _, hbefore, hafter, ?_⟩
  rw [lintEach_append, List.flatMap_append, utf8_reportText_append]
  exact List.prefix_append ..

/-- **Report and results.** Documents are linted into a new report, some of which may fail, and all
lines can be written. If the file of the report is a regular file, no document takes anything out of
it, and at the end it holds the lines of all documents in order. The report counts the diagnostics
among these lines, also those of failed documents, and the documents with a result that has one, and
it is clean if there are none. Without a failed document the file is what is shown for the documents
that have lines, and the diagnostics are those of the results. -/
theorem report_agrees_with_results (e : Engine σ) (d : Disk) (file : Path) (s : Session σ)
    (qs : List Request) (hcreate : Report.create d file = .ok (s.report, s.disk))
    (hwritten : ∀ a ∈ (e.lintEach qs s).1, ∀ fault, a.outcome ≠ .error (.report fault)) :
    let answers := (e.lintEach qs s).1
    let t := (e.lintEach qs s).2
    let entries := answers.flatMap Answered.entries
    (s.disk.isFile file = true ∨ s.disk.entry? file = some .nullDevice ∨
      s.disk.entry? file = some .fullDevice) ∧
    (∀ a ∈ answers, ∀ r, a.outcome = .ok r → a.entries = r.entries) ∧
    (s.disk.isFile file = true →
      (∀ before q after, qs = before ++ q :: after → ∃ old new,
        (e.lintEach before s).2.disk.read? file = .ok old ∧
        (e.lintEach (before ++ [q]) s).2.disk.read? file = .ok new ∧ old <+: new) ∧
      t.disk.read? file = .ok (reportText entries).utf8) ∧
    t.report.diagnostics = (entries.filterMap ReportEntry.diagnostic?).length ∧
    t.report.documents = answers.countP Answered.isCounted ∧
    (t.report.isClean = true ↔ ∀ entry ∈ entries, entry.diagnostic? = none) ∧
    ∀ results : List DocumentResult, answers.map Answered.outcome = results.map .ok →
      (s.disk.isFile file = true → t.disk.read? file =
        .ok (Text.utf8 ((results.filter fun r => !r.entries.isEmpty).flatMap fun r =>
          Render.text false r ++ ['\n']))) ∧
      t.report.diagnostics = (results.map fun r => r.diagnostics.length).sum := by
  intro answers t entries
  obtain ⟨hreport, -⟩ := Report.create_eq_ok hcreate
  obtain ⟨hkind, hheld⟩ := Report.holds_of_create hcreate
  obtain ⟨happended, hdocuments⟩ := e.appended_lintEach qs s hwritten
  have hnamed : s.report.file = some file := by rw [hreport]
  have hcounted : t.report.diagnostics = (entries.filterMap ReportEntry.diagnostic?).length := by
    rw [happended.counted, hreport, Nat.zero_add]
  have hentries : ∀ a ∈ answers, ∀ r, a.outcome = .ok r → a.entries = r.entries :=
    fun a ha r => entries_of_mem_lintEach ha
  refine ⟨hkind, hentries, ?_, hcounted, ?_, ?_, ?_⟩
  · intro hregular
    refine ⟨?_, holds_lintEach hnamed (hheld hregular) hwritten⟩
    rintro before q after rfl
    -- a run over some of the documents has the answers of the whole run
    apply prefix_lintEach hnamed (hheld hregular)
    intro a ha
    apply hwritten
    rw [← List.singleton_append, ← List.append_assoc, lintEach_append]
    exact List.mem_append_left _ ha
  · rw [hdocuments, hreport, Nat.zero_add]
  · rw [Report.isClean, hcounted, beq_iff_eq, List.length_eq_zero_iff, List.filterMap_eq_nil_iff]
  · intro results hresults
    have hsame : entries = results.flatMap DocumentResult.entries :=
      flatMap_entries_of_results hentries hresults
    refine ⟨?_, ?_⟩
    · intro hregular
      rw [← reportText_flatMap_entries, ← hsame]
      exact holds_lintEach hnamed (hheld hregular) hwritten
    · rw [hcounted, hsame, List.filterMap_flatMap, List.length_flatMap]
      rfl

/-- A document with a diagnostic, one that fails at its second block, and one that is not there. -/
theorem report_agrees_with_results_failed :
    let e : Engine Nat :=
      { scanner := ⟨Dialect.all, 8, []⟩, prompt := '$', interpreter := fun _ d => (.viaEnv d, [])
        lint := fun _ _ _ n =>
          (.ok ⟨if n < 2 then "[[2,1,1,\"m\"]]".toList else "oops".toList, [], 0⟩, n + 1) }
    let d : Disk := ⟨[], []⟩
    let file := Path.ofString "/out/report"
    let s : Session Nat :=
      { report := { file := some file }, tools := 0
        disk := ⟨[(["out".toList], .directory),
          (["out".toList, "report".toList], .file false [])], []⟩ }
    let block := ".. code:: sh\n\n $ ls\n\n"
    let qs : List Request :=
      [⟨.ofString "a.rst", some block.toList⟩, ⟨.ofString "b.rst", some (block ++ block).toList⟩,
        ⟨.ofString "c.rst", none⟩]
    let answers := (e.lintEach qs s).1
    let t := (e.lintEach qs s).2
    Report.create d file = .ok (s.report, s.disk) ∧
      answers.map (fun a => (a.outcome.isOk, a.entries.length)) =
        [(true, 2), (false, 2), (false, 0)] ∧
      t.report.diagnostics = 2 ∧ t.report.documents = 1 ∧
      t.disk.read? file = .ok (reportText (answers.flatMap Answered.entries)).utf8 := by
  intro e d file s block qs answers t
  have hcreate : Report.create d file = .ok (s.report, s.disk) := by decide +kernel
  have hwritten : ∀ a ∈ answers, ∀ fault, a.outcome ≠ .error (.report fault) := by
    have hall : answers.all (fun a =>
        match a.outcome with
        | .error (.report _) => false
        | _ => true) = true := by decide +kernel
    intro a ha fault hfault
    have hfine := List.all_eq_true.mp hall a ha
    rw [hfault] at hfine
    simp at hfine
  obtain ⟨-, -, hfile, -⟩ := report_agrees_with_results e d file s qs hcreate hwritten
  exact ⟨hcreate, by decide +kernel, by decide +kernel, by decide +kernel,
    (hfile (by decide +kernel)).2⟩

end Engine
end TranscriptLint
