import TranscriptLint.Check
import TranscriptLint.Proofs.ReportFile

namespace TranscriptLint

/-! # The stages of a check

A check goes through four stages: it settles its options, finds the documents, starts the report and
lints the documents one after the other. The first stage that fails ends it.

* `Check.Misconfigured` lists the ways in which options cannot be used. `Check.options_eq_error_iff`
  says that there are no others.
* `Engine.LintsAll`: documents that are linted one after the other, with their results.
  `Engine.LintsAll.counts` is what they leave in the report.
* `Check.Starts` is a check whose documents can be linted, `Check.Fails` one that fails at some
  stage. `Check.fails_or_lints` says that a check fails or lints all its documents;
  `Check.Fails.outcome` and `Check.Starts.finished` say what becomes of it.
-/

variable {σ : Type}

/-! ## Documents in turn -/

/-- The result in an event. -/
def Event.result? : Event → Option DocumentResult
  | .document r => some r
  | _ => none

theorem filterMap_result?_notices (ns : List Notice) :
    (ns.map Event.notice).filterMap Event.result? = [] := by
  rw [List.filterMap_map]
  exact List.filterMap_eq_nil_iff.mpr fun _ _ => rfl

theorem CheckRun.results_eq (r : CheckRun σ) : r.results = r.events.filterMap Event.result? := by
  unfold results
  congr 1

theorem CheckRun.results_after (r : CheckRun σ) (events : List Event) :
    (r.after events).results = events.filterMap Event.result? ++ r.results := by
  rw [results_eq, results_eq, after, List.filterMap_append]

@[simp] theorem CheckRun.outcome_after (r : CheckRun σ) (events : List Event) :
    (r.after events).outcome = r.outcome := rfl

namespace Engine

/-- These documents are linted one after the other, with these results. -/
inductive LintsAll (e : Engine σ) :
    Session σ → List Path → List DocumentResult → Session σ → Prop
  | nil {s : Session σ} : LintsAll e s [] [] s
  | cons {s t u : Session σ} {p : Path} {ps : List Path} {r : DocumentResult}
      {rs : List DocumentResult} :
      e.lintFile p { s with notices := [] } = (.ok r, t) →
      LintsAll e t ps rs u →
      LintsAll e s (p :: ps) (r :: rs) u

variable {e : Engine σ} {s t : Session σ}

theorem document_of_lintDocument {p : Path} {content : Text} {r : DocumentResult}
    (h : e.lintDocument p content s = (.ok r, t)) : r.document = p := by
  rw [lintDocument_eq] at h
  split at h
  · simp at h
  · rw [← Except.ok.inj (Prod.mk.inj h).1]

/-- The result of a document names it, and its diagnostics and itself were counted. -/
theorem counts_lintFile {p : Path} {r : DocumentResult} (h : e.lintFile p s = (.ok r, t)) :
    r.document = p ∧
      t.report.diagnostics = s.report.diagnostics + r.diagnostics.length ∧
      t.report.documents = s.report.documents + if r.hasDiagnostics then 1 else 0 := by
  -- the file is a request without a text of its own
  have hlint : e.lintRequest ⟨p, none⟩ s = (.ok r, t) := h
  have hwritten : ∀ fault, (e.lintRequest ⟨p, none⟩ s).1 ≠ .error (.report fault) := by
    intro fault hfault
    rw [hlint] at hfault
    simp at hfault
  obtain ⟨happended, hdocuments⟩ := e.appended_addedBy ⟨p, none⟩ s hwritten
  rw [hlint] at happended hdocuments
  rcases e.lintRequest_cases ⟨p, none⟩ s with ⟨content, hcontent, hadded⟩ | ⟨fault, hfault, -⟩
  · rw [hlint] at hcontent
    have hentries : e.addedBy ⟨p, none⟩ s = r.entries :=
      hadded.trans (added_of_ok (congrArg Prod.fst hcontent.symm))
    rw [hentries] at happended hdocuments
    exact ⟨document_of_lintDocument hcontent.symm, happended.counted, hdocuments⟩
  · rw [hlint] at hfault
    simp at hfault

/-- Documents that were linted have one result each, and the report counts the diagnostics in the
results and the documents that have some. -/
theorem LintsAll.counts {ps : List Path} {rs : List DocumentResult} (h : e.LintsAll s ps rs t) :
    rs.map DocumentResult.document = ps ∧
      t.report.diagnostics =
        s.report.diagnostics + (rs.map fun r => r.diagnostics.length).sum ∧
      t.report.documents = s.report.documents + rs.countP DocumentResult.hasDiagnostics := by
  induction h with
  | nil => exact ⟨rfl, rfl, rfl⟩
  | cons hfile _ ih =>
    obtain ⟨hdocument, hdiagnostics, hdocuments⟩ := counts_lintFile hfile
    obtain ⟨hmap, hdiagnostics', hdocuments'⟩ := ih
    refine ⟨by rw [List.map_cons, hdocument, hmap], ?_, ?_⟩
    · rw [hdiagnostics', hdiagnostics, List.map_cons, List.sum_cons, Nat.add_assoc]
    · rw [hdocuments', hdocuments, List.countP_cons, Nat.add_assoc, Nat.add_comm (ite ..)]

end Engine

namespace Check

open Engine

/-- Behind documents that were linted, linting goes on with the others. -/
theorem lintAll_append {e : Engine σ} {s t : Session σ} {ps : List Path}
    {rs : List DocumentResult} (h : e.LintsAll s ps rs t) (others : List Path) :
    ∃ events, events.filterMap Event.result? = rs ∧
      lintAll e (ps ++ others) s =
        (events ++ (lintAll e others t).1, (lintAll e others t).2) := by
  induction h with
  | nil => exact ⟨[], rfl, rfl⟩
  | @cons s t u p ps r rs hfile _ ih =>
    -- what the first document told comes before its result
    obtain ⟨events, hresults, heq⟩ := ih
    refine ⟨t.notices.map Event.notice ++ .document r :: events, ?_, ?_⟩
    · rw [List.filterMap_append, filterMap_result?_notices, List.nil_append,
        List.filterMap_cons, hresults]
      rfl
    · rw [List.cons_append, lintAll, hfile]
      simp only [heq, List.append_assoc, List.cons_append]

/-- All documents are linted, or one fails behind others that are linted. The induction is on the
documents. -/
theorem lintsAll_or_fails (e : Engine σ) (ps : List Path) (s : Session σ) :
    (∃ rs t, e.LintsAll s ps rs t) ∨
      ∃ before p after rs t err, ps = before ++ p :: after ∧ e.LintsAll s before rs t ∧
        (e.lintFile p { t with notices := [] }).1 = .error err := by
  induction ps generalizing s with
  | nil => exact .inl ⟨[], s, .nil⟩
  | cons p ps ih =>
    rcases hfile : e.lintFile p { s with notices := [] } with ⟨outcome, t⟩
    cases outcome with
    | error err => exact .inr ⟨[], p, ps, [], s, err, rfl, .nil, by rw [hfile]⟩
    | ok r =>
      rcases ih t with ⟨rs, u, hall⟩ | ⟨before, q, after, rs, u, err, hsplit, hall, hfailed⟩
      · exact .inl ⟨r :: rs, u, .cons hfile hall⟩
      · exact .inr ⟨p :: before, q, after, r :: rs, u, err, by rw [hsplit, List.cons_append],
          .cons hfile hall, hfailed⟩

/-! ## Options -/

/-- The file of options that applies to a request. -/
def configFile (q : CheckRequest) (d : Disk) : Option Path :=
  if q.ignoreConfig then none else q.config <|> Config.discover d d.cwdPath

/-- The options of a request: those of the file, with those of the command line in their place. -/
def config (q : CheckRequest) (d : Disk) : Except ConfigError Config :=
  (Config.load d q.config q.ignoreConfig d.cwdPath).map fun loaded => loaded.1.override q.overrides

/-- The first stage of a check: options that are valid, with the linter that was found. -/
def options (h : Host σ) (e : Environment) (q : CheckRequest) (d : Disk) (s : σ) :
    Except ConfigError ValidConfig × σ :=
  match config q d with
  | .error err => (.error err, s)
  | .ok c => c.validate h d e s

/-- What is told about the file of options. -/
def loading (q : CheckRequest) (d : Disk) : List Event :=
  match Config.load d q.config q.ignoreConfig d.cwdPath with
  | .error _ => []
  | .ok (_, file) => file.toList.map fun p =>
    .notice (.info .check ("Using configuration from ".toList ++ p.text))

/-- The ways in which options cannot be used. Their file cannot be read or parsed, an option is
invalid, or the linter is missing, does not say its version or is older than 0.4.0. -/
inductive Misconfigured (h : Host σ) (e : Environment) (q : CheckRequest) (d : Disk) (s : σ) :
    ConfigError → Prop
  | unreadable {file : Path} {fault : Fault} :
      configFile q d = some file → d.readText? file = .error fault →
      Misconfigured h e q d s (.unreadable file fault)
  | malformed {file : Path} {content : Text} :
      configFile q d = some file → d.readText? file = .ok content →
      Config.loadFile d file = .error (.malformed file) →
      Misconfigured h e q d s (.malformed file)
  | invalid {c : Config} {err : ConfigError} :
      config q d = .ok c → c.check = .error err → Misconfigured h e q d s err
  | missing {c : Config} {checked : Config.Checked} :
      config q d = .ok c → c.check = .ok checked → Lookup.which d e c.executable = none →
      Misconfigured h e q d s (.linterNotFound c.executable)
  | unversioned {c : Config} {checked : Config.Checked} {path : Path} :
      config q d = .ok c → c.check = .ok checked → Lookup.which d e c.executable = some path →
      (Lookup.queryVersion h d path s).1 = none →
      Misconfigured h e q d s (.unknownVersion path)
  | outdated {c : Config} {checked : Config.Checked} {path : Path} {v : Version} :
      config q d = .ok c → c.check = .ok checked → Lookup.which d e c.executable = some path →
      (Lookup.queryVersion h d path s).1 = some v → v.major = 0 → v.minor < 4 →
      Misconfigured h e q d s (.linterTooOld path v)

/-- A version is too old if it is below 0.4. -/
theorem isSupported_eq_false_iff (v : Version) :
    v.isSupported = false ↔ v.major = 0 ∧ v.minor < 4 := by
  simp only [Version.isSupported, Version.lt, Version.oldest, Nat.not_lt_zero, decide_false,
    Bool.false_or, Bool.and_false, Bool.or_false, Bool.not_eq_false', Bool.and_eq_true, beq_iff_eq]
  exact and_congr_right fun _ => decide_eq_true_iff

/-- Without a file the options are the default ones, else those of the file. -/
theorem load_eq (q : CheckRequest) (d : Disk) :
    Config.load d q.config q.ignoreConfig d.cwdPath =
      match configFile q d with
      | none => .ok ({}, none)
      | some file => (Config.loadFile d file).map fun c => (c, some file) := by
  unfold Config.load configFile
  cases if q.ignoreConfig then none else q.config <|> Config.discover d d.cwdPath with
  | none => rfl
  | some file =>
    simp only
    cases Config.loadFile d file <;> rfl

/-- Loading fails if the file that applies does not load. -/
theorem config_eq_error_iff (q : CheckRequest) (d : Disk) (err : ConfigError) :
    config q d = .error err ↔
      ∃ file, configFile q d = some file ∧ Config.loadFile d file = .error err := by
  rw [config, load_eq]
  cases configFile q d with
  | none => simp [Except.map]
  | some file => cases hfile : Config.loadFile d file <;> simp [Except.map, hfile]

theorem ofToml_eq_error {file : Path} {content : Text} {err : ConfigError}
    (h : Config.ofToml file content = .error err) : err = .malformed file := by
  unfold Config.ofToml at h
  split at h
  · simp at h
  · exact (Except.error.inj h).symm

theorem ofProject_eq_error {file : Path} {content : Text} {err : ConfigError}
    (h : Config.ofProject file content = .error err) : err = .malformed file := by
  unfold Config.ofProject at h
  split at h
  · exact (Except.error.inj h).symm
  · split at h
    · simp at h
    · split at h
      · simp at h
      · exact (Except.error.inj h).symm

/-- A file of options that does not load cannot be read or is malformed. -/
theorem loadFile_eq_error {d : Disk} {file : Path} {err : ConfigError}
    (h : Config.loadFile d file = .error err) :
    (∃ fault, d.readText? file = .error fault ∧ err = .unreadable file fault) ∨
      ∃ content, d.readText? file = .ok content ∧ err = .malformed file := by
  unfold Config.loadFile at h
  cases hread : d.readText? file with
  | error fault =>
    rw [hread] at h
    exact .inl ⟨fault, rfl, (Except.error.inj h).symm⟩
  | ok content =>
    rw [hread] at h
    refine .inr ⟨content, rfl, ?_⟩
    simp only at h
    split at h
    · cases hproject : Config.ofProject file content with
      | ok c => simp [hproject] at h
      | error err' =>
        rw [hproject] at h
        rw [← Except.error.inj h]
        exact ofProject_eq_error hproject
    · exact ofToml_eq_error h

theorem loadFile_of_unreadable {d : Disk} {file : Path} {fault : Fault}
    (h : d.readText? file = .error fault) :
    Config.loadFile d file = .error (.unreadable file fault) := by
  rw [Config.loadFile, h]

theorem linter_of_missing {h : Host σ} {d : Disk} {e : Environment} {name : Text}
    (hwhich : Lookup.which d e name = none) (s : σ) :
    Lookup.linter h d e name s = (.error (.linterNotFound name), s) := by
  rw [Lookup.linter, hwhich]

/-- A linter that is found is asked for its version, and that decides. -/
theorem linter_of_found {h : Host σ} {d : Disk} {e : Environment} {name : Text} {path : Path}
    (hwhich : Lookup.which d e name = some path) (s : σ) :
    Lookup.linter h d e name s =
      (match (Lookup.queryVersion h d path s).1 with
        | none => .error (.unknownVersion path)
        | some v => if v.isSupported then .ok (path, v) else .error (.linterTooOld path v),
      (Lookup.queryVersion h d path s).2) := by
  rw [Lookup.linter, hwhich]
  simp only
  rcases Lookup.queryVersion h d path s with ⟨version, t⟩
  cases version <;> rfl

theorem options_of_error {h : Host σ} {e : Environment} {q : CheckRequest} {d : Disk}
    {err : ConfigError} (hconfig : config q d = .error err) (s : σ) :
    options h e q d s = (.error err, s) := by
  rw [options, hconfig]

theorem options_of_invalid {h : Host σ} {e : Environment} {q : CheckRequest} {d : Disk}
    {c : Config} {err : ConfigError} (hconfig : config q d = .ok c) (hcheck : c.check = .error err)
    (s : σ) : options h e q d s = (.error err, s) := by
  rw [options, hconfig]
  simp only [Config.validate, hcheck]

/-- Options that are fine in themselves are decided by the linter. -/
theorem options_of_checked {h : Host σ} {e : Environment} {q : CheckRequest} {d : Disk}
    {c : Config} {checked : Config.Checked} (hconfig : config q d = .ok c)
    (hcheck : c.check = .ok checked) (s : σ) :
    options h e q d s =
      ((Lookup.linter h d e c.executable s).1.map fun found =>
        { checked, executable := found.1, version := found.2, timeout := c.timeout
          reportFile := c.reportFile, searchPath := c.searchPath, exclude := c.exclude },
      (Lookup.linter h d e c.executable s).2) := by
  rw [options, hconfig]
  simp only [Config.validate, hcheck]
  rcases Lookup.linter h d e c.executable s with ⟨found, t⟩
  cases found <;> rfl

/-- The first stage fails in the ways that are listed, and in no others. -/
theorem options_eq_error_iff (h : Host σ) (e : Environment) (q : CheckRequest) (d : Disk) (s : σ)
    (err : ConfigError) :
    (options h e q d s).1 = .error err ↔ Misconfigured h e q d s err := by
  constructor
  · -- the checks of the first stage in their order; each is reached if those before it passed
    intro hbad
    cases hconfig : config q d with
    | error err' =>
      rw [options_of_error hconfig] at hbad
      obtain rfl := Except.error.inj hbad
      obtain ⟨file, hfile, hload⟩ := (config_eq_error_iff q d _).mp hconfig
      rcases loadFile_eq_error hload with ⟨fault, hread, rfl⟩ | ⟨content, hread, rfl⟩
      · exact .unreadable hfile hread
      · exact .malformed hfile hread hload
    | ok c =>
      cases hcheck : c.check with
      | error err' =>
        rw [options_of_invalid hconfig hcheck] at hbad
        obtain rfl := Except.error.inj hbad
        exact .invalid hconfig hcheck
      | ok checked =>
        rw [options_of_checked hconfig hcheck] at hbad
        cases hwhich : Lookup.which d e c.executable with
        | none =>
          rw [linter_of_missing hwhich] at hbad
          obtain rfl := Except.error.inj hbad
          exact .missing hconfig hcheck hwhich
        | some path =>
          rw [linter_of_found hwhich] at hbad
          cases hversion : (Lookup.queryVersion h d path s).1 with
          | none =>
            rw [hversion] at hbad
            obtain rfl := Except.error.inj hbad
            exact .unversioned hconfig hcheck hwhich hversion
          | some v =>
            rw [hversion] at hbad
            cases hsupported : v.isSupported with
            | true => simp [hsupported, Except.map] at hbad
            | false =>
              simp only [hsupported] at hbad
              obtain rfl := Except.error.inj hbad
              obtain ⟨hmajor, hminor⟩ := (isSupported_eq_false_iff v).mp hsupported
              exact .outdated hconfig hcheck hwhich hversion hmajor hminor
  · intro hbad
    cases hbad with
    | unreadable hfile hread =>
      rw [options_of_error ((config_eq_error_iff q d _).mpr
        ⟨_, hfile, loadFile_of_unreadable hread⟩)]
    | malformed hfile hread hload =>
      rw [options_of_error ((config_eq_error_iff q d _).mpr ⟨_, hfile, hload⟩)]
    | invalid hconfig hcheck => rw [options_of_invalid hconfig hcheck]
    | missing hconfig hcheck hwhich =>
      rw [options_of_checked hconfig hcheck, linter_of_missing hwhich]
      rfl
    | unversioned hconfig hcheck hwhich hversion =>
      rw [options_of_checked hconfig hcheck, linter_of_found hwhich, hversion]
      rfl
    | @outdated c checked path v hconfig hcheck hwhich hversion hmajor hminor =>
      have hsupported := (isSupported_eq_false_iff v).mpr ⟨hmajor, hminor⟩
      rw [options_of_checked hconfig hcheck, linter_of_found hwhich, hversion]
      simp only [hsupported]
      rfl

/-- A check with options that cannot be used ends there. -/
theorem run_of_options_error {h : Host σ} {e : Environment} {q : CheckRequest} {d : Disk} {s t : σ}
    {err : ConfigError} (hoptions : options h e q d s = (.error err, t)) :
    run h e q d s = ⟨loading q d, .error (.options err), d, t⟩ := by
  unfold options config at hoptions
  unfold run loading
  cases hload : Config.load d q.config q.ignoreConfig d.cwdPath with
  | error err' =>
    rw [hload] at hoptions
    obtain ⟨herr, rfl⟩ := Prod.mk.inj hoptions
    obtain rfl := Except.error.inj herr
    rfl
  | ok loaded =>
    rw [hload] at hoptions
    simp only [Except.map] at hoptions
    simp only [hoptions, CheckRun.after, CheckRun.failed, List.append_nil]

/-- A check with valid options goes on, and has no results before. -/
theorem run_of_options_ok {h : Host σ} {e : Environment} {q : CheckRequest} {d : Disk} {s t : σ}
    {v : ValidConfig} (hoptions : options h e q d s = (.ok v, t)) :
    ∃ told, told.filterMap Event.result? = [] ∧
      run h e q d s = (runWith h e v q.paths d t).after told := by
  unfold options config at hoptions
  unfold run
  cases hload : Config.load d q.config q.ignoreConfig d.cwdPath with
  | error err' =>
    rw [hload] at hoptions
    simp [Except.map] at hoptions
  | ok loaded =>
    rw [hload] at hoptions
    simp only [Except.map] at hoptions
    simp only [hoptions, CheckRun.after, ← List.append_assoc]
    refine ⟨_, ?_, rfl⟩
    -- only notices and the switch to debugging come before
    rw [List.filterMap_append]
    cases loaded.2 <;> cases v.checked.debug <;> rfl

/-! ## Stages -/

/-- A check whose documents can be linted: its options are valid, its documents are found, and its
report is started. The session is the one in which the first document is linted. -/
structure Starts (h : Host σ) (e : Environment) (q : CheckRequest) (d : Disk) (s : σ)
    (v : ValidConfig) (documents : List Path) (begun : Session σ) : Prop where
  options : Check.options h e q d s = (.ok v, begun.tools)
  found : (Discovery.findDocuments d q.paths v.exclude).1 = .ok documents
  report : startReport v.reportFile d = .ok (begun.report, begun.disk)
  interpreters : begun.interpreters = []
  notices : begun.notices = []

/-- The ways in which a check fails. Its options cannot be used, the search fails, the file of the
report cannot be made, or a document fails behind others that were linted. -/
inductive Fails (h : Host σ) (e : Environment) (q : CheckRequest) (d : Disk) (s : σ) :
    CheckError → Prop
  | options {err : ConfigError} : Misconfigured h e q d s err → Fails h e q d s (.options err)
  | search {v : ValidConfig} {err : Discovery.SearchError} :
      (Check.options h e q d s).1 = .ok v →
      (Discovery.findDocuments d q.paths v.exclude).1 = .error err →
      Fails h e q d s (.search err)
  | report {v : ValidConfig} {documents : List Path} {file : Path} {fault : Fault} :
      (Check.options h e q d s).1 = .ok v →
      (Discovery.findDocuments d q.paths v.exclude).1 = .ok documents →
      v.reportFile = some file → Report.create d file = .error fault →
      Fails h e q d s (.reportFile file fault)
  | document {v : ValidConfig} {before after : List Path} {p : Path} {begun t : Session σ}
      {results : List DocumentResult} {err : LintError} :
      Starts h e q d s v (before ++ p :: after) begun →
      (engine h e v).LintsAll begun before results t →
      ((engine h e v).lintFile p { t with notices := [] }).1 = .error err →
      Fails h e q d s (.document err)

variable {h : Host σ} {e : Environment} {q : CheckRequest} {d : Disk} {s : σ}

/-- A new report has counted nothing. -/
theorem Starts.uncounted {v : ValidConfig} {documents : List Path} {begun : Session σ}
    (hstarts : Starts h e q d s v documents begun) :
    begun.report.diagnostics = 0 ∧ begun.report.documents = 0 := by
  -- a report without a file is the empty one, and one with a file was made by `Report.create`
  have hreport := hstarts.report
  unfold startReport at hreport
  cases hfile : v.reportFile with
  | none =>
    rw [hfile] at hreport
    rw [← (Prod.mk.inj (Except.ok.inj hreport)).1]
    exact ⟨rfl, rfl⟩
  | some file =>
    rw [hfile] at hreport
    cases hcreate : Report.create d file with
    | error fault => simp [hcreate] at hreport
    | ok created =>
      simp only [hcreate] at hreport
      obtain rfl := Except.ok.inj hreport
      rw [(Report.create_eq_ok hcreate).1]
      exact ⟨rfl, rfl⟩

theorem Starts.begun_eq {v : ValidConfig} {documents : List Path} {begun : Session σ}
    (hstarts : Starts h e q d s v documents begun) :
    { disk := begun.disk, report := begun.report, tools := begun.tools } = begun := by
  obtain ⟨-, -, -, hinterpreters, hnotices⟩ := hstarts
  cases begun
  simp only at hinterpreters hnotices
  rw [hinterpreters, hnotices]

/-- A check that starts lints its documents, and has no results before. -/
theorem Starts.run_eq {v : ValidConfig} {documents : List Path} {begun : Session σ}
    (hstarts : Starts h e q d s v documents begun) :
    ∃ told, told.filterMap Event.result? = [] ∧
      run h e q d s =
        (lintInto (engine h e v) documents begun.report begun.disk begun.tools).after told := by
  obtain ⟨told, hsilent, hrun⟩ := run_of_options_ok hstarts.options
  have hfound := hstarts.found
  unfold runWith at hrun
  rcases hsearch : Discovery.findDocuments d q.paths v.exclude with ⟨found, ns⟩
  rw [hsearch] at hrun hfound
  simp only at hfound
  subst hfound
  simp only [hstarts.report, CheckRun.after, ← List.append_assoc] at hrun
  refine ⟨_, ?_, hrun⟩
  rw [List.filterMap_append, List.filterMap_append, hsilent, filterMap_result?_notices]
  rfl

/-- A check that lints all its documents has their results, and the totals that they give. -/
theorem Starts.finished {v : ValidConfig} {documents : List Path} {begun t : Session σ}
    {results : List DocumentResult} (hstarts : Starts h e q d s v documents begun)
    (hall : (engine h e v).LintsAll begun documents results t) :
    (run h e q d s).results = results ∧
      (run h e q d s).outcome = .ok ⟨documents.length,
        results.countP DocumentResult.hasDiagnostics,
        (results.map fun r => r.diagnostics.length).sum⟩ := by
  obtain ⟨told, hsilent, hrun⟩ := hstarts.run_eq
  obtain ⟨events, hresults, hlint⟩ := lintAll_append hall []
  obtain ⟨-, hdiagnostics, hdocuments⟩ := hall.counts
  obtain ⟨hzero, hzero'⟩ := hstarts.uncounted
  rw [List.append_nil] at hlint
  rw [hrun, CheckRun.results_after, CheckRun.outcome_after, hsilent, CheckRun.results_eq]
  simp only [lintInto, hstarts.begun_eq, hlint, lintAll, List.append_nil, totals]
  rw [hresults, hdiagnostics, hdocuments, hzero, hzero', Nat.zero_add, Nat.zero_add]
  exact ⟨rfl, rfl⟩

/-- A check that fails at a stage has that failure as its outcome, whatever was found before. -/
theorem Fails.outcome {err : CheckError} (hfails : Fails h e q d s err) :
    (run h e q d s).outcome = .error err := by
  cases hfails with
  | options hbad =>
    have hoptions := (options_eq_error_iff ..).mpr hbad
    rw [run_of_options_error (Prod.ext hoptions rfl)]
  | search hoptions hsearch =>
    obtain ⟨told, -, hrun⟩ := run_of_options_ok (Prod.ext hoptions rfl)
    rw [hrun, CheckRun.outcome_after]
    simp only [runWith, hsearch]
    rfl
  | report hoptions hsearch hfile hcreate =>
    obtain ⟨told, -, hrun⟩ := run_of_options_ok (Prod.ext hoptions rfl)
    rw [hrun, CheckRun.outcome_after]
    simp only [runWith, hsearch, startReport, hfile, hcreate]
    rfl
  | @document v before after p begun t results err hstarts hall hfailed =>
    obtain ⟨told, -, hrun⟩ := hstarts.run_eq
    obtain ⟨events, -, hlint⟩ := lintAll_append hall (p :: after)
    rw [hrun, CheckRun.outcome_after]
    simp only [lintInto, hstarts.begun_eq, hlint, lintAll, hfailed]

/-- A check fails at some stage, or it lints all its documents. -/
theorem fails_or_lints (h : Host σ) (e : Environment) (q : CheckRequest) (d : Disk) (s : σ) :
    (∃ err, Fails h e q d s err) ∨
      ∃ v documents begun results t, Starts h e q d s v documents begun ∧
        (engine h e v).LintsAll begun documents results t := by
  -- stage by stage; what does not fail is what `Starts` asks for
  rcases hoptions : options h e q d s with ⟨valid, tools⟩
  cases valid with
  | error err =>
    have hbad : (options h e q d s).1 = .error err := by rw [hoptions]
    exact .inl ⟨_, .options ((options_eq_error_iff ..).mp hbad)⟩
  | ok v =>
    have hvalid : (options h e q d s).1 = .ok v := by rw [hoptions]
    cases hsearch : (Discovery.findDocuments d q.paths v.exclude).1 with
    | error err => exact .inl ⟨_, .search hvalid hsearch⟩
    | ok documents =>
      cases hreport : startReport v.reportFile d with
      | error err =>
        left
        unfold startReport at hreport
        split at hreport
        · simp at hreport
        · next file hfile =>
          split at hreport
          · simp at hreport
          · next fault hcreate => exact ⟨_, .report hvalid hsearch hfile hcreate⟩
      | ok started =>
        have hstarts : Starts h e q d s v documents
            { disk := started.2, report := started.1, tools } :=
          ⟨hoptions, hsearch, hreport, rfl, rfl⟩
        rcases lintsAll_or_fails (engine h e v) documents
            { disk := started.2, report := started.1, tools } with
          ⟨results, t, hall⟩ | ⟨before, p, after, results, t, err, rfl, hall, hfailed⟩
        · exact .inr ⟨v, documents, _, results, t, hstarts, hall⟩
        · exact .inl ⟨_, .document hstarts hall hfailed⟩

end Check
end TranscriptLint
