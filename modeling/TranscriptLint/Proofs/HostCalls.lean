import TranscriptLint.Program
import TranscriptLint.Proofs.Enrichment

namespace TranscriptLint

/-! # Programs that a run starts

Which programs a run starts, and what they find on the disk, is seen by a host that writes this down
and otherwise runs programs as before.

* `Host.Enriches`: a host that gives the same answers as another one and remembers more.
* `Host.Enriches.check` and `Host.Enriches.program`: then checks and whole runs are the same.
* `Program.calls` are the programs that a run starts, in order. `Program.run_recording` says that it
  is this run that starts them.
-/

variable {σ τ : Type}

/-- A host that runs programs as another one does, and remembers more. -/
structure Host.Enriches (h' : Host τ) (f : τ → σ) (h : Host σ) : Prop where
  run : ∀ d argv t, h.run d argv (f t) = ((h'.run d argv t).1, f (h'.run d argv t).2)
  patterns : h'.patterns = h.patterns

/-- The run with another state of the host. -/
def CheckRun.mapTools (f : τ → σ) (r : CheckRun τ) : CheckRun σ := { r with tools := f r.tools }

/-- The outcome with another state of the host. -/
def Outcome.mapTools (f : τ → σ) (o : Outcome τ) : Outcome σ := { o with tools := f o.tools }

namespace Host.Enriches

variable {f : τ → σ} {h' : Host τ} {h : Host σ} (hh : h'.Enriches f h)
include hh

/-! ## Tools -/

theorem execute (limit : Nat) (d : Disk) (argv : List Text) (t : τ) :
    h.execute limit d argv (f t) =
      ((h'.execute limit d argv t).1, f (h'.execute limit d argv t).2) := by
  cases argv with
  | nil => rfl
  | cons tool arguments =>
    rw [Host.execute, Host.execute, hh.run d (tool :: arguments) t]
    rcases h'.run d (tool :: arguments) t with ⟨answer, u⟩
    cases answer <;> rfl

theorem lint (l : Linter) (limit : Nat) (tempDir : Path) (d : Disk) (dialect : Dialect)
    (script : Text) (t : τ) :
    h.lint l limit tempDir d dialect script (f t) =
      ((h'.lint l limit tempDir d dialect script t).1,
        f (h'.lint l limit tempDir d dialect script t).2) := by
  simp only [Host.lint]
  cases d.write? (tempDir.join ⟨Host.scriptName⟩) script with
  | error fault => rfl
  | ok d => exact hh.execute ..

theorem queryVersion (d : Disk) (p : Path) (t : τ) :
    Lookup.queryVersion h d p (f t) =
      ((Lookup.queryVersion h' d p t).1, f (Lookup.queryVersion h' d p t).2) := by
  unfold Lookup.queryVersion
  rw [hh.run]
  rcases h'.run d [p.text, "--version".toList] t with ⟨answer, u⟩
  cases answer <;> rfl

theorem linter (d : Disk) (e : Environment) (name : Text) (t : τ) :
    Lookup.linter h d e name (f t) =
      ((Lookup.linter h' d e name t).1, f (Lookup.linter h' d e name t).2) := by
  unfold Lookup.linter
  cases Lookup.which d e name with
  | none => rfl
  | some path =>
    simp only [hh.queryVersion]
    rcases Lookup.queryVersion h' d path t with ⟨version, u⟩
    cases version <;> rfl

theorem validate (c : Config) (d : Disk) (e : Environment) (t : τ) :
    c.validate h d e (f t) = ((c.validate h' d e t).1, f (c.validate h' d e t).2) := by
  unfold Config.validate
  cases c.check with
  | error err => rfl
  | ok checked =>
    simp only [hh.linter]
    rcases Lookup.linter h' d e c.executable t with ⟨found, u⟩
    cases found <;> rfl

/-! ## Checks -/

theorem engine (e : Environment) (v : ValidConfig) :
    (Check.engine h' e v).Enriches f (Check.engine h e v) where
  scanner := by rw [Check.engine, Check.engine, hh.patterns]
  prompt := rfl
  interpreter := rfl
  lint := fun _ _ _ _ => hh.lint ..

omit hh in
theorem lintAll {e' : Engine τ} {e : Engine σ} (he : e'.Enriches f e) (ps : List Path)
    (s : Session τ) :
    Check.lintAll e ps (s.mapTools f) =
      ((Check.lintAll e' ps s).1, (Check.lintAll e' ps s).2.1,
        (Check.lintAll e' ps s).2.2.mapTools f) := by
  induction ps generalizing s with
  | nil => rfl
  | cons p ps ih =>
    -- the notices that are taken away are not in the state of the host
    have hfile := he.lintFile { s with notices := [] } p
    have hquiet : Session.mapTools f { s with notices := [] } =
        { s.mapTools f with notices := [] } := rfl
    rw [hquiet] at hfile
    rw [Check.lintAll, Check.lintAll, hfile]
    rcases e'.lintFile p { s with notices := [] } with ⟨result, t⟩
    cases result with
    | error err => rfl
    | ok r =>
      simp only [ih t]
      rfl

theorem runWith (e : Environment) (v : ValidConfig) (paths : List Path) (d : Disk) (t : τ) :
    Check.runWith h e v paths d (f t) = (Check.runWith h' e v paths d t).mapTools f := by
  unfold Check.runWith
  rcases Discovery.findDocuments d paths v.exclude with ⟨found, notices⟩
  cases found with
  | error err => rfl
  | ok documents =>
    simp only
    cases Check.startReport v.reportFile d with
    | error err => rfl
    | ok started =>
      obtain ⟨report, disk⟩ := started
      have hall := lintAll (hh.engine e v) documents
        { disk, report, tools := t }
      have hstart : Session.mapTools f { disk, report, tools := t } =
          { disk, report, tools := f t } := rfl
      rw [hstart] at hall
      simp only [Check.lintInto, hall]
      rfl

/-- A check is the same on both hosts. -/
theorem check (e : Environment) (q : CheckRequest) (d : Disk) (t : τ) :
    Check.run h e q d (f t) = (Check.run h' e q d t).mapTools f := by
  unfold Check.run
  cases Config.load d q.config q.ignoreConfig d.cwdPath with
  | error err => rfl
  | ok loaded =>
    simp only [hh.validate]
    rcases (loaded.1.override q.overrides).validate h' d e t with ⟨valid, u⟩
    cases valid with
    | error err => rfl
    | ok v =>
      simp only [hh.runWith]
      rfl

/-- A run of the program is the same on both hosts. -/
theorem program (e : Environment) (args : List Text) (d : Disk) (t : τ) :
    Program.run h e args d (f t) = (Program.run h' e args d t).mapTools f := by
  unfold Program.run
  cases Invocation.ofArguments args with
  | error reason => rfl
  | ok i =>
    obtain ⟨verbose, action⟩ := i
    cases action with
    | check q p =>
      simp only [Program.perform, hh.check]
      rfl
    | init quiet => rfl
    | completions shell list => rfl
    | schema a => rfl

end Host.Enriches

/-! ## Writing down what is started -/

/-- A program that was started: the disk that it found, and its name and arguments. -/
structure HostCall where
  disk : Disk
  argv : List Text
deriving DecidableEq

/-- The host that writes down what it starts. -/
def Host.recording (h : Host σ) : Host (σ × List HostCall) where
  run := fun d argv s => ((h.run d argv s.1).1, (h.run d argv s.1).2, s.2 ++ [⟨d, argv⟩])
  patterns := h.patterns

theorem Host.recording_enriches (h : Host σ) : h.recording.Enriches Prod.fst h :=
  ⟨fun _ _ _ => rfl, rfl⟩

/-- The programs that a run starts, in order. -/
def Program.calls (h : Host σ) (e : Environment) (args : List Text) (d : Disk) (s : σ) :
    List HostCall :=
  (Program.run h.recording e args d (s, [])).tools.2

/-- The run in which the programs are written down is the run itself. -/
theorem Program.run_recording (h : Host σ) (e : Environment) (args : List Text) (d : Disk) (s : σ) :
    (Program.run h.recording e args d (s, [])).mapTools Prod.fst = Program.run h e args d s :=
  (h.recording_enriches.program e args d (s, [])).symm

end TranscriptLint
