import TranscriptLint.Proofs.CheckScreen
import TranscriptLint.Proofs.CheckStages
import TranscriptLint.Proofs.HostCalls

namespace TranscriptLint

/-! # Presentation

Four options say how the results of a check are shown. They have no part in the request that is read
from the arguments, and only the request decides what a check does.

* `Invocation.ofArguments_eq_check_iff`: arguments that ask for a check are read as options and
  operands.
* `Reading.SameCheck`: two readings that differ at most in options of presentation.
  `Reading.SameCheck.request` says that they have the same request.
* `Program.presentation_changes_only_screen`: two runs with such arguments.
-/

variable {σ : Type}

/-! ## Arguments -/

/-- Whether an option only says how results are shown. -/
def Opt.isPresentation : Opt → Bool
  | .quiet | .silent | .stderr | .outputFormat => true
  | _ => false

namespace Reading

/-- The uses of an option, in order. -/
def uses (r : Reading) (o : Opt) : List (Opt × Text) := r.given.filter fun g => g.1 == o

theorem has_eq (r : Reading) (o : Opt) : r.has o = !(r.uses o).isEmpty := by
  unfold has uses
  induction r.given with
  | nil => rfl
  | cons g given ih =>
    rw [List.any_cons, List.filter_cons]
    cases g.1 == o with
    | true => rfl
    | false => simpa using ih

theorem value?_eq (r : Reading) (o : Opt) : r.value? o = (r.uses o).head?.map Prod.snd := by
  unfold value? uses
  induction r.given with
  | nil => rfl
  | cons g given ih =>
    -- a lookup compares the other way round
    obtain ⟨o', v⟩ := g
    rw [List.lookup_cons, List.filter_cons, ih, BEq.comm]
    cases o' == o <;> rfl

theorem values?_eq (r : Reading) (o : Opt) :
    r.values? o = if (r.uses o).isEmpty then none
      else some ((r.uses o).flatMap fun g => Text.splitOn ',' g.2) := by
  unfold values?
  rw [has_eq]
  cases (r.uses o).isEmpty <;> rfl

/-- Two readings that differ at most in how results are shown: they have the same operands, and the
same other options with the same values. -/
structure SameCheck (r r' : Reading) : Prop where
  operands : r.operands = r'.operands
  given : r.given.filter (fun g => !g.1.isPresentation) =
    r'.given.filter fun g => !g.1.isPresentation

variable {r r' : Reading}

/-- Options of presentation are not uses of another option. -/
theorem uses_of_not_presentation {o : Opt} (ho : o.isPresentation = false) (r : Reading) :
    r.uses o = (r.given.filter fun g => !g.1.isPresentation).filter fun g => g.1 == o := by
  rw [List.filter_filter]
  apply List.filter_congr
  intro g _
  by_cases hg : g.1 = o
  · simp [hg, ho]
  · simp [hg]

theorem SameCheck.uses (h : r.SameCheck r') {o : Opt} (ho : o.isPresentation = false) :
    r.uses o = r'.uses o := by
  rw [uses_of_not_presentation ho, uses_of_not_presentation ho, h.given]

theorem SameCheck.has (h : r.SameCheck r') {o : Opt} (ho : o.isPresentation = false) :
    r.has o = r'.has o := by
  rw [has_eq, has_eq, h.uses ho]

theorem SameCheck.value? (h : r.SameCheck r') {o : Opt} (ho : o.isPresentation = false) :
    r.value? o = r'.value? o := by
  rw [value?_eq, value?_eq, h.uses ho]

theorem SameCheck.values? (h : r.SameCheck r') {o : Opt} (ho : o.isPresentation = false) :
    r.values? o = r'.values? o := by
  rw [values?_eq, values?_eq, h.uses ho]

/-- The request does not depend on how results are shown. -/
theorem SameCheck.request (h : r.SameCheck r') : r.request = r'.request := by
  unfold Reading.request
  rw [h.operands, h.value? (o := .config) rfl, h.has (o := .noConfig) rfl,
    h.values? (o := .dialects) rfl, h.value? (o := .executable) rfl, h.value? (o := .prompt) rfl,
    h.has (o := .debug) rfl, h.value? (o := .tabWidth) rfl, h.value? (o := .timeout) rfl,
    h.value? (o := .report) rfl, h.values? (o := .exclude) rfl]

end Reading

/-- The reading of the arguments of a command that checks documents. -/
def Scope.checkReading? (s : Scope) (args : List Text) : Option Reading :=
  match s with
  | .root | .check => (s.read {} args).toOption.map Prod.fst
  | _ => none

namespace Invocation

/-- The reading of arguments that ask for a check, with the name of the command or without it. -/
def checkReading? (args : List Text) : Option Reading :=
  match args.head?.bind fun name => Scope.root.commands.lookup name with
  | some s => s.checkReading? args.tail
  | none => Scope.root.checkReading? args

theorem leaf_eq_ok_iff {s : Scope} {args : List Text} {action : Reading → Action}
    {i : Invocation} :
    leaf s args action = .ok i ↔
      ∃ r, (s.read {} args).toOption.map Prod.fst = some r ∧ i = ⟨r.has .verbose, action r⟩ := by
  unfold leaf
  cases s.read {} args with
  | error stop => simp [Except.toOption]
  | ok read => simp [Except.toOption, eq_comm]

/-- The schema command does not check documents. -/
theorem ofSchema_ne_check (args : List Text) (verbose : Bool) (q : CheckRequest)
    (p : Presentation) : ofSchema args ≠ .ok ⟨verbose, .check q p⟩ := by
  intro h
  unfold ofSchema at h
  split at h
  · simp at h
  · simp at h
  · next r name rest _ =>
    split at h
    · next a _ =>
      cases hleaf : leaf (.schemaAction a) rest fun _ => .schema a with
      | error stop => simp [hleaf, Except.map] at h
      | ok i =>
        obtain ⟨r, -, rfl⟩ := leaf_eq_ok_iff.mp hleaf
        simp [hleaf, Except.map] at h
    · simp at h
    · simp at h

theorem ofCommand_eq_check_iff {s : Scope} {args : List Text} {verbose : Bool} {q : CheckRequest}
    {p : Presentation} :
    ofCommand s args = .ok ⟨verbose, .check q p⟩ ↔
      ∃ r, s.checkReading? args = some r ∧
        verbose = r.has .verbose ∧ q = r.request ∧ p = r.presentation := by
  -- only the first two commands check documents
  cases s with
  | root => simp [ofCommand, leaf_eq_ok_iff, Scope.checkReading?]
  | check => simp [ofCommand, leaf_eq_ok_iff, Scope.checkReading?]
  | init => simp [ofCommand, leaf_eq_ok_iff, Scope.checkReading?]
  | completions => simp [ofCommand, leaf_eq_ok_iff, Scope.checkReading?]
  | schema => simp [ofCommand, ofSchema_ne_check, Scope.checkReading?]
  | schemaAction a => simp [ofCommand, leaf_eq_ok_iff, Scope.checkReading?]
  | help => simp [ofCommand, Scope.checkReading?]

/-- Arguments ask for a check if they can be read as those of one, and the reading says what is
checked and how it is shown. -/
theorem ofArguments_eq_check_iff {args : List Text} {verbose : Bool} {q : CheckRequest}
    {p : Presentation} :
    ofArguments args = .ok ⟨verbose, .check q p⟩ ↔
      ∃ r, checkReading? args = some r ∧
        verbose = r.has .verbose ∧ q = r.request ∧ p = r.presentation := by
  unfold ofArguments checkReading?
  cases args.head?.bind fun name => Scope.root.commands.lookup name with
  | some s => exact ofCommand_eq_check_iff
  | none => exact ofCommand_eq_check_iff

end Invocation

/-! ## Runs -/

/-- The documents that a check finds; none if it does not come to that. -/
def Check.documents (h : Host σ) (e : Environment) (q : CheckRequest) (d : Disk) (s : σ) :
    Option (List Path) :=
  match (Check.options h e q d s).1 with
  | .ok v => (Discovery.findDocuments d q.paths v.exclude).1.toOption
  | .error _ => none

namespace Program

/-- The documents that a run finds, if it checks documents. -/
def documents (h : Host σ) (e : Environment) (args : List Text) (d : Disk) (s : σ) :
    Option (List Path) :=
  match Invocation.ofArguments args with
  | .ok ⟨_, .check q _⟩ => Check.documents h e q d s
  | _ => none

/-- **Presentation.** Two runs that check documents, with arguments that differ at most in the
options of presentation, have the same exit status and leave the same files, with them the same
report. They find the same documents and start the same programs with the same arguments, and the
programs see the same files, with them the scripts that are linted. A silent run has nothing on the
standard output stream. -/
theorem presentation_changes_only_screen (h : Host σ) (e : Environment) (d : Disk) (s : σ)
    {args args' : List Text} {r r' : Reading} (hr : Invocation.checkReading? args = some r)
    (hr' : Invocation.checkReading? args' = some r') (hsame : r.SameCheck r') :
    (run h e args d s).status = (run h e args' d s).status ∧
    (run h e args d s).disk = (run h e args' d s).disk ∧
    (run h e args d s).tools = (run h e args' d s).tools ∧
    documents h e args d s = documents h e args' d s ∧
    calls h e args d s = calls h e args' d s ∧
    (r.has .silent = true → (run h e args d s).screen.stdout = []) := by
  -- both runs have the request of `r`, each with its own presentation
  have hargs : Invocation.ofArguments args =
      .ok ⟨r.has .verbose, .check r.request r.presentation⟩ :=
    Invocation.ofArguments_eq_check_iff.mpr ⟨r, hr, rfl, rfl, rfl⟩
  have hargs' : Invocation.ofArguments args' =
      .ok ⟨r'.has .verbose, .check r.request r'.presentation⟩ :=
    Invocation.ofArguments_eq_check_iff.mpr ⟨r', hr', rfl, hsame.request, rfl⟩
  refine ⟨?_, ?_, ?_, ?_, ?_, ?_⟩
  · rw [status_of_check hargs, status_of_check hargs']
  · rw [run_of_check hargs, run_of_check hargs']
  · rw [run_of_check hargs, run_of_check hargs']
  · rw [documents, documents, hargs, hargs']
  · rw [calls, calls, run_of_check hargs, run_of_check hargs']
  · intro hsilent
    rw [run_of_check hargs]
    -- neither the documents nor the end of the check are shown
    refine (CheckRun.stdout_screen ?_ ?_ _ _).trans (stdout_startScreen e _)
    · intro result _ screen
      rw [Presentation.document_of_silent hsilent]
    · intro t _ screen
      rw [Presentation.finish_of_silent hsilent]

/-- A silent run that would show JSON, and one without the name of the command that shows concise
lines on the other stream. -/
theorem presentation_changes_only_screen_silent :
    let answer (n : Nat) := if n = 0 then "version: 0.9.0\n" else "[[2,1,1,\"m\"]]"
    let h : Host Nat := ⟨fun _ _ n => (.ok { stdout := Text.utf8 (answer n).toList }, n + 1)⟩
    let e : Environment := [("PATH".toList, "/bin".toList)]
    let d : Disk := ⟨[(["bin".toList], .directory),
      (["bin".toList, "shellcheck".toList], .file true []), (["tmp".toList], .directory),
      (["a.rst".toList], .file false (Text.utf8 ".. code:: sh\n\n $ ls\n".toList))], []⟩
    let args := ["check".toList, "--silent".toList, "-o".toList, "json".toList,
      "--report=out".toList, "a.rst".toList]
    let args' := ["a.rst".toList, "-oconcise".toList, "--report".toList, "out".toList,
      "--stderr".toList]
    let r : Reading :=
      { given := [(.silent, []), (.outputFormat, "json".toList), (.report, "out".toList)]
        operands := ["a.rst".toList] }
    let r' : Reading :=
      { given := [(.outputFormat, "concise".toList), (.report, "out".toList), (.stderr, [])]
        operands := ["a.rst".toList] }
    Invocation.checkReading? args = some r ∧ Invocation.checkReading? args' = some r' ∧
      r.SameCheck r' ∧
      (run h e args d 0).status = (run h e args' d 0).status ∧
      (run h e args d 0).disk.read? (.ofString "out") =
        (run h e args' d 0).disk.read? (.ofString "out") ∧
      calls h e args d 0 = calls h e args' d 0 ∧ (run h e args d 0).screen.stdout = [] := by
  intro answer h e d args args' r r'
  have hr : Invocation.checkReading? args = some r := by decide +kernel
  have hr' : Invocation.checkReading? args' = some r' := by decide +kernel
  have hsame : r.SameCheck r' := ⟨rfl, rfl⟩
  obtain ⟨hstatus, hdisk, -, -, hcalls, hsilent⟩ :=
    presentation_changes_only_screen h e d 0 hr hr' hsame
  refine ⟨hr, hr', hsame, hstatus, ?_, hcalls, hsilent rfl⟩
  rw [hdisk]

end Program
end TranscriptLint
