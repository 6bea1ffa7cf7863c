import TranscriptLint.Proofs.CheckScreen
import TranscriptLint.Proofs.CheckStages
import TranscriptLint.Proofs.HostCalls

namespace TranscriptLint

/-! # Options that cannot be used

A check whose options cannot be used ends before it touches anything. It may have asked the linter
for its version, and it has looked at the file of options and at the places where the linter may be.

* `Check.calls_options`: the programs that the first stage of a check starts.
* `Check.options_congr`: the files that the first stage depends on.
* `Program.misconfigured_touches_nothing`: what the user and the disk see of it.
-/

variable {σ τ : Type}

namespace Check

/-- The first stage is the same on a host that remembers more. -/
theorem options_enriches {h' : Host τ} {f : τ → σ} {h : Host σ} (hh : h'.Enriches f h)
    (e : Environment) (q : CheckRequest) (d : Disk) (t : τ) :
    options h e q d (f t) = ((options h' e q d t).1, f (options h' e q d t).2) := by
  unfold options
  cases config q d with
  | error err => rfl
  | ok c => exact hh.validate c d e t

/-- The first stage starts the linter once, for its version, or nothing at all. -/
theorem calls_options (h : Host σ) (e : Environment) (q : CheckRequest) (d : Disk) (s : σ) :
    (options h.recording e q d (s, [])).2.2 = [] ∨
      ∃ c path, config q d = .ok c ∧ Lookup.which d e c.executable = some path ∧
        (options h.recording e q d (s, [])).2.2 = [⟨d, [path.text, "--version".toList]⟩] := by
  cases hconfig : config q d with
  | error err =>
    rw [options_of_error hconfig]
    exact .inl rfl
  | ok c =>
    cases hcheck : c.check with
    | error err =>
      rw [options_of_invalid hconfig hcheck]
      exact .inl rfl
    | ok checked =>
      rw [options_of_checked hconfig hcheck]
      cases hwhich : Lookup.which d e c.executable with
      | none =>
        rw [linter_of_missing hwhich]
        exact .inl rfl
      | some path =>
        -- the answer to the question for the version is no longer a call
        have hcalls : (Lookup.queryVersion h.recording d path (s, [])).2.2 =
            [⟨d, [path.text, "--version".toList]⟩] := by
          unfold Lookup.queryVersion Host.recording
          simp only
          cases (h.run d [path.text, "--version".toList] s).1 <;> rfl
        rw [linter_of_found hwhich]
        exact .inr ⟨c, path, rfl, hwhich, hcalls⟩

/-- The first stage depends on the file of options, on where programs are found and on what they do.
-/
theorem options_congr {h : Host σ} {e : Environment} {q : CheckRequest} {d d' : Disk}
    (hload : Config.load d' q.config q.ignoreConfig d'.cwdPath =
      Config.load d q.config q.ignoreConfig d.cwdPath)
    (hwhich : ∀ name, Lookup.which d' e name = Lookup.which d e name)
    (hrun : ∀ argv t, h.run d' argv t = h.run d argv t) (s : σ) :
    options h e q d' s = options h e q d s ∧ loading q d' = loading q d := by
  refine ⟨?_, by rw [loading, loading, hload]⟩
  have hconfig : config q d' = config q d := by rw [config, config, hload]
  unfold options Config.validate Lookup.linter Lookup.queryVersion
  simp only [hconfig, hwhich, hrun]

/-- The first stage tells no more than which file it read. -/
theorem mem_loading {q : CheckRequest} {d : Disk} {event : Event} (h : event ∈ loading q d) :
    ∃ file : Path, event =
      .notice (.info .check ("Using configuration from ".toList ++ file.text)) := by
  unfold loading at h
  split at h
  · simp at h
  · obtain ⟨file, -, rfl⟩ := List.mem_map.mp h
    exact ⟨file, rfl⟩

end Check

namespace Program

open Check

/-- **Options that cannot be used.** If the file of options cannot be read or parsed, an option is
invalid, or the linter is missing, does not say its version or is too old, a run that checks
documents fails with status 2. The disk is what it was, and nothing comes to the standard output
stream. The check tells at most which file of options it read, and has no results; files other than
those that decide about the options can be anything. No program is started but the linter, at most
once and for its version. -/
theorem misconfigured_touches_nothing (h : Host σ) (e : Environment) (args : List Text) (d : Disk)
    (s : σ) {verbose : Bool} {q : CheckRequest} {p : Presentation} {err : ConfigError}
    (hargs : Invocation.ofArguments args = .ok ⟨verbose, .check q p⟩)
    (hbad : Misconfigured h e q d s err) :
    (run h e args d s).status.code = 2 ∧
    (run h e args d s).disk = d ∧
    (run h e args d s).screen.stdout = [] ∧
    (Check.run h e q d s).outcome = .error (.options err) ∧
    (∀ event ∈ (Check.run h e q d s).events, ∃ file : Path, event =
      .notice (.info .check ("Using configuration from ".toList ++ file.text))) ∧
    (∀ d' : Disk,
      Config.load d' q.config q.ignoreConfig d'.cwdPath =
        Config.load d q.config q.ignoreConfig d.cwdPath →
      (∀ name, Lookup.which d' e name = Lookup.which d e name) →
      (∀ argv t, h.run d' argv t = h.run d argv t) →
      run h e args d' s = { run h e args d s with disk := d' }) ∧
    (calls h e args d s = [] ∨
      ∃ c path, config q d = .ok c ∧ Lookup.which d e c.executable = some path ∧
        calls h e args d s = [⟨d, [path.text, "--version".toList]⟩]) := by
  have hoptions : options h e q d s = (.error err, (options h e q d s).2) :=
    Prod.ext ((options_eq_error_iff ..).mpr hbad) rfl
  have hcheck := run_of_options_error hoptions
  rw [run_of_check hargs, hcheck]
  refine ⟨rfl, rfl, ?_, rfl, fun _ => mem_loading, ?_, ?_⟩
  · -- no event is a document, and a check that failed has no end to show
    rw [CheckRun.stdout_screen _ _ _ _]
    · exact stdout_startScreen e verbose
    · intro result hresult
      obtain ⟨file, hevent⟩ := mem_loading hresult
      simp at hevent
    · intro t ht
      simp at ht
  · intro d' hload hwhich hrun
    obtain ⟨hsame, htold⟩ := options_congr hload hwhich hrun s
    rw [run_of_check hargs, run_of_options_error (hsame.trans hoptions), htold]
    rfl
  · -- the recording host comes to the same error
    have hrecorded := options_enriches h.recording_enriches e q d (s, [])
    rw [hoptions] at hrecorded
    have herror : options h.recording e q d (s, []) =
        (.error err, (options h.recording e q d (s, [])).2) :=
      Prod.ext (Prod.mk.inj hrecorded).1.symm rfl
    have hcalls : calls h e args d s = (options h.recording e q d (s, [])).2.2 := by
      rw [calls, run_of_check hargs, run_of_options_error herror]
    rw [hcalls]
    exact calls_options h e q d s

/-- A linter that is too old is asked for its version, and the report of an earlier run stays. -/
theorem misconfigured_touches_nothing_outdated :
    let h : Host Nat := ⟨fun _ _ n =>
      (.ok { stdout := Text.utf8 "ShellCheck\nversion: 0.3.8\n".toList }, n + 1)⟩
    let e : Environment := [("PATH".toList, "/bin".toList)]
    let d : Disk := ⟨[(["bin".toList], .directory),
      (["bin".toList, "shellcheck".toList], .file true []),
      (["a.rst".toList], .file false (Text.utf8 ".. code:: sh\n\n $ ls\n".toList)),
      (["out".toList], .file false (Text.utf8 "before".toList))], []⟩
    let args := ["check".toList, "--report=out".toList, "a.rst".toList]
    let q : CheckRequest :=
      { paths := [.ofString "a.rst"], overrides := { reportFile := some (.ofString "out") } }
    Invocation.ofArguments args = .ok ⟨false, .check q {}⟩ ∧
      Misconfigured h e q d 0 (.linterTooOld (.ofString "/bin/shellcheck") ⟨0, 3, 8⟩) ∧
      (run h e args d 0).status.code = 2 ∧ (run h e args d 0).disk = d ∧
      (run h e args d 0).disk.read? (.ofString "out") = .ok (Text.utf8 "before".toList) ∧
      (run h e args d 0).screen.stdout = [] ∧
      calls h e args d 0 = [⟨d, ["/bin/shellcheck".toList, "--version".toList]⟩] := by
  intro h e d args q
  have hargs : Invocation.ofArguments args = .ok ⟨false, .check q {}⟩ := by decide +kernel
  have hbad : Misconfigured h e q d 0 (.linterTooOld (.ofString "/bin/shellcheck") ⟨0, 3, 8⟩) := by
    have hconfig : config q d = .ok { reportFile := some (.ofString "out") } := by decide +kernel
    have hcheck : Config.check { reportFile := some (.ofString "out") } =
        .ok ⟨Dialect.all, '$', false, 8⟩ := by decide +kernel
    exact .outdated hconfig hcheck (by decide +kernel) (by decide +kernel) rfl (by decide)
  obtain ⟨hcode, hdisk, hstdout, -⟩ := misconfigured_touches_nothing h e args d 0 hargs hbad
  refine ⟨hargs, hbad, hcode, hdisk, ?_, hstdout, by decide +kernel⟩
  rw [hdisk]
  decide +kernel

end Program
end TranscriptLint
