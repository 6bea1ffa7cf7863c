import TranscriptLint.Proofs.CheckScreen
import TranscriptLint.Proofs.CheckStages

namespace TranscriptLint

/-! # The exit status of a check

The status of a check comes from the count of diagnostics in the report, and so do the numbers of
its summary. Both speak of the results of the documents.

* `Check.outcome_eq_error_iff`: a check ends with the failure of a stage, and with no other.
* `DocumentResult.withIssues_le_issues` and `DocumentResult.issues_eq_zero_iff`: the number of
  diagnostics and the number of documents that have some.
* `Program.exit_status_of_check`: the status and the summary of a run that checks documents.
-/

variable {σ : Type}

namespace DocumentResult

theorem hasDiagnostics_iff (r : DocumentResult) : r.hasDiagnostics = true ↔ r.diagnostics ≠ [] := by
  simp [hasDiagnostics]

/-- A document with diagnostics has at least one. -/
theorem withIssues_le_issues (rs : List DocumentResult) :
    rs.countP hasDiagnostics ≤ (rs.map fun r => r.diagnostics.length).sum := by
  induction rs with
  | nil => exact Nat.le_refl 0
  | cons r rs ih =>
    rw [List.countP_cons, List.map_cons, List.sum_cons]
    by_cases hr : r.hasDiagnostics = true
    · have hone : 0 < r.diagnostics.length :=
        List.length_pos_iff.mpr ((hasDiagnostics_iff r).mp hr)
      rw [if_pos hr]
      omega
    · rw [if_neg hr]
      omega

/-- There are no diagnostics if no document has some. -/
theorem issues_eq_zero_iff (rs : List DocumentResult) :
    (rs.map fun r => r.diagnostics.length).sum = 0 ↔ ∀ r ∈ rs, r.diagnostics = [] := by
  rw [← List.length_flatMap, List.length_eq_zero_iff, List.flatMap_eq_nil_iff]

theorem withIssues_eq_zero_iff (rs : List DocumentResult) :
    rs.countP hasDiagnostics = 0 ↔ ∀ r ∈ rs, r.diagnostics = [] := by
  simp [List.countP_eq_zero, hasDiagnostics]

end DocumentResult

namespace Check

/-- A check ends with an error if a stage fails with it. -/
theorem outcome_eq_error_iff (h : Host σ) (e : Environment) (q : CheckRequest) (d : Disk) (s : σ)
    (err : CheckError) :
    (run h e q d s).outcome = .error err ↔ Fails h e q d s err := by
  constructor
  · intro houtcome
    rcases fails_or_lints h e q d s with
      ⟨err', hfails⟩ | ⟨v, documents, begun, rs, t, hstarts, hall⟩
    · rw [hfails.outcome] at houtcome
      rw [← Except.error.inj houtcome]
      exact hfails
    · rw [(hstarts.finished hall).2] at houtcome
      simp at houtcome
  · exact Fails.outcome

end Check

namespace ExitStatus

/-- A status of 2 is a failure. -/
theorem code_status_eq_two_iff (r : CheckRun σ) :
    r.status.code = 2 ↔ ∃ err, r.outcome = .error err := by
  unfold CheckRun.status
  cases r.outcome with
  | error err => simp [code]
  | ok t =>
    simp only
    split <;> simp [code]

/-- A check that did not fail has the status of its number of issues. -/
theorem code_status_of_ok {r : CheckRun σ} {t : Totals} (h : r.outcome = .ok t) :
    (r.status.code = 1 ↔ t.issues ≠ 0) ∧ (r.status.code = 0 ↔ t.issues = 0) := by
  unfold CheckRun.status
  rw [h]
  by_cases hissues : 0 < t.issues
  · simp [hissues, code, Nat.ne_of_gt hissues]
  · simp [code, Nat.eq_zero_of_not_pos hissues]

end ExitStatus

namespace Program

open Check

/-- **Exit status.** A run that checks documents has status 2 if its options cannot be used, the
search or the start of the report fails, or some document does, whatever was reported before. Else
all documents that were found have results, the status is 1 if one of them has a diagnostic, and 0
if none has. The summary counts the documents, those with a diagnostic, and the diagnostics of all
results. -/
theorem exit_status_of_check (h : Host σ) (e : Environment) (args : List Text) (d : Disk) (s : σ)
    {verbose : Bool} {q : CheckRequest} {p : Presentation}
    (hargs : Invocation.ofArguments args = .ok ⟨verbose, .check q p⟩) :
    ((run h e args d s).status.code = 2 ↔ ∃ err, Fails h e q d s err) ∧
    ((¬ ∃ err, Fails h e q d s err) → ∃ v documents begun results ended totals,
      Starts h e q d s v documents begun ∧
      (engine h e v).LintsAll begun documents results ended ∧
      (Check.run h e q d s).results = results ∧
      results.map DocumentResult.document = documents ∧
      ((run h e args d s).status.code = 1 ↔ ∃ r ∈ results, r.diagnostics ≠ []) ∧
      ((run h e args d s).status.code = 0 ↔ ∀ r ∈ results, r.diagnostics = []) ∧
      (Check.run h e q d s).outcome = .ok totals ∧
      totals.issues = (results.map fun r => r.diagnostics.length).sum ∧
      totals.documents = documents.length ∧
      totals.withIssues = results.countP DocumentResult.hasDiagnostics ∧
      (p.quiet = false → p.silent = false → ∀ line,
        Render.summary p.format (Log.forcesColours e) totals.documents totals.withIssues
          totals.issues = some line →
        line ++ ['\n'] <:+ (run h e args d s).screen.stderr) ∧
      (totals.issues = 0 ↔ totals.withIssues = 0) ∧
      totals.withIssues ≤ totals.issues ∧
      totals.withIssues ≤ totals.documents) := by
  rw [status_of_check hargs]
  refine ⟨?_, ?_⟩
  · rw [ExitStatus.code_status_eq_two_iff]
    exact exists_congr fun err => outcome_eq_error_iff h e q d s err
  · intro hfine
    rcases fails_or_lints h e q d s with hfails | ⟨v, documents, begun, results, t, hstarts, hall⟩
    · exact absurd hfails hfine
    -- the totals of the report are those of the results
    obtain ⟨hresults, houtcome⟩ := hstarts.finished hall
    obtain ⟨hdocuments, -, -⟩ := hall.counts
    have hnone := DocumentResult.issues_eq_zero_iff results
    obtain ⟨hone, hzero⟩ := ExitStatus.code_status_of_ok houtcome
    refine ⟨v, documents, begun, results, t, _, hstarts, hall, hresults, hdocuments, ?_, ?_,
      houtcome, rfl, rfl, rfl, ?_, ?_, ?_, ?_⟩
    · rw [hone, Ne, hnone]
      simp
    · rw [hzero, hnone]
    · intro hquiet hsilent line hline
      rw [run_of_check hargs]
      simp only [CheckRun.screen, houtcome]
      exact Presentation.summary_suffix_finish hquiet hsilent hline _ _
    · rw [hnone, DocumentResult.withIssues_eq_zero_iff]
    · exact DocumentResult.withIssues_le_issues results
    · rw [← hdocuments, List.length_map]
      exact List.countP_le_length

/-- Two documents, the first of which has a diagnostic. If the second fails, so does the run; if it
has no findings, the diagnostic decides. -/
theorem exit_status_of_check_found_and_failed :
    let h (last : String) : Host Nat := ⟨fun _ _ n =>
      (.ok { stdout := Text.utf8 (match n with
        | 0 => "version: 0.9.0\n".toList
        | 1 => "[[2,1,1,\"m\"]]".toList
        | _ => last.toList) }, n + 1)⟩
    let e : Environment := [("PATH".toList, "/bin".toList)]
    let block := Text.utf8 ".. code:: sh\n\n $ ls\n".toList
    let d : Disk := ⟨[(["bin".toList], .directory),
      (["bin".toList, "shellcheck".toList], .file true []), (["tmp".toList], .directory),
      (["a.rst".toList], .file false block), (["b.rst".toList], .file false block)], []⟩
    let args := ["check".toList, "a.rst".toList, "b.rst".toList]
    let q : CheckRequest := { paths := [.ofString "a.rst", .ofString "b.rst"] }
    Invocation.ofArguments args = .ok ⟨false, .check q {}⟩ ∧
    ((∃ err, Fails (h "oops") e q d 0 err) ∧
      ∃ r ∈ (Check.run (h "oops") e q d 0).results, r.diagnostics ≠ []) ∧
    (run (h "[]") e args d 0).status.code = 1 ∧
      "Found 1 issue(s) in 1 of 2 document(s)".toList ++ ['\n'] <:+
        (run (h "[]") e args d 0).screen.stderr := by
  intro h e block d args q
  have hargs : Invocation.ofArguments args = .ok ⟨false, .check q {}⟩ := by decide +kernel
  let v : ValidConfig :=
    { checked := ⟨Dialect.all, '$', false, 8⟩, executable := .ofString "/bin/shellcheck"
      version := ⟨0, 9, 0⟩, timeout := 30000, reportFile := none, searchPath := [.ofString "."]
      exclude := [] }
  have hfound : (Discovery.findDocuments d q.paths v.exclude).1 = .ok q.paths := by
    have hsorted : q.paths.mergeSort Path.le = q.paths :=
      List.mergeSort_of_pairwise (by decide +kernel)
    have hpaths : (Discovery.findDocuments d q.paths v.exclude).1 =
        .ok (Discovery.dropRepeats (q.paths.mergeSort Path.le)) := rfl
    rw [hpaths, hsorted]
    decide +kernel
  have hrun : ∀ last, ∃ told, told.filterMap Event.result? = [] ∧ Check.run (h last) e q d 0 =
      (lintInto (engine (h last) e v) q.paths {} d 1).after told := by
    intro last
    have hstarts : Starts (h last) e q d 0 v q.paths { disk := d, tools := 1 } :=
      ⟨rfl, hfound, rfl, rfl, rfl⟩
    exact hstarts.run_eq
  refine ⟨hargs, ?_, ?_⟩
  · -- the linter's last answer is not a list of findings, so the second document fails
    have hlint : (lintInto (engine (h "oops") e v) q.paths {} d 1).status.code = 2 := by
      decide +kernel
    have hresults : (lintInto (engine (h "oops") e v) q.paths {} d 1).results.any
        DocumentResult.hasDiagnostics = true := by decide +kernel
    obtain ⟨told, -, hfailed⟩ := hrun "oops"
    have hcode : (run (h "oops") e args d 0).status.code = 2 := by
      rw [status_of_check hargs, ExitStatus.code_status_eq_two_iff, hfailed, CheckRun.outcome_after]
      exact (ExitStatus.code_status_eq_two_iff _).mp hlint
    refine ⟨(exit_status_of_check (h "oops") e args d 0 hargs).1.mp hcode, ?_⟩
    obtain ⟨r, hr, hdiagnostics⟩ := List.any_eq_true.mp hresults
    refine ⟨r, ?_, (DocumentResult.hasDiagnostics_iff r).mp hdiagnostics⟩
    rw [hfailed, CheckRun.results_after]
    exact List.mem_append_right _ hr
  · have hlint : (lintInto (engine (h "[]") e v) q.paths {} d 1).outcome = .ok ⟨2, 1, 1⟩ := by
      decide +kernel
    obtain ⟨told, -, hfine⟩ := hrun "[]"
    have houtcome : (Check.run (h "[]") e q d 0).outcome = .ok ⟨2, 1, 1⟩ := by
      rw [hfine, CheckRun.outcome_after, hlint]
    have hcode : (run (h "[]") e args d 0).status.code = 1 := by
      rw [status_of_check hargs]
      exact (ExitStatus.code_status_of_ok houtcome).1.mpr (by decide)
    obtain ⟨htwo, hrest⟩ := exit_status_of_check (h "[]") e args d 0 hargs
    have hfine : ¬ ∃ err, Fails (h "[]") e q d 0 err := by
      rw [← htwo, hcode]
      decide
    obtain ⟨-, -, -, -, -, totals, -, -, -, -, -, -, htotals, -, -, -, hsummary, -⟩ := hrest hfine
    obtain rfl := Except.ok.inj (houtcome.symm.trans htotals)
    exact ⟨hcode, hsummary rfl rfl _ (by decide +kernel)⟩

end Program
end TranscriptLint
