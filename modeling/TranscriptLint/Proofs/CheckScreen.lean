import TranscriptLint.Program

namespace TranscriptLint

/-! # What a check shows

The screen of a check is made from its events and its outcome.

* `Program.run_of_check`: a run of the program that checks documents is the check with its screen.
* `CheckRun.stdout_screen`: what has to hold so that nothing comes to the standard output stream.
* `Presentation.summary_suffix_finish`: the summary is the last that is shown.
-/

variable {σ : Type}

namespace Program

/-- The screen on which a command starts. It holds what is wrong with the filter of notices. -/
def startScreen (e : Environment) (verbose : Bool) : Screen :=
  (Log.filter e verbose).2.foldl (fun (s : Screen) m =>
    s.report ("warning: ".toList ++ m ++ ", ignoring it".toList)) {}

/-- How the notices of a check are shown. -/
def logSettings (e : Environment) (verbose : Bool) : LogSettings :=
  ⟨(Log.filter e verbose).1, (e.get? "RUST_LOG").isSome, Log.usesColours e⟩

theorem run_of_check {h : Host σ} {e : Environment} {args : List Text} {verbose : Bool}
    {q : CheckRequest} {p : Presentation}
    (hargs : Invocation.ofArguments args = .ok ⟨verbose, .check q p⟩) (d : Disk) (s : σ) :
    run h e args d s =
      ⟨(Check.run h e q d s).status,
        (Check.run h e q d s).screen p (Log.forcesColours e) (logSettings e verbose)
          (startScreen e verbose),
        (Check.run h e q d s).disk, (Check.run h e q d s).tools⟩ := by
  rw [run, hargs]
  rfl

theorem status_of_check {h : Host σ} {e : Environment} {args : List Text} {verbose : Bool}
    {q : CheckRequest} {p : Presentation}
    (hargs : Invocation.ofArguments args = .ok ⟨verbose, .check q p⟩) (d : Disk) (s : σ) :
    (run h e args d s).status = (Check.run h e q d s).status := by
  rw [run_of_check hargs]

/-- Complaints about the filter are not results. -/
theorem stdout_startScreen (e : Environment) (verbose : Bool) :
    (startScreen e verbose).stdout = [] := by
  -- every complaint goes to the other stream
  have hkept : ∀ (bad : List Text) (s : Screen),
      (bad.foldl (fun (s : Screen) m =>
        s.report ("warning: ".toList ++ m ++ ", ignoring it".toList)) s).stdout = s.stdout := by
    intro bad
    induction bad with
    | nil => exact fun _ => rfl
    | cons m bad ih => exact fun s => ih _
  exact hkept _ _

end Program

@[simp] theorem LogSettings.stdout_tell (l : LogSettings) (s : Screen) (n : Notice) :
    (l.tell s n).stdout = s.stdout := by
  unfold tell
  split <;> rfl

namespace CheckRun

/-- Only documents come to the standard output stream while events are shown. -/
theorem stdout_showEvents {p : Presentation} {colours : Bool} {events : List Event}
    (h : ∀ r, .document r ∈ events → ∀ s, (p.document colours s r).stdout = s.stdout)
    (l : LogSettings) (s : Screen) :
    (showEvents p colours events l s).stdout = s.stdout := by
  induction events generalizing l s with
  | nil => rfl
  | cons event events ih =>
    have hrest := ih fun r hr => h r (List.mem_cons_of_mem _ hr)
    cases event with
    | notice n => rw [showEvents, hrest, LogSettings.stdout_tell]
    | debugging => rw [showEvents, hrest]
    | document r => rw [showEvents, hrest, h r (List.mem_cons_self ..)]

/-- Nothing comes to the standard output stream if no document does, and what ends a check that did
not fail does not either. -/
theorem stdout_screen {r : CheckRun σ} {p : Presentation} {colours : Bool}
    (hdocuments : ∀ result, .document result ∈ r.events → ∀ s,
      (p.document colours s result).stdout = s.stdout)
    (hfinish : ∀ t, r.outcome = .ok t → ∀ s, (p.finish colours s r.results t).stdout = s.stdout)
    (l : LogSettings) (s : Screen) : (r.screen p colours l s).stdout = s.stdout := by
  have hevents := stdout_showEvents hdocuments l s
  unfold screen
  cases houtcome : r.outcome with
  | error err => exact hevents
  | ok t => exact (hfinish t houtcome _).trans hevents

end CheckRun

namespace Presentation

/-- A silent presentation shows no results. -/
theorem document_of_silent {p : Presentation} (h : p.silent = true) (colours : Bool) (s : Screen)
    (r : DocumentResult) : p.document colours s r = s := by
  simp [document, result, h]

theorem finish_of_silent {p : Presentation} (h : p.silent = true) (colours : Bool) (s : Screen)
    (rs : List DocumentResult) (t : Totals) : p.finish colours s rs t = s := by
  unfold finish
  simp only [result, h, Bool.or_true, if_true, ite_self]
  split <;> rfl

/-- The summary is the last line on the standard error stream, if a summary is shown at all. -/
theorem summary_suffix_finish {p : Presentation} (hquiet : p.quiet = false)
    (hsilent : p.silent = false) {colours : Bool} {t : Totals} {line : Text}
    (h : Render.summary p.format colours t.documents t.withIssues t.issues = some line)
    (s : Screen) (rs : List DocumentResult) :
    line ++ ['\n'] <:+ (p.finish colours s rs t).stderr := by
  unfold finish
  simp only [h, hquiet, hsilent, Bool.or_self, Bool.false_eq_true, if_false, Screen.report]
  rw [List.append_assoc]
  exact List.suffix_append ..

end Presentation
end TranscriptLint
