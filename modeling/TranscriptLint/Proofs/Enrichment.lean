import TranscriptLint.Proofs.LintRun

namespace TranscriptLint

/-! # Linters that remember more

A linter may keep more in its state than another one, such as a list of the calls that were made. If
it gives the same answers, documents are linted in the same way, and forgetting what it keeps beyond
the other leads from the one session to the other.

* `Engine.Enriches`: the engine gives the same answers as another one, and `f` forgets the rest.
* `Engine.Enriches.lintBlocks` and `Engine.Enriches.lintFile`: then blocks and documents are linted
  the same.
-/

variable {σ τ : Type}

namespace Session

/-- The session with another state of the linter. -/
def mapTools (f : τ → σ) (s : Session τ) : Session σ := { s with tools := f s.tools }

variable (f : τ → σ) (s : Session τ)

theorem close_mapTools (r : DocumentResult) : (s.close r).mapTools f = (s.mapTools f).close r := by
  unfold close
  split <;> rfl

theorem append_mapTools (entry : ReportEntry) :
    (s.mapTools f).append entry = ((s.append entry).1, (s.append entry).2.mapTools f) := by
  unfold append mapTools
  cases s.report.writeEntry s.disk entry <;> rfl

theorem appendAll_mapTools (entries : List ReportEntry) :
    (s.mapTools f).appendAll entries =
      ((s.appendAll entries).1, (s.appendAll entries).2.mapTools f) := by
  induction entries generalizing s with
  | nil => rfl
  | cons entry entries ih =>
    rw [appendAll, appendAll, append_mapTools]
    rcases s.append entry with ⟨written, t⟩
    cases written with
    | error err => rfl
    | ok _ => exact ih t

end Session

namespace Engine

/-- An engine that does what another one does, with a linter that remembers more. -/
structure Enriches (e' : Engine τ) (f : τ → σ) (e : Engine σ) : Prop where
  scanner : e'.scanner = e.scanner
  prompt : e'.prompt = e.prompt
  interpreter : e'.interpreter = e.interpreter
  lint : ∀ d dialect script t, e.lint d dialect script (f t) =
    ((e'.lint d dialect script t).1, f (e'.lint d dialect script t).2)

namespace Enriches

variable {f : τ → σ} {e' : Engine τ} {e : Engine σ} (h : e'.Enriches f e) (s : Session τ)
include h

theorem interpreterOf (d : Dialect) :
    e.interpreterOf d (s.mapTools f) =
      ((e'.interpreterOf d s).1, (e'.interpreterOf d s).2.mapTools f) := by
  unfold Engine.interpreterOf Session.mapTools
  rw [h.interpreter]
  cases s.interpreters.lookup d <;> rfl

theorem callFor (b : CodeBlock) :
    e.callFor b (s.mapTools f) =
      ⟨s.disk, b.dialect, (e'.callFor b s).script, f s.tools⟩ := by
  unfold Engine.callFor script
  rw [h.interpreterOf, h.prompt]
  rfl

theorem verdict (document : Path) (b : CodeBlock) :
    e'.verdict document (e'.callFor b s) = e.verdict document (e.callFor b (s.mapTools f)) := by
  rw [h.callFor]
  unfold Engine.verdict
  rw [h.lint]
  rfl

theorem called (b : CodeBlock) : (e'.called b s).mapTools f = e.called b (s.mapTools f) := by
  unfold Engine.called
  rw [h.callFor, h.interpreterOf]
  simp only [h.lint]
  rfl

/-- Blocks are linted the same. -/
theorem lintBlocks (document : Text) (bs : List CodeBlock) (state : DocumentState) :
    e.lintBlocks document bs state (s.mapTools f) =
      ((e'.lintBlocks document bs state s).1,
        (e'.lintBlocks document bs state s).2.mapTools f) := by
  induction bs generalizing state s with
  | nil => rfl
  | cons b bs ih =>
    -- both engines come to the same verdict, and so take the same way through the block
    have hsame := h.verdict s b.document b
    have hoffset : e'.offset b = e.offset b := by
      unfold offset
      rw [h.prompt]
    cases hverdict : e.verdict b.document (e.callFor b (s.mapTools f)) with
    | error err =>
      rw [hverdict] at hsame
      rw [lintBlocks_of_error hverdict, lintBlocks_of_error hsame, h.called]
    | ok findings =>
      rw [hverdict] at hsame
      rcases hrecord : state.record b (e.offset b) findings with ⟨fresh, kept⟩
      have hrecord' := hrecord
      rw [← hoffset] at hrecord'
      rcases hentries : entriesOf s.disk document b.source fresh kept with ⟨entries, entered⟩
      have hforget := (e'.called b s).appendAll_mapTools f entries
      rw [h.called] at hforget
      rcases happend : (e'.called b s).appendAll entries with ⟨written, t⟩
      rw [happend] at hforget
      cases written with
      | error err =>
        rw [lintBlocks_of_unwritten hverdict hrecord hentries hforget,
          lintBlocks_of_unwritten hsame hrecord' hentries happend]
      | ok _ =>
        rw [lintBlocks_of_written hverdict hrecord hentries hforget,
          lintBlocks_of_written hsame hrecord' hentries happend, ih t]

/-- Documents are linted the same. -/
theorem lintDocument (path : Path) (content : Text) :
    e.lintDocument path content (s.mapTools f) =
      ((e'.lintDocument path content s).1, (e'.lintDocument path content s).2.mapTools f) := by
  have hopening : (s.mapTools f).tell (e.opening path content s.disk) =
      (s.tell (e'.opening path content s.disk)).mapTools f := by
    unfold opening
    rw [h.scanner]
    rfl
  have hdisk : (s.mapTools f).disk = s.disk := rfl
  rw [lintDocument_eq, lintDocument_eq, hdisk, hopening, h.scanner, h.lintBlocks]
  rcases e'.lintBlocks path.text (e.scanner.scan s.disk path content).1 {}
    (s.tell (e'.opening path content s.disk)) with ⟨outcome, t⟩
  cases outcome with
  | error err => rfl
  | ok entries => simp only [Session.close_mapTools]

theorem lintFile (path : Path) :
    e.lintFile path (s.mapTools f) =
      ((e'.lintFile path s).1, (e'.lintFile path s).2.mapTools f) := by
  unfold Engine.lintFile
  have hdisk : (s.mapTools f).disk = s.disk := rfl
  rw [hdisk]
  cases s.disk.readText? path with
  | error fault => rfl
  | ok content => exact h.lintDocument s path content

end Enriches
end Engine
end TranscriptLint
