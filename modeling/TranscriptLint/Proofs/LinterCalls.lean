import Mathlib.Data.List.Forall2
import TranscriptLint.Proofs.DocumentCoordinates
import TranscriptLint.Proofs.Enrichment
import TranscriptLint.Proofs.Headers

namespace TranscriptLint

/-! # Calls of the linter

Which calls of the linter the linting of a document makes is seen by a linter that writes down its
calls and otherwise answers as before.

* `Engine.recording` is the engine with such a linter, and `Engine.lintDocument_forget` says that it
  does the same.
* `Engine.Lints.calls`: the blocks that went through made one call each, in their order.
* `Engine.failing_block_ends_document`: what happens when a call fails.
-/

namespace Session

variable {σ : Type}

/-- The session in which calls are written down; there were none so far. -/
def recording (s : Session σ) : Session (σ × List (LintCall σ)) := { s with tools := (s.tools, []) }

/-- The session without the calls. -/
def forget (s : Session (σ × List (LintCall σ))) : Session σ := { s with tools := s.tools.1 }

theorem close_forget (s : Session (σ × List (LintCall σ))) (r : DocumentResult) :
    (s.close r).forget = s.forget.close r := s.close_mapTools Prod.fst r

theorem appendAll_forget (s : Session (σ × List (LintCall σ))) (entries : List ReportEntry) :
    s.forget.appendAll entries = ((s.appendAll entries).1, (s.appendAll entries).2.forget) :=
  s.appendAll_mapTools Prod.fst entries

/-- Appending entries leaves the linter and the interpreters alone. -/
theorem appendAll_frame (s : Session σ) (entries : List ReportEntry) :
    (s.appendAll entries).2.tools = s.tools ∧
      (s.appendAll entries).2.interpreters = s.interpreters := by
  induction entries generalizing s with
  | nil => exact ⟨rfl, rfl⟩
  | cons entry entries ih =>
    rw [appendAll]
    rcases s.append_cases entry with ⟨disk, -, happend⟩ | ⟨fault, happend⟩
    · rw [happend]
      exact ih _
    · rw [happend]
      exact ⟨rfl, rfl⟩

end Session

namespace Engine

variable {σ : Type}

/-! ## Writing down calls -/

/-- The engine with a linter that writes down its calls. -/
def recording (e : Engine σ) : Engine (σ × List (LintCall σ)) where
  scanner := e.scanner
  prompt := e.prompt
  lint := fun disk dialect script tools =>
    let answer := e.lint disk dialect script tools.1
    (answer.1, answer.2, tools.2 ++ [⟨disk, dialect, script, tools.1⟩])
  interpreter := e.interpreter

/-- The calls that linting a document makes, in order. -/
def calls (e : Engine σ) (path : Path) (content : Text) (s : Session σ) : List (LintCall σ) :=
  (e.recording.lintDocument path content s.recording).2.tools.2

/-- Writing down the calls adds to what the linter remembers, and changes nothing else. -/
theorem recording_enriches (e : Engine σ) : e.recording.Enriches Prod.fst e :=
  ⟨rfl, rfl, rfl, fun _ _ _ _ => rfl⟩

section Forgetting

variable (e : Engine σ) (s : Session (σ × List (LintCall σ)))

theorem verdict_forget (document : Path) (b : CodeBlock) :
    e.recording.verdict document (e.recording.callFor b s) =
      e.verdict document (e.callFor b s.forget) := e.recording_enriches.verdict s document b

theorem called_forget (b : CodeBlock) :
    (e.recording.called b s).forget = e.called b s.forget := e.recording_enriches.called s b

/-- The call for a block is the one call that is written down. -/
theorem called_tools (b : CodeBlock) :
    (e.recording.called b s).tools.2 = s.tools.2 ++ [e.callFor b s.forget] := by
  have hcall : e.callFor b s.forget =
      ⟨s.disk, b.dialect, (e.recording.callFor b s).script, s.tools.1⟩ :=
    e.recording_enriches.callFor s b
  rw [hcall]
  rfl

theorem lintDocument_forget (path : Path) (content : Text) :
    e.lintDocument path content s.forget =
      ((e.recording.lintDocument path content s).1,
        (e.recording.lintDocument path content s).2.forget) :=
  e.recording_enriches.lintDocument s path content

end Forgetting

/-! ## One call for each block -/

/-- The call is the one for this block: its dialect, and its script for the interpreter that is known
for the dialect. -/
structure MadeFor (e : Engine σ) (known : List (Dialect × Interpreter)) (b : CodeBlock)
    (c : LintCall σ) : Prop where
  dialect : c.dialect = b.dialect
  script : ∃ i, known.lookup b.dialect = some i ∧ c.script = (e.script b i).text

/-- The call of a block that went through: it was made for the block and gave its findings. -/
structure MadeBy (e : Engine σ) (path : Path) (known : List (Dialect × Interpreter))
    (l : LintedBlock) (c : LintCall σ) : Prop where
  madeFor : e.MadeFor known l.block c
  verdict : e.verdict path c = .ok l.findings

/-- Interpreters that become known later do not matter. -/
theorem MadeFor.mono {e : Engine σ} {known more : List (Dialect × Interpreter)} {b : CodeBlock}
    {c : LintCall σ} (h : e.MadeFor known b c) (hmore : known <+: more) : e.MadeFor more b c := by
  obtain ⟨hdialect, i, hknown, hscript⟩ := h
  obtain ⟨rest, rfl⟩ := hmore
  refine ⟨hdialect, i, ?_, hscript⟩
  rw [List.lookup_append, hknown]
  rfl

/-- The interpreter that is used is known afterwards, and those known before stay known. -/
theorem interpreterOf_known (e : Engine σ) (d : Dialect) (s : Session σ) :
    (e.interpreterOf d s).2.interpreters.lookup d = some (e.interpreterOf d s).1 ∧
      s.interpreters <+: (e.interpreterOf d s).2.interpreters := by
  unfold interpreterOf
  cases hknown : s.interpreters.lookup d with
  | some i => exact ⟨hknown, List.prefix_refl _⟩
  | none =>
    refine ⟨?_, List.prefix_append _ _⟩
    simp only
    rw [List.lookup_append, hknown]
    simp

/-- The call for a block is made for it. -/
theorem madeFor_recorded (e : Engine σ) (b : CodeBlock) (s : Session (σ × List (LintCall σ))) :
    e.MadeFor (e.recording.called b s).interpreters b (e.callFor b s.forget) := by
  have hsame : (e.recording.called b s).interpreters = (e.called b s.forget).interpreters := by
    rw [← called_forget]
    rfl
  rw [hsame]
  exact ⟨rfl, _, (e.interpreterOf_known b.dialect s.forget).1, rfl⟩

/-- The blocks that went through made one call each, in their order, and no interpreter was
forgotten. -/
theorem Lints.calls {e : Engine σ} {path : Path} {document : Text}
    {state state' : DocumentState} {s u : Session (σ × List (LintCall σ))} {ls : List LintedBlock}
    (h : e.recording.Lints document state s ls state' u)
    (hdocument : ∀ l ∈ ls, l.block.document = path) :
    s.interpreters <+: u.interpreters ∧ ∃ made, u.tools.2 = s.tools.2 ++ made ∧
      List.Forall₂ (e.MadeBy path u.interpreters) ls made := by
  induction h with
  | nil => exact ⟨List.prefix_refl _, [], by simp, .nil⟩
  | @cons _ _ _ _ s t u l ls hverdict _ _ happend _ ih =>
    obtain ⟨hmore, made, htools, hmade⟩ :=
      ih fun l' hl' => hdocument l' (List.mem_cons_of_mem _ hl')
    -- appending the lines comes between this call and the next, and leaves both tables alone
    have hframe := (e.recording.called l.block s).appendAll_frame l.entries
    rw [happend] at hframe
    have hknown : (e.recording.called l.block s).interpreters <+: u.interpreters := by
      rw [← hframe.2]
      exact hmore
    refine ⟨(e.recording.interpreterOf_known _ _).2.trans hknown, e.callFor l.block s.forget :: made,
      ?_, .cons ⟨(e.madeFor_recorded l.block s).mono hknown, ?_⟩ hmade⟩
    · rw [htools, hframe.1, called_tools, List.append_assoc, List.singleton_append]
    · rw [← hdocument l (List.mem_cons_self ..), ← verdict_forget]
      exact hverdict

/-- The block at which a document ends made one call too, and either the call failed, and nothing was
written, or its lines could not be written. -/
theorem Ends.call {e : Engine σ} {b : CodeBlock} {left : List CodeBlock} {err : LintError}
    {u t : Session (σ × List (LintCall σ))} (h : e.recording.Ends (b :: left) u (.error err) t) :
    u.interpreters <+: t.interpreters ∧ ∃ c, t.tools.2 = u.tools.2 ++ [c] ∧
      e.MadeFor t.interpreters b c ∧
      (e.verdict b.document c = .error err ∧ t.disk = u.disk ∧ t.report = u.report ∨
        (∃ findings, e.verdict b.document c = .ok findings) ∧ ∃ fault, err = .report fault) := by
  have hknown := (e.recording.interpreterOf_known b.dialect u).2
  cases h with
  | failed hverdict =>
    rw [verdict_forget] at hverdict
    exact ⟨hknown, _, e.called_tools u b, e.madeFor_recorded b u,
      .inl ⟨hverdict, by simp, by simp⟩⟩
  | @unwritten _ _ _ _ findings entries fault hverdict happend =>
    rw [verdict_forget] at hverdict
    have hframe := (e.recording.called b u).appendAll_frame entries
    rw [happend] at hframe
    have htools := (congrArg Prod.snd hframe.1).trans (e.called_tools u b)
    refine ⟨?_, _, htools, ?_, .inr ⟨⟨findings, hverdict⟩, fault, rfl⟩⟩
    · rw [hframe.2]
      exact hknown
    · rw [hframe.2]
      exact e.madeFor_recorded b u

/-- Forgetting the calls of a run gives a run. -/
theorem Lints.forget {e : Engine σ} {document : Text} {state state' : DocumentState}
    {s u : Session (σ × List (LintCall σ))} {ls : List LintedBlock}
    (h : e.recording.Lints document state s ls state' u) :
    e.Lints document state s.forget ls state' u.forget := by
  induction h with
  | nil => exact .nil
  | @cons _ _ _ _ s t u l ls hverdict hrecord hentries happend _ ih =>
    rw [verdict_forget] at hverdict
    refine .cons hverdict hrecord hentries ?_ ih
    rw [← called_forget, Session.appendAll_forget, happend]

end Engine

/-! ## The calls for a document -/

/-- The blocks of a document name it. -/
theorem Scanner.document_of_mem_scan {s : Scanner} {d : Disk} {path : Path} {content : Text}
    {b : CodeBlock} (h : b ∈ (s.scan d path content).1) : b.document = path := by
  rcases mem_scan_cases h with ⟨literal, -, hblock⟩ | ⟨literal, -, hblock⟩ |
      ⟨_, _, a, literal, -, -, -, hblock⟩
  all_goals
    obtain ⟨dialect, -, rfl⟩ := Option.map_eq_some_iff.mp hblock
    rfl

namespace Engine

/-- The calls for a document: one for each block that went through, and if the document ended at a
block, one more for that block. -/
theorem calls_cases (e : Engine σ) (path : Path) (content : Text) (s : Session σ) :
    let blocks := (e.scanner.scan s.disk path content).1
    let outcome := e.lintDocument path content s
    ∃ ls state u made,
      e.Lints path.text {} (s.tell (e.opening path content s.disk)) ls state u ∧
      List.Forall₂ (e.MadeBy path outcome.2.interpreters) ls made ∧
      ((blocks = ls.map LintedBlock.block ∧ e.calls path content s = made ∧
          ∃ r : DocumentResult, r.entries = ls.flatMap LintedBlock.entries ∧
            outcome = (.ok r, u.close r)) ∨
        ∃ b left c err, blocks = ls.map LintedBlock.block ++ b :: left ∧
          e.calls path content s = made ++ [c] ∧ e.MadeFor outcome.2.interpreters b c ∧
          outcome.1 = .error err ∧
          (e.verdict path c = .error err ∧ outcome.2.disk = u.disk ∧
              outcome.2.report = u.report ∨
            (∃ findings, e.verdict path c = .ok findings) ∧ ∃ fault, err = .report fault)) := by
  intro blocks outcome
  have hforget : outcome = ((e.recording.lintDocument path content s.recording).1,
      (e.recording.lintDocument path content s.recording).2.forget) :=
    e.lintDocument_forget s.recording path content
  have hcalls : e.calls path content s =
      (e.recording.lintDocument path content s.recording).2.tools.2 := rfl
  have hdocument : ∀ b ∈ blocks, b.document = path := fun _ => Scanner.document_of_mem_scan
  obtain ⟨ls, state, u, hlints, hend⟩ := e.recording.lintDocument_cases path content s.recording
  have hlinted : ∀ l ∈ ls, l.block.document = path := by
    intro l hl
    apply hdocument
    rcases hend with ⟨hblocks, -⟩ | ⟨b, left, err, t, hblocks, -, -⟩
    · rw [show blocks = ls.map LintedBlock.block from hblocks]
      exact List.mem_map_of_mem hl
    · rw [show blocks = ls.map LintedBlock.block ++ b :: left from hblocks]
      exact List.mem_append_left _ (List.mem_map_of_mem hl)
  obtain ⟨-, made, htools, hmade⟩ := hlints.calls hlinted
  refine ⟨ls, state, u.forget, made, hlints.forget, ?_⟩
  rcases hend with ⟨hblocks, r, hentries, heq⟩ | ⟨b, left, err, t, hblocks, hends, heq⟩
  · rw [hforget, hcalls, heq]
    simp only [Session.close_tools, Session.close_forget]
    refine ⟨?_, .inl ⟨hblocks, htools, r, hentries, rfl⟩⟩
    rw [Session.close_interpreters]
    exact hmade
  · -- the call of the last block comes behind those that went through
    rw [hforget, hcalls, heq]
    obtain ⟨hmore, c, hlast, hc, hverdict⟩ := hends.call
    have hb : b.document = path := hdocument b (by
      rw [show blocks = ls.map LintedBlock.block ++ b :: left from hblocks]
      simp)
    rw [hb] at hverdict
    refine ⟨hmade.imp fun _ _ h => ⟨h.madeFor.mono hmore, h.verdict⟩,
      .inr ⟨b, left, c, err, hblocks, ?_, hc, rfl, hverdict⟩⟩
    rw [hlast, htools]
    rfl

/-- The calls of blocks that went through succeeded. -/
theorem verdict_of_mem {e : Engine σ} {path : Path} {known : List (Dialect × Interpreter)}
    {ls : List LintedBlock} {made : List (LintCall σ)}
    (h : List.Forall₂ (e.MadeBy path known) ls made) :
    ∀ c ∈ made, ∃ findings, e.verdict path c = .ok findings := by
  intro c hc
  induction h with
  | nil => simp at hc
  | @cons l c' _ _ hhead _ ih =>
    rcases List.mem_cons.mp hc with rfl | hrest
    · exact ⟨l.findings, hhead.verdict⟩
    · exact ih hrest

section Document

variable (e : Engine σ) (path : Path) (content : Text) (s : Session σ)

/-- The calls are made for the first blocks, in their order. -/
theorem forall₂_madeFor_calls :
    (e.calls path content s).length ≤ (e.scanner.scan s.disk path content).1.length ∧
      List.Forall₂ (e.MadeFor (e.lintDocument path content s).2.interpreters)
        ((e.scanner.scan s.disk path content).1.take (e.calls path content s).length)
        (e.calls path content s) := by
  obtain ⟨ls, state, u, made, -, hmade, hend⟩ := e.calls_cases path content s
  have hlength : (ls.map LintedBlock.block).length = made.length := by
    rw [List.length_map, hmade.length_eq]
  have hblocks := List.forall₂_map_left_iff.mpr (hmade.imp fun _ _ h => h.madeFor)
  rcases hend with ⟨hall, hcalls, -⟩ | ⟨b, left, c, err, hsplit, hcalls, hc, -⟩
  · rw [hall, hcalls, ← hlength, List.take_length]
    exact ⟨le_refl _, hblocks⟩
  · rw [hsplit, hcalls, List.length_append, ← hlength, List.take_length_add_append]
    exact ⟨by simp, List.rel_append hblocks (.cons hc .nil)⟩

/-- No call comes behind a failed one. -/
theorem verdict_of_mem_dropLast_calls {c : LintCall σ}
    (hc : c ∈ (e.calls path content s).dropLast) : ∃ findings, e.verdict path c = .ok findings := by
  obtain ⟨ls, state, u, made, -, hmade, hend⟩ := e.calls_cases path content s
  apply verdict_of_mem hmade
  rcases hend with ⟨-, hcalls, -⟩ | ⟨_, _, _, _, -, hcalls, -⟩
  · rw [hcalls] at hc
    exact List.dropLast_subset _ hc
  · rwa [hcalls, List.dropLast_concat] at hc

/-- Without a failed call all blocks have theirs, unless the report cannot be written. -/
theorem length_calls_of_ok
    (h : ∀ c ∈ e.calls path content s, ∃ findings, e.verdict path c = .ok findings) :
    ((e.calls path content s).length = (e.scanner.scan s.disk path content).1.length ∧
        ∃ r, (e.lintDocument path content s).1 = .ok r) ∨
      ∃ fault, (e.lintDocument path content s).1 = .error (.report fault) := by
  obtain ⟨ls, state, u, made, -, hmade, hend⟩ := e.calls_cases path content s
  rcases hend with ⟨hall, hcalls, r, -, houtcome⟩ |
      ⟨b, left, c, err, -, hcalls, -, herror, ⟨hfailed, -, -⟩ | ⟨-, fault, rfl⟩⟩
  · refine .inl ⟨?_, r, congrArg Prod.fst houtcome⟩
    rw [hall, hcalls, List.length_map, hmade.length_eq]
  · obtain ⟨findings, hok⟩ := h c (by rw [hcalls]; simp)
    rw [hfailed] at hok
    simp at hok
  · exact .inr ⟨fault, herror⟩

/-- A failed call is the last one. What is left is what the blocks before it leave. -/
theorem lints_before_failed_call {earlier : List (LintCall σ)} {c : LintCall σ} {err : LintError}
    (hcalls : e.calls path content s = earlier ++ [c]) (hfailed : e.verdict path c = .error err) :
    (e.lintDocument path content s).1 = .error err ∧ ∃ ls state u,
      e.Lints path.text {} (s.tell (e.opening path content s.disk)) ls state u ∧
      (e.scanner.scan s.disk path content).1.take earlier.length = ls.map LintedBlock.block ∧
      (e.lintDocument path content s).2.disk = u.disk ∧
      (e.lintDocument path content s).2.report = u.report := by
  obtain ⟨ls, state, u, made, hlints, hmade, hend⟩ := e.calls_cases path content s
  rcases hend with ⟨-, hmade', -⟩ | ⟨b, left, c', err', hsplit, hcalls', -, herror, hcause⟩
  · -- the calls of the blocks that went through succeeded
    obtain ⟨findings, hok⟩ := verdict_of_mem hmade c (by rw [← hmade', hcalls]; simp)
    rw [hfailed] at hok
    simp at hok
  · rw [hcalls] at hcalls'
    obtain ⟨rfl, hlast⟩ := List.append_inj' hcalls' rfl
    obtain rfl := List.singleton_inj.mp hlast
    rcases hcause with ⟨hfailed', hdisk, hreport⟩ | ⟨⟨findings, hok⟩, -⟩
    · obtain rfl : err' = err := Except.error.inj (hfailed'.symm.trans hfailed)
      refine ⟨herror, ls, state, u, hlints, ?_, hdisk, hreport⟩
      have hlength : earlier.length = (ls.map LintedBlock.block).length := by
        rw [List.length_map, hmade.length_eq]
      rw [hsplit, hlength, List.take_left]
    · rw [hfailed] at hok
      simp at hok

end Document

/-- **Failing blocks.** The linter is called once for each block, in the order of the document, with
the dialect and the script of the block, until a call fails: no call comes behind a failed one, and
without a failed call all blocks have theirs, unless the report cannot be written. A document with a
failed call ends with an error that names the document. Then the report has the lines that the blocks
before the failed one append on their own, all of them below their headers, and the document is not
counted. -/
theorem failing_block_ends_document (e : Engine σ) (path : Path) (content : Text) (s : Session σ) :
    let blocks := (e.scanner.scan s.disk path content).1
    let calls := e.calls path content s
    let outcome := e.lintDocument path content s
    calls.length ≤ blocks.length ∧
    List.Forall₂ (e.MadeFor outcome.2.interpreters) (blocks.take calls.length) calls ∧
    (∀ (h : Host σ) (l : Linter) (limit : Nat) (tempDir : Path), e.lint = h.lint l limit tempDir →
      ∀ c ∈ calls, ∀ disk, c.disk.write? (tempDir.join ⟨Host.scriptName⟩) c.script = .ok disk →
        e.lint c.disk c.dialect c.script c.tools = h.execute limit disk
          [l.executable.text, "--shell=".toList ++ c.dialect.name, "--color=never".toList,
            "--format=json".toList, (tempDir.join ⟨Host.scriptName⟩).text] c.tools) ∧
    (∀ c ∈ calls.dropLast, ∃ findings, e.verdict path c = .ok findings) ∧
    ((∀ c ∈ calls, ∃ findings, e.verdict path c = .ok findings) →
      (calls.length = blocks.length ∧ ∃ r, outcome.1 = .ok r) ∨
        ∃ fault, outcome.1 = .error (.report fault)) ∧
    ∀ earlier c err, calls = earlier ++ [c] → e.verdict path c = .error err →
      outcome.1 = .error err ∧
      ((∃ cause, err = .tool path cause) ∨ ∃ cause, err = .malformed path cause) ∧
      (∃ cause, err.message = path.text ++ ": ".toList ++ cause) ∧
      ∃ entries reached,
        e.lintBlocks path.text (blocks.take earlier.length) {}
          (s.tell (e.opening path content s.disk)) = (.ok entries, reached) ∧
        outcome.2.disk = reached.disk ∧ outcome.2.report = reached.report ∧
        s.Appended entries outcome.2 ∧ UnderHeaders entries ∧
        outcome.2.report.documents = s.report.documents := by
  intro blocks calls outcome
  obtain ⟨hlength, hmade⟩ := e.forall₂_madeFor_calls path content s
  refine ⟨hlength, hmade, ?_, ?_, ?_, ?_⟩
  · intro h l limit tempDir hlint c _ disk hwrite
    rw [hlint, Host.lint, hwrite]
    rfl
  · intro c hc
    exact e.verdict_of_mem_dropLast_calls path content s hc
  · exact e.length_calls_of_ok path content s
  · intro earlier c err hcalls hfailed
    obtain ⟨herror, ls, state, u, hlints, hblocks, hdisk, hreport⟩ :=
      e.lints_before_failed_call path content s hcalls hfailed
    obtain ⟨hkind, hnames⟩ := verdict_eq_error hfailed
    obtain ⟨happended, hdocuments⟩ := hlints.appended
    have hleft := happended.trans (.nil hdisk hreport)
    rw [List.append_nil] at hleft
    refine ⟨herror, hkind, hnames, _, u, ?_, hdisk, hreport,
      ⟨hleft.written, hleft.file, hleft.counted⟩, Laid.underHeaders hlints.laid, ?_⟩
    · rw [hblocks]
      exact hlints.lintBlocks_eq
    · rw [show outcome.2.report = u.report from hreport]
      exact hdocuments

/-- Three blocks and a linter whose second run prints no findings: the third block is not tried, and
the lines of the first stay. -/
theorem failing_block_ends_document_second :
    let host : Host Nat :=
      { run := fun _ _ n =>
          (.ok { stdout := Text.utf8 (if n = 0 then "[[2,1,1,\"m\"]]".toList else "oops".toList) },
            n + 1) }
    let e : Engine Nat :=
      { scanner := ⟨Dialect.all, 8, []⟩, prompt := '$', interpreter := fun _ d => (.viaEnv d, [])
        lint := host.lint ⟨.ofString "lint", Dialect.all, '$'⟩ 0 (.ofString "/") }
    let s : Session Nat := { disk := ⟨[], []⟩, tools := 0 }
    let path := Path.ofString "a.rst"
    let content : Text :=
      ".. code:: sh\n\n $ ls\n\n.. code:: bash\n\n $ cd\n\n.. code:: sh\n\n $ rm\n".toList
    let last := (e.calls path content s).getLastD ⟨s.disk, .sh, [], 0⟩
    let outcome := e.lintDocument path content s
    (e.scanner.scan s.disk path content).1.length = 3 ∧
      e.calls path content s = (e.calls path content s).take 1 ++ [last] ∧
      e.verdict path last = .error (.malformed path .notFindings) ∧ last.dialect = .bash ∧
      outcome.1 = .error (.malformed path .notFindings) ∧ outcome.2.report.diagnostics = 1 ∧
      ∃ entries, s.Appended entries outcome.2 ∧ UnderHeaders entries := by
  intro host e s path content last outcome
  have hcalls : e.calls path content s = (e.calls path content s).take 1 ++ [last] := by
    decide +kernel
  have hfailed : e.verdict path last = .error (.malformed path .notFindings) := by decide +kernel
  obtain ⟨-, -, -, -, -, hending⟩ := failing_block_ends_document e path content s
  obtain ⟨herror, -, -, entries, -, -, -, -, happended, hheaders, -⟩ :=
    hending _ _ _ hcalls hfailed
  exact ⟨by decide +kernel, hcalls, hfailed, by decide +kernel, herror, by decide +kernel,
    entries, happended, hheaders⟩

end Engine
end TranscriptLint
