import Mathlib.Data.List.Induction
import TranscriptLint.Diagnostic

namespace TranscriptLint

/-! # Each diagnostic once

The state of a document is asked again and again while its blocks are linted, and what it remembers
must be right after every such run. A run is a list of calls; `runAll` gives all the diagnostics it
returns, and `reported` says declaratively which these are.

* `Remembers history s`: the invariant. The state knows the keys of all diagnostics that were
  mapped so far, and counts those that were kept.
* `remembers_call` and `remembers_runAll`: one call keeps it, and so does a run.
* `runAll_reports_first_occurrences`: what a run from the beginning reports.
-/

/-! ## What counts as the same diagnostic -/

/-- Whether two diagnostics say the same about the same place. Paths are compared by components, and
the severity does not matter. -/
def Diagnostic.same (d e : Diagnostic) : Bool :=
  d.source.same e.source && d.line == e.line && d.column == e.column && d.code == e.code &&
    d.message == e.message

theorem Diagnostic.same_iff_key_eq (d e : Diagnostic) : d.same e = true ↔ d.key = e.key := by
  simp only [same, Path.same, key, Bool.and_eq_true, beq_iff_eq, Key.mk.injEq, and_assoc]

/-- The diagnostics that have no like before them in the list, in order. -/
def reported (ds : List Diagnostic) : List Diagnostic :=
  (ds.zipIdx.filter fun p => !(ds.take p.2).any fun earlier => earlier.same p.1).map Prod.fst

/-- A diagnostic at the end of the list does not change what was reported before it. -/
theorem reported_concat (ds : List Diagnostic) (d : Diagnostic) :
    reported (ds ++ [d]) =
      reported ds ++ if ds.any (fun earlier => earlier.same d) then [] else [d] := by
  have hold : (ds.zipIdx.filter fun p =>
      !((ds ++ [d]).take p.2).any fun earlier => earlier.same p.1) =
      ds.zipIdx.filter fun p => !(ds.take p.2).any fun earlier => earlier.same p.1 := by
    apply List.filter_congr
    intro p hp
    have hlt : p.2 < ds.length := List.snd_lt_of_mem_zipIdx hp
    rw [List.take_append_of_le_length (Nat.le_of_lt hlt)]
  unfold reported
  rw [List.zipIdx_append, List.filter_append, List.map_append, hold]
  congr 1
  -- what comes before the last diagnostic is the whole old list
  simp only [List.zipIdx_cons, List.zipIdx_nil, Nat.zero_add, List.filter_cons, List.take_left,
    List.filter_nil]
  cases hany : ds.any fun earlier => earlier.same d with
  | true => simp
  | false => simp

theorem mem_of_mem_reported {ds : List Diagnostic} {d : Diagnostic} (h : d ∈ reported ds) :
    d ∈ ds := by
  induction ds using List.reverseRecOn with
  | nil => simp [reported] at h
  | append_singleton ds e ih =>
    rw [reported_concat, List.mem_append] at h
    rcases h with hold | hnew
    · exact List.mem_append_left _ (ih hold)
    · split at hnew
      · simp at hnew
      · exact List.mem_append_right _ hnew

/-- No two reported diagnostics are the same. -/
theorem reported_pairwise (ds : List Diagnostic) :
    (reported ds).Pairwise fun d e => d.same e = false := by
  induction ds using List.reverseRecOn with
  | nil => exact .nil
  | append_singleton ds e ih =>
    rw [reported_concat]
    split
    · rw [List.append_nil]
      exact ih
    · next hnew =>
      rw [List.pairwise_append]
      refine ⟨ih, List.pairwise_singleton _ _, ?_⟩
      intro d hd e' he'
      rw [List.mem_singleton.mp he']
      have hnone : ∀ x ∈ ds, ¬ x.same e = true := by simpa using hnew
      simpa using hnone d (mem_of_mem_reported hd)

namespace DocumentState

/-! ## Runs -/

/-- A call on the state of a document: the findings of a block are recorded, or a header is asked
for. -/
inductive Call where
  | record (b : CodeBlock) (offset : Offset) (findings : List Finding)
  | header (source : Path)
deriving DecidableEq, Repr

/-- The diagnostics that a call returns, and the state behind it. -/
def Call.run : Call → DocumentState → List Diagnostic × DocumentState
  | .record b offset findings, s => s.record b offset findings
  | .header source, s => ([], (s.enterSource source).2)

/-- The findings of a call in source coordinates, new or not. -/
def Call.mapped : Call → List Diagnostic
  | .record b offset findings => findings.map (Diagnostic.ofFinding b.source offset)
  | .header _ => []

/-- All the diagnostics that a run of calls returns, and the state behind the last of them. -/
def runAll : List Call → DocumentState → List Diagnostic × DocumentState
  | [], s => ([], s)
  | call :: calls, s =>
    let first := call.run s
    let rest := runAll calls first.2
    (first.1 ++ rest.1, rest.2)

/-- The state knows exactly the keys of the diagnostics mapped so far, and holds one key for each
diagnostic that was kept. -/
structure Remembers (history : List Diagnostic) (s : DocumentState) : Prop where
  mem_seen : ∀ d : Diagnostic, d.key ∈ s.seen ↔ ∃ earlier ∈ history, earlier.same d = true
  count : s.seenCount = (reported history).length

theorem remembers_nil : Remembers [] {} := ⟨by simp, rfl⟩

/-- Whether the next diagnostic is kept is what the seen keys say. -/
theorem Remembers.reported_concat {history : List Diagnostic} {s : DocumentState}
    (h : Remembers history s) (d : Diagnostic) :
    reported (history ++ [d]) = reported history ++ if d.key ∈ s.seen then [] else [d] := by
  rw [TranscriptLint.reported_concat]
  congr 1
  simp only [List.any_eq_true, h.mem_seen d]

/-- A diagnostic that was seen before leaves the state as it is. -/
theorem Remembers.old {history : List Diagnostic} {s : DocumentState} {d : Diagnostic}
    (h : Remembers history s) (hd : d.key ∈ s.seen) : Remembers (history ++ [d]) s := by
  constructor
  · intro e
    rw [h.mem_seen e]
    constructor
    · rintro ⟨earlier, hmem, hsame⟩
      exact ⟨earlier, List.mem_append_left _ hmem, hsame⟩
    · rintro ⟨earlier, hmem, hsame⟩
      rcases List.mem_append.mp hmem with hold | hlast
      · exact ⟨earlier, hold, hsame⟩
      · -- the diagnostic itself has a like in the history
        rw [List.mem_singleton.mp hlast, Diagnostic.same_iff_key_eq] at hsame
        rw [hsame] at hd
        exact (h.mem_seen e).mp hd
  · rw [h.reported_concat, if_pos hd, List.append_nil]
    exact h.count

/-- A new diagnostic is remembered. -/
theorem Remembers.new {history : List Diagnostic} {s : DocumentState} {d : Diagnostic}
    (h : Remembers history s) (hd : d.key ∉ s.seen) :
    Remembers (history ++ [d]) { s with seen := d.key :: s.seen } := by
  constructor
  · intro e
    rw [List.mem_cons, h.mem_seen e]
    constructor
    · rintro (heq | ⟨earlier, hmem, hsame⟩)
      · exact ⟨d, by simp, (Diagnostic.same_iff_key_eq d e).mpr heq.symm⟩
      · exact ⟨earlier, List.mem_append_left _ hmem, hsame⟩
    · rintro ⟨earlier, hmem, hsame⟩
      rcases List.mem_append.mp hmem with hold | hlast
      · exact .inr ⟨earlier, hold, hsame⟩
      · rw [List.mem_singleton.mp hlast, Diagnostic.same_iff_key_eq] at hsame
        exact .inl hsame.symm
  · rw [h.reported_concat, if_neg hd, List.length_append, ← h.count]
    rfl

/-- Going through a list of diagnostics keeps the invariant, and returns what is reported beyond
the history. -/
theorem remembers_keepNew {history : List Diagnostic} {s : DocumentState} (ds : List Diagnostic)
    (h : Remembers history s) :
    Remembers (history ++ ds) (keepNew ds s).2 ∧
      reported (history ++ ds) = reported history ++ (keepNew ds s).1 := by
  induction ds generalizing history s with
  | nil =>
    rw [keepNew, List.append_nil, List.append_nil]
    exact ⟨h, rfl⟩
  | cons d ds ih =>
    -- the first diagnostic goes over into the history
    have hsplit : history ++ d :: ds = history ++ [d] ++ ds := by simp
    rw [hsplit, keepNew]
    split
    · next hd =>
      obtain ⟨hrem, hrep⟩ := ih (h.old hd)
      refine ⟨hrem, ?_⟩
      rw [hrep, h.reported_concat, if_pos hd, List.append_nil]
    · next hd =>
      obtain ⟨hrem, hrep⟩ := ih (h.new hd)
      refine ⟨hrem, ?_⟩
      rw [hrep, h.reported_concat, if_neg hd, List.append_assoc]
      rfl

@[simp] theorem enterSource_seen (source : Path) (s : DocumentState) :
    (s.enterSource source).2.seen = s.seen := by
  unfold enterSource
  split <;> rfl

/-- One call keeps the invariant. Asking for a header changes nothing that it speaks of. -/
theorem remembers_call {history : List Diagnostic} {s : DocumentState} (call : Call)
    (h : Remembers history s) :
    Remembers (history ++ call.mapped) (call.run s).2 ∧
      reported (history ++ call.mapped) = reported history ++ (call.run s).1 := by
  cases call with
  | record b offset findings => exact remembers_keepNew _ h
  | header source =>
    rw [Call.mapped, Call.run, List.append_nil, List.append_nil]
    refine ⟨⟨?_, ?_⟩, rfl⟩
    · intro d
      rw [enterSource_seen]
      exact h.mem_seen d
    · rw [seenCount, enterSource_seen]
      exact h.count

/-- A run of calls keeps the invariant. -/
theorem remembers_runAll {history : List Diagnostic} {s : DocumentState} (calls : List Call)
    (h : Remembers history s) :
    Remembers (history ++ calls.flatMap Call.mapped) (runAll calls s).2 ∧
      reported (history ++ calls.flatMap Call.mapped) =
        reported history ++ (runAll calls s).1 := by
  induction calls generalizing history s with
  | nil =>
    rw [runAll, List.flatMap_nil, List.append_nil, List.append_nil]
    exact ⟨h, rfl⟩
  | cons call calls ih =>
    obtain ⟨hfirst, hreport⟩ := remembers_call call h
    obtain ⟨hrest, hreport'⟩ := ih hfirst
    rw [List.flatMap_cons, ← List.append_assoc]
    refine ⟨hrest, ?_⟩
    rw [hreport', hreport, List.append_assoc]
    rfl

/-! ## Cutting a run into pieces -/

theorem keepNew_append (ds es : List Diagnostic) (s : DocumentState) :
    keepNew (ds ++ es) s =
      ((keepNew ds s).1 ++ (keepNew es (keepNew ds s).2).1, (keepNew es (keepNew ds s).2).2) := by
  induction ds generalizing s with
  | nil => rfl
  | cons d ds ih =>
    rw [List.cons_append, keepNew, keepNew]
    split
    · exact ih s
    · rw [ih]
      rfl

theorem runAll_append (calls more : List Call) (s : DocumentState) :
    runAll (calls ++ more) s =
      ((runAll calls s).1 ++ (runAll more (runAll calls s).2).1,
        (runAll more (runAll calls s).2).2) := by
  induction calls generalizing s with
  | nil => rfl
  | cons call calls ih =>
    rw [List.cons_append, runAll, runAll, ih]
    simp [List.append_assoc]

/-- The findings of a block may be recorded in one call or in two. -/
theorem runAll_record_append (b : CodeBlock) (offset : Offset) (fs gs : List Finding)
    (s : DocumentState) :
    runAll [.record b offset (fs ++ gs)] s =
      runAll [.record b offset fs, .record b offset gs] s := by
  simp only [runAll, Call.run, record, List.map_append, keepNew_append, List.append_nil]

/-- **Deduplication.** Whatever calls are made on the state of a document, the diagnostics returned
are all the findings in source coordinates, less those that have a like before them in the run. So
no two are the same, the state counts them, and it does not matter how the findings of a block are
divided into calls. -/
theorem runAll_reports_first_occurrences (calls : List Call) :
    (runAll calls {}).1 = reported (calls.flatMap Call.mapped) ∧
      (runAll calls {}).1.Pairwise (fun d e => d.same e = false) ∧
      (runAll calls {}).2.seenCount = (runAll calls {}).1.length ∧
      ∀ (more : List Call) (b : CodeBlock) (offset : Offset) (fs gs : List Finding),
        runAll (calls ++ .record b offset (fs ++ gs) :: more) {} =
          runAll (calls ++ .record b offset fs :: .record b offset gs :: more) {} := by
  obtain ⟨hrem, hrep⟩ := remembers_runAll calls remembers_nil
  have hall : reported (calls.flatMap Call.mapped) = (runAll calls {}).1 := hrep
  refine ⟨hall.symm, ?_, ?_, ?_⟩
  · rw [← hall]
    exact reported_pairwise _
  · rw [hrem.count]
    exact congrArg List.length hrep
  · intro more b offset fs gs
    have hone : Call.record b offset (fs ++ gs) :: more =
        [.record b offset (fs ++ gs)] ++ more := rfl
    have htwo : Call.record b offset fs :: .record b offset gs :: more =
        [.record b offset fs, .record b offset gs] ++ more := rfl
    rw [hone, htwo, runAll_append, runAll_append, runAll_append, runAll_append,
      runAll_record_append]

end DocumentState
end TranscriptLint
