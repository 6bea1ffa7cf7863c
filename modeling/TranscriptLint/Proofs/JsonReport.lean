import TranscriptLint.Proofs.FindingRecords
import TranscriptLint.Proofs.JsonWriting
import TranscriptLint.Render

namespace TranscriptLint.Render

/-! # Results as JSON

All documents of a run are shown as one JSON array. Headers are left out, and of each diagnostic
nothing is lost, whatever characters its texts hold.

* `reported rs`: the diagnostics of some results, in order and each with its document.
* `Holds document d members`: the members of an object say all there is to a diagnostic.
* `json_loses_nothing`: the array holds the diagnostics, and the reader of findings accepts it.
-/

/-! ## What is shown -/

/-- The diagnostics among the lines of a document, in order. -/
def located (document : Path) : List ReportEntry → List (Path × Diagnostic)
  | [] => []
  | .header .. :: lines => located document lines
  | .diagnostic _ d :: lines => (document, d) :: located document lines

/-- The diagnostics of some documents, in order and each with its document. -/
def reported (rs : List DocumentResult) : List (Path × Diagnostic) :=
  rs.flatMap fun r => located r.document r.entries

theorem map_diagnostics (r : DocumentResult) :
    r.diagnostics.map (fun d => (r.document, d)) = located r.document r.entries := by
  unfold DocumentResult.diagnostics
  induction r.entries with
  | nil => rfl
  | cons entry lines ih =>
    cases entry with
    | header => exact ih
    | diagnostic _ d => exact congrArg ((r.document, d) :: ·) ih

/-- The array has one object for each diagnostic. -/
theorem json_eq_pretty (rs : List DocumentResult) :
    json rs = Json.pretty (.array ((reported rs).map fun x => diagnosticJson x.1 x.2)) := by
  have hobjects : ∀ r : DocumentResult, r.diagnostics.map (diagnosticJson r.document) =
      (located r.document r.entries).map fun x => diagnosticJson x.1 x.2 := by
    intro r
    rw [← map_diagnostics, List.map_map]
    rfl
  rw [json, reported, List.map_flatMap, funext hobjects]

/-! ## Objects -/

/-- The keys of an object, in the order in which they are written. -/
def diagnosticKeys : List Text :=
  ["document".toList, "source".toList, "line".toList, "column".toList, "code".toList,
   "severity".toList, "message".toList]

/-- The members of an object hold a diagnostic of a document: its seven values, each under its key,
and nothing else. -/
structure Holds (document : Path) (d : Diagnostic) (members : List (Option Text × Json)) :
    Prop where
  keys : members.map Prod.fst = diagnosticKeys.map some
  document : (some "document".toList, .string document.text) ∈ members
  source : (some "source".toList, .string d.source.text) ∈ members
  line : ∃ v, (some "line".toList, v) ∈ members ∧ Finding.IsCount v d.line
  column : ∃ v, (some "column".toList, v) ∈ members ∧ Finding.IsCount v d.column
  code : (some "code".toList, .string d.code) ∈ members
  severity : (some "severity".toList, .string d.severity.name) ∈ members
  message : (some "message".toList, .string d.message) ∈ members

theorem isCount_ofNat {n : Nat} (h : n < 2 ^ 64) : Finding.IsCount (.ofNat n) n := by
  rw [← Finding.natOf?_eq_some_iff, Json.ofNat, Finding.natOf?, Text.toNat?_ofNat]
  exact Option.filter_eq_some_iff.mpr ⟨rfl, decide_eq_true h⟩

theorem writable_diagnosticJson (document : Path) (d : Diagnostic) :
    (diagnosticJson document d).Writable := by
  apply Json.Writable.object
  · simp
  · simp only [List.map_cons, List.map_nil, List.forall_mem_cons, List.not_mem_nil, false_imp_iff,
      implies_true, and_true]
    exact ⟨.string _, .string _, Json.writable_ofNat _, Json.writable_ofNat _, .string _, .string _,
      .string _⟩

theorem exists_members (document : Path) {d : Diagnostic} (hline : d.line < 2 ^ 64)
    (hcolumn : d.column < 2 ^ 64) :
    ∃ members, diagnosticJson document d = .object members ∧ Holds document d members := by
  refine ⟨_, rfl, rfl, ?_, ?_, ⟨_, ?_, isCount_ofNat hline⟩, ⟨_, ?_, isCount_ofNat hcolumn⟩,
    ?_, ?_, ?_⟩
  -- what is left to show is that each of the seven members is one of them
  all_goals simp

namespace Holds

variable {document : Path} {d : Diagnostic} {members : List (Option Text × Json)}

theorem mem_keys (h : Holds document d members) {key : Option Text} {v : Json}
    (hm : (key, v) ∈ members) : key ∈ diagnosticKeys.map some := by
  rw [← h.keys]
  exact List.mem_map_of_mem (f := Prod.fst) hm

/-- No key says how severe a finding is in the words of the linter. -/
theorem level_not_mem (h : Holds document d members) (v : Json) :
    (some "level".toList, v) ∉ members := by
  intro hmem
  exact absurd (h.mem_keys hmem) (by decide)

/-- An object that holds a diagnostic describes a finding with the same place, code and message. -/
theorem describes (h : Holds document d members) :
    Finding.Describes members ⟨d.line, d.column, d.code, d.message, .warning⟩ where
  named := by
    intro m hm hnone
    obtain ⟨key, v⟩ := m
    obtain rfl : key = none := hnone
    exact absurd (h.mem_keys hm) (by decide)
  line := h.line
  column := h.column
  code := ⟨_, h.code, .inl rfl⟩
  message := h.message
  level := .inr ⟨rfl, .inr h.level_not_mem⟩

theorem ofJson?_eq (h : Holds document d members) :
    Finding.ofJson? (.object members) =
      some ⟨d.line, d.column, d.code, d.message, .warning⟩ := by
  have hnodup : (members.filterMap Prod.fst).Nodup := by
    have hkeys : members.filterMap Prod.fst = (members.map Prod.fst).filterMap id := by
      rw [List.filterMap_map]
      rfl
    rw [hkeys, h.keys]
    decide
  have hlevel : ∀ v, (some "level".toList, v) ∈ members → v = .null ∨ v.IsString :=
    fun v hv => absurd hv (h.level_not_mem v)
  exact (Finding.ofJson?_object_iff hnodup hlevel).mpr h.describes

end Holds

/-! ## The array -/

/-- **JSON loses nothing.** Take any results with lines and columns of at most 64 bits. The text
that is shown for them is read as an array with one object for each diagnostic, documents in order
and diagnostics in the order of their lines, and each object holds its diagnostic. Read as the
output of a linter, the text gives a finding for each diagnostic, in the same order and with the
same line, column, code and message; all are warnings, because the key of the severity is another
one there. -/
theorem json_loses_nothing (rs : List DocumentResult)
    (hsize : ∀ x ∈ reported rs, x.2.line < 2 ^ 64 ∧ x.2.column < 2 ^ 64) :
    (∃ records : List (List (Option Text × Json)),
      Json.read? (json rs) = some (.array (records.map .object)) ∧
        List.Forall₂ (fun x members => Holds x.1 x.2 members) (reported rs) records) ∧
      Finding.readAll (json rs) = .ok ((reported rs).map fun x =>
        ⟨x.2.line, x.2.column, x.2.code, x.2.message, .warning⟩) := by
  obtain ⟨records, hrecords⟩ : ∃ records, List.Forall₂ (fun x members =>
      diagnosticJson x.1 x.2 = .object members ∧ Holds x.1 x.2 members) (reported rs) records :=
    Finding.exists_forall₂_iff.mpr fun x hx => exists_members x.1 (hsize x hx).1 (hsize x hx).2
  have hobjects : (reported rs).map (fun x => diagnosticJson x.1 x.2) = records.map .object := by
    rw [← List.forall₂_eq_eq_eq, List.forall₂_map_left_iff, List.forall₂_map_right_iff]
    exact hrecords.imp fun _ _ h => h.1
  have hread : Json.read? (json rs) = some (.array (records.map .object)) := by
    rw [json_eq_pretty, ← hobjects]
    apply Json.read?_pretty
    apply Json.Writable.array
    intro v hv
    obtain ⟨x, -, rfl⟩ := List.mem_map.mp hv
    exact writable_diagnosticJson x.1 x.2
  refine ⟨⟨records, hread, hrecords.imp fun _ _ h => h.2⟩, ?_⟩
  have hfindings : (records.map Json.object).mapM Finding.ofJson? = some ((reported rs).map fun x =>
      ⟨x.2.line, x.2.column, x.2.code, x.2.message, .warning⟩) := by
    rw [Finding.mapM_eq_some_iff, List.forall₂_map_left_iff, List.forall₂_map_right_iff]
    exact hrecords.flip.imp fun _ _ h => h.2.ofJson?_eq
  rw [Finding.readAll, hread]
  simp only [hfindings]

/-- Two documents, the first with a header before its diagnostic. The texts hold a quote, a
backslash, an escape character, a line feed and characters that are not ASCII, and the column is the
greatest number that fits. -/
theorem json_loses_nothing_escaped :
    let document : Path := .ofString "a\"b.rst"
    let other : Path := .ofString "ü.md"
    let d : Diagnostic :=
      ⟨document, 3, 2 ^ 64 - 1, "SC\\é".toList, "\x1b[0m".toList, .info⟩
    let d' : Diagnostic := ⟨other, 0, 7, "2164".toList, "one\ntwo".toList, .error⟩
    let rs : List DocumentResult :=
      [⟨document, 1, [.header document.text document, .diagnostic document.text d]⟩,
        ⟨other, 1, [.diagnostic other.text d']⟩]
    (∀ x ∈ reported rs, x.2.line < 2 ^ 64 ∧ x.2.column < 2 ^ 64) ∧
      (∃ records : List (List (Option Text × Json)),
        Json.read? (json rs) = some (.array (records.map .object)) ∧
          List.Forall₂ (fun x members => Holds x.1 x.2 members) [(document, d), (other, d')]
            records) ∧
      Finding.readAll (json rs) =
        .ok [⟨3, 2 ^ 64 - 1, "SC\\é".toList, "\x1b[0m".toList, .warning⟩,
          ⟨0, 7, "2164".toList, "one\ntwo".toList, .warning⟩] := by
  intro document other d d' rs
  have hsize : ∀ x ∈ reported rs, x.2.line < 2 ^ 64 ∧ x.2.column < 2 ^ 64 := by
    have hreported : reported rs = [(document, d), (other, d')] := rfl
    rw [hreported]
    simp [d, d']
  exact ⟨hsize, json_loses_nothing rs hsize⟩

end TranscriptLint.Render
