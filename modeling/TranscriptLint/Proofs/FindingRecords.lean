import Mathlib.Data.List.Forall2
import Mathlib.Data.Nat.Digits.Defs
import TranscriptLint.Finding
import TranscriptLint.Proofs.JsonText

namespace TranscriptLint

/-! # Records of findings

The output of the linter is read as a whole: each record must describe a finding, and one that does
not makes all of the output malformed.

* `Finding.Describes members f`: what the members of a record have to be, key by key.
* `Finding.ofJson?_object_iff`: reading a record decides just that.
* `Finding.output_read_exactly`: the whole output, from its text.
-/

/-- A string. It may stand for no text. -/
def Json.IsString (v : Json) : Prop := (∃ t, v = .string t) ∨ v = .brokenString

/-- A number written as digits only. -/
theorem Text.decimalValue_eq_ofDigits (digits : Text) :
    decimalValue digits = Nat.ofDigits 10 (digits.reverse.map fun c => c.toNat - '0'.toNat) := by
  induction digits using List.reverseRecOn with
  | nil => rfl
  | append_singleton digits c ih =>
    rw [decimalValue] at ih
    rw [decimalValue, List.foldl_append, ih, List.reverse_append, List.reverse_singleton,
      List.singleton_append, List.map_cons, Nat.ofDigits_cons, List.foldl_cons, List.foldl_nil,
      Nat.add_comm]

namespace Finding

/-! ## What a record says -/

/-- A number written as plain digits, of this value and less than two to the power of 64. -/
def IsCount (v : Json) (n : Nat) : Prop :=
  ∃ digits : Text, v = .number digits ∧ digits ≠ [] ∧ (∀ c ∈ digits, c.isDigit = true) ∧
    Nat.ofDigits 10 (digits.reverse.map fun c => c.toNat - '0'.toNat) = n ∧ n < 2 ^ 64

/-- The members of a record describe a finding. Other keys may stand in it too and hold anything,
but a key has to be a string of characters, which half a surrogate pair is not. -/
structure Describes (members : List (Option Text × Json)) (f : Finding) : Prop where
  named : ∀ m ∈ members, m.1 ≠ none
  line : ∃ v, (some "line".toList, v) ∈ members ∧ IsCount v f.line
  column : ∃ v, (some "column".toList, v) ∈ members ∧ IsCount v f.column
  code : ∃ v, (some "code".toList, v) ∈ members ∧
    (v = .string f.code ∨ ∃ n, IsCount v n ∧ f.code = Text.ofNat n)
  message : (some "message".toList, .string f.message) ∈ members
  level : (some "level".toList, .string f.severity.name) ∈ members ∨
    f.severity = .warning ∧ ((some "level".toList, .null) ∈ members ∨
      ∀ v, (some "level".toList, v) ∉ members)

/-! ## Values -/

theorem natOf?_eq_some_iff {v : Json} {n : Nat} : natOf? v = some n ↔ IsCount v n := by
  cases v with
  | number digits =>
    have hbound : numberBound = 2 ^ 64 := rfl
    simp only [natOf?, Option.filter_eq_some_iff, decide_eq_true_eq, Text.toNat?, hbound]
    constructor
    · rintro ⟨hvalue, hlt⟩
      split at hvalue
      · exact absurd hvalue (by simp)
      · next hdigits =>
        simp only [Bool.or_eq_true, Bool.not_eq_true', not_or, Bool.not_eq_false,
          List.isEmpty_iff, List.all_eq_true] at hdigits
        refine ⟨digits, rfl, hdigits.1, hdigits.2, ?_, hlt⟩
        rw [← Text.decimalValue_eq_ofDigits]
        exact Option.some.inj hvalue
    · rintro ⟨digits', hsame, hne, hdigits, hvalue, hlt⟩
      obtain rfl := Json.number.inj hsame
      have hplain : ¬ (digits.isEmpty || !digits.all Char.isDigit) = true := by
        simp [hne, List.all_eq_true.mpr hdigits]
      rw [if_neg hplain, Text.decimalValue_eq_ofDigits, hvalue]
      exact ⟨rfl, hlt⟩
  | null | bool | string | brokenString | array | object => simp [natOf?, IsCount]

theorem textOf?_eq_some_iff {v : Json} {t : Text} : textOf? v = some t ↔ v = .string t := by
  cases v <;> simp [textOf?]

theorem codeOf?_eq_some_iff {v : Json} {code : Text} :
    codeOf? v = some code ↔ v = .string code ∨ ∃ n, IsCount v n ∧ code = Text.ofNat n := by
  rw [codeOf?]
  split
  · next n hn =>
    have hcount := natOf?_eq_some_iff.mp hn
    obtain ⟨digits, rfl, -⟩ := hcount
    constructor
    · intro h
      exact .inr ⟨n, natOf?_eq_some_iff.mp hn, (Option.some.inj h).symm⟩
    · rintro (h | ⟨n', hn', rfl⟩)
      · exact absurd h (by simp)
      · rw [← natOf?_eq_some_iff, hn] at hn'
        rw [Option.some.inj hn']
  · next hn =>
    rw [textOf?_eq_some_iff]
    constructor
    · exact .inl
    · rintro (h | ⟨n', hn', -⟩)
      · exact h
      · rw [← natOf?_eq_some_iff, hn] at hn'
        exact absurd hn' (by simp)

theorem ofName?_eq_some_iff {name : Text} {s : Severity} :
    Severity.ofName? name = some s ↔ name = s.name := by
  rw [Severity.ofName?]
  constructor
  · intro h
    have hname := List.find?_some h
    rw [beq_iff_eq] at hname
    exact hname.symm
  · rintro rfl
    cases s <;> decide

/-- The severity of a record whose level is a string or null, if it has one. -/
theorem levelOf?_eq_some_iff {level : Option Json} {s : Severity}
    (hlevel : ∀ v, level = some v → v = .null ∨ v.IsString) :
    levelOf? level = some s ↔
      level = some (.string s.name) ∨ s = .warning ∧ (level = some .null ∨ level = none) := by
  cases level with
  | none => simp [levelOf?, eq_comm]
  | some v =>
    rcases hlevel v rfl with rfl | ⟨name, rfl⟩ | rfl
    · simp [levelOf?, eq_comm]
    · simp [levelOf?, severityOf?, ofName?_eq_some_iff]
    · simp [levelOf?, severityOf?]

/-! ## Members -/

theorem mem_valuesOf_iff {key : Text} {members : List (Option Text × Json)} {v : Json} :
    v ∈ valuesOf key members ↔ (some key, v) ∈ members := by
  simp [valuesOf]

/-- A key that is not repeated has at most one value. -/
theorem length_valuesOf_le_one (key : Text) {members : List (Option Text × Json)}
    (h : (members.filterMap Prod.fst).Nodup) : (valuesOf key members).length ≤ 1 := by
  induction members with
  | nil => exact Nat.zero_le 1
  | cons m members ih =>
    obtain ⟨name, v⟩ := m
    by_cases hkey : name = some key
    · subst hkey
      have hfresh : key ∉ members.filterMap Prod.fst := (List.nodup_cons.mp h).1
      have hnone : valuesOf key members = [] := by
        rw [List.eq_nil_iff_forall_not_mem]
        intro w hw
        exact hfresh (List.mem_filterMap.mpr ⟨_, mem_valuesOf_iff.mp hw, rfl⟩)
      have hone : valuesOf key ((some key, v) :: members) = v :: valuesOf key members := by
        simp [valuesOf]
      rw [hone, hnone]
      exact Nat.le_refl 1
    · have hsame : valuesOf key ((name, v) :: members) = valuesOf key members := by
        simp [valuesOf, hkey]
      rw [hsame]
      apply ih
      cases name with
      | none => exact h
      | some other => exact (List.nodup_cons.mp h).2

theorem head?_valuesOf_eq_some_iff {key : Text} {members : List (Option Text × Json)} {v : Json}
    (h : (members.filterMap Prod.fst).Nodup) :
    (valuesOf key members).head? = some v ↔ (some key, v) ∈ members := by
  have hlength := length_valuesOf_le_one key h
  rw [← mem_valuesOf_iff]
  match hvalues : valuesOf key members with
  | [] => simp
  | [w] => simp [eq_comm]
  | _ :: _ :: _ =>
    rw [hvalues] at hlength
    exact absurd hlength (by simp)

theorem head?_valuesOf_eq_none_iff {key : Text} {members : List (Option Text × Json)} :
    (valuesOf key members).head? = none ↔ ∀ v, (some key, v) ∉ members := by
  rw [List.head?_eq_none_iff, List.eq_nil_iff_forall_not_mem]
  simp only [mem_valuesOf_iff]

theorem hasSoundKeys_iff {members : List (Option Text × Json)}
    (h : (members.filterMap Prod.fst).Nodup) :
    hasSoundKeys members = true ↔ ∀ m ∈ members, m.1 ≠ none := by
  have hkeys : (keys.all fun k => decide ((valuesOf k members).length ≤ 1)) = true := by
    rw [List.all_eq_true]
    intro k _
    exact decide_eq_true (length_valuesOf_le_one k h)
  rw [hasSoundKeys, hkeys, Bool.and_true, List.all_eq_true]
  simp only [Option.isSome_iff_ne_none]

/-! ## Records -/

theorem ofFields?_eq_some_iff {line column code message : Json} {level : Option Json}
    {f : Finding} :
    ofFields? line column code message level = some f ↔
      natOf? line = some f.line ∧ natOf? column = some f.column ∧ codeOf? code = some f.code ∧
        textOf? message = some f.message ∧ levelOf? level = some f.severity := by
  simp only [ofFields?, Option.bind_eq_bind, Option.bind_eq_some_iff, Option.pure_def,
    Option.some.injEq]
  constructor
  · rintro ⟨_, hline, _, hcolumn, _, hcode, _, hmessage, _, hlevel, rfl⟩
    exact ⟨hline, hcolumn, hcode, hmessage, hlevel⟩
  · rintro ⟨hline, hcolumn, hcode, hmessage, hlevel⟩
    exact ⟨_, hline, _, hcolumn, _, hcode, _, hmessage, _, hlevel, rfl⟩

/-- A record is looked up key by key, and each key is there or the record is not read. -/
theorem ofJson?_object {members : List (Option Text × Json)} {f : Finding} :
    ofJson? (.object members) = some f ↔ hasSoundKeys members = true ∧
      ∃ line column code message, (valuesOf "line".toList members).head? = some line ∧
        (valuesOf "column".toList members).head? = some column ∧
        (valuesOf "code".toList members).head? = some code ∧
        (valuesOf "message".toList members).head? = some message ∧
        ofFields? line column code message (valuesOf "level".toList members).head? = some f := by
  unfold ofJson?
  constructor
  · intro h
    simp only at h
    split at h
    · next line column code message hkeys hline hcolumn hcode hmessage =>
      exact ⟨hkeys, line, column, code, message, hline, hcolumn, hcode, hmessage, h⟩
    · exact absurd h (by simp)
  · rintro ⟨hkeys, line, column, code, message, hline, hcolumn, hcode, hmessage, h⟩
    simp only [hkeys, hline, hcolumn, hcode, hmessage]
    exact h

/-- Reading a record finds out which finding it describes. -/
theorem ofJson?_object_iff {members : List (Option Text × Json)} {f : Finding}
    (hkeys : (members.filterMap Prod.fst).Nodup)
    (hlevel : ∀ v, (some "level".toList, v) ∈ members → v = .null ∨ v.IsString) :
    ofJson? (.object members) = some f ↔ Describes members f := by
  have hhead : ∀ v, (valuesOf "level".toList members).head? = some v → v = .null ∨ v.IsString :=
    fun v hv => hlevel v ((head?_valuesOf_eq_some_iff hkeys).mp hv)
  simp only [ofJson?_object, hasSoundKeys_iff hkeys, ofFields?_eq_some_iff,
    levelOf?_eq_some_iff hhead, head?_valuesOf_eq_some_iff hkeys, head?_valuesOf_eq_none_iff,
    natOf?_eq_some_iff, codeOf?_eq_some_iff, textOf?_eq_some_iff]
  constructor
  · rintro ⟨hnamed, line, column, code, message, hline, hcolumn, hcode, hmessage, hl, hc, hco, rfl,
      hlev⟩
    exact ⟨hnamed, ⟨line, hline, hl⟩, ⟨column, hcolumn, hc⟩, ⟨code, hcode, hco⟩, hmessage, hlev⟩
  · rintro ⟨hnamed, ⟨line, hline, hl⟩, ⟨column, hcolumn, hc⟩, ⟨code, hcode, hco⟩, hmessage, hlev⟩
    exact ⟨hnamed, line, column, code, _, hline, hcolumn, hcode, hmessage, hl, hc, hco, rfl, hlev⟩

/-! ## The whole output -/

theorem mapM_eq_some_iff {α β : Type} {g : α → Option β} {l : List α} {r : List β} :
    l.mapM g = some r ↔ List.Forall₂ (fun a b => g a = some b) l r := by
  induction l generalizing r with
  | nil => simp [List.forall₂_nil_left_iff, eq_comm]
  | cons a l ih =>
    simp only [List.mapM_cons, Option.bind_eq_bind, Option.bind_eq_some_iff, Option.pure_def,
      Option.some.injEq, List.forall₂_cons_left_iff, ih]
    constructor
    · rintro ⟨b, hb, bs, hbs, rfl⟩
      exact ⟨b, bs, hb, hbs, rfl⟩
    · rintro ⟨b, bs, hb, hbs, rfl⟩
      exact ⟨b, hb, bs, hbs, rfl⟩

theorem forall₂_describes_iff {records : List (List (Option Text × Json))} {fs : List Finding}
    (hkeys : ∀ members ∈ records, (members.filterMap Prod.fst).Nodup)
    (hlevel : ∀ members ∈ records, ∀ v, (some "level".toList, v) ∈ members →
      v = .null ∨ v.IsString) :
    List.Forall₂ (fun v f => ofJson? v = some f) (records.map .object) fs ↔
      List.Forall₂ Describes records fs := by
  rw [List.forall₂_map_left_iff]
  induction records generalizing fs with
  | nil => simp only [List.forall₂_nil_left_iff]
  | cons members records ih =>
    rw [List.forall_mem_cons] at hkeys hlevel
    simp only [List.forall₂_cons_left_iff, ih hkeys.2 hlevel.2,
      ofJson?_object_iff hkeys.1 hlevel.1]

/-- A list has a partner for each element exactly if each element has one. -/
theorem exists_forall₂_iff {α β : Type} {R : α → β → Prop} {l : List α} :
    (∃ r, List.Forall₂ R l r) ↔ ∀ a ∈ l, ∃ b, R a b := by
  induction l with
  | nil => simp
  | cons a l ih =>
    rw [List.forall_mem_cons, ← ih]
    constructor
    · rintro ⟨_, hcons⟩
      cases hcons with
      | cons hb hrest => exact ⟨⟨_, hb⟩, _, hrest⟩
    · rintro ⟨⟨b, hb⟩, r, hrest⟩
      exact ⟨b :: r, .cons hb hrest⟩

/-- **No finding is passed over.** Take a text of a JSON array of objects in which no key is repeated
and every level is null or a string. The output is read exactly if every object describes a finding,
and then it gives the finding of each object, in the order of the array. One object that describes
no finding makes the whole output malformed. That the keys of an object are named, as `Describes`
has it, only concerns keys written with half a surrogate pair: all others are texts. -/
theorem output_read_exactly (output : Text) (records : List (List (Option Text × Json)))
    (htext : Json.IsText (.array (records.map .object)) output)
    (hkeys : ∀ members ∈ records, (members.filterMap Prod.fst).Nodup)
    (hlevel : ∀ members ∈ records, ∀ v, (some "level".toList, v) ∈ members →
      v = .null ∨ v.IsString) :
    ((∃ fs, readAll output = .ok fs) ↔ ∀ members ∈ records, ∃ f, Describes members f) ∧
      (∀ fs, readAll output = .ok fs ↔ List.Forall₂ Describes records fs) ∧
      ((∃ members ∈ records, ∀ f, ¬ Describes members f) →
        readAll output = .error .notFindings) := by
  have hread := Json.read?_eq_some_iff.mpr htext
  have hok : ∀ fs, readAll output = .ok fs ↔ List.Forall₂ Describes records fs := by
    intro fs
    rw [← forall₂_describes_iff hkeys hlevel, ← mapM_eq_some_iff, readAll]
    simp only [hread]
    cases (records.map Json.object).mapM ofJson? with
    | none => simp
    | some findings => simp
  have hsome : (∃ fs, readAll output = .ok fs) ↔ ∀ members ∈ records, ∃ f, Describes members f := by
    simp only [hok, exists_forall₂_iff]
  refine ⟨hsome, hok, ?_⟩
  rintro ⟨members, hmem, hnone⟩
  cases hresult : readAll output with
  | error e =>
    cases e
    rfl
  | ok fs =>
    obtain ⟨f, hf⟩ := hsome.mp ⟨fs, hresult⟩ members hmem
    exact absurd hf (hnone f)

/-- A record with its keys in another order, a number for its code, a level that is null, and a key
of no meaning. -/
theorem output_read_exactly_null_level :
    let output : Text :=
      "[\x7b\"code\":86,\"x\":[-1e3], \"line\":2,\"column\":10,\"level\":null,\"message\":\"\"\x7d]".toList
    let members : List (Option Text × Json) :=
      [(some "code".toList, .number "86".toList),
        (some "x".toList, .array [.number "-1e3".toList]),
        (some "line".toList, .number "2".toList), (some "column".toList, .number "10".toList),
        (some "level".toList, .null), (some "message".toList, .string [])]
    Json.IsText (.array ([members].map .object)) output ∧ (members.filterMap Prod.fst).Nodup ∧
      (∀ v, (some "level".toList, v) ∈ members → v = .null ∨ v.IsString) ∧
      readAll output = .ok [⟨2, 10, "86".toList, [], .warning⟩] := by
  intro output members
  have htext : Json.IsText (.array ([members].map .object)) output :=
    Json.Reader.spelling_of_tokens? (by decide +kernel)
  have hkeys : (members.filterMap Prod.fst).Nodup := by decide
  have hlevel : ∀ v, (some "level".toList, v) ∈ members → v = .null ∨ v.IsString := by
    intro v hv
    left
    simpa [members] using hv
  have hdescribes : Describes members ⟨2, 10, "86".toList, [], .warning⟩ := by
    refine ⟨by simp [members], ⟨.number "2".toList, by simp [members], ?_⟩,
      ⟨.number "10".toList, by simp [members], ?_⟩,
      ⟨.number "86".toList, by simp [members], .inr ⟨86, ?_, rfl⟩⟩, by simp [members],
      .inr ⟨rfl, .inl (by simp [members])⟩⟩
    all_goals exact natOf?_eq_some_iff.mp rfl
  refine ⟨htext, hkeys, hlevel, ?_⟩
  obtain ⟨-, hok, -⟩ :=
    output_read_exactly output [members] htext (by simpa using hkeys) (by simpa using hlevel)
  exact (hok _).mpr (.cons hdescribes .nil)

end Finding
end TranscriptLint
