import TranscriptLint.Proofs.Words
import TranscriptLint.Rest

namespace TranscriptLint.Rest

open Text

/-! # The grammar of directives

A directive is recognised on one line by cutting the line from the left. The lines that this accepts
are described here as a whole, by how they are put together.

* `Marks indent name tail line`: the line is explicit markup that names a directive.
* `IsCode` and `IsAutofunction` are the two kinds of lines; `IsArgument word tail` says that a
  single word stands behind the name.
* `marks_iff` and `argument?_eq_some_iff` tie the two cuts to the grammar, one for what stands
  before the two colons and one for what stands behind them.
* `ofLine?_accepts_grammar`: a directive is recognised exactly where the grammar has one.
-/

/-- Explicit markup: whitespace of this width, two dots, a gap, the name of a directive, two colons,
and then `tail`. -/
def Marks (indent : Nat) (name tail line : Text) : Prop :=
  ∃ lead gap, line = lead ++ "..".toList ++ gap ++ name ++ "::".toList ++ tail ∧
    lead.isBlank = true ∧ lead.length = indent ∧ IsGap gap

/-- What follows a directive is a gap and a word, and perhaps whitespace behind the word. -/
def IsArgument (word tail : Text) : Prop :=
  ∃ gap blanks, tail = gap ++ word ++ blanks ∧ IsGap gap ∧ IsWord word ∧ blanks.isBlank = true

/-- A code directive of this indentation, with its language or with nothing behind the colons. -/
def IsCode (indent : Nat) (language line : Text) : Prop :=
  ∃ name tail,
    (name = "code-block".toList ∨ name = "code".toList ∨ name = "sourcecode".toList) ∧
      Marks indent name tail line ∧
      (language = [] ∧ tail.isBlank = true ∨ IsArgument language tail)

/-- A directive for the docstring of the target. -/
def IsAutofunction (target line : Text) : Prop :=
  ∃ indent tail, Marks indent "autofunction".toList tail line ∧ IsArgument target tail

theorem IsArgument.ne_nil {word tail : Text} (h : IsArgument word tail) : word ≠ [] := by
  obtain ⟨gap, blanks, -, -, hword, -⟩ := h
  exact hword.ne_nil

namespace Directive

/-! ## Before the colons -/

/-- Cutting off the two dots finds the markup that stands on the line. -/
theorem markup?_eq_some_iff {line rest : Text} (hrest : rest.trimStart = rest) :
    markup? line = some rest ↔
      ∃ lead gap, line = lead ++ ("..".toList ++ (gap ++ rest)) ∧ lead.isBlank = true ∧
        IsGap gap := by
  constructor
  · intro h
    unfold markup? at h
    obtain ⟨dotted, hdots, h⟩ := Option.bind_eq_some_iff.mp h
    split at h
    · next hwhite =>
      obtain ⟨gap, hgap, hisgap⟩ := exists_gap_append hwhite
      rw [Option.some.inj h] at hgap
      refine ⟨line.takeWhile isWhite, gap, ?_, isBlank_takeWhile line, hisgap⟩
      rw [← hgap, ← after?_eq_some_iff.mp hdots, takeWhile_append_trimStart]
    · exact absurd h (by simp)
  · rintro ⟨lead, gap, rfl, hlead, hgap⟩
    -- a dot is no whitespace, so trimming stops in front of the two dots
    have hstart : trimStart (lead ++ ("..".toList ++ (gap ++ rest))) =
        "..".toList ++ (gap ++ rest) := by
      rw [trimStart_append_of_isBlank hlead]
      exact trimStart_cons (by decide) _
    have hdots := after?_eq_some_iff.mpr hstart
    have hkept : trimStart (gap ++ rest) = rest := by
      rw [trimStart_append_of_isBlank hgap.blank, hrest]
    simp only [markup?, hdots, bind, Option.bind_some, hgap.head?_append, hkept, if_true]

/-- The markup of a directive, as it is read. -/
theorem marks_iff {indent : Nat} {name tail line : Text} (hname : IsWord name) :
    Marks indent name tail line ↔
      markup? line = some (name ++ "::".toList ++ tail) ∧ indent = line.indentWidth := by
  have htrim : trimStart (name ++ "::".toList ++ tail) = name ++ "::".toList ++ tail := by
    rw [List.append_assoc]
    exact hname.trimStart_append _
  have hwidth : ∀ lead rest : Text, lead.isBlank = true →
      indentWidth (lead ++ ("..".toList ++ rest)) = lead.length := by
    intro lead rest hlead
    have hdot : ("..".toList ++ rest).takeWhile isWhite = [] :=
      List.takeWhile_cons_of_neg (by decide)
    rw [indentWidth, List.takeWhile_append_of_pos (List.all_eq_true.mp hlead), hdot,
      List.append_nil]
  -- both sides have the same parts; only the grouping and the place of the width differ
  rw [markup?_eq_some_iff htrim]
  constructor
  · rintro ⟨lead, gap, rfl, hlead, rfl, hgap⟩
    have hassoc : lead ++ "..".toList ++ gap ++ name ++ "::".toList ++ tail =
        lead ++ ("..".toList ++ (gap ++ (name ++ "::".toList ++ tail))) := by
      simp only [List.append_assoc]
    rw [hassoc]
    exact ⟨⟨lead, gap, rfl, hlead, hgap⟩, (hwidth lead _ hlead).symm⟩
  · rintro ⟨⟨lead, gap, rfl, hlead, hgap⟩, rfl⟩
    refine ⟨lead, gap, ?_, hlead, (hwidth lead _ hlead).symm, hgap⟩
    simp only [List.append_assoc]

/-! ## Behind the colons -/

/-- The argument of a directive, as it is read. -/
theorem argument?_eq_some_iff {tail word : Text} :
    argument? tail = some word ↔ word = [] ∧ tail.isBlank = true ∨ IsArgument word tail := by
  unfold argument?
  cases hblank : tail.isBlank with
  | true =>
    -- nothing but whitespace has no word in it
    have hnone : ¬ IsArgument word tail := by
      rintro ⟨gap, blanks, rfl, -, hword, -⟩
      rw [List.append_assoc, isBlank_append, hword.isBlank_append_eq_false,
        Bool.and_false] at hblank
      exact absurd hblank (by decide)
    simp [hnone, eq_comm]
  | false =>
    obtain ⟨c, rest, hrest, hc⟩ := exists_trimStart_eq_cons hblank
    -- what `argument?` takes for the word is all of it, and the rest comes behind it
    have hsplit : tail.firstWord ++ tail.trimStart.drop tail.firstWord.length = tail.trimStart :=
      List.prefix_iff_eq_append.mp (List.takeWhile_prefix _)
    have hfirst : IsWord tail.firstWord := by
      constructor
      · rw [firstWord, hrest, List.takeWhile_cons_of_pos (by simp [hc])]
        exact List.cons_ne_nil _ _
      · intro d hd
        simpa using List.mem_takeWhile_imp hd
    simp only [Bool.false_eq_true, if_false, and_false, false_or, Bool.and_eq_true]
    constructor
    · intro h
      split at h
      · next hparts =>
        obtain ⟨gap, hgap, hisgap⟩ := exists_gap_append hparts.1
        rw [← Option.some.inj h]
        refine ⟨gap, tail.trimStart.drop tail.firstWord.length, ?_, hisgap, hfirst, hparts.2⟩
        rw [List.append_assoc, hsplit]
        exact hgap
      · exact absurd h (by simp)
    · rintro ⟨gap, blanks, rfl, hgap, hword, hblanks⟩
      have hstart : trimStart (gap ++ word ++ blanks) = word ++ blanks := by
        rw [List.append_assoc, trimStart_append_of_isBlank hgap.blank, hword.trimStart_append]
      have hsame : firstWord (gap ++ word ++ blanks) = word := by
        rw [firstWord, hstart, hword.takeWhile_append hblanks]
      rw [hsame, hstart, List.drop_left, List.append_assoc, hgap.head?_append]
      simp [hblanks]

/-! ## Names -/

theorem tail?_eq_some_iff {name rest tail : Text} :
    tail? name rest = some tail ↔ rest = name ++ "::".toList ++ tail :=
  after?_eq_some_iff

/-- The name of a directive reaches up to the first colon. -/
theorem takeWhile_name {name : Text} (h : ':' ∉ name) (tail : Text) :
    (name ++ "::".toList ++ tail).takeWhile (· ≠ ':') = name := by
  have hname : ∀ c ∈ name, decide (c ≠ ':') = true := by
    intro c hc
    simp only [decide_eq_true_eq]
    rintro rfl
    exact h hc
  have hstop : ("::".toList ++ tail).takeWhile (fun c => decide (c ≠ ':')) = [] :=
    List.takeWhile_cons_of_neg (by decide)
  rw [List.append_assoc, List.takeWhile_append_of_pos hname, hstop, List.append_nil]

/-- A name before two colons determines the text around it. -/
theorem name_eq {name name' tail tail' : Text} (hname : ':' ∉ name) (hname' : ':' ∉ name')
    (h : name ++ "::".toList ++ tail = name' ++ "::".toList ++ tail') :
    name = name' ∧ tail = tail' := by
  have hsame : name = name' := by
    rw [← takeWhile_name hname tail, h, takeWhile_name hname' tail']
  subst hsame
  exact ⟨rfl, List.append_cancel_left h⟩

theorem colon_not_mem_codeNames : ∀ name ∈ codeNames, ':' ∉ name := by decide

/-- The first code name that fits is the only one. -/
theorem findSome?_codeNames_iff {rest tail : Text} :
    (codeNames.findSome? fun name => tail? name rest) = some tail ↔
      ∃ name ∈ codeNames, rest = name ++ "::".toList ++ tail := by
  constructor
  · intro h
    obtain ⟨name, hname, htail⟩ := List.exists_of_findSome?_eq_some h
    exact ⟨name, hname, tail?_eq_some_iff.mp htail⟩
  · rintro ⟨name, hname, rfl⟩
    cases hfound : codeNames.findSome? fun other => tail? other (name ++ "::".toList ++ tail) with
    | none =>
      have hnone := List.findSome?_eq_none_iff.mp hfound name hname
      rw [tail?_eq_some_iff.mpr rfl] at hnone
      exact absurd hnone (by simp)
    | some tail' =>
      -- another name that fits would be the same name
      obtain ⟨other, hother, htail'⟩ := List.exists_of_findSome?_eq_some hfound
      obtain ⟨-, rfl⟩ := name_eq (colon_not_mem_codeNames name hname)
        (colon_not_mem_codeNames other hother) (tail?_eq_some_iff.mp htail')
      rfl

/-- A name of the grammar is one of the names that are tried. -/
theorem mem_codeNames_iff {name : Text} :
    name ∈ codeNames ↔
      name = "code-block".toList ∨ name = "code".toList ∨ name = "sourcecode".toList := by
  simp [codeNames]

theorem isWord_codeNames {name : Text} (h : name ∈ codeNames) : IsWord name := by
  rcases mem_codeNames_iff.mp h with rfl | rfl | rfl <;> decide

/-! ## Directives -/

theorem ofLine?_eq_autofunction_iff {line target : Text} :
    ofLine? line = some (.autofunction target) ↔ ∃ rest tail, markup? line = some rest ∧
      tail? "autofunction".toList rest = some tail ∧ argument? tail = some target ∧
        target ≠ [] := by
  unfold ofLine?
  constructor
  · intro h
    split at h
    · exact absurd h (by simp)
    · next rest hmarkup =>
      split at h
      · next c word hargument =>
        obtain ⟨tail, htail, hword⟩ := Option.bind_eq_some_iff.mp hargument
        rw [← Directive.autofunction.inj (Option.some.inj h)]
        exact ⟨rest, tail, hmarkup, htail, hword, List.cons_ne_nil _ _⟩
      · obtain ⟨language, -, hcode⟩ := Option.map_eq_some_iff.mp h
        exact absurd hcode (by simp)
  · rintro ⟨rest, tail, hmarkup, htail, hword, hne⟩
    obtain ⟨c, word, rfl⟩ := List.exists_cons_of_ne_nil hne
    simp only [hmarkup, htail, Option.bind_some, hword]

/-- Where a code directive is named, no other directive is. -/
theorem tail?_autofunction_of_codeName {rest tail : Text}
    (h : (codeNames.findSome? fun name => tail? name rest) = some tail) :
    tail? "autofunction".toList rest = none := by
  obtain ⟨name, hname, hrest⟩ := findSome?_codeNames_iff.mp h
  rw [Option.eq_none_iff_forall_ne_some]
  intro other hother
  obtain ⟨rfl, -⟩ := name_eq (colon_not_mem_codeNames name hname) (by decide)
    (hrest.symm.trans (tail?_eq_some_iff.mp hother))
  exact absurd hname (by decide)

theorem ofLine?_eq_code_iff {line language : Text} {indent : Nat} :
    ofLine? line = some (.code indent language) ↔ ∃ rest tail, markup? line = some rest ∧
      (codeNames.findSome? fun name => tail? name rest) = some tail ∧
        argument? tail = some language ∧ indent = line.indentWidth := by
  unfold ofLine?
  constructor
  · intro h
    split at h
    · exact absurd h (by simp)
    · next rest hmarkup =>
      split at h
      · exact absurd h (by simp)
      · obtain ⟨word, hargument, hcode⟩ := Option.map_eq_some_iff.mp h
        obtain ⟨tail, htail, hword⟩ := Option.bind_eq_some_iff.mp hargument
        obtain ⟨hindent, rfl⟩ := Directive.code.inj hcode
        exact ⟨rest, tail, hmarkup, htail, hword, hindent.symm⟩
  · rintro ⟨rest, tail, hmarkup, htail, hword, rfl⟩
    simp only [hmarkup, tail?_autofunction_of_codeName htail, Option.bind_none, htail,
      Option.bind_some, hword, Option.map_some]

/-- A line of the grammar is recognised as a code directive, and only such a line is. -/
theorem ofLine?_eq_code_iff_isCode {line language : Text} {indent : Nat} :
    ofLine? line = some (.code indent language) ↔ IsCode indent language line := by
  rw [ofLine?_eq_code_iff]
  constructor
  · rintro ⟨rest, tail, hmarkup, htail, hword, hindent⟩
    obtain ⟨name, hname, rfl⟩ := findSome?_codeNames_iff.mp htail
    exact ⟨name, tail, mem_codeNames_iff.mp hname,
      (marks_iff (isWord_codeNames hname)).mpr ⟨hmarkup, hindent⟩,
      argument?_eq_some_iff.mp hword⟩
  · rintro ⟨name, tail, hname, hmarks, hword⟩
    have hmem := mem_codeNames_iff.mpr hname
    obtain ⟨hmarkup, hindent⟩ := (marks_iff (isWord_codeNames hmem)).mp hmarks
    exact ⟨_, tail, hmarkup, findSome?_codeNames_iff.mpr ⟨name, hmem, rfl⟩,
      argument?_eq_some_iff.mpr hword, hindent⟩

/-- A line of the grammar is recognised as a directive for a docstring, and only such a line is. -/
theorem ofLine?_eq_autofunction_iff_isAutofunction {line target : Text} :
    ofLine? line = some (.autofunction target) ↔ IsAutofunction target line := by
  have hname : IsWord "autofunction".toList := by decide
  rw [ofLine?_eq_autofunction_iff]
  constructor
  · rintro ⟨rest, tail, hmarkup, htail, hword, hne⟩
    rw [tail?_eq_some_iff.mp htail] at hmarkup
    refine ⟨_, tail, (marks_iff hname).mpr ⟨hmarkup, rfl⟩, ?_⟩
    rcases argument?_eq_some_iff.mp hword with ⟨hnil, -⟩ | hargument
    · exact absurd hnil hne
    · exact hargument
  · rintro ⟨indent, tail, hmarks, hargument⟩
    exact ⟨_, tail, ((marks_iff hname).mp hmarks).1, tail?_eq_some_iff.mpr rfl,
      argument?_eq_some_iff.mpr (.inr hargument), hargument.ne_nil⟩

end Directive

/-- **Grammar of directives.** A line is recognised as a code directive exactly if it is one by the
grammar, and then its indentation is that of the line; it is recognised as a directive for a
docstring exactly if it is one by the grammar; and no line is both. -/
theorem ofLine?_accepts_grammar (line : Text) :
    (∀ indent language,
      (Directive.ofLine? line = some (.code indent language) ↔ IsCode indent language line) ∧
        (IsCode indent language line → indent = line.indentWidth)) ∧
      (∀ target,
        Directive.ofLine? line = some (.autofunction target) ↔ IsAutofunction target line) ∧
      ¬ ((∃ indent language, IsCode indent language line) ∧
        ∃ target, IsAutofunction target line) := by
  refine ⟨?_, fun target => Directive.ofLine?_eq_autofunction_iff_isAutofunction, ?_⟩
  · intro indent language
    refine ⟨Directive.ofLine?_eq_code_iff_isCode, ?_⟩
    intro hcode
    obtain ⟨-, -, -, -, -, hindent⟩ :=
      Directive.ofLine?_eq_code_iff.mp (Directive.ofLine?_eq_code_iff_isCode.mpr hcode)
    exact hindent
  · rintro ⟨⟨indent, language, hcode⟩, target, hauto⟩
    have hread := Directive.ofLine?_eq_code_iff_isCode.mpr hcode
    rw [Directive.ofLine?_eq_autofunction_iff_isAutofunction.mpr hauto] at hread
    exact absurd hread (by simp)

/-- One directive's name is the beginning of another's, and the whitespace is not that of ASCII. -/
theorem ofLine?_accepts_grammar_wide_blanks :
    let line : Text := "\u3000 ..\u00a0 code::\u2003c++::\u0085".toList
    IsCode 2 "c++::".toList line ∧ 2 = line.indentWidth ∧
      Directive.ofLine? line = some (.code 2 "c++::".toList) ∧
      ¬ ∃ target, IsAutofunction target line := by
  intro line
  have hcode : IsCode 2 "c++::".toList line := by
    refine ⟨"code".toList, "\u2003c++::\u0085".toList, .inr (.inl rfl),
      ⟨"\u3000 ".toList, "\u00a0 ".toList, by decide, by decide, rfl, by decide⟩, ?_⟩
    exact .inr ⟨"\u2003".toList, "\u0085".toList, by decide, by decide, by decide, by decide⟩
  obtain ⟨hiff, -, hone⟩ := ofLine?_accepts_grammar line
  obtain ⟨hread, hindent⟩ := hiff 2 "c++::".toList
  refine ⟨hcode, hindent hcode, hread.mpr hcode, ?_⟩
  intro hauto
  exact hone ⟨⟨2, _, hcode⟩, hauto⟩

end TranscriptLint.Rest
