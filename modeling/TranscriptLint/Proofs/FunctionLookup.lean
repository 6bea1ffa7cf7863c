import Mathlib.Order.Bounds.Basic
import TranscriptLint.Docstring
import TranscriptLint.Proofs.Words

namespace TranscriptLint.Docstring

open Text PatternLibrary

/-! # Looking up a function

A function is looked up by its name, which is any word: nothing in it stands for something else. The
head of a definition is described here by how it is put together.

* `Introduces line rest`: the line begins with `def` or `async def`, and `rest` follows.
* `Heads name line`: what follows begins with the name and an opening parenthesis.
* `definesFunction_iff_heads`: a line is tried in all ways to divide its whitespace, so it is found
  exactly if it is put together like this.
* `exists_heads_both_iff`: when one line can be the head of two functions.
* `findFunction_first_head`: the first head is found, if the pattern for the heads compiles.
-/

/-- The line begins at column zero with `def`, or with `async` and `def`, and `rest` stands behind
the gap. -/
def Introduces (line rest : Text) : Prop :=
  ∃ gap, IsGap gap ∧ (line = "def".toList ++ gap ++ rest ∨
    ∃ pause, IsGap pause ∧ line = "async".toList ++ pause ++ "def".toList ++ gap ++ rest)

/-- The text begins with the name, perhaps whitespace, and an opening parenthesis. -/
def BeginsCall (name t : Text) : Prop :=
  ∃ blanks rest, t = name ++ blanks ++ '(' :: rest ∧ blanks.isBlank = true

/-- The line is the head of a definition of this function at the top level. -/
def Heads (name line : Text) : Prop := ∃ rest, Introduces line rest ∧ BeginsCall name rest

/-! ## The lines that are found -/

/-- What may follow a keyword and its gap, for some gap. -/
theorem mem_afterKeyword_iff {keyword line rest : Text} :
    rest ∈ afterKeyword keyword line ↔ ∃ gap, IsGap gap ∧ line = keyword ++ gap ++ rest := by
  unfold afterKeyword
  constructor
  · intro h
    split at h
    · exact absurd h List.not_mem_nil
    · next tail hafter =>
      obtain ⟨k, hk, rfl⟩ := List.mem_map.mp h
      rw [List.mem_range] at hk
      -- the gap that was dropped is part of the leading whitespace
      have hne : tail ≠ [] := by
        rintro rfl
        exact absurd hk (Nat.not_lt_zero k)
      refine ⟨tail.take (k + 1), ⟨by simp [hne], isBlank_take_of_le_indentWidth hk⟩, ?_⟩
      rw [List.append_assoc, List.take_append_drop]
      exact after?_eq_some_iff.mp hafter
  · rintro ⟨gap, hgap, rfl⟩
    have hafter : after? (keyword ++ gap ++ rest) keyword = some (gap ++ rest) := by
      rw [after?_eq_some_iff, List.append_assoc]
    have hpos : 0 < gap.length := List.length_pos_iff.mpr hgap.ne_nil
    have hwidth : gap.length ≤ indentWidth (gap ++ rest) := by
      rw [indentWidth, List.takeWhile_append_of_pos (List.all_eq_true.mp hgap.blank),
        List.length_append]
      exact Nat.le_add_right _ _
    simp only [hafter, List.mem_map, List.mem_range]
    -- all of the gap is dropped
    refine ⟨gap.length - 1, by omega, ?_⟩
    rw [Nat.sub_add_cancel hpos, List.drop_left]

theorem beginsWithCall_iff {name t : Text} : beginsWithCall name t = true ↔ BeginsCall name t := by
  unfold beginsWithCall
  constructor
  · intro h
    cases hafter : t.after? name with
    | none => simp [hafter] at h
    | some r =>
      rw [hafter, Option.map_some, Option.getD_some, beq_iff_eq] at h
      obtain ⟨rest, hrest⟩ := List.head?_eq_some_iff.mp h
      refine ⟨r.takeWhile isWhite, rest, ?_, isBlank_takeWhile r⟩
      rw [List.append_assoc, ← hrest, takeWhile_append_trimStart]
      exact after?_eq_some_iff.mp hafter
  · rintro ⟨blanks, rest, rfl, hblanks⟩
    have hafter : after? (name ++ blanks ++ '(' :: rest) name = some (blanks ++ '(' :: rest) := by
      rw [after?_eq_some_iff, List.append_assoc]
    rw [hafter, Option.map_some, Option.getD_some, trimStart_append_of_isBlank hblanks,
      trimStart_cons (by decide)]
    rfl

theorem isDef_iff {name line : Text} :
    isDef name line = true ↔
      ∃ gap rest, IsGap gap ∧ line = "def".toList ++ gap ++ rest ∧ BeginsCall name rest := by
  simp only [isDef, List.any_eq_true, mem_afterKeyword_iff, beginsWithCall_iff]
  constructor
  · rintro ⟨rest, ⟨gap, hgap, hline⟩, hcall⟩
    exact ⟨gap, rest, hgap, hline, hcall⟩
  · rintro ⟨gap, rest, hgap, hline, hcall⟩
    exact ⟨rest, ⟨gap, hgap, hline⟩, hcall⟩

/-- The lines that are found are the heads of the function. -/
theorem definesFunction_iff_heads {name line : Text} :
    definesFunction name line = true ↔ Heads name line := by
  simp only [definesFunction, Bool.or_eq_true, List.any_eq_true, mem_afterKeyword_iff, isDef_iff]
  constructor
  · rintro (⟨gap, rest, hgap, rfl, hcall⟩ |
      ⟨-, ⟨pause, hpause, rfl⟩, gap, rest, hgap, rfl, hcall⟩)
    · exact ⟨rest, ⟨gap, hgap, .inl rfl⟩, hcall⟩
    · refine ⟨rest, ⟨gap, hgap, .inr ⟨pause, hpause, ?_⟩⟩, hcall⟩
      simp only [List.append_assoc]
  · rintro ⟨rest, ⟨gap, hgap, rfl | ⟨pause, hpause, rfl⟩⟩, hcall⟩
    · exact .inl ⟨gap, rest, hgap, rfl, hcall⟩
    · refine .inr ⟨"def".toList ++ gap ++ rest, ⟨pause, hpause, ?_⟩, gap, rest, hgap, rfl, hcall⟩
      simp only [List.append_assoc]

/-! ## Two names for one line -/

/-- What is introduced begins behind all of the whitespace, so there is one such text only. -/
theorem introduces_unique {line rest rest' : Text} (h : Introduces line rest)
    (h' : Introduces line rest') (hrest : rest.trimStart = rest)
    (hrest' : rest'.trimStart = rest') : rest = rest' := by
  obtain ⟨gap, hgap, rfl | ⟨pause, hpause, rfl⟩⟩ := h
  · obtain ⟨gap', hgap', heq | ⟨pause', -, heq⟩⟩ := h'
    · rw [List.append_assoc, List.append_assoc, List.append_cancel_left_eq] at heq
      exact eq_of_gap_append_eq hgap hgap' hrest hrest' heq
    · exact absurd (List.cons.inj heq).1 (by decide)
  · obtain ⟨gap', hgap', heq | ⟨pause', hpause', heq⟩⟩ := h'
    · exact absurd (List.cons.inj heq).1 (by decide)
    · -- first the gaps behind `async` are taken off, then those behind `def`
      simp only [List.append_assoc, List.append_cancel_left_eq] at heq
      have hdef : ∀ t : Text, trimStart ("def".toList ++ t) = "def".toList ++ t :=
        fun t => trimStart_cons (by decide) _
      have hinner := eq_of_gap_append_eq hpause hpause' (hdef _) (hdef _) heq
      rw [List.append_cancel_left_eq] at hinner
      exact eq_of_gap_append_eq hgap hgap' hrest hrest' hinner

theorem BeginsCall.trimStart_eq {name t : Text} (hname : IsWord name) (h : BeginsCall name t) :
    t.trimStart = t := by
  obtain ⟨blanks, rest, rfl, -⟩ := h
  rw [List.append_assoc, hname.trimStart_append]

/-- A name that goes on where a shorter one is followed by a parenthesis goes on with the
parenthesis. -/
theorem paren_of_longer {name more rest : Text} (hne : more ≠ []) (hword : IsWord (name ++ more))
    (h : BeginsCall name (name ++ more ++ rest)) : name ++ ['('] <+: name ++ more := by
  obtain ⟨blanks, tail, htail, hblanks⟩ := h
  obtain ⟨c, more, rfl⟩ := List.exists_cons_of_ne_nil hne
  have hc : isWhite c = false := hword.visible c (by simp)
  rw [List.append_assoc, List.append_assoc, List.append_cancel_left_eq] at htail
  cases blanks with
  | nil =>
    obtain ⟨rfl, -⟩ := List.cons.inj htail
    exact ⟨more, by simp⟩
  | cons d blanks =>
    -- no whitespace stands where the longer name goes on
    obtain ⟨rfl, -⟩ := List.cons.inj htail
    rw [isBlank, List.all_cons, Bool.and_eq_true] at hblanks
    rw [hc] at hblanks
    exact absurd hblanks.1 (by decide)

/-- Two names in front of the same parenthesis, or one goes on with it behind the other. -/
theorem paren_of_calls {name other t : Text} (hname : IsWord name) (hother : IsWord other)
    (hne : other ≠ name) (hcall : BeginsCall name t) (hcall' : BeginsCall other t) :
    other ++ ['('] <+: name ∨ name ++ ['('] <+: other := by
  have hbegins : ∀ {n : Text}, BeginsCall n t → n <+: t := by
    rintro n ⟨blanks, rest, rfl, -⟩
    exact ⟨blanks ++ '(' :: rest, by rw [List.append_assoc]⟩
  -- both names stand at the front of the text, so one of them goes on where the other ends
  rcases List.prefix_or_prefix_of_prefix (hbegins hcall') (hbegins hcall) with
    ⟨more, rfl⟩ | ⟨more, rfl⟩
  · left
    have hmore : more ≠ [] := by
      rintro rfl
      exact hne (List.append_nil other).symm
    obtain ⟨rest, rfl⟩ := hbegins hcall
    exact paren_of_longer hmore hname hcall'
  · right
    have hmore : more ≠ [] := by
      rintro rfl
      exact hne (List.append_nil name)
    obtain ⟨rest, rfl⟩ := hbegins hcall'
    exact paren_of_longer hmore hother hcall

/-- A line for two names of which one goes on with a parenthesis behind the other. -/
theorem exists_heads_of_paren {name other : Text} (h : other ++ ['('] <+: name) :
    ∃ line, Heads other line ∧ Heads name line := by
  obtain ⟨more, rfl⟩ := h
  -- a call of the longer name is also one of the shorter name
  let call : Text := other ++ ['('] ++ more ++ "(".toList
  have hintro : Introduces ("def".toList ++ " ".toList ++ call) call :=
    ⟨" ".toList, by decide, .inl rfl⟩
  refine ⟨_, ⟨call, hintro, [], more ++ "(".toList, ?_, rfl⟩, call, hintro, [], [], ?_, rfl⟩
  · simp [call]
  · simp [call]

/-- One line can be the head of two functions exactly if the name of one goes on with a parenthesis
behind the name of the other. -/
theorem exists_heads_both_iff {name other : Text} (hname : IsWord name) (hother : IsWord other)
    (hne : other ≠ name) :
    (∃ line, Heads other line ∧ Heads name line) ↔
      other ++ ['('] <+: name ∨ name ++ ['('] <+: other := by
  constructor
  · rintro ⟨line, ⟨rest', hintro', hcall'⟩, rest, hintro, hcall⟩
    obtain rfl := introduces_unique hintro hintro' (hcall.trimStart_eq hname)
      (hcall'.trimStart_eq hother)
    exact paren_of_calls hname hother hne hcall hcall'
  · rintro (h | h)
    · exact exists_heads_of_paren h
    · obtain ⟨line, hhead, hhead'⟩ := exists_heads_of_paren h
      exact ⟨line, hhead', hhead⟩

/-! ## The first head -/

section FirstHead

variable {lines : List Text} {name : Text} {i : Nat}

/-- The first line that fits is the first head. -/
theorem findIdx?_definesFunction_eq_some_iff :
    lines.findIdx? (definesFunction name) = some i ↔
      IsLeast {n | ∃ line, lines[n]? = some line ∧ Heads name line} i := by
  rw [List.findIdx?_eq_some_iff_getElem]
  constructor
  · rintro ⟨hi, hhead, hbefore⟩
    refine ⟨⟨lines[i], List.getElem?_eq_getElem hi, definesFunction_iff_heads.mp hhead⟩, ?_⟩
    rintro n ⟨line, hline, hhead'⟩
    by_contra hlt
    obtain ⟨hn, rfl⟩ := List.getElem?_eq_some_iff.mp hline
    exact hbefore n (by omega) (definesFunction_iff_heads.mpr hhead')
  · rintro ⟨⟨line, hline, hhead⟩, hleast⟩
    obtain ⟨hi, rfl⟩ := List.getElem?_eq_some_iff.mp hline
    refine ⟨hi, definesFunction_iff_heads.mpr hhead, ?_⟩
    intro n hn hhead'
    have hle : i ≤ n := hleast
      ⟨_, List.getElem?_eq_getElem (Nat.lt_trans hn hi), definesFunction_iff_heads.mp hhead'⟩
    omega

variable [PatternLibrary]

/-- What is found is the first line that fits, and it is only looked for with a pattern that
compiles. -/
theorem findFunction_eq_some_iff :
    findFunction lines name = some i ↔
      compiles name = true ∧ lines.findIdx? (definesFunction name) = some i := by
  unfold findFunction
  split
  · next h => rw [h, and_iff_right rfl]
  · next h => simp [h]

theorem findFunction_eq_none (h : compiles name = false) :
    findFunction lines name = none := by
  rw [findFunction, if_neg (by simp [h])]

theorem findFunction_eq_none_iff (h : compiles name = true) :
    findFunction lines name = none ↔ ∀ line ∈ lines, ¬ Heads name line := by
  rw [findFunction, if_pos h, List.findIdx?_eq_none_iff]
  simp only [Bool.eq_false_iff, ne_eq, definesFunction_iff_heads]

end FirstHead

/-- **Lookup.** If the pattern for the heads of a function compiles, the line that is found is the
first head of the function, and none is found exactly if there is no head of it. If the pattern does
not compile, none is found in any lines. One line can be the head of this function and of another
one exactly if the longer of the two names goes on, behind the shorter one, with an opening
parenthesis. -/
theorem findFunction_first_head [PatternLibrary] (lines : List Text) {name : Text}
    (hname : IsWord name) :
    (compiles name = true →
      (∀ i, findFunction lines name = some i ↔
        IsLeast {n | ∃ line, lines[n]? = some line ∧ Heads name line} i) ∧
        (findFunction lines name = none ↔ ∀ line ∈ lines, ¬ Heads name line)) ∧
      (compiles name = false → findFunction lines name = none) ∧
      ∀ other, IsWord other → other ≠ name →
        ((∃ line, Heads other line ∧ Heads name line) ↔
          other ++ ['('] <+: name ∨ name ++ ['('] <+: other) := by
  refine ⟨?_, findFunction_eq_none, fun other hother hne => exists_heads_both_iff hname hother hne⟩
  intro hcompiles
  refine ⟨?_, findFunction_eq_none_iff hcompiles⟩
  intro i
  rw [findFunction_eq_some_iff, and_iff_right hcompiles, findIdx?_definesFunction_eq_some_iff]

/-! ## Long names -/

theorem isWord_replicate {n : Nat} (hn : n ≠ 0) : IsWord (List.replicate n 'f') where
  ne_nil := by simpa using hn
  visible := fun c hc => by
    rw [List.eq_of_mem_replicate hc]
    decide

theorem heads_call (name : Text) : Heads name ("def ".toList ++ (name ++ "():".toList)) :=
  ⟨name ++ "():".toList, ⟨" ".toList, by decide, .inl rfl⟩, [], "):".toList, by simp, rfl⟩

/-- A letter takes one octet, so a name of enough letters is too long. -/
theorem not_compiles_replicate {n : Nat} (hn : limit < 32 * n) :
    compiles (List.replicate n 'f') = false := by
  have hlength : (utf8 (List.replicate n 'f')).length = n := by
    have hletter : 'f'.utf8Size = 1 := rfl
    simp [utf8, List.length_flatMap, hletter]
  have hbound : compiles (List.replicate n 'f') =
      decide (32 * (utf8 (List.replicate n 'f')).length ≤ limit) := rfl
  rw [hbound, hlength, decide_eq_false_iff_not]
  omega

/-- The name is full of characters that a pattern would read differently, and the first line is the
head of a longer name. A name of four hundred thousand letters is too long. -/
theorem findFunction_first_head_pattern :
    let lines := ["def f.*x(a):".toList, " def f.*(a):".toList,
      "async \tdef\u00a0f.*\u3000(b".toList]
    let long : Text := List.replicate 400000 'f'
    IsWord "f.*".toList ∧ compiles "f.*".toList = true ∧
      findFunction lines "f.*".toList = some 2 ∧
      IsLeast {n | ∃ line, lines[n]? = some line ∧ Heads "f.*".toList line} 2 ∧
      (¬ ∃ line, Heads "f.*x".toList line ∧ Heads "f.*".toList line) ∧
      IsWord long ∧ compiles long = false ∧
      findFunction ["def ".toList ++ (long ++ "():".toList)] long = none := by
  intro lines long
  have hname : IsWord "f.*".toList := by decide
  have hother : IsWord "f.*x".toList := by decide
  have hcompiles : compiles "f.*".toList = true := by decide +kernel
  have hfound : findFunction lines "f.*".toList = some 2 := by decide +kernel
  have hlong : IsWord long := isWord_replicate (by decide)
  have hrefused : compiles long = false := not_compiles_replicate (by decide)
  obtain ⟨hexact, -, hboth⟩ := findFunction_first_head lines hname
  obtain ⟨-, hnone, -⟩ :=
    findFunction_first_head ["def ".toList ++ (long ++ "():".toList)] hlong
  refine ⟨hname, hcompiles, hfound, ((hexact hcompiles).1 2).mp hfound, ?_, hlong, hrefused,
    hnone hrefused⟩
  rw [hboth _ hother (by decide)]
  decide

/-- A line whose parameters begin with a second parenthesis is the head of a function `f`, and it is
found for the longer name `f(` as well. A function with a name of four hundred thousand letters is
not found, though its head is there. -/
theorem lookup_not_exact :
    (¬ ∀ (lines : List Text) (name other line : Text) (i : Nat), IsWord name → IsWord other →
        other ≠ name → name <+: other ∨ other <+: name → lines[i]? = some line →
        Heads other line → findFunction lines name ≠ some i) ∧
      ¬ ∀ (lines : List Text) (name : Text), IsWord name → findFunction lines name = none →
        ∀ line ∈ lines, ¬ Heads name line := by
  constructor
  · intro hall
    have hhead : Heads "f".toList "def f((a, b)):".toList :=
      definesFunction_iff_heads.mp (by decide +kernel)
    exact hall ["def f((a, b)):".toList] "f(".toList "f".toList _ 0 (by decide) (by decide)
      (by decide) (.inr ⟨"(".toList, rfl⟩) rfl hhead (by decide +kernel)
  · intro hall
    have hrefused : compiles (List.replicate 400000 'f') = false :=
      not_compiles_replicate (by decide)
    exact hall _ _ (isWord_replicate (by decide)) (findFunction_eq_none hrefused) _
      (List.mem_singleton_self _) (heads_call _)

end TranscriptLint.Docstring
