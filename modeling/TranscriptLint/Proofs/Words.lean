import TranscriptLint.Proofs.Indentation

namespace TranscriptLint.Text

/-! # Gaps and words

The patterns of directives and of function heads are sequences of fixed texts, gaps and words. A gap
is whitespace, a word is free of whitespace, and neither is empty, so there is only one way to read
them off a text.

* `after?_eq_some_iff`: a fixed text is taken off the front.
* `IsWord.trimStart_append`, `IsWord.takeWhile_append`: a word is what is left and what is taken.
* `exists_gap_append`: a text that begins with whitespace begins with a gap.
* `eq_of_gap_append_eq`: what follows a gap is determined.
-/

/-- Whitespace, and at least one character of it. -/
structure IsGap (t : Text) : Prop where
  ne_nil : t ≠ []
  blank : t.isBlank = true

/-- At least one character, and no whitespace. -/
structure IsWord (t : Text) : Prop where
  ne_nil : t ≠ []
  visible : ∀ c ∈ t, isWhite c = false

instance (t : Text) : Decidable (IsGap t) :=
  decidable_of_iff (t ≠ [] ∧ t.isBlank = true)
    ⟨fun h => ⟨h.1, h.2⟩, fun h => ⟨h.ne_nil, h.blank⟩⟩

instance (t : Text) : Decidable (IsWord t) :=
  decidable_of_iff (t ≠ [] ∧ (t.all fun c => !isWhite c) = true)
    ⟨fun h => ⟨h.1, by simpa using h.2⟩, fun h => ⟨h.ne_nil, by simpa using h.visible⟩⟩

/-- What follows a text is what is left when the text is taken away. -/
theorem after?_eq_some_iff {t p rest : Text} : t.after? p = some rest ↔ t = p ++ rest := by
  induction p generalizing t with
  | nil =>
    rw [after?, Option.some_inj, List.nil_append]
  | cons d p ih =>
    cases t with
    | nil => simp [after?]
    | cons c t =>
      rw [after?, List.cons_append, List.cons.injEq]
      by_cases hc : c = d
      · rw [if_pos hc, ih, and_iff_right hc]
      · simp [hc]

theorem isBlank_takeWhile (t : Text) : isBlank (t.takeWhile isWhite) = true := by
  rw [takeWhile_isWhite_eq_take]
  exact isBlank_take_of_le_indentWidth (Nat.le_refl _)

/-- A text is its leading whitespace and the rest. -/
theorem takeWhile_append_trimStart (t : Text) : t.takeWhile isWhite ++ t.trimStart = t :=
  List.takeWhile_append_dropWhile

/-- The first character behind leading whitespace. -/
theorem exists_trimStart_eq_cons {t : Text} (h : t.isBlank = false) :
    ∃ c rest, t.trimStart = c :: rest ∧ isWhite c = false := by
  cases hrest : t.trimStart with
  | nil =>
    have hblank : t.isBlank = true := by
      rw [isBlank, List.all_eq_true]
      exact List.dropWhile_eq_nil_iff.mp hrest
    rw [hblank] at h
    exact absurd h (by decide)
  | cons c rest =>
    have hnot := List.head?_dropWhile_not isWhite t
    rw [← trimStart, hrest] at hnot
    exact ⟨c, rest, rfl, hnot⟩

/-- Whitespace at the front of a text makes a gap. -/
theorem exists_gap_append {t : Text} (h : (t.head?.map isWhite).getD false = true) :
    ∃ gap, t = gap ++ t.trimStart ∧ IsGap gap := by
  refine ⟨t.takeWhile isWhite, (takeWhile_append_trimStart t).symm, ?_, isBlank_takeWhile t⟩
  cases t with
  | nil => exact absurd h (by decide)
  | cons c t =>
    have hc : isWhite c = true := h
    rw [List.takeWhile_cons_of_pos hc]
    exact List.cons_ne_nil _ _

/-- What follows a gap is determined if no whitespace is left in front of it. -/
theorem eq_of_gap_append_eq {gap gap' t t' : Text} (hgap : IsGap gap) (hgap' : IsGap gap')
    (ht : t.trimStart = t) (ht' : t'.trimStart = t') (h : gap ++ t = gap' ++ t') : t = t' := by
  calc t
      = trimStart (gap ++ t) := by rw [trimStart_append_of_isBlank hgap.blank, ht]
    _ = trimStart (gap' ++ t') := by rw [h]
    _ = t' := by rw [trimStart_append_of_isBlank hgap'.blank, ht']

theorem IsGap.head?_append {gap : Text} (h : IsGap gap) (rest : Text) :
    ((gap ++ rest).head?.map isWhite).getD false = true := by
  obtain ⟨hne, hblank⟩ := h
  cases gap with
  | nil => exact absurd rfl hne
  | cons c gap =>
    rw [isBlank, List.all_cons, Bool.and_eq_true] at hblank
    exact hblank.1

namespace IsWord

variable {word : Text}

theorem trimStart_append (h : IsWord word) (rest : Text) :
    trimStart (word ++ rest) = word ++ rest := by
  obtain ⟨hne, hvisible⟩ := h
  cases word with
  | nil => exact absurd rfl hne
  | cons c word => exact trimStart_cons (hvisible c List.mem_cons_self) _

theorem isBlank_append_eq_false (h : IsWord word) (rest : Text) :
    isBlank (word ++ rest) = false := by
  obtain ⟨hne, hvisible⟩ := h
  cases word with
  | nil => exact absurd rfl hne
  | cons c word => simp [isBlank, hvisible c List.mem_cons_self]

/-- A word ends where whitespace begins. -/
theorem takeWhile_append (h : IsWord word) {rest : Text} (hrest : rest.isBlank = true) :
    (word ++ rest).takeWhile (fun c => !isWhite c) = word := by
  have hword : ∀ c ∈ word, (!isWhite c) = true := by
    intro c hc
    rw [h.visible c hc]
    rfl
  have hstop : rest.takeWhile (fun c => !isWhite c) = [] := by
    cases rest with
    | nil => rfl
    | cons c rest =>
      rw [isBlank, List.all_cons, Bool.and_eq_true] at hrest
      exact List.takeWhile_cons_of_neg (by simp [hrest.1])
  rw [List.takeWhile_append_of_pos hword, hstop, List.append_nil]

end IsWord
end TranscriptLint.Text
