import Mathlib.Data.List.Basic
import Mathlib.Data.List.DropRight
import Mathlib.Data.List.TakeWhile
import Mathlib.Order.Bounds.Basic
import TranscriptLint.Text.Indent

namespace TranscriptLint.Text

/-! # Text without its indentation

Every stage between a source file and a script takes whitespace off the front of a line, and some
of them take whitespace off its end. `Shifted n whole part` says that nothing else happened: `part`
is `whole` behind its first `n` characters, all of them whitespace, up to trailing whitespace.

* `Shifted.trans`: two shifts in a row are one shift by the sum.
* `Shifted.getElem?_eq`: the characters that are left stand `n` columns further right in the source.
* `isBlank_take_minIndent`: the common indentation of some lines is whitespace in each of them.
-/

/-! ## Blank texts -/

theorem isBlank_append (a b : Text) : isBlank (a ++ b) = (isBlank a && isBlank b) :=
  List.all_append

theorem isBlank_take {t : Text} (h : isBlank t = true) (n : Nat) : isBlank (t.take n) = true := by
  rw [isBlank, List.all_eq_true] at h ⊢
  intro c hc
  exact h c (List.mem_of_mem_take hc)

theorem isBlank_drop {t : Text} (h : isBlank t = true) (n : Nat) : isBlank (t.drop n) = true := by
  rw [isBlank, List.all_eq_true] at h ⊢
  intro c hc
  exact h c (List.mem_of_mem_drop hc)

theorem isBlank_replicate_space (n : Nat) : isBlank (List.replicate n ' ') = true := by
  rw [isBlank, List.all_eq_true]
  intro c hc
  rw [List.eq_of_mem_replicate hc]
  decide

theorem dropWhile_eq_drop {α : Type} (p : α → Bool) (l : List α) :
    l.dropWhile p = l.drop (l.takeWhile p).length := by
  calc l.dropWhile p
      = (l.takeWhile p ++ l.dropWhile p).drop (l.takeWhile p).length := by rw [List.drop_left]
    _ = l.drop (l.takeWhile p).length := by rw [List.takeWhile_append_dropWhile]

theorem takeWhile_isWhite_eq_take (t : Text) : t.takeWhile isWhite = t.take (indentWidth t) :=
  List.prefix_iff_eq_take.mp (List.takeWhile_prefix isWhite)

theorem trimStart_eq_drop (t : Text) : trimStart t = t.drop (indentWidth t) :=
  dropWhile_eq_drop isWhite t

/-- The characters counted by `indentWidth` are whitespace. -/
theorem isBlank_take_of_le_indentWidth {n : Nat} {t : Text} (h : n ≤ indentWidth t) :
    isBlank (t.take n) = true := by
  have hwhite : isBlank (t.take (indentWidth t)) = true := by
    rw [← takeWhile_isWhite_eq_take, isBlank, List.all_eq_true]
    intro c hc
    exact List.mem_takeWhile_imp hc
  have htake : t.take n = (t.take (indentWidth t)).take n := by
    rw [List.take_take, Nat.min_eq_left h]
  rw [htake]
  exact isBlank_take hwhite n

/-- A text that is not blank goes on behind its indentation. -/
theorem indentWidth_lt_length {t : Text} (h : isBlank t = false) : indentWidth t < t.length := by
  have hle := (List.takeWhile_prefix isWhite (l := t)).length_le
  have hne : (t.takeWhile isWhite).length ≠ t.length := by
    -- indentation that reaches the end of a text leaves nothing else in it
    intro heq
    have hall : t.takeWhile isWhite = t := (List.takeWhile_prefix isWhite).eq_of_length heq
    have hblank : isBlank t = true := by
      rw [isBlank, List.all_eq_true]
      exact List.takeWhile_eq_self_iff.mp hall
    rw [hblank] at h
    exact absurd h (by decide)
  exact Nat.lt_of_le_of_ne hle hne

/-- A text in which something follows the indentation is not blank. -/
theorem isBlank_eq_false_of_head?_trimStart {t : Text} {c : Char}
    (h : (trimStart t).head? = some c) : isBlank t = false := by
  cases hblank : isBlank t with
  | false => rfl
  | true =>
    have hnil : trimStart t = [] := List.dropWhile_eq_nil_iff.mpr (List.all_eq_true.mp hblank)
    rw [hnil] at h
    exact absurd h (by simp)

/-- A line loses `n` columns exactly when its first `n` characters are whitespace. -/
theorem stripIndent_eq_drop {n : Nat} {t : Text} (h : isBlank (t.take n) = true) :
    stripIndent n t = t.drop n := by
  induction n generalizing t with
  | zero => rfl
  | succ n ih =>
    cases t with
    | nil => rfl
    | cons c t =>
      simp only [List.take_succ_cons, isBlank, List.all_cons, Bool.and_eq_true] at h
      simp only [stripIndent, h.1, if_true, List.drop_succ_cons]
      exact ih h.2

/-- Whatever the width, indentation is taken off at the front only. -/
theorem stripIndent_suffix (n : Nat) (t : Text) : stripIndent n t <:+ t := by
  induction n generalizing t with
  | zero => exact List.suffix_rfl
  | succ n ih =>
    cases t with
    | nil => exact List.suffix_rfl
    | cons c t =>
      unfold stripIndent
      split
      · exact (ih t).trans (List.suffix_cons c t)
      · exact List.suffix_rfl

/-! ## Dropping at the end -/

section DropEnd

variable {α : Type} (p : α → Bool) (l : List α)

theorem dropEnd_eq_rdropWhile : dropEnd p l = l.rdropWhile p := rfl

/-- What `dropEnd` drops satisfies the predicate. -/
theorem dropEnd_append : ∃ rest, (∀ a ∈ rest, p a = true) ∧ l = dropEnd p l ++ rest := by
  rw [dropEnd_eq_rdropWhile]
  exact ⟨l.rtakeWhile p, fun _ => List.mem_rtakeWhile_imp,
    List.rdropWhile_append_rtakeWhile.symm⟩

variable {p l}

/-- What `dropEnd` leaves does not end with an element that satisfies the predicate. -/
theorem of_getLast?_dropEnd {a : α} (h : (dropEnd p l).getLast? = some a) : p a = false := by
  rw [dropEnd_eq_rdropWhile] at h
  obtain ⟨hne, rfl⟩ := List.mem_getLast?_eq_getLast h
  exact Bool.eq_false_iff.mpr (List.rdropWhile_last_not p l hne)

end DropEnd

/-! ## Trimming -/

/-- Leading whitespace does not change a text without its leading whitespace. -/
theorem trimStart_append_of_isBlank {blanks : Text} (h : isBlank blanks = true) (t : Text) :
    trimStart (blanks ++ t) = trimStart t :=
  List.dropWhile_append_of_pos (List.all_eq_true.mp h)

theorem trimStart_cons {c : Char} (h : isWhite c = false) (t : Text) :
    trimStart (c :: t) = c :: t := by
  simp [trimStart, h]

theorem trimEnd_concat_of_white (t : Text) {c : Char} (h : isWhite c = true) :
    trimEnd (t ++ [c]) = trimEnd t :=
  List.rdropWhile_concat_pos isWhite t c h

theorem trimEnd_concat (t : Text) {c : Char} (h : isWhite c = false) :
    trimEnd (t ++ [c]) = t ++ [c] :=
  List.rdropWhile_concat_neg isWhite t c (by simp [h])

/-- Trailing whitespace does not change a text without its trailing whitespace. -/
theorem trimEnd_append_of_isBlank (t : Text) {rest : Text} (h : isBlank rest = true) :
    trimEnd (t ++ rest) = trimEnd t := by
  induction rest using List.reverseRecOn with
  | nil => rw [List.append_nil]
  | append_singleton rest c ih =>
    rw [isBlank_append, Bool.and_eq_true] at h
    have hc : isWhite c = true := by simpa [isBlank] using h.2
    rw [← List.append_assoc, trimEnd_concat_of_white _ hc, ih h.1]

/-- Trailing whitespace begins behind the last character that is none. -/
theorem trimEnd_append_cons (t : Text) {c : Char} (h : isWhite c = false) (rest : Text) :
    trimEnd (t ++ c :: rest) = t ++ c :: trimEnd rest := by
  induction rest using List.reverseRecOn with
  | nil => exact trimEnd_concat t h
  | append_singleton rest d ih =>
    rw [← List.cons_append, ← List.append_assoc]
    cases hd : isWhite d with
    | true => rw [trimEnd_concat_of_white _ hd, trimEnd_concat_of_white _ hd, ih]
    | false => rw [trimEnd_concat _ hd, trimEnd_concat _ hd, List.append_assoc, List.cons_append]

/-- Trailing whitespace does not change a text without its surrounding whitespace. -/
theorem trim_append_of_isBlank (t : Text) {rest : Text} (h : isBlank rest = true) :
    trim (t ++ rest) = trim t := by
  have hrest : trimStart rest = [] := List.dropWhile_eq_nil_iff.mpr (List.all_eq_true.mp h)
  have hstart : trimStart (t ++ rest) =
      if (trimStart t).isEmpty then trimStart rest else trimStart t ++ rest :=
    List.dropWhile_append
  rw [trim, trim, hstart]
  split
  · next hempty => rw [hrest, List.isEmpty_iff.mp hempty]
  · exact trimEnd_append_of_isBlank _ h

/-- Taking whitespace off the end of a text leaves its first character, or nothing. -/
theorem mem_head?_of_mem_head?_trimEnd {t : Text} {c : Char} (h : c ∈ (trimEnd t).head?) :
    c ∈ t.head? := by
  obtain ⟨rest, -, ht⟩ := dropEnd_append isWhite t
  rw [ht, List.head?_append, ← trimEnd, h]
  rfl

/-! ## Shifted texts -/

/-- `part` is `whole` without its first `n` characters, all of which are whitespace, and perhaps
without some of its trailing whitespace. -/
structure Shifted (n : Nat) (whole part : Text) : Prop where
  lead : isBlank (whole.take n) = true
  rest : ∃ tail, isBlank tail = true ∧ whole.drop n = part ++ tail

namespace Shifted

variable {m n : Nat} {a b c whole part : Text}

theorem refl (t : Text) : Shifted 0 t t := ⟨rfl, [], rfl, by simp⟩

/-- Shifts compose, and their widths add up. -/
theorem trans (hab : Shifted m a b) (hbc : Shifted n b c) : Shifted (m + n) a c := by
  obtain ⟨hlead, tail, htail, hdrop⟩ := hab
  obtain ⟨hlead', tail', htail', hdrop'⟩ := hbc
  constructor
  · rw [List.take_add, isBlank_append, hlead, hdrop, List.take_append, isBlank_append, hlead',
      isBlank_take htail]
    rfl
  · -- the second shift may reach into the whitespace that the first one cut off at the end
    refine ⟨tail' ++ tail.drop (n - b.length), ?_, ?_⟩
    · rw [isBlank_append, htail', isBlank_drop htail]
      rfl
    · rw [← List.drop_drop, hdrop, List.drop_append, hdrop', List.append_assoc]

/-- A blank text may be cut down to nothing, whatever the shift. -/
theorem nil_of_isBlank (h : isBlank whole = true) (n : Nat) : Shifted n whole [] :=
  ⟨isBlank_take h n, whole.drop n, isBlank_drop h n, rfl⟩

theorem of_stripIndent (h : isBlank (whole.take n) = true) :
    Shifted n whole (stripIndent n whole) := by
  refine ⟨h, [], rfl, ?_⟩
  rw [stripIndent_eq_drop h, List.append_nil]

theorem of_trimEnd (t : Text) : Shifted 0 t (trimEnd t) := by
  obtain ⟨rest, hrest, ht⟩ := dropEnd_append isWhite t
  exact ⟨rfl, rest, List.all_eq_true.mpr hrest, ht⟩

/-- The carriage return of a line ending is whitespace. -/
theorem of_chompReturn (t : Text) : Shifted 0 t (chompReturn t) := by
  unfold chompReturn
  split
  · next h =>
    refine ⟨rfl, ['\r'], by decide, ?_⟩
    exact (List.dropLast_append_getLast? _ h).symm
  · exact refl t

/-- What is left of a text, up to trailing whitespace. -/
theorem trimEnd_eq (h : Shifted n whole part) : trimEnd part = trimEnd (whole.drop n) := by
  obtain ⟨-, tail, htail, hdrop⟩ := h
  rw [hdrop, trimEnd_append_of_isBlank part htail]

/-- A character of the part stands `n` places further right in the whole. -/
theorem getElem?_eq (h : Shifted n whole part) {i : Nat} (hi : i < part.length) :
    whole[n + i]? = part[i]? := by
  obtain ⟨-, tail, -, hdrop⟩ := h
  rw [← List.getElem?_drop, hdrop, List.getElem?_append_left hi]

/-- Only whitespace is lost, so a text is blank exactly when what is left of it is. -/
theorem isBlank_eq (h : Shifted n whole part) : isBlank whole = isBlank part := by
  obtain ⟨hlead, tail, htail, hdrop⟩ := h
  rw [← List.take_append_drop n whole, isBlank_append, hlead, hdrop, isBlank_append, htail,
    Bool.true_and, Bool.and_true]

/-- A part that is not blank leaves the whole its `n` columns. -/
theorem length_take (h : Shifted n whole part) (hpart : isBlank part = false) :
    (whole.take n).length = n := by
  obtain ⟨-, tail, -, hdrop⟩ := h
  have hne : whole.drop n ≠ [] := by
    intro hnil
    rw [hnil] at hdrop
    have hempty : part = [] := (List.append_eq_nil_iff.mp hdrop.symm).1
    rw [hempty] at hpart
    exact absurd hpart (by decide)
  have hlt : n < whole.length := by
    by_contra hle
    exact hne (List.drop_eq_nil_of_le (by omega))
  rw [List.length_take]
  omega

/-- The indentation of the whole is that of the part behind the shift. -/
theorem indentWidth_eq (h : Shifted n whole part) (hpart : isBlank part = false) :
    indentWidth whole = n + indentWidth part := by
  have hlen := h.length_take hpart
  obtain ⟨hlead, tail, -, hdrop⟩ := h
  have hstop : (part.takeWhile isWhite).length ≠ part.length :=
    Nat.ne_of_lt (indentWidth_lt_length hpart)
  have hpass : ∀ c ∈ whole.take n, isWhite c = true := List.all_eq_true.mp hlead
  calc indentWidth whole
      = ((whole.take n ++ (part ++ tail)).takeWhile isWhite).length := by
        rw [← hdrop, List.take_append_drop, indentWidth]
    _ = n + ((part ++ tail).takeWhile isWhite).length := by
        rw [List.takeWhile_append_of_pos hpass, List.length_append, hlen]
    _ = n + indentWidth part := by
        rw [List.takeWhile_append, if_neg hstop, indentWidth]

end Shifted

/-- Whitespace at the front of a text that is not blank is part of its indentation. -/
theorem le_indentWidth_of_isBlank_take {t : Text} {m : Nat} (hvisible : isBlank t = false)
    (h : isBlank (t.take m) = true) : m ≤ indentWidth t := by
  have hshift := Shifted.of_stripIndent h
  have hwidth := hshift.indentWidth_eq (by rw [← hshift.isBlank_eq, hvisible])
  omega

/-! ## Common indentation -/

/-- The least indentation of some lines is whitespace at the front of each of them. -/
theorem isBlank_take_least {lines : List Text} {line : Text} (h : line ∈ lines) :
    isBlank (line.take ((lines.map indentWidth).min?.getD 0)) = true := by
  apply isBlank_take_of_le_indentWidth
  have hmem : indentWidth line ∈ lines.map indentWidth := List.mem_map_of_mem h
  cases hmin : (lines.map indentWidth).min? with
  | none => exact Nat.zero_le _
  | some m => exact (List.min?_eq_some_iff.mp hmin).2 _ hmem

/-- The common indentation is whitespace in every line, also in the blank lines, which are not
measured. -/
theorem isBlank_take_minIndent {lines : List Text} {line : Text} (h : line ∈ lines) :
    isBlank (line.take ((minIndent lines).getD 0)) = true := by
  cases hblank : isBlank line with
  | true => exact isBlank_take hblank _
  | false => exact isBlank_take_least (List.mem_filter.mpr ⟨h, by simp [hblank]⟩)

/-- The lines that are measured. -/
def visibleLines (lines : List Text) : Set Text := {line | line ∈ lines ∧ line.isBlank = false}

theorem visibleLines_eq_empty_iff {lines : List Text} :
    visibleLines lines = ∅ ↔ ∀ line ∈ lines, isBlank line = true := by
  simp [visibleLines, Set.eq_empty_iff_forall_notMem]

/-- The common indentation is that of one of the lines that are measured. -/
theorem exists_indentWidth_eq_minIndent {lines : List Text} (h : (visibleLines lines).Nonempty) :
    ∃ line ∈ visibleLines lines, indentWidth line = (minIndent lines).getD 0 := by
  obtain ⟨line, hmem, hvisible⟩ := h
  cases hmin : minIndent lines with
  | none =>
    have hnone := List.map_eq_nil_iff.mp (List.min?_eq_none_iff.mp hmin)
    have hfilter : line ∈ lines.filter fun l => !isBlank l :=
      List.mem_filter.mpr ⟨hmem, by simp [hvisible]⟩
    rw [hnone] at hfilter
    exact absurd hfilter List.not_mem_nil
  | some least =>
    obtain ⟨hleast, -⟩ := List.min?_eq_some_iff.mp hmin
    obtain ⟨source, hsource, rfl⟩ := List.mem_map.mp hleast
    obtain ⟨hmem', hvisible'⟩ := List.mem_filter.mp hsource
    exact ⟨source, ⟨hmem', by simpa using hvisible'⟩, rfl⟩

/-- No larger number of characters is whitespace at the front of all lines that are not blank. -/
theorem isGreatest_minIndent {lines : List Text} (h : (visibleLines lines).Nonempty) :
    IsGreatest {m | ∀ line ∈ visibleLines lines, isBlank (line.take m) = true}
      ((minIndent lines).getD 0) := by
  refine ⟨fun line hline => isBlank_take_minIndent hline.1, ?_⟩
  intro m hm
  -- `m` is measured on the line with the least indentation
  obtain ⟨source, hsource, hwidth⟩ := exists_indentWidth_eq_minIndent h
  rw [← hwidth]
  exact le_indentWidth_of_isBlank_take hsource.2 (hm source hsource)

theorem minIndent_getD_of_visibleLines_eq_empty {lines : List Text} (h : visibleLines lines = ∅) :
    (minIndent lines).getD 0 = 0 := by
  have hnone : minIndent lines = none := by
    rw [minIndent, List.min?_eq_none_iff, List.map_eq_nil_iff, List.filter_eq_nil_iff]
    intro line hmem
    simp [visibleLines_eq_empty_iff.mp h line hmem]
  rw [hnone, Option.getD_none]

end TranscriptLint.Text
