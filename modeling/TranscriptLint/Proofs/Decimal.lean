import TranscriptLint.Text.Basic

namespace TranscriptLint.Text

/-! # Numbers in decimal

A number is written as digits without leading zeros, and reading the digits gives the number back.

* `takeWhile_isDigit_ofNat_append`: a number ends where the digits end.
* `toNat?_ofNat`: reading is inverse to writing.
* `head?_ofNat_ne_zero`: only zero itself starts with a zero.
-/

theorem ofNat_ne_nil (n : Nat) : ofNat n ≠ [] := Nat.toDigits_ne_nil

theorem isDigit_of_mem_ofNat {n : Nat} {c : Char} (h : c ∈ ofNat n) : c.isDigit = true :=
  Nat.isDigit_of_mem_toDigits (by decide) (by decide) h

/-- A character that is no digit does not stand in a number. -/
theorem not_mem_ofNat {c : Char} (h : c.isDigit = false) (n : Nat) : c ∉ ofNat n := by
  intro hmem
  rw [isDigit_of_mem_ofNat hmem] at h
  exact absurd h (by decide)

theorem isWhite_eq_false_of_isDigit {c : Char} (h : c.isDigit = true) : isWhite c = false := by
  simp only [Char.isDigit, Bool.and_eq_true, decide_eq_true_eq] at h
  have hlow : 48 ≤ c.toNat := h.1
  have hhigh : c.toNat ≤ 57 := h.2
  simp [isWhite, whiteRanges]
  omega

/-- A number ends where the digits end. -/
theorem takeWhile_isDigit_ofNat_append (n : Nat) {rest : Text}
    (h : ∀ c ∈ rest.head?, c.isDigit = false) :
    (ofNat n ++ rest).takeWhile Char.isDigit = ofNat n := by
  have hend : rest.takeWhile Char.isDigit = [] := by
    cases rest with
    | nil => rfl
    | cons c rest => simp [h c rfl]
  rw [List.takeWhile_append_of_pos (fun c hc => isDigit_of_mem_ofNat hc), hend, List.append_nil]

theorem decimalValue_ofNat (n : Nat) : decimalValue (ofNat n) = n := by
  rw [decimalValue, ← Nat.ofDigitChars_eq_foldl]
  exact Nat.ofDigitChars_ten_toDigits

/-- Reading a number is inverse to writing it. -/
theorem toNat?_ofNat (n : Nat) : toNat? (ofNat n) = some n := by
  have hdigits : (ofNat n).all Char.isDigit = true :=
    List.all_eq_true.mpr fun c hc => isDigit_of_mem_ofNat hc
  simp [toNat?, ofNat_ne_nil, hdigits, decimalValue_ofNat]

/-- Only zero starts with a zero. -/
theorem head?_ofNat_ne_zero {n : Nat} (h : 0 < n) : (ofNat n).head? ≠ some '0' := by
  induction n using Nat.strongRecOn with
  | ind n ih =>
    rw [ofNat, Nat.toDigits_eq_if (by decide)]
    split
    · -- a single digit
      simp only [List.head?_cons, ne_eq, Option.some.injEq, Nat.digitChar_eq_zero]
      omega
    · -- the first digit is that of the number without its last digit
      obtain ⟨c, rest, hdigits⟩ := List.exists_cons_of_ne_nil (ofNat_ne_nil (n / 10))
      have hfirst := ih (n / 10) (by omega) (by omega)
      rw [hdigits] at hfirst
      rw [ofNat] at hdigits
      rw [hdigits]
      exact hfirst

end TranscriptLint.Text
