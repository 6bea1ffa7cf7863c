import Mathlib.Data.List.DropRight
import Mathlib.Data.Nat.ModEq
import TranscriptLint.Proofs.Lines

namespace TranscriptLint.Text

/-! # Tab stops

A tab reaches from where the output stands to the next tab stop of its row. Where that is depends
on everything written before, on earlier tabs and on carriage returns inside the line.

* `Expands w written rest out` says what expansion is without counting columns along the way: it
  looks at the text that was written so far.
* `expandFrom_cons` is one step of the loop, and `expandFrom_append` a run of it: the column is
  always the width of the last row of the output.
* `expandTabs_reaches_stops` says that the loop makes exactly this expansion, and what follows.
-/

/-! ## Rows -/

/-- The number of characters behind the last carriage return or line feed. -/
def rowWidth (t : Text) : Nat := (t.rtakeWhile fun c => c ≠ '\n' ∧ c ≠ '\r').length

/-- `p` spaces behind the text written so far reach a tab stop, and no more spaces than the tab
width are needed. -/
structure ReachesStop (w : Nat) (written : Text) (p : Nat) : Prop where
  pos : 1 ≤ p
  le_width : p ≤ w
  stop : w ∣ rowWidth (written ++ List.replicate p ' ')

/-- With `written` written so far, the characters `rest` make the output `out`: each tab becomes
spaces up to a tab stop, and every other character stays. -/
inductive Expands (w : Nat) : Text → Text → Text → Prop where
  | done {written : Text} : Expands w written [] written
  | keep {written rest out : Text} {c : Char} :
      c ≠ '\t' → Expands w (written ++ [c]) rest out → Expands w written (c :: rest) out
  | tab {written rest out : Text} {p : Nat} :
      ReachesStop w written p → Expands w (written ++ List.replicate p ' ') rest out →
      Expands w written ('\t' :: rest) out

theorem rowWidth_concat (t : Text) (c : Char) :
    rowWidth (t ++ [c]) = if c = '\n' ∨ c = '\r' then 0 else rowWidth t + 1 := by
  rw [rowWidth, List.rtakeWhile_concat]
  by_cases hc : c = '\n' ∨ c = '\r'
  · rcases hc with rfl | rfl <;> rfl
  · rw [not_or] at hc
    simp [hc, rowWidth]

/-- Spaces stay in the row. -/
theorem rowWidth_append_spaces (t : Text) (n : Nat) :
    rowWidth (t ++ List.replicate n ' ') = rowWidth t + n := by
  induction n with
  | zero => simp
  | succ n ih =>
    rw [List.replicate_succ', ← List.append_assoc, rowWidth_concat, if_neg (by decide), ih,
      Nat.add_assoc]

/-- From every column there is one way to reach the next tab stop. -/
theorem reachesStop_iff {w p : Nat} {written : Text} (hw : 0 < w) :
    ReachesStop w written p ↔ p = w - rowWidth written % w := by
  have hmod : rowWidth written % w < w := Nat.mod_lt _ hw
  have hdvd : w ∣ rowWidth written + p ↔ w ∣ rowWidth written % w + p := by
    rw [Nat.dvd_iff_mod_eq_zero, Nat.dvd_iff_mod_eq_zero, Nat.mod_add_mod]
  constructor
  · rintro ⟨hpos, hle, hstop⟩
    rw [rowWidth_append_spaces, hdvd] at hstop
    -- the spaces and what stands behind the last stop make less than two widths
    have hsum : rowWidth written % w + p = w :=
      Nat.eq_of_dvd_of_lt_two_mul (by omega) hstop (by omega)
    omega
  · rintro rfl
    refine ⟨by omega, Nat.sub_le _ _, ?_⟩
    rw [rowWidth_append_spaces, hdvd, Nat.add_sub_of_le (Nat.le_of_lt hmod)]

/-! ## The loop -/

/-- What the loop writes for one character at a column. -/
def expandChar (w column : Nat) (c : Char) : Text :=
  if c = '\t' then List.replicate (w - column % w) ' ' else [c]

/-- One step of the loop. If the column was the width of the last row before the step, it is so
again behind it. -/
theorem expandFrom_cons (w : Nat) (written : Text) (c : Char) (rest : Text) :
    expandFrom w (rowWidth written) (c :: rest) = expandChar w (rowWidth written) c ++
      expandFrom w (rowWidth (written ++ expandChar w (rowWidth written) c)) rest := by
  rw [expandFrom, expandChar]
  by_cases htab : c = '\t'
  · simp only [if_pos htab, rowWidth_append_spaces]
  · simp only [if_neg htab, rowWidth_concat]
    split <;> rfl

/-- The loop runs through a first part, and goes on in the column where the output of that part
ends. -/
theorem expandFrom_append (w : Nat) (written a b : Text) :
    expandFrom w (rowWidth written) (a ++ b) = expandFrom w (rowWidth written) a ++
      expandFrom w (rowWidth (written ++ expandFrom w (rowWidth written) a)) b := by
  -- what was written grows by one character's piece a step, so it is not fixed in the induction
  induction a generalizing written with
  | nil => simp [expandFrom]
  | cons c a ih =>
    rw [List.cons_append, expandFrom_cons, ih, expandFrom_cons w written c a, List.append_assoc,
      List.append_assoc]

/-- The loop makes the expansion. -/
theorem expands_expandFrom {w : Nat} (hw : 0 < w) (written t : Text) :
    Expands w written t (written ++ expandFrom w (rowWidth written) t) := by
  induction t generalizing written with
  | nil =>
    rw [expandFrom, List.append_nil]
    exact .done
  | cons c rest ih =>
    have hrest := ih (written ++ expandChar w (rowWidth written) c)
    rw [expandFrom_cons, ← List.append_assoc]
    by_cases htab : c = '\t'
    · -- the loop's number of spaces is the one that reaches a stop
      subst htab
      exact .tab ((reachesStop_iff hw).mpr rfl) hrest
    · rw [expandChar, if_neg htab] at hrest ⊢
      exact .keep htab hrest

/-- There is no other expansion. -/
theorem Expands.eq {w : Nat} (hw : 0 < w) {written t out : Text} (h : Expands w written t out) :
    out = written ++ expandFrom w (rowWidth written) t := by
  induction h with
  | done => rw [expandFrom, List.append_nil]
  | keep htab _ ih =>
    rw [ih, expandFrom_cons, expandChar, if_neg htab, List.append_assoc]
  | tab hstop _ ih =>
    rw [ih, expandFrom_cons, expandChar, if_pos rfl, ← (reachesStop_iff hw).mp hstop,
      List.append_assoc]

theorem tab_not_mem_expandFrom (w column : Nat) (t : Text) : '\t' ∉ expandFrom w column t := by
  intro h
  rcases mem_expandFrom h with hspace | hkept
  · exact absurd hspace (by decide)
  · exact hkept.2 rfl

theorem expandFrom_of_not_mem {w column : Nat} {t : Text} (h : '\t' ∉ t) :
    expandFrom w column t = t := by
  induction t generalizing column with
  | nil => rfl
  | cons c rest ih =>
    rw [List.mem_cons, not_or] at h
    rw [expandFrom, if_neg (fun heq => h.1 heq.symm), ih h.2, ih h.2, ite_self]

/-- The loop looks at a column only to find the next tab stop. -/
theorem expandFrom_congr {w : Nat} (t : Text) {column column' : Nat}
    (h : column % w = column' % w) : expandFrom w column t = expandFrom w column' t := by
  induction t generalizing column column' with
  | nil => rfl
  | cons c rest ih =>
    -- both columns lack the same number of spaces, and stay as far apart as they are
    have hpad : expandFrom w (column + (w - column % w)) rest =
        expandFrom w (column' + (w - column % w)) rest := ih (Nat.ModEq.add_right _ h)
    have hnext : expandFrom w (column + 1) rest = expandFrom w (column' + 1) rest :=
      ih (Nat.ModEq.add_right 1 h)
    simp only [expandFrom, ← h, hpad, hnext]

/-! ## Lines -/

theorem expandTabs_of_not_mem (width : Nat) {t : Text} (h : '\t' ∉ t) : expandTabs width t = t :=
  if_neg h

/-- Returning at once when there is no tab saves the loop, and changes nothing. -/
theorem expandTabs_eq_expandFrom (width : Nat) (t : Text) :
    expandTabs width t = expandFrom (max width 1) (rowWidth []) t := by
  by_cases htab : '\t' ∈ t
  · exact if_pos htab
  · rw [expandTabs_of_not_mem width htab, expandFrom_of_not_mem htab]

/-- **Tab stops.** Expanding tabs makes the one expansion that there is: each tab becomes the one
number of spaces, at least one and at most the tab width, that reaches a tab stop of its row, and
all other characters stay in their order. So no tab is left, another expansion changes nothing, a
text can be cut where its first part ends at a tab stop, and returning a text without tabs at once
agrees with the loop. A tab width of zero counts as one. -/
theorem expandTabs_reaches_stops (width : Nat) (t : Text) :
    (∀ out, Expands (max width 1) [] t out ↔ out = expandTabs width t) ∧
      (∀ written, ∃! p, ReachesStop (max width 1) written p) ∧
      '\t' ∉ expandTabs width t ∧
      (∀ again, expandTabs again (expandTabs width t) = expandTabs width t) ∧
      (∀ rest, max width 1 ∣ rowWidth (expandTabs width t) →
        expandTabs width (t ++ rest) = expandTabs width t ++ expandTabs width rest) ∧
      expandTabs width t = expandFrom (max width 1) 0 t := by
  have hw : 0 < max width 1 := Nat.lt_of_lt_of_le Nat.one_pos (Nat.le_max_right width 1)
  have hloop := expandTabs_eq_expandFrom width
  have hnone : '\t' ∉ expandTabs width t := by
    rw [hloop]
    exact tab_not_mem_expandFrom _ _ t
  refine ⟨?_, ?_, hnone, fun again => expandTabs_of_not_mem again hnone, ?_, hloop t⟩
  · intro out
    rw [hloop]
    constructor
    · exact Expands.eq hw
    · rintro rfl
      exact expands_expandFrom hw [] t
  · intro written
    exact ⟨_, (reachesStop_iff hw).mpr rfl, fun p hp => (reachesStop_iff hw).mp hp⟩
  · intro rest hstop
    -- the column behind the first part stands for column zero
    have hcolumn : rowWidth (expandTabs width t) % max width 1 = rowWidth [] % max width 1 := by
      rw [Nat.mod_eq_zero_of_dvd hstop]
      exact (Nat.zero_mod _).symm
    rw [hloop (t ++ rest), expandFrom_append, ← hloop t, List.nil_append,
      expandFrom_congr rest hcolumn, ← hloop rest]

/-- A carriage return inside the line starts a new row, and the cut stands behind a tab. -/
theorem expandTabs_reaches_stops_two_rows :
    let t := "abcde\tx\r\u3000\t".toList
    expandTabs 4 t = "abcde   x\r\u3000   ".toList ∧ max 4 1 ∣ rowWidth (expandTabs 4 t) ∧
      expandTabs 4 (t ++ "y\tz".toList) = "abcde   x\r\u3000   y   z".toList := by
  intro t
  have hout : expandTabs 4 t = "abcde   x\r\u3000   ".toList := by decide +kernel
  have hstop : max 4 1 ∣ rowWidth (expandTabs 4 t) := by
    rw [hout]
    decide +kernel
  obtain ⟨-, -, -, -, hcut, -⟩ := expandTabs_reaches_stops 4 t
  refine ⟨hout, hstop, ?_⟩
  rw [hcut "y\tz".toList hstop, hout]
  decide +kernel

end TranscriptLint.Text
