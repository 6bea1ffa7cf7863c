import TranscriptLint.Proofs.Indentation

namespace TranscriptLint.Text

/-! # Lines and separators

A text is cut into lines, its tabs are expanded line by line, and a Markdown document is put
together again before it is read. None of this moves a line.

* `not_mem_of_mem_splitOn`, `mem_of_mem_splitOn`, `head?_splitOn`: what the pieces of a text are.
* `intercalate_concat`, `intercalate_append_sep`: texts that are joined, as texts that are ended.
* `rel_intercalate`: what appending keeps, joining keeps.
* `getElem?_lines_joinWith`: a line of the joined lines has the number it had before, and has lost
  at most a carriage return.
* `RunEnds p lines start bound stop` says where a run of lines ends without saying how the end is
  found; `runEnds_takeWhile` and `runEnds_unique` tie it to `takeWhile`.
-/

/-! ## Splitting -/

/-- No piece holds the separator. -/
theorem not_mem_of_mem_splitOn {sep : Char} {t piece : Text} (h : piece ∈ splitOn sep t) :
    sep ∉ piece := by
  induction t generalizing piece with
  | nil =>
    rw [List.splitOn_nil, List.mem_singleton] at h
    simp [h]
  | cons c t ih =>
    rw [List.splitOn_cons_eq_if_modifyHead] at h
    split at h
    · rcases List.mem_cons.mp h with rfl | hrest
      · exact List.not_mem_nil
      · exact ih hrest
    · next hc =>
      obtain ⟨first, pieces, hsplit⟩ := List.exists_cons_of_ne_nil (List.splitOn_ne_nil sep t)
      rw [hsplit] at h ih
      rcases List.mem_cons.mp h with rfl | hrest
      · -- the first piece is the old one with `c` before it
        have hfirst : sep ∉ first := ih List.mem_cons_self
        simp only [List.mem_cons, not_or]
        exact ⟨fun heq => hc (beq_iff_eq.mpr heq.symm), hfirst⟩
      · exact ih (List.mem_cons_of_mem _ hrest)

/-- A character of a piece is a character of the text. -/
theorem mem_of_mem_splitOn {sep c : Char} {t piece : Text} (hpiece : piece ∈ splitOn sep t)
    (hc : c ∈ piece) : c ∈ t := by
  -- the pieces are every second one of the texts that joining puts together
  obtain ⟨i, hi⟩ := List.mem_iff_getElem?.mp hpiece
  have hmem : piece ∈ (splitOn sep t).intersperse [sep] :=
    List.mem_of_getElem? (List.getElem?_intersperse_two_mul.trans hi)
  have hjoin : [sep].intercalate (splitOn sep t) = t := List.intercalate_splitOn sep
  rw [← hjoin]
  exact List.mem_flatten.mpr ⟨piece, hmem, hc⟩

/-- The piece before a separator at the front is empty. -/
theorem splitOn_cons_self (sep : Char) (t : Text) :
    splitOn sep (sep :: t) = [] :: splitOn sep t :=
  List.splitOn_append_cons_self_of_not_mem List.not_mem_nil t

/-- The first piece begins with the first character of the text, unless that is the separator. -/
theorem exists_splitOn_cons {sep c : Char} (h : c ≠ sep) (t : Text) :
    ∃ piece pieces, splitOn sep (c :: t) = (c :: piece) :: pieces := by
  obtain ⟨piece, pieces, hsplit⟩ := List.exists_cons_of_ne_nil (List.splitOn_ne_nil sep t)
  refine ⟨piece, pieces, ?_⟩
  rw [List.splitOn_cons_eq_if_modifyHead, if_neg (by simpa using h), hsplit, List.modifyHead_cons]

/-- The first piece ends before the first separator. -/
theorem head?_splitOn (sep : Char) (t : Text) :
    (splitOn sep t).head? = some (t.takeWhile (· != sep)) := by
  induction t with
  | nil => rw [List.splitOn_nil, List.head?_cons, List.takeWhile_nil]
  | cons c t ih =>
    rw [List.splitOn_cons_eq_if_modifyHead]
    by_cases hc : c = sep
    · simp [hc]
    · simp [hc, ih]

/-! ## Joining -/

section Joining

variable {α : Type} (sep : List α) {ts : List (List α)}

/-- Behind every text but the last stands a separator. -/
theorem intercalate_concat (ts : List (List α)) (t : List α) :
    sep.intercalate (ts ++ [t]) = ts.flatMap (· ++ sep) ++ t := by
  induction ts with
  | nil => simp
  | cons u us ih =>
    cases us with
    | nil => simp
    | cons v vs =>
      rw [List.cons_append, List.cons_append, List.intercalate_cons_cons, ← List.cons_append, ih]
      simp

/-- With a separator at the end, one stands behind every text. -/
theorem intercalate_append_sep (h : ts ≠ []) :
    sep.intercalate ts ++ sep = ts.flatMap (· ++ sep) := by
  obtain ⟨us, u, rfl⟩ := List.eq_nil_or_concat' ts |>.resolve_left h
  rw [intercalate_concat, List.flatMap_append]
  simp

/-- A relation that appending keeps holds between what is joined, if it holds between the separators
and between the items. -/
theorem rel_intercalate {β ι : Type} {R : List α → List β → Prop} (hnil : R [] [])
    (happend : ∀ {a b c d}, R a b → R c d → R (a ++ c) (b ++ d)) {sep : List α} {sep' : List β}
    (hsep : R sep sep') {items : List ι} {f : ι → List α} {g : ι → List β}
    (h : ∀ i ∈ items, R (f i) (g i)) :
    R (sep.intercalate (items.map f)) (sep'.intercalate (items.map g)) := by
  induction items with
  | nil => simpa using hnil
  | cons i items ih =>
    rw [List.forall_mem_cons] at h
    cases items with
    | nil => simpa using h.1
    | cons j items =>
      simp only [List.map_cons, List.intercalate_cons_cons] at ih ⊢
      exact happend (happend h.1 hsep) (ih h.2)

end Joining

/-! ## Lines -/

theorem newline_not_mem_chompReturn {t : Text} (h : '\n' ∉ t) : '\n' ∉ chompReturn t := by
  unfold chompReturn
  split
  · exact fun hmem => h (List.dropLast_subset t hmem)
  · exact h

/-- A line holds no line feed. -/
theorem newline_not_mem_of_mem_lines {t line : Text} (h : line ∈ lines t) : '\n' ∉ line := by
  unfold lines at h
  rcases List.mem_append.mp h with hbody | hlast
  · obtain ⟨piece, hpiece, rfl⟩ := List.mem_map.mp hbody
    exact newline_not_mem_chompReturn (not_mem_of_mem_splitOn (List.dropLast_subset _ hpiece))
  · have hmem : line ∈ (splitOn '\n' t).getLast?.toList := (List.mem_filter.mp hlast).1
    exact not_mem_of_mem_splitOn (List.mem_of_getLast? (Option.mem_toList.mp hmem))

/-- Expanding tabs writes spaces, and the characters that are no tabs. -/
theorem mem_expandFrom {width column : Nat} {line : Text} {d : Char}
    (h : d ∈ expandFrom width column line) : d = ' ' ∨ d ∈ line ∧ d ≠ '\t' := by
  induction line generalizing column with
  | nil => simp [expandFrom] at h
  | cons c rest ih =>
    have hrest : ∀ {column}, d ∈ expandFrom width column rest →
        d = ' ' ∨ d ∈ c :: rest ∧ d ≠ '\t' :=
      fun hmem => (ih hmem).imp_right fun hkept => ⟨List.mem_cons_of_mem c hkept.1, hkept.2⟩
    unfold expandFrom at h
    split at h
    · rcases List.mem_append.mp h with hpad | hmem
      · exact .inl (List.eq_of_mem_replicate hpad)
      · exact hrest hmem
    · next htab =>
      split at h <;> rcases List.mem_cons.mp h with rfl | hmem
      · exact .inr ⟨List.mem_cons_self, htab⟩
      · exact hrest hmem
      · exact .inr ⟨List.mem_cons_self, htab⟩
      · exact hrest hmem

/-- Expanding tabs makes no new lines. -/
theorem newline_not_mem_of_mem_expanded {width : Nat} {t line : Text}
    (h : line ∈ (lines t).map (expandTabs width)) : '\n' ∉ line := by
  obtain ⟨raw, hraw, rfl⟩ := List.mem_map.mp h
  have hnone := newline_not_mem_of_mem_lines hraw
  unfold expandTabs
  split
  · intro hmem
    rcases mem_expandFrom hmem with hspace | hkept
    · exact absurd hspace (by decide)
    · exact hnone hkept.1
  · exact hnone

/-- The lines of joined lines are the lines that were joined, each under its old number. A carriage
return at the end of a line is lost, and so is a last line that is empty. -/
theorem getElem?_lines_joinWith {ts : List Text} (h : ∀ t ∈ ts, '\n' ∉ t) {n : Nat} {line : Text}
    (hline : (lines (joinWith "\n".toList ts))[n]? = some line) :
    ∃ source, ts[n]? = some source ∧ Shifted 0 source line := by
  by_cases hne : ts = []
  · subst hne
    simp [lines] at hline
  · have hsplit : splitOn '\n' (joinWith "\n".toList ts) = ts :=
      List.splitOn_intercalate '\n' h hne
    unfold lines at hline
    simp only [hsplit] at hline
    rcases Nat.lt_or_ge n (ts.dropLast.map chompReturn).length with hlt | hge
    · -- a line that a line feed ends
      rw [List.getElem?_append_left hlt, List.getElem?_map] at hline
      obtain ⟨source, hsource, rfl⟩ := Option.map_eq_some_iff.mp hline
      rw [List.getElem?_dropLast] at hsource
      split at hsource
      · exact ⟨source, hsource, Shifted.of_chompReturn source⟩
      · exact absurd hsource (by simp)
    · -- the line behind the last line feed
      rw [List.getElem?_append_right hge] at hline
      have hmem : line ∈ ts.getLast?.toList :=
        (List.mem_filter.mp (List.mem_of_getElem? hline)).1
      have hlast : ts.getLast? = some line := Option.mem_toList.mp hmem
      -- there is at most one, so its number is known
      have hzero : n - (ts.dropLast.map chompReturn).length = 0 := by
        have hbound := (List.getElem?_eq_some_iff.mp hline).1
        have hle : (ts.getLast?.toList.filter fun last => !last.isEmpty).length ≤ 1 :=
          Nat.le_trans (List.length_filter_le _ _) (Option.length_toList_le)
        omega
      rw [List.length_map, List.length_dropLast] at hzero hge
      have hn : n = ts.length - 1 := by omega
      refine ⟨line, ?_, Shifted.refl line⟩
      rw [hn, ← List.getLast?_eq_getElem?]
      exact hlast

theorem trim_chompReturn (t : Text) : trim (chompReturn t) = trim t := by
  obtain ⟨-, tail, htail, ht⟩ := Shifted.of_chompReturn t
  rw [List.drop_zero] at ht
  conv_rhs => rw [ht]
  rw [trim_append_of_isBlank _ htail]

/-- A line feed ends a line. -/
theorem lines_append_cons {line : Text} (h : '\n' ∉ line) (rest : Text) :
    lines (line ++ '\n' :: rest) = chompReturn line :: lines rest := by
  unfold lines
  rw [List.splitOn_append_cons_self_of_not_mem h]
  have hrest : splitOn '\n' rest ≠ [] := List.splitOn_ne_nil '\n' rest
  simp only [List.dropLast_cons_of_ne_nil hrest, List.map_cons,
    List.getLast?_cons_of_ne_nil hrest, List.cons_append]

/-- What follows the last line feed is a line unless it is empty. -/
theorem lines_of_not_mem {line : Text} (h : '\n' ∉ line) (hne : line ≠ []) :
    lines line = [line] := by
  simp [lines, List.splitOn_eq_singleton h, hne]

/-- Lines with a line feed behind each of them come back, without their carriage returns. -/
theorem lines_flatMap_append {before : List Text} (h : ∀ line ∈ before, '\n' ∉ line)
    (rest : Text) :
    lines (before.flatMap (· ++ ['\n']) ++ rest) = before.map chompReturn ++ lines rest := by
  induction before with
  | nil => rfl
  | cons line before ih =>
    rw [List.forall_mem_cons] at h
    rw [List.flatMap_cons, List.append_assoc, List.append_assoc, List.singleton_append,
      lines_append_cons h.1, ih h.2, List.map_cons, List.cons_append]

/-- The first line of a text, up to the whitespace around it. -/
theorem exists_lines_eq_cons {line rest : Text} (h : '\n' ∉ line) (hne : line ≠ [])
    (hrest : rest = [] ∨ ∃ more, rest = '\n' :: more) :
    ∃ first more, lines (line ++ rest) = first :: more ∧ first.trim = line.trim := by
  rcases hrest with rfl | ⟨more, rfl⟩
  · exact ⟨line, [], by rw [List.append_nil, lines_of_not_mem h hne], rfl⟩
  · exact ⟨chompReturn line, lines more, lines_append_cons h more, trim_chompReturn line⟩

/-! ## Ranges and runs of lines -/

/-- The lines from number `first` up to, but not including, number `last`. -/
def linesBetween (lines : List Text) (first last : Nat) : List Text :=
  (lines.drop first).take (last - first)

theorem getElem?_linesBetween {lines : List Text} {first last k : Nat} (h : first + k < last) :
    (linesBetween lines first last)[k]? = lines[first + k]? := by
  rw [linesBetween, List.getElem?_take_of_lt (by omega), List.getElem?_drop]

theorem length_linesBetween {lines : List Text} {first last : Nat} (h : last ≤ lines.length) :
    (linesBetween lines first last).length = last - first := by
  rw [linesBetween, List.length_take, List.length_drop]
  omega

theorem drop_linesBetween (lines : List Text) (first last k : Nat) :
    (linesBetween lines first last).drop k = linesBetween lines (first + k) last := by
  rw [linesBetween, linesBetween, List.drop_take, List.drop_drop, Nat.sub_sub]

theorem take_linesBetween {lines : List Text} {first last k : Nat} (h : first + k ≤ last) :
    (linesBetween lines first last).take k = linesBetween lines first (first + k) := by
  rw [linesBetween, linesBetween, List.take_take, Nat.min_eq_left (by omega),
    Nat.add_sub_cancel_left]

/-- From line `start` on the lines have the property `p`, up to line `stop`, which does not have it.
Lines from number `bound` on are not looked at. -/
structure RunEnds (p : Text → Bool) (lines : List Text) (start bound stop : Nat) : Prop where
  start_le : start ≤ stop
  stop_le : stop ≤ bound
  inside : ∀ n line, start ≤ n → n < stop → lines[n]? = some line → p line = true
  outside : ∀ line, stop < bound → lines[stop]? = some line → p line = false

/-- A run ends in one place only. -/
theorem runEnds_unique {p : Text → Bool} {lines : List Text} {start bound s s' : Nat}
    (hbound : bound ≤ lines.length) (h : RunEnds p lines start bound s)
    (h' : RunEnds p lines start bound s') : s = s' := by
  -- the earlier end would be a line inside the longer run
  have hle : ∀ {a b : Nat}, RunEnds p lines start bound a → RunEnds p lines start bound b →
      ¬ a < b := by
    intro a b ha hb hlt
    have hlt' : a < lines.length := by
      have := hb.stop_le
      omega
    have hline : lines[a]? = some lines[a] := List.getElem?_eq_getElem hlt'
    have hyes := hb.inside a _ ha.start_le hlt hline
    have hno := ha.outside _ (by have := hb.stop_le; omega) hline
    rw [hyes] at hno
    exact absurd hno (by decide)
  have h1 := hle h h'
  have h2 := hle h' h
  omega

theorem of_getElem?_lt_takeWhile {α : Type} {p : α → Bool} {l : List α} {k : Nat} {a : α}
    (hk : k < (l.takeWhile p).length) (h : l[k]? = some a) : p a = true := by
  have hget : (l.takeWhile p)[k]? = some a := by
    rw [← List.takeWhile_append_dropWhile (p := p) (l := l), List.getElem?_append_left hk] at h
    exact h
  exact List.mem_takeWhile_imp (List.mem_of_getElem? hget)

theorem of_getElem?_length_takeWhile {α : Type} {p : α → Bool} {l : List α} {a : α}
    (h : l[(l.takeWhile p).length]? = some a) : p a = false := by
  induction l with
  | nil => simp at h
  | cons b l ih =>
    cases hb : p b with
    | true =>
      rw [List.takeWhile_cons_of_pos hb, List.length_cons, List.getElem?_cons_succ] at h
      exact ih h
    | false =>
      rw [List.takeWhile_cons_of_neg (by simp [hb]), List.length_nil, List.getElem?_cons_zero] at h
      rw [← Option.some.inj h]
      exact hb

/-- The lines that `takeWhile` takes are a run. -/
theorem runEnds_takeWhile (p : Text → Bool) {lines : List Text} {start bound : Nat}
    (hstart : start ≤ bound) (hbound : bound ≤ lines.length) :
    RunEnds p lines start bound
      (start + ((linesBetween lines start bound).takeWhile p).length) := by
  have hlen : (linesBetween lines start bound).length = bound - start := length_linesBetween hbound
  have hle := (List.takeWhile_prefix p (l := linesBetween lines start bound)).length_le
  refine ⟨by omega, by omega, ?_, ?_⟩
  · intro n line hn hlt hline
    obtain ⟨k, rfl⟩ := Nat.exists_eq_add_of_le hn
    apply of_getElem?_lt_takeWhile (k := k) (l := linesBetween lines start bound) (by omega)
    rw [getElem?_linesBetween (by omega)]
    exact hline
  · intro line hlt hline
    apply of_getElem?_length_takeWhile (l := linesBetween lines start bound)
    rw [getElem?_linesBetween hlt]
    exact hline

/-- What `dropWhile` leaves are the lines from the end of the run on. -/
theorem dropWhile_linesBetween (p : Text → Bool) (lines : List Text) (start bound : Nat) :
    (linesBetween lines start bound).dropWhile p =
      linesBetween lines (start + ((linesBetween lines start bound).takeWhile p).length) bound := by
  rw [dropWhile_eq_drop, drop_linesBetween]

end TranscriptLint.Text
