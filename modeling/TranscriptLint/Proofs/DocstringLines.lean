import TranscriptLint.Proofs.DocstringExtent

namespace TranscriptLint.Docstring

open Text

/-! # What becomes of the lines of a docstring

A docstring occupies a range of lines of its file. What each of them contributes is cleaned, empty
lines are dropped at both ends, and the line numbers are kept beside the text. `Accounts` says what
has become of every line of the range.

* `getElem?_cleanedLines`: every line is cleaned on its own.
* `exists_split_cleanedLines`: the lines that are kept are a range of the cleaned lines. What
  follows for a single line is `getElem?_cleanedLines_of_kept` or `eq_nil_of_dropped`.
* `read_accounts_for_lines` puts these together.
-/

/-- What cleaning leaves of a line. The opening line loses the whitespace behind the quote; another
line loses the margin and its trailing whitespace, and everything if it is blank. -/
def cleanedText (start margin n : Nat) (t : Text) : Text :=
  if n = start then t.trimStart else if t.isBlank then [] else trimEnd (t.drop margin)

/-- The texts on which the margin is measured: those of the lines below the opening one that are not
blank. -/
def marginTexts (lines : List Text) (quote : Text) (start stop : Nat) : Set Text :=
  {t | t.isBlank = false ∧ ∃ n, start < n ∧ n ≤ stop ∧ Contributes lines quote start n t}

/-- The docstring accounts for all lines from `start` to `stop`. -/
structure Accounts (lines : List Text) (quote : Text) (start stop : Nat) (doc : Docstring) :
    Prop where
  length_eq : doc.sourceLines.length = doc.lines.length
  consecutive : ∃ first, doc.sourceLines = List.range' first doc.lines.length
  bounds : ∀ n ∈ doc.sourceLines, doc.defLine < n ∧ start ≤ n ∧ n ≤ stop
  first_ne_nil : ∀ line, doc.lines.head? = some line → line ≠ []
  last_ne_nil : ∀ line, doc.lines.getLast? = some line → line ≠ []
  kept : ∀ i n : Nat, doc.sourceLines[i]? = some n → ∃ t, Contributes lines quote start n t ∧
    doc.lines[i]? = some (cleanedText start doc.margin n t)
  dropped : ∀ n, start ≤ n → n ≤ stop → n ∉ doc.sourceLines →
    ∃ t, Contributes lines quote start n t ∧ cleanedText start doc.margin n t = []
  margin_greatest : (marginTexts lines quote start stop).Nonempty →
    IsGreatest {m | ∀ t ∈ marginTexts lines quote start stop, isBlank (t.take m) = true} doc.margin
  margin_zero : marginTexts lines quote start stop = ∅ → doc.margin = 0

/-! ## Cleaning -/

/-- Every line is cleaned on its own. -/
theorem getElem?_cleanedLines (start m : Nat) (raw : List Text) :
    (cleanedLines raw)[m]? =
      raw[m]?.map (cleanedText start ((minIndent raw.tail).getD 0) (start + m)) := by
  cases raw with
  | nil => rfl
  | cons opening rest =>
    cases m with
    | zero => simp [cleanedLines, cleanedText]
    | succ m =>
      have hrest : (cleanedLines (opening :: rest))[m + 1]? =
          rest[m]?.map (cleanLine ((minIndent rest).getD 0)) := List.getElem?_map
      rw [hrest, List.getElem?_cons_succ, List.tail_cons]
      cases hline : rest[m]? with
      | none => rfl
      | some line =>
        have hmargin := isBlank_take_minIndent (List.mem_of_getElem? hline)
        have hbelow : start + (m + 1) ≠ start := by omega
        rw [Option.map_some, Option.map_some, cleanLine, stripIndent_eq_drop hmargin, cleanedText,
          if_neg hbelow]

/-- Cleaning drops empty lines in front and behind, and what is left begins and ends with a line
that is not empty. -/
theorem exists_split_cleanedLines (defLine start : Nat) (raw : List Text) :
    ∃ front back, cleanedLines raw = front ++ ((clean defLine start raw).lines ++ back) ∧
      (∀ line ∈ front, line = []) ∧ (∀ line ∈ back, line = []) ∧
      (clean defLine start raw).sourceLines =
        List.range' (start + front.length) (clean defLine start raw).lines.length ∧
      (∀ line, (clean defLine start raw).lines.head? = some line → line ≠ []) ∧
      ∀ line, (clean defLine start raw).lines.getLast? = some line → line ≠ [] := by
  rw [clean_eq, droppedLines, ← dropWhile_eq_drop]
  obtain ⟨back, hback, hsplit⟩ :=
    dropEnd_append List.isEmpty ((cleanedLines raw).dropWhile List.isEmpty)
  refine ⟨(cleanedLines raw).takeWhile List.isEmpty, back, ?_, ?_, ?_, rfl, ?_, ?_⟩
  · rw [← hsplit, List.takeWhile_append_dropWhile]
  · intro line hline
    exact List.isEmpty_iff.mp (List.mem_takeWhile_imp hline)
  · intro line hline
    exact List.isEmpty_iff.mp (hback line hline)
  · rintro line hline rfl
    have hnot := List.head?_dropWhile_not List.isEmpty (cleanedLines raw)
    rw [hsplit, List.head?_append, hline] at hnot
    exact absurd hnot (by simp)
  · rintro line hline rfl
    exact absurd (of_getLast?_dropEnd hline) (by decide)

/-- The middle part of a list, read off the whole. -/
theorem getElem?_append_middle {α : Type} {front middle back : List α} {i : Nat}
    (hi : i < middle.length) :
    (front ++ (middle ++ back))[front.length + i]? = middle[i]? := by
  rw [List.getElem?_append_right (Nat.le_add_right _ _), Nat.add_sub_cancel_left,
    List.getElem?_append_left hi]

/-- What is not in the middle part of a list is in front of it or behind it. -/
theorem mem_of_getElem?_append_sides {α : Type} {front middle back : List α} {m : Nat} {a : α}
    (h : (front ++ (middle ++ back))[m]? = some a)
    (hm : m < front.length ∨ front.length + middle.length ≤ m) : a ∈ front ∨ a ∈ back := by
  rcases hm with hlt | hge
  · rw [List.getElem?_append_left hlt] at h
    exact .inl (List.mem_of_getElem? h)
  · rw [List.getElem?_append_right (by omega), List.getElem?_append_right (by omega)] at h
    exact .inr (List.mem_of_getElem? h)

/-- A line that cleaning keeps is one of the cleaned lines, and it is numbered by its place. -/
theorem getElem?_cleanedLines_of_kept {defLine start i n : Nat} {raw : List Text}
    (h : (clean defLine start raw).sourceLines[i]? = some n) :
    ∃ m line, n = start + m ∧ (cleanedLines raw)[m]? = some line ∧
      (clean defLine start raw).lines[i]? = some line := by
  obtain ⟨front, back, hsplit, -, -, hsource, -, -⟩ := exists_split_cleanedLines defLine start raw
  have hi : i < (clean defLine start raw).lines.length := by
    have hlt := (List.getElem?_eq_some_iff.mp h).1
    rw [hsource, List.length_range'] at hlt
    exact hlt
  rw [hsource, List.getElem?_range' hi, Nat.one_mul, Nat.add_assoc] at h
  refine ⟨front.length + i, _, (Option.some.inj h).symm, ?_, List.getElem?_eq_getElem hi⟩
  rw [hsplit, getElem?_append_middle hi, List.getElem?_eq_getElem hi]

/-- A line that cleaning drops is empty once it is cleaned. -/
theorem eq_nil_of_dropped {defLine start m : Nat} {raw : List Text} {line : Text}
    (hget : (cleanedLines raw)[m]? = some line)
    (hnot : start + m ∉ (clean defLine start raw).sourceLines) : line = [] := by
  obtain ⟨front, back, hsplit, hfront, hback, hsource, -, -⟩ :=
    exists_split_cleanedLines defLine start raw
  rw [hsource, List.mem_range'_1] at hnot
  rw [hsplit] at hget
  rcases mem_of_getElem?_append_sides hget (by omega) with hmem | hmem
  · exact hfront line hmem
  · exact hback line hmem

/-! ## Accounting -/

/-- The texts on which the margin is measured, in the list from which it is read. -/
theorem visibleLines_tail_eq {lines raw : List Text} {quote : Text} {start stop : Nat}
    (hraw : ∀ m t, raw[m]? = some t ↔
      start + m ≤ stop ∧ Contributes lines quote start (start + m) t) :
    visibleLines raw.tail = marginTexts lines quote start stop := by
  ext t
  constructor
  · rintro ⟨hmem, hvisible⟩
    obtain ⟨m, hm⟩ := List.getElem?_of_mem hmem
    rw [List.getElem?_tail] at hm
    obtain ⟨hle, hline⟩ := (hraw _ _).mp hm
    exact ⟨hvisible, _, by omega, hle, hline⟩
  · rintro ⟨hvisible, n, hlt, hle, hline⟩
    obtain ⟨m, rfl⟩ := Nat.exists_eq_add_of_lt hlt
    have hget : raw.tail[m]? = some t := by
      rw [List.getElem?_tail]
      exact (hraw (m + 1) t).mpr ⟨hle, hline⟩
    exact ⟨List.mem_of_getElem? hget, hvisible⟩

/-- Every raw line is cleaned, and what it contributes is the text that is cleaned. -/
theorem exists_contributes_of_cleanedLines {lines raw : List Text} {quote line : Text}
    {start stop m : Nat} (hraw : ∀ m t, raw[m]? = some t ↔
      start + m ≤ stop ∧ Contributes lines quote start (start + m) t)
    (h : (cleanedLines raw)[m]? = some line) :
    ∃ t, Contributes lines quote start (start + m) t ∧
      line = cleanedText start ((minIndent raw.tail).getD 0) (start + m) t := by
  rw [getElem?_cleanedLines start] at h
  obtain ⟨t, hget, rfl⟩ := Option.map_eq_some_iff.mp h
  exact ⟨t, ((hraw m t).mp hget).2, rfl⟩

/-- **Lines of a docstring.** A docstring that was read occupies a range of lines of its file, and
it accounts for all of them: its own lines stand on consecutive lines of that range below the
definition, each is what its line contributes after cleaning, the lines of the range that are not
among them are empty after cleaning, and the margin is as wide as it can be. -/
theorem read_accounts_for_lines {lines : List Text} {defLine : Nat} {doc : Docstring}
    (h : read lines defLine = some doc) :
    ∃ quote start stop, Occupies lines defLine quote start stop ∧ doc.defLine = defLine ∧
      Accounts lines quote start stop doc := by
  obtain ⟨quote, start, stop, raw, hoccupies, rfl, hlen, hraw⟩ := exists_occupies_of_read h
  obtain ⟨front, -, -, -, -, hsource, hfirst, hlast⟩ := exists_split_cleanedLines defLine start raw
  have hmargin : (clean defLine start raw).margin = (minIndent raw.tail).getD 0 := rfl
  refine ⟨quote, start, stop, hoccupies, rfl, ?_⟩
  constructor
  case length_eq => rw [hsource, List.length_range']
  case consecutive => exact ⟨_, hsource⟩
  case bounds =>
    intro n hn
    obtain ⟨i, hi⟩ := List.getElem?_of_mem hn
    obtain ⟨m, line, rfl, hget, -⟩ := getElem?_cleanedLines_of_kept hi
    have hm := (List.getElem?_eq_some_iff.mp hget).1
    rw [length_cleanedLines] at hm
    have hdefLine : (clean defLine start raw).defLine < start := hoccupies.defLine_lt
    omega
  case first_ne_nil => exact hfirst
  case last_ne_nil => exact hlast
  case kept =>
    intro i n hn
    obtain ⟨m, line, rfl, hget, hline⟩ := getElem?_cleanedLines_of_kept hn
    obtain ⟨t, hcontributes, rfl⟩ := exists_contributes_of_cleanedLines hraw hget
    exact ⟨t, hcontributes, hline⟩
  case dropped =>
    intro n hstart hstop hnot
    obtain ⟨m, rfl⟩ := Nat.exists_eq_add_of_le hstart
    -- there are as many cleaned lines as lines from `start` to `stop`
    have hm : m < (cleanedLines raw).length := by
      rw [length_cleanedLines]
      omega
    have hget := List.getElem?_eq_getElem hm
    obtain ⟨t, hcontributes, hcleaned⟩ := exists_contributes_of_cleanedLines hraw hget
    refine ⟨t, hcontributes, ?_⟩
    rw [hmargin, ← hcleaned]
    exact eq_nil_of_dropped hget hnot
  case margin_greatest =>
    intro hvisible
    rw [← visibleLines_tail_eq hraw] at hvisible ⊢
    exact isGreatest_minIndent hvisible
  case margin_zero =>
    intro hempty
    rw [← visibleLines_tail_eq hraw] at hempty
    exact minIndent_getD_of_visibleLines_eq_empty hempty

/-- Blank lines at both ends, a line that closes the docstring with text in front of the quote, and
one that is indented deeper than the margin. -/
theorem read_accounts_for_lines_closing :
    let lines := ["def f():".toList, "  '''  ".toList, "   ".toList, "    Doc. ".toList, [],
      "      $ ls'''".toList]
    let doc : Docstring := ⟨["Doc.".toList, [], "  $ ls".toList], [3, 4, 5], 4, 0⟩
    read lines 0 = some doc ∧ ∃ quote start stop, Occupies lines 0 quote start stop ∧
      doc.defLine = 0 ∧ Accounts lines quote start stop doc := by
  intro lines doc
  have hread : read lines 0 = some doc := by decide +kernel
  exact ⟨hread, read_accounts_for_lines hread⟩

end TranscriptLint.Docstring
