import TranscriptLint.Docstring
import TranscriptLint.Proofs.Lines

namespace TranscriptLint.Docstring

open Text

/-! # Where a docstring stands

A docstring that was read is tied to the lines of its file again: `Occupies` says where it opens and
closes, `Spans` says the same of one that takes up more than one line, and `exists_spans_of_read`
says which file line each docstring line comes from.

* `untilQuote_eq_some`: the raw lines are the file's lines up to the closing quote.
* `exists_occupies_of_read`: a docstring is cleaned from what the lines it occupies contribute.
* `clean_lines_shifted`: cleaning drops lines at both ends only, and shifts all others by the
  margin.
-/

/-- A line up to the first occurrence of the quote; all of it if there is none. -/
def beforeQuote (quote line : Text) : Text := line.take ((find? quote line).getD line.length)

/-- The docstring of the definition on line `defLine` opens with `quote` on line `start`, the first
line behind the head of the definition that is not blank, and is closed by the next occurrence of
the quote, on line `stop` below. -/
structure Spans (lines : List Text) (defLine : Nat) (quote : Text) (start stop : Nat) : Prop where
  head : ∃ last, RunEnds (fun line => !endsHead line) lines defLine lines.length last ∧
    RunEnds isBlank lines (last + 1) lines.length start
  opens : ∃ line text, lines[start]? = some line ∧
    opening? line.trimStart = some (quote, text) ∧ find? quote text = none
  below : start < stop
  inside : ∀ n line, start < n → n < stop → lines[n]? = some line → find? quote line = none
  closes : ∃ line, lines[stop]? = some line ∧ (find? quote line).isSome = true

/-- What stands on line `n` of a string that `quote` opens on line `start`: all of the line, and on
the opening line what follows the quote. -/
inductive StringLine (lines : List Text) (quote : Text) (start : Nat) : Nat → Text → Prop where
  | opening {line text : Text} :
      lines[start]? = some line → opening? line.trimStart = some (quote, text) →
      StringLine lines quote start start text
  | below {n : Nat} {line : Text} :
      start < n → lines[n]? = some line → StringLine lines quote start n line

/-- The docstring of the definition on line `defLine` goes from line `start` to line `stop`: the
first line that is not blank behind the head of the definition opens it, and the next occurrence of
the quote closes it. -/
structure Occupies (lines : List Text) (defLine : Nat) (quote : Text) (start stop : Nat) :
    Prop where
  head : ∃ last, RunEnds (fun line => !endsHead line) lines defLine lines.length last ∧
    RunEnds isBlank lines (last + 1) lines.length start
  opens : ∃ text, StringLine lines quote start start text
  start_le : start ≤ stop
  inside : ∀ n text, n < stop → StringLine lines quote start n text → find? quote text = none
  closes : ∃ text, StringLine lines quote start stop text ∧ (find? quote text).isSome = true

/-- Line `n` contributes the text `t` to the docstring: what stands on it, cut before the closing
quote. -/
def Contributes (lines : List Text) (quote : Text) (start n : Nat) (t : Text) : Prop :=
  ∃ text, StringLine lines quote start n text ∧ t = beforeQuote quote text

theorem Spans.defLine_lt {lines : List Text} {defLine start stop : Nat} {quote : Text}
    (h : Spans lines defLine quote start stop) : defLine < start := by
  obtain ⟨last, hhead, hblank⟩ := h.head
  have h1 := hhead.start_le
  have h2 := hblank.start_le
  omega

theorem Occupies.defLine_lt {lines : List Text} {defLine start stop : Nat} {quote : Text}
    (h : Occupies lines defLine quote start stop) : defLine < start := by
  obtain ⟨last, hhead, hblank⟩ := h.head
  exact Nat.lt_of_le_of_lt hhead.start_le hblank.start_le

/-! ## Raw lines -/

theorem beforeQuote_of_find?_eq_none {quote line : Text} (h : find? quote line = none) :
    beforeQuote quote line = line := by
  rw [beforeQuote, h]
  exact List.take_length

/-- The raw lines of a docstring: all lines up to the first that holds the quote, each up to the
quote. -/
theorem untilQuote_eq_some {quote : Text} {lines raw : List Text}
    (h : untilQuote quote lines = some raw) :
    ∃ stop, raw.length = stop + 1 ∧
      (∀ m line, m < stop → lines[m]? = some line → find? quote line = none) ∧
      (∃ line, lines[stop]? = some line ∧ (find? quote line).isSome = true) ∧
      ∀ m, m ≤ stop → raw[m]? = lines[m]?.map (beforeQuote quote) := by
  induction lines generalizing raw with
  | nil => simp [untilQuote] at h
  | cons first rest ih =>
    unfold untilQuote at h
    split at h
    · next k hfind =>
      -- the quote is on the first of the lines
      have hraw := Option.some.inj h
      subst hraw
      refine ⟨0, rfl, fun m line hm => absurd hm (Nat.not_lt_zero m), ⟨first, rfl, ?_⟩, ?_⟩
      · rw [hfind]
        rfl
      · intro m hm
        obtain rfl := Nat.le_zero.mp hm
        simp [beforeQuote, hfind]
    · next hfind =>
      obtain ⟨raw', hraw', rfl⟩ := Option.map_eq_some_iff.mp h
      obtain ⟨stop, hlen, hinside, hcloses, hlines⟩ := ih hraw'
      refine ⟨stop + 1, by rw [List.length_cons, hlen], ?_, hcloses, ?_⟩
      · intro m line hm hline
        cases m with
        | zero =>
          rw [List.getElem?_cons_zero] at hline
          rw [← Option.some.inj hline]
          exact hfind
        | succ m => exact hinside m line (by omega) hline
      · intro m hm
        cases m with
        | zero => simp [beforeQuote_of_find?_eq_none hfind]
        | succ m => exact hlines m (by omega)

/-! ## Cleaning -/

theorem shifted_cleanLine {margin : Nat} {line : Text} (h : isBlank (line.take margin) = true) :
    Shifted margin line (cleanLine margin line) := by
  unfold cleanLine
  split
  · next hblank => exact Shifted.nil_of_isBlank hblank margin
  · exact (Shifted.of_stripIndent h).trans (Shifted.of_trimEnd _)

/-- The raw lines of a docstring, each cleaned, before empty lines at both ends are dropped. -/
def cleanedLines (raw : List Text) : List Text :=
  raw.head?.toList.map trimStart ++ raw.tail.map (cleanLine ((minIndent raw.tail).getD 0))

theorem length_cleanedLines (raw : List Text) : (cleanedLines raw).length = raw.length := by
  cases raw with
  | nil => rfl
  | cons opening rest => simp [cleanedLines]

/-- The number of empty lines that cleaning drops before the first line of a docstring. -/
def droppedLines (raw : List Text) : Nat := ((cleanedLines raw).takeWhile List.isEmpty).length

theorem clean_eq (defLine first : Nat) (raw : List Text) :
    clean defLine first raw =
      { lines := dropEnd List.isEmpty ((cleanedLines raw).drop (droppedLines raw))
        sourceLines := List.range' (first + droppedLines raw)
          (dropEnd List.isEmpty ((cleanedLines raw).drop (droppedLines raw))).length
        margin := (minIndent raw.tail).getD 0, defLine } := by
  have hlead : (cleanedLines raw).length - ((cleanedLines raw).dropWhile List.isEmpty).length =
      droppedLines raw := by
    have hle := (List.takeWhile_prefix List.isEmpty (l := cleanedLines raw)).length_le
    rw [dropWhile_eq_drop, List.length_drop, droppedLines]
    omega
  rw [droppedLines, ← dropWhile_eq_drop, ← droppedLines, ← hlead]
  rfl

/-- Every raw line but the first is shifted by the margin. -/
theorem shifted_cleanedLines {raw : List Text} {m : Nat} {line : Text} (hm : 0 < m)
    (h : (cleanedLines raw)[m]? = some line) :
    ∃ source, raw[m]? = some source ∧ Shifted ((minIndent raw.tail).getD 0) source line := by
  obtain ⟨n, rfl⟩ := Nat.exists_eq_add_one.mpr hm
  cases raw with
  | nil => simp [cleanedLines] at h
  | cons opening rest =>
    have hrest : (rest.map (cleanLine ((minIndent rest).getD 0)))[n]? = some line := h
    rw [List.getElem?_map] at hrest
    obtain ⟨source, hsource, rfl⟩ := Option.map_eq_some_iff.mp hrest
    refine ⟨source, hsource, shifted_cleanLine ?_⟩
    exact isBlank_take_minIndent (List.mem_of_getElem? hsource)

/-- Cleaning drops lines at both ends only. What is left keeps its order and its place in the file,
and every line but the first is shifted by the margin. -/
theorem clean_lines_shifted (defLine first : Nat) (raw : List Text) :
    ∃ lead, (clean defLine first raw).sourceLines =
        List.range' (first + lead) (clean defLine first raw).lines.length ∧
      ∀ j line, 0 < j → (clean defLine first raw).lines[j]? = some line →
        ∃ source, raw[lead + j]? = some source ∧
          Shifted (clean defLine first raw).margin source line := by
  rw [clean_eq]
  refine ⟨droppedLines raw, rfl, ?_⟩
  intro j line hj hline
  -- the line behind the leading empty ones, in the list before they were dropped
  have hget : (cleanedLines raw)[droppedLines raw + j]? = some line := by
    obtain ⟨rest, -, hsplit⟩ :=
      dropEnd_append List.isEmpty ((cleanedLines raw).drop (droppedLines raw))
    rw [← List.getElem?_drop, hsplit,
      List.getElem?_append_left (List.getElem?_eq_some_iff.mp hline).1]
    exact hline
  exact shifted_cleanedLines (by omega) hget

/-! ## Reading -/

/-- Looking for a line ends a run of lines that are not it. -/
theorem runEnds_of_findIdx? {p : Text → Bool} {lines : List Text} {start k : Nat}
    (h : (lines.drop start).findIdx? p = some k) :
    RunEnds (fun line => !p line) lines start lines.length (start + k) ∧
      start + k < lines.length := by
  obtain ⟨hk, hyes, hno⟩ := List.findIdx?_eq_some_iff_getElem.mp h
  rw [List.length_drop] at hk
  have hend : start + k < lines.length := by omega
  refine ⟨⟨by omega, by omega, ?_, ?_⟩, hend⟩
  · intro n line hn hlt hline
    obtain ⟨j, rfl⟩ := Nat.exists_eq_add_of_le hn
    have hj := hno j (by omega)
    rw [List.getElem_drop] at hj
    have hsame := (List.getElem?_eq_some_iff.mp hline).2
    rw [← hsame]
    simpa using hj
  · intro line _ hline
    rw [List.getElem_drop] at hyes
    have hsame := (List.getElem?_eq_some_iff.mp hline).2
    rw [← hsame]
    simpa using hyes

/-- The steps of reading a docstring. -/
theorem read_eq_some {lines : List Text} {defLine : Nat} {doc : Docstring}
    (h : read lines defLine = some doc) :
    ∃ last start line quote text raw,
      RunEnds (fun line => !endsHead line) lines defLine lines.length last ∧
      RunEnds isBlank lines (last + 1) lines.length start ∧
      lines[start]? = some line ∧ opening? line.trimStart = some (quote, text) ∧
      untilQuote quote (text :: lines.drop (start + 1)) = some raw ∧
      doc = clean defLine start raw := by
  unfold read at h
  simp only [bind, Option.bind_eq_some_iff] at h
  obtain ⟨head, hhead, blanks, hblanks, hopen⟩ := h
  have hlast := (runEnds_of_findIdx? hhead).1
  obtain ⟨hstart, hlt⟩ := runEnds_of_findIdx? hblanks
  simp only [Bool.not_not] at hstart
  rw [List.drop_eq_getElem_cons hlt] at hopen
  simp only [Option.bind_eq_some_iff] at hopen
  obtain ⟨⟨quote, text⟩, hquote, raw, hraw, hdoc⟩ := hopen
  refine ⟨_, _, _, quote, text, raw, hlast, hstart, List.getElem?_eq_getElem hlt, hquote, hraw, ?_⟩
  exact (Option.some.inj hdoc).symm

/-- Below the opening line, what is read stands in the file. -/
theorem getElem?_below_opening {lines : List Text} {text : Text} {start m : Nat} (hm : 0 < m) :
    (text :: lines.drop (start + 1))[m]? = lines[start + m]? := by
  obtain ⟨n, rfl⟩ := Nat.exists_eq_add_one.mpr hm
  rw [List.getElem?_cons_succ, List.getElem?_drop]
  congr 1
  omega

/-- What stands on the lines of a string, in the list from which it is read. -/
theorem stringLine_iff {lines : List Text} {quote opening text : Text} {start : Nat}
    (hopening : lines[start]? = some opening)
    (hquote : opening? opening.trimStart = some (quote, text)) {m : Nat} {t : Text} :
    StringLine lines quote start (start + m) t ↔
      (text :: lines.drop (start + 1))[m]? = some t := by
  cases m with
  | zero =>
    rw [List.getElem?_cons_zero, Option.some_inj, Nat.add_zero]
    constructor
    · rintro (⟨hline, hopen⟩ | ⟨hlt, -⟩)
      · obtain rfl := Option.some.inj (hopening.symm.trans hline)
        exact (Prod.mk.inj (Option.some.inj (hquote.symm.trans hopen))).2
      · exact absurd hlt (Nat.lt_irrefl start)
    · rintro rfl
      exact .opening hopening hquote
  | succ m =>
    rw [getElem?_below_opening (Nat.succ_pos m)]
    constructor
    · intro h
      cases h with
      | below _ hline => exact hline
    · exact .below (by omega)

/-- A docstring that was read occupies a range of lines, and it was cleaned from what they
contribute. -/
theorem exists_occupies_of_read {lines : List Text} {defLine : Nat} {doc : Docstring}
    (h : read lines defLine = some doc) :
    ∃ quote start stop raw, Occupies lines defLine quote start stop ∧
      doc = clean defLine start raw ∧ start + raw.length = stop + 1 ∧
      ∀ m t, raw[m]? = some t ↔ start + m ≤ stop ∧ Contributes lines quote start (start + m) t := by
  obtain ⟨last, start, opening, quote, text, raw, hhead, hblanks, hopening, hquote, hraw, hdoc⟩ :=
    read_eq_some h
  obtain ⟨depth, hlen, hinside, ⟨closing, hclosing, hfound⟩, hrawline⟩ := untilQuote_eq_some hraw
  have hstring := fun m t => stringLine_iff hopening hquote (m := m) (t := t)
  refine ⟨quote, start, start + depth, raw, ?_, hdoc, by omega, ?_⟩
  · refine ⟨⟨last, hhead, hblanks⟩, ⟨text, .opening hopening hquote⟩, by omega, ?_,
      closing, (hstring depth closing).mpr hclosing, hfound⟩
    intro n t hn hline
    have hle : start ≤ n := by
      cases hline with
      | opening => exact Nat.le_refl start
      | below hlt => exact Nat.le_of_lt hlt
    -- line `n` is the raw line `n - start`, which does not hold the quote
    obtain ⟨m, rfl⟩ := Nat.exists_eq_add_of_le hle
    exact hinside m t (by omega) ((hstring m t).mp hline)
  · intro m t
    constructor
    · intro hget
      have hm : m ≤ depth := by
        have := (List.getElem?_eq_some_iff.mp hget).1
        omega
      rw [hrawline m hm] at hget
      obtain ⟨source, hsource, rfl⟩ := Option.map_eq_some_iff.mp hget
      exact ⟨by omega, source, (hstring m source).mpr hsource, rfl⟩
    · rintro ⟨hm, source, hline, rfl⟩
      rw [hrawline m (by omega), (hstring m source).mp hline, Option.map_some]

/-- Below the opening line, what stands on a line of the string is the whole line. -/
theorem StringLine.getElem?_of_lt {lines : List Text} {quote t : Text} {start n : Nat}
    (h : StringLine lines quote start n t) (hlt : start < n) : lines[n]? = some t := by
  cases h with
  | opening => exact absurd hlt (Nat.lt_irrefl start)
  | below _ hline => exact hline

/-- A docstring that takes up more than one line spans these lines. -/
theorem Occupies.spans {lines : List Text} {defLine start stop : Nat} {quote : Text}
    (h : Occupies lines defLine quote start stop) (hlt : start < stop) :
    Spans lines defLine quote start stop := by
  obtain ⟨text, hopens⟩ := h.opens
  have hnone := h.inside start text hlt hopens
  obtain ⟨closing, hcloses, hfound⟩ := h.closes
  refine ⟨h.head, ?_, hlt, ?_, closing, hcloses.getElem?_of_lt hlt, hfound⟩
  · cases hopens with
    | opening hline hquote => exact ⟨_, text, hline, hquote, hnone⟩
    | below hself => exact absurd hself (Nat.lt_irrefl start)
  · intro n line hn hstop hline
    exact h.inside n line hstop (.below hn hline)

/-- Every docstring line but the first is a line of the file, cut before the closing quote and
shifted by the margin. Docstring lines follow each other as the file's lines do. -/
theorem exists_spans_of_read {lines : List Text} {defLine : Nat} {doc : Docstring}
    (h : read lines defLine = some doc) (hlong : 1 < doc.lines.length) :
    ∃ quote start stop base, Spans lines defLine quote start stop ∧ doc.defLine = defLine ∧
      doc.sourceLines = List.range' base doc.lines.length ∧
      ∀ j line, 0 < j → doc.lines[j]? = some line →
        start < base + j ∧ base + j ≤ stop ∧
        ∃ source, lines[base + j]? = some source ∧
          Shifted doc.margin (beforeQuote quote source) line := by
  obtain ⟨quote, start, stop, raw, hoccupies, rfl, -, hraw⟩ := exists_occupies_of_read h
  obtain ⟨lead, hsource, hshift⟩ := clean_lines_shifted defLine start raw
  have hbelow : ∀ j line, 0 < j → (clean defLine start raw).lines[j]? = some line →
      start < start + lead + j ∧ start + lead + j ≤ stop ∧
      ∃ source, lines[start + lead + j]? = some source ∧
        Shifted (clean defLine start raw).margin (beforeQuote quote source) line := by
    intro j line hj hline
    obtain ⟨rawline, hget, hshifted⟩ := hshift j line hj hline
    obtain ⟨hle, source, hstring, rfl⟩ := (hraw _ _).mp hget
    rw [← Nat.add_assoc] at hle hstring
    have hlt : start < start + lead + j := by omega
    exact ⟨hlt, hle, source, hstring.getElem?_of_lt hlt, hshifted⟩
  have hstop : start < stop := by
    obtain ⟨hlt, hle, -⟩ := hbelow 1 _ Nat.one_pos (List.getElem?_eq_getElem hlong)
    exact Nat.lt_of_lt_of_le hlt hle
  exact ⟨quote, start, stop, start + lead, hoccupies.spans hstop, rfl, hsource, hbelow⟩

end TranscriptLint.Docstring
