import TranscriptLint.Proofs.DocstringExtent
import TranscriptLint.Proofs.FunctionLookup

namespace TranscriptLint

open Text

/-! # The function that a docstring belongs to

The head of a definition is taken to end with the first line, from the definition on, that ends with
a colon. Nothing in that search stops at the next definition, so the docstring found behind it may
stand below the head of another function.

* `exists_first_of_read`: behind the line that ends the head there is no other head before the
  docstring begins.
* `no_head_above_docstring_iff`: the docstring belongs to the definition exactly if the head of the
  definition ends before the next one begins.
* `docstring_of_next_function`: a definition on one line gets the docstring of the function below.
-/

namespace Docstring

/-! ## Heads of functions -/

/-- The line begins the definition of some function at the top level, as `def` or as `async def`
from column zero on. -/
def IsFunctionHead (line : Text) : Prop :=
  ∃ name : Text, name ≠ [] ∧ (∀ c ∈ name, isWhite c = false ∧ c ≠ '(') ∧
    definesFunction name line = true

/-- A head begins with one of the two keywords. -/
theorem IsFunctionHead.eq_cons {line : Text} (h : IsFunctionHead line) :
    ∃ c rest, line = c :: rest ∧ (c = 'd' ∨ c = 'a') := by
  obtain ⟨name, -, -, hdef⟩ := h
  obtain ⟨rest, ⟨gap, -, rfl | ⟨pause, -, rfl⟩⟩, -⟩ := definesFunction_iff_heads.mp hdef
  · exact ⟨'d', _, rfl, .inl rfl⟩
  · exact ⟨'a', _, rfl, .inr rfl⟩

theorem not_isFunctionHead_of_isBlank {line : Text} (h : line.isBlank = true) :
    ¬ IsFunctionHead line := by
  intro hhead
  obtain ⟨c, rest, rfl, hc⟩ := hhead.eq_cons
  rw [isBlank, List.all_cons, Bool.and_eq_true] at h
  rcases hc with rfl | rfl
  · exact absurd h.1 (by decide)
  · exact absurd h.1 (by decide)

/-- A line that opens a string begins with the quote or with a mark before it. -/
theorem not_isFunctionHead_of_opening? {line quote text : Text}
    (h : opening? line.trimStart = some (quote, text)) : ¬ IsFunctionHead line := by
  intro hhead
  obtain ⟨c, rest, rfl, hc⟩ := hhead.eq_cons
  have hnone : opening? (trimStart (c :: rest)) = none := by
    rcases hc with rfl | rfl
    · rfl
    · rfl
  rw [hnone] at h
  exact absurd h (by simp)

/-- The line that opens a docstring begins no function. -/
theorem Occupies.not_isFunctionHead_opening {lines : List Text} {defLine start stop : Nat}
    {quote : Text} (h : Occupies lines defLine quote start stop) :
    ∃ line, lines[start]? = some line ∧ ¬ IsFunctionHead line := by
  obtain ⟨text, hopens⟩ := h.opens
  cases hopens with
  | opening hline hquote => exact ⟨_, hline, not_isFunctionHead_of_opening? hquote⟩
  | below hself => exact absurd hself (Nat.lt_irrefl start)

/-! ## From the head to the docstring -/

/-- The lines dropped behind the opening one were blank. -/
theorem isBlank_of_lt_droppedLines {raw : List Text} {m : Nat} {source : Text} (hm : 0 < m)
    (hlt : m < droppedLines raw) (h : raw[m]? = some source) : source.isBlank = true := by
  have hbound : m < (cleanedLines raw).length :=
    Nat.lt_of_lt_of_le hlt (List.takeWhile_prefix List.isEmpty).length_le
  have hget := List.getElem?_eq_getElem hbound
  obtain ⟨source', hsource, hshift⟩ := shifted_cleanedLines hm hget
  rw [h] at hsource
  have hempty : (cleanedLines raw)[m].isEmpty = true := of_getElem?_lt_takeWhile hlt hget
  rw [Option.some.inj hsource, hshift.isBlank_eq, List.isEmpty_iff.mp hempty]
  rfl

/-- A docstring that is not empty begins on one of its raw lines. -/
theorem droppedLines_lt {defLine first : Nat} {raw : List Text}
    (h : (clean defLine first raw).lines ≠ []) : droppedLines raw < raw.length := by
  have hlen := length_cleanedLines raw
  by_contra hle
  apply h
  rw [clean_eq, List.drop_eq_nil_of_le (by omega)]
  rfl

/-- Between the line that ends the head and the first line of the docstring there are only blank
lines, and the line with the opening quote if nothing follows the quote. None of them is the head of
a function. -/
theorem exists_first_of_read {lines : List Text} {defLine : Nat} {doc : Docstring}
    (h : read lines defLine = some doc) (hne : doc.lines ≠ []) :
    ∃ last first line, RunEnds (fun line => !endsHead line) lines defLine lines.length last ∧
      lines[last]? = some line ∧ endsHead line = true ∧ doc.sourceLines.head? = some first ∧
      last < first ∧
      ∀ n line, last < n → n < first → lines[n]? = some line → ¬ IsFunctionHead line := by
  obtain ⟨quote, start, stop, raw, hoccupies, rfl, hlen, hraw⟩ := exists_occupies_of_read h
  obtain ⟨last, hhead, hblanks⟩ := hoccupies.head
  obtain ⟨opening, hopening, hnohead⟩ := hoccupies.not_isFunctionHead_opening
  have hstart : start < lines.length := (List.getElem?_eq_some_iff.mp hopening).1
  have hlast : last < start := hblanks.start_le
  have hline : lines[last]? = some lines[last] := List.getElem?_eq_getElem (by omega)
  have hends := hhead.outside _ (by omega) hline
  have hdrop := droppedLines_lt hne
  refine ⟨last, start + droppedLines raw, _, hhead, hline, by simpa using hends, ?_, by omega, ?_⟩
  · rw [clean_eq] at hne ⊢
    rw [List.head?_range', if_neg (by simpa using hne)]
  · intro n line hn hlt hget
    rcases Nat.lt_trichotomy n start with hbefore | rfl | hbehind
    · exact not_isFunctionHead_of_isBlank (hblanks.inside n line hn hbefore hget)
    · rw [Option.some.inj (hget.symm.trans hopening)]
      exact hnohead
    · -- a dropped line; the closing quote comes later, so the raw line is the whole line
      have hstring : StringLine lines quote start n line := .below hbehind hget
      obtain ⟨m, rfl⟩ := Nat.exists_eq_add_of_le (Nat.le_of_lt hbehind)
      have hnone := hoccupies.inside _ line (by omega) hstring
      have hrawm : raw[m]? = some line :=
        (hraw m line).mpr ⟨by omega, line, hstring, (beforeQuote_of_find?_eq_none hnone).symm⟩
      exact not_isFunctionHead_of_isBlank
        (isBlank_of_lt_droppedLines (by omega) (by omega) hrawm)

/-! ## Whose docstring it is -/

/-- The head of the definition on line `defLine` ends before the next function begins: between the
two there is a line that ends with a colon once its comment is cut off, and this may be the line of
the definition itself. -/
def EndsBeforeNext (lines : List Text) (defLine : Nat) : Prop :=
  ∀ n line, defLine < n → lines[n]? = some line → IsFunctionHead line →
    ∃ k above, defLine ≤ k ∧ k < n ∧ lines[k]? = some above ∧ endsHead above = true

/-- **Owner.** The docstring that is read for a function begins below the first definition of that
function, and no other function begins between the two exactly if the head of the definition ends
before the next function begins. -/
theorem no_head_above_docstring_iff [PatternLibrary] {lines : List Text} {name : Text}
    {defLine : Nat} {doc : Docstring} (hfind : findFunction lines name = some defLine)
    (hread : read lines defLine = some doc) (hne : doc.lines ≠ []) :
    ∃ head first, lines[defLine]? = some head ∧ definesFunction name head = true ∧
      doc.sourceLines.head? = some first ∧ defLine < first ∧
      ((∀ n line, defLine < n → n < first → lines[n]? = some line → ¬ IsFunctionHead line) ↔
        EndsBeforeNext lines defLine) := by
  obtain ⟨-, hindex⟩ := findFunction_eq_some_iff.mp hfind
  obtain ⟨hlt, hdef, -⟩ := List.findIdx?_eq_some_iff_getElem.mp hindex
  obtain ⟨last, first, ending, hhead, hending, hends, hfirst, hbelow, hclear⟩ :=
    exists_first_of_read hread hne
  have hle := hhead.start_le
  refine ⟨lines[defLine], first, List.getElem?_eq_getElem hlt, hdef, hfirst, by omega, ?_⟩
  constructor
  · intro hnone n line hn hline hfunction
    -- a head that stands as high as the end of the search would stand above the docstring
    have hbehind : last < n := by
      by_contra hnot
      exact hnone n line hn (by omega) hline hfunction
    exact ⟨last, ending, hle, hbehind, hending, hends⟩
  · intro hends' n line hn hlt' hline hfunction
    obtain ⟨k, above, hk, hkn, habove, hcolon⟩ := hends' n line hn hline hfunction
    have hlast : last ≤ k := by
      by_contra hnot
      have hopen := hhead.inside k above hk (by omega) habove
      rw [hcolon] at hopen
      exact absurd hopen (by decide)
    exact hclear n line (by omega) hlt' hline hfunction

/-- The head spans three lines, and the docstring begins below its opening quote. -/
theorem no_head_above_docstring_long_head :
    let lines := ["def f(".toList, "    a,".toList, "):  # done".toList, [], "    r\"\"\"".toList,
      "    Doc.".toList, "    \"\"\"".toList, "def g(): pass".toList]
    findFunction lines "f".toList = some 0 ∧ read lines 0 = some ⟨["Doc.".toList], [5], 4, 0⟩ ∧
      EndsBeforeNext lines 0 ∧
      ∀ n line, 0 < n → n < 5 → lines[n]? = some line → ¬ IsFunctionHead line := by
  intro lines
  have hfind : findFunction lines "f".toList = some 0 := by decide +kernel
  have hread : read lines 0 = some ⟨["Doc.".toList], [5], 4, 0⟩ := by decide +kernel
  have hends : EndsBeforeNext lines 0 := by
    intro n line hn hline hfunction
    rcases Nat.lt_or_ge 2 n with hbelow | habove
    · exact ⟨2, "):  # done".toList, by omega, hbelow, rfl, by decide +kernel⟩
    · -- the lines of the head itself begin no function
      obtain ⟨c, rest, rfl, hc⟩ := hfunction.eq_cons
      obtain rfl | rfl : n = 1 ∨ n = 2 := by omega
      all_goals
        obtain ⟨rfl, -⟩ := List.cons.inj (Option.some.inj hline)
        exact absurd hc (by decide)
  obtain ⟨head, first, -, -, hfirst, -, hiff⟩ :=
    no_head_above_docstring_iff hfind hread (List.cons_ne_nil _ _)
  rw [← Option.some.inj hfirst] at hiff
  exact ⟨hfind, hread, hends, hiff.mpr hends⟩

/-- A function that is defined on one line gets the docstring of the function below it: no line of
its own ends with a colon, so the search goes on to the next head. -/
theorem docstring_of_next_function :
    ¬ ∀ lines name defLine doc first, findFunction lines name = some defLine →
        read lines defLine = some doc → doc.lines ≠ [] → doc.sourceLines.head? = some first →
        ∀ n line, defLine < n → n < first → lines[n]? = some line → ¬ IsFunctionHead line := by
  intro hall
  let lines := ["def f(): return 1".toList, "def g():".toList, "    \"\"\"Doc.\"\"\"".toList]
  have hfind : findFunction lines "f".toList = some 0 := by decide +kernel
  have hread : read lines 0 = some ⟨["Doc.".toList], [2], 0, 0⟩ := by decide +kernel
  have hhead : IsFunctionHead "def g():".toList := by
    refine ⟨['g'], List.cons_ne_nil _ _, ?_, by decide +kernel⟩
    intro c hc
    obtain rfl := List.mem_singleton.mp hc
    decide
  exact hall lines "f".toList 0 _ 2 hfind hread (List.cons_ne_nil _ _) rfl 1 _ Nat.one_pos
    (Nat.lt_succ_self 1) rfl hhead

end Docstring
end TranscriptLint
