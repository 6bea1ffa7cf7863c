import TranscriptLint.Markdown.Fence
import TranscriptLint.Proofs.Classification
import TranscriptLint.Proofs.Lines
import TranscriptLint.Proofs.MarkdownPlaces

namespace TranscriptLint.Markdown

open Text

/-! # What a fenced block holds

Whether the last line of a fenced block closes it is found out again from the lines themselves: it
closes the block if it begins like the opening line. This goes wrong where something else stands
before the opening fence, such as the mark of a list item: then the opening line begins with no
fence at all, and every line begins like it.

* `getElem?_splitOn_count`: the line that a place of a text is on.
* `opensFence_of_isBlank_lineLead`: a fence with nothing but whitespace before it is found again.
* `fence_keeps_last_line_iff`: a block keeps a last line that cannot be a fence exactly if its
  opening line begins with a fence.
* `last_line_lost_in_list_item`: a fence behind the mark of a list item loses its last line.
-/

/-! ## The line of a place -/

/-- What stands before the end of a text on its last line. -/
def lastPiece (t : Text) : Text := (t.reverse.takeWhile (· ≠ '\n')).reverse

/-- What stands before a place on its line. -/
def lineLead (content : Text) (place : Nat) : Text := lastPiece (content.take place)

theorem lastPiece_of_not_mem {t : Text} (h : '\n' ∉ t) : lastPiece t = t := by
  have hall : ∀ c ∈ t.reverse, decide (c ≠ '\n') = true := by
    intro c hc
    rw [decide_eq_true_eq]
    rintro rfl
    exact h (List.mem_reverse.mp hc)
  rw [lastPiece, List.takeWhile_eq_self_iff.mpr hall, List.reverse_reverse]

theorem lastPiece_append_cons (before t : Text) :
    lastPiece (before ++ '\n' :: t) = lastPiece t := by
  have hstop : ('\n' :: before.reverse).takeWhile (· ≠ '\n') = [] :=
    List.takeWhile_cons_of_neg (by simp)
  have hrev : (before ++ '\n' :: t).reverse = t.reverse ++ '\n' :: before.reverse := by simp
  rw [lastPiece, lastPiece, hrev, List.takeWhile_append, hstop]
  split
  · next hall =>
    rw [List.append_nil, (List.takeWhile_prefix _).eq_of_length hall]
  · rfl

/-- Without a line feed, a text goes on to the end of the first line of what follows. -/
theorem getElem?_zero_splitOn_append {a : Text} (h : '\n' ∉ a) (b : Text) :
    (splitOn '\n' (a ++ b))[0]? = some (a ++ restOfLine b) := by
  have hfree : ∀ c ∈ a, (c != '\n') = true := by
    intro c hc
    exact bne_iff_ne.mpr fun heq => h (heq ▸ hc)
  have hline : b.takeWhile (· != '\n') = restOfLine b := by simp [restOfLine, bne, beq_eq_decide]
  rw [← List.head?_eq_getElem?, head?_splitOn, List.takeWhile_append_of_pos hfree, hline]

/-- The piece of a text that a place is in: its number is that of the line feeds before the place.
The induction takes off the first line of what stands before the place. -/
theorem getElem?_splitOn_count (a b : Text) :
    (splitOn '\n' (a ++ b))[a.count '\n']? = some (lastPiece a ++ restOfLine b) := by
  induction hlen : a.length using Nat.strong_induction_on generalizing a with
  | _ len ih =>
    by_cases hmem : '\n' ∈ a
    · obtain ⟨line, rest, rfl, hline⟩ := List.eq_append_cons_of_mem hmem
      have hshorter : rest.length < len := by
        rw [← hlen, List.length_append, List.length_cons]
        omega
      have hcount : (line ++ '\n' :: rest).count '\n' = rest.count '\n' + 1 := by
        rw [List.count_append, List.count_cons_self, List.count_eq_zero_of_not_mem hline,
          Nat.zero_add]
      rw [hcount, lastPiece_append_cons, List.append_assoc, List.cons_append,
        List.splitOn_append_cons_self_of_not_mem hline, List.getElem?_cons_succ]
      exact ih rest.length hshorter rest rfl
    · rw [List.count_eq_zero_of_not_mem hmem, lastPiece_of_not_mem hmem]
      exact getElem?_zero_splitOn_append hmem b

/-- A line that is not the last has lost the carriage return of its ending, and nothing else. -/
theorem getElem?_lines_of_lt {t : Text} {k : Nat} (h : k + 1 < (lines t).length) :
    (lines t)[k]? = (splitOn '\n' t)[k]?.map chompReturn := by
  have hlast : ((splitOn '\n' t).getLast?.toList.filter fun last => !last.isEmpty).length ≤ 1 :=
    Nat.le_trans (List.length_filter_le _ _) Option.length_toList_le
  have hlen : (lines t).length = ((splitOn '\n' t).dropLast.map chompReturn).length +
      ((splitOn '\n' t).getLast?.toList.filter fun last => !last.isEmpty).length :=
    List.length_append
  have hk : k < ((splitOn '\n' t).dropLast.map chompReturn).length := by omega
  have hk' : k < (splitOn '\n' t).length - 1 := by
    rw [List.length_map, List.length_dropLast] at hk
    exact hk
  rw [lines, List.getElem?_append_left hk, List.getElem?_map, List.getElem?_dropLast, if_pos hk']

/-- The line that a place is on, if another line follows it. -/
theorem getElem?_lines_lineOf {before rest : Text}
    (h : before.count '\n' + 1 < (lines (before ++ rest)).length) :
    (lines (before ++ rest))[before.count '\n']? =
      some (chompReturn (lastPiece before ++ restOfLine rest)) := by
  rw [getElem?_lines_of_lt h, getElem?_splitOn_count]
  rfl

/-! ## Lines that begin with a fence -/

/-- The first character of the line that is not whitespace is a mark of fences. -/
def OpensFence (line : Text) : Prop := FirstVisible '\x60' line ∨ FirstVisible '~' line

theorem firstVisible_chompReturn {c : Char} {line : Text} (h : FirstVisible c line) :
    FirstVisible c (chompReturn line) := by
  obtain ⟨lead, rest, rfl, hlead, hc⟩ := h
  unfold chompReturn
  split
  · next hlast =>
    have hne : rest ≠ [] := by
      -- the carriage return is whitespace, so it is not the visible character
      rintro rfl
      rw [List.getLast?_append_cons, List.getLast?_singleton] at hlast
      rw [Option.some.inj hlast] at hc
      exact absurd hc (by decide)
    refine ⟨lead, rest.dropLast, ?_, hlead, hc⟩
    rw [List.dropLast_append_of_ne_nil (List.cons_ne_nil _ _), List.dropLast_cons_of_ne_nil hne]
  · exact ⟨lead, rest, rfl, hlead, hc⟩

/-- The run holds nothing but marks of fences. -/
theorem eq_mark_of_mem_fenceRun {c : Char} {line : Text} (h : c ∈ fenceRun line) :
    c = '\x60' ∨ c = '~' := by
  have hc := List.mem_takeWhile_imp h
  rw [beq_iff_eq] at hc
  split at hc
  · exact .inr hc
  · exact .inl hc

theorem fenceRun_eq_nil_iff {line : Text} : fenceRun line = [] ↔ ¬ OpensFence line := by
  rw [OpensFence, ← isPrompted_iff, ← isPrompted_iff, fenceRun, isPrompted, isPrompted]
  cases hline : line.trimStart with
  | nil => simp
  | cons c rest => by_cases hc : c = '~' <;> simp [hc]

/-- A line without the marks of fences begins with no fence. -/
theorem not_startsWith_fenceRun {opening line : Text} (hopening : OpensFence opening)
    (hline : '\x60' ∉ line ∧ '~' ∉ line) :
    line.trimStart.startsWith (fenceRun opening) = false := by
  cases hrun : fenceRun opening with
  | nil => exact absurd hopening (fenceRun_eq_nil_iff.mp hrun)
  | cons c run =>
    have hhead : c ∈ fenceRun opening := by
      rw [hrun]
      exact List.mem_cons_self
    have hfree : c ∉ line := by
      rcases eq_mark_of_mem_fenceRun hhead with rfl | rfl
      · exact hline.1
      · exact hline.2
    rw [startsWith, Bool.eq_false_iff]
    intro hprefix
    have hmem : c ∈ line.trimStart :=
      (List.isPrefixOf_iff_prefix.mp hprefix).subset List.mem_cons_self
    exact hfree ((List.dropWhile_suffix _).subset hmem)

/-! ## The fences of a text -/

/-- The extent of a fenced block begins at a fence of the text. -/
theorem exists_fence_of_mem_spans {content : Text} {s : Span} (h : s ∈ spans content) :
    ∃ before opening, content = before ++ opening ∧ before.length = s.start ∧
      (fenceMark? opening).isSome = true := by
  obtain ⟨f, hf, rfl⟩ := List.mem_map.mp h
  obtain ⟨opening, stop, ⟨before, hbefore⟩, -, hmark, hstart, -⟩ := foundIn_of_mem_fencedBlocks hf
  have hplace : content.length - f.startLeft = before.length := by
    rw [← hbefore, hstart, List.length_append, Nat.add_sub_cancel]
  exact ⟨before, opening, hbefore.symm, hplace.symm, hmark⟩

theorem fenceMark?_isSome {t : Text} (h : (fenceMark? t).isSome = true) :
    ∃ c rest, t = c :: rest ∧ (c = '\x60' ∨ c = '~') := by
  unfold fenceMark? at h
  split at h
  · exact absurd h (by simp)
  · next c rest =>
    refine ⟨c, rest, rfl, ?_⟩
    simp only at h
    split at h
    · next htilde =>
      rw [Bool.and_eq_true, beq_iff_eq] at htilde
      exact .inr htilde.1
    · split at h
      · next hgrave =>
        rw [Bool.and_eq_true, Bool.and_eq_true, beq_iff_eq] at hgrave
        exact .inl hgrave.1.1
      · exact absurd h (by simp)

/-- A fence with nothing but whitespace before it on its line is the first thing that can be seen
there. -/
theorem opensFence_of_isBlank_lineLead {content line : Text} {s : Span} (hs : s ∈ spans content)
    (hnext : lineOf content s.start + 1 < content.lines.length)
    (hline : content.lines[lineOf content s.start]? = some line)
    (hlead : (lineLead content s.start).isBlank = true) : OpensFence line := by
  obtain ⟨before, opening, rfl, hlen, hmark⟩ := exists_fence_of_mem_spans hs
  obtain ⟨c, rest, rfl, hc⟩ := fenceMark?_isSome hmark
  have hbefore : (before ++ c :: rest).take s.start = before := by rw [← hlen, List.take_left]
  rw [lineOf, hbefore] at hnext hline
  rw [lineLead, hbefore] at hlead
  rw [getElem?_lines_lineOf hnext] at hline
  have hwhite : isWhite c = false ∧ c ≠ '\n' := by
    rcases hc with rfl | rfl
    · decide
    · decide
  have hrest : restOfLine (c :: rest) = c :: restOfLine rest :=
    List.takeWhile_cons_of_pos (by simpa using hwhite.2)
  have hvisible : FirstVisible c line := by
    rw [← Option.some.inj hline, hrest]
    exact firstVisible_chompReturn ⟨_, _, rfl, hlead, hwhite.1⟩
  rcases hc with rfl | rfl
  · exact .inl hvisible
  · exact .inr hvisible

/-! ## The last line -/

/-- The block of an extent with all lines below its opening line, the last line included. -/
def wholeBlock (content : Text) (s : Span) : LiteralBlock :=
  .ofLines s.language
    (linesBetween content.lines (lineOf content s.start + 1) (lastLine content s + 1))
    (lineOf content s.start + 1)

/-- A last line without the marks of fences counts as a closing fence exactly if the opening line
does not begin with a fence. -/
theorem closingLine_eq {content opening line : Text} {s : Span}
    (hbelow : lineOf content s.start < lastLine content s)
    (hopening : content.lines[lineOf content s.start]? = some opening)
    (hline : content.lines[lastLine content s]? = some line)
    (hmarks : '\x60' ∉ line ∧ '~' ∉ line) :
    (OpensFence opening → closingLine content.lines content s = lastLine content s + 1) ∧
      (¬ OpensFence opening → closingLine content.lines content s = lastLine content s) := by
  have hget : content.lines.getD (lineOf content s.start) [] = opening := by
    rw [List.getD_eq_getElem?_getD, hopening, Option.getD_some]
  simp only [closingLine, hline, hget, hbelow, decide_true, Bool.true_and]
  constructor
  · intro hfence
    rw [not_startsWith_fenceRun hfence hmarks]
    rfl
  · intro hfence
    rw [fenceRun_eq_nil_iff.mpr hfence, startsWith, List.isPrefixOf_nil_left, if_pos rfl]

/-- **Last line.** Let the last line of a fenced block lie below its opening line and hold no mark
of fences, so that it closes nothing. The block is made of all lines below the opening line, the
last one included, exactly if the opening line begins with a fence; and it does if nothing but
whitespace stands before the fence on its line. -/
theorem fence_keeps_last_line_iff {content line : Text} {s : Span} (hs : s ∈ spans content)
    (hbelow : lineOf content s.start < lastLine content s)
    (hline : content.lines[lastLine content s]? = some line)
    (hmarks : '\x60' ∉ line ∧ '~' ∉ line) :
    ∃ opening, content.lines[lineOf content s.start]? = some opening ∧
      (block? content.lines content s = some (wholeBlock content s) ↔ OpensFence opening) ∧
      (OpensFence opening → wholeBlock content s ∈ scan content) ∧
      ((lineLead content s.start).isBlank = true → OpensFence opening) := by
  have hlast : lastLine content s < content.lines.length := (List.getElem?_eq_some_iff.mp hline).1
  have hopening := List.getElem?_eq_getElem (Nat.lt_trans hbelow hlast)
  obtain ⟨hfence, hnone⟩ := closingLine_eq hbelow hopening hline hmarks
  have hwhole : OpensFence content.lines[lineOf content s.start] →
      block? content.lines content s = some (wholeBlock content s) := by
    intro hopens
    simp only [block?, hfence hopens]
    rw [Nat.min_eq_left hlast, if_pos (by omega)]
    rfl
  refine ⟨_, hopening, ⟨?_, hwhole⟩, ?_, ?_⟩
  · intro hblock
    by_contra hopens
    -- the block would have one line less than the whole block
    simp only [block?, hnone hopens] at hblock
    rw [Nat.min_eq_left (Nat.le_of_lt hlast)] at hblock
    split at hblock
    · have hlines := congrArg (fun b : LiteralBlock => b.lines.length) (Option.some.inj hblock)
      simp only [LiteralBlock.ofLines, wholeBlock, List.length_map, linesBetween,
        List.length_take, List.length_drop] at hlines
      omega
    · exact absurd hblock (by simp)
  · intro hopens
    exact List.mem_filterMap.mpr ⟨s, hs, hwhole hopens⟩
  · intro hlead
    exact opensFence_of_isBlank_lineLead hs (by omega) hopening hlead

/-- The fence stands in a list item, on a line of its own, and is left open when the item ends. -/
theorem fence_keeps_last_line_in_list_item :
    let content : Text := "1. Run:\n\n   ```bash\n   $ make\n   $ test\nDone".toList
    let s : Span := ⟨12, 40, "bash".toList⟩
    s ∈ spans content ∧ lineOf content s.start = 2 ∧ lastLine content s = 4 ∧
      wholeBlock content s = ⟨"bash".toList, ["$ make".toList, "$ test".toList], 3, 3⟩ ∧
      wholeBlock content s ∈ scan content := by
  intro content s
  have hs : s ∈ spans content := by decide +kernel
  have hbelow : lineOf content s.start < lastLine content s := by decide +kernel
  have hline : content.lines[lastLine content s]? = some "   $ test".toList := by decide +kernel
  have hlead : (lineLead content s.start).isBlank = true := by decide +kernel
  obtain ⟨opening, -, -, hmem, hopens⟩ := fence_keeps_last_line_iff hs hbelow hline (by decide)
  exact ⟨hs, by decide +kernel, by decide +kernel, by decide +kernel, hmem (hopens hlead)⟩

/-- The fence stands behind the mark of a list item and is never closed. Its last line is a command,
but the block is cut off before it. -/
theorem last_line_lost_in_list_item :
    ¬ ∀ content s line, s ∈ spans content → lineOf content s.start < lastLine content s →
        content.lines[lastLine content s]? = some line → line.isBlank = false →
        '\x60' ∉ line ∧ '~' ∉ line → wholeBlock content s ∈ scan content := by
  intro hall
  let content : Text := "- ```bash\n  $ echo one\n  $ echo two".toList
  let s : Span := ⟨2, 35, "bash".toList⟩
  have hs : s ∈ spans content := by decide +kernel
  have hbelow : lineOf content s.start < lastLine content s := by decide +kernel
  have hline : content.lines[lastLine content s]? = some "  $ echo two".toList := by
    decide +kernel
  have hmem := hall content s _ hs hbelow hline (by decide) (by decide)
  have hnot : wholeBlock content s ∉ scan content := by decide +kernel
  exact hnot hmem

end TranscriptLint.Markdown
