import Mathlib.Order.Bounds.Basic
import TranscriptLint.Proofs.Indentation
import TranscriptLint.Transcript

namespace TranscriptLint

open Text

/-! # What the kinds of transcript lines mean

A transcript is read with one bit of memory: whether the line before left a command open. The kinds
are explained here without it, by where a line stands among the others.

* `FirstVisible` and `EndsOpen` say what a prompt and an open end are, by cutting the line there.
* `Continues prompt lines i`: a chain of open lines leads from a prompted line down to line `i`.
* `openAfter_take_iff`: the bit before line `i` is set exactly if such a chain leads there.
* `ofLines_means` says what every entry of a transcript and its margin are.
-/

/-! ## Prompts and open ends -/

/-- The character is the first of the line that is not whitespace. -/
def FirstVisible (c : Char) (line : Text) : Prop :=
  ∃ lead rest : Text, line = lead ++ c :: rest ∧ lead.isBlank = true ∧ isWhite c = false

/-- The last character of the line that is not whitespace is a backslash. -/
def EndsOpen (line : Text) : Prop :=
  ∃ front tail : Text, line = front ++ '\\' :: tail ∧ tail.isBlank = true

theorem isPrompted_iff {prompt : Char} {line : Text} :
    isPrompted prompt line = true ↔ FirstVisible prompt line := by
  rw [isPrompted, beq_iff_eq]
  constructor
  · intro h
    have hsplit : line.takeWhile isWhite ++ line.trimStart = line :=
      List.takeWhile_append_dropWhile
    have hwhite := List.head?_dropWhile_not isWhite line
    rw [trimStart] at h
    rw [h] at hwhite
    obtain ⟨rest, hrest⟩ := List.head?_eq_some_iff.mp h
    refine ⟨line.takeWhile isWhite, rest, ?_, ?_, hwhite⟩
    · rw [← hrest]
      exact hsplit.symm
    · rw [takeWhile_isWhite_eq_take]
      exact isBlank_take_of_le_indentWidth (Nat.le_refl _)
  · rintro ⟨lead, rest, rfl, hlead, hprompt⟩
    rw [trimStart, List.dropWhile_append_of_pos (List.all_eq_true.mp hlead),
      List.dropWhile_cons_of_neg (by simp [hprompt])]
    rfl

/-- Blanking the prompt replaces one character. -/
theorem blankPrompt_append {prompt : Char} {lead rest : Text} (hlead : lead.isBlank = true)
    (hprompt : isWhite prompt = false) :
    blankPrompt (lead ++ prompt :: rest) = lead ++ ' ' :: rest := by
  have hwhite := List.all_eq_true.mp hlead
  have hstop : ¬ isWhite prompt = true := by simp [hprompt]
  rw [blankPrompt, trimStart, List.takeWhile_append_of_pos hwhite,
    List.takeWhile_cons_of_neg hstop, List.dropWhile_append_of_pos hwhite,
    List.dropWhile_cons_of_neg hstop, List.append_nil, List.tail_cons]

theorem endsInBackslash_iff {line : Text} : endsInBackslash line = true ↔ EndsOpen line := by
  rw [endsInBackslash, beq_iff_eq]
  constructor
  · intro h
    obtain ⟨tail, htail, hline⟩ := dropEnd_append isWhite line
    refine ⟨line.trimEnd.dropLast, tail, ?_, List.all_eq_true.mpr htail⟩
    calc line
        = line.trimEnd ++ tail := hline
      _ = line.trimEnd.dropLast ++ ['\\'] ++ tail := by rw [List.dropLast_append_getLast? _ h]
      _ = line.trimEnd.dropLast ++ '\\' :: tail := by simp
  · rintro ⟨front, tail, rfl, htail⟩
    have hcut : front ++ '\\' :: tail = front ++ ['\\'] ++ tail := by simp
    rw [hcut, trimEnd_append_of_isBlank _ htail, trimEnd_concat _ (by decide),
      List.getLast?_concat]

/-! ## Chains of open lines -/

/-- Line `i` continues a command: above it there is a prompted line, and every line from that one
down to the line before `i` ends with a backslash. -/
def Continues (prompt : Char) (lines : List Text) (i : Nat) : Prop :=
  ∃ j line, j < i ∧ lines[j]? = some line ∧ FirstVisible prompt line ∧
    ∀ k line, j ≤ k → k < i → lines[k]? = some line → EndsOpen line

theorem not_continues_zero (prompt : Char) (lines : List Text) : ¬ Continues prompt lines 0 := by
  rintro ⟨j, line, hj, -⟩
  exact absurd hj (Nat.not_lt_zero j)

/-- A chain to the next line goes through this line, or begins here. -/
theorem continues_succ_iff {prompt : Char} {lines : List Text} {i : Nat} {line : Text}
    (hline : lines[i]? = some line) :
    Continues prompt lines (i + 1) ↔
      EndsOpen line ∧ (FirstVisible prompt line ∨ Continues prompt lines i) := by
  constructor
  · rintro ⟨j, start, hj, hstart, hprompt, hopen⟩
    refine ⟨hopen i line (by omega) (Nat.lt_succ_self i) hline, ?_⟩
    rcases Nat.lt_or_ge j i with hlt | hge
    · right
      refine ⟨j, start, hlt, hstart, hprompt, ?_⟩
      intro k between hjk hki
      exact hopen k between hjk (by omega)
    · left
      obtain rfl : j = i := by omega
      rw [hline] at hstart
      rw [Option.some.inj hstart]
      exact hprompt
  · rintro ⟨hend, hprompt | ⟨j, start, hj, hstart, hprompt, hopen⟩⟩
    · refine ⟨i, line, Nat.lt_succ_self i, hline, hprompt, ?_⟩
      intro k between hik hki hbetween
      obtain rfl : k = i := by omega
      rw [hline] at hbetween
      rw [← Option.some.inj hbetween]
      exact hend
    · refine ⟨j, start, by omega, hstart, hprompt, ?_⟩
      intro k between hjk hki hbetween
      rcases Nat.lt_or_ge k i with hlt | hge
      · exact hopen k between hjk hlt hbetween
      · obtain rfl : k = i := by omega
        rw [hline] at hbetween
        rw [← Option.some.inj hbetween]
        exact hend

/-! ## The bit that is carried along -/

namespace Transcript

/-- Whether a line leaves a command open, given whether the line before it did. -/
def leavesOpen (prompt : Char) (continued : Bool) (line : Text) : Bool :=
  (classifyLine prompt continued line).kind.isCommand && endsInBackslash line

/-- Whether a command is open behind these lines. -/
def openAfter (prompt : Char) (continued : Bool) (lines : List Text) : Bool :=
  lines.foldl (leavesOpen prompt) continued

theorem length_classify (prompt : Char) (continued : Bool) (lines : List Text) :
    (classify prompt continued lines).length = lines.length := by
  induction lines generalizing continued with
  | nil => rfl
  | cons line lines ih => rw [classify, List.length_cons, ih, List.length_cons]

/-- Every line has its entry, given by the line itself and by whether a command was open before. -/
theorem getElem?_classify (prompt : Char) (continued : Bool) (lines : List Text) (i : Nat) :
    (classify prompt continued lines)[i]? =
      lines[i]?.map (classifyLine prompt (openAfter prompt continued (lines.take i))) := by
  induction lines generalizing i continued with
  | nil => rfl
  | cons line rest ih =>
    cases i with
    | zero => rfl
    | succ i =>
      rw [classify, List.getElem?_cons_succ, ih, List.getElem?_cons_succ, List.take_succ_cons]
      rfl

/-- The lines that belong to a command are the prompted ones and those behind an open line. -/
theorem isCommand_classifyLine (prompt : Char) (continued : Bool) (line : Text) :
    (classifyLine prompt continued line).kind.isCommand =
      (isPrompted prompt line || continued) := by
  unfold classifyLine
  split
  · next hprompt => rw [hprompt]; rfl
  · next hprompt =>
    split
    · next hopen => rw [hopen, Bool.or_true]; rfl
    · next hclosed =>
      rw [Bool.not_eq_true] at hprompt hclosed
      rw [hprompt, hclosed]
      split <;> rfl

/-- What one line does to the bit. -/
theorem openAfter_take_succ {prompt : Char} {lines : List Text} {i : Nat} {line : Text}
    (hline : lines[i]? = some line) :
    openAfter prompt false (lines.take (i + 1)) =
      leavesOpen prompt (openAfter prompt false (lines.take i)) line := by
  rw [openAfter, List.take_add_one, hline, Option.toList_some, List.foldl_append]
  rfl

/-- The invariant of reading: before line `i` the bit says whether line `i` continues a command. -/
theorem openAfter_take_iff (prompt : Char) {lines : List Text} {i : Nat} (hi : i ≤ lines.length) :
    openAfter prompt false (lines.take i) = true ↔ Continues prompt lines i := by
  induction i with
  | zero =>
    constructor
    · intro h
      exact absurd h Bool.false_ne_true
    · intro h
      exact absurd h (not_continues_zero prompt lines)
  | succ i ih =>
    have hline : lines[i]? = some lines[i] := List.getElem?_eq_getElem hi
    rw [openAfter_take_succ hline, continues_succ_iff hline, leavesOpen, isCommand_classifyLine,
      Bool.and_eq_true, Bool.or_eq_true, isPrompted_iff, endsInBackslash_iff,
      ih (Nat.le_of_succ_le hi), and_comm]

/-! ## Entries and the margin -/

/-- What the entry of line `i` says about it: the kind by where the line stands, and the shell
source that goes with the kind. -/
structure Means (prompt : Char) (lines : List Text) (i : Nat) (line : Text)
    (entry : ClassifiedLine) : Prop where
  command : entry.kind = .command ↔ FirstVisible prompt line
  continuation : entry.kind = .continuation ↔
    ¬ FirstVisible prompt line ∧ Continues prompt lines i
  blank : entry.kind = .blank ↔
    ¬ FirstVisible prompt line ∧ ¬ Continues prompt lines i ∧ line.isBlank = true
  output : entry.kind = .output ↔
    ¬ FirstVisible prompt line ∧ ¬ Continues prompt lines i ∧ line.isBlank = false
  commandBody : entry.kind = .command → ∃ lead rest, line = lead ++ prompt :: rest ∧
    lead.isBlank = true ∧ entry.body = lead ++ ' ' :: rest ∧ entry.body.length = line.length
  continuationBody : entry.kind = .continuation → entry.body = line
  otherBody : entry.kind.isCommand = false → entry.body = []

/-- The entry made with the right bit says what it should. -/
theorem means_classifyLine {prompt : Char} {lines : List Text} {i : Nat} {line : Text}
    {continued : Bool} (h : continued = true ↔ Continues prompt lines i) :
    Means prompt lines i line (classifyLine prompt continued line) := by
  unfold classifyLine
  split
  · next hprompt =>
    have hfirst := isPrompted_iff.mp hprompt
    refine ⟨by simp [hfirst], by simp [hfirst], by simp [hfirst], by simp [hfirst], ?_, by simp,
      by simp [LineKind.isCommand]⟩
    intro _
    obtain ⟨lead, rest, rfl, hlead, hwhite⟩ := hfirst
    refine ⟨lead, rest, rfl, hlead, blankPrompt_append hlead hwhite, ?_⟩
    rw [blankPrompt_append hlead hwhite, List.length_append, List.length_append]
    rfl
  · next hprompt =>
    have hfirst : ¬ FirstVisible prompt line := fun hfirst => hprompt (isPrompted_iff.mpr hfirst)
    split
    · next hopen =>
      have hchain := h.mp hopen
      constructor <;> simp [hfirst, hchain, LineKind.isCommand]
    · next hclosed =>
      have hchain : ¬ Continues prompt lines i := fun hchain => hclosed (h.mpr hchain)
      split
      · next hblank => constructor <;> simp [hfirst, hchain, hblank]
      · next hblank => constructor <;> simp [hfirst, hchain, hblank]

/-- The indentations that the margin is measured on: those of the command bodies that are not
blank. -/
def bodyWidths (entries : List ClassifiedLine) : Set Nat :=
  {width | ∃ entry ∈ entries, entry.kind.isCommand = true ∧ entry.body.isBlank = false ∧
    entry.body.indentWidth = width}

theorem mem_bodyWidths_iff {entries : List ClassifiedLine} {width : Nat} :
    width ∈ bodyWidths entries ↔ width ∈ (sourceBodies entries).map indentWidth := by
  simp only [bodyWidths, sourceBodies, Set.mem_ofPred_eq, List.mem_map, List.mem_filter,
    Bool.and_eq_true, Bool.not_eq_true']
  constructor
  · rintro ⟨entry, hmem, hcmd, hblank, hwidth⟩
    exact ⟨entry.body, ⟨entry, ⟨hmem, hcmd, hblank⟩, rfl⟩, hwidth⟩
  · rintro ⟨body, ⟨entry, ⟨hmem, hcmd, hblank⟩, rfl⟩, hwidth⟩
    exact ⟨entry, hmem, hcmd, hblank, hwidth⟩

/-- The least of the measured indentations, and zero if nothing was measured. -/
theorem isLeast_bodyWidths (entries : List ClassifiedLine) :
    ((bodyWidths entries).Nonempty →
      IsLeast (bodyWidths entries) (((sourceBodies entries).map indentWidth).min?.getD 0)) ∧
    (bodyWidths entries = ∅ → ((sourceBodies entries).map indentWidth).min?.getD 0 = 0) := by
  cases hmin : ((sourceBodies entries).map indentWidth).min? with
  | none =>
    refine ⟨?_, fun _ => rfl⟩
    rintro ⟨width, hwidth⟩
    rw [mem_bodyWidths_iff, List.min?_eq_none_iff.mp hmin] at hwidth
    exact absurd hwidth List.not_mem_nil
  | some least =>
    obtain ⟨hmem, hle⟩ := List.min?_eq_some_iff.mp hmin
    have hleast : least ∈ bodyWidths entries := mem_bodyWidths_iff.mpr hmem
    constructor
    · intro _
      refine ⟨hleast, ?_⟩
      intro width hwidth
      exact hle width (mem_bodyWidths_iff.mp hwidth)
    · intro hempty
      rw [hempty] at hleast
      exact absurd hleast (Set.notMem_empty least)

/-- **Meaning of a transcript.** There is one entry for each line, and it says what the line means.
The margin is the least indentation of the command bodies that are not blank, and zero if there are
none. -/
theorem ofLines_means (prompt : Char) (lines : List Text) :
    (ofLines prompt lines).lines.length = lines.length ∧
      (∀ i line, lines[i]? = some line → ∃ entry, (ofLines prompt lines).lines[i]? = some entry ∧
        Means prompt lines i line entry) ∧
      ((bodyWidths (ofLines prompt lines).lines).Nonempty →
        IsLeast (bodyWidths (ofLines prompt lines).lines) (ofLines prompt lines).margin) ∧
      (bodyWidths (ofLines prompt lines).lines = ∅ → (ofLines prompt lines).margin = 0) := by
  refine ⟨length_classify prompt false lines, ?_, isLeast_bodyWidths _⟩
  intro i line hline
  have hi : i ≤ lines.length := Nat.le_of_lt (List.getElem?_eq_some_iff.mp hline).1
  refine ⟨_, ?_, means_classifyLine (openAfter_take_iff prompt hi)⟩
  rw [ofLines, getElem?_classify, hline]
  rfl

/-- The prompt is a backslash itself. A blank line still continues the command, and output that ends
with a backslash leaves nothing open. -/
theorem ofLines_means_backslash_prompt :
    let lines := ["\\ ls \\ ".toList, "   a \\".toList, [], "out \\".toList, "x".toList]
    lines[2]? = some [] ∧ Means '\\' lines 2 [] ⟨.continuation, []⟩ ∧
      lines[4]? = some "x".toList ∧ Means '\\' lines 4 "x".toList ⟨.output, []⟩ ∧
      2 ∈ bodyWidths (ofLines '\\' lines).lines ∧
      IsLeast (bodyWidths (ofLines '\\' lines).lines) 2 := by
  intro lines
  obtain ⟨-, hlines, hmargin, -⟩ := ofLines_means '\\' lines
  have hentries : (ofLines '\\' lines).lines = [⟨.command, "  ls \\ ".toList⟩,
      ⟨.continuation, "   a \\".toList⟩, ⟨.continuation, []⟩, ⟨.output, []⟩, ⟨.output, []⟩] := by
    decide +kernel
  obtain ⟨third, hthird, hmeans⟩ := hlines 2 [] rfl
  obtain ⟨fifth, hfifth, hmeans'⟩ := hlines 4 "x".toList rfl
  rw [hentries] at hthird hfifth
  have hwidth : 2 ∈ bodyWidths (ofLines '\\' lines).lines := by
    rw [hentries]
    exact ⟨_, List.mem_cons_self, rfl, rfl, rfl⟩
  rw [← Option.some.inj hthird] at hmeans
  rw [← Option.some.inj hfifth] at hmeans'
  have hmargin' : (ofLines '\\' lines).margin = 2 := by decide +kernel
  rw [hmargin'] at hmargin
  exact ⟨rfl, hmeans, rfl, hmeans', hwidth, hmargin ⟨2, hwidth⟩⟩

end Transcript
end TranscriptLint
