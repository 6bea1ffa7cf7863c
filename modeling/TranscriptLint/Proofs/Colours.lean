import TranscriptLint.Proofs.Decimal
import TranscriptLint.Proofs.Lines
import TranscriptLint.Render

namespace TranscriptLint

/-! # Colours

A coloured text is the plain one with escape sequences in it. What they are is said here without the
code that puts them in: `Render.unstyled` takes every sequence out of a text, wherever it came from.

* `Render.Shows styled plain`: without its sequences one text is the other, whatever follows it.
  Texts with this relation can be put together piece by piece.
* `Render.shows_entry`: a line of the report.
* `Render.coloured_text_shows_plain`: the lines of a document.
-/

/-- The strings that a line of the report shows. -/
def ReportEntry.strings : ReportEntry → List Text
  | .header document source => [document, source.text]
  | .diagnostic document d => [document, d.code, d.message]

namespace Render

/-! ## Taking sequences out -/

/-- What follows the escape sequence that a text begins with. A sequence begins with an escape
character and a bracket and ends with the next `m`. -/
def afterSequence? : Text → Option Text
  | '\x1b' :: '[' :: t => if 'm' ∈ t then some (t.dropWhile (· != 'm')).tail else none
  | _ => none

theorem length_lt_of_afterSequence? {t rest : Text} (h : afterSequence? t = some rest) :
    rest.length < t.length := by
  unfold afterSequence? at h
  split at h
  · next t =>
    split at h
    · have hdrop := (List.dropWhile_suffix (l := t) (· != 'm')).length_le
      rw [← Option.some.inj h, List.length_tail]
      simp only [List.length_cons]
      omega
    · exact absurd h (by simp)
  · exact absurd h (by simp)

/-- The text without its escape sequences. -/
def unstyled : Text → Text
  | [] => []
  | c :: t =>
    match _h : afterSequence? (c :: t) with
    | some rest => unstyled rest
    | none => c :: unstyled t
termination_by t => t.length
decreasing_by
  · exact length_lt_of_afterSequence? _h
  · exact Nat.lt_succ_self _

theorem unstyled_of_afterSequence? {t rest : Text} (h : afterSequence? t = some rest) :
    unstyled t = unstyled rest := by
  cases t with
  | nil => exact absurd h (by simp [afterSequence?])
  | cons c t =>
    rw [unstyled]
    split
    · next rest' h' => rw [Option.some.inj (h'.symm.trans h)]
    · next h' => exact absurd (h'.symm.trans h) (by simp)

/-- Only an escape character begins a sequence. -/
theorem unstyled_cons {c : Char} (h : c ≠ '\x1b') (t : Text) :
    unstyled (c :: t) = c :: unstyled t := by
  have hnone : afterSequence? (c :: t) = none := by
    unfold afterSequence?
    split
    · next heq => exact absurd (List.cons.inj heq).1 h
    · rfl
  rw [unstyled]
  split
  · next h' => exact absurd (hnone.symm.trans h') (by simp)
  · rfl

/-! ## Styled texts -/

/-- Without its sequences `styled` is `plain`, and no sequence that begins in it goes on behind
it. -/
def Shows (styled plain : Text) : Prop :=
  ∀ rest, unstyled (styled ++ rest) = plain ++ unstyled rest

theorem Shows.unstyled_eq {styled plain : Text} (h : Shows styled plain) :
    unstyled styled = plain := by
  have hend : unstyled [] = [] := by rw [unstyled]
  have hnil := h []
  rw [hend, List.append_nil, List.append_nil] at hnil
  exact hnil

theorem Shows.append {styled styled' plain plain' : Text} (h : Shows styled plain)
    (h' : Shows styled' plain') : Shows (styled ++ styled') (plain ++ plain') := by
  intro rest
  rw [List.append_assoc, h, h', List.append_assoc]

/-- A text without an escape character is already plain. -/
theorem shows_self {t : Text} (h : '\x1b' ∉ t) : Shows t t := by
  intro rest
  induction t with
  | nil => rfl
  | cons c t ih =>
    rw [List.mem_cons, not_or] at h
    rw [List.cons_append, unstyled_cons (Ne.symm h.1), ih h.2, List.cons_append]

/-- A sequence shows nothing. -/
theorem shows_sequence {code : Text} (h : 'm' ∉ code) : Shows (escape ++ code ++ ['m']) [] := by
  intro rest
  have hcode : ∀ c ∈ code, (c != 'm') = true := by
    intro c hc
    exact bne_iff_ne.mpr fun heq => h (heq ▸ hc)
  have hdrop : (code ++ 'm' :: rest).dropWhile (· != 'm') = 'm' :: rest := by
    rw [List.dropWhile_append_of_pos hcode]
    rfl
  have hafter : afterSequence? (escape ++ code ++ ['m'] ++ rest) = some rest := by
    simp [escape, afterSequence?, hdrop]
  rw [unstyled_of_afterSequence? hafter, List.nil_append]

theorem restyle_of_not_mem {mark t : Text} (h : '\x1b' ∉ t) : restyle mark 0 t = t := by
  induction t with
  | nil => rfl
  | cons c t ih =>
    rw [List.mem_cons, not_or] at h
    have hreset : Text.startsWith (c :: t) reset = false := by
      simp [Text.startsWith, reset, escape, List.isPrefixOf, h.1]
    rw [restyle, hreset, ih h.2]
    rfl

/-- A text in a style shows the text. -/
theorem shows_paint {code : String} (hcode : 'm' ∉ code.toList) {t : Text} (h : '\x1b' ∉ t) :
    Shows (paint true code t) (paint false code t) := by
  have hbegin : Shows (style code) [] := shows_sequence hcode
  have hend : Shows reset [] := shows_sequence (show 'm' ∉ ['0'] by decide)
  have hwhole := (hbegin.append (shows_self h)).append hend
  rw [List.nil_append, List.append_nil] at hwhole
  rw [paint, if_pos rfl, restyle_of_not_mem h]
  exact hwhole

/-! ## Lines of the report -/

/-- Without colours a line is shown as it is written. -/
theorem entry_false : entry false = ReportEntry.text := by
  funext e
  cases e with
  | header document source => rfl
  | diagnostic document d => simp [entry, paint, ReportEntry.text]

theorem shows_entry {e : ReportEntry} (h : ∀ t ∈ e.strings, '\x1b' ∉ t) :
    Shows (entry true e) e.text := by
  rw [← entry_false]
  have hnumber : ∀ n, '\x1b' ∉ Text.ofNat n := Text.not_mem_ofNat (by decide)
  cases e with
  | header document source =>
    simp only [ReportEntry.strings, List.forall_mem_cons] at h
    obtain ⟨hdocument, hsource, -⟩ := h
    exact (shows_self hdocument)
      |>.append (shows_self (by decide)) |>.append (shows_paint (by decide) hsource)
  | diagnostic document d =>
    simp only [ReportEntry.strings, List.forall_mem_cons] at h
    obtain ⟨hdocument, hcode, hmessage, -⟩ := h
    have hbracket : '\x1b' ∉ "[".toList ++ d.code ++ "]".toList := by simp [hcode]
    exact (shows_self hdocument)
      |>.append (shows_self (by decide)) |>.append (shows_paint (by decide) (hnumber d.line))
      |>.append (shows_self (by decide)) |>.append (shows_paint (by decide) (hnumber d.column))
      |>.append (shows_self (by decide)) |>.append (shows_paint (by decide) hbracket)
      |>.append (shows_self (by decide)) |>.append (shows_self hmessage)

theorem shows_joinWith {es : List ReportEntry} (h : ∀ e ∈ es, Shows (entry true e) e.text) :
    Shows (Text.joinWith "\n".toList (es.map (entry true)))
      (Text.joinWith "\n".toList (es.map ReportEntry.text)) := by
  have hend : Shows "\n".toList "\n".toList := shows_self (by decide)
  exact Text.rel_intercalate (shows_self List.not_mem_nil) Shows.append hend h

/-- **Coloured and plain text agree.** If no string that a document shows holds an escape character,
its coloured lines without their escape sequences are exactly its plain lines. These are the lines
of the report, with a line feed between each two of them. -/
theorem coloured_text_shows_plain (r : DocumentResult)
    (h : ∀ e ∈ r.entries, ∀ t ∈ e.strings, '\x1b' ∉ t) :
    unstyled (text true r) = text false r ∧
      text false r = Text.joinWith "\n".toList (r.entries.map ReportEntry.text) := by
  have hplain : text false r = Text.joinWith "\n".toList (r.entries.map ReportEntry.text) := by
    rw [text, entry_false]
  refine ⟨?_, hplain⟩
  rw [hplain]
  exact (shows_joinWith fun e he => shows_entry (h e he)).unstyled_eq

/-- A header, and a diagnostic whose message looks like the end of a sequence and whose code is
empty. -/
theorem coloured_text_shows_plain_bracket :
    let r : DocumentResult := ⟨.ofString "a.rst", 1,
      [.header "a.rst".toList (.ofString "m.py"),
        .diagnostic "a.rst".toList ⟨.ofString "m.py", 3, 10, [], "[0m".toList, .info⟩]⟩
    (∀ e ∈ r.entries, ∀ t ∈ e.strings, '\x1b' ∉ t) ∧
      unstyled (text true r) = "a.rst: m.py\na.rst: Line 3, column 10 []: [0m".toList := by
  intro r
  have hfree : ∀ e ∈ r.entries, ∀ t ∈ e.strings, '\x1b' ∉ t := by decide
  obtain ⟨hcoloured, hplain⟩ := coloured_text_shows_plain r hfree
  refine ⟨hfree, ?_⟩
  rw [hcoloured, hplain]
  decide

end Render
end TranscriptLint
