import TranscriptLint.Json.Writer
import TranscriptLint.Proofs.Decimal
import TranscriptLint.Proofs.JsonText

namespace TranscriptLint.Json

open Reader

/-! # Written JSON

What the writer gives is a JSON text of the value it was given, at every level of nesting. Strings
may hold any characters: what has to be escaped is escaped.

* `Writable v`: the values that have a text, which are all but those read from half a surrogate pair
  or with a literal that is no number.
* `tokenSpelled_quote`: a quoted string is a token that stands for the string.
* `read?_pretty`: reading is inverse to writing.
-/

/-- A value that can be written: its literals are numbers, and its strings and keys stand for
texts. -/
inductive Writable : Json → Prop where
  | null : Writable .null
  | bool (b : Bool) : Writable (.bool b)
  | number {literal : Text} (h : isNumber literal = true) : Writable (.number literal)
  | string (t : Text) : Writable (.string t)
  | array {items : List Json} (h : ∀ v ∈ items, Writable v) : Writable (.array items)
  | object {members : List (Option Text × Json)} (hkeys : ∀ m ∈ members, m.1 ≠ none)
      (h : ∀ m ∈ members, Writable m.2) : Writable (.object members)

/-! ## Numbers -/

/-- Digits that do not start with zero are the whole part of a number, and nothing follows it. -/
theorem wholePart?_of_digits {c : Char} {rest : Text} (hzero : c ≠ '0')
    (h : ∀ d ∈ c :: rest, d.isDigit = true) : wholePart? (c :: rest) = some [] := by
  have hfirst : c.isDigit = true := h c List.mem_cons_self
  have hend : (c :: rest).dropWhile Char.isDigit = [] := List.dropWhile_eq_nil_iff.mpr h
  unfold wholePart?
  split
  · next heq => exact absurd (List.cons.inj heq).1 hzero
  · rw [digits?, hend, List.takeWhile_cons_of_pos hfirst]
    rfl

theorem isNumber_ofNat (n : Nat) : isNumber (Text.ofNat n) = true := by
  cases n with
  | zero => rfl
  | succ n =>
    obtain ⟨c, rest, hdigits⟩ := List.exists_cons_of_ne_nil (Text.ofNat_ne_nil (n + 1))
    have hall : ∀ d ∈ c :: rest, d.isDigit = true := by
      intro d hd
      rw [← hdigits] at hd
      exact Text.isDigit_of_mem_ofNat hd
    have hminus : c ≠ '-' := by
      rintro rfl
      exact absurd (hall _ List.mem_cons_self) (by decide)
    have hzero : c ≠ '0' := by
      rintro rfl
      exact Text.head?_ofNat_ne_zero (Nat.succ_pos n) (by rw [hdigits]; rfl)
    rw [hdigits]
    unfold isNumber
    split
    · next heq => exact absurd (List.cons.inj heq).1 hminus
    · simp only [wholePart?_of_digits hzero hall]
      rfl

/-- A number is none of the names. -/
theorem wordToken_of_isNumber {literal : Text} (h : isNumber literal = true) :
    wordToken literal = some (.number literal) := by
  have hname : ∀ name : Text, isNumber name = false → literal ≠ name := by
    rintro name hnot rfl
    rw [h] at hnot
    exact absurd hnot (by decide)
  have hnull := hname "null".toList rfl
  have htrue := hname "true".toList rfl
  have hfalse := hname "false".toList rfl
  rw [wordToken, if_neg hnull, if_neg htrue, if_neg hfalse, if_pos h]

theorem writable_ofNat (n : Nat) : Writable (.ofNat n) := .number (isNumber_ofNat n)

/-! ## Strings -/

/-- A code unit that is not half of a surrogate pair stands for itself, whatever follows. -/
theorem decodePieces_unit {n : Nat} (hhigh : isHighSurrogate n = false)
    (hlow : isLowSurrogate n = false) (ps : List Piece) :
    decodePieces (.unit n :: ps) = (decodePieces ps).map (Char.ofNat n :: ·) := by
  match ps with
  | [] | .char _ :: _ | .unit _ :: _ => simp [decodePieces, hhigh, hlow]

theorem hexDigit?_hexDigit {n : Nat} (h : n < 16) :
    Text.hexDigit? (Writer.hexDigit n) = some n := by
  have hall : ∀ k < 16, Text.hexDigit? (Writer.hexDigit k) = some k := by decide
  exact hall n h

/-- A character is written as one piece of a string, which stands for it. -/
theorem exists_piece (c : Char) : ∃ p, PieceSpelled p (Writer.escapeChar c) ∧
    ∀ ps, decodePieces (p :: ps) = (decodePieces ps).map (c :: ·) := by
  have hchar : ∀ ps, decodePieces (.char c :: ps) = (decodePieces ps).map (c :: ·) := by
    intro ps
    rw [decodePieces]
  unfold Writer.escapeChar
  split_ifs with hquote hbackslash hfeed hreturn htab hback hform hcontrol
  · exact ⟨.char c, .escape (by rw [hquote]; rfl), hchar⟩
  · exact ⟨.char c, .escape (by rw [hbackslash]; rfl), hchar⟩
  · exact ⟨.char c, .escape (by rw [hfeed]; rfl), hchar⟩
  · exact ⟨.char c, .escape (by rw [hreturn]; rfl), hchar⟩
  · exact ⟨.char c, .escape (by rw [htab]; rfl), hchar⟩
  · exact ⟨.char c, .escape (by rw [hback]; rfl), hchar⟩
  · exact ⟨.char c, .escape (by rw [hform]; rfl), hchar⟩
  · -- the other control characters are below U+0020, so two of the four digits are zeros
    have hlt : c.toNat < 32 := hcontrol
    have hvalue : hexValue? ['0', '0', Writer.hexDigit (c.toNat / 16),
        Writer.hexDigit (c.toNat % 16)] = some c.toNat := by
      simp [hexValue?, hexDigit?_hexDigit (show c.toNat / 16 < 16 by omega),
        hexDigit?_hexDigit (show c.toNat % 16 < 16 by omega),
        show Text.hexDigit? '0' = some 0 from rfl, Nat.div_add_mod]
    have hhigh : isHighSurrogate c.toNat = false := by
      simp only [isHighSurrogate, Bool.and_eq_false_iff, decide_eq_false_iff_not]
      omega
    have hlow : isLowSurrogate c.toNat = false := by
      simp only [isLowSurrogate, Bool.and_eq_false_iff, decide_eq_false_iff_not]
      omega
    refine ⟨.unit c.toNat, .unicode rfl hvalue, fun ps => ?_⟩
    rw [decodePieces_unit hhigh hlow, Char.ofNat_toNat]
  · exact ⟨.char c, .plain hquote hbackslash hcontrol, hchar⟩

/-- The text between the quotes stands for the string. -/
theorem exists_body (t : Text) :
    ∃ ps, Body ps (t.flatMap Writer.escapeChar) ∧ decodePieces ps = some t := by
  induction t with
  | nil => exact ⟨[], .nil, by rw [decodePieces]⟩
  | cons c t ih =>
    obtain ⟨p, hpiece, hstands⟩ := exists_piece c
    obtain ⟨ps, hbody, hdecode⟩ := ih
    refine ⟨p :: ps, .cons hpiece hbody, ?_⟩
    rw [hstands, hdecode, Option.map_some]

theorem tokenSpelled_quote (t : Text) : TokenSpelled (.string (some t)) (Writer.quote t) := by
  obtain ⟨ps, hbody, hdecode⟩ := exists_body t
  rw [← hdecode]
  exact .string hbody

/-! ## Containers -/

namespace Writer

theorem values_eq_map (level : Nat) (items : List Json) :
    values level items = items.map (value level) := by
  induction items with
  | nil => rw [values, List.map_nil]
  | cons v vs ih => rw [values, ih, List.map_cons]

/-- A member as it is written. -/
def member (level : Nat) (m : Option Text × Json) : Text :=
  quote (m.1.getD []) ++ ": ".toList ++ value level m.2

theorem members_eq_map (level : Nat) (ms : List (Option Text × Json)) :
    members level ms = ms.map (member level) := by
  induction ms with
  | nil => rw [members, List.map_nil]
  | cons m ms ih => rw [members, ih, List.map_cons, member]

theorem isBlank_of_mem_newline {level : Nat} {c : Char} (h : c ∈ newline level) :
    Reader.isBlank c = true := by
  rcases List.mem_cons.mp h with rfl | hpad
  · decide
  · rw [List.eq_of_mem_replicate hpad]
    decide

theorem spelling_newline (level : Nat) : Spelling [] (newline level) :=
  .nil fun _ hc => isBlank_of_mem_newline hc

variable {α : Type} {tokens : α → List Token} {text : α → Text}

/-- Items with a comma and a new line between each two of them. -/
theorem spelling_joinWith (level : Nat) {items : List α}
    (h : ∀ a ∈ items, Spelling (tokens a) (text a)) :
    Spelling ([.comma].intercalate (items.map tokens))
      (Text.joinWith (',' :: newline level) (items.map text)) := by
  have hcomma : Spelling [.comma] [','] := (TokenSpelled.mark rfl).spelling
  have hsep : Spelling [.comma] (',' :: newline level) :=
    hcomma.append (spelling_newline level)
  exact Text.rel_intercalate (.nil (by simp)) Spelling.append hsep h

/-- A container is the spellings of its items between its two marks. -/
theorem spelling_enclose {first last : Char} {opening closing : Token}
    (hopening : markToken first = some opening) (hclosing : markToken last = some closing)
    (level : Nat) {items : List α} (h : ∀ a ∈ items, Spelling (tokens a) (text a)) :
    Spelling (opening :: [.comma].intercalate (items.map tokens) ++ [closing])
      (enclose first last level (items.map text)) := by
  have hfirst := (TokenSpelled.mark hopening).spelling
  have hlast := (TokenSpelled.mark hclosing).spelling
  unfold enclose
  split
  · next hempty =>
    rw [List.isEmpty_iff, List.map_eq_nil_iff] at hempty
    subst hempty
    simpa using hfirst.append hlast
  · have hitems := ((spelling_newline (level + 1)).append (spelling_joinWith (level + 1) h)).append
      (spelling_newline level)
    simpa using (hfirst.append hitems).append hlast

theorem spelling_member {level : Nat} {m : Option Text × Json} (hkey : m.1 ≠ none)
    (h : IsText m.2 (value level m.2)) : Spelling (tokensOfMember m) (member level m) := by
  obtain ⟨key, v⟩ := m
  obtain ⟨t, rfl⟩ := Option.ne_none_iff_exists'.mp hkey
  have hcolon : Spelling [.colon] [':'] := (TokenSpelled.mark rfl).spelling
  have hblank : Spelling [] [' '] := .nil (by simp [Reader.isBlank])
  exact ((tokenSpelled_quote t).spelling.append (hcolon.append hblank)).append h

end Writer

/-! ## Values -/

/-- What is written for a value is a text of it, at every level of nesting. -/
theorem isText_value {v : Json} (h : Writable v) :
    ∀ level, IsText v (Writer.value level v) := by
  induction h with
  | null => exact fun level => (TokenSpelled.word rfl).spelling
  | bool b => cases b <;> exact fun level => (TokenSpelled.word rfl).spelling
  | @number literal hnumber =>
    intro level
    exact (TokenSpelled.word (wordToken_of_isNumber hnumber)).spelling
  | string t => exact fun level => (tokenSpelled_quote t).spelling
  | @array items _ ih =>
    intro level
    rw [IsText, tokens_array, Writer.value, Writer.values_eq_map]
    exact Writer.spelling_enclose rfl rfl level fun v hv => ih v hv (level + 1)
  | @object members hkeys _ ih =>
    intro level
    rw [IsText, tokens_object, Writer.value, Writer.members_eq_map]
    exact Writer.spelling_enclose rfl rfl level fun m hm =>
      Writer.spelling_member (hkeys m hm) (ih m hm (level + 1))

/-- **Writing JSON.** A value is read back from the text that is written for it. -/
theorem read?_pretty {v : Json} (h : Writable v) : read? (pretty v) = some v :=
  read?_eq_some_iff.mpr (isText_value h 0)

end TranscriptLint.Json
