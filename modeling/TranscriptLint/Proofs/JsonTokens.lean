import Mathlib.Data.List.Chain
import Mathlib.Data.List.TakeWhile
import TranscriptLint.Json.Reader

namespace TranscriptLint.Json.Reader

/-! # Tokens of a JSON text

The lexer reads a text character by character. What it accepts is said here without the machine:
`Spelling ts t` says that `t` is the tokens `ts` written one after the other, with any blanks between
them.

* `Lexer.Reading l read`: the invariant of the lexer, what a state knows about the text read so far.
* `spelling_of_tokens?`: what the lexer accepts is a spelling of the tokens it gives.
* `tokens?_of_spelling`: a spelling is accepted, and gives its tokens, unless two words stand side by
  side in them. Without a blank those are read as one word.
-/

/-! ## How tokens are written -/

/-- The value of hexadecimal digits. -/
def hexValue? (digits : Text) : Option Nat :=
  digits.foldlM (fun value c => (Text.hexDigit? c).map (16 * value + ·)) 0

/-- How a piece of a string is written: a character as itself or as an escape of one letter, a code
unit as an escape of four digits. -/
inductive PieceSpelled : Piece → Text → Prop where
  | plain {c : Char} (hquote : c ≠ '"') (hescape : c ≠ '\\') (hcontrol : ¬ c < ' ') :
      PieceSpelled (.char c) [c]
  | escape {c d : Char} (h : simpleEscape c = some d) : PieceSpelled (.char d) ['\\', c]
  | unicode {digits : Text} {n : Nat} (hlength : digits.length = 4)
      (h : hexValue? digits = some n) : PieceSpelled (.unit n) ('\\' :: 'u' :: digits)

/-- The text between the quotes of a string, piece by piece. -/
inductive Body : List Piece → Text → Prop where
  | nil : Body [] []
  | cons {p : Piece} {ps : List Piece} {s t : Text} (hpiece : PieceSpelled p s) (hrest : Body ps t) :
      Body (p :: ps) (s ++ t)

/-- How a token is written. -/
inductive TokenSpelled : Token → Text → Prop where
  | mark {c : Char} {tok : Token} (h : markToken c = some tok) : TokenSpelled tok [c]
  | word {w : Text} {tok : Token} (h : wordToken w = some tok) : TokenSpelled tok w
  | string {ps : List Piece} {body : Text} (h : Body ps body) :
      TokenSpelled (.string (decodePieces ps)) ('"' :: body ++ ['"'])

/-- The text is the tokens in order, with blanks before, between and behind them. -/
inductive Spelling : List Token → Text → Prop where
  | nil {blanks : Text} (hblanks : ∀ c ∈ blanks, isBlank c = true) : Spelling [] blanks
  | cons {blanks s t : Text} {tok : Token} {ts : List Token}
      (hblanks : ∀ c ∈ blanks, isBlank c = true) (htoken : TokenSpelled tok s)
      (hrest : Spelling ts t) : Spelling (tok :: ts) (blanks ++ s ++ t)

theorem Body.concat {ps : List Piece} {p : Piece} {s t : Text} (h : Body ps t)
    (hpiece : PieceSpelled p s) : Body (ps ++ [p]) (t ++ s) := by
  induction h with
  | nil => simpa using Body.cons hpiece Body.nil
  | cons hfirst _ ih =>
    rw [List.cons_append, List.append_assoc]
    exact .cons hfirst ih

theorem Spelling.blanks_append {ts : List Token} {blanks t : Text}
    (hblanks : ∀ c ∈ blanks, isBlank c = true) (h : Spelling ts t) : Spelling ts (blanks ++ t) := by
  have hboth : ∀ {more : Text}, (∀ c ∈ more, isBlank c = true) →
      ∀ c ∈ blanks ++ more, isBlank c = true := by
    intro more hmore c hc
    rcases List.mem_append.mp hc with hold | hnew
    · exact hblanks c hold
    · exact hmore c hnew
  cases h with
  | nil hmore => exact .nil (hboth hmore)
  | cons hmore htoken hrest =>
    rw [← List.append_assoc, ← List.append_assoc]
    exact .cons (hboth hmore) htoken hrest

theorem Spelling.append {ts us : List Token} {t u : Text} (h : Spelling ts t)
    (hu : Spelling us u) : Spelling (ts ++ us) (t ++ u) := by
  induction h with
  | nil hblanks => exact hu.blanks_append hblanks
  | cons hblanks htoken _ ih =>
    rw [List.append_assoc _ _ u]
    exact .cons hblanks htoken ih

theorem TokenSpelled.spelling {tok : Token} {s : Text} (h : TokenSpelled tok s) :
    Spelling [tok] s := by
  have hend : Spelling [] [] := .nil (by simp)
  have hspelling : Spelling [tok] ([] ++ s ++ []) := .cons (by simp) h hend
  simpa using hspelling

/-! ## Classes of characters -/

theorem isWordChar_of_isDigit {c : Char} (h : c.isDigit = true) : isWordChar c = true := by
  simp [isWordChar, Char.isAlphanum, h]

theorem isWordChar_eq_false_of_isBlank {c : Char} (h : isBlank c = true) : isWordChar c = false := by
  simp only [isBlank, Bool.or_eq_true, beq_iff_eq] at h
  rcases h with ((rfl | rfl) | rfl) | rfl <;> decide

/-- A mark is neither a blank nor a quote, and it cannot stand in a word. -/
theorem of_markToken {c : Char} {tok : Token} (h : markToken c = some tok) :
    isBlank c = false ∧ c ≠ '"' ∧ isWordChar c = false := by
  unfold markToken at h
  split at h
  case h_7 => exact absurd h (by simp)
  all_goals exact ⟨by decide, by decide, by decide⟩

/-! ## Words -/

/-- What is left of a text behind a part of a number, all of which can stand in a word. -/
def LeavesOf (t rest : Text) : Prop := ∃ part, t = part ++ rest ∧ ∀ c ∈ part, isWordChar c = true

theorem LeavesOf.refl (t : Text) : LeavesOf t t := ⟨[], rfl, by simp⟩

theorem LeavesOf.trans {t u v : Text} (h : LeavesOf t u) (h' : LeavesOf u v) : LeavesOf t v := by
  obtain ⟨part, rfl, hpart⟩ := h
  obtain ⟨part', rfl, hpart'⟩ := h'
  refine ⟨part ++ part', by simp, ?_⟩
  intro c hc
  rcases List.mem_append.mp hc with hold | hnew
  · exact hpart c hold
  · exact hpart' c hnew

theorem LeavesOf.cons {c : Char} {t rest : Text} (hc : isWordChar c = true) (h : LeavesOf t rest) :
    LeavesOf (c :: t) rest :=
  LeavesOf.trans ⟨[c], rfl, by simpa using hc⟩ h

theorem leavesOf_digits? {t rest : Text} (h : digits? t = some rest) :
    t ≠ [] ∧ LeavesOf t rest := by
  unfold digits? at h
  split at h
  · exact absurd h (by simp)
  · next hdigits =>
    have hrest := Option.some.inj h
    subst hrest
    refine ⟨?_, t.takeWhile Char.isDigit, List.takeWhile_append_dropWhile.symm, ?_⟩
    · rintro rfl
      exact hdigits rfl
    · intro c hc
      exact isWordChar_of_isDigit (List.mem_takeWhile_imp hc)

theorem leavesOf_wholePart? {t rest : Text} (h : wholePart? t = some rest) :
    t ≠ [] ∧ LeavesOf t rest := by
  unfold wholePart? at h
  split at h
  · next zero =>
    rw [← Option.some.inj h]
    exact ⟨List.cons_ne_nil _ _, (LeavesOf.refl _).cons (by decide)⟩
  · exact leavesOf_digits? h

theorem leavesOf_fraction? {t rest : Text} (h : fraction? t = some rest) : LeavesOf t rest := by
  unfold fraction? at h
  split at h
  · exact (leavesOf_digits? h).2.cons (by decide)
  · rw [← Option.some.inj h]
    exact LeavesOf.refl t

theorem leavesOf_exponent? {t rest : Text} (h : exponent? t = some rest) : LeavesOf t rest := by
  unfold exponent? at h
  split at h
  · next c after =>
    split at h
    · next hc =>
      have hword : isWordChar c = true := by
        rw [Bool.or_eq_true, beq_iff_eq, beq_iff_eq] at hc
        rcases hc with rfl | rfl <;> decide
      apply LeavesOf.cons hword
      split at h
      · next sign digits =>
        split at h
        · next hsign =>
          have hword' : isWordChar sign = true := by
            rw [Bool.or_eq_true, beq_iff_eq, beq_iff_eq] at hsign
            rcases hsign with rfl | rfl <;> decide
          exact (leavesOf_digits? h).2.cons hword'
        · exact (leavesOf_digits? h).2
      · exact absurd h (by simp)
    · rw [← Option.some.inj h]
      exact LeavesOf.refl _
  · rw [← Option.some.inj h]
    exact LeavesOf.refl _

/-- A number is not empty, and each of its characters can stand in a word. -/
theorem of_isNumber {t : Text} (h : isNumber t = true) : t ≠ [] ∧ ∀ c ∈ t, isWordChar c = true := by
  have hunsigned : ∀ {u : Text}, ((wholePart? u).bind fraction?).bind exponent? = some [] →
      u ≠ [] ∧ ∀ c ∈ u, isWordChar c = true := by
    intro u hu
    obtain ⟨after, hbind, hexponent⟩ := Option.bind_eq_some_iff.mp hu
    obtain ⟨rest, hwhole, hfraction⟩ := Option.bind_eq_some_iff.mp hbind
    obtain ⟨hne, hleaves⟩ := leavesOf_wholePart? hwhole
    obtain ⟨part, hpart, hword⟩ :=
      (hleaves.trans (leavesOf_fraction? hfraction)).trans (leavesOf_exponent? hexponent)
    rw [List.append_nil] at hpart
    subst hpart
    exact ⟨hne, hword⟩
  unfold isNumber at h
  split at h
  · next rest =>
    obtain ⟨-, hrest⟩ := hunsigned (beq_iff_eq.mp h)
    refine ⟨List.cons_ne_nil _ _, ?_⟩
    intro c hc
    rcases List.mem_cons.mp hc with rfl | hmem
    · decide
    · exact hrest c hmem
  · exact hunsigned (beq_iff_eq.mp h)

/-- Whether a token is a word: two of them have to be kept apart. -/
def Token.isWord : Token → Bool
  | .number _ | .null | .bool _ => true
  | _ => false

theorem of_wordToken {w : Text} {tok : Token} (h : wordToken w = some tok) :
    w ≠ [] ∧ (∀ c ∈ w, isWordChar c = true) ∧ tok.isWord = true := by
  unfold wordToken at h
  split_ifs at h with hnull htrue hfalse hnumber
  · rw [← Option.some.inj h, hnull]
    exact ⟨by decide, List.all_eq_true.mp rfl, rfl⟩
  · rw [← Option.some.inj h, htrue]
    exact ⟨by decide, List.all_eq_true.mp rfl, rfl⟩
  · rw [← Option.some.inj h, hfalse]
    exact ⟨by decide, List.all_eq_true.mp rfl, rfl⟩
  · rw [← Option.some.inj h]
    exact ⟨(of_isNumber hnumber).1, (of_isNumber hnumber).2, rfl⟩

/-! ## Spellings are accepted -/

namespace Lexer

/-- The lexer behind a text. -/
def run (l : Lexer) (t : Text) : Option Lexer := t.foldlM step l

theorem run_append (l : Lexer) (t u : Text) : l.run (t ++ u) = (l.run t).bind (run · u) :=
  List.foldlM_append

theorem run_cons (l : Lexer) (c : Char) (t : Text) : l.run (c :: t) = (l.step c).bind (run · t) :=
  rfl

/-- The lexer has read these tokens, newest first: the text may end here, and whatever cannot
lengthen a word is read as behind them. -/
structure Holds (l : Lexer) (done : List Token) : Prop where
  finish : l.finish? = some done.reverse
  next : ∀ c, isWordChar c = false → l.step c = stepBetween done c

theorem holds_between (done : List Token) : Holds ⟨done, .between⟩ done :=
  ⟨rfl, fun _ _ => rfl⟩

theorem holds_word {done : List Token} {read : Text} {tok : Token}
    (h : wordToken read.reverse = some tok) : Holds ⟨done, .word read⟩ (tok :: done) := by
  constructor
  · simp [finish?, h]
  · intro c hc
    simp [step, hc, h]

theorem run_blanks {done : List Token} {blanks : Text} (h : ∀ c ∈ blanks, isBlank c = true) :
    run ⟨done, .between⟩ blanks = some ⟨done, .between⟩ := by
  induction blanks with
  | nil => rfl
  | cons c blanks ih =>
    rw [List.forall_mem_cons] at h
    rw [run_cons, step, stepBetween, if_pos h.1, Option.bind_some]
    exact ih h.2

/-- Blanks end a word. -/
theorem Holds.run_blanks {l : Lexer} {done : List Token} (h : l.Holds done) {blanks : Text}
    (hblanks : ∀ c ∈ blanks, isBlank c = true) :
    l.run blanks = some l ∨ l.run blanks = some ⟨done, .between⟩ := by
  cases blanks with
  | nil => exact .inl rfl
  | cons c blanks =>
    right
    have hc := hblanks c List.mem_cons_self
    rw [run_cons, h.next c (isWordChar_eq_false_of_isBlank hc)]
    exact Lexer.run_blanks hblanks

theorem run_piece {done : List Token} {read : List Piece} {p : Piece} {s : Text}
    (h : PieceSpelled p s) : run ⟨done, .string read⟩ s = some ⟨done, .string (p :: read)⟩ := by
  cases h with
  | plain hquote hescape hcontrol => simp [run, step, hquote, hescape, hcontrol]
  | @escape c d h =>
    have hc : c ≠ 'u' := by
      rintro rfl
      exact absurd h (by simp [simpleEscape])
    simp [run, step, hc, h]
  | @unicode digits n hlength h =>
    match digits, hlength with
    | [a, b, c, d], _ =>
      simp only [hexValue?, List.foldlM_cons, List.foldlM_nil, Option.bind_eq_bind,
        Option.bind_eq_some_iff, Option.map_eq_some_iff] at h
      obtain ⟨_, ⟨w, ha, rfl⟩, _, ⟨x, hb, rfl⟩, _, ⟨y, hc, rfl⟩, _, ⟨z, hd, rfl⟩, hn⟩ := h
      obtain rfl := Option.some.inj hn
      simp [run, step, ha, hb, hc, hd]

theorem run_body {done : List Token} {ps : List Piece} {body : Text} (h : Body ps body) :
    ∀ read, run ⟨done, .string read⟩ body = some ⟨done, .string (ps.reverse ++ read)⟩ := by
  induction h with
  | nil => exact fun read => rfl
  | cons hpiece _ ih =>
    intro read
    rw [run_append, run_piece hpiece, Option.bind_some, ih]
    simp

theorem run_word {done : List Token} {w : Text} (h : ∀ c ∈ w, isWordChar c = true) :
    ∀ read, run ⟨done, .word read⟩ w = some ⟨done, .word (w.reverse ++ read)⟩ := by
  induction w with
  | nil => exact fun read => rfl
  | cons c w ih =>
    intro read
    rw [List.forall_mem_cons] at h
    rw [run_cons, step]
    simp only [h.1, if_true, Option.bind_some]
    rw [ih h.2]
    simp

theorem run_quoted {l : Lexer} {done : List Token} (hl : l.Holds done) {ps : List Piece}
    {body : Text} (h : Body ps body) :
    l.run ('"' :: body ++ ['"']) = some ⟨.string (decodePieces ps) :: done, .between⟩ := by
  have hopen : l.step '"' = some ⟨done, .string []⟩ := hl.next '"' (by decide)
  rw [List.cons_append, run_cons, hopen, Option.bind_some, run_append, run_body h, Option.bind_some]
  simp [run, step]

theorem run_mark {l : Lexer} {done : List Token} (hl : l.Holds done) {c : Char} {tok : Token}
    (h : markToken c = some tok) : l.run [c] = some ⟨tok :: done, .between⟩ := by
  obtain ⟨hblank, hquote, hword⟩ := of_markToken h
  rw [run_cons, hl.next c hword]
  simp [stepBetween, hblank, hquote, hword, h, run]

theorem run_wordToken {done : List Token} {w : Text} {tok : Token} (h : wordToken w = some tok) :
    run ⟨done, .between⟩ w = some ⟨done, .word w.reverse⟩ := by
  obtain ⟨hne, hword, -⟩ := of_wordToken h
  cases w with
  | nil => exact absurd rfl hne
  | cons c w =>
    rw [List.forall_mem_cons] at hword
    have hblank : isBlank c = false := by
      cases hc : isBlank c with
      | false => rfl
      | true => exact absurd hword.1 (by simp [isWordChar_eq_false_of_isBlank hc])
    have hquote : c ≠ '"' := by
      rintro rfl
      exact absurd hword.1 (by decide)
    have hfirst : step ⟨done, .between⟩ c = some ⟨done, .word [c]⟩ := by
      simp [step, stepBetween, hblank, hquote, hword.1]
    rw [run_cons, hfirst, Option.bind_some, run_word hword.2, List.reverse_cons]

/-- A token is read behind what was read before, if it is no word or nothing is open. Behind
anything but a word nothing is open either. -/
theorem exists_run_token {l : Lexer} {done : List Token} (hl : l.Holds done) {tok : Token}
    {s : Text} (h : TokenSpelled tok s) (hapart : tok.isWord = false ∨ l = ⟨done, .between⟩) :
    ∃ l', l.run s = some l' ∧ l'.Holds (tok :: done) ∧
      (tok.isWord = false → l' = ⟨tok :: done, .between⟩) := by
  cases h with
  | mark h => exact ⟨_, run_mark hl h, holds_between _, fun _ => rfl⟩
  | string h => exact ⟨_, run_quoted hl h, holds_between _, fun _ => rfl⟩
  | word h =>
    have hword := (of_wordToken h).2.2
    rcases hapart with hnot | rfl
    · exact absurd hnot (by simp [hword])
    · refine ⟨_, run_wordToken h, holds_word ?_, fun hnot => absurd hnot (by simp [hword])⟩
      rw [List.reverse_reverse]
      exact h

end Lexer

/-- Two words never stand side by side. -/
def Separated (ts : List Token) : Prop :=
  ts.IsChain fun a b => a.isWord = false ∨ b.isWord = false

/-- The lexer reads a spelling from any state that is not in the middle of a word which the first
token could lengthen. -/
theorem Lexer.exists_run_spelling {ts : List Token} {t : Text} (h : Spelling ts t) :
    ∀ {l : Lexer} {done : List Token}, l.Holds done → Separated ts →
      (l = ⟨done, .between⟩ ∨ ∀ tok ∈ ts.head?, tok.isWord = false) →
      ∃ l', l.run t = some l' ∧ l'.Holds (ts.reverse ++ done) := by
  induction h with
  | nil hblanks =>
    intro l done hl _ _
    rcases hl.run_blanks hblanks with hrun | hrun
    · exact ⟨l, hrun, hl⟩
    · exact ⟨_, hrun, holds_between done⟩
  | @cons blanks s t tok ts hblanks htoken _ ih =>
    intro l done hl hsep hapart
    obtain ⟨hnext, hsep'⟩ := List.isChain_cons.mp hsep
    -- blanks before the token leave nothing open, and otherwise it is not a word
    obtain ⟨l₁, hrun₁, hl₁, hapart₁⟩ : ∃ l₁, l.run blanks = some l₁ ∧ l₁.Holds done ∧
        (tok.isWord = false ∨ l₁ = ⟨done, .between⟩) := by
      rcases hl.run_blanks hblanks with hrun | hrun
      · refine ⟨l, hrun, hl, ?_⟩
        rcases hapart with hbetween | hhead
        · exact .inr hbetween
        · exact .inl (hhead tok rfl)
      · exact ⟨_, hrun, holds_between done, .inr rfl⟩
    obtain ⟨l₂, hrun₂, hl₂, hclosed⟩ := exists_run_token hl₁ htoken hapart₁
    have hapart₂ : l₂ = ⟨tok :: done, .between⟩ ∨ ∀ next ∈ ts.head?, next.isWord = false := by
      cases hword : tok.isWord with
      | false => exact .inl (hclosed hword)
      | true =>
        right
        intro next hhead
        rcases hnext next hhead with htok | hnext'
        · exact absurd htok (by simp [hword])
        · exact hnext'
    obtain ⟨l₃, hrun₃, hl₃⟩ := ih hl₂ hsep' hapart₂
    refine ⟨l₃, ?_, ?_⟩
    · rw [run_append, run_append, hrun₁, Option.bind_some, hrun₂, Option.bind_some, hrun₃]
    · rw [List.reverse_cons, List.append_assoc]
      exact hl₃

/-- A spelling in which no two words stand side by side gives its tokens. -/
theorem tokens?_of_spelling {ts : List Token} {t : Text} (h : Spelling ts t)
    (hsep : Separated ts) : tokens? t = some ts := by
  obtain ⟨l, hrun, hl⟩ := Lexer.exists_run_spelling h (Lexer.holds_between []) hsep (.inl rfl)
  have hfinish := hl.finish
  rw [List.append_nil, List.reverse_reverse] at hfinish
  rw [tokens?, ← Lexer.run, hrun, Option.bind_some, hfinish]

/-! ## What is accepted is a spelling -/

/-- What a machine knows about its input, if one step keeps it, holds of the whole input. -/
theorem invariant_foldlM {σ α : Type} {step : σ → α → Option σ} {Knows : σ → List α → Prop}
    (hstep : ∀ {s s' : σ} {read : List α} {a : α}, Knows s read → step s a = some s' →
      Knows s' (read ++ [a]))
    {s s' : σ} {read input : List α} (h : Knows s read) (hrun : input.foldlM step s = some s') :
    Knows s' (read ++ input) := by
  induction input generalizing s read with
  | nil =>
    rw [← Option.some.inj hrun, List.append_nil]
    exact h
  | cons a input ih =>
    obtain ⟨next, hnext, hrest⟩ := Option.bind_eq_some_iff.mp hrun
    rw [List.append_cons]
    exact ih (hstep h hnext) hrest

theorem hexValue?_concat {digits : Text} {value d : Nat} {c : Char}
    (h : hexValue? digits = some value) (hc : Text.hexDigit? c = some d) :
    hexValue? (digits ++ [c]) = some (16 * value + d) := by
  rw [hexValue?] at h
  rw [hexValue?, List.foldlM_append, h]
  simp [hc]

namespace Lexer

/-- What the state of the lexer knows about the text it has read: the tokens are spelled by the
front of the text, and the rest of it is the token that is still open. -/
inductive Reading : Lexer → Text → Prop where
  | between {tokens : List Token} {front : Text} (h : Spelling tokens.reverse front) :
      Reading ⟨tokens, .between⟩ front
  | word {tokens : List Token} {front read : Text} (h : Spelling tokens.reverse front) :
      Reading ⟨tokens, .word read⟩ (front ++ read.reverse)
  | string {tokens : List Token} {front body : Text} {read : List Piece}
      (h : Spelling tokens.reverse front) (hbody : Body read.reverse body) :
      Reading ⟨tokens, .string read⟩ (front ++ '"' :: body)
  | escape {tokens : List Token} {front body : Text} {read : List Piece}
      (h : Spelling tokens.reverse front) (hbody : Body read.reverse body) :
      Reading ⟨tokens, .escape read⟩ (front ++ '"' :: (body ++ ['\\']))
  | unicode {tokens : List Token} {front body digits : Text} {read : List Piece} {value : Nat}
      (h : Spelling tokens.reverse front) (hbody : Body read.reverse body)
      (hlength : digits.length < 4) (hvalue : hexValue? digits = some value) :
      Reading ⟨tokens, .unicode read digits.length value⟩
        (front ++ '"' :: (body ++ '\\' :: 'u' :: digits))

theorem reading_stepBetween {tokens : List Token} {front : Text} {c : Char} {l : Lexer}
    (h : Spelling tokens.reverse front) (hstep : stepBetween tokens c = some l) :
    Reading l (front ++ [c]) := by
  unfold stepBetween at hstep
  split_ifs at hstep with hblank hquote hword
  · rw [← Option.some.inj hstep]
    have hmore : Spelling [] [c] := .nil (by simpa using hblank)
    apply Reading.between
    simpa using h.append hmore
  · rw [← Option.some.inj hstep, hquote]
    exact .string h .nil
  · rw [← Option.some.inj hstep]
    exact .word h
  · obtain ⟨tok, hmark, rfl⟩ := Option.map_eq_some_iff.mp hstep
    apply Reading.between
    rw [List.reverse_cons]
    exact h.append (TokenSpelled.mark hmark).spelling

/-- One character keeps the invariant. -/
theorem Reading.step {l l' : Lexer} {read : Text} {c : Char} (h : Reading l read)
    (hstep : l.step c = some l') : Reading l' (read ++ [c]) := by
  cases h with
  | between h => exact reading_stepBetween h hstep
  | @word tokens front w h =>
    simp only [Lexer.step] at hstep
    split at hstep
    · rw [← Option.some.inj hstep, List.append_assoc, ← List.reverse_cons]
      exact .word h
    · -- the word is over, and the character is read as behind it
      obtain ⟨tok, hword, hnext⟩ := Option.bind_eq_some_iff.mp hstep
      refine reading_stepBetween ?_ hnext
      rw [List.reverse_cons]
      exact h.append (TokenSpelled.word hword).spelling
  | @string tokens front body ps h hbody =>
    simp only [Lexer.step] at hstep
    split_ifs at hstep with hquote hescape hcontrol
    · rw [← Option.some.inj hstep, hquote]
      apply Reading.between
      rw [List.reverse_cons, List.append_assoc]
      exact h.append (TokenSpelled.string hbody).spelling
    · rw [← Option.some.inj hstep, hescape, List.append_assoc]
      exact .escape h hbody
    · rw [← Option.some.inj hstep, List.append_assoc]
      apply Reading.string h
      rw [List.reverse_cons]
      exact hbody.concat (.plain hquote hescape hcontrol)
  | @escape tokens front body ps h hbody =>
    simp only [Lexer.step] at hstep
    rw [List.append_assoc, List.cons_append, List.append_assoc]
    split at hstep
    · next hu =>
      have hvalue : hexValue? [] = some 0 := rfl
      rw [← Option.some.inj hstep, hu]
      exact .unicode h hbody (by decide) hvalue
    · obtain ⟨d, hd, rfl⟩ := Option.map_eq_some_iff.mp hstep
      apply Reading.string h
      rw [List.reverse_cons]
      exact hbody.concat (.escape hd)
  | @unicode tokens front body digits ps value h hbody hlength hvalue =>
    obtain ⟨d, hd, rfl⟩ := Option.map_eq_some_iff.mp hstep
    have hmore := hexValue?_concat hvalue hd
    have hcount : (digits ++ [c]).length = digits.length + 1 := by simp
    rw [List.append_assoc, List.cons_append, List.append_assoc, List.cons_append, List.cons_append]
    split
    · next hlast =>
      apply Reading.string h
      rw [List.reverse_cons]
      exact hbody.concat (.unicode (by omega) hmore)
    · next hlast =>
      rw [← hcount]
      exact .unicode h hbody (by omega) hmore

theorem Reading.run {l l' : Lexer} {read t : Text} (h : Reading l read) (hrun : l.run t = some l') :
    Reading l' (read ++ t) :=
  invariant_foldlM (fun h hstep => h.step hstep) h hrun

theorem Reading.finish {l : Lexer} {read : Text} {ts : List Token} (h : Reading l read)
    (hfinish : l.finish? = some ts) : Spelling ts read := by
  cases h with
  | between h =>
    rw [← Option.some.inj hfinish]
    exact h
  | word h =>
    obtain ⟨tok, hword, rfl⟩ := Option.map_eq_some_iff.mp hfinish
    rw [List.reverse_cons]
    exact h.append (TokenSpelled.word hword).spelling
  | string | escape | unicode => exact absurd hfinish (by simp [finish?])

end Lexer

/-- What the lexer accepts is a spelling of the tokens it gives. -/
theorem spelling_of_tokens? {ts : List Token} {t : Text} (h : tokens? t = some ts) :
    Spelling ts t := by
  obtain ⟨l, hrun, hfinish⟩ := Option.bind_eq_some_iff.mp h
  have hstart : Lexer.Reading ⟨[], .between⟩ [] := .between (.nil (by simp))
  exact (hstart.run hrun).finish hfinish

end TranscriptLint.Json.Reader
