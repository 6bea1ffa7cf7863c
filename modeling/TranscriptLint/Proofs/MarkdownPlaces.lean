import Mathlib.Data.List.Infix
import TranscriptLint.Markdown.Block

namespace TranscriptLint.Markdown

/-! # Places stay in the text

A place in a Markdown text is what follows it. Every step of the reader goes from a place to a later
one, so what it hands on is a suffix of what it was given. There is one lemma for each recogniser,
and the reader of the block structure is put together from them as its definition is.

* `readBlock_suffix`: a block ends at a later place than it begins.
* `foundIn_of_mem_fencedBlocks`: a fenced block begins at a fence in the text and ends behind it.
-/

/-! ## Line ends and cursors -/

theorem lineEnd?_suffix {t rest : Text} (h : lineEnd? t = some rest) : rest <:+ t := by
  unfold lineEnd? at h
  split at h
  · rw [← Option.some.inj h]
  · rw [← Option.some.inj h]
    exact List.suffix_cons _ _
  · rw [← Option.some.inj h]
    exact (List.suffix_cons _ _).trans (List.suffix_cons _ _)
  · rw [← Option.some.inj h]
    exact List.suffix_cons _ _
  · exact absurd h (by simp)

theorem getD_lineEnd?_suffix (t : Text) : (lineEnd? t).getD [] <:+ t := by
  cases h : lineEnd? t with
  | none => exact List.nil_suffix
  | some rest => exact lineEnd?_suffix h

theorem skipBlanks_suffix (t : Text) : skipBlanks t <:+ t := List.dropWhile_suffix _

theorem blankLine?_suffix {t rest : Text} (h : blankLine? t = some rest) : rest <:+ t :=
  (lineEnd?_suffix h).trans (skipBlanks_suffix t)

theorem getD_blankLine?_suffix (t : Text) : (blankLine? t).getD t <:+ t := by
  cases h : blankLine? t with
  | none => exact List.suffix_rfl
  | some rest => exact blankLine?_suffix h

theorem nextLine_suffix (t : Text) : nextLine t <:+ t :=
  (List.drop_suffix 1 _).trans (List.dropWhile_suffix _)

namespace Cursor

theorem takeFrom_suffix (column n : Nat) (t : Text) : (takeFrom column n t).2.rest <:+ t := by
  induction t generalizing column n with
  | nil => exact List.suffix_rfl
  | cons c rest ih =>
    unfold takeFrom
    split
    · exact List.suffix_rfl
    · split
      · exact (ih _ _).trans (List.suffix_cons _ _)
      · split
        · simp only
          split
          · exact (ih _ _).trans (List.suffix_cons _ _)
          · exact List.suffix_cons _ _
        · exact List.suffix_rfl

theorem take_suffix (n : Nat) (c : Cursor) : (c.take n).2.rest <:+ c.rest := by
  unfold take
  split
  · exact List.suffix_rfl
  · exact takeFrom_suffix _ _ _

theorem takeUpTo_suffix (n : Nat) (c : Cursor) : (c.takeUpTo n).2.rest <:+ c.rest := take_suffix n c

theorem takeAll_suffix (c : Cursor) : c.takeAll.rest <:+ c.rest := List.drop_suffix _ _

theorem advance_suffix (n : Nat) (c : Cursor) : (c.advance n).rest <:+ c.rest :=
  List.drop_suffix _ _

end Cursor

/-! ## How blocks begin -/

theorem thematicBreak?_suffix {t rest : Text} (h : thematicBreak? t = some rest) : rest <:+ t := by
  unfold thematicBreak? at h
  split at h
  · exact absurd h (by simp)
  · split at h
    · simp only at h
      split at h
      · exact (lineEnd?_suffix h).trans (List.drop_suffix _ _)
      · exact absurd h (by simp)
    · exact absurd h (by simp)

theorem headingEnd_suffix (t : Text) : headingEnd t <:+ t := by
  have hdrop : t.drop (runLength '#' t) <:+ t := List.drop_suffix _ _
  simp only [headingEnd]
  cases h : lineEnd? (t.drop (runLength '#' t)) with
  | none => exact (nextLine_suffix _).trans hdrop
  | some rest => exact (lineEnd?_suffix h).trans hdrop

theorem underline?_suffix {t rest : Text} (h : underline? t = some rest) : rest <:+ t := by
  unfold underline? at h
  split at h
  · exact absurd h (by simp)
  · split at h
    · exact (blankLine?_suffix h).trans (List.drop_suffix _ _)
    · exact absurd h (by simp)

theorem closingFence?_suffix {f : FenceMark} {t rest : Text} (h : closingFence? f t = some rest) :
    rest <:+ t := by
  unfold closingFence? at h
  split at h
  · rw [← Option.some.inj h]
    exact List.nil_suffix
  · simp only at h
    split at h
    · rw [← Option.some.inj h]
      exact (List.dropWhile_suffix _).trans (List.drop_suffix _ _)
    · exact absurd h (by simp)

theorem afterMark_suffix (c : Cursor) (indent : Nat) : (afterMark c indent).2.rest <:+ c.rest := by
  unfold afterMark
  split
  · exact List.suffix_rfl
  · simp only
    split
    · exact c.takeUpTo_suffix 4
    · exact List.suffix_rfl

theorem itemStart?_suffix {outer indent : Nat} {c next : Cursor} {m : ListMark}
    (h : itemStart? outer c = some (m, indent, next)) : next.rest <:+ c.rest := by
  unfold itemStart? at h
  split at h
  · exact absurd h (by simp)
  · next mark _ =>
    split at h
    · exact absurd h (by simp)
    · simp only at h
      split at h
      · have hnext := congrArg (fun x => x.2.2.rest) (Option.some.inj h)
        rw [← hnext]
        exact (afterMark_suffix _ _).trans
          ((Cursor.take_suffix 1 _).trans (c.advance_suffix mark.length))
      · exact absurd h (by simp)

theorem definitionStart?_suffix {outer indent : Nat} {c next : Cursor}
    (h : definitionStart? outer c = some (indent, next)) : next.rest <:+ c.rest := by
  have hbehind : ((c.advance 1).take 1).2.rest <:+ c.rest :=
    (Cursor.take_suffix 1 _).trans (c.advance_suffix 1)
  unfold definitionStart? at h
  split at h
  · have hnext := congrArg (fun x => x.2.rest) (Option.some.inj h)
    rw [← hnext]
    simp only
    split
    · exact (afterMark_suffix _ _).trans hbehind
    · exact hbehind
  · exact absurd h (by simp)

theorem taskBox?_suffix {c next : Cursor} (h : taskBox? c = some next) :
    next.rest <:+ c.rest := by
  unfold taskBox? at h
  simp only at h
  split at h
  · split at h
    · rw [← Option.some.inj h]
      exact (Cursor.advance_suffix 3 _).trans (c.takeUpTo_suffix 3)
    · exact absurd h (by simp)
  · exact absurd h (by simp)

theorem quoteMark?_suffix {c next : Cursor} (h : quoteMark? c = some next) :
    next.rest <:+ c.rest := by
  unfold quoteMark? at h
  split at h
  · rw [← Option.some.inj h]
    exact (Cursor.take_suffix 1 _).trans (c.advance_suffix 1)
  · exact absurd h (by simp)

theorem alertTag?_suffix {c : Cursor} {rest : Text} (h : alertTag? c = some rest) :
    rest <:+ c.rest := by
  obtain ⟨tag, -, htag⟩ := List.exists_of_findSome?_eq_some h
  split at htag
  · exact (blankLine?_suffix htag).trans (List.drop_suffix _ _)
  · exact absurd htag (by simp)

/-! ## Containers -/

namespace Container

/-- An item and a definition ask for indentation only. -/
theorem enter?_indent_suffix {indent : Nat} {c next : Cursor}
    (h : (if (c.take indent).1 == 0 || (c.take indent).2.atLineEnd then some (c.take indent).2
      else none) = some next) : next.rest <:+ c.rest := by
  split at h
  · rw [← Option.some.inj h]
    exact c.take_suffix indent
  · exact absurd h (by simp)

theorem enter?_suffix {k : Container} {c next : Cursor} (h : k.enter? c = some next) :
    next.rest <:+ c.rest := by
  cases k with
  | quote => exact (quoteMark?_suffix h).trans (c.take_suffix 3)
  | item indent => exact enter?_indent_suffix h
  | definition indent => exact enter?_indent_suffix h
  | list tight sign => rw [← Option.some.inj h]
  | definitionList => rw [← Option.some.inj h]
  | footnote => rw [← Option.some.inj h]

theorem enterAll_suffix (ks : List Container) (c : Cursor) :
    (enterAll ks c).2.rest <:+ c.rest := by
  induction ks generalizing c with
  | nil => exact List.suffix_rfl
  | cons k ks ih =>
    unfold enterAll
    split
    · exact List.suffix_rfl
    · next next hnext => exact (ih next).trans (enter?_suffix hnext)

theorem enterEvery?_suffix {ks : List Container} {t : Text} {c : Cursor}
    (h : enterEvery? ks t = some c) : c.rest <:+ t := by
  unfold enterEvery? at h
  simp only at h
  split at h
  · rw [← Option.some.inj h]
    exact enterAll_suffix ks (.start t)
  · exact absurd h (by simp)

end Container

/-- The place behind the marks of the open containers and up to four blanks. -/
theorem take_enterAll_suffix (ks : List Container) (t : Text) :
    ((Container.enterAll ks (.start t)).2.take 4).2.rest <:+ t :=
  (Cursor.take_suffix 4 _).trans (Container.enterAll_suffix ks (.start t))

/-! ## Labels -/

theorem labelSpace?_suffix {pass : Text → Option Text} {t rest : Text}
    (hpass : ∀ u v, pass u = some v → v <:+ u) (h : labelSpace? pass t = some rest) :
    rest <:+ t := by
  unfold labelSpace? at h
  simp only at h
  split at h
  · simp only [bind, Option.bind_eq_some_iff] at h
    obtain ⟨line, hline, hnext⟩ := h
    split at hnext
    · exact absurd hnext (by simp)
    · rw [← Option.some.inj hnext]
      calc skipBlanks line
          <:+ line := skipBlanks_suffix line
        _ <:+ (lineEnd? (skipBlanks t)).getD [] := hpass _ _ hline
        _ <:+ skipBlanks t := getD_lineEnd?_suffix _
        _ <:+ t := skipBlanks_suffix t
  · rw [← Option.some.inj h]
    exact skipBlanks_suffix t

theorem labelEnd?_suffix {pass : Text → Option Text} (hpass : ∀ u v, pass u = some v → v <:+ u)
    {fuel size : Nat} {isBlank : Bool} {t rest : Text}
    (h : labelEnd? pass fuel size isBlank t = some rest) : rest <:+ t := by
  induction fuel generalizing size isBlank t with
  | zero => exact absurd h (by simp [labelEnd?])
  | succ fuel ih =>
    unfold labelEnd? at h
    split at h
    · exact absurd h (by simp)
    · split at h
      · exact absurd h (by simp)
      · next c after =>
        split at h
        · exact absurd h (by simp)
        · split at h
          · -- the closing bracket
            split at h
            · exact absurd h (by simp)
            · rw [← Option.some.inj h]
              exact List.suffix_cons _ _
          · split at h
            · exact (ih h).trans ((List.drop_suffix 1 after).trans (List.suffix_cons _ _))
            · split at h
              · simp only [bind, Option.bind_eq_some_iff] at h
                obtain ⟨next, hnext, hrest⟩ := h
                exact (ih hrest).trans (labelSpace?_suffix hpass hnext)
              · exact (ih h).trans (List.suffix_cons _ _)

theorem label?_suffix {pass : Text → Option Text} (hpass : ∀ u v, pass u = some v → v <:+ u)
    {t rest : Text} (h : label? pass t = some rest) : rest <:+ t :=
  labelEnd?_suffix hpass h

theorem labelBreak?_suffix (s : Surroundings) (t rest : Text) (h : labelBreak? s t = some rest) :
    rest <:+ t := by
  have hcursor := take_enterAll_suffix s.containers t
  unfold labelBreak? at h
  simp only at h
  split at h
  · rw [← Option.some.inj h]
    exact hcursor
  · split at h
    · exact absurd h (by simp)
    · rw [← Option.some.inj h]
      exact hcursor

/-! ## Paragraphs and tables -/

theorem followingLine?_suffix {t rest : Text} (h : followingLine? t = some rest) : rest <:+ t := by
  unfold followingLine? at h
  split at h
  · exact absurd h (by simp)
  · exact (lineEnd?_suffix h).trans (List.dropWhile_suffix _)

theorem followingLine_suffix (t : Text) : followingLine t <:+ t := by
  unfold followingLine
  cases h : followingLine? t with
  | none => exact List.nil_suffix
  | some rest => exact followingLine?_suffix h

theorem paragraphEnd_suffix (s : Surroundings) (fuel : Nat) (t : Text) :
    (paragraphEnd s fuel t).2 <:+ t := by
  induction fuel generalizing t with
  | zero => exact List.suffix_rfl
  | succ fuel ih =>
    have hcursor := take_enterAll_suffix s.containers t
    unfold paragraphEnd
    simp only
    split
    · next after hunder =>
      split at hunder
      · exact (underline?_suffix hunder).trans hcursor
      · exact absurd hunder (by simp)
    · split
      · exact List.suffix_rfl
      · calc _ <:+ _ := ih _
          _ <:+ _ := followingLine_suffix _
          _ <:+ _ := Cursor.takeAll_suffix _
          _ <:+ t := hcursor

theorem tableEnd_suffix (s : Surroundings) (fuel : Nat) (t : Text) : tableEnd s fuel t <:+ t := by
  induction fuel generalizing t with
  | zero => exact List.suffix_rfl
  | succ fuel ih =>
    unfold tableEnd
    split
    · exact List.suffix_rfl
    · next c hc =>
      simp only
      split
      · exact List.suffix_rfl
      · calc _ <:+ _ := ih _
          _ <:+ _ := followingLine_suffix _
          _ <:+ _ := c.takeAll_suffix
          _ <:+ t := Container.enterEvery?_suffix hc

theorem readParagraph_suffix (s : Surroundings) (t : Text) : (readParagraph s t).2 <:+ t := by
  unfold readParagraph
  split
  · exact (tableEnd_suffix _ _ _).trans
      ((followingLine_suffix _).trans (followingLine_suffix _))
  · exact (paragraphEnd_suffix _ _ _).trans (followingLine_suffix t)

/-! ## Link reference definitions -/

theorem partSpace?_suffix {s : Surroundings} {t rest : Text} {broken : Bool}
    (h : partSpace? s t = some (rest, broken)) : rest <:+ t := by
  unfold partSpace? at h
  simp only at h
  split at h
  · obtain ⟨rfl, -⟩ := Prod.mk.inj (Option.some.inj h)
    exact skipBlanks_suffix t
  · next next hnext =>
    split at h
    · exact absurd h (by simp)
    · split at h
      · exact absurd h (by simp)
      · obtain ⟨rfl, -⟩ := Prod.mk.inj (Option.some.inj h)
        calc _ <:+ _ := skipBlanks_suffix _
          _ <:+ next := take_enterAll_suffix s.containers next
          _ <:+ skipBlanks t := lineEnd?_suffix hnext
          _ <:+ t := skipBlanks_suffix t

theorem pointyDestination?_suffix {t rest : Text} (h : pointyDestination? t = some rest) :
    rest <:+ t := by
  fun_induction pointyDestination? t with
  | case1 => exact absurd h (by simp)
  | case2 c after hc ih =>
    exact (ih h).trans ((List.suffix_cons _ _).trans (List.suffix_cons _ _))
  | case3 c after hc ih => exact (ih h).trans (List.suffix_cons _ _)
  | case4 c after _ hc =>
    rw [← Option.some.inj h]
    exact List.suffix_cons _ _
  | case5 => exact absurd h (by simp)
  | case6 c after _ _ _ ih => exact (ih h).trans (List.suffix_cons _ _)

theorem plainDestination?_suffix {depth : Nat} {t rest : Text}
    (h : plainDestination? depth t = some rest) : rest <:+ t := by
  fun_induction plainDestination? depth t with
  | case1 => rw [← Option.some.inj h]
  | case2 => exact absurd h (by simp)
  | case3 depth c after hc ih =>
    exact (ih h).trans ((List.suffix_cons _ _).trans (List.suffix_cons _ _))
  | case4 depth c after hc ih => exact (ih h).trans (List.suffix_cons _ _)
  | case5 => rw [← Option.some.inj h]
  | case6 => exact absurd h (by simp)
  | case7 => exact absurd h (by simp)
  | case8 depth c after _ _ _ _ ih => exact (ih h).trans (List.suffix_cons _ _)
  | case9 => rw [← Option.some.inj h]
  | case10 depth c after _ _ _ _ _ ih => exact (ih h).trans (List.suffix_cons _ _)
  | case11 depth c after _ _ _ _ ih => exact (ih h).trans (List.suffix_cons _ _)

theorem destination?_suffix {t rest : Text} (h : destination? t = some rest) : rest <:+ t := by
  unfold destination? at h
  split at h
  · exact (pointyDestination?_suffix h).trans (List.suffix_cons _ _)
  · exact plainDestination?_suffix (Option.filter_eq_some_iff.mp h).1

theorem titleEnd?_suffix {s : Surroundings} {close : Char} {fuel : Nat} {t rest : Text}
    (h : titleEnd? s close fuel t = some rest) : rest <:+ t := by
  induction fuel generalizing t with
  | zero => exact absurd h (by simp [titleEnd?])
  | succ fuel ih =>
    unfold titleEnd? at h
    split at h
    · exact absurd h (by simp)
    · next c after =>
      split at h
      · rw [← Option.some.inj h]
        exact List.suffix_cons _ _
      · split at h
        · exact absurd h (by simp)
        · split at h
          · -- the title goes on in the next line
            simp only at h
            split at h
            · exact absurd h (by simp)
            · split at h
              · exact absurd h (by simp)
              · calc _ <:+ _ := ih h
                  _ <:+ _ := Cursor.takeAll_suffix _
                  _ <:+ _ := take_enterAll_suffix s.containers _
                  _ <:+ _ := getD_lineEnd?_suffix _
          · split at h
            · split at h
              · next d after' =>
                have hskip : (if d == '\n' || d == '\r' then d :: after' else after') <:+
                    d :: after' := by
                  split
                  · exact List.suffix_rfl
                  · exact List.suffix_cons _ _
                exact (ih h).trans (hskip.trans (List.suffix_cons _ _))
              · exact absurd h (by simp)
            · exact (ih h).trans (List.suffix_cons _ _)

theorem title?_suffix {s : Surroundings} {t rest : Text} (h : title? s t = some rest) :
    rest <:+ t := by
  unfold title? at h
  split at h
  · exact (titleEnd?_suffix h).trans (List.suffix_cons _ _)
  · exact (titleEnd?_suffix h).trans (List.suffix_cons _ _)
  · exact (titleEnd?_suffix h).trans (List.suffix_cons _ _)
  · exact absurd h (by simp)

theorem afterDestination?_suffix {s : Surroundings} {t rest : Text}
    (h : afterDestination? s t = some rest) : rest <:+ t := by
  unfold afterDestination? at h
  split at h
  · rw [← Option.some.inj h]
  · next next broken hspace =>
    split at h
    · exact absurd h (by simp)
    · split at h
      · next after htitle =>
        rw [← Option.some.inj h]
        exact (title?_suffix (Option.filter_eq_some_iff.mp htitle).1).trans
          (partSpace?_suffix hspace)
      · split at h
        · rw [← Option.some.inj h]
        · exact absurd h (by simp)

theorem reference?_suffix {s : Surroundings} {t rest : Text} (h : reference? s t = some rest) :
    rest <:+ t := by
  unfold reference? at h
  split at h
  · next label =>
    simp only [bind, Option.bind_eq_some_iff] at h
    obtain ⟨behind, hlabel, h⟩ := h
    split at h
    · next after =>
      simp only [Option.bind_eq_some_iff] at h
      obtain ⟨⟨next, broken⟩, hspace, destination, hdestination, hrest⟩ := h
      calc rest
          <:+ destination := afterDestination?_suffix hrest
        _ <:+ next := destination?_suffix hdestination
        _ <:+ after := partSpace?_suffix hspace
        _ <:+ ':' :: after := List.suffix_cons _ _
        _ <:+ label := label?_suffix (labelBreak?_suffix s) hlabel
        _ <:+ '[' :: label := List.suffix_cons _ _
    · exact absurd h (by simp)
  · exact absurd h (by simp)

/-! ## Opening containers -/

theorem putParagraph_suffix (r : Reader) (t : Text) : (putParagraph r t).2 <:+ t :=
  readParagraph_suffix _ t

theorem openFootnote?_suffix {r r' : Reader} {t rest : Text}
    (h : openFootnote? r t = some (r', rest)) : rest <:+ t := by
  unfold openFootnote? at h
  split at h
  · next label =>
    simp only [bind, Option.bind_eq_some_iff] at h
    obtain ⟨behind, hlabel, h⟩ := h
    split at h
    · next after =>
      obtain ⟨-, rfl⟩ := Prod.mk.inj (Option.some.inj h)
      calc after
          <:+ ':' :: after := List.suffix_cons _ _
        _ <:+ label := label?_suffix (labelBreak?_suffix _) hlabel
        _ <:+ '^' :: label := List.suffix_cons _ _
        _ <:+ '[' :: '^' :: label := List.suffix_cons _ _
    · exact absurd h (by simp)
  · exact absurd h (by simp)

/-- The place at which reading goes on. -/
def Opened.rest : Opened → Text
  | .done _ rest => rest
  | .content _ c => c.rest

theorem afterAlert_suffix (r : Reader) (t : Text) : (afterAlert r t).rest <:+ t := by
  unfold afterAlert
  simp only
  split
  · exact List.suffix_rfl
  · exact (Cursor.takeAll_suffix _).trans (take_enterAll_suffix r.containers t)

theorem openContainers_suffix (fuel : Nat) (r : Reader) (c : Cursor) :
    (openContainers fuel r c).rest <:+ c.rest := by
  induction fuel generalizing r c with
  | zero => exact List.suffix_rfl
  | succ fuel ih =>
    have hinner := c.takeUpTo_suffix 4
    unfold openContainers
    simp only
    split
    · exact List.suffix_rfl
    · split
      · next r' after hfoot => exact (ih _ _).trans ((openFootnote?_suffix hfoot).trans hinner)
      · next m indent next _ hitem =>
        have hnext : next.rest <:+ c.rest := (itemStart?_suffix hitem).trans hinner
        split
        · next rest hblank => exact (blankLine?_suffix hblank).trans hnext
        · split
          · exact (ih _ _).trans hnext
          · next boxed hbox =>
            have hboxed : boxed.rest <:+ c.rest := (taskBox?_suffix hbox).trans hnext
            split
            · next rest hblank => exact (blankLine?_suffix hblank).trans hboxed
            · exact (putParagraph_suffix _ _).trans hboxed
      · split
        · next indent next hdefinition =>
          split at hdefinition
          · have hnext : next.rest <:+ c.rest := (definitionStart?_suffix hdefinition).trans hinner
            split
            · next rest hblank => exact (blankLine?_suffix hblank).trans hnext
            · exact (ih _ _).trans hnext
          · exact absurd hdefinition (by simp)
        · split
          · exact List.suffix_rfl
          · next next hquote =>
            have hnext : next.rest <:+ c.rest := (quoteMark?_suffix hquote).trans hinner
            split
            · next rest halert =>
              exact (afterAlert_suffix _ _).trans ((alertTag?_suffix halert).trans hnext)
            · exact (ih _ _).trans hnext

/-! ## Blocks without containers -/

theorem indentedEnd_suffix (containers : List Container) (fuel : Nat) (blank : Bool) (t : Text) :
    (indentedEnd containers fuel blank t).2 <:+ t := by
  induction fuel generalizing blank t with
  | zero => exact List.suffix_rfl
  | succ fuel ih =>
    unfold indentedEnd
    simp only
    split
    · exact nextLine_suffix t
    · next c hc =>
      split
      · exact nextLine_suffix t
      · calc _ <:+ _ := ih _ _
          _ <:+ c.rest := c.take_suffix 4
          _ <:+ nextLine t := Container.enterEvery?_suffix hc
          _ <:+ t := nextLine_suffix t

theorem metadataClose?_suffix {mark : Char} {t rest : Text}
    (h : metadataClose? mark t = some rest) : rest <:+ t := by
  unfold metadataClose? at h
  split at h
  · obtain ⟨-, -, rfl⟩ := Option.map_eq_some_iff.mp h
    exact (List.dropWhile_suffix _).trans (List.drop_suffix _ _)
  · exact absurd h (by simp)

theorem metadataEnd_suffix (containers : List Container) (mark : Char) (fuel : Nat) (t : Text) :
    metadataEnd containers mark fuel t <:+ t := by
  induction fuel generalizing t with
  | zero => exact List.suffix_rfl
  | succ fuel ih =>
    unfold metadataEnd
    split
    · exact getD_blankLine?_suffix t
    · next c hc =>
      split
      · next rest hclose => exact (getD_blankLine?_suffix rest).trans (metadataClose?_suffix hclose)
      · calc _ <:+ _ := ih _
          _ <:+ c.rest := nextLine_suffix _
          _ <:+ t := Container.enterEvery?_suffix hc

theorem markedHtmlEnd_suffix (containers : List Container) (mark : Text) (fuel : Nat) (t : Text) :
    markedHtmlEnd containers mark fuel t <:+ t := by
  induction fuel generalizing t with
  | zero => exact List.suffix_rfl
  | succ fuel ih =>
    unfold markedHtmlEnd
    simp only
    split
    · exact nextLine_suffix t
    · next c hc =>
      split
      · exact nextLine_suffix t
      · exact (ih _).trans ((Container.enterEvery?_suffix hc).trans (nextLine_suffix t))

theorem plainHtmlEnd_suffix (containers : List Container) (fuel : Nat) (t : Text) :
    plainHtmlEnd containers fuel t <:+ t := by
  induction fuel generalizing t with
  | zero => exact List.suffix_rfl
  | succ fuel ih =>
    unfold plainHtmlEnd
    simp only
    split
    · exact nextLine_suffix t
    · next c hc =>
      split
      · exact nextLine_suffix t
      · exact (ih _).trans ((Container.enterEvery?_suffix hc).trans (nextLine_suffix t))

theorem html?_suffix {containers : List Container} {t rest : Text}
    (h : html? containers t = some rest) : rest <:+ t := by
  unfold html? at h
  split at h
  · split at h
    · rw [← Option.some.inj h]
      exact markedHtmlEnd_suffix _ _ _ _
    · split at h
      · rw [← Option.some.inj h]
        exact plainHtmlEnd_suffix _ _ _
      · exact absurd h (by simp)
  · exact absurd h (by simp)

/-- A fenced block ends before what follows it, and both are later than its content. -/
theorem fenceEnd_suffix (containers : List Container) (f : FenceMark) (indent fuel : Nat)
    (t : Text) :
    (fenceEnd containers f indent fuel t).2 <:+ (fenceEnd containers f indent fuel t).1 ∧
      (fenceEnd containers f indent fuel t).1 <:+ t := by
  induction fuel generalizing t with
  | zero => exact ⟨List.suffix_rfl, List.suffix_rfl⟩
  | succ fuel ih =>
    unfold fenceEnd
    split
    · exact ⟨List.suffix_rfl, List.suffix_rfl⟩
    · next c hc =>
      have hcontent : (c.take indent).2.rest <:+ t :=
        (c.take_suffix indent).trans (Container.enterEvery?_suffix hc)
      simp only
      split
      · next rest hclose =>
        split at hclose
        · refine ⟨getD_blankLine?_suffix rest, ?_⟩
          exact (closingFence?_suffix hclose).trans ((Cursor.take_suffix _ _).trans hcontent)
        · exact absurd hclose (by simp)
      · obtain ⟨hrest, hstop⟩ := ih (nextLine (c.take indent).2.rest)
        exact ⟨hrest, hstop.trans ((nextLine_suffix _).trans hcontent)⟩

/-! ## One block -/

theorem readReferences_suffix (fuel : Nat) (r : Reader) (t : Text) :
    (readReferences fuel r t).2 <:+ t := by
  induction fuel generalizing r t with
  | zero => exact List.suffix_rfl
  | succ fuel ih =>
    unfold readReferences
    split
    · exact putParagraph_suffix r t
    · next after hreference =>
      have hafter := reference?_suffix hreference
      split
      · exact hafter
      · next next hblank =>
        have hnext : next <:+ t := (blankLine?_suffix hblank).trans hafter
        simp only
        split
        · exact hnext
        · calc _ <:+ _ := ih _ _
            _ <:+ _ := Cursor.takeAll_suffix _
            _ <:+ next := take_enterAll_suffix r.containers next
            _ <:+ t := hnext

/-- A fenced block lies in the text: it begins at a fence, and ends at a later place. -/
def FoundIn (t : Text) (f : FoundFence) : Prop :=
  ∃ opening stop, opening <:+ t ∧ stop <:+ opening ∧ (fenceMark? opening).isSome = true ∧
    f.startLeft = opening.length ∧ f.stopLeft = stop.length

theorem FoundIn.mono {t u : Text} {f : FoundFence} (h : FoundIn t f) (htu : t <:+ u) :
    FoundIn u f := by
  obtain ⟨opening, stop, hopening, hrest⟩ := h
  exact ⟨opening, stop, hopening.trans htu, hrest⟩

theorem readLeaf_suffix (r : Reader) (indent : Nat) (t : Text) :
    (readLeaf r indent t).2.1 <:+ t ∧ ∀ f ∈ (readLeaf r indent t).2.2, FoundIn t f := by
  unfold readLeaf
  simp only
  split
  · exact ⟨(metadataEnd_suffix _ _ _ _).trans (nextLine_suffix t), by simp⟩
  · split
    · next rest hhtml => exact ⟨html?_suffix hhtml, by simp⟩
    · split
      · next rest hbreak => exact ⟨thematicBreak?_suffix hbreak, by simp⟩
      · split
        · exact ⟨headingEnd_suffix t, by simp⟩
        · split
          · next mark hmark =>
            obtain ⟨hrest, hstop⟩ := fenceEnd_suffix r.finishList.containers mark indent
              (t.length + 1) (nextLine t)
            have hstop' := hstop.trans (nextLine_suffix t)
            refine ⟨hrest.trans hstop', ?_⟩
            intro f hf
            rw [← Option.some.inj hf]
            exact ⟨t, _, List.suffix_rfl, hstop', by rw [hmark]; rfl, rfl, rfl⟩
          · exact ⟨readReferences_suffix _ r t, by simp⟩

theorem enterOpen_suffix (r : Reader) (t : Text) : (enterOpen r t).2.rest <:+ t := by
  have henter := Container.enterAll_suffix r.containers (.start t)
  unfold enterOpen
  simp only
  split
  · next r' after hfoot =>
    exact (getD_blankLine?_suffix after).trans ((openFootnote?_suffix hfoot).trans henter)
  · exact henter

/-- One block is read from a place to a later one, and a fenced block is one in between. -/
theorem readBlock_suffix (r : Reader) (t : Text) :
    (readBlock r t).2.1 <:+ t ∧ ∀ f ∈ (readBlock r t).2.2, FoundIn t f := by
  have hopened := (openContainers_suffix (t.length + 1) (enterOpen r t).1 (enterOpen r t).2).trans
    (enterOpen_suffix r t)
  unfold readBlock
  simp only
  split
  · next r' rest hdone =>
    rw [hdone] at hopened
    exact ⟨hopened, by simp⟩
  · next r' c hcontent =>
    rw [hcontent] at hopened
    split
    · next rest hblank => exact ⟨(blankLine?_suffix hblank).trans hopened, by simp⟩
    · have hcode : (c.takeUpTo 4).2.rest <:+ t := (c.takeUpTo_suffix 4).trans hopened
      split
      · exact ⟨(indentedEnd_suffix _ _ _ _).trans hcode, by simp⟩
      · obtain ⟨hrest, hfound⟩ := readLeaf_suffix r' (c.takeUpTo 4).1 (c.takeUpTo 4).2.rest
        exact ⟨hrest.trans hcode, fun f hf => (hfound f hf).mono hcode⟩

/-- What one block keeps, all blocks keep. -/
theorem foundIn_of_mem_fencesFrom {fuel : Nat} {r : Reader} {t : Text} {f : FoundFence}
    (h : f ∈ fencesFrom fuel r t) : FoundIn t f := by
  induction fuel generalizing r t with
  | zero => exact absurd h List.not_mem_nil
  | succ fuel ih =>
    obtain ⟨hrest, hfound⟩ := readBlock_suffix r t
    unfold fencesFrom at h
    split at h
    · exact absurd h List.not_mem_nil
    · rcases List.mem_append.mp h with hhere | hlater
      · exact hfound f (Option.mem_toList.mp hhere)
      · exact (ih hlater).mono hrest

theorem foundIn_of_mem_fencedBlocks {t : Text} {f : FoundFence} (h : f ∈ fencedBlocks t) :
    FoundIn t f :=
  foundIn_of_mem_fencesFrom h

end TranscriptLint.Markdown
