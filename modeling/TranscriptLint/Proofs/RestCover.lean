import TranscriptLint.Proofs.LiteralBlock
import TranscriptLint.Rest

namespace TranscriptLint.Rest

open Text

/-! # The cover of a document by its directives

Read from its first line on, a document falls into the extents of its directives and single lines
between them. `Cover` says so by line numbers alone: it knows where an extent has to end, not how
the end is found.

* `exists_cover_scanFrom` and `cover_unique`: `scan` reads off the one cover that there is.
* `Cover.pairwise_stop_le_start`: extents do not overlap, and they come in the order of the lines.
* `takenFrom_of_mem_scan`: a literal block is a range of lines of the document.
* `scan_reads_cover` puts these together.
-/

/-! ## Extents -/

/-- An option of a directive of this indentation. -/
def isOptionLine (indent : Nat) (line : Text) : Bool :=
  !line.isBlank && decide (indent < line.indentWidth) && isOption line

/-- The lines from `last` up to `stop` are blank, and the line before them is not, if it is one of
those from `first` on. -/
structure BlankTail (lines : List Text) (first stop last : Nat) : Prop where
  first_le : first ≤ last
  le_stop : last ≤ stop
  inside : ∀ n line, last ≤ n → n < stop → lines[n]? = some line → line.isBlank = true
  before : ∀ n line, first ≤ n → n + 1 = last → lines[n]? = some line → line.isBlank = false

/-- The content of the code directive on line `start`, whose extent ends at `stop`, goes from line
`first` up to line `last`: options and blank lines before it do not count, and neither do blank
lines behind it. -/
structure Content (lines : List Text) (indent start stop first last : Nat) : Prop where
  lead : ∃ options, RunEnds (isOptionLine indent) lines (start + 1) stop options ∧
    RunEnds isBlank lines options stop first
  tail : BlankTail lines first stop last

/-- A directive's lines, and what it contributes to the document. -/
structure Extent where
  start : Nat
  stop : Nat
  item : Option Item
deriving DecidableEq, Repr

/-- The item of a code directive with this content. -/
def contentItem (lines : List Text) (language : Text) (first last : Nat) : Option Item :=
  if first < last then
    some (.literal (.ofLines language (linesBetween lines first last) first))
  else none

/-- The extents of the directives from line `i` on. -/
inductive Cover (lines : List Text) : Nat → List Extent → Prop where
  | done {i : Nat} : lines.length ≤ i → Cover lines i []
  | skip {i : Nat} {line : Text} {extents : List Extent} :
      lines[i]? = some line → Directive.ofLine? line = none →
      Cover lines (i + 1) extents → Cover lines i extents
  | autodoc {i : Nat} {line target : Text} {extents : List Extent} :
      lines[i]? = some line → Directive.ofLine? line = some (.autofunction target) →
      Cover lines (i + 1) extents →
      Cover lines i (⟨i, i + 1, some (.autodoc i target)⟩ :: extents)
  | code {i stop first last indent : Nat} {line language : Text} {extents : List Extent} :
      lines[i]? = some line → Directive.ofLine? line = some (.code indent language) →
      RunEnds (isNested indent) lines (i + 1) lines.length stop →
      Content lines indent i stop first last →
      Cover lines stop extents →
      Cover lines i (⟨i, stop, contentItem lines language first last⟩ :: extents)

/-! ## There is only one cover -/

theorem blankTail_unique {lines : List Text} {first stop l l' : Nat}
    (hstop : stop ≤ lines.length) (h : BlankTail lines first stop l)
    (h' : BlankTail lines first stop l') : l = l' := by
  have hle : ∀ {a b : Nat}, BlankTail lines first stop a → BlankTail lines first stop b →
      ¬ a < b := by
    intro a b ha hb hlt
    -- the line before the later start is blank for the earlier one
    have hb' : b - 1 < lines.length := by
      have := hb.le_stop
      omega
    have hline : lines[b - 1]? = some lines[b - 1] := List.getElem?_eq_getElem hb'
    have hyes := ha.inside (b - 1) _ (by omega) (by have := hb.le_stop; omega) hline
    have hno := hb.before (b - 1) _ (by have := ha.first_le; omega) (by omega) hline
    rw [hyes] at hno
    exact absurd hno (by decide)
  have h1 := hle h h'
  have h2 := hle h' h
  omega

theorem content_unique {lines : List Text} {indent start stop f f' l l' : Nat}
    (hstop : stop ≤ lines.length) (h : Content lines indent start stop f l)
    (h' : Content lines indent start stop f' l') : f = f' ∧ l = l' := by
  obtain ⟨⟨o, ho, hf⟩, hl⟩ := h
  obtain ⟨⟨o', ho', hf'⟩, hl'⟩ := h'
  have hoo : o = o' := runEnds_unique hstop ho ho'
  subst hoo
  have hff : f = f' := runEnds_unique hstop hf hf'
  subst hff
  exact ⟨rfl, blankTail_unique hstop hl hl'⟩

/-- The line under the reader decides which rule of the cover applies, so covers agree. -/
theorem cover_unique {lines : List Text} {i : Nat} {es es' : List Extent}
    (h : Cover lines i es) (h' : Cover lines i es') : es = es' := by
  induction h generalizing es' with
  | done hi =>
    have hnone := List.getElem?_eq_none hi
    cases h' with
    | done => rfl
    | skip hline => simp [hnone] at hline
    | autodoc hline => simp [hnone] at hline
    | code hline => simp [hnone] at hline
  | skip hline hdir _ ih =>
    cases h' with
    | done hi => simp [List.getElem?_eq_none hi] at hline
    | skip _ _ hrest => exact ih hrest
    | autodoc hline' hdir' => simp_all
    | code hline' hdir' => simp_all
  | autodoc hline hdir _ ih =>
    cases h' with
    | done hi => simp [List.getElem?_eq_none hi] at hline
    | skip hline' hdir' => simp_all
    | autodoc hline' hdir' hrest =>
      have hsame := Option.some.inj (hline.symm.trans hline')
      subst hsame
      have htarget := Directive.autofunction.inj (Option.some.inj (hdir.symm.trans hdir'))
      subst htarget
      rw [ih hrest]
    | code hline' hdir' => simp_all
  | code hline hdir hext hcontent _ ih =>
    cases h' with
    | done hi => simp [List.getElem?_eq_none hi] at hline
    | skip hline' hdir' => simp_all
    | autodoc hline' hdir' => simp_all
    | code hline' hdir' hext' hcontent' hrest =>
      have hsame := Option.some.inj (hline.symm.trans hline')
      subst hsame
      obtain ⟨hindent, hlanguage⟩ :=
        Directive.code.inj (Option.some.inj (hdir.symm.trans hdir'))
      subst hindent hlanguage
      have hstop := runEnds_unique (Nat.le_refl _) hext hext'
      subst hstop
      obtain ⟨hfirst, hlast⟩ := content_unique hext.stop_le hcontent hcontent'
      subst hfirst hlast
      rw [ih hrest]

/-! ## The scanner reads a cover -/

theorem scanFrom_skip (i skip : Nat) (rest : List Text) :
    scanFrom i skip rest = scanFrom (i + skip) 0 (rest.drop skip) := by
  induction rest generalizing i skip with
  | nil => simp [scanFrom]
  | cons line rest ih =>
    cases skip with
    | zero => rfl
    | succ skip =>
      rw [scanFrom, ih, List.drop_succ_cons]
      congr 1
      omega

/-- Without the last run of blank lines, a range of lines is a range again. -/
theorem blankTail_dropEnd {lines : List Text} {first stop : Nat} (hfirst : first ≤ stop)
    (hstop : stop ≤ lines.length) :
    ∃ last, BlankTail lines first stop last ∧
      dropEnd isBlank (linesBetween lines first stop) = linesBetween lines first last := by
  obtain ⟨rest, hrest, hsplit⟩ := dropEnd_append isBlank (linesBetween lines first stop)
  have hlen : (linesBetween lines first stop).length = stop - first := length_linesBetween hstop
  generalize hkept : dropEnd isBlank (linesBetween lines first stop) = kept at hsplit
  have hsum : kept.length + rest.length = stop - first := by
    rw [← hlen, hsplit, List.length_append]
  -- the line behind the first `k` lines, read off the range
  have hget : ∀ k, first + k < stop → (kept ++ rest)[k]? = lines[first + k]? := by
    intro k hk
    rw [← hsplit, getElem?_linesBetween hk]
  refine ⟨first + kept.length, ⟨by omega, by omega, ?_, ?_⟩, ?_⟩
  · intro n line hn hlt hline
    obtain ⟨k, rfl⟩ := Nat.exists_eq_add_of_le hn
    have hk := hget (kept.length + k) (by omega)
    rw [List.getElem?_append_right (by omega), ← Nat.add_assoc, hline] at hk
    exact hrest line (List.mem_of_getElem? hk)
  · intro n line hn hlast hline
    obtain ⟨k, rfl⟩ := Nat.exists_eq_add_of_le hn
    have hk := hget k (by omega)
    rw [List.getElem?_append_left (by omega), hline] at hk
    have hend : kept.getLast? = some line := by
      rw [List.getLast?_eq_getElem?, ← hk]
      congr 1
      omega
    rw [← hkept] at hend
    exact of_getLast?_dropEnd hend
  · have hle : first + kept.length ≤ stop := by omega
    rw [← take_linesBetween hle, hsplit, List.take_left]

/-- A line of the body of a directive that looks like an option is one. -/
theorem isOptionLine_of_isOption {indent : Nat} {line : Text}
    (hnested : isNested indent line = true) (hoption : isOption line = true) :
    isOptionLine indent line = true := by
  have hblank : line.isBlank = false := by
    rw [isOption, beq_iff_eq] at hoption
    exact isBlank_eq_false_of_head?_trimStart hoption
  rw [isNested, hblank, Bool.false_or] at hnested
  simp [isOptionLine, hblank, hnested, hoption]

/-- The content that the scanner cuts out of the body of a directive. -/
theorem content_linesBetween {lines : List Text} {indent start stop : Nat}
    (hext : RunEnds (isNested indent) lines (start + 1) lines.length stop) :
    ∃ first last, Content lines indent start stop first last ∧
      content (linesBetween lines (start + 1) stop) =
        (first - (start + 1), linesBetween lines first last) ∧ start + 1 ≤ first := by
  have hstart := hext.start_le
  have hstop := hext.stop_le
  -- the options end where the blank lines begin, and these where the content begins
  have hoptions := runEnds_takeWhile isOption hstart hstop
  have hdrop := dropWhile_linesBetween isOption lines (start + 1) stop
  generalize start + 1 + ((linesBetween lines (start + 1) stop).takeWhile isOption).length = options
    at hoptions hdrop
  have hblanks := runEnds_takeWhile isBlank hoptions.stop_le hstop
  have hdrop' := dropWhile_linesBetween isBlank lines options stop
  generalize options + ((linesBetween lines options stop).takeWhile isBlank).length = first
    at hblanks hdrop'
  obtain ⟨last, htail, hkept⟩ := blankTail_dropEnd hblanks.stop_le hstop
  have hfirst : start + 1 ≤ first := Nat.le_trans hoptions.start_le hblanks.start_le
  refine ⟨first, last, ⟨⟨options, ?_, hblanks⟩, htail⟩, ?_, hfirst⟩
  · refine ⟨hoptions.start_le, hoptions.stop_le, ?_, ?_⟩
    · intro n line hn hlt hline
      have hnested := hext.inside n line hn (Nat.lt_of_lt_of_le hlt hoptions.stop_le) hline
      exact isOptionLine_of_isOption hnested (hoptions.inside n line hn hlt hline)
    · intro line hlt hline
      simp [isOptionLine, hoptions.outside line hlt hline]
  · rw [content, hdrop, hdrop', hkept, length_linesBetween hstop, length_linesBetween hstop]
    congr 1
    have := hblanks.stop_le
    omega

/-- The block of a code directive is the item of its content. -/
theorem bodyBlock?_eq_contentItem {lines : List Text} {indent start stop : Nat} (language : Text)
    (hext : RunEnds (isNested indent) lines (start + 1) lines.length stop) :
    ∃ first last, Content lines indent start stop first last ∧
      (bodyBlock? language (start + 1) (linesBetween lines (start + 1) stop)).map .literal =
        contentItem lines language first last := by
  obtain ⟨first, last, hcontent, heq, hfirst⟩ := content_linesBetween hext
  refine ⟨first, last, hcontent, ?_⟩
  have hlast : last ≤ lines.length := Nat.le_trans hcontent.tail.le_stop hext.stop_le
  have hlen : (linesBetween lines first last).length = last - first := length_linesBetween hlast
  rw [bodyBlock?, heq, contentItem]
  by_cases hlt : first < last
  · have hne : (linesBetween lines first last).isEmpty = false := by
      rw [List.isEmpty_eq_false_iff_exists_mem]
      exact ⟨_, List.getElem_mem (by omega : 0 < (linesBetween lines first last).length)⟩
    simp only [hne, hlt, if_true]
    rw [Nat.add_sub_of_le hfirst]
    rfl
  · have hnil : linesBetween lines first last = [] := List.length_eq_zero_iff.mp (by omega)
    simp [hnil, hlt]

/-- From every line on, the scanner gives the items of a cover. The induction is on the number of
lines that are left. -/
theorem exists_cover_scanFrom (lines : List Text) (i : Nat) :
    ∃ extents, Cover lines i extents ∧
      extents.filterMap Extent.item = scanFrom i 0 (lines.drop i) := by
  induction hleft : lines.length - i using Nat.strong_induction_on generalizing i with
  | _ left ih =>
    rcases Nat.lt_or_ge i lines.length with hi | hi
    · have hline : lines[i]? = some lines[i] := List.getElem?_eq_getElem hi
      rw [List.drop_eq_getElem_cons hi, scanFrom]
      cases hdir : Directive.ofLine? lines[i] with
      | none =>
        obtain ⟨extents, hcover, hitems⟩ := ih (lines.length - (i + 1)) (by omega) (i + 1) rfl
        exact ⟨extents, .skip hline hdir hcover, hitems⟩
      | some directive =>
        cases directive with
        | autofunction target =>
          obtain ⟨extents, hcover, hitems⟩ := ih (lines.length - (i + 1)) (by omega) (i + 1) rfl
          refine ⟨_, .autodoc hline hdir hcover, ?_⟩
          rw [← hitems]
          rfl
        | code indent language =>
          have hall : linesBetween lines (i + 1) lines.length = lines.drop (i + 1) := by
            rw [linesBetween, ← List.length_drop, List.take_length]
          have hext := runEnds_takeWhile (isNested indent) hi (Nat.le_refl _)
          rw [hall] at hext
          -- the body is what `takeWhile` took, as a range of lines
          have hbody : (lines.drop (i + 1)).takeWhile (isNested indent) = linesBetween lines (i + 1)
              (i + 1 + ((lines.drop (i + 1)).takeWhile (isNested indent)).length) := by
            rw [linesBetween, Nat.add_sub_cancel_left]
            exact List.prefix_iff_eq_take.mp (List.takeWhile_prefix _)
          simp only [scanFrom_skip (i + 1), List.drop_drop]
          generalize
            i + 1 + ((lines.drop (i + 1)).takeWhile (isNested indent)).length = stop at hext hbody ⊢
          rw [hbody]
          obtain ⟨first, last, hcontent, hitem⟩ := bodyBlock?_eq_contentItem language hext
          have hless : lines.length - stop < left := by
            have := hext.start_le
            omega
          obtain ⟨extents, hcover, hitems⟩ := ih (lines.length - stop) hless stop rfl
          refine ⟨_, .code hline hdir hext hcontent hcover, ?_⟩
          rw [← hitems, ← hitem]
          cases bodyBlock? language (i + 1) (linesBetween lines (i + 1) stop) <;> rfl
    · refine ⟨[], .done hi, ?_⟩
      rw [List.drop_eq_nil_of_le hi]
      rfl

/-! ## What a cover says about its extents -/

/-- What an extent of a cover can be. -/
theorem Cover.mem_cases {lines : List Text} {i : Nat} {extents : List Extent} {x : Extent}
    (h : Cover lines i extents) (hx : x ∈ extents) :
    i ≤ x.start ∧ ∃ line, lines[x.start]? = some line ∧
      ((∃ target, Directive.ofLine? line = some (.autofunction target) ∧
          x.stop = x.start + 1 ∧ x.item = some (.autodoc x.start target)) ∨
        (∃ indent language first last, Directive.ofLine? line = some (.code indent language) ∧
          RunEnds (isNested indent) lines (x.start + 1) lines.length x.stop ∧
          Content lines indent x.start x.stop first last ∧
          x.item = contentItem lines language first last)) := by
  induction h with
  | done => simp at hx
  | skip _ _ _ ih =>
    obtain ⟨hle, hrest⟩ := ih hx
    exact ⟨by omega, hrest⟩
  | @autodoc i line target extents hline hdir _ ih =>
    rcases List.mem_cons.mp hx with rfl | hx
    · exact ⟨Nat.le_refl _, line, hline, .inl ⟨target, hdir, rfl, rfl⟩⟩
    · obtain ⟨hle, hrest⟩ := ih hx
      exact ⟨by omega, hrest⟩
  | @code i stop first last indent line language extents hline hdir hext hcontent _ ih =>
    rcases List.mem_cons.mp hx with rfl | hx
    · exact ⟨Nat.le_refl _, line, hline,
        .inr ⟨indent, language, first, last, hdir, hext, hcontent, rfl⟩⟩
    · obtain ⟨hle, hrest⟩ := ih hx
      have := hext.start_le
      exact ⟨by omega, hrest⟩

/-- An extent holds its directive and ends inside the document. -/
theorem Cover.bounds {lines : List Text} {i : Nat} {extents : List Extent} {x : Extent}
    (h : Cover lines i extents) (hx : x ∈ extents) :
    i ≤ x.start ∧ x.start < x.stop ∧ x.stop ≤ lines.length := by
  obtain ⟨hle, line, hline, hcase⟩ := h.mem_cases hx
  have hlt := (List.getElem?_eq_some_iff.mp hline).1
  rcases hcase with ⟨target, -, hstop, -⟩ | ⟨indent, language, first, last, -, hext, -, -⟩
  · omega
  · have := hext.start_le
    exact ⟨hle, by omega, hext.stop_le⟩

/-- Extents do not overlap and come in the order of the lines. -/
theorem Cover.pairwise_stop_le_start {lines : List Text} {i : Nat} {extents : List Extent}
    (h : Cover lines i extents) : extents.Pairwise fun a b => a.stop ≤ b.start := by
  induction h with
  | done => exact .nil
  | skip _ _ _ ih => exact ih
  | autodoc _ _ hrest ih => exact .cons (fun x hx => (hrest.bounds hx).1) ih
  | code _ _ _ _ hrest ih => exact .cons (fun x hx => (hrest.bounds hx).1) ih

/-! ## What follows for the items -/

/-- The line that an item is found on: that of the directive, or the first line of a block. -/
def Item.line : Item → Nat
  | .literal b => b.firstLine
  | .autodoc line _ => line

theorem mem_scan_iff {lines : List Text} {extents : List Extent} (h : Cover lines 0 extents)
    (item : Item) : item ∈ scan lines ↔ ∃ x ∈ extents, x.item = some item := by
  obtain ⟨extents', hcover, hitems⟩ := exists_cover_scanFrom lines 0
  rw [cover_unique hcover h, List.drop_zero] at hitems
  rw [scan, ← hitems, List.mem_filterMap]

/-- The content of a literal block is a range of lines below its directive. It neither begins nor
ends with a blank line. -/
theorem exists_content_of_mem_scan {lines : List Text} {b : LiteralBlock}
    (h : Item.literal b ∈ scan lines) :
    ∃ last, 0 < b.firstLine ∧ b.firstLine < last ∧ last ≤ lines.length ∧
      b = .ofLines b.language (linesBetween lines b.firstLine last) b.firstLine ∧
      (∀ line, lines[b.firstLine]? = some line → line.isBlank = false) ∧
      ∀ line, lines[last - 1]? = some line → line.isBlank = false := by
  obtain ⟨extents, hcover, -⟩ := exists_cover_scanFrom lines 0
  obtain ⟨x, hx, hitem⟩ := (mem_scan_iff hcover _).mp h
  obtain ⟨-, line, -, hcase⟩ := hcover.mem_cases hx
  rcases hcase with ⟨target, -, -, hauto⟩ |
      ⟨indent, language, first, last, -, hext, hcontent, hcode⟩
  · rw [hitem] at hauto
    exact absurd (Option.some.inj hauto) (by simp)
  · rw [hitem, contentItem] at hcode
    split at hcode
    · next hlt =>
      have hb : b = .ofLines language (linesBetween lines first last) first :=
        Item.literal.inj (Option.some.inj hcode)
      obtain ⟨⟨options, hoptions, hblanks⟩, htail⟩ := hcontent
      have hstop := htail.le_stop
      have hend := hext.stop_le
      have hpos : 0 < first := by
        have h1 := hoptions.start_le
        have h2 := hblanks.start_le
        omega
      subst hb
      refine ⟨last, hpos, hlt, by omega, rfl, ?_, ?_⟩
      · intro line hline
        exact hblanks.outside line (by omega) hline
      · intro line hline
        exact htail.before (last - 1) line (by omega) (by omega) hline
    · exact absurd hcode (by simp)

/-- An item is found inside the extent of its directive. -/
theorem Cover.item_line_bounds {lines : List Text} {i : Nat} {extents : List Extent} {x : Extent}
    {item : Item} (h : Cover lines i extents) (hx : x ∈ extents) (hitem : x.item = some item) :
    x.start ≤ item.line ∧ item.line < x.stop := by
  obtain ⟨-, line, -, hcase⟩ := h.mem_cases hx
  rcases hcase with ⟨target, -, hstop, hauto⟩ |
      ⟨indent, language, first, last, -, -, hcontent, hcode⟩
  · rw [hitem] at hauto
    rw [Option.some.inj hauto, hstop]
    exact ⟨Nat.le_refl _, Nat.lt_succ_self _⟩
  · rw [hitem, contentItem] at hcode
    split at hcode
    · next hlt =>
      obtain ⟨⟨options, hoptions, hblanks⟩, htail⟩ := hcontent
      have h1 := hoptions.start_le
      have h2 := hblanks.start_le
      have h3 := htail.le_stop
      have hfirst : item.line = first := by
        rw [Option.some.inj hcode]
        rfl
      omega
    · exact absurd hcode (by simp)

theorem takenFrom_of_mem_scan {lines : List Text} {b : LiteralBlock}
    (h : Item.literal b ∈ scan lines) : b.TakenFrom lines := by
  obtain ⟨last, hpos, hlt, hlast, hb, -, -⟩ := exists_content_of_mem_scan h
  exact ⟨hpos, last, hlt, hlast, hb⟩

/-- A block neither begins nor ends with a blank line. -/
theorem ends_not_blank_of_mem_scan {lines : List Text} {b : LiteralBlock}
    (h : Item.literal b ∈ scan lines) :
    ∃ head last, b.lines.head? = some head ∧ b.lines.getLast? = some last ∧
      head.isBlank = false ∧ last.isBlank = false := by
  have hstands := (takenFrom_of_mem_scan h).standsIn
  obtain ⟨stop, -, hlt, hstop, hb, hfirst, hlast⟩ := exists_content_of_mem_scan h
  have hlen : b.lines.length = stop - b.firstLine := by
    rw [hb]
    exact (List.length_map _).trans (length_linesBetween hstop)
  obtain ⟨source, head, hsource, hhead, hshift⟩ := hstands.line 0 (by omega)
  obtain ⟨source', last, hsource', hlast', hshift'⟩ :=
    hstands.line (b.lines.length - 1) (by omega)
  refine ⟨head, last, ?_, ?_, ?_, ?_⟩
  · rw [List.head?_eq_getElem?]
    exact hhead
  · rw [List.getLast?_eq_getElem?]
    exact hlast'
  · rw [← hshift.isBlank_eq]
    exact hfirst source hsource
  · rw [← hshift'.isBlank_eq]
    apply hlast source'
    rw [← hsource']
    congr 1
    omega

/-- **Cover.** A document has exactly one cover by the extents of its directives, and scanning it
gives the items of that cover. The extents lie in the document, do not overlap and come in the order
of the lines, and so do the items. No block begins or ends with a blank line. -/
theorem scan_reads_cover (lines : List Text) :
    ∃ extents, (∀ other, Cover lines 0 other ↔ other = extents) ∧
      scan lines = extents.filterMap Extent.item ∧
      (∀ x ∈ extents, x.start < x.stop ∧ x.stop ≤ lines.length) ∧
      extents.Pairwise (fun a b => a.stop ≤ b.start) ∧
      (scan lines).Pairwise (fun a b => a.line < b.line) ∧
      ∀ b, Item.literal b ∈ scan lines →
        ∃ head last, b.lines.head? = some head ∧ b.lines.getLast? = some last ∧
          head.isBlank = false ∧ last.isBlank = false := by
  obtain ⟨extents, hcover, hitems⟩ := exists_cover_scanFrom lines 0
  rw [List.drop_zero] at hitems
  have hscan : scan lines = extents.filterMap Extent.item := hitems.symm
  refine ⟨extents, ?_, hscan, fun x hx => (hcover.bounds hx).2, hcover.pairwise_stop_le_start, ?_,
    fun b => ends_not_blank_of_mem_scan⟩
  · intro other
    constructor
    · intro hother
      exact cover_unique hother hcover
    · intro heq
      rw [heq]
      exact hcover
  · rw [hscan, List.pairwise_filterMap]
    apply hcover.pairwise_stop_le_start.imp_of_mem
    intro x y hx hy hxy a ha b hb
    have h1 := hcover.item_line_bounds hx ha
    have h2 := hcover.item_line_bounds hy hb
    omega

/-- A directive with an option, and blank lines on both sides of its content. -/
theorem scan_reads_cover_listing :
    let lines :=
      [".. code:: sh".toList, "  :linenos:".toList, [], "   $ ls".toList, [], "End".toList]
    let b : LiteralBlock := ⟨"sh".toList, ["$ ls".toList], 3, 3⟩
    Item.literal b ∈ scan lines ∧ ∃ head last, b.lines.head? = some head ∧
      b.lines.getLast? = some last ∧ head.isBlank = false ∧ last.isBlank = false := by
  intro lines b
  have hmem : Item.literal b ∈ scan lines := by decide +kernel
  obtain ⟨extents, -, -, -, -, -, hends⟩ := scan_reads_cover lines
  exact ⟨hmem, hends b hmem⟩

end TranscriptLint.Rest
