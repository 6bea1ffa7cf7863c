import Mathlib.Data.Char
import Mathlib.Data.List.Lex
import Mathlib.Data.Prod.Lex
import TranscriptLint.Path
import TranscriptLint.Proofs.Lines

namespace TranscriptLint

open Text

/-! # Paths by their components

A path is cut into pieces at its separators, and the pieces are turned into components. What the
operations on paths do is said here about components, so that later proofs need not look at the
text of a path again.

* `Path.components_join`: a path of names is appended as it is.
* `Path.fileName?_of_components` and `Path.components_withExtension`: the last name of a path, and
  the path with an extension behind it.
* `Path.components_of_dropHere?`: a leading `.` is dropped, and nothing else.
* `Path.le_iff_key_le`: paths are ordered as the lists of their keys are, which is a linear order.
-/

/-! ## Pieces -/

namespace Path

/-- The pieces of a path between its separators. -/
def pieces (p : Path) : List Text := splitOn '/' p.text

/-- The component that stands before those of the pieces: the root directory if a separator comes
first, and the current directory if a single dot does. -/
def leadOf : List Text → List Component
  | [] :: _ :: _ => [.root]
  | piece :: _ => if piece = ".".toList then [.here] else []
  | [] => []

theorem pieces_ne_nil (p : Path) : p.pieces ≠ [] := List.splitOn_ne_nil '/' p.text

theorem isAbsolute_iff {p : Path} : p.isAbsolute = true ↔ ∃ rest, p.text = '/' :: rest := by
  rw [isAbsolute, beq_iff_eq, List.head?_eq_some_iff]

theorem leadOf_pieces_of_isAbsolute {p : Path} (h : p.isAbsolute = true) :
    leadOf p.pieces = [.root] := by
  obtain ⟨rest, hrest⟩ := isAbsolute_iff.mp h
  obtain ⟨piece, more, hsplit⟩ := List.exists_cons_of_ne_nil (List.splitOn_ne_nil '/' rest)
  rw [pieces, hrest, splitOn_cons_self, hsplit]
  rfl

theorem leadOf_pieces_of_not_isAbsolute {p : Path} (h : p.isAbsolute = false) :
    leadOf p.pieces = if p.pieces.head? == some ".".toList then [.here] else [] := by
  rw [pieces]
  rw [isAbsolute] at h
  cases htext : p.text with
  | nil => rfl
  | cons c t =>
    -- the first piece begins with the first character of the path, so it is not empty
    rw [htext] at h
    have hc : c ≠ '/' := by simpa using h
    obtain ⟨piece, more, hsplit⟩ := exists_splitOn_cons hc t
    simp [hsplit, leadOf]

theorem components_eq (p : Path) :
    p.components = leadOf p.pieces ++ p.pieces.filterMap pieceComponent := by
  rw [components]
  cases h : p.isAbsolute with
  | true =>
    rw [leadOf_pieces_of_isAbsolute h]
    rfl
  | false =>
    rw [leadOf_pieces_of_not_isAbsolute h]
    rfl

theorem same_iff {p q : Path} : p.same q = true ↔ p.components = q.components := by
  rw [same, beq_iff_eq]

/-- Inert pieces stand for nothing. -/
theorem filterMap_pieceComponent_of_isInert {l : List Text}
    (h : ∀ piece ∈ l, isInert piece = true) :
    l.filterMap pieceComponent = [] := by
  rw [List.filterMap_eq_nil_iff]
  intro piece hpiece
  rw [pieceComponent, if_pos (h piece hpiece)]

theorem filterMap_corePieces (l : List Text) :
    (corePieces l).filterMap pieceComponent = l.filterMap pieceComponent := by
  obtain ⟨tail, htail, hsplit⟩ := dropEnd_append isInert l
  conv_rhs => rw [hsplit, List.filterMap_append, filterMap_pieceComponent_of_isInert htail]
  rw [List.append_nil, corePieces]

/-- Only names and `..` come from pieces. -/
theorem of_mem_filterMap_pieceComponent {l : List Text} {c : Component}
    (h : c ∈ l.filterMap pieceComponent) : c = .up ∨ ∃ n ∈ l, c = .name n := by
  obtain ⟨piece, hpiece, hc⟩ := List.mem_filterMap.mp h
  rw [pieceComponent] at hc
  split at hc
  · exact absurd hc (by simp)
  · split at hc
    · exact .inl (Option.some.inj hc).symm
    · exact .inr ⟨piece, hpiece, (Option.some.inj hc).symm⟩

theorem pieceComponent_of_eq_name {piece n : Text} (h : pieceComponent piece = some (.name n)) :
    piece = n ∧ isInert n = false ∧ n ≠ "..".toList := by
  rw [pieceComponent] at h
  split at h
  · exact absurd h (by simp)
  · next hinert =>
    split at h
    · exact absurd h (by simp)
    · next hup =>
      obtain rfl := Component.name.inj (Option.some.inj h)
      exact ⟨rfl, by simpa using hinert, by simpa using hup⟩

/-- A piece that begins with anything but a dot is a name. -/
theorem pieceComponent_cons {c : Char} (h : c ≠ '.') (piece : Text) :
    pieceComponent (c :: piece) = some (.name (c :: piece)) := by
  simp [pieceComponent, isInert, h]

theorem leadOf_cases (l : List Text) :
    leadOf l = [] ∨ leadOf l = [.root] ∨ leadOf l = [.here] := by
  unfold leadOf
  split
  · exact .inr (.inl rfl)
  · split
    · exact .inr (.inr rfl)
    · exact .inl rfl
  · exact .inl rfl

theorem leadOf_of_not_isInert {piece : Text} (h : isInert piece = false) (rest : List Text) :
    leadOf (piece :: rest) = [] := by
  rcases piece with _ | ⟨c, piece⟩
  · exact absurd h (by decide)
  · have hne : c :: piece ≠ ".".toList := by
      intro heq
      rw [heq] at h
      exact absurd h (by decide)
    exact if_neg hne

theorem name_not_mem_leadOf {l : List Text} {n : Text} : .name n ∉ leadOf l := by
  rcases leadOf_cases l with h | h | h
  all_goals
    rw [h]
    simp

/-! ## Names only -/

/-- A path made of names has nothing before them. -/
theorem leadOf_pieces_of_names {p : Path} {names : List Text}
    (h : p.components = names.map .name) : leadOf p.pieces = [] := by
  rw [List.eq_nil_iff_forall_not_mem]
  intro c hc
  have hmem : c ∈ names.map Component.name := by
    rw [← h, components_eq]
    exact List.mem_append_left _ hc
  obtain ⟨n, -, rfl⟩ := List.mem_map.mp hmem
  exact name_not_mem_leadOf hc

theorem not_isAbsolute_of_names {p : Path} {names : List Text}
    (h : p.components = names.map .name) : p.isAbsolute = false := by
  cases habs : p.isAbsolute with
  | false => rfl
  | true =>
    have hlead := leadOf_pieces_of_names h
    rw [leadOf_pieces_of_isAbsolute habs] at hlead
    exact absurd hlead (by simp)

/-! ## Appending -/

theorem leadOf_append {l : List Text} (h : l ≠ []) {rest more : List Text} (hrest : rest ≠ [])
    (hmore : more ≠ []) : leadOf (l ++ rest) = leadOf (l ++ more) := by
  obtain ⟨piece, l, rfl⟩ := List.exists_cons_of_ne_nil h
  obtain ⟨x, rest, rfl⟩ := List.exists_cons_of_ne_nil hrest
  obtain ⟨y, more, rfl⟩ := List.exists_cons_of_ne_nil hmore
  rcases piece with _ | ⟨c, piece⟩
  · cases l <;> rfl
  · rfl

/-- The pieces of a relative path stand behind those of the path it is appended to, of which a last
one that is empty is lost. -/
theorem exists_pieces_join {p q : Path} (hp : p.text ≠ []) (hq : q.isAbsolute = false) :
    ∃ before, (p.join q).pieces = before ++ q.pieces ∧
      (∀ rest, rest ≠ [] → leadOf (before ++ rest) = leadOf p.pieces) ∧
      before.filterMap pieceComponent = p.pieces.filterMap pieceComponent := by
  have hempty : p.text.isEmpty = false := by simpa using hp
  by_cases hlast : p.text.getLast? = some '/'
  · -- the separator that is there already also ends the piece before it
    obtain ⟨t, ht⟩ := List.getLast?_eq_some_iff.mp hlast
    have hpieces : p.pieces = splitOn '/' t ++ [[]] := by
      rw [pieces, ht, List.splitOn_append_cons_self]
      rfl
    refine ⟨splitOn '/' t, ?_, ?_, ?_⟩
    · rw [join, hq, hempty, hlast, pieces, pieces, ← List.splitOn_append_cons_self]
      simp [ht]
    · intro rest hrest
      rw [hpieces]
      exact leadOf_append (List.splitOn_ne_nil '/' t) hrest (by simp)
    · rw [hpieces, List.filterMap_append]
      exact (List.append_nil _).symm
  · refine ⟨p.pieces, ?_, ?_, rfl⟩
    · have hne : (p.text.getLast? == some '/') = false := by simpa using hlast
      rw [join, hq, hempty, hne, pieces, pieces, pieces, ← List.splitOn_append_cons_self]
      rfl
    · intro rest hrest
      -- a path with a single piece is not the empty one, so what follows does not change its lead
      rcases hcases : p.pieces with _ | ⟨_ | ⟨c, piece⟩, _ | ⟨next, more⟩⟩
      · exact absurd hcases (pieces_ne_nil p)
      · cases htext : p.text with
        | nil => exact absurd htext hp
        | cons d t =>
          rw [pieces, htext] at hcases
          by_cases hd : d = '/'
          · rw [hd, splitOn_cons_self] at hcases
            exact absurd (List.cons.inj hcases).2 (List.splitOn_ne_nil '/' t)
          · obtain ⟨piece, pieces, hsplit⟩ := exists_splitOn_cons hd t
            rw [hsplit] at hcases
            exact absurd (List.cons.inj hcases).1 (by simp)
      · rfl
      · rfl
      · rfl

/-- **Appending.** A path of names is appended as it is. -/
theorem components_join {p q : Path} {names : List Text} (h : q.components = names.map .name) :
    (p.join q).components = p.components ++ names.map .name := by
  have hq : q.isAbsolute = false := not_isAbsolute_of_names h
  have hnames : q.pieces.filterMap pieceComponent = names.map .name := by
    rw [← h, components_eq, leadOf_pieces_of_names h, List.nil_append]
  by_cases hp : p.text = []
  · have hjoin : p.join q = q := by
      rw [join, hq, hp]
      rfl
    have hnone : p.components = [] := by
      rw [components, isAbsolute, hp]
      rfl
    rw [hjoin, hnone, h, List.nil_append]
  · obtain ⟨before, hpieces, hlead, hbefore⟩ := exists_pieces_join hp hq
    rw [components_eq, components_eq, hpieces, hlead q.pieces (pieces_ne_nil q),
      List.filterMap_append, hbefore, hnames, List.append_assoc]

/-! ## The last name -/

/-- The pieces of a path that ends in a name, without the inert ones at its end. -/
theorem exists_corePieces {p : Path} {front : List Component} {n : Text}
    (h : p.components = front ++ [.name n]) :
    ∃ before, corePieces p.pieces = before ++ [n] ∧ isInert n = false ∧ n ≠ "..".toList ∧
      leadOf p.pieces ++ before.filterMap pieceComponent = front := by
  have hcore : leadOf p.pieces ++ (corePieces p.pieces).filterMap pieceComponent =
      front ++ [.name n] := by
    rw [filterMap_corePieces, ← components_eq, h]
  rcases List.eq_nil_or_concat (corePieces p.pieces) with hnil | ⟨before, last, hlast⟩
  · -- the lead alone does not end in a name
    rw [hnil, List.filterMap_nil, List.append_nil] at hcore
    have hmem : .name n ∈ leadOf p.pieces := by
      rw [hcore]
      exact List.mem_append_right _ (List.mem_singleton_self _)
    exact absurd hmem name_not_mem_leadOf
  · rw [List.concat_eq_append] at hlast
    have hinert : isInert last = false := by
      have hend : (dropEnd isInert p.pieces).getLast? = some last := by
        rw [← corePieces, hlast, List.getLast?_concat]
      exact of_getLast?_dropEnd hend
    -- a last piece that is not inert has a component, and that must be the name
    obtain ⟨c, hc⟩ : ∃ c, pieceComponent last = some c := by
      rw [pieceComponent, if_neg (by simp [hinert])]
      split
      · exact ⟨_, rfl⟩
      · exact ⟨_, rfl⟩
    rw [hlast, List.filterMap_append, ← List.append_assoc, List.filterMap_cons_some hc] at hcore
    obtain ⟨hfront, hname⟩ := List.append_inj' hcore rfl
    rw [List.filterMap_nil, List.cons.injEq] at hname
    rw [hname.1] at hc
    obtain ⟨rfl, -, hup⟩ := pieceComponent_of_eq_name hc
    exact ⟨before, hlast, hinert, hup, hfront⟩

/-- A path that ends in a name is cut into the pieces before the name, each with a separator behind
it, and the name. -/
theorem splitName?_of_corePieces {p : Path} {before : List Text} {n : Text}
    (h : corePieces p.pieces = before ++ [n]) (hup : n ≠ "..".toList) :
    p.splitName? = some (before.flatMap (· ++ ['/']), n) := by
  have hne : (n == "..".toList) = false := beq_false_of_ne hup
  have hlead : (if before.isEmpty then [] else joinWith "/".toList before ++ ['/']) =
      before.flatMap (· ++ ['/']) := by
    by_cases hempty : before = []
    · simp [hempty]
    · rw [if_neg (by simpa using hempty)]
      exact intercalate_append_sep ['/'] hempty
  rw [splitName?, ← pieces, h, List.reverse_append]
  simp only [List.reverse_singleton, List.singleton_append, hne, Bool.false_eq_true, if_false,
    List.isEmpty_reverse, List.reverse_reverse, hlead]

theorem fileName?_of_components {p : Path} {front : List Component} {n : Text}
    (h : p.components = front ++ [.name n]) : p.fileName? = some n := by
  obtain ⟨before, hcore, -, hup, -⟩ := exists_corePieces h
  rw [fileName?, splitName?_of_corePieces hcore hup]
  rfl

/-- A path whose pieces are all inert has no last name. -/
theorem withExtension_of_isInert {p : Path} (h : ∀ piece ∈ p.pieces, isInert piece = true)
    (ext : Text) : p.withExtension ext = p := by
  have hcore : corePieces p.pieces = [] := List.rdropWhile_eq_nil_iff.mpr h
  rw [withExtension, splitName?, ← pieces, hcore]
  rfl

theorem splitExtension_of_not_mem {n : Text} (h : '.' ∉ n) : splitExtension n = (n, none) := by
  have hall : n.reverse.takeWhile (· ≠ '.') = n.reverse := by
    rw [List.takeWhile_eq_self_iff]
    intro c hc
    have hne : c ≠ '.' := fun heq => h (heq ▸ List.mem_reverse.mp hc)
    simpa using hne
  have hnone : splitLast? '.' n = none := by
    rw [splitLast?, hall]
    simp
  rw [splitExtension, hnone]

/-- **Extension.** A last name without a dot gets the extension behind it. -/
theorem components_withExtension {p : Path} {front : List Component} {n ext : Text}
    (h : p.components = front ++ [.name n]) (hdot : '.' ∉ n) (hext : '/' ∉ ext) :
    (p.withExtension ext).components = front ++ [.name (n ++ '.' :: ext)] := by
  obtain ⟨before, hcore, hinert, hup, hfront⟩ := exists_corePieces h
  obtain ⟨tail, -, hsplit⟩ := dropEnd_append isInert p.pieces
  rw [← corePieces, hcore] at hsplit
  obtain ⟨c, n, rfl⟩ : ∃ c t, n = c :: t := by
    rcases n with _ | ⟨c, n⟩
    · exact absurd hinert (by decide)
    · exact ⟨c, n, rfl⟩
  have hc : c ≠ '.' := fun heq => hdot (heq ▸ List.mem_cons_self ..)
  -- inert pieces behind the name are lost; all pieces before it stay as they are
  have hpieces : (p.withExtension ext).pieces = before ++ [c :: n ++ '.' :: ext] := by
    have hclean : ∀ piece ∈ before ++ [c :: n], '/' ∉ piece := by
      intro piece hpiece
      have hmem : piece ∈ p.pieces := hsplit ▸ List.mem_append_left _ hpiece
      exact not_mem_of_mem_splitOn hmem
    rw [withExtension, splitName?_of_corePieces hcore hup]
    simp only [splitExtension_of_not_mem hdot, pieces, List.append_assoc]
    have hjoin := intercalate_concat ['/'] before (c :: n ++ '.' :: ext)
    refine (congrArg (splitOn '/') hjoin).symm.trans (List.splitOn_intercalate '/' ?_ (by simp))
    intro piece hpiece
    rcases List.mem_append.mp hpiece with hbefore | hlast
    · exact hclean piece (List.mem_append_left _ hbefore)
    · obtain rfl := List.mem_singleton.mp hlast
      have hn : '/' ∉ c :: n := hclean _ (by simp)
      simp only [List.mem_append, List.mem_cons, not_or] at hn ⊢
      exact ⟨hn, by decide, hext⟩
  have hlead : leadOf (before ++ [c :: n ++ '.' :: ext]) = leadOf p.pieces := by
    rw [hsplit]
    rcases before with _ | ⟨first, before⟩
    · -- the name is the first piece, and it is no dot, with the extension or without
      simp [leadOf, hc]
    · rw [List.append_assoc]
      exact leadOf_append (by simp) (by simp) (by simp)
  rw [components_eq, hpieces, hlead, List.filterMap_append, ← List.append_assoc, hfront,
    List.cons_append, List.filterMap_cons_some (pieceComponent_cons hc _), List.filterMap_nil]

/-! ## Paths without dots -/

/-- The names in a path: its pieces that are not empty. -/
def names (p : Path) : List Text := p.pieces.filter fun piece => !piece.isEmpty

theorem dot_not_mem_of_mem_pieces {p : Path} (h : '.' ∉ p.text) {piece : Text}
    (hpiece : piece ∈ p.pieces) : '.' ∉ piece :=
  fun hdot => h (mem_of_mem_splitOn hpiece hdot)

theorem filterMap_pieceComponent_of_dotless {l : List Text} (h : ∀ piece ∈ l, '.' ∉ piece) :
    l.filterMap pieceComponent = (l.filter fun piece => !piece.isEmpty).map .name := by
  induction l with
  | nil => rfl
  | cons piece l ih =>
    have hrest := ih fun other hother => h other (List.mem_cons_of_mem _ hother)
    have hdot : '.' ∉ piece := h piece (List.mem_cons_self ..)
    rcases piece with _ | ⟨c, piece⟩
    · exact hrest
    · have hc : c ≠ '.' := fun heq => hdot (heq ▸ List.mem_cons_self ..)
      rw [List.filterMap_cons_some (pieceComponent_cons hc _), hrest]
      rfl

/-- A path without dots is made of names, perhaps below the root directory. -/
theorem components_of_dotless {p : Path} (h : '.' ∉ p.text) :
    p.components = (if p.isAbsolute then [.root] else []) ++ p.names.map .name := by
  have hpieces : ∀ piece ∈ p.pieces, '.' ∉ piece := fun _ => dot_not_mem_of_mem_pieces h
  have hhead : (p.pieces.head? == some ".".toList) = false := by
    rw [beq_eq_false_iff_ne]
    intro hhead
    exact hpieces _ (List.mem_of_head? hhead) (by decide)
  rw [components, ← pieces, filterMap_pieceComponent_of_dotless hpieces, names, hhead]
  rfl

/-- A relative path that is not empty begins with a name. -/
theorem names_ne_nil {p : Path} (habs : p.isAbsolute = false) (hne : p.text ≠ []) :
    p.names ≠ [] := by
  rw [names, pieces]
  cases htext : p.text with
  | nil => exact absurd htext hne
  | cons c t =>
    have hc : c ≠ '/' := by
      rintro rfl
      rw [isAbsolute_iff.mpr ⟨t, htext⟩] at habs
      exact absurd habs (by decide)
    obtain ⟨piece, pieces, hsplit⟩ := exists_splitOn_cons hc t
    simp [hsplit]

/-! ## A leading dot -/

/-- The components of a path without a leading `.`. -/
def bare (p : Path) : List Component := p.components.filter (· ≠ .here)

theorem here_not_mem_filterMap (l : List Text) : .here ∉ l.filterMap pieceComponent := by
  intro h
  rcases of_mem_filterMap_pieceComponent h with h | ⟨n, -, h⟩
  · exact absurd h (by simp)
  · exact absurd h (by simp)

theorem bare_eq_of_not_mem {p : Path} (h : .here ∉ p.components) : p.bare = p.components := by
  rw [bare, List.filter_eq_self]
  intro c hc
  have hne : c ≠ .here := fun heq => h (heq ▸ hc)
  simpa using hne

theorem here_not_mem_bare (p : Path) : .here ∉ p.bare := by
  intro h
  exact absurd (List.mem_filter.mp h).2 (by decide)

/-- A path begins with a `.` if it is relative and its first piece is a single dot. -/
theorem here_mem_components_iff {p : Path} :
    .here ∈ p.components ↔ p.isAbsolute = false ∧ p.pieces.head? = some ".".toList := by
  have hrest := here_not_mem_filterMap p.pieces
  rw [components_eq, List.mem_append, or_iff_left hrest]
  cases habs : p.isAbsolute with
  | true => simp [leadOf_pieces_of_isAbsolute habs]
  | false =>
    rw [leadOf_pieces_of_not_isAbsolute habs, and_iff_right rfl, beq_eq_decide]
    by_cases hhead : p.pieces.head? = some ".".toList
    · simp [hhead]
    · simp only [hhead, decide_false, Bool.false_eq_true, if_false, List.not_mem_nil]

/-- A `.` can only stand first. -/
theorem components_of_here_mem {p : Path} (h : .here ∈ p.components) :
    p.components = .here :: p.bare := by
  obtain ⟨habs, hhead⟩ := here_mem_components_iff.mp h
  have hlead : leadOf p.pieces = [.here] := by
    rw [leadOf_pieces_of_not_isAbsolute habs, hhead]
    rfl
  have hkept : (p.pieces.filterMap pieceComponent).filter (· ≠ .here) =
      p.pieces.filterMap pieceComponent := by
    rw [List.filter_eq_self]
    intro c hc
    have hne : c ≠ .here := fun heq => here_not_mem_filterMap _ (heq ▸ hc)
    simpa using hne
  rw [bare, components_eq, hlead, List.singleton_append, List.filter_cons_of_neg (by simp), hkept]

/-- A path that is put together from pieces, of which the first is not inert. -/
theorem components_joinWith {l : List Text} (hclean : ∀ piece ∈ l, '/' ∉ piece)
    (hfirst : ∀ piece, l.head? = some piece → isInert piece = false) :
    (⟨joinWith "/".toList l⟩ : Path).components = l.filterMap pieceComponent := by
  rcases l with _ | ⟨piece, l⟩
  · rfl
  · have hpieces : (⟨joinWith "/".toList (piece :: l)⟩ : Path).pieces = piece :: l :=
      List.splitOn_intercalate '/' hclean (by simp)
    rw [components_eq, hpieces, leadOf_of_not_isInert (hfirst piece rfl), List.nil_append]

/-- Dropping a leading `.` drops nothing else. -/
theorem components_of_dropHere? {p q : Path} (h : p.dropHere? = some q) :
    q.components = p.bare := by
  rw [dropHere?, ← pieces] at h
  split at h
  · next hdot =>
    rw [Bool.and_eq_true, Bool.not_eq_true', beq_iff_eq] at hdot
    obtain ⟨rest, hpieces⟩ := List.head?_eq_some_iff.mp hdot.2
    have hbare : p.bare = rest.filterMap pieceComponent := by
      have hhere := components_of_here_mem (here_mem_components_iff.mpr hdot)
      rw [components_eq, hpieces] at hhere
      exact (List.cons.inj hhere).2.symm
    obtain rfl := Option.some.inj h
    rw [hpieces, List.tail_cons]
    obtain ⟨tail, -, hsplit⟩ := dropEnd_append isInert (rest.dropWhile isInert)
    rw [← corePieces] at hsplit
    -- the pieces behind the dot are joined again, without the inert ones on both sides
    have hclean : ∀ piece ∈ corePieces (rest.dropWhile isInert), '/' ∉ piece := by
      intro piece hpiece
      have hmem : piece ∈ rest.dropWhile isInert := hsplit ▸ List.mem_append_left _ hpiece
      have hpath : piece ∈ p.pieces :=
        hpieces ▸ List.mem_cons_of_mem _ ((List.dropWhile_suffix _).subset hmem)
      exact not_mem_of_mem_splitOn hpath
    have hfirst : ∀ piece, (corePieces (rest.dropWhile isInert)).head? = some piece →
        isInert piece = false := by
      intro piece hpiece
      have hnot := List.head?_dropWhile_not isInert rest
      rw [hsplit, List.head?_append, hpiece] at hnot
      exact hnot
    rw [components_joinWith hclean hfirst, filterMap_corePieces, hbare]
    have hdropped : (rest.takeWhile isInert).filterMap pieceComponent = [] :=
      filterMap_pieceComponent_of_isInert fun piece hpiece => List.mem_takeWhile_imp hpiece
    conv_rhs => rw [← List.takeWhile_append_dropWhile (p := isInert) (l := rest)]
    rw [List.filterMap_append, hdropped, List.nil_append]
  · exact absurd h (by simp)

theorem here_not_mem_of_dropHere? {p : Path} (h : p.dropHere? = none) : .here ∉ p.components := by
  rw [here_mem_components_iff]
  intro hdot
  rw [dropHere?, ← pieces, hdot.1, hdot.2] at h
  exact absurd h (by simp)

end Path

/-! ## Order -/

section Lexicographic

-- The `≤` of the linear order on lists is not the one that `List.nil_le` and
-- `List.cons_le_cons_iff` are about.
variable {α : Type} [LinearOrder α] {a b : α} {l m : List α}

theorem nil_le_lex : [] ≤ l := by
  cases l with
  | nil => exact le_refl _
  | cons a l => exact le_of_lt (List.nil_lt_cons a l)

theorem not_cons_le_nil_lex : ¬ a :: l ≤ [] := not_le.mpr (List.nil_lt_cons a l)

/-- Lists are compared by their first elements, and then by the others. -/
theorem cons_le_cons_lex : a :: l ≤ b :: m ↔ a < b ∨ a = b ∧ l ≤ m := by
  have hlt : a :: l < b :: m ↔ a < b ∨ a = b ∧ l < m := List.cons_lt_cons_iff
  rw [le_iff_lt_or_eq, le_iff_lt_or_eq, hlt, List.cons.injEq]
  tauto

end Lexicographic

namespace Component

/-- A component in the order of paths: its kind, and then its name. -/
def key : Component → ℕ ×ₗ List Char
  | .name n => toLex (3, n)
  | c => toLex (c.rank, [])

theorem key_injective : Function.Injective key := by
  intro a b h
  cases a <;> cases b <;> simp_all [key, rank]

theorem textLe_iff {t u : Text} : textLe t u = true ↔ t ≤ u := by
  induction t generalizing u with
  | nil => simp [textLe, nil_le_lex]
  | cons c t ih =>
    cases u with
    | nil => simp [textLe, not_cons_le_nil_lex]
    | cons d u =>
      rw [textLe, cons_le_cons_lex, Bool.or_eq_true, decide_eq_true_eq, Bool.and_eq_true,
        beq_iff_eq, ih]
      rfl

theorem le_iff_key_le {a b : Component} : a.le b = true ↔ a.key ≤ b.key := by
  cases a <;> cases b <;> simp [le, key, rank, textLe_iff, Prod.Lex.toLex_le_toLex]

end Component

namespace Path

/-- A path in the order of paths: the keys of its components. -/
def key (p : Path) : List (ℕ ×ₗ List Char) := p.components.map Component.key

theorem key_eq_iff {p q : Path} : p.key = q.key ↔ p.components = q.components :=
  (List.map_injective_iff.mpr Component.key_injective).eq_iff

theorem componentsLe_iff {as bs : List Component} :
    componentsLe as bs = true ↔ as.map Component.key ≤ bs.map Component.key := by
  induction as generalizing bs with
  | nil => simp [componentsLe, nil_le_lex]
  | cons a as ih =>
    cases bs with
    | nil => simp [componentsLe, not_cons_le_nil_lex]
    | cons b bs =>
      rw [componentsLe, List.map_cons, List.map_cons, cons_le_cons_lex]
      by_cases heq : a = b
      · simp [heq, ih]
      · have hkey : a.key ≠ b.key := fun hkey => heq (Component.key_injective hkey)
        simp [heq, hkey, Component.le_iff_key_le, le_iff_lt_or_eq]

/-- **Order.** Paths are in order exactly if their keys are, component by component. -/
theorem le_iff_key_le {p q : Path} : p.le q = true ↔ p.key ≤ q.key := componentsLe_iff

end Path
end TranscriptLint
