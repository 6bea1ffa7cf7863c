import Mathlib.Data.List.Nodup
import TranscriptLint.Discovery
import TranscriptLint.Proofs.PathComponents

namespace TranscriptLint.Discovery

/-! # The list of documents

Files that are given by name and files that are found in given directories are put together, sorted
by their components and freed from repeats. Paths that are found lose a leading `.`; paths that are
given keep it, and with it they count as different paths.

* `Reached d exclude paths p`: the search comes upon `p`, by name or in a directory.
* `Lists d exclude paths documents`: the documents are what the search comes upon, strictly
  increasing; `lists_of_ok` says so of every search that succeeds.
* `documents_determined_by_paths`: the list depends on nothing but the set of the paths given.
* `listed_once_iff`: a file is listed once exactly if no file is given with a leading `.` that is
  also reached without it.
* `listed_with_and_without_dot`: a file that is given with a leading `.` and found without it.
-/

/-! ## Dropping repeats -/

/-- A path stays in front of what is left of the others, or takes the place of the first of them
that has its components. -/
theorem dropRepeats_cons (p : Path) (ps : List Path) :
    ((∀ q, (dropRepeats ps).head? = some q → p.components ≠ q.components) ∧
        dropRepeats (p :: ps) = p :: dropRepeats ps) ∨
      ∃ q rest, dropRepeats ps = q :: rest ∧ p.components = q.components ∧
        dropRepeats (p :: ps) = p :: rest := by
  rw [dropRepeats]
  cases hdrop : dropRepeats ps with
  | nil => exact .inl ⟨by simp, rfl⟩
  | cons q rest =>
    by_cases hsame : p.components = q.components
    · exact .inr ⟨q, rest, rfl, hsame, by simp [Path.same_iff.mpr hsame]⟩
    · have hne : p.same q = false := by rw [Bool.eq_false_iff, Ne, Path.same_iff]; exact hsame
      refine .inl ⟨?_, by simp [hne]⟩
      intro q' hq'
      obtain rfl := Option.some.inj hq'
      exact hsame

theorem mem_of_mem_dropRepeats {l : List Path} {p : Path} (h : p ∈ dropRepeats l) : p ∈ l := by
  induction l with
  | nil => exact h
  | cons first l ih =>
    rcases dropRepeats_cons first l with ⟨-, hcons⟩ | ⟨q, rest, hdrop, -, hcons⟩
    · rw [hcons] at h
      rcases List.mem_cons.mp h with rfl | hmem
      · exact List.mem_cons_self ..
      · exact List.mem_cons_of_mem _ (ih hmem)
    · rw [hcons] at h
      rcases List.mem_cons.mp h with rfl | hmem
      · exact List.mem_cons_self ..
      · exact List.mem_cons_of_mem _ (ih (hdrop ▸ List.mem_cons_of_mem _ hmem))

/-- A path that is dropped has the components of one that stays. -/
theorem exists_mem_dropRepeats {l : List Path} {p : Path} (h : p ∈ l) :
    ∃ q ∈ dropRepeats l, q.components = p.components := by
  induction l with
  | nil => exact absurd h List.not_mem_nil
  | cons first l ih =>
    -- a path that was kept so far may be replaced by the first one, if it has its components
    rcases dropRepeats_cons first l with ⟨-, hcons⟩ | ⟨repeated, rest, hdrop, hsame, hcons⟩
    all_goals
      rw [hcons]
      rcases List.mem_cons.mp h with rfl | hmem
      · exact ⟨p, List.mem_cons_self .., rfl⟩
    · obtain ⟨q, hq, heq⟩ := ih hmem
      exact ⟨q, List.mem_cons_of_mem _ hq, heq⟩
    · obtain ⟨q, hq, heq⟩ := ih hmem
      rw [hdrop] at hq
      rcases List.mem_cons.mp hq with rfl | hrest
      · exact ⟨first, List.mem_cons_self .., hsame.trans heq⟩
      · exact ⟨q, List.mem_cons_of_mem _ hrest, heq⟩

/-- Without repeats, a list in order is strictly increasing. -/
theorem pairwise_dropRepeats {l : List Path} (h : l.Pairwise fun p q => p.key ≤ q.key) :
    (dropRepeats l).Pairwise fun p q => p.key < q.key := by
  induction l with
  | nil => exact List.Pairwise.nil
  | cons first l ih =>
    obtain ⟨hfirst, hrest⟩ := List.pairwise_cons.mp h
    have hsorted := ih hrest
    rcases dropRepeats_cons first l with ⟨hhead, hcons⟩ | ⟨q, rest, hdrop, hsame, hcons⟩
    · rw [hcons, List.pairwise_cons]
      refine ⟨?_, hsorted⟩
      intro q hq
      -- the path lies strictly before the first one that stays, and so before all of them
      obtain ⟨r, rest, hdrop⟩ := List.exists_cons_of_ne_nil (List.ne_nil_of_mem hq)
      have hr : r ∈ l := mem_of_mem_dropRepeats (hdrop ▸ List.mem_cons_self ..)
      have hne : first.key ≠ r.key := by
        rw [Ne, Path.key_eq_iff]
        exact hhead r (by rw [hdrop]; rfl)
      have hlt : first.key < r.key := lt_of_le_of_ne (hfirst r hr) hne
      rw [hdrop] at hq hsorted
      rcases List.mem_cons.mp hq with rfl | hmem
      · exact hlt
      · exact lt_trans hlt ((List.pairwise_cons.mp hsorted).1 q hmem)
    · rw [hdrop, List.pairwise_cons] at hsorted
      rw [hcons, List.pairwise_cons, Path.key_eq_iff.mpr hsame]
      exact hsorted

/-! ## What the search comes upon -/

/-- The paths that a search starts from: the current directory if none are given. -/
def given (paths : List Path) : List Path := if paths.isEmpty then [.ofString "."] else paths

/-- The rules of the patterns that leave documents out. -/
def rulesOf (exclude : List Text) : RuleList := excludeRules (exclude.flatMap expandPattern)

/-- The search comes upon a path: a file that is given, or one that is found in a directory that is
given. -/
inductive Reached (d : Disk) (exclude : List Text) (paths : List Path) : Path → Prop
  | file {p : Path} : p ∈ given paths → d.isFile p = true → Reached d exclude paths p
  | walked {dir p : Path} {found : List Path} : dir ∈ given paths → d.isDirectory dir = true →
      walk d (rulesOf exclude) dir = .ok found → p ∈ found →
      Reached d exclude paths (normalize p)

theorem mem_given {paths : List Path} {p : Path} (h : p ∈ paths) : p ∈ given paths := by
  rw [given, if_neg (by simpa using List.ne_nil_of_mem h)]
  exact h

theorem mem_given_congr {paths paths' : List Path} (h : ∀ p, p ∈ paths ↔ p ∈ paths') (p : Path) :
    p ∈ given paths ↔ p ∈ given paths' := by
  have hnil : paths = [] ↔ paths' = [] := by
    rw [List.eq_nil_iff_forall_not_mem, List.eq_nil_iff_forall_not_mem]
    exact forall_congr' fun q => not_congr (h q)
  simp only [given, List.isEmpty_iff]
  by_cases hempty : paths = []
  · rw [if_pos hempty, if_pos (hnil.mp hempty)]
  · rw [if_neg hempty, if_neg (fun hempty' => hempty (hnil.mpr hempty')), h]

/-- A search of all directories finds what the searches of the single ones find, or fails because
one of them does. -/
theorem walkAll_cases (d : Disk) (rules : RuleList) (dirs : List Path) :
    (∃ walked, walkAll d rules dirs = .ok walked ∧
        (∀ dir ∈ dirs, ∃ found, walk d rules dir = .ok found) ∧
        ∀ q, q ∈ walked ↔ ∃ dir ∈ dirs, ∃ found, walk d rules dir = .ok found ∧
          ∃ p ∈ found, normalize p = q) ∨
      ∃ dir ∈ dirs, ∃ e, walk d rules dir = .error e ∧ walkAll d rules dirs = .error e := by
  induction dirs with
  | nil => exact .inl ⟨[], rfl, by simp, by simp⟩
  | cons dir dirs ih =>
    rw [walkAll]
    cases hwalk : walk d rules dir with
    | error e => exact .inr ⟨dir, List.mem_cons_self .., e, hwalk, rfl⟩
    | ok found =>
      rcases ih with ⟨walked, hall, hfound, hmem⟩ | ⟨bad, hbad, e, herror, hall⟩
      · refine .inl ⟨found.map normalize ++ walked, by simp [hall], ?_, ?_⟩
        · rw [List.forall_mem_cons]
          exact ⟨⟨found, hwalk⟩, hfound⟩
        · intro q
          simp only [List.mem_append, hmem, List.mem_map, List.mem_cons, exists_eq_or_imp, hwalk,
            Except.ok.injEq, exists_eq_left']
      · exact .inr ⟨bad, List.mem_cons_of_mem _ hbad, e, herror, by simp [hall]⟩

theorem findDocuments_eq (d : Disk) (paths : List Path) (exclude : List Text) :
    (findDocuments d paths exclude).1 =
      (walkAll d (rulesOf exclude) ((given paths).filter d.isDirectory)).map fun walked =>
        dropRepeats (((given paths).filter d.isFile ++ walked).mergeSort Path.le) := rfl

/-- A search that succeeds sorts what it comes upon and drops repeats. It fails if one of the
directories cannot be searched. -/
theorem findDocuments_cases (d : Disk) (paths : List Path) (exclude : List Text) :
    (∃ l : List Path, (findDocuments d paths exclude).1 = .ok (dropRepeats (l.mergeSort Path.le)) ∧
        (∀ dir ∈ given paths, d.isDirectory dir = true →
          ∃ found, walk d (rulesOf exclude) dir = .ok found) ∧
        ∀ p, p ∈ l ↔ Reached d exclude paths p) ∨
      ∃ dir ∈ given paths, d.isDirectory dir = true ∧ ∃ e,
        walk d (rulesOf exclude) dir = .error e ∧ (findDocuments d paths exclude).1 = .error e := by
  rw [findDocuments_eq]
  rcases walkAll_cases d (rulesOf exclude) ((given paths).filter d.isDirectory) with
    ⟨walked, hall, hfound, hmem⟩ | ⟨dir, hdir, e, herror, hall⟩
  · rw [hall]
    refine .inl ⟨_, rfl, ?_, ?_⟩
    · intro dir hdir hdirectory
      exact hfound dir (List.mem_filter.mpr ⟨hdir, hdirectory⟩)
    · intro p
      rw [List.mem_append, List.mem_filter, hmem]
      constructor
      · rintro (⟨hp, hfile⟩ | ⟨dir, hdir, found, hwalk, q, hq, rfl⟩)
        · exact .file hp hfile
        · exact .walked (List.mem_filter.mp hdir).1 (List.mem_filter.mp hdir).2 hwalk hq
      · rintro (⟨hp, hfile⟩ | ⟨hdir, hdirectory, hwalk, hq⟩)
        · exact .inl ⟨hp, hfile⟩
        · exact .inr ⟨_, List.mem_filter.mpr ⟨hdir, hdirectory⟩, _, hwalk, _, hq, rfl⟩
  · obtain ⟨hgiven, hdirectory⟩ := List.mem_filter.mp hdir
    exact .inr ⟨dir, hgiven, hdirectory, e, herror, by rw [hall]; rfl⟩

/-! ## The list -/

/-- The documents of a search: strictly increasing in the order of paths, and up to the way their
paths are written just what the search comes upon. -/
structure Lists (d : Disk) (exclude : List Text) (paths documents : List Path) : Prop where
  increasing : documents.Pairwise fun p q => p.key < q.key
  reached : ∀ p ∈ documents, Reached d exclude paths p
  covered : ∀ p, Reached d exclude paths p → ∃ q ∈ documents, q.components = p.components

theorem pairwise_mergeSort (l : List Path) :
    (l.mergeSort Path.le).Pairwise fun p q => p.key ≤ q.key := by
  have hsorted : (l.mergeSort Path.le).Pairwise fun p q => p.le q = true := by
    apply List.pairwise_mergeSort
    · intro p q r hpq hqr
      rw [Path.le_iff_key_le] at hpq hqr ⊢
      exact le_trans hpq hqr
    · intro p q
      rw [Bool.or_eq_true, Path.le_iff_key_le, Path.le_iff_key_le]
      exact le_total p.key q.key
  exact hsorted.imp Path.le_iff_key_le.mp

variable {d : Disk} {exclude : List Text} {paths documents : List Path}

theorem lists_of_ok (h : (findDocuments d paths exclude).1 = .ok documents) :
    Lists d exclude paths documents := by
  rcases findDocuments_cases d paths exclude with ⟨l, hok, -, hmem⟩ | ⟨_, -, -, e, -, herror⟩
  · rw [h] at hok
    obtain rfl := Except.ok.inj hok
    have hperm := List.mergeSort_perm l Path.le
    refine ⟨pairwise_dropRepeats (pairwise_mergeSort l), ?_, ?_⟩
    · intro p hp
      exact (hmem p).mp (hperm.mem_iff.mp (mem_of_mem_dropRepeats hp))
    · intro p hp
      exact exists_mem_dropRepeats (hperm.mem_iff.mpr ((hmem p).mpr hp))
  · rw [h] at herror
    exact absurd herror (by simp)

theorem exists_ok_iff (d : Disk) (paths : List Path) (exclude : List Text) :
    (∃ documents, (findDocuments d paths exclude).1 = .ok documents) ↔
      ∀ dir ∈ given paths, d.isDirectory dir = true →
        ∃ found, walk d (rulesOf exclude) dir = .ok found := by
  rcases findDocuments_cases d paths exclude with
    ⟨l, hok, hwalks, -⟩ | ⟨dir, hdir, hdirectory, e, hwalk, herror⟩
  · exact ⟨fun _ => hwalks, fun _ => ⟨_, hok⟩⟩
  · constructor
    · rintro ⟨documents, hok⟩
      rw [herror] at hok
      exact absurd hok (by simp)
    · intro hwalks
      obtain ⟨found, hfound⟩ := hwalks dir hdir hdirectory
      rw [hwalk] at hfound
      exact absurd hfound (by simp)

theorem Reached.congr {paths' : List Path} (h : ∀ p, p ∈ paths ↔ p ∈ paths') {p : Path}
    (hp : Reached d exclude paths p) : Reached d exclude paths' p := by
  cases hp with
  | file hgiven hfile => exact .file ((mem_given_congr h _).mp hgiven) hfile
  | walked hgiven hdirectory hwalk hmem =>
    exact .walked ((mem_given_congr h _).mp hgiven) hdirectory hwalk hmem

/-- The list of a search is determined by what the search comes upon. -/
theorem Lists.components_eq {paths' documents' : List Path} (h : Lists d exclude paths documents)
    (h' : Lists d exclude paths' documents')
    (hsame : ∀ p, Reached d exclude paths p ↔ Reached d exclude paths' p) :
    documents.map Path.components = documents'.map Path.components := by
  have hkeys : ∀ {paths₁ paths₂ documents₁ documents₂ : List Path},
      Lists d exclude paths₁ documents₁ → Lists d exclude paths₂ documents₂ →
      (∀ p, Reached d exclude paths₁ p → Reached d exclude paths₂ p) →
      ∀ k ∈ documents₁.map Path.key, k ∈ documents₂.map Path.key := by
    intro paths₁ paths₂ documents₁ documents₂ h₁ h₂ himp k hk
    obtain ⟨p, hp, rfl⟩ := List.mem_map.mp hk
    obtain ⟨q, hq, heq⟩ := h₂.covered p (himp p (h₁.reached p hp))
    exact List.mem_map.mpr ⟨q, hq, Path.key_eq_iff.mpr heq⟩
  -- both lists have the same keys, and a strictly increasing list is determined by its members
  have hsorted := List.pairwise_map.mpr h.increasing
  have hsorted' := List.pairwise_map.mpr h'.increasing
  have hperm : (documents.map Path.key).Perm (documents'.map Path.key) := by
    rw [List.perm_ext_iff_of_nodup (hsorted.imp ne_of_lt) (hsorted'.imp ne_of_lt)]
    intro k
    exact ⟨hkeys h h' (fun p => (hsame p).mp) k, hkeys h' h (fun p => (hsame p).mpr) k⟩
  have heq : documents.map Path.key = documents'.map Path.key :=
    hperm.eq_of_pairwise (fun a b _ _ hab hba => absurd hba (lt_asymm hab)) hsorted hsorted'
  have hinjective : Function.Injective (List.map Component.key) :=
    List.map_injective_iff.mpr Component.key_injective
  apply List.map_injective_iff.mpr hinjective
  rw [List.map_map, List.map_map]
  exact heq

/-- **Documents.** A search gives a list exactly if every directory that is given can be searched.
The list is strictly increasing and has every file that is given by name, whatever its extension
and the patterns are. And two searches whose paths are the same up to order and repeats fail
together, or list the same paths at the same places. -/
theorem documents_determined_by_paths (d : Disk) (exclude : List Text) {paths paths' : List Path}
    (hsame : ∀ p, p ∈ paths ↔ p ∈ paths') :
    ((∃ documents, (findDocuments d paths exclude).1 = .ok documents) ↔
        ∀ dir ∈ given paths, d.isDirectory dir = true →
          ∃ found, walk d (rulesOf exclude) dir = .ok found) ∧
      (∀ documents, (findDocuments d paths exclude).1 = .ok documents →
        Lists d exclude paths documents ∧
          ∀ p ∈ paths, d.isFile p = true → ∃ q ∈ documents, q.components = p.components) ∧
      (findDocuments d paths exclude).1.map (List.map Path.components) =
        (findDocuments d paths' exclude).1.map (List.map Path.components) := by
  refine ⟨exists_ok_iff d paths exclude, ?_, ?_⟩
  · intro documents hok
    have hlists := lists_of_ok hok
    exact ⟨hlists, fun p hp hfile => hlists.covered p (.file (mem_given hp) hfile)⟩
  · have hreached : ∀ p, Reached d exclude paths p ↔ Reached d exclude paths' p :=
      fun p => ⟨Reached.congr hsame, Reached.congr fun q => (hsame q).symm⟩
    -- whether a search fails depends on the set of the paths only
    have hok : (∃ documents, (findDocuments d paths exclude).1 = .ok documents) ↔
        ∃ documents, (findDocuments d paths' exclude).1 = .ok documents := by
      rw [exists_ok_iff, exists_ok_iff]
      exact forall_congr' fun dir => imp_congr (mem_given_congr hsame dir) Iff.rfl
    cases hleft : (findDocuments d paths exclude).1 with
    | ok documents =>
      obtain ⟨documents', hright⟩ := hok.mp ⟨documents, hleft⟩
      rw [hright]
      exact congrArg Except.ok
        ((lists_of_ok hleft).components_eq (lists_of_ok hright) hreached)
    | error e =>
      cases hright : (findDocuments d paths' exclude).1 with
      | ok documents' =>
        obtain ⟨documents, hleft'⟩ := hok.mpr ⟨documents', hright⟩
        rw [hleft] at hleft'
        exact absurd hleft' (by simp)
      | error e' =>
        -- there is one way to fail
        cases e
        cases e'
        rfl

/-- A text file is given twice beside a directory, and a pattern leaves text files out. -/
theorem documents_determined_by_paths_repeated :
    let d : Disk := ⟨[(["docs".toList], .directory),
      (["docs".toList, "index.rst".toList], .file false []),
      (["docs".toList, "conf.py".toList], .file false []),
      (["notes.txt".toList], .file false [])], []⟩
    let docs := Path.ofString "docs"
    let notes := Path.ofString "notes.txt"
    (∀ p, p ∈ [docs, notes] ↔ p ∈ [notes, docs, notes]) ∧
      ∃ documents documents',
        (findDocuments d [docs, notes] ["*.txt".toList]).1 = .ok documents ∧
        (findDocuments d [notes, docs, notes] ["*.txt".toList]).1 = .ok documents' ∧
        documents.map Path.components = documents'.map Path.components ∧
        ∃ q ∈ documents, q.components = notes.components := by
  intro d docs notes
  have hsame : ∀ p, p ∈ [docs, notes] ↔ p ∈ [notes, docs, notes] := by
    intro p
    simp only [List.mem_cons, List.not_mem_nil, or_false]
    tauto
  obtain ⟨hsearched, hlisted, heq⟩ := documents_determined_by_paths d ["*.txt".toList] hsame
  have hwalks : ∀ dir ∈ given [docs, notes], d.isDirectory dir = true →
      ∃ found, walk d (rulesOf ["*.txt".toList]) dir = .ok found := by
    intro dir hdir hdirectory
    rcases List.mem_pair.mp hdir with rfl | rfl
    · exact ⟨[.ofString "docs/index.rst"], by decide +kernel⟩
    · exact absurd hdirectory (by decide +kernel)
  obtain ⟨documents, hdocuments⟩ := hsearched.mpr hwalks
  rw [hdocuments] at heq
  cases hdocuments' : (findDocuments d [notes, docs, notes] ["*.txt".toList]).1 with
  | error e =>
    rw [hdocuments'] at heq
    exact absurd heq (by simp [Except.map])
  | ok documents' =>
    rw [hdocuments'] at heq
    refine ⟨hsame, documents, documents', hdocuments, rfl, Except.ok.inj heq, ?_⟩
    exact (hlisted documents hdocuments).2 notes (by simp) (by decide +kernel)

/-! ## Repeats -/

theorem components_normalize (p : Path) : (normalize p).components = p.bare := by
  rw [normalize]
  cases hdrop : p.dropHere? with
  | some q => exact Path.components_of_dropHere? hdrop
  | none => exact (Path.bare_eq_of_not_mem (Path.here_not_mem_of_dropHere? hdrop)).symm

/-- A leading `.` is kept only in files that are given. -/
theorem Reached.of_here_mem {p : Path} (h : Reached d exclude paths p)
    (hhere : .here ∈ p.components) : p ∈ given paths ∧ d.isFile p = true := by
  cases h with
  | file hgiven hfile => exact ⟨hgiven, hfile⟩
  | @walked dir q found hgiven hdirectory hwalk hmem =>
    rw [components_normalize] at hhere
    exact absurd hhere (Path.here_not_mem_bare q)

/-- Two paths that differ only in a `.` are a given file with a leading `.` and another path that is
reached without it. -/
theorem twins_of_bare_eq {p q : Path} (hp : Reached d exclude paths p)
    (hq : Reached d exclude paths q) (hne : p.components ≠ q.components) (hbare : p.bare = q.bare) :
    ∃ f ∈ given paths, d.isFile f = true ∧ .here ∈ f.components ∧
      ∃ r, Reached d exclude paths r ∧ r.components = f.bare := by
  -- a dot in both paths or in none of them leaves no difference
  by_cases hhere : .here ∈ p.components
  · by_cases hhere' : .here ∈ q.components
    · rw [Path.components_of_here_mem hhere, Path.components_of_here_mem hhere', hbare] at hne
      exact absurd rfl hne
    · obtain ⟨hgiven, hfile⟩ := hp.of_here_mem hhere
      refine ⟨p, hgiven, hfile, hhere, q, hq, ?_⟩
      rw [hbare, Path.bare_eq_of_not_mem hhere']
  · by_cases hhere' : .here ∈ q.components
    · obtain ⟨hgiven, hfile⟩ := hq.of_here_mem hhere'
      refine ⟨q, hgiven, hfile, hhere', p, hp, ?_⟩
      rw [← hbare, Path.bare_eq_of_not_mem hhere]
    · rw [Path.bare_eq_of_not_mem hhere, Path.bare_eq_of_not_mem hhere'] at hbare
      exact absurd hbare hne

/-- **Repeats.** Let a search list some documents. No two of them differ only in a `.` exactly if no
file is given with a leading `.` that the search also comes upon without it. -/
theorem listed_once_iff (h : (findDocuments d paths exclude).1 = .ok documents) :
    (documents.map Path.bare).Nodup ↔
      ∀ f ∈ given paths, d.isFile f = true → .here ∈ f.components →
        ∀ r, Reached d exclude paths r → r.components ≠ f.bare := by
  have hlists := lists_of_ok h
  constructor
  · -- the file and the path without the dot are both listed, in one way or another
    intro honce f hgiven hfile hhere r hr heq
    obtain ⟨p, hp, hpf⟩ := hlists.covered f (.file hgiven hfile)
    obtain ⟨q, hq, hqr⟩ := hlists.covered r hr
    have hbare : p.bare = q.bare := by
      have hnone : .here ∉ q.components := by
        rw [hqr, heq]
        exact Path.here_not_mem_bare f
      rw [Path.bare_eq_of_not_mem hnone, hqr, heq, Path.bare, Path.bare, hpf]
    have hne : p ≠ q := by
      rintro rfl
      rw [hpf, Path.components_of_here_mem hhere, heq] at hqr
      exact absurd hqr (by simp)
    exact hne (List.inj_on_of_nodup_map honce hp hq hbare)
  · intro hnone
    refine List.pairwise_map.mpr (hlists.increasing.imp_of_mem ?_)
    intro p q hp hq hlt hbare
    have hne : p.components ≠ q.components := by
      rw [Ne, ← Path.key_eq_iff]
      exact ne_of_lt hlt
    obtain ⟨f, hgiven, hfile, hhere, r, hr, heq⟩ :=
      twins_of_bare_eq (hlists.reached p hp) (hlists.reached q hq) hne hbare
    exact hnone f hgiven hfile hhere r hr heq

/-- A directory is given in two ways and one of its files by name; another file is given with a
leading `.` only. -/
theorem listed_once_overlapping :
    let d : Disk := ⟨[(["docs".toList], .directory),
      (["docs".toList, "index.rst".toList], .file false []),
      (["notes.txt".toList], .file false [])], []⟩
    let paths := [Path.ofString "./notes.txt", .ofString "docs/./index.rst", .ofString "docs",
      .ofString "./docs"]
    let documents := [Path.ofString "./notes.txt", .ofString "docs/./index.rst"]
    (findDocuments d paths []).1 = .ok documents ∧ (documents.map Path.bare).Nodup ∧
      ∀ r, Reached d [] paths r → r.components ≠ (Path.ofString "./notes.txt").bare := by
  intro d paths documents
  let index := Path.ofString "docs/index.rst"
  have hwalk : walkAll d (rulesOf []) ((given paths).filter d.isDirectory) =
      .ok [index, index] := by decide +kernel
  have hfiles : (given paths).filter d.isFile = documents := by decide +kernel
  have hsorted : (documents ++ [index, index]).mergeSort Path.le = documents ++ [index, index] :=
    List.mergeSort_of_pairwise (by decide +kernel)
  have hfound : (findDocuments d paths []).1 = .ok documents := by
    rw [findDocuments_eq, hwalk, hfiles, Except.map, hsorted]
    decide +kernel
  have honce : (documents.map Path.bare).Nodup := by decide +kernel
  exact ⟨hfound, honce, (listed_once_iff hfound).mp honce _ (by decide) (by decide +kernel)
    (by decide +kernel)⟩

/-- A file that is given with a leading `.` and found in the current directory is listed twice. -/
theorem listed_with_and_without_dot :
    ¬ ∀ d paths exclude documents, (findDocuments d paths exclude).1 = .ok documents →
        (documents.map Path.bare).Nodup := by
  intro hall
  let d : Disk := ⟨[(["README.md".toList], .file false [])], []⟩
  let paths := [Path.ofString "./README.md", .ofString "."]
  let documents := [Path.ofString "./README.md", .ofString "README.md"]
  have hwalk : walkAll d (rulesOf []) ((given paths).filter d.isDirectory) =
      .ok [.ofString "README.md"] := by decide +kernel
  have hfiles : (given paths).filter d.isFile = [.ofString "./README.md"] := by decide +kernel
  have hsorted : documents.mergeSort Path.le = documents :=
    List.mergeSort_of_pairwise (by decide +kernel)
  have hfound : (findDocuments d paths []).1 = .ok documents := by
    rw [findDocuments_eq, hwalk, hfiles, Except.map, List.singleton_append, hsorted]
    decide +kernel
  exact absurd (hall d paths [] documents hfound) (by decide +kernel)

end TranscriptLint.Discovery
