import TranscriptLint.Autodoc
import TranscriptLint.Proofs.Files
import TranscriptLint.Proofs.PathComponents

namespace TranscriptLint

open Text

/-! # Modules below the search roots

The module of a target is turned into a path by its dots and looked for below the search roots. The
pieces between the dots come from the document as they are. A piece that begins with a separator
makes the path absolute, and a module of nothing but dots makes it empty, so that the extension goes
to the root itself. In all other cases what is found lies below a root.

* `Autodoc.isBelow_of_mem_candidates`: a proper module stays below its root.
* `Autodoc.root_mem_of_mem_candidates`: an absolute one leaves it.
* `Autodoc.stays_below_roots_iff`: the targets that can never lead out of the search roots are
  exactly those whose module is proper, as `Autodoc.IsProper` says.
* `Autodoc.target_outside_roots`: an absolute path as a target.
-/

/-! ## Below a directory -/

/-- The file lies below the directory: it has the components of the directory and more behind
them. -/
def Path.IsBelow (file dir : Path) : Prop :=
  dir.components <+: file.components ∧ dir.components ≠ file.components

theorem Path.isBelow_of_components {file dir : Path} {names : List Text}
    (h : file.components = dir.components ++ names.map .name) (hne : names ≠ []) :
    file.IsBelow dir := by
  refine ⟨⟨_, h.symm⟩, ?_⟩
  intro heq
  rw [heq, List.self_eq_append_right, List.map_eq_nil_iff] at h
  exact hne h

/-! ## Appending paths -/

namespace Path

theorem isAbsolute_join (p q : Path) : (p.join q).isAbsolute = (p.isAbsolute || q.isAbsolute) := by
  rw [join]
  cases hq : q.isAbsolute with
  | true => rw [if_pos rfl, hq, Bool.or_true]
  | false =>
    rw [Bool.or_false]
    rcases p with ⟨_ | ⟨c, t⟩⟩
    · exact hq
    · simp only [Bool.false_eq_true, if_false]
      split
      · rfl
      · rfl

theorem text_join_eq_nil_iff (p q : Path) : (p.join q).text = [] ↔ p.text = [] ∧ q.text = [] := by
  rw [join]
  split
  · next hq =>
    obtain ⟨rest, hrest⟩ := isAbsolute_iff.mp hq
    simp [hrest]
  · split
    · exact List.append_eq_nil_iff
    · next hp =>
      have hne : p.text ≠ [] := by
        intro hnil
        exact hp (by simp [hnil])
      simp [hne]

theorem not_mem_text_join {p q : Path} {c : Char} (hc : c ≠ '/') (hp : c ∉ p.text)
    (hq : c ∉ q.text) : c ∉ (p.join q).text := by
  rw [join]
  split
  · exact hq
  · split
    · simp [hp, hq]
    · simp [hp, hq, hc]

end Path

namespace Autodoc

/-! ## The path of a module -/

theorem isAbsolute_foldl_join (pieces : List Text) (p : Path) :
    (pieces.foldl (fun p piece => p.join ⟨piece⟩) p).isAbsolute =
      (p.isAbsolute || pieces.any fun piece => piece.head? == some '/') := by
  induction pieces generalizing p with
  | nil => simp
  | cons piece pieces ih =>
    rw [List.foldl_cons, ih, Path.isAbsolute_join, List.any_cons, Bool.or_assoc]
    rfl

theorem text_foldl_join_eq_nil_iff (pieces : List Text) (p : Path) :
    (pieces.foldl (fun p piece => p.join ⟨piece⟩) p).text = [] ↔
      p.text = [] ∧ ∀ piece ∈ pieces, piece = [] := by
  induction pieces generalizing p with
  | nil => simp
  | cons piece pieces ih =>
    rw [List.foldl_cons, ih, Path.text_join_eq_nil_iff, List.forall_mem_cons, and_assoc]

theorem dot_not_mem_foldl_join {pieces : List Text} (h : ∀ piece ∈ pieces, '.' ∉ piece) {p : Path}
    (hp : '.' ∉ p.text) : '.' ∉ (pieces.foldl (fun p piece => p.join ⟨piece⟩) p).text := by
  induction pieces generalizing p with
  | nil => exact hp
  | cons piece pieces ih =>
    have hpiece : '.' ∉ piece := h piece (List.mem_cons_self ..)
    exact ih (fun other hother => h other (List.mem_cons_of_mem _ hother))
      (Path.not_mem_text_join (by decide) hp hpiece)

/-- The dots of a module separate its pieces, so its path has none. -/
theorem dot_not_mem_modulePath (module : Text) : '.' ∉ (modulePath module).text :=
  dot_not_mem_foldl_join (fun _ => not_mem_of_mem_splitOn) List.not_mem_nil

/-- The last name of the path of a module has no extension that a new one would replace. -/
theorem dot_not_mem_of_names_eq {module last : Text} {front : List Text}
    (h : (modulePath module).names = front ++ [last]) : '.' ∉ last := by
  have hmem : last ∈ (modulePath module).names := by simp [h]
  exact Path.dot_not_mem_of_mem_pieces (dot_not_mem_modulePath module) (List.mem_filter.mp hmem).1

/-- A module is proper if no piece between its dots begins with a separator and not all of them are
empty. -/
structure IsProper (module : Text) : Prop where
  relative : ∀ piece ∈ splitOn '.' module, piece.head? ≠ some '/'
  named : ∃ piece ∈ splitOn '.' module, piece ≠ []

theorem isAbsolute_modulePath {module : Text} :
    (modulePath module).isAbsolute = true ↔
      ∃ piece ∈ splitOn '.' module, piece.head? = some '/' := by
  rw [modulePath, isAbsolute_foldl_join]
  simp [Path.isAbsolute]

theorem text_modulePath_eq_nil_iff {module : Text} :
    (modulePath module).text = [] ↔ ∀ piece ∈ splitOn '.' module, piece = [] := by
  rw [modulePath, text_foldl_join_eq_nil_iff]
  exact and_iff_right rfl

/-- A proper module is a path of names. -/
theorem IsProper.components {module : Text} (h : IsProper module) :
    (modulePath module).components = (modulePath module).names.map .name ∧
      (modulePath module).names ≠ [] := by
  have habs : (modulePath module).isAbsolute = false := by
    rw [Bool.eq_false_iff, Ne, isAbsolute_modulePath]
    rintro ⟨piece, hpiece, hhead⟩
    exact h.relative piece hpiece hhead
  have hne : (modulePath module).text ≠ [] := by
    rw [Ne, text_modulePath_eq_nil_iff]
    intro hall
    obtain ⟨piece, hpiece, hnamed⟩ := h.named
    exact hnamed (hall piece hpiece)
  refine ⟨?_, Path.names_ne_nil habs hne⟩
  rw [Path.components_of_dotless (dot_not_mem_modulePath module), habs]
  rfl

/-! ## Candidates -/

theorem components_package : (Path.ofString "__init__.py").components =
    ["__init__.py".toList].map .name := by decide +kernel

/-- A proper module stays below its root. -/
theorem isBelow_of_mem_candidates {module : Text} (h : IsProper module) {root file : Path}
    (hfile : file ∈ candidates module root) : file.IsBelow root := by
  obtain ⟨hnames, hne⟩ := h.components
  have hbase := Path.components_join (p := root) hnames
  rw [candidates, List.mem_pair] at hfile
  rcases hfile with rfl | rfl
  · -- the extension goes behind the last name of the module
    obtain ⟨front, last, hlast⟩ : ∃ front last, (modulePath module).names = front ++ [last] :=
      ⟨_, _, (List.dropLast_append_getLast hne).symm⟩
    have hdot : '.' ∉ last := dot_not_mem_of_names_eq hlast
    rw [hlast, List.map_append, ← List.append_assoc] at hbase
    have hslash : '/' ∉ "py".toList := by decide
    have hfile : ((root.join (modulePath module)).withExtension "py".toList).components =
        root.components ++ (front ++ [last ++ '.' :: "py".toList]).map .name := by
      rw [Path.components_withExtension hbase hdot hslash, List.append_assoc, List.map_append]
      rfl
    exact Path.isBelow_of_components hfile (by simp)
  · have hfile := Path.components_join (p := root.join (modulePath module)) components_package
    rw [hbase, List.append_assoc, ← List.map_append] at hfile
    exact Path.isBelow_of_components hfile (by simp)

/-- A module with an absolute path leaves its root, and its candidates are absolute too. -/
theorem root_mem_of_mem_candidates {module : Text} (h : (modulePath module).isAbsolute = true)
    {root file : Path} (hfile : file ∈ candidates module root) :
    file.components.head? = some .root := by
  have hjoin : root.join (modulePath module) = modulePath module := by rw [Path.join, if_pos h]
  have hcomponents := Path.components_of_dotless (dot_not_mem_modulePath module)
  rw [h, if_pos rfl] at hcomponents
  rw [candidates, hjoin, List.mem_pair] at hfile
  rcases hfile with rfl | rfl
  · rcases List.eq_nil_or_concat (modulePath module).names with hnil | ⟨front, last, hlast⟩
    · -- the path is the root directory, and an extension has no name to go to
      have hinert : ∀ piece ∈ (modulePath module).pieces, Path.isInert piece = true := by
        intro piece hpiece
        have hempty := List.filter_eq_nil_iff.mp hnil piece hpiece
        rw [Path.isInert, Bool.or_eq_true]
        exact .inl (by simpa using hempty)
      rw [Path.withExtension_of_isInert hinert, hcomponents]
      rfl
    · rw [List.concat_eq_append] at hlast
      have hdot : '.' ∉ last := dot_not_mem_of_names_eq hlast
      rw [hlast, List.map_append, ← List.append_assoc] at hcomponents
      rw [Path.components_withExtension hcomponents hdot (by decide)]
      rfl
  · rw [Path.components_join components_package, hcomponents]
    rfl

end Autodoc

/-! ## A file behind an absolute path -/

namespace Disk

/-- A path of names through directories leads to the last of them. -/
theorem follow_names {t : FileTree} {pieces ns above : List Text}
    (hpieces : pieces.filterMap Path.pieceComponent = ns.map .name)
    (hdirs : ∀ k ≤ ns.length, t.get? (above ++ ns.take k) = some .directory) (rest : List Text) :
    follow t above (pieces ++ rest) = follow t (above ++ ns) rest := by
  -- an inert piece stays where it is, and any other one goes down to the next name
  induction pieces generalizing ns above with
  | nil =>
    have hnil : ns = [] := by simpa using hpieces.symm
    rw [hnil, List.nil_append, List.append_nil]
  | cons piece pieces ih =>
    have hdir : t.get? above = some .directory := by simpa using hdirs 0 (Nat.zero_le _)
    rw [List.cons_append, follow, hdir]
    simp only
    cases hpiece : Path.pieceComponent piece with
    | none =>
      have hinert : Path.isInert piece = true := by
        by_contra hnot
        rw [Path.pieceComponent, if_neg hnot] at hpiece
        split at hpiece <;> exact absurd hpiece (by simp)
      rw [if_pos hinert]
      rw [List.filterMap_cons_none hpiece] at hpieces
      exact ih hpieces hdirs
    | some c =>
      rw [List.filterMap_cons_some hpiece] at hpieces
      obtain ⟨n, ns, rfl⟩ : ∃ n ns', ns = n :: ns' := by
        cases ns with
        | nil => exact absurd hpieces (by simp)
        | cons n ns => exact ⟨n, ns, rfl⟩
      rw [List.map_cons, List.cons.injEq] at hpieces
      rw [hpieces.1] at hpiece
      obtain ⟨rfl, hinert, hup⟩ := Path.pieceComponent_of_eq_name hpiece
      rw [if_neg (by simp [hinert]), if_neg hup]
      have hnext : ∀ k ≤ ns.length, t.get? (above ++ [piece] ++ ns.take k) = some .directory := by
        intro k hk
        have hdeeper := hdirs (k + 1) (by simpa using hk)
        rwa [List.take_succ_cons, List.append_cons] at hdeeper
      rw [ih hpieces.2 hnext, ← List.append_cons]

/-- A name is found with the entry that all names have. -/
theorem lookup_of_forall {t : FileTree} {names : List Text} {e : Entry}
    (hmem : (names, e) ∈ t) (hall : ∀ p ∈ t, p.2 = e) : t.lookup names = some e := by
  have hsome : (t.lookup names).isSome = true := by
    rw [List.lookup_isSome_iff]
    exact ⟨_, hmem, by simp⟩
  obtain ⟨e', he'⟩ := Option.isSome_iff_exists.mp hsome
  obtain ⟨before, after, hsplit, -⟩ := List.lookup_eq_some_iff.mp he'
  have heq : e' = e := hall (names, e') (by simp [hsplit])
  rw [he', heq]

/-- The disk with one empty file and the directories above it. -/
def withFile (dirs : List Text) (name : Text) : Disk :=
  ⟨(dirs ++ [name], .file false []) ::
    (List.range (dirs.length + 1)).map fun k => (dirs.take k, .directory), []⟩

theorem get?_withFile_dir (dirs : List Text) (name : Text) {k : Nat} (hk : k ≤ dirs.length) :
    (withFile dirs name).tree.get? (dirs.take k) = some .directory := by
  rw [FileTree.get?]
  split
  · rfl
  · -- the file lies deeper than all directories, so its entry does not hide theirs
    have hne : dirs.take k ≠ dirs ++ [name] := by
      intro heq
      have hlen := congrArg List.length heq
      rw [List.length_take, List.length_append, List.length_singleton] at hlen
      omega
    rw [withFile, FileTree.lookup_cons_ite, if_neg hne]
    refine lookup_of_forall (List.mem_map.mpr ⟨k, List.mem_range.mpr (by omega), rfl⟩) ?_
    intro p hp
    obtain ⟨_, -, rfl⟩ := List.mem_map.mp hp
    rfl

theorem get?_withFile_file (dirs : List Text) (name : Text) :
    (withFile dirs name).tree.get? (dirs ++ [name]) = some (.file false []) := by
  rw [FileTree.get?, if_neg (by simp), withFile, FileTree.lookup_cons_ite, if_pos rfl]

/-- For every absolute path of names there is a disk with a file below it. -/
theorem isFile_withFile {p : Path} {dirs : List Text} {name : Text} (hp : p.isAbsolute = true)
    (hdirs : p.pieces.filterMap Path.pieceComponent = dirs.map .name) (hslash : '/' ∉ name)
    (hname : Path.pieceComponent name = some (.name name)) :
    (withFile dirs name).isFile (p.join ⟨name⟩) = true := by
  have htext : p.text ≠ [] := by
    obtain ⟨rest, hrest⟩ := Path.isAbsolute_iff.mp hp
    simp [hrest]
  have hrelative : (⟨name⟩ : Path).isAbsolute = false := by
    rw [Bool.eq_false_iff, Ne, Path.isAbsolute_iff]
    rintro ⟨rest, rfl⟩
    exact hslash (List.mem_cons_self ..)
  have hpieces : (⟨name⟩ : Path).pieces = [name] := List.splitOn_eq_singleton hslash
  obtain ⟨before, hjoin, -, hbefore⟩ := Path.exists_pieces_join htext hrelative
  have habs : (p.join ⟨name⟩).isAbsolute = true := by rw [Path.isAbsolute_join, hp, Bool.true_or]
  have hne : (p.join ⟨name⟩).text.isEmpty = false := by
    obtain ⟨rest, hrest⟩ := Path.isAbsolute_iff.mp habs
    simp [hrest]
  obtain ⟨-, hinert, hup⟩ := Path.pieceComponent_of_eq_name hname
  have hlast : (withFile dirs name).tree.get? dirs = some .directory := by
    simpa using get?_withFile_dir dirs name (Nat.le_refl _)
  have hlocate : (withFile dirs name).locate (p.join ⟨name⟩) =
      .ok (.entry (dirs ++ [name]) (.file false [])) := by
    rw [locate, hne, habs, ← Path.pieces, hjoin, hpieces]
    have hall : ∀ k ≤ dirs.length,
        (withFile dirs name).tree.get? ([] ++ dirs.take k) = some .directory :=
      fun k hk => get?_withFile_dir dirs name hk
    have hfollow := follow_names (hbefore.trans hdirs) hall [name]
    simp only [Bool.false_eq_true, if_false, if_true, hfollow, List.nil_append]
    rw [follow, hlast]
    simp only [hinert, Bool.false_eq_true, if_false, hup]
    rw [follow, get?_withFile_file]
  rw [isFile, entry?, hlocate]
  rfl

end Disk

/-! ## What a target leads to -/

/-- The file that an error names. -/
def AutodocError.file? : AutodocError → Option Path
  | .functionNotFound _ file | .noDocstring _ file | .unreadable file _ => some file
  | .invalidTarget _ | .moduleNotFound _ => none

namespace Autodoc

/-- The file that was found for a target: that of its docstring, or the one an error names. -/
def foundFile? : Except AutodocError Autodoc → Option Path
  | .ok a => some a.file
  | .error e => e.file?

/-- Reading a docstring fails with an error that names the file. -/
theorem file?_of_readFrom [PatternLibrary] {d : Disk} {tabWidth : Nat} {function : Text}
    {file : Path} {e : AutodocError} (h : readFrom d tabWidth function file = .error e) :
    e.file? = some file := by
  unfold readFrom at h
  split at h
  · obtain rfl := Except.error.inj h
    rfl
  · simp only at h
    split at h
    · obtain rfl := Except.error.inj h
      rfl
    · split at h
      · obtain rfl := Except.error.inj h
        rfl
      · exact absurd h (by simp)

/-- A target leads to the first candidate that is a file, whatever is found in it. -/
theorem foundFile?_resolve [PatternLibrary] {target module function : Text}
    (h : splitTarget target = .ok (module, function)) (d : Disk) (roots : List Path)
    (tabWidth : Nat) :
    foundFile? (resolve d roots tabWidth target) =
      (roots.flatMap (candidates module)).find? d.isFile := by
  unfold resolve findModule
  simp only [h, bind, Except.bind]
  cases (roots.flatMap (candidates module)).find? d.isFile with
  | none => rfl
  | some file =>
    simp only
    cases hread : readFrom d tabWidth function file with
    | error e => exact file?_of_readFrom hread
    | ok docstring => rfl

theorem foundFile?_resolve_of_error [PatternLibrary] {target : Text} {e : AutodocError}
    (h : splitTarget target = .error e) (d : Disk) (roots : List Path) (tabWidth : Nat) :
    foundFile? (resolve d roots tabWidth target) = none := by
  have hfile : e.file? = none := by
    unfold splitTarget at h
    split at h
    · split at h
      · obtain rfl := Except.error.inj h
        rfl
      · exact absurd h (by simp)
    · obtain rfl := Except.error.inj h
      rfl
  unfold resolve
  simp only [h, bind, Except.bind]
  exact hfile

/-! ## Leaving the search roots -/

/-- Whatever is found for the target lies below one of the search roots. -/
def StaysBelow (target : Text) : Prop :=
  ∀ [PatternLibrary] d roots tabWidth file,
    foundFile? (resolve d roots tabWidth target) = some file → ∃ root ∈ roots, file.IsBelow root

/-- A module with an absolute path is looked for there, outside a relative root. -/
theorem not_staysBelow_of_isAbsolute {target module function : Text}
    (h : splitTarget target = .ok (module, function))
    (habs : (modulePath module).isAbsolute = true) : ¬ StaysBelow target := by
  intro hbelow
  let root := Path.ofString "lib"
  let package := (modulePath module).join (.ofString "__init__.py")
  have hpieces : (modulePath module).pieces.filterMap Path.pieceComponent =
      (modulePath module).names.map .name :=
    Path.filterMap_pieceComponent_of_dotless fun _ =>
      Path.dot_not_mem_of_mem_pieces (dot_not_mem_modulePath module)
  -- a disk on which the second candidate is a file, so that something is found
  let d := Disk.withFile (modulePath module).names "__init__.py".toList
  have hpackage : d.isFile package = true :=
    Disk.isFile_withFile habs hpieces (by decide) (by decide)
  have hcandidate : package ∈ [root].flatMap (candidates module) := by
    have hjoin : root.join (modulePath module) = modulePath module := by rw [Path.join, if_pos habs]
    rw [List.flatMap_singleton, candidates, hjoin]
    exact List.mem_cons_of_mem _ (List.mem_singleton_self _)
  obtain ⟨file, hfile⟩ :
      ∃ file, ([root].flatMap (candidates module)).find? d.isFile = some file := by
    rw [← Option.isSome_iff_exists, List.find?_isSome]
    exact ⟨package, hcandidate, hpackage⟩
  have hmem : file ∈ candidates module root := by
    rw [← List.flatMap_singleton (candidates module) root]
    exact List.mem_of_find?_eq_some hfile
  -- what is found begins at the root directory, and the search root does not
  have hhead := root_mem_of_mem_candidates habs hmem
  obtain ⟨root', hroot', hprefix, -⟩ :=
    hbelow d [root] 8 file ((foundFile?_resolve h d [root] 8).trans hfile)
  obtain rfl := List.mem_singleton.mp hroot'
  have hroot : root.components = [.name "lib".toList] := by decide +kernel
  obtain ⟨rest, hrest⟩ := hprefix
  rw [← hrest, hroot] at hhead
  exact absurd hhead (by simp)

/-- A module of dots only is looked for beside the root: the extension goes behind its name. -/
theorem not_staysBelow_of_text_eq_nil {target module function : Text}
    (h : splitTarget target = .ok (module, function)) (hnil : (modulePath module).text = []) :
    ¬ StaysBelow target := by
  intro hbelow
  let root := Path.ofString "lib"
  let d : Disk := ⟨[(["lib.py".toList], .file false [])], []⟩
  have hpath : modulePath module = ⟨[]⟩ := by rw [← hnil]
  -- the path of the module adds nothing, so the extension goes to the search root
  have hfound :
      ([root].flatMap (candidates module)).find? d.isFile = some (.ofString "lib.py") := by
    rw [List.flatMap_singleton, candidates, hpath]
    decide +kernel
  obtain ⟨root', hroot', hprefix, -⟩ :=
    hbelow d [root] 8 _ ((foundFile?_resolve h d [root] 8).trans hfound)
  obtain rfl := List.mem_singleton.mp hroot'
  exact absurd hprefix (by decide +kernel)

/-- **Search roots.** Whatever the files and the search roots are, the file found for a target lies
below one of the roots: this holds of a target exactly if its module is proper. -/
theorem stays_below_roots_iff (target : Text) :
    StaysBelow target ↔
      ∀ module function, splitTarget target = .ok (module, function) → IsProper module := by
  constructor
  · -- each way to be improper leads out of the roots on some disk
    intro hbelow module function hsplit
    constructor
    · intro piece hpiece hhead
      exact not_staysBelow_of_isAbsolute hsplit (isAbsolute_modulePath.mpr ⟨piece, hpiece, hhead⟩)
        hbelow
    · by_contra hnone
      have hempty : ∀ piece ∈ splitOn '.' module, piece = [] := by
        intro piece hpiece
        by_contra hne
        exact hnone ⟨piece, hpiece, hne⟩
      exact not_staysBelow_of_text_eq_nil hsplit (text_modulePath_eq_nil_iff.mpr hempty) hbelow
  · intro hproper _ d roots tabWidth file hfound
    cases hsplit : splitTarget target with
    | error e =>
      rw [foundFile?_resolve_of_error hsplit] at hfound
      exact absurd hfound (by simp)
    | ok parts =>
      obtain ⟨module, function⟩ := parts
      rw [foundFile?_resolve hsplit] at hfound
      obtain ⟨root, hroot, hcandidate⟩ :=
        List.mem_flatMap.mp (List.mem_of_find?_eq_some hfound)
      exact ⟨root, hroot, isBelow_of_mem_candidates (hproper module function hsplit) hcandidate⟩

/-- A target that begins with a separator is looked for from the root directory on, not below the
search root. -/
theorem target_outside_roots :
    ¬ ∀ d roots tabWidth target file, target.any isWhite = false →
        foundFile? (resolve d roots tabWidth target) = some file →
        ∃ root ∈ roots, file.IsBelow root := by
  intro hall
  let source : Text := "def f():\n    \"\"\"Doc.\"\"\"\n".toList
  let d : Disk :=
    ⟨[(["lib".toList], .directory), (["top.py".toList], .file false source.utf8)], []⟩
  have hfound : foundFile? (resolve d [.ofString "lib"] 8 "/top.f".toList) =
      some (.ofString "/top.py") := by decide +kernel
  obtain ⟨root, hroot, hprefix, -⟩ := hall d _ 8 _ _ (by decide) hfound
  obtain rfl := List.mem_singleton.mp hroot
  exact absurd hprefix (by decide +kernel)

end Autodoc
end TranscriptLint
