import TranscriptLint.Config
import TranscriptLint.Proofs.PathComponents

namespace TranscriptLint.Config

open Text

/-! # Options in a project file

A project file is searched for a mention of the options before it is read, and counts only if it
has one. The mention is looked for in the text and the options in the document, so the two can go
apart: a table of options need not be written as `tool.shdoclint`, and a comment may say so without
one.

* `discover_of_project`: the search goes by the mention.
* `load_of_project`: what is loaded, with and without a mention.
* `load_follows_project_iff`: the options of the file are the ones that are used exactly if it
  mentions them and has them, or does neither.
* `mention_and_table_go_apart`: options in an inline table are passed over, and a comment makes a
  file count that has none.
-/

/-! ## What the file says -/

/-- The document in a project file; none if it cannot be read. -/
def projectDocument? (content : Text) : Option Toml := (Toml.read? content).filter hasSignedNumbers

/-- Whether the document in a project file has a table of options. -/
def hasOptions (content : Text) : Bool :=
  ((projectDocument? content).bind fun document =>
    (document.get? "tool".toList).bind (Toml.get? "shdoclint".toList)).isSome

/-- Whether the text of a project file mentions the options. -/
def mentionsOptions (content : Text) : Bool := occursIn "tool.shdoclint".toList content

/-- What a project file asks for: its options, or the default ones and no file if it has none. -/
def asked (path : Path) (content : Text) : Except ConfigError (Config × Option Path) :=
  (ofProject path content).map fun
    | some c => (c, some path)
    | none => ({}, none)

/-- A document without a table of options holds no options. -/
theorem ofProject_of_not_hasOptions {path : Path} {content : Text}
    (hvalid : (projectDocument? content).isSome = true) (h : hasOptions content = false) :
    ofProject path content = .ok none := by
  obtain ⟨document, hdocument⟩ := Option.isSome_iff_exists.mp hvalid
  rw [hasOptions, hdocument, Option.bind_some] at h
  have hnone : (document.get? "tool".toList).bind (Toml.get? "shdoclint".toList) = none :=
    Option.not_isSome_iff_eq_none.mp (Bool.eq_false_iff.mp h)
  rw [ofProject, ← projectDocument?, hdocument]
  simp only [hnone]

/-- A table of options is read, or is refused. -/
theorem ofProject_of_hasOptions {path : Path} {content : Text} (h : hasOptions content = true) :
    ofProject path content ≠ .ok none := by
  obtain ⟨table, htable⟩ := Option.isSome_iff_exists.mp h
  obtain ⟨document, hdocument, hget⟩ := Option.bind_eq_some_iff.mp htable
  rw [ofProject, ← projectDocument?, hdocument]
  simp only [hget]
  split
  · simp
  · simp

/-! ## Which file counts -/

/-- The directory has a project file with this content, and no other file of options. -/
structure OnlyProject (d : Disk) (dir : Path) (content : Text) : Prop where
  others : ∀ name ∈ fileNames, name ≠ projectFile → d.isFile (dir.join ⟨name⟩) = false
  isFile : d.isFile (dir.join ⟨projectFile⟩) = true
  read : d.readText? (dir.join ⟨projectFile⟩) = .ok content

section OnlyProject

variable {d : Disk} {dir : Path} {content : Text}

theorem fileName?_join_projectFile (dir : Path) :
    (dir.join ⟨projectFile⟩).fileName? = some projectFile := by
  have hname : (⟨projectFile⟩ : Path).components = [projectFile].map .name := by decide +kernel
  exact Path.fileName?_of_components (Path.components_join hname)

/-- The project file is found exactly if it mentions the options. -/
theorem discover_of_project (h : OnlyProject d dir content) :
    discover d dir = if mentionsOptions content then some (dir.join ⟨projectFile⟩) else none := by
  have hother : ∀ name ∈ fileNames, name ≠ projectFile → isCandidate d dir name = false := by
    intro name hmem hname
    rw [isCandidate, h.others name hmem hname, Bool.false_and]
  have hproject : isCandidate d dir projectFile = mentionsOptions content := by
    rw [isCandidate, h.isFile, h.read, bne_self_eq_false, Bool.true_and, Bool.false_or]
    rfl
  -- the project file comes last, behind two names that are no files here
  rw [discover, fileNames, List.find?_cons_of_neg, List.find?_cons_of_neg]
  · cases hmention : mentionsOptions content with
    | true =>
      rw [List.find?_cons_of_pos (hproject.trans hmention)]
      rfl
    | false =>
      rw [List.find?_cons_of_neg]
      · rfl
      · rw [hproject, hmention]
        decide
  · rw [hother _ (by decide) (by decide)]
    decide
  · rw [hother _ (by decide) (by decide)]
    decide

/-- What is loaded: nothing without a mention, and otherwise the options of the file, which are the
default ones if it has none. -/
theorem load_of_project (h : OnlyProject d dir content) :
    load d none false dir =
      if mentionsOptions content then
        (ofProject (dir.join ⟨projectFile⟩) content).map fun c =>
          (c.getD {}, some (dir.join ⟨projectFile⟩))
      else .ok ({}, none) := by
  have hfind : (if false = true then none else none <|> discover d dir) = discover d dir := rfl
  rw [load, hfind, discover_of_project h]
  cases hmention : mentionsOptions content with
  | false => rfl
  | true =>
    have hname : ((dir.join ⟨projectFile⟩).fileName? == some projectFile) = true := by
      rw [fileName?_join_projectFile, beq_self_eq_true]
    simp only [if_true, loadFile, h.read, hname]
    cases ofProject (dir.join ⟨projectFile⟩) content with
    | error e => rfl
    | ok c => rfl

/-- **Project file.** Let a directory have no file of options but a project file that can be read.
What is loaded is what that file asks for exactly if the text mentions the options and the document
has them, or neither is the case. -/
theorem load_follows_project_iff (h : OnlyProject d dir content)
    (hvalid : (projectDocument? content).isSome = true) :
    load d none false dir = asked (dir.join ⟨projectFile⟩) content ↔
      mentionsOptions content = hasOptions content := by
  rw [load_of_project h, asked]
  cases hoptions : hasOptions content with
  | false =>
    -- no options: the file must not be named as their source
    rw [ofProject_of_not_hasOptions hvalid hoptions]
    cases mentionsOptions content with
    | false => simp [Except.map]
    | true => simp [Except.map]
  | true =>
    -- options or a mistake in them: without a mention they are passed over
    have hne : ofProject (dir.join ⟨projectFile⟩) content ≠ .ok none :=
      ofProject_of_hasOptions hoptions
    cases hproject : ofProject (dir.join ⟨projectFile⟩) content with
    | error e => cases mentionsOptions content <;> simp [Except.map]
    | ok c =>
      rcases c with _ | c
      · exact absurd hproject hne
      · cases mentionsOptions content <;> simp [Except.map]

end OnlyProject

/-- The disk with one directory, which holds a project file. -/
def projectDisk (content : Text) : Disk :=
  ⟨[(["work".toList], .directory), (["work".toList, projectFile], .file false content.utf8)], []⟩

theorem onlyProject_projectDisk {content : Text} (h : decodeUtf8? content.utf8 = some content) :
    OnlyProject (projectDisk content) (.ofString "work") content := by
  refine ⟨?_, rfl, ?_⟩
  · intro name hmem hname
    simp only [fileNames, List.mem_cons, List.not_mem_nil, or_false] at hmem
    rcases hmem with rfl | rfl | rfl
    · rfl
    · rfl
    · exact absurd rfl hname
  · have hread : (projectDisk content).read? ((Path.ofString "work").join ⟨projectFile⟩) =
        .ok content.utf8 := rfl
    rw [Disk.readText?, hread]
    simp only [h]

/-- The table is written with blanks and quotes, and a comment mentions it. -/
theorem load_follows_project_quoted :
    let content := "# see tool.shdoclint\n[tool . 'shdoclint']\nprompt = '%'\n".toList
    let path := Path.ofString "work/pyproject.toml"
    mentionsOptions content = hasOptions content ∧
      load (projectDisk content) none false (.ofString "work") =
        .ok ({ prompt := ['%'] }, some path) := by
  intro content path
  have honly : OnlyProject (projectDisk content) (.ofString "work") content :=
    onlyProject_projectDisk (by decide +kernel)
  have hvalid : (projectDocument? content).isSome = true := by decide +kernel
  have hboth : mentionsOptions content = hasOptions content := by decide +kernel
  have hasked : asked path content = .ok ({ prompt := ['%'] }, some path) := by decide +kernel
  exact ⟨hboth, ((load_follows_project_iff honly hvalid).mpr hboth).trans hasked⟩

/-- Options in an inline table are passed over, because the text does not mention them as they are
looked for. And a comment that mentions them makes a file count that has none. -/
theorem mention_and_table_go_apart :
    (¬ ∀ d dir content c, OnlyProject d dir content → (projectDocument? content).isSome = true →
        ofProject (dir.join ⟨projectFile⟩) content = .ok (some c) →
        load d none false dir = .ok (c, some (dir.join ⟨projectFile⟩))) ∧
      ¬ ∀ d dir content, OnlyProject d dir content → (projectDocument? content).isSome = true →
        ofProject (dir.join ⟨projectFile⟩) content = .ok none →
        load d none false dir = .ok ({}, none) := by
  constructor
  · intro hall
    let content := "[tool]\nshdoclint = \x7bprompt = '%'\x7d\n".toList
    have honly : OnlyProject (projectDisk content) (.ofString "work") content :=
      onlyProject_projectDisk (by decide +kernel)
    have hloaded := hall _ _ content { prompt := ['%'] } honly (by decide +kernel)
      (by decide +kernel)
    rw [load_of_project honly, if_neg (by decide +kernel)] at hloaded
    exact absurd (congrArg Prod.snd (Except.ok.inj hloaded)) (by simp)
  · intro hall
    let content := "# no tool.shdoclint here\n".toList
    have honly : OnlyProject (projectDisk content) (.ofString "work") content :=
      onlyProject_projectDisk (by decide +kernel)
    have hloaded := hall _ _ content honly (by decide +kernel) (by decide +kernel)
    have hnone : ofProject ((Path.ofString "work").join ⟨projectFile⟩) content = .ok none := by
      decide +kernel
    rw [load_of_project honly, if_pos (by decide +kernel), hnone] at hloaded
    exact absurd (congrArg Prod.snd (Except.ok.inj hloaded)) (by simp)

end TranscriptLint.Config
