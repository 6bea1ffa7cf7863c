import TranscriptLint.FileTree
import TranscriptLint.Ignore
import TranscriptLint.Notice

namespace TranscriptLint

/-!
# Finding documents

Files given by name are always taken. Directories are searched for files with the extensions of
documents, and leave out what the exclude patterns, the rule files in the tree and a leading dot
leave out.

* `Discovery.findDocuments` gives the documents in the order of their paths, each once.
* `Discovery.walk` searches one directory.
-/

namespace Discovery

/-! ## Exclude patterns -/

/-- A pattern without wildcards names a directory and everything below it. -/
def expandPattern (pattern : Text) : List Text :=
  if pattern.any fun c => c == '*' || c == '?' || c == '[' then [pattern]
  else
    let base := Text.dropEnd (· == '/') pattern
    [base, base ++ "/**".toList]

/-- The rule of an exclude pattern. -/
def excludeRule (pattern : Text) : Except Glob.Error (Option IgnoreRule) :=
  IgnoreRule.ofLine false ('!' :: pattern)

/-- The rules of the exclude patterns that can be read. A rule that matches leaves a path out. -/
def excludeRules (patterns : List Text) : RuleList :=
  ⟨".".toList, patterns.filterMap fun p => match excludeRule p with
    | .ok rule => rule
    | .error _ => none⟩

/-- The warning for an exclude pattern that cannot be read. -/
def excludeWarning (pattern : Text) : List Notice :=
  match excludeRule pattern with
  | .ok _ => []
  | .error e =>
    [.warning .search ("Invalid exclude pattern '".toList ++ pattern ++
      "': error parsing glob '".toList ++ IgnoreRule.trimLine ('!' :: pattern) ++ "': ".toList ++
      e.message)]

/-! ## Rule files -/

/-- The rules of one directory. -/
structure DirectoryRules where
  /-- The directory as the search writes it. -/
  dir : Text
  ignore : RuleList
  git : RuleList
  gitExclude : RuleList
deriving DecidableEq, Repr

/-- Reads a file of rules for a directory. -/
def ruleFile (d : Disk) (dir path : Path) : RuleList × Bool :=
  match d.isFile path, d.read? path with
  | true, .ok content => RuleList.ofFile dir.text content
  | _, _ => (⟨dir.text, []⟩, false)

/-- Where a search for something led. -/
inductive Lead where
  | found (path : Path)
  | lost
  /-- Something on the way is not a file of text. -/
  | broken
deriving DecidableEq, Repr

/-- Goes on with the first line of a file. -/
def Lead.ofLine (d : Disk) (file : Path) (next : Text → Lead) : Lead :=
  match d.read? file with
  | .error .isADirectory => .broken
  | .error _ | .ok [] => .lost
  | .ok content =>
    let line := content.takeWhile (· != 0x0A)
    match Text.decodeUtf8? line with
    | none => .broken
    | some t => next (if line.length < content.length then Text.chompReturn t else t)

/-- The directory that holds the data of a repository. A file in its place names another directory,
and a file in that one the directory which both share. Both names start at the current directory,
unless the second begins with a dot. -/
def gitDirectory (d : Disk) (dir : Path) : Lead :=
  let here := dir.join (.ofString ".git")
  if !d.isFile here then .found here
  else
    .ofLine d here fun line =>
      match Text.after? line "gitdir: ".toList with
      | none => .lost
      | some name =>
        let own : Path := ⟨name⟩
        .ofLine d (own.join (.ofString "commondir")) fun shared =>
          .found (if shared.head? == some '.' then own.join ⟨shared⟩ else ⟨shared⟩)

/-- The rules of a directory; the flag says that some could not be read. -/
def directoryRules (d : Disk) (dir : Path) : DirectoryRules × Bool :=
  let ignore := ruleFile d dir (dir.join (.ofString ".ignore"))
  let git := ruleFile d dir (dir.join (.ofString ".gitignore"))
  let gitExclude := match gitDirectory d dir with
    | .found g => ruleFile d dir (g.join (.ofString "info/exclude"))
    | .lost => (⟨dir.text, []⟩, false)
    | .broken => (⟨dir.text, []⟩, true)
  ({ dir := dir.text, ignore := ignore.1, git := git.1, gitExclude := gitExclude.1 },
   ignore.2 || git.2 || gitExclude.2)

/-- The first verdict of a kind of rules, from the innermost directory out. -/
def firstVerdict (rules : List RuleList) (path : Text) (isDirectory : Bool) : Option Verdict :=
  rules.findSome? fun rs => rs.verdict path isDirectory

/-- What is known while a directory is searched. -/
structure Search where
  exclude : RuleList
  /-- The directory the search started at, as it was given, and its absolute path. -/
  root : Path
  absoluteRoot : Path
  /-- The rules of the directories above the start, innermost first. -/
  above : List DirectoryRules
deriving DecidableEq, Repr

/-- The absolute path of a path in the search. -/
def Search.absolute (s : Search) (path : Text) : Text :=
  if s.root.text == ".".toList then (s.absoluteRoot.join ⟨path⟩).text
  else
    let base := RuleList.stripHere s.root.text
    let rest := (path.after? base).getD path
    (s.absoluteRoot.join ⟨(Text.after? rest "/".toList).getD rest⟩).text

/-- The verdict of one kind of rules: first the directories of the search, then those above it. -/
def Search.kindVerdict (s : Search) (kind : DirectoryRules → RuleList)
    (inside : List DirectoryRules) (path : Text) (isDirectory : Bool) : Option Verdict :=
  firstVerdict (inside.map kind) path isDirectory <|>
    firstVerdict (s.above.map kind) (s.absolute path) isDirectory

/-- The verdict of the rule files. A repository inside another one is under the rules of both. -/
def Search.ruleVerdict (s : Search) (inside : List DirectoryRules) (path : Text)
    (isDirectory : Bool) : Option Verdict :=
  s.kindVerdict DirectoryRules.ignore inside path isDirectory <|>
    s.kindVerdict DirectoryRules.git inside path isDirectory <|>
    s.kindVerdict DirectoryRules.gitExclude inside path isDirectory

/-! ## Searching -/

/-- The endings of names of documents. -/
def extensions : List Text :=
  [".rst".toList, ".rest".toList, ".md".toList, ".markdown".toList]

/-- Whether a name is that of a document. -/
def isDocumentName (name : Text) : Bool := extensions.any name.endsWith

/-- Whether an entry of a directory is left out. Files without the ending of a document are, and
names with a leading dot unless something keeps them. -/
def Search.leavesOut (s : Search) (inside : List DirectoryRules) (path : Path) (name : Text)
    (isDirectory : Bool) : Bool :=
  let text := RuleList.stripHere path.text
  if (s.exclude.verdict text isDirectory).isSome then true
  else
    match s.ruleVerdict inside text isDirectory with
    | some .ignored => true
    | verdict =>
      if isDirectory then verdict.isNone && name.head? == some '.' else !isDocumentName name

/-- Searches a directory; `depth` bounds how deep. `inside` holds the rules of the directories from
the start down to this one, innermost first. Only rule files on the disk count: the file that a user
may have for all of the repositories is left out. -/
def Search.walk (s : Search) (d : Disk) :
    Nat → List DirectoryRules → List Text → Path → List Path
  | 0, _, _, _ => []
  | depth + 1, outer, names, path =>
    let inside := (directoryRules d path).1 :: outer
    (d.tree.children names).flatMap fun child =>
      let childPath := path.join ⟨child.1⟩
      match child.2 with
      | .directory =>
        if s.leavesOut inside childPath child.1 true then []
        else s.walk d depth inside (names ++ [child.1]) childPath
      | e =>
        if !e.isFile || s.leavesOut inside childPath child.1 false then [] else [childPath]

/-- The names of the directories above a directory, innermost first. -/
def namesAbove (names : List Text) : List (List Text) :=
  ((List.range names.length).map fun k => names.take k).reverse

/-- Searching failed because of a rule file above the start. -/
inductive SearchError where
  | badRules
deriving DecidableEq, Repr

/-- The wording of a failed search. -/
def SearchError.message : SearchError → Text
  | .badRules => "invalid pattern in an ignore file".toList

/-- The documents below a directory, with paths as the search writes them. A directory `-` is like
any other here, not a name for the standard input. -/
def walk (d : Disk) (exclude : RuleList) (root : Path) : Except SearchError (List Path) :=
  match d.locate root with
  | .ok (.entry names .directory) =>
    let above := (namesAbove names).map fun ns => directoryRules d (Disk.pathOf ns)
    if above.any Prod.snd then .error .badRules
    else
      let s : Search :=
        { exclude, root, absoluteRoot := Disk.pathOf names, above := above.map Prod.fst }
      .ok (s.walk d (d.tree.length + 1) [] names root)
  | _ => .ok []

/-! ## Documents -/

/-- A path without a leading `.` component. -/
def normalize (p : Path) : Path := p.dropHere?.getD p

/-- The paths without those that have the same components as the one before. -/
def dropRepeats : List Path → List Path
  | [] => []
  | p :: ps =>
    p :: match dropRepeats ps with
      | q :: rest => if p.same q then rest else q :: rest
      | [] => []

/-- The documents of all directories. -/
def walkAll (d : Disk) (exclude : RuleList) : List Path → Except SearchError (List Path)
  | [] => .ok []
  | dir :: dirs =>
    match walk d exclude dir with
    | .error e => .error e
    | .ok found =>
      match walkAll d exclude dirs with
      | .error e => .error e
      | .ok rest => .ok (found.map normalize ++ rest)

/-- The documents that paths stand for, and what the user should know. No paths stand for the
current directory. -/
def findDocuments (d : Disk) (paths : List Path) (exclude : List Text) :
    Except SearchError (List Path) × List Notice :=
  let paths := if paths.isEmpty then [.ofString "."] else paths
  let files := paths.filter d.isFile
  let dirs := paths.filter d.isDirectory
  let missing := (paths.filter fun p => !d.exists? p).map fun p =>
    Notice.warning .search ("Path not found: ".toList ++ p.text)
  let patterns := exclude.flatMap expandPattern
  let invalid := if dirs.isEmpty then [] else patterns.flatMap excludeWarning
  let found := (walkAll d (excludeRules patterns) dirs).map fun walked =>
    dropRepeats ((files ++ walked).mergeSort Path.le)
  (found, missing ++ invalid)

end Discovery
end TranscriptLint
