import TranscriptLint.Proofs.CheckStages
import TranscriptLint.Proofs.Decimal
import TranscriptLint.Proofs.DocstringOwner

namespace TranscriptLint.Version

/-! # The version of the linter

A linter says its version in a line of its own, and programs write versions in many ways. What is
accepted is said here without the reader: `Written v t` and `Announced v output`.

* `read?_of_written`: three numbers come back from whatever stands around them.
* `ofOutput?_of_announced`: the first line with a version counts.
* `written_version_is_read`: both, and what the version decides.
-/

/-- The numbers of a version fit into 32 bits. -/
structure Fits (v : Version) : Prop where
  major : v.major < 2 ^ 32
  minor : v.minor < 2 ^ 32
  patch : v.patch < 2 ^ 32

/-- A version as a program may write it: behind whitespace and any number of `v`s, and with anything
behind it that does not go on with a digit. -/
def Written (v : Version) (t : Text) : Prop :=
  ∃ (blanks : Text) (n : Nat) (suffix : Text), blanks.isBlank = true ∧
    (∀ c ∈ suffix.head?, c.isDigit = false) ∧
    t = blanks ++ (List.replicate n 'v' ++ (v.text ++ suffix))

/-- The first line of an output that begins with `version:` behind its whitespace names a version.
The line may be the last one, or a line feed and any further lines follow. -/
def Announced (v : Version) (output : Text) : Prop :=
  ∃ (before : List Text) (written rest : Text),
    (∀ line ∈ before, '\n' ∉ line ∧ ¬ "version:".toList <+: line.trim) ∧
    v.Written written ∧ '\n' ∉ written ∧ (rest = [] ∨ ∃ more, rest = '\n' :: more) ∧
    output = before.flatMap (· ++ ['\n']) ++ ("version: ".toList ++ written ++ rest)

/-! ## Reading a version -/

theorem number?_ofNat_append {n : Nat} (h : n < 2 ^ 32) {rest : Text}
    (hrest : ∀ c ∈ rest.head?, c.isDigit = false) : number? (Text.ofNat n ++ rest) = some n := by
  have hle : n ≤ maxNumber := Nat.le_of_lt_succ h
  rw [number?, Text.takeWhile_isDigit_ofNat_append n hrest, Text.toNat?_ofNat]
  simp [hle]

theorem number?_ofNat {n : Nat} (h : n < 2 ^ 32) : number? (Text.ofNat n) = some n := by
  have hnumber : number? (Text.ofNat n ++ []) = some n := number?_ofNat_append h (by simp)
  rwa [List.append_nil] at hnumber

theorem text_eq (v : Version) :
    v.text = Text.ofNat v.major ++ '.' :: (Text.ofNat v.minor ++ '.' :: Text.ofNat v.patch) := by
  simp [text]

/-- A version begins with a digit. -/
theorem exists_text_eq_cons (v : Version) : ∃ c t, v.text = c :: t ∧ c.isDigit = true := by
  obtain ⟨c, t, hmajor⟩ := List.exists_cons_of_ne_nil (Text.ofNat_ne_nil v.major)
  refine ⟨c, t ++ '.' :: (Text.ofNat v.minor ++ '.' :: Text.ofNat v.patch), ?_, ?_⟩
  · rw [text_eq, hmajor, List.cons_append]
  · exact Text.isDigit_of_mem_ofNat (by rw [hmajor]; exact List.mem_cons_self)

/-- A version ends with a digit. -/
theorem exists_text_eq_concat (v : Version) : ∃ t c, v.text = t ++ [c] ∧ c.isDigit = true := by
  obtain ⟨t, c, hpatch⟩ :=
    (List.eq_nil_or_concat' (Text.ofNat v.patch)).resolve_left (Text.ofNat_ne_nil v.patch)
  refine ⟨Text.ofNat v.major ++ '.' :: (Text.ofNat v.minor ++ '.' :: t), c, ?_, ?_⟩
  · rw [text_eq, hpatch]
    simp
  · exact Text.isDigit_of_mem_ofNat (by rw [hpatch]; simp)

/-- Trailing whitespace is only taken off what follows a version. -/
theorem trimEnd_append_text (front : Text) (v : Version) (suffix : Text) :
    Text.trimEnd (front ++ (v.text ++ suffix)) = front ++ (v.text ++ Text.trimEnd suffix) := by
  obtain ⟨t, c, htext, hdigit⟩ := v.exists_text_eq_concat
  have hwhite := Text.isWhite_eq_false_of_isDigit hdigit
  have hcut := Text.trimEnd_append_cons (front ++ t) hwhite suffix
  rw [htext]
  simpa using hcut

/-- All `v`s are passed over, up to the first digit. -/
theorem dropWhile_vs (n : Nat) (v : Version) (suffix : Text) :
    (List.replicate n 'v' ++ (v.text ++ suffix)).dropWhile (· == 'v') = v.text ++ suffix := by
  obtain ⟨c, t, htext, hdigit⟩ := v.exists_text_eq_cons
  have hc : (c == 'v') = false := by
    rw [beq_eq_false_iff_ne]
    rintro rfl
    exact absurd hdigit (by decide)
  have hvs : ∀ d ∈ List.replicate n 'v', (d == 'v') = true := by
    intro d hd
    rw [List.eq_of_mem_replicate hd]
    rfl
  rw [List.dropWhile_append_of_pos hvs, htext, List.cons_append,
    List.dropWhile_cons_of_neg (by simp [hc])]

/-- Neither a `v` nor a digit is whitespace. -/
theorem trimStart_vs (n : Nat) (v : Version) (suffix : Text) :
    Text.trimStart (List.replicate n 'v' ++ (v.text ++ suffix)) =
      List.replicate n 'v' ++ (v.text ++ suffix) := by
  cases n with
  | zero =>
    obtain ⟨c, t, htext, hdigit⟩ := v.exists_text_eq_cons
    rw [htext]
    exact Text.trimStart_cons (Text.isWhite_eq_false_of_isDigit hdigit) _
  | succ n =>
    rw [List.replicate_succ, List.cons_append]
    exact Text.trimStart_cons (by decide) _

/-- A dot ends the digits of a number. -/
theorem number?_takeWhile (piece : Text) :
    number? (piece.takeWhile (· != '.')) = number? piece := by
  have hdigit : ∀ c : Char, (c.isDigit && c != '.') = c.isDigit := by
    intro c
    cases hc : c.isDigit with
    | false => rfl
    | true =>
      rw [Bool.true_and, bne_iff_ne]
      rintro rfl
      exact absurd hc (by decide)
  rw [number?, number?, List.takeWhile_takeWhile]
  simp only [← Bool.and_eq_decide, hdigit]

/-- Three numbers with dots between them are read back, whatever follows the last one. -/
theorem read?_of_written {v : Version} (hv : v.Fits) {t : Text} (h : v.Written t) :
    read? t = some v := by
  obtain ⟨blanks, n, suffix, hblanks, hsuffix, rfl⟩ := h
  have hend : ∀ c ∈ (Text.trimEnd suffix).head?, c.isDigit = false := fun c hc =>
    hsuffix c (Text.mem_head?_of_mem_head?_trimEnd hc)
  have hdot : ∀ k, '.' ∉ Text.ofNat k := Text.not_mem_ofNat (by decide)
  -- the last number is followed by what is left of the suffix, which may hold more dots
  have hpatch : (Text.splitOn '.' (Text.ofNat v.patch ++ Text.trimEnd suffix)).head?.bind number? =
      some v.patch := by
    rw [Text.head?_splitOn, Option.bind_some, number?_takeWhile,
      number?_ofNat_append hv.patch hend]
  rw [read?, Text.trim, Text.trimStart_append_of_isBlank hblanks, trimStart_vs, trimEnd_append_text,
    dropWhile_vs, text_eq, List.append_assoc, List.cons_append, List.append_assoc, List.cons_append,
    List.splitOn_append_cons_self_of_not_mem (hdot _),
    List.splitOn_append_cons_self_of_not_mem (hdot _)]
  simp only [number?_ofNat hv.major, number?_ofNat hv.minor, hpatch]
  rfl

/-! ## Finding a version -/

/-- What follows the mark in the line that names a version is again a text in which it is
written. -/
theorem exists_after?_of_written {v : Version} {written : Text} (h : v.Written written) :
    ∃ t, (Text.trim ("version: ".toList ++ written)).after? "version:".toList = some t ∧
      v.Written t := by
  obtain ⟨blanks, n, suffix, hblanks, hsuffix, rfl⟩ := h
  refine ⟨' ' :: blanks ++ (List.replicate n 'v' ++ (v.text ++ Text.trimEnd suffix)), ?_,
    ' ' :: blanks, n, Text.trimEnd suffix, ?_, ?_, rfl⟩
  · have hend := trimEnd_append_text ("version: ".toList ++ blanks ++ List.replicate n 'v') v suffix
    have hstart : Text.trimStart ("version: ".toList ++
        (blanks ++ (List.replicate n 'v' ++ (v.text ++ suffix)))) = "version: ".toList ++
        (blanks ++ (List.replicate n 'v' ++ (v.text ++ suffix))) :=
      Text.trimStart_cons (by decide) _
    simp only [List.append_assoc] at hend
    rw [Text.after?_eq_some_iff, Text.trim, hstart, hend]
    rfl
  · rw [Text.isBlank, List.all_cons, ← Text.isBlank, hblanks]
    decide
  · exact fun c hc => hsuffix c (Text.mem_head?_of_mem_head?_trimEnd hc)

theorem ofOutput?_of_announced {v : Version} (hv : v.Fits) {output : Text}
    (h : v.Announced output) : ofOutput? output = some v := by
  obtain ⟨before, written, rest, hbefore, hwritten, hline, hrest, rfl⟩ := h
  have hfree : '\n' ∉ "version: ".toList ++ written := by simp [hline]
  obtain ⟨first, more, hlines, hfirst⟩ := Text.exists_lines_eq_cons hfree (by simp) hrest
  obtain ⟨t, hafter, ht⟩ := exists_after?_of_written hwritten
  -- a carriage return that a line has lost is whitespace and would have been trimmed
  have hskipped : (before.map Text.chompReturn).findSome?
      (fun line => line.trim.after? "version:".toList) = none := by
    rw [List.findSome?_eq_none_iff]
    intro line hmem
    obtain ⟨raw, hraw, rfl⟩ := List.mem_map.mp hmem
    rw [Text.trim_chompReturn, Option.eq_none_iff_forall_ne_some]
    intro t ht
    exact (hbefore raw hraw).2 ⟨t, (Text.after?_eq_some_iff.mp ht).symm⟩
  rw [ofOutput?, Text.lines_flatMap_append fun line hmem => (hbefore line hmem).1,
    List.findSome?_append, hskipped, Option.none_or, hlines, List.findSome?_cons, hfirst, hafter]
  exact read?_of_written hv ht

/-- **Versions are read back.** A version whose numbers fit into 32 bits is read from every text in
which it is written behind whitespace and `v`s and with any suffix. It is found in every output that
names it in the first line with a version, and a linter with that output is rejected as too old
exactly if the version is below 0.4. -/
theorem written_version_is_read (v : Version) (hv : v.Fits) :
    (∀ t, v.Written t → read? t = some v) ∧
      ∀ output, v.Announced output → ofOutput? output = some v ∧
        ∀ {σ : Type} (h : Host σ) (d : Disk) (e : Environment) (name : Text) (s s' : σ)
          (path : Path) (c : Completion), Lookup.which d e name = some path →
          h.run d [path.text, "--version".toList] s = (.ok c, s') →
          Text.decodeLossy c.stdout = output →
          Lookup.linter h d e name s =
            (if v.major = 0 ∧ v.minor < 4 then .error (.linterTooOld path v) else .ok (path, v),
              s') := by
  refine ⟨fun t ht => read?_of_written hv ht, fun output houtput => ?_⟩
  have hfound := ofOutput?_of_announced hv houtput
  refine ⟨hfound, ?_⟩
  intro σ h d e name s s' path c hwhich hrun hstdout
  have hquery : Lookup.queryVersion h d path s = (some v, s') := by
    rw [Lookup.queryVersion, hrun]
    simp only [hstdout, hfound]
  rw [Check.linter_of_found hwhich, hquery]
  have hold := Check.isSupported_eq_false_iff v
  cases hsupported : v.isSupported with
  | false =>
    rw [if_pos (hold.mp hsupported)]
    simp [hsupported]
  | true =>
    rw [if_neg fun hbelow => absurd (hold.mpr hbelow) (by simp [hsupported])]
    simp [hsupported]

/-- The greatest number that fits, behind a tab, two `v`s and with a suffix that holds a dot and a
carriage return. A line that only looks like the one with the version comes first, and another
version after it. -/
theorem written_version_is_read_outdated :
    let v : Version := ⟨0, 3, 4294967295⟩
    let written : Text := "\tvv0.3.4294967295-rc.1\r".toList
    let output : Text := "ShellCheck\r\n the version: 1\nversion: ".toList ++ written ++
      "\nversion: 0.9.0\n".toList
    let h : Host Nat := ⟨fun _ _ n => (.ok { stdout := Text.utf8 output }, n + 1)⟩
    let e : Environment := [("PATH".toList, "/bin".toList)]
    let d : Disk := ⟨[(["bin".toList], .directory),
      (["bin".toList, "shellcheck".toList], .file true [])], []⟩
    v.Fits ∧ v.Written written ∧ v.Announced output ∧
      Lookup.which d e "shellcheck".toList = some (.ofString "/bin/shellcheck") ∧
      Text.decodeLossy (Text.utf8 output) = output ∧
      read? written = some v ∧ ofOutput? output = some v ∧
      Lookup.linter h d e "shellcheck".toList 0 =
        (.error (.linterTooOld (.ofString "/bin/shellcheck") v), 1) := by
  intro v written output h e d
  have hv : v.Fits := ⟨by decide, by decide, by decide⟩
  have hwritten : v.Written written :=
    ⟨"\t".toList, 2, "-rc.1\r".toList, by decide, by simp, by decide +kernel⟩
  have houtput : v.Announced output := by
    refine ⟨["ShellCheck\r".toList, " the version: 1".toList], written,
      "\nversion: 0.9.0\n".toList, by decide, hwritten, by decide, .inr ⟨_, rfl⟩, by decide +kernel⟩
  have hwhich : Lookup.which d e "shellcheck".toList = some (.ofString "/bin/shellcheck") := by
    decide +kernel
  have hstdout : Text.decodeLossy (Text.utf8 output) = output := by decide +kernel
  obtain ⟨hread, hfound⟩ := written_version_is_read v hv
  obtain ⟨hversion, hlinter⟩ := hfound output houtput
  exact ⟨hv, hwritten, houtput, hwhich, hstdout, hread written hwritten, hversion,
    hlinter h d e _ 0 1 _ _ hwhich rfl hstdout⟩

end TranscriptLint.Version
