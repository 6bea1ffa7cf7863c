import TranscriptLint.FileTree

namespace TranscriptLint

/-! # Writing and reading back

A file that was written is found again at its path, because writing changes no directory on the way
to it.

* `Disk.follow_put`: a path that leads to a file, or to a free name, leads to what is put there.
* `Disk.Holds d p content`: there is a regular file at `p`, with this content. A write makes it so,
  unless the path leads to a device, and an update keeps it so.
-/

/-! ## Trees -/

namespace FileTree

theorem lookup_cons_ite (name other : List Text) (e : Entry) (t : FileTree) :
    List.lookup other ((name, e) :: t) = if other = name then some e else t.lookup other := by
  rw [List.lookup_cons]
  by_cases h : other = name
  · simp [h]
  · simp [h, beq_false_of_ne h]

theorem lookup_replace (t : FileTree) (names other : List Text) (e : Entry) :
    (t.map fun p => if p.1 == names then (names, e) else p).lookup other =
      if other = names then (t.lookup names).map fun _ => e else t.lookup other := by
  induction t with
  | nil => simp
  | cons p t ih =>
    obtain ⟨name, old⟩ := p
    by_cases hname : name = names
    · subst hname
      simp only [List.map_cons, beq_self_eq_true, if_true, lookup_cons_ite, ih]
      split <;> simp
    · have hne : names ≠ name := Ne.symm hname
      simp only [List.map_cons, beq_false_of_ne hname, Bool.false_eq_true, if_false,
        lookup_cons_ite, ih, hne]
      by_cases hother : other = names
      · simp [hother, hne]
      · simp [hother]

/-- Putting an entry changes what is found under its name, and nothing else. -/
theorem lookup_put (t : FileTree) (names other : List Text) (e : Entry) :
    (t.put names e).lookup other = if other = names then some e else t.lookup other := by
  unfold put
  split
  · next hany =>
    have hsome : (t.lookup names).isSome := by
      simpa [List.lookup_isSome_iff] using hany
    obtain ⟨old, hold⟩ := Option.isSome_iff_exists.mp hsome
    rw [lookup_replace, hold]
    rfl
  · next hany =>
    have hnone : t.lookup names = none := by
      rw [List.lookup_eq_none_iff]
      intro p hp
      rw [bne_iff_ne]
      intro heq
      exact hany (List.any_eq_true.mpr ⟨p, hp, by simp [heq]⟩)
    rw [List.lookup_append, lookup_cons_ite]
    split
    · next heq => simp [heq, hnone]
    · simp

theorem get?_put_self {t : FileTree} {names : List Text} (h : names ≠ []) (e : Entry) :
    (t.put names e).get? names = some e := by
  have hempty : names.isEmpty = false := by simpa using h
  rw [get?, hempty, if_neg (by simp), lookup_put, if_pos rfl]

theorem get?_put_of_ne {t : FileTree} {names other : List Text} (h : other ≠ names) (e : Entry) :
    (t.put names e).get? other = t.get? other := by
  rw [get?, get?, lookup_put, if_neg h]

end FileTree

/-! ## Paths -/

namespace Place

/-- The name of a place. -/
def names : Place → List Text
  | .entry names _ => names
  | .free names _ => names

/-- What is at a place. -/
def entry? : Place → Option Entry
  | .entry _ e => some e
  | .free .. => none

end Place

namespace Disk

/-- A path leads to what the tree has there. -/
theorem get?_of_follow {t : FileTree} {names pieces : List Text} {place : Place}
    (h : follow t names pieces = .ok place) : t.get? place.names = place.entry? := by
  fun_induction follow t names pieces with
  | case1 names e hget =>
    obtain rfl := Except.ok.inj h
    exact hget
  | case2 names hget =>
    obtain rfl := Except.ok.inj h
    exact hget
  | case3 _ _ _ _ _ ih => exact ih h
  | case4 _ _ _ _ ih => exact ih h
  | case5 _ _ _ _ _ _ ih => exact ih h
  | case6 => simp at h
  | case7 names _ _ hget _ =>
    obtain rfl := Except.ok.inj h
    exact hget
  | case8 => simp at h

/-- A path that does not mean a directory leads to what is put at its place. The directories on the
way have other names than the place, so that they stay. -/
theorem follow_put {t : FileTree} {names pieces : List Text} {place : Place}
    (h : follow t names pieces = .ok place) (hentry : place.entry? ≠ some .directory)
    (hfree : ∀ target, place ≠ .free target true) (e : Entry) :
    follow (t.put place.names e) names pieces = .ok (.entry place.names e) := by
  have hget := get?_of_follow h
  -- the root is a directory, so that the place has a name
  have hname : place.names ≠ [] := by
    intro hnil
    rw [hnil] at hget
    exact hentry hget.symm
  have hself := FileTree.get?_put_self (t := t) hname e
  have hstays : ∀ dir, t.get? dir = some .directory →
      (t.put place.names e).get? dir = some .directory := by
    intro dir hdir
    rw [FileTree.get?_put_of_ne _ e]
    · exact hdir
    · rintro rfl
      exact hentry (hget.symm.trans hdir)
  fun_induction follow t names pieces with
  | case1 names old hold =>
    obtain rfl := Except.ok.inj h
    rw [Place.names] at hself ⊢
    rw [follow, hself]
  | case2 names hnone =>
    obtain rfl := Except.ok.inj h
    rw [Place.names] at hself ⊢
    rw [follow, hself]
  | case3 names piece rest hdir hinert ih =>
    rw [follow, hstays _ hdir]
    simp only [hinert, if_true]
    exact ih h
  | case4 names rest hdir hinert ih =>
    rw [follow, hstays _ hdir]
    simp only [hinert, if_true]
    exact ih h
  | case5 names piece rest hdir hinert hup ih =>
    rw [follow, hstays _ hdir]
    simp only [hinert, hup, if_false]
    exact ih h
  | case6 => simp at h
  | case7 names _ _ _ _ =>
    obtain rfl := Except.ok.inj h
    exact absurd rfl (hfree names)
  | case8 => simp at h

theorem locate_put {d : Disk} {p : Path} {place : Place} (h : d.locate p = .ok place)
    (hentry : place.entry? ≠ some .directory) (hfree : ∀ target, place ≠ .free target true)
    (e : Entry) :
    ({ d with tree := d.tree.put place.names e } : Disk).locate p =
      .ok (.entry place.names e) := by
  unfold locate at h ⊢
  split at h
  · simp at h
  · next hne =>
    rw [if_neg hne]
    exact follow_put h hentry hfree e

/-! ## Updates -/

/-- There is a regular file at the path, with this content. -/
def Holds (d : Disk) (p : Path) (content : List UInt8) : Prop :=
  ∃ names executable, d.locate p = .ok (.entry names (.file executable content))

theorem Holds.read? {d : Disk} {p : Path} {content : List UInt8} (h : d.Holds p content) :
    d.read? p = .ok content := by
  obtain ⟨names, executable, hlocate⟩ := h
  rw [Disk.read?, hlocate]

theorem Holds.isFile {d : Disk} {p : Path} {content : List UInt8} (h : d.Holds p content) :
    d.isFile p = true := by
  obtain ⟨names, executable, hlocate⟩ := h
  rw [Disk.isFile, Disk.entry?, hlocate]
  rfl

/-- What an update can do: it puts a regular file at the place of the path, or the path leads to a
device that takes what it is given. The old content is that of a regular file; anything else counts
as empty. -/
theorem update?_cases {d d' : Disk} {p : Path} {f : List UInt8 → List UInt8}
    (h : d.update? p f = .ok d') :
    (∃ names executable old, d' = { d with tree := d.tree.put names (.file executable (f old)) } ∧
        d'.locate p = .ok (.entry names (.file executable (f old))) ∧
        ∀ content, d.Holds p content → content = old) ∨
      d' = d ∧ (d.entry? p = some .nullDevice ∨ d.entry? p = some .fullDevice ∧ f [] = []) := by
  unfold Disk.update? at h
  split at h
  · simp at h
  · next names hlocate =>
    obtain rfl := Except.ok.inj h
    refine .inl ⟨names, false, [], rfl, locate_put hlocate (by simp [Place.entry?]) (by simp) _, ?_⟩
    rintro content ⟨_, _, hfile⟩
    simp [hlocate] at hfile
  · simp at h
  · simp at h
  · next names executable content hlocate =>
    obtain rfl := Except.ok.inj h
    refine .inl ⟨names, executable, content, rfl,
      locate_put hlocate (by simp [Place.entry?]) (by simp) _, ?_⟩
    rintro content' ⟨_, _, hfile⟩
    simp only [hlocate, Except.ok.injEq, Place.entry.injEq, Entry.file.injEq] at hfile
    exact hfile.2.2.symm
  · next names _ hlocate =>
    obtain rfl := Except.ok.inj h
    refine .inl ⟨names, true, [], rfl, locate_put hlocate (by simp [Place.entry?]) (by simp) _, ?_⟩
    rintro content ⟨_, _, hfile⟩
    simp [hlocate] at hfile
  · next hlocate =>
    exact .inr ⟨(Except.ok.inj h).symm, .inl (by rw [Disk.entry?, hlocate])⟩
  · next hlocate =>
    split at h
    · next hempty =>
      exact .inr ⟨(Except.ok.inj h).symm,
        .inr ⟨by rw [Disk.entry?, hlocate], List.isEmpty_iff.mp hempty⟩⟩
    · simp at h

/-- An update does not change the current directory. -/
theorem update?_cwd {d d' : Disk} {p : Path} {f : List UInt8 → List UInt8}
    (h : d.update? p f = .ok d') : d'.cwd = d.cwd := by
  rcases update?_cases h with ⟨names, executable, old, rfl, -, -⟩ | ⟨rfl, -⟩ <;> rfl

/-- An update changes the content of a regular file as it says. -/
theorem Holds.update? {d d' : Disk} {p : Path} {content : List UInt8}
    {f : List UInt8 → List UInt8} (h : d.Holds p content) (hupdate : d.update? p f = .ok d') :
    d'.Holds p (f content) := by
  rcases update?_cases hupdate with ⟨names, executable, old, -, hlocate, hold⟩ | ⟨-, hdevice⟩
  · rw [hold content h]
    exact ⟨names, executable, hlocate⟩
  · -- a regular file is no device
    obtain ⟨names, executable, hfile⟩ := h
    simp [Disk.entry?, hfile] at hdevice

/-- After a write there is a regular file with what was written, unless the path leads to a
device. -/
theorem holds_of_write? {d d' : Disk} {p : Path} {t : Text} (h : d.write? p t = .ok d') :
    d'.Holds p t.utf8 ∨
      d' = d ∧ (d.entry? p = some .nullDevice ∨ d.entry? p = some .fullDevice) := by
  rcases update?_cases h with ⟨names, executable, _, -, hlocate, -⟩ | ⟨hsame, hnull | hfull⟩
  · exact .inl ⟨names, executable, hlocate⟩
  · exact .inr ⟨hsame, .inl hnull⟩
  · exact .inr ⟨hsame, .inr hfull.1⟩

end Disk
end TranscriptLint
