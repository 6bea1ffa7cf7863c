import Mathlib.Data.List.TakeWhile
import TranscriptLint.Rest

namespace TranscriptLint.Rest

/-! # Sections of a document

A line that begins at column zero lies outside of every directive above it. A document that is cut
before such a line can therefore be scanned in two parts.

* `takeWhile_isNested_append`: the body of a directive ends before the cut.
* `scanFrom_append`: the scanner arrives at the cut with no line left to skip.
* `scanFrom_moved`: moving lines down moves the items and changes nothing else.
* `scan_append_sections`: the items of a document are those of its two parts.
-/

/-- Lines with which a new section can begin: there are none, or the first of them is not blank and
stands at column zero. -/
def BeginsSection (lines : List Text) : Prop :=
  ∀ line ∈ lines.head?, line.isBlank = false ∧ line.indentWidth = 0

/-- The same item, found `n` lines further down. -/
def Item.moved (n : Nat) : Item → Item
  | .literal b => .literal { b with firstLine := b.firstLine + n }
  | .autodoc line target => .autodoc (line + n) target

/-! ## One line of the scanner -/

section
variable {line : Text} {i : Nat} {rest : List Text}

theorem scanFrom_cons_of_none (h : Directive.ofLine? line = none) :
    scanFrom i 0 (line :: rest) = scanFrom (i + 1) 0 rest := by
  rw [scanFrom, h]

theorem scanFrom_cons_of_autofunction {target : Text}
    (h : Directive.ofLine? line = some (.autofunction target)) :
    scanFrom i 0 (line :: rest) = .autodoc i target :: scanFrom (i + 1) 0 rest := by
  rw [scanFrom, h]

theorem scanFrom_cons_of_code {indent : Nat} {language : Text}
    (h : Directive.ofLine? line = some (.code indent language)) :
    scanFrom i 0 (line :: rest) =
      (bodyBlock? language (i + 1) (rest.takeWhile (isNested indent))).toList.map .literal ++
        scanFrom (i + 1) (rest.takeWhile (isNested indent)).length rest := by
  rw [scanFrom, h]

end

/-! ## Moving lines down -/

theorem bodyBlock?_moved (language : Text) (first n : Nat) (body : List Text) :
    (bodyBlock? language (first + n) body).toList.map Item.literal =
      ((bodyBlock? language first body).toList.map Item.literal).map (Item.moved n) := by
  simp only [bodyBlock?]
  split
  · rfl
  · rw [Nat.add_right_comm first n]
    rfl

/-- Line numbers are only counted and never looked at. -/
theorem scanFrom_moved (i n skip : Nat) (lines : List Text) :
    scanFrom (i + n) skip lines = (scanFrom i skip lines).map (Item.moved n) := by
  induction lines generalizing i skip with
  | nil => rfl
  | cons line rest ih =>
    have hrest : ∀ skip, scanFrom (i + n + 1) skip rest =
        (scanFrom (i + 1) skip rest).map (Item.moved n) := by
      intro skip
      rw [Nat.add_right_comm i n 1]
      exact ih (i + 1) skip
    cases skip with
    | succ skip => exact hrest skip
    | zero =>
      cases hdir : Directive.ofLine? line with
      | none =>
        rw [scanFrom_cons_of_none hdir, scanFrom_cons_of_none hdir]
        exact hrest 0
      | some directive =>
        cases directive with
        | autofunction target =>
          rw [scanFrom_cons_of_autofunction hdir, scanFrom_cons_of_autofunction hdir, hrest 0]
          rfl
        | code indent language =>
          rw [scanFrom_cons_of_code hdir, scanFrom_cons_of_code hdir, hrest, List.map_append,
            Nat.add_right_comm i n 1, bodyBlock?_moved]

/-! ## The cut -/

/-- The line behind the cut is in the body of no directive. -/
theorem BeginsSection.not_isNested {line : Text} {rest : List Text}
    (h : BeginsSection (line :: rest)) (indent : Nat) : isNested indent line = false := by
  obtain ⟨hblank, hwidth⟩ := h line rfl
  rw [isNested, hblank, hwidth]
  rfl

/-- No directive before the cut has a body that goes on behind it, whatever its indentation. -/
theorem takeWhile_isNested_append {b : List Text} (h : BeginsSection b) (indent : Nat)
    (a : List Text) :
    (a ++ b).takeWhile (isNested indent) = a.takeWhile (isNested indent) := by
  have hb : b.takeWhile (isNested indent) = [] := by
    cases b with
    | nil => rfl
    | cons line rest =>
      apply List.takeWhile_cons_of_neg
      rw [h.not_isNested indent]
      decide
  rw [List.takeWhile_append]
  split
  · next hall =>
    -- the whole of `a` is body
    have hself : a.takeWhile (isNested indent) = a :=
      (List.takeWhile_prefix (isNested indent)).eq_of_length hall
    rw [hb, List.append_nil, hself]
  · rfl

/-- The scanner passes the cut between two lines of its own: the lines that it still has to skip
lie before the cut. -/
theorem scanFrom_append {b : List Text} (h : BeginsSection b) (i skip : Nat) (a : List Text)
    (hskip : skip ≤ a.length) :
    scanFrom i skip (a ++ b) = scanFrom i skip a ++ scanFrom (i + a.length) 0 b := by
  induction a generalizing i skip with
  | nil =>
    obtain rfl := Nat.le_zero.mp hskip
    rfl
  | cons line rest ih =>
    have hlen : i + (line :: rest).length = i + 1 + rest.length := by
      rw [List.length_cons]
      omega
    rw [hlen, List.cons_append]
    cases skip with
    | succ skip => exact ih (i + 1) skip (Nat.le_of_succ_le_succ hskip)
    | zero =>
      have hrest := ih (i + 1) 0 (Nat.zero_le _)
      cases hdir : Directive.ofLine? line with
      | none =>
        rw [scanFrom_cons_of_none hdir, scanFrom_cons_of_none hdir]
        exact hrest
      | some directive =>
        cases directive with
        | autofunction target =>
          rw [scanFrom_cons_of_autofunction hdir, scanFrom_cons_of_autofunction hdir, hrest]
          rfl
        | code indent language =>
          -- the body is the same with and without `b`, and so is the place where scanning goes on
          have hle := (List.takeWhile_prefix (isNested indent) (l := rest)).length_le
          rw [scanFrom_cons_of_code hdir, scanFrom_cons_of_code hdir,
            takeWhile_isNested_append h, ih (i + 1) _ hle, List.append_assoc]

/-- **Sections.** A document whose second part begins a section is scanned part by part: its items
are those of the first part, followed by those of the second part with their lines counted from the
beginning of the document. -/
theorem scan_append_sections (a b : List Text) (h : BeginsSection b) :
    scan (a ++ b) = scan a ++ (scan b).map (Item.moved a.length) := by
  unfold scan
  rw [scanFrom_append h 0 0 a (Nat.zero_le _), scanFrom_moved]

/-- The first part breaks off in the body of a directive, below an option and before a blank
line. -/
theorem scan_append_sections_open_directive :
    let a := ["* item".toList, "  .. code:: sh".toList, "     :linenos:".toList, [],
      "     $ ls".toList, []]
    let b := [".. autofunction:: m.f".toList, ".. code:: bash".toList, "  $ pwd".toList]
    BeginsSection b ∧
      scan (a ++ b) = scan a ++ (scan b).map (Item.moved 6) ∧
      scan (a ++ b) =
        [.literal ⟨"sh".toList, ["$ ls".toList], 4, 5⟩, .autodoc 6 "m.f".toList,
          .literal ⟨"bash".toList, ["$ pwd".toList], 8, 2⟩] := by
  intro a b
  have hb : BeginsSection b := by
    intro line hline
    rw [← Option.some.inj hline]
    decide
  exact ⟨hb, scan_append_sections a b hb, by decide +kernel⟩

end TranscriptLint.Rest
