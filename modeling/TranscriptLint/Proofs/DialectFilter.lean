import TranscriptLint.Document

namespace TranscriptLint

/-! # Fewer dialects

A scanner asks for the wanted dialects in one place only: when it has found a literal block and has
read its language tag. So wanting fewer dialects takes blocks away and changes nothing else. The
bodies of the blocks that are left out are still skipped, and targets are still looked up.

* `Scanner.map_dialectOf?`: the one place, for blocks of documents and of docstrings alike.
* `Scanner.itemBlocks_wanting`: what one item of a document gives.
* `Scanner.scan_wanting_eq_filter`: what the whole document gives.
-/

theorem Dialect.mem_all (dialect : Dialect) : dialect ∈ all := by
  cases dialect <;> decide

/-- Whether a block is in one of the dialects. -/
def CodeBlock.isIn (ds : List Dialect) (b : CodeBlock) : Bool := decide (b.dialect ∈ ds)

namespace Scanner

/-- The same scanner, but it wants these dialects. -/
def wanting (s : Scanner) (ds : List Dialect) : Scanner := { s with dialects := ds }

variable (s : Scanner) (ds : List Dialect)

/-- A block made for the dialect of its tag is made for fewer dialects exactly if that dialect is
one of them. -/
theorem map_dialectOf? (tag : Text) {make : Dialect → CodeBlock}
    (hmake : ∀ dialect, (make dialect).dialect = dialect) :
    ((s.wanting ds).dialectOf? tag).map make =
      (((s.wanting Dialect.all).dialectOf? tag).map make).filter (·.isIn ds) := by
  unfold dialectOf?
  cases Dialect.ofName tag with
  | error e => rfl
  | ok dialect =>
    have hall : dialect ∈ (s.wanting Dialect.all).dialects := Dialect.mem_all dialect
    have hin : (make dialect).isIn ds = decide (dialect ∈ (s.wanting ds).dialects) := by
      rw [CodeBlock.isIn, hmake]
      rfl
    simp only [if_pos hall, Option.map_some, Option.filter, hin, decide_eq_true_eq]
    split <;> rfl

theorem documentBlock?_wanting (document : Path) (literal : LiteralBlock) :
    (s.wanting ds).documentBlock? document literal =
      ((s.wanting Dialect.all).documentBlock? document literal).filter (·.isIn ds) :=
  s.map_dialectOf? ds literal.language fun _ => rfl

theorem docstringBlock?_wanting (document : Path) (a : Autodoc) (literal : LiteralBlock) :
    (s.wanting ds).docstringBlock? document a literal =
      ((s.wanting Dialect.all).docstringBlock? document a literal).filter (·.isIn ds) :=
  s.map_dialectOf? ds literal.language fun _ => rfl

/-- An item gives the blocks of the wanted dialects, and its warnings whatever is wanted. -/
theorem itemBlocks_wanting (d : Disk) (document : Path) (item : Rest.Item) :
    ((s.wanting ds).itemBlocks d document item).1 =
        ((s.wanting Dialect.all).itemBlocks d document item).1.filter (·.isIn ds) ∧
      ((s.wanting ds).itemBlocks d document item).2 =
        ((s.wanting Dialect.all).itemBlocks d document item).2 := by
  cases item with
  | literal b =>
    refine ⟨?_, rfl⟩
    simp only [itemBlocks]
    rw [documentBlock?_wanting, Option.toList_filter]
  | autodoc line target =>
    -- nothing that a target is resolved with is a matter of dialects
    have hresolve : (s.wanting ds).resolve d document target =
        (s.wanting Dialect.all).resolve d document target := rfl
    simp only [itemBlocks, docstringBlocks, hresolve]
    split
    · exact ⟨rfl, rfl⟩
    · next a _ =>
      rw [List.filter_filterMap, funext (s.docstringBlock?_wanting ds document a)]
      exact ⟨rfl, rfl⟩

/-- **Wanting fewer dialects only filters.** Of the blocks that a scanner of all dialects finds in a
document, the scanner that wants only some finds exactly those of its dialects, in the same order
and with all that belongs to them, and it gives the same warnings. -/
theorem scan_wanting_eq_filter (d : Disk) (document : Path) (content : Text) :
    ((s.wanting ds).scan d document content).1 =
        ((s.wanting Dialect.all).scan d document content).1.filter
          (fun b => decide (b.dialect ∈ ds)) ∧
      ((s.wanting ds).scan d document content).2 =
        ((s.wanting Dialect.all).scan d document content).2 := by
  have hlines : (s.wanting ds).expandedLines content =
      (s.wanting Dialect.all).expandedLines content := rfl
  simp only [scan, hlines]
  split
  · rw [List.filter_filterMap, funext (s.documentBlock?_wanting ds document)]
    exact ⟨rfl, rfl⟩
  · simp only [List.flatMap_map, List.filter_flatMap]
    rw [funext fun item => (s.itemBlocks_wanting ds d document item).1,
      funext fun item => (s.itemBlocks_wanting ds d document item).2]
    exact ⟨rfl, rfl⟩

end Scanner
end TranscriptLint
