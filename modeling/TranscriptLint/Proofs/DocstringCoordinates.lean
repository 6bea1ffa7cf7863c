import TranscriptLint.Proofs.DocstringExtent
import TranscriptLint.Proofs.DocumentCoordinates

namespace TranscriptLint

open Text

/-! # Coordinates of docstring blocks

A block in a docstring goes through two files: the document names the function, the Python file
holds the text. All its coordinates are those of the Python file.

* `Autodoc.resolve_eq_ok`: what a target that was resolved leads to.
* `Scanner.docstring_block_mirrors_source`: the block is placed in that file, below the definition,
  and its script mirrors the lines there.
-/

/-- A target that was resolved names a function in a file that can be read, and the docstring is
that of the first line that defines the function. -/
theorem Autodoc.resolve_eq_ok {_ : PatternLibrary} {d : Disk} {roots : List Path} {tabWidth : Nat}
    {target : Text} {a : Autodoc} (h : Autodoc.resolve d roots tabWidth target = .ok a) :
    a.qualname = target ∧ ∃ module function text,
      Autodoc.splitTarget target = .ok (module, function) ∧
      Autodoc.findModule d roots module = .ok a.file ∧ d.readText? a.file = .ok text ∧
      Docstring.findFunction (text.lines.map (expandTabs tabWidth)) function =
        some a.docstring.defLine ∧
      Docstring.read (text.lines.map (expandTabs tabWidth)) a.docstring.defLine =
        some a.docstring := by
  unfold Autodoc.resolve at h
  cases hsplit : Autodoc.splitTarget target with
  | error e => simp [hsplit, bind, Except.bind] at h
  | ok parts =>
    obtain ⟨module, function⟩ := parts
    cases hfile : Autodoc.findModule d roots module with
    | error e => simp [hsplit, hfile, bind, Except.bind] at h
    | ok file =>
      cases hread : Autodoc.readFrom d tabWidth function file with
      | error e => simp [hsplit, hfile, hread, bind, Except.bind] at h
      | ok docstring =>
        have ha : (⟨file, target, docstring⟩ : Autodoc) = a := by
          simpa [hsplit, hfile, hread, bind, Except.bind, pure, Except.pure] using h
        subst ha
        refine ⟨rfl, module, function, ?_⟩
        unfold Autodoc.readFrom at hread
        split at hread
        · exact absurd hread (by simp)
        · next text htext =>
          simp only at hread
          split at hread
          · exact absurd hread (by simp)
          · next defLine hdef =>
            split at hread
            · exact absurd hread (by simp)
            · next found hfound =>
              have hsame := Except.ok.inj hread
              subst hsame
              have hline : found.defLine = defLine := by
                obtain ⟨_, _, _, _, _, _, -, -, -, -, -, rfl⟩ := Docstring.read_eq_some hfound
                rfl
              refine ⟨text, rfl, hfile, htext, ?_, ?_⟩
              · rw [hline]
                exact hdef
              · rw [hline]
                exact hfound

namespace Scanner

/-- What a docstring block takes over from its literal block once the block is placed on line `n` of
the file. -/
theorem docstringBlock?_eq_some {s : Scanner} {document : Path} {a : Autodoc}
    {literal : LiteralBlock} {b : CodeBlock} {n : Nat}
    (h : s.docstringBlock? document a literal = some b)
    (hplaced : a.docstring.sourceLines[literal.firstLine]? = some n) :
    b.lines = literal.lines ∧ b.indent = a.docstring.margin + literal.indent ∧
      b.origin = .docstring a.file a.qualname (some a.docstring.defLine) ∧ b.source = a.file ∧
      b.lineOffset = n - 1 - a.docstring.defLine + a.docstring.defLine := by
  obtain ⟨dialect, -, rfl⟩ := Option.map_eq_some_iff.mp h
  simp [hplaced, CodeBlock.source, CodeBlock.lineOffset]

/-- Line `k` of a docstring block is line `b.lineOffset + 1 + k` of the Python file, cut before the
closing quote and shifted by the block's indentation. -/
theorem exists_shifted_of_docstring {s : Scanner} {d : Disk} {document : Path} {content : Text}
    {b : CodeBlock} {file : Path} {qualname : Text} {placed : Option Nat}
    (h : b ∈ (s.scan d document content).1)
    (horigin : b.origin = .docstring file qualname placed) :
    ∃ a text quote start stop,
      s.resolve d document qualname = .ok a ∧ a.file = file ∧
      placed = some a.docstring.defLine ∧ b.source = file ∧ d.readText? file = .ok text ∧
      Docstring.Spans (s.expandedLines text) a.docstring.defLine quote start stop ∧
      ∀ k, k < b.lines.length → ∃ source line,
        (s.expandedLines text)[b.lineOffset + 1 + k]? = some source ∧
        start < b.lineOffset + 1 + k ∧ b.lineOffset + 1 + k ≤ stop ∧
        b.lines[k]? = some line ∧ Shifted b.indent (Docstring.beforeQuote quote source) line := by
  rcases mem_scan_cases h with ⟨literal, -, hblock⟩ | ⟨literal, -, hblock⟩ |
      ⟨line, target, a, literal, -, hresolve, hmem, hblock⟩
  · obtain ⟨dialect, -, rfl⟩ := Option.map_eq_some_iff.mp hblock
    exact absurd horigin (by simp)
  · obtain ⟨dialect, -, rfl⟩ := Option.map_eq_some_iff.mp hblock
    exact absurd horigin (by simp)
  · have htaken := Rest.takenFrom_of_mem_scan hmem
    have hstands := htaken.standsIn
    have hpos := htaken.first_pos
    obtain ⟨hsome, hend⟩ := htaken.bounds
    obtain ⟨hname, module, function, text, -, -, htext, -, hread⟩ := Autodoc.resolve_eq_ok hresolve
    obtain ⟨quote, start, stop, base, hspans, -, hsource, hlines⟩ :=
      Docstring.exists_spans_of_read hread (by omega)
    have hdefLine := hspans.defLine_lt
    have hplaced :
        a.docstring.sourceLines[literal.firstLine]? = some (base + literal.firstLine) := by
      rw [hsource, List.getElem?_range' (by omega), Nat.one_mul]
    obtain ⟨hblines, hindent, horigin', hbsource, hoffset⟩ := docstringBlock?_eq_some hblock hplaced
    rw [horigin] at horigin'
    obtain ⟨hfile, hqual, hdef⟩ := Origin.docstring.inj horigin'
    subst hfile hqual
    rw [hblines]
    refine ⟨a, text, quote, start, stop, ?_, rfl, hdef, hbsource, htext, hspans, ?_⟩
    · rw [hname]
      exact hresolve
    · intro k hk
      obtain ⟨docline, line, hdocline, hline, hshift⟩ := hstands.line k hk
      obtain ⟨docfirst, -, hdocfirst, -, -⟩ := hstands.line 0 hsome
      -- the definition is at least two lines above the content, so nothing is cut off at zero
      have hfirst := (hlines literal.firstLine docfirst hpos hdocfirst).1
      obtain ⟨hstart, hstop, source, hfileline, hclean⟩ :=
        hlines (literal.firstLine + k) docline (by omega) hdocline
      have hnumber : b.lineOffset + 1 + k = base + (literal.firstLine + k) := by omega
      refine ⟨source, line, ?_, by omega, by omega, hline, ?_⟩
      · rw [hnumber]
        exact hfileline
      · rw [hindent]
        exact hclean.trans hshift

/-- **Coordinates of docstring blocks.** A block from a docstring knows the line of the definition,
so its diagnostics are attributed to the resolved Python file. Every line of the block is a line of
that file with its tabs expanded, below the line of the definition and inside the docstring, and its
script line mirrors that line, cut before the closing quote. -/
theorem docstring_block_mirrors_source (s : Scanner) (d : Disk) (document : Path) (content : Text)
    (prompt : Char) (i : Interpreter) {b : CodeBlock} {file : Path} {qualname : Text}
    {placed : Option Nat} (h : b ∈ (s.scan d document content).1)
    (horigin : b.origin = .docstring file qualname placed) :
    let transcript := Transcript.ofLines prompt b.lines
    let script := Script.synthesize b transcript i
    ∃ a text quote start stop,
      s.resolve d document qualname = .ok a ∧ a.file = file ∧
      placed = some a.docstring.defLine ∧ b.source = file ∧ d.readText? file = .ok text ∧
      Docstring.Spans (s.expandedLines text) a.docstring.defLine quote start stop ∧
      ∀ k, k < b.lines.length → ∃ source entry out,
        (s.expandedLines text)[b.lineOffset + 1 + k]? = some source ∧
        a.docstring.defLine < b.lineOffset + 1 + k ∧
        start < b.lineOffset + 1 + k ∧ b.lineOffset + 1 + k ≤ stop ∧
        transcript.lines[k]? = some entry ∧ script.lines[k + 1]? = some out ∧
        Mirrors prompt script.offset k (b.lineOffset + 1 + k) entry.kind
          (Docstring.beforeQuote quote source) out := by
  intro transcript script
  obtain ⟨a, text, quote, start, stop, hresolve, hfile, hplaced, hsource, htext, hspans, hlines⟩ :=
    exists_shifted_of_docstring h horigin
  refine ⟨a, text, quote, start, stop, hresolve, hfile, hplaced, hsource, htext, hspans, ?_⟩
  intro k hk
  obtain ⟨source, line, hfileline, hstart, hstop, hline, hshift⟩ := hlines k hk
  obtain ⟨entry, out, hentry, hout, hmirrors⟩ := exists_mirrors prompt i hline hshift
  have hbelow : a.docstring.defLine < b.lineOffset + 1 + k := Nat.lt_trans hspans.defLine_lt hstart
  exact ⟨source, entry, out, hfileline, hbelow, hstart, hstop, hentry, hout, hmirrors⟩

/-- A block whose last line closes the docstring. -/
theorem docstring_block_mirrors_source_closing :
    let s : Scanner := ⟨Dialect.all, 8, []⟩
    let python : Text :=
      "def f():\n    '''Doc.\n\n    .. code-block:: sh\n\n        $ ls'''\n".toList
    let d : Disk := ⟨[(["m.py".toList], .file false python.utf8)], []⟩
    let content : Text := ".. autofunction:: m.f\n".toList
    let b : CodeBlock := ⟨["$ ls".toList], .sh, .ofString "api.rst", 4, 8,
      .docstring (.ofString "./m.py") "m.f".toList (some 0)⟩
    b ∈ (s.scan d (.ofString "api.rst") content).1 ∧ ∃ a text quote start stop,
      s.resolve d (.ofString "api.rst") "m.f".toList = .ok a ∧
      a.file = .ofString "./m.py" ∧ some 0 = some a.docstring.defLine ∧
      b.source = .ofString "./m.py" ∧ d.readText? (.ofString "./m.py") = .ok text ∧
      Docstring.Spans (s.expandedLines text) a.docstring.defLine quote start stop := by
  intro s python d content b
  have hmem : b ∈ (s.scan d (.ofString "api.rst") content).1 := by decide +kernel
  obtain ⟨a, text, quote, start, stop, hresolve, hfile, hplaced, hsource, htext, hspans, -⟩ :=
    docstring_block_mirrors_source s d _ content '$' (.viaEnv .sh) hmem rfl
  exact ⟨hmem, a, text, quote, start, stop, hresolve, hfile, hplaced, hsource, htext, hspans⟩

end Scanner
end TranscriptLint
