import TranscriptLint.Markdown.Container

namespace TranscriptLint.Markdown

/-!
# Blocks

The block structure of a Markdown text, as far as it decides where fenced code blocks are. The text
is read block by block. Between blocks the reader remembers the open containers and a few facts
about the lines before.

* `readBlock` reads one block.
* `fencedBlocks` lists the fenced code blocks of a text.
-/

/-- What the last block at the innermost level was, as far as a definition may follow it. -/
inductive Sibling where
  | none
  | paragraph
  /-- A paragraph in a definition list, which is a title if a definition follows. -/
  | maybeTitle
  | definition
  | other
deriving DecidableEq, Repr

/-- What the reader remembers between blocks. -/
structure Reader where
  /-- The open containers, outermost first. -/
  containers : List Container := []
  /-- The last block at the innermost level. -/
  last : Sibling := .none
  /-- Whether the last line was blank. -/
  afterBlank : Bool := false
  /-- Whether the innermost item was begun by a line with nothing after its mark. -/
  emptyItem : Bool := false
deriving DecidableEq, Repr

/-- A fenced code block, given by the number of characters of the text that follow its ends. -/
structure FoundFence where
  startLeft : Nat
  stopLeft : Nat
  /-- What the opening line says after its fence. -/
  info : Text
deriving DecidableEq, Repr

namespace Reader

/-- The innermost container. -/
def top? (r : Reader) : Option Container := r.containers.getLast?

/-- What to look at when a line is judged. -/
def surroundings (r : Reader) : Surroundings := { containers := r.containers }

/-- Opens a container. -/
def push (k : Container) (r : Reader) : Reader :=
  { r with containers := r.containers ++ [k], last := .none }

/-- What a closed container is for the block after it. -/
def siblingOf : Container → Sibling
  | .definition _ => .definition
  | _ => .other

/-- Closes the innermost container. -/
def pop (r : Reader) : Reader :=
  match r.top? with
  | none => r
  | some k =>
    let emptyItem := match k with
      | .definitionList | .list true _ => false
      | _ => r.emptyItem
    { r with containers := r.containers.dropLast, last := siblingOf k, emptyItem }

/-- Closes containers until `count` of them are open. -/
def popTo (count : Nat) (r : Reader) : Reader :=
  (List.range (r.containers.length - count)).foldl (fun r _ => r.pop) r

/-- Closes an item that a blank line has left empty. -/
def finishEmptyItem (r : Reader) : Reader :=
  let r := match r.emptyItem && r.afterBlank, r.top? with
    | true, some (.item _) | true, some (.definition _) => r.pop
    | _, _ => r
  { r with emptyItem := false }

/-- A container that is no longer tight, if it is a list. -/
def loosen : Container → Container
  | .list _ sign => .list false sign
  | k => k

/-- Makes the second container from the inside loose, if it is a list. -/
def loosenOuter (ks : List Container) : List Container :=
  match ks.reverse with
  | inner :: outer :: rest => (inner :: loosen outer :: rest).reverse
  | _ => ks

/-- Closes the list that ends before a block which is not one of its items. -/
def finishList (r : Reader) : Reader :=
  let r := r.finishEmptyItem
  let r := match r.top? with
    | some (.list ..) | some .definitionList => r.pop
    | _ => r
  if r.afterBlank then { r with containers := loosenOuter r.containers, afterBlank := false } else r

/-- Opens a list for an item, unless the innermost list goes on with it. -/
def continueList (sign : Char) (r : Reader) : Reader :=
  let r := r.finishEmptyItem
  match r.top? with
  | some (.list tight sign') =>
    if sign' == sign then
      { r with
        containers := r.containers.dropLast ++ [.list (tight && !r.afterBlank) sign]
        afterBlank := false }
    else { r.finishList.push (.list true sign) with afterBlank := false }
  | _ => { r.finishList.push (.list true sign) with afterBlank := false }

/-- Puts a block that holds no others. -/
def leaf (r : Reader) (kind : Sibling) : Reader := { r with last := kind }

end Reader

/-- Puts a paragraph or a table. In a definition list a paragraph may become a title. -/
def putParagraph (r : Reader) (t : Text) : Reader × Text :=
  let titled := r.top? == some .definitionList && (r.last == .none || r.last == .definition)
  let r := if titled then { r with afterBlank := false } else r.finishList
  let (kind, rest) := readParagraph r.surroundings t
  let sibling := match kind with
    | .paragraph => if titled then Sibling.maybeTitle else .paragraph
    | _ => .other
  (r.leaf sibling, rest)

/-! ## Opening containers -/

/-- What comes of opening containers: the line may be done, or content follows. -/
inductive Opened where
  | done (r : Reader) (rest : Text)
  | content (r : Reader) (c : Cursor)
deriving DecidableEq, Repr

/-- Opens a footnote and gives what follows its label. -/
def openFootnote? (r : Reader) (t : Text) : Option (Reader × Text) :=
  match t with
  | '[' :: '^' :: rest => do
    match ← label? (labelBreak? r.surroundings) rest with
    | ':' :: after =>
      let r := r.finishList
      let r := match r.top? with
        | some .footnote => r.pop
        | _ => r
      some (r.push .footnote, after)
    | _ => none
  | _ => none

/-- Opens an item of a list. -/
def openItem (r : Reader) (m : ListMark) (indent : Nat) : Reader :=
  (r.continueList m.sign).push (.item indent)

/-- Opens a definition. The paragraph before it becomes the title of a definition list. -/
def openDefinition (r : Reader) (indent : Nat) : Reader :=
  let r := if r.last == .paragraph then r.push .definitionList else r
  { r.push (.definition indent) with afterBlank := false }

/-- Whether a definition may follow. -/
def allowsDefinition (r : Reader) : Bool :=
  match r.last with
  | .paragraph | .maybeTitle | .definition => true
  | .none | .other => false

/-- Goes on behind the line of an alert's tag, as if the tag were in a paragraph. -/
def afterAlert (r : Reader) (t : Text) : Opened :=
  let (count, c) := Container.enterAll r.containers (.start t)
  let (missing, c) := c.take 4
  if missing != 0 &&
      interruptsParagraph r.surroundings (count == r.containers.length) c.rest then
    .done r t
  else .content r c.takeAll

/-- Opens the containers whose marks come next. What follows the box of a task is a paragraph. -/
def openContainers : Nat → Reader → Cursor → Opened
  | 0, r, c => .content r c
  | fuel + 1, r, c =>
    let (outer, inner) := c.takeUpTo 4
    if outer ≥ 4 then .content r c
    else
      match openFootnote? r inner.rest, itemStart? outer inner with
      | some (r, after), _ => openContainers fuel r (.start after)
      | none, some (m, indent, next) =>
        let r := openItem r m indent
        match blankLine? next.rest with
        | some rest => .done { r with emptyItem := true } rest
        | none =>
          match taskBox? next with
          | none => openContainers fuel r next
          | some boxed =>
            match blankLine? boxed.rest with
            | some rest => .done { r with emptyItem := true } rest
            | none =>
              let (r, rest) := putParagraph r boxed.rest
              .done r rest
      | none, none =>
        match if allowsDefinition r then definitionStart? outer inner else none with
        | some (indent, next) =>
          let r := openDefinition r indent
          match blankLine? next.rest with
          | some rest => .done { r with emptyItem := true } rest
          | none => openContainers fuel r next
        | none =>
          match quoteMark? inner with
          | none => .content r c
          | some next =>
            let r := r.finishList.push .quote
            match alertTag? next with
            | some rest => afterAlert r rest
            | none => openContainers fuel r next

/-! ## Blocks without containers -/

/-- What follows an indented code block, and whether its last line was blank. -/
def indentedEnd (containers : List Container) : Nat → Bool → Text → Bool × Text
  | 0, blank, t => (blank, t)
  | fuel + 1, blank, t =>
    let next := nextLine t
    match Container.enterEvery? containers next with
    | none => (blank, next)
    | some c =>
      let (missing, c) := c.take 4
      if (missing != 0 && !c.atLineEnd) || c.rest.isEmpty then (blank, next)
      else indentedEnd containers fuel (isBlankLine c.rest) c.rest

/-- What follows the closing line of a metadata block. -/
def metadataClose? (mark : Char) (t : Text) : Option Text :=
  if runLength mark t == 3 || (mark == '-' && runLength '.' t == 3) then
    let rest := (t.drop 3).dropWhile (· == ' ')
    (lineEnd? rest).map fun _ => rest
  else none

/-- Whether one of the lines closes a metadata block. -/
def hasMetadataClose (mark : Char) : Nat → Text → Bool
  | 0, _ => false
  | fuel + 1, t =>
    (metadataClose? mark t).isSome || (!t.isEmpty && hasMetadataClose mark fuel (nextLine t))

/-- The mark of a metadata block that begins here. Its first line is neither blank nor the last. -/
def metadataMark? (t : Text) : Option Char :=
  match t with
  | [] => none
  | mark :: _ =>
    let next := nextLine t
    if (mark == '-' || mark == '+') && runLength mark t == 3 &&
        (restOfLine (t.drop 3)).all isAsciiWhite && (t.drop 3).contains '\n' &&
        !isBlankLine next && (metadataClose? mark next).isNone &&
        hasMetadataClose mark (next.length + 1) (nextLine next) then
      some mark
    else none

/-- What follows a metadata block. -/
def metadataEnd (containers : List Container) (mark : Char) : Nat → Text → Text
  | 0, t => t
  | fuel + 1, t =>
    match Container.enterEvery? containers t with
    | none => (blankLine? t).getD t
    | some c =>
      match metadataClose? mark t with
      | some rest => (blankLine? rest).getD rest
      | none => metadataEnd containers mark fuel (nextLine c.rest)

/-- What follows a block of HTML that ends with a mark. -/
def markedHtmlEnd (containers : List Container) (mark : Text) : Nat → Text → Text
  | 0, t => t
  | fuel + 1, t =>
    let next := nextLine t
    match Container.enterEvery? containers next with
    | none => next
    | some c =>
      if Text.occursIn mark (restOfLine t) || c.rest.isEmpty then next
      else markedHtmlEnd containers mark fuel c.rest

/-- What follows a block of HTML that ends with a blank line. -/
def plainHtmlEnd (containers : List Container) : Nat → Text → Text
  | 0, t => t
  | fuel + 1, t =>
    let next := nextLine t
    match Container.enterEvery? containers next with
    | none => next
    | some c => if isBlankLine c.rest then next else plainHtmlEnd containers fuel c.rest

/-- What follows a block of HTML, if one begins here. -/
def html? (containers : List Container) (t : Text) : Option Text :=
  match t with
  | '<' :: tag =>
    match Html.endMark? tag with
    | some mark => some (markedHtmlEnd containers mark (t.length + 1) t)
    | none =>
      if Html.beginsBlockElement tag || Html.isLoneTag tag then
        some (plainHtmlEnd containers (t.length + 1) t)
      else none
  | _ => none

/-- Where a fenced block ends and what follows it, given the first line of its content. -/
def fenceEnd (containers : List Container) (f : FenceMark) (indent : Nat) :
    Nat → Text → Text × Text
  | 0, t => (t, t)
  | fuel + 1, t =>
    match Container.enterEvery? containers t with
    | none => (t, t)
    | some c =>
      let (_, c) := c.take indent
      let (missing, closer) := c.take (4 - indent)
      match if missing != 0 then closingFence? f closer.rest else none with
      | some rest => (rest, (blankLine? rest).getD rest)
      | none => fenceEnd containers f indent fuel (nextLine c.rest)

/-- The text after the opening fence, without blanks around it. -/
def fenceInfo (f : FenceMark) (t : Text) : Text :=
  let line := restOfLine (t.drop f.length)
  Text.dropEnd isAsciiWhite (skipBlanks line)

/-! ## One block -/

/-- Reads what is left after link reference definitions, each of which takes its line. -/
def readReferences : Nat → Reader → Text → Reader × Text
  | 0, r, t => (r, t)
  | fuel + 1, r, t =>
    match reference? r.surroundings t with
    | none => putParagraph r t
    | some after =>
      match blankLine? after with
      | none => (r.finishList, after)
      | some next =>
        let (count, c) := Container.enterAll r.containers (.start next)
        let (missing, c) := c.take 4
        if isBlankLine c.rest || missing != 0 &&
            interruptsParagraph r.surroundings (count == r.containers.length) c.rest then
          (r.finishList, next)
        else readReferences fuel r c.takeAll.rest

/-- Remembers a blank line. An item that was begun empty can then hold nothing. -/
def noteBlank (r : Reader) : Reader :=
  match r.top? with
  | some .quote => r
  | some (.item _) =>
    if r.emptyItem then
      { r with containers := r.containers.dropLast ++ [.item 0], afterBlank := true }
    else { r with afterBlank := true }
  | some (.definition _) =>
    if r.emptyItem then
      { r with containers := r.containers.dropLast ++ [.definition 0], afterBlank := true }
    else { r with afterBlank := true }
  | _ => { r with afterBlank := true }

/-- Reads a block whose containers are open and which is indented by `indent` columns. -/
def readLeaf (r : Reader) (indent : Nat) (t : Text) : Reader × Text × Option FoundFence :=
  let closed := r.finishList
  match if indent == 0 then metadataMark? t else none with
  | some mark =>
    (closed.leaf .other, metadataEnd closed.containers mark (t.length + 1) (nextLine t), none)
  | none =>
    match html? closed.containers t with
    | some rest => (closed.leaf .other, rest, none)
    | none =>
      match thematicBreak? t with
      | some rest => (closed.leaf .other, rest, none)
      | none =>
        if isHeading t then (closed.leaf .other, headingEnd t, none)
        else
          match fenceMark? t with
          | some f =>
            let (stop, rest) := fenceEnd closed.containers f indent (t.length + 1) (nextLine t)
            (closed.leaf .other, rest, some ⟨t.length, stop.length, fenceInfo f t⟩)
          | none =>
            let (r, rest) := readReferences (t.length + 1) r t
            (r, rest, none)

/-- Closes the containers that a line does not carry, and a footnote after a blank line. A footnote
that opens right here may begin on the next line. -/
def enterOpen (r : Reader) (t : Text) : Reader × Cursor :=
  let (count, c) := Container.enterAll r.containers (.start t)
  let r := r.popTo count
  let r := match r.top? with
    | some .footnote => if r.afterBlank then r.pop else r
    | _ => r
  match openFootnote? r c.rest with
  | some (r, after) => (r, .start ((blankLine? after).getD after))
  | none => (r, c)

/-- Reads one block, or one line that only opens containers. -/
def readBlock (r : Reader) (t : Text) : Reader × Text × Option FoundFence :=
  let (r, c) := enterOpen r t
  match openContainers (t.length + 1) r c with
  | .done r rest => (r, rest, none)
  | .content r c =>
    match blankLine? c.rest with
    | some rest => (noteBlank r, rest, none)
    | none =>
      let (indent, c) := c.takeUpTo 4
      if indent == 4 then
        let r := r.finishList
        let (blank, rest) := indentedEnd r.containers (t.length + 1) false c.rest
        ({ r.leaf .other with afterBlank := blank }, rest, none)
      else readLeaf r indent c.rest

/-- The fenced code blocks of what is left of a text; `fuel` bounds the number of blocks. -/
def fencesFrom : Nat → Reader → Text → List FoundFence
  | 0, _, _ => []
  | fuel + 1, r, t =>
    if t.isEmpty then []
    else
      let (r, rest, found) := readBlock r t
      found.toList ++ fencesFrom fuel r rest

/-- The fenced code blocks of a text, in order. -/
def fencedBlocks (t : Text) : List FoundFence := fencesFrom (2 * t.length + 1) {} t

end TranscriptLint.Markdown
