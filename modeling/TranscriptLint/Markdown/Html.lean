import TranscriptLint.Markdown.Cursor

namespace TranscriptLint.Markdown.Html

/-!
# HTML blocks

How a line begins a block of HTML, and what ends the block. Some blocks end with a closing mark,
the others with a blank line.
-/

/-- The elements whose content is raw, and the tag that ends it. -/
def rawElements : List (Text × Text) :=
  [("pre".toList, "</pre>".toList), ("style".toList, "</style>".toList),
   ("script".toList, "</script>".toList), ("textarea".toList, "</textarea>".toList)]

/-- Other beginnings of a block that ends with a mark of its own. -/
def markedSections : List (Text × Text) :=
  [("!--".toList, "-->".toList), ("?".toList, "?>".toList), ("![CDATA[".toList, "]]>".toList)]

/-- The mark that ends a block, given what follows its opening bracket. -/
def endMark? (t : Text) : Option Text :=
  let raw := rawElements.findSome? fun e =>
    if Text.lowerAscii (t.take e.1.length) == e.1 then
      match t.drop e.1.length with
      | [] => some e.2
      | c :: _ => if isAsciiWhite c || c == '>' then some e.2 else none
    else none
  let marked := markedSections.findSome? fun s => if t.startsWith s.1 then some s.2 else none
  let declaration := match t with
    | '!' :: c :: _ => if c.isAlpha then some ">".toList else none
    | _ => none
  raw <|> marked <|> declaration

/-- The names of elements that begin a block. -/
def blockElements : List Text :=
  Text.splitOn ' ' ("address article aside base basefont blockquote body caption center col " ++
    "colgroup dd details dialog dir div dl dt fieldset figcaption figure footer form frame " ++
    "frameset h1 h2 h3 h4 h5 h6 head header hr html iframe legend li link main menu menuitem nav " ++
    "noframes ol optgroup option p param search section summary table tbody td tfoot th thead " ++
    "title tr track ul").toList

/-- Whether the tag of a block element follows the opening bracket. -/
def beginsBlockElement (t : Text) : Bool :=
  let tag := match t with
    | '/' :: rest => rest
    | _ => t
  let name := tag.takeWhile Char.isAlphanum
  blockElements.contains (Text.lowerAscii name) &&
    match tag.drop name.length with
    | [] => true
    | '/' :: '>' :: _ => true
    | c :: _ => c == ' ' || c == '\t' || c == '\r' || c == '\n' || c == '>'

/-! ## Complete tags -/

/-- What follows the name of an attribute. -/
def attributeName? : Text → Option Text
  | [] => none
  | c :: rest =>
    if c.isAlpha || c == '_' || c == ':' then
      some (rest.dropWhile fun d => d.isAlphanum || d == '_' || d == '.' || d == ':' || d == '-')
    else none

/-- Whether a character ends a value that has no quotes. -/
def endsBareValue (c : Char) : Bool :=
  c == '"' || c == '\'' || c == ' ' || c == '=' || c == '>' || c == '<' || c == '\x60' ||
    c == '\n' || c == '\r'

/-- What follows a value in quotes, which must end on its line. -/
def quotedValue? (quote : Char) (t : Text) : Option Text :=
  let body := t.takeWhile fun c => c != quote && c != '\n' && c != '\r'
  match t.drop body.length with
  | c :: rest => if c == quote then some rest else none
  | [] => none

/-- What follows the value of an attribute. -/
def attributeValue? : Text → Option Text
  | [] => none
  | c :: rest =>
    if c == '"' || c == '\'' then quotedValue? c rest
    else if endsBareValue c then none
    else some (rest.dropWhile fun d => !endsBareValue d)

/-- What follows an attribute. Blanks that are not part of it stay. -/
def attribute? (t : Text) : Option Text := do
  let rest ← attributeName? t
  match skipBlanks rest with
  | '=' :: value => attributeValue? (skipBlanks value)
  | after => if (lineEnd? after).isSome then none else some rest

/-- What follows the attributes of a tag; `count` bounds their number. -/
def attributes? : Nat → Text → Option Text
  | 0, _ => none
  | count + 1, t =>
    let rest := skipBlanks t
    match rest with
    | [] => none
    | c :: _ =>
      if c == '/' || c == '>' then some rest
      else if rest.length == t.length || c == '\n' || c == '\r' then none
      else (attribute? rest).bind (attributes? count)

/-- What follows the name of a tag. -/
def tagName? : Text → Option Text
  | [] => none
  | c :: rest =>
    if c.isAlpha then some (rest.dropWhile fun d => d.isAlphanum || d == '-') else none

/-- What follows the closing bracket of a tag. -/
def bracket? (t : Text) : Option Text :=
  match t with
  | '>' :: rest => some rest
  | _ => none

/-- What follows a complete tag on one line, given what follows its opening bracket. -/
def tag? (t : Text) : Option Text :=
  match t with
  | '/' :: name => (tagName? name).bind fun rest => bracket? (skipBlanks rest)
  | _ =>
    ((tagName? t).bind fun rest => attributes? (rest.length + 1) rest).bind fun rest =>
      match rest with
      | '/' :: after => bracket? after
      | _ => bracket? rest

/-- Whether a complete tag stands alone on its line, given what follows its opening bracket. -/
def isLoneTag (t : Text) : Bool := ((tag? t).map isBlankLine).getD false

end TranscriptLint.Markdown.Html
