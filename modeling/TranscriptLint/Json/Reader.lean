import TranscriptLint.Json.Basic

namespace TranscriptLint.Json

/-!
# Reading JSON

Two machines, each a fold with one small step. The first cuts a text into tokens, the second
builds the value with a stack of open arrays and objects. A fold over `a ++ b` is the fold over
`a` followed by the fold over `b`, so what is known of two texts is known of the two joined.

* `Reader.tokens?` accepts only the blanks space, tab, line feed and carriage return, and refuses
  control characters in strings.
* `Json.read?` accepts one value with nothing after it.
-/

namespace Reader

/-! ## Strings -/

/-- A piece of a string: a character, or a UTF-16 code unit written as an escape. -/
inductive Piece where
  | char (c : Char)
  | unit (n : Nat)
deriving DecidableEq, Repr

/-- The first code unit of a surrogate pair. -/
def isHighSurrogate (n : Nat) : Bool := 0xD800 ≤ n && n < 0xDC00

/-- The second code unit of a surrogate pair. -/
def isLowSurrogate (n : Nat) : Bool := 0xDC00 ≤ n && n < 0xE000

/-- The text that pieces stand for; none when a surrogate stands without its partner. -/
def decodePieces : List Piece → Option Text
  | [] => some []
  | .char c :: rest => (decodePieces rest).map (c :: ·)
  | .unit high :: .unit low :: rest =>
    if isHighSurrogate high then
      if isLowSurrogate low then
        (decodePieces rest).map
          (Char.ofNat (0x10000 + (high - 0xD800) * 0x400 + (low - 0xDC00)) :: ·)
      else none
    else if isLowSurrogate high then none
    else (decodePieces (.unit low :: rest)).map (Char.ofNat high :: ·)
  | .unit n :: rest =>
    if isHighSurrogate n || isLowSurrogate n then none
    else (decodePieces rest).map (Char.ofNat n :: ·)

/-- The character a one-letter escape stands for. -/
def simpleEscape (c : Char) : Option Char :=
  match c with
  | '"' => some '"'
  | '\\' => some '\\'
  | '/' => some '/'
  | 'b' => some '\x08'
  | 'f' => some '\x0c'
  | 'n' => some '\n'
  | 'r' => some '\r'
  | 't' => some '\t'
  | _ => none

/-! ## Numbers -/

/-- One or more decimal digits, and what follows them. -/
def digits? (t : Text) : Option Text :=
  if (t.takeWhile Char.isDigit).isEmpty then none else some (t.dropWhile Char.isDigit)

/-- What follows the whole part: a zero alone, or digits that do not start with zero. -/
def wholePart? : Text → Option Text
  | '0' :: rest => some rest
  | t => digits? t

/-- What follows an optional fraction. -/
def fraction? : Text → Option Text
  | '.' :: rest => digits? rest
  | t => some t

/-- What follows an optional exponent. -/
def exponent? : Text → Option Text
  | c :: rest =>
    if c == 'e' || c == 'E' then
      match rest with
      | s :: rest' => if s == '+' || s == '-' then digits? rest' else digits? rest
      | [] => none
    else some (c :: rest)
  | [] => some []

/-- Whether a text is a JSON number. -/
def isNumber (t : Text) : Bool :=
  let unsigned := match t with
    | '-' :: rest => rest
    | _ => t
  ((wholePart? unsigned).bind fraction?).bind exponent? == some []

/-! ## Tokens -/

/-- The symbols of JSON. -/
inductive Token where
  | openArray
  | closeArray
  | openObject
  | closeObject
  | comma
  | colon
  /-- A string; none when it stands for no text. -/
  | string (content : Option Text)
  | number (literal : Text)
  | null
  | bool (b : Bool)
deriving DecidableEq, Repr

/-- What the lexer is in the middle of. What it has read is kept newest first. -/
inductive Mode where
  | between
  /-- Inside a number or a name. -/
  | word (read : Text)
  | string (read : List Piece)
  | escape (read : List Piece)
  /-- Inside a `\u` escape, after `count` digits of value `value`. -/
  | unicode (read : List Piece) (count value : Nat)
deriving DecidableEq, Repr

/-- The lexer: the tokens so far, newest first, and what it is in the middle of. -/
structure Lexer where
  tokens : List Token
  mode : Mode
deriving DecidableEq, Repr

/-- Whether a character can stand in a number or a name. -/
def isWordChar (c : Char) : Bool :=
  c.isAlphanum || c == '-' || c == '+' || c == '.'

/-- The token a word is. -/
def wordToken (w : Text) : Option Token :=
  if w = "null".toList then some .null
  else if w = "true".toList then some (.bool true)
  else if w = "false".toList then some (.bool false)
  else if isNumber w then some (.number w)
  else none

/-- The token of a punctuation mark. -/
def markToken (c : Char) : Option Token :=
  match c with
  | '[' => some .openArray
  | ']' => some .closeArray
  | '\x7b' => some .openObject
  | '\x7d' => some .closeObject
  | ',' => some .comma
  | ':' => some .colon
  | _ => none

/-- Whether a character may stand between tokens. -/
def isBlank (c : Char) : Bool := c == ' ' || c == '\t' || c == '\n' || c == '\r'

/-- Reads a character that stands outside of strings and words. -/
def Lexer.stepBetween (tokens : List Token) (c : Char) : Option Lexer :=
  if isBlank c then some ⟨tokens, .between⟩
  else if c = '"' then some ⟨tokens, .string []⟩
  else if isWordChar c then some ⟨tokens, .word [c]⟩
  else (markToken c).map fun t => ⟨t :: tokens, .between⟩

/-- Reads one character. -/
def Lexer.step (l : Lexer) (c : Char) : Option Lexer :=
  match l.mode with
  | .between => stepBetween l.tokens c
  | .word read =>
    if isWordChar c then some ⟨l.tokens, .word (c :: read)⟩
    else (wordToken read.reverse).bind fun t => stepBetween (t :: l.tokens) c
  | .string read =>
    if c = '"' then some ⟨.string (decodePieces read.reverse) :: l.tokens, .between⟩
    else if c = '\\' then some ⟨l.tokens, .escape read⟩
    else if c < ' ' then none
    else some ⟨l.tokens, .string (.char c :: read)⟩
  | .escape read =>
    if c = 'u' then some ⟨l.tokens, .unicode read 0 0⟩
    else (simpleEscape c).map fun d => ⟨l.tokens, .string (.char d :: read)⟩
  | .unicode read count value =>
    (Text.hexDigit? c).map fun d =>
      if count = 3 then ⟨l.tokens, .string (.unit (16 * value + d) :: read)⟩
      else ⟨l.tokens, .unicode read (count + 1) (16 * value + d)⟩

/-- The tokens once the text has ended. -/
def Lexer.finish? (l : Lexer) : Option (List Token) :=
  match l.mode with
  | .between => some l.tokens.reverse
  | .word read => (wordToken read.reverse).map fun t => (t :: l.tokens).reverse
  | _ => none

/-- The tokens of a text. -/
def tokens? (t : Text) : Option (List Token) :=
  (t.foldlM Lexer.step ⟨[], .between⟩).bind Lexer.finish?

/-! ## Values -/

/-- A member list or item list that is still open, newest first. -/
inductive Frame where
  | array (items : List Json)
  | object (members : List (Option Text × Json))
  /-- An object that waits for the value of its last key. -/
  | member (members : List (Option Text × Json)) (key : Option Text)
deriving Repr

/-- What may come next. -/
inductive Expect where
  | value
  /-- A value, or the end of an array that was just opened. -/
  | valueOrEnd
  | key
  /-- A key, or the end of an object that was just opened. -/
  | keyOrEnd
  | colon
  /-- A comma or the end of the innermost container. -/
  | separator
  /-- Nothing: the value is complete. -/
  | nothing (result : Json)
deriving Repr

/-- The builder: the open containers, innermost first, and what may come next. -/
structure Builder where
  frames : List Frame
  expect : Expect
deriving Repr

/-- Puts a complete value where one was expected. -/
def Builder.put (frames : List Frame) (v : Json) : Option Builder :=
  match frames with
  | [] => some ⟨[], .nothing v⟩
  | .array items :: outer => some ⟨.array (v :: items) :: outer, .separator⟩
  | .member members key :: outer => some ⟨.object ((key, v) :: members) :: outer, .separator⟩
  | .object _ :: _ => none

/-- Reads a token where a value is expected. -/
def Builder.stepValue (frames : List Frame) (t : Token) : Option Builder :=
  match t with
  | .openArray => some ⟨.array [] :: frames, .valueOrEnd⟩
  | .openObject => some ⟨.object [] :: frames, .keyOrEnd⟩
  | .string (some content) => put frames (.string content)
  | .string none => put frames .brokenString
  | .number literal => put frames (.number literal)
  | .null => put frames .null
  | .bool b => put frames (.bool b)
  | .closeArray | .closeObject | .comma | .colon => none

/-- Closes the innermost container with the given mark. -/
def Builder.close (frames : List Frame) (t : Token) : Option Builder :=
  match frames, t with
  | .array items :: outer, .closeArray => put outer (.array items.reverse)
  | .object members :: outer, .closeObject => put outer (.object members.reverse)
  | _, _ => none

/-- Reads a token where a key is expected. -/
def Builder.stepKey (frames : List Frame) (t : Token) : Option Builder :=
  match frames, t with
  | .object members :: outer, .string key => some ⟨.member members key :: outer, .colon⟩
  | _, _ => none

/-- Reads one token. -/
def Builder.step (b : Builder) (t : Token) : Option Builder :=
  match b.expect with
  | .value => stepValue b.frames t
  | .valueOrEnd => if t = .closeArray then close b.frames t else stepValue b.frames t
  | .key => stepKey b.frames t
  | .keyOrEnd => if t = .closeObject then close b.frames t else stepKey b.frames t
  | .colon => if t = .colon then some ⟨b.frames, .value⟩ else none
  | .separator =>
    if t = .comma then
      match b.frames with
      | .array _ :: _ => some ⟨b.frames, .value⟩
      | .object _ :: _ => some ⟨b.frames, .key⟩
      | _ => none
    else close b.frames t
  | .nothing _ => none

/-- The value, once it is complete. -/
def Builder.finish? (b : Builder) : Option Json :=
  match b.expect with
  | .nothing v => some v
  | _ => none

/-- The value that tokens spell. -/
def ofTokens? (ts : List Token) : Option Json :=
  (ts.foldlM Builder.step ⟨[], .value⟩).bind Builder.finish?

end Reader

/-- Reads a text that holds one JSON value and nothing else. -/
def read? (t : Text) : Option Json := (Reader.tokens? t).bind Reader.ofTokens?

end TranscriptLint.Json
