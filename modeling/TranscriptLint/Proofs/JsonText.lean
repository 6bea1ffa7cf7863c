import TranscriptLint.Proofs.JsonTokens
import TranscriptLint.Proofs.Lines

namespace TranscriptLint.Json

open Reader

/-! # JSON texts

A value determines its tokens, and a JSON text is a spelling of them. The reader accepts exactly the
JSON texts, and gives back the value.

* `tokens` and `IsText`: what a text of a value is, without the machines that read it.
* `Builder.run_tokens`: the tokens of a value put that value where one was expected.
* `Builder.After b ts`: the invariant of the builder, what a state knows about the tokens it has
  read. None of them is forgotten, so there is only one list that leads to a value.
* `read?_eq_some_iff`: the two machines together.
-/

/-! ## The tokens of a value -/

mutual

/-- The tokens of a value, in order. -/
def tokens : Json → List Token
  | .null => [.null]
  | .bool b => [.bool b]
  | .number literal => [.number literal]
  | .string t => [.string (some t)]
  | .brokenString => [.string none]
  | .array items => .openArray :: [.comma].intercalate (itemTokens items) ++ [.closeArray]
  | .object members => .openObject :: [.comma].intercalate (memberTokens members) ++ [.closeObject]

/-- The tokens of each item of an array. -/
def itemTokens : List Json → List (List Token)
  | [] => []
  | v :: vs => tokens v :: itemTokens vs

/-- The tokens of each member of an object: the key, a colon, and the value. -/
def memberTokens : List (Option Text × Json) → List (List Token)
  | [] => []
  | (key, v) :: ms => (.string key :: .colon :: tokens v) :: memberTokens ms

end

/-- The text holds this value and nothing else. -/
def IsText (v : Json) (t : Text) : Prop := Spelling v.tokens t

/-- The tokens of a member. -/
def tokensOfMember (m : Option Text × Json) : List Token := .string m.1 :: .colon :: m.2.tokens

theorem itemTokens_eq_map (items : List Json) : itemTokens items = items.map tokens := by
  induction items with
  | nil => rfl
  | cons v vs ih => rw [itemTokens, ih, List.map_cons]

theorem memberTokens_eq_map (members : List (Option Text × Json)) :
    memberTokens members = members.map tokensOfMember := by
  induction members with
  | nil => rfl
  | cons m ms ih => rw [memberTokens, ih, List.map_cons, tokensOfMember]

theorem tokens_array (items : List Json) :
    tokens (.array items) =
      .openArray :: [.comma].intercalate (items.map tokens) ++ [.closeArray] := by
  rw [tokens, itemTokens_eq_map]

theorem tokens_object (members : List (Option Text × Json)) :
    tokens (.object members) =
      .openObject :: [.comma].intercalate (members.map tokensOfMember) ++ [.closeObject] := by
  rw [tokens, memberTokens_eq_map]

/-- Induction over values, with what holds of the items of an array and of the members of an
object. -/
@[elab_as_elim]
theorem nested_induction {P : Json → Prop} (null : P .null) (bool : ∀ b, P (.bool b))
    (number : ∀ literal, P (.number literal)) (string : ∀ t, P (.string t))
    (brokenString : P .brokenString) (array : ∀ items, (∀ v ∈ items, P v) → P (.array items))
    (object : ∀ members, (∀ m ∈ members, P m.2) → P (.object members)) : ∀ v, P v
  | .null => null
  | .bool b => bool b
  | .number literal => number literal
  | .string t => string t
  | .brokenString => brokenString
  | .array items => array items fun v _hv =>
      nested_induction null bool number string brokenString array object v
  | .object members => object members fun m _hm =>
      nested_induction null bool number string brokenString array object m.2
termination_by v => sizeOf v
decreasing_by
  · have := List.sizeOf_lt_of_mem _hv
    simp only [Json.array.sizeOf_spec]
    omega
  · have := List.sizeOf_lt_of_mem _hm
    have hpair : sizeOf m = 1 + sizeOf m.1 + sizeOf m.2 := by
      cases m
      rfl
    simp only [Json.object.sizeOf_spec]
    omega

theorem exists_intercalate_cons {α : Type} (sep : α) (x : List α) (xs : List (List α)) :
    ∃ more, [sep].intercalate (x :: xs) = x ++ more := by
  cases xs with
  | nil => exact ⟨[], by simp⟩
  | cons y ys => exact ⟨_, by rw [List.intercalate_cons_cons, List.append_assoc]⟩

/-! ## Words keep apart -/

theorem separated_append_cons {a b : List Token} {m : Token} (hm : m.isWord = false)
    (ha : Separated a) (hb : Separated b) : Separated (a ++ m :: b) := by
  refine List.isChain_append.mpr ⟨ha, List.isChain_cons.mpr ⟨fun _ _ => .inl hm, hb⟩, ?_⟩
  intro x _ y hy
  obtain rfl := Option.some.inj hy
  exact .inr hm

theorem separated_intercalate {xs : List (List Token)} (h : ∀ x ∈ xs, Separated x) :
    Separated ([Token.comma].intercalate xs) := by
  induction xs with
  | nil => exact List.isChain_nil
  | cons x xs ih =>
    rw [List.forall_mem_cons] at h
    cases xs with
    | nil =>
      rw [List.intercalate_singleton]
      exact h.1
    | cons y ys =>
      rw [List.intercalate_cons_cons, List.append_assoc]
      exact separated_append_cons rfl h.1 (ih h.2)

/-- No value has two words side by side. -/
theorem separated_tokens (v : Json) : Separated v.tokens := by
  have henclosed : ∀ {first last : Token} {inner : List Token}, first.isWord = false →
      last.isWord = false → Separated inner → Separated (first :: inner ++ [last]) := by
    intro first last inner hfirst hlast hinner
    exact separated_append_cons (a := []) hfirst List.isChain_nil
      (separated_append_cons hlast hinner List.isChain_nil)
  induction v using nested_induction with
  | null | bool | number | string | brokenString => exact List.isChain_singleton _
  | array items ih =>
    rw [tokens_array]
    apply henclosed rfl rfl
    apply separated_intercalate
    intro x hx
    obtain ⟨v, hv, rfl⟩ := List.mem_map.mp hx
    exact ih v hv
  | object members ih =>
    rw [tokens_object]
    apply henclosed rfl rfl
    apply separated_intercalate
    intro x hx
    obtain ⟨m, hm, rfl⟩ := List.mem_map.mp hx
    exact separated_append_cons (a := [.string m.1]) rfl (List.isChain_singleton _) (ih m hm)

/-! ## The tokens of a value are accepted -/

namespace Reader.Builder

/-- The builder behind some tokens. -/
def run (b : Builder) (ts : List Token) : Option Builder := ts.foldlM step b

theorem run_append (b : Builder) (ts us : List Token) :
    b.run (ts ++ us) = (b.run ts).bind (run · us) :=
  List.foldlM_append

theorem run_cons (b : Builder) (t : Token) (ts : List Token) :
    b.run (t :: ts) = (b.step t).bind (run · ts) :=
  rfl

theorem run_singleton (b : Builder) (t : Token) : b.run [t] = b.step t := by
  rw [run_cons]
  cases b.step t <;> rfl

/-- Items with commas between them are collected in the innermost frame. Arrays and objects differ
in the frame, in what they expect at the start of an item, and in the tokens of an item. -/
theorem run_intercalate {α : Type} (frame : List α → Frame) (start : Expect) (f : α → List Token)
    (outer : List Frame)
    (hcomma : ∀ a done, step ⟨frame (a :: done) :: outer, .separator⟩ .comma =
      some ⟨frame (a :: done) :: outer, start⟩)
    {items : List α} (hne : items ≠ [])
    (hitem : ∀ a ∈ items, ∀ done, run ⟨frame done :: outer, start⟩ (f a) =
      some ⟨frame (a :: done) :: outer, .separator⟩) :
    ∀ done, run ⟨frame done :: outer, start⟩ ([.comma].intercalate (items.map f)) =
      some ⟨frame (items.reverse ++ done) :: outer, .separator⟩ := by
  induction items with
  | nil => exact absurd rfl hne
  | cons a items ih =>
    intro done
    rw [List.forall_mem_cons] at hitem
    cases items with
    | nil =>
      rw [List.map_singleton, List.intercalate_singleton]
      exact hitem.1 done
    | cons a' items =>
      rw [List.map_cons, List.map_cons, List.intercalate_cons_cons, ← List.map_cons, run_append,
        run_append, hitem.1, Option.bind_some, run_singleton, hcomma, Option.bind_some,
        ih (List.cons_ne_nil _ _) hitem.2]
      simp

/-- A token that does not close the array that was just opened starts its first item. -/
theorem run_valueOrEnd {frames : List Frame} {first : Token} (h : first ≠ .closeArray)
    (rest : List Token) :
    run ⟨frames, .valueOrEnd⟩ (first :: rest) = run ⟨frames, .value⟩ (first :: rest) := by
  simp [run_cons, step, h]

/-- A token that does not close the object that was just opened is its first key. -/
theorem run_keyOrEnd {frames : List Frame} {first : Token} (h : first ≠ .closeObject)
    (rest : List Token) :
    run ⟨frames, .keyOrEnd⟩ (first :: rest) = run ⟨frames, .key⟩ (first :: rest) := by
  simp [run_cons, step, h]

end Reader.Builder

theorem exists_cons_tokens (v : Json) :
    ∃ first rest, v.tokens = first :: rest ∧ first ≠ .closeArray := by
  cases v with
  | array items => exact ⟨_, _, tokens_array items, by simp⟩
  | object members => exact ⟨_, _, tokens_object members, by simp⟩
  | null | bool | number | string | brokenString => exact ⟨_, [], by rw [tokens], by simp⟩

namespace Reader.Builder

theorem run_tokens_array {items : List Json}
    (h : ∀ v ∈ items, ∀ frames, run ⟨frames, .value⟩ v.tokens = put frames v)
    (frames : List Frame) : run ⟨frames, .value⟩ (tokens (.array items)) = put frames (.array items) := by
  have hopen : step ⟨frames, .value⟩ .openArray = some ⟨.array [] :: frames, .valueOrEnd⟩ := rfl
  rw [tokens_array, List.cons_append, run_cons, hopen, Option.bind_some]
  cases items with
  | nil => simp [run_singleton, step, close]
  | cons v vs =>
    obtain ⟨first, rest, hfirst, hne⟩ := exists_cons_tokens v
    obtain ⟨more, hmore⟩ := exists_intercalate_cons Token.comma v.tokens (vs.map tokens)
    have hitems := run_intercalate .array .value tokens frames (fun _ _ => rfl)
      (List.cons_ne_nil v vs) (fun a ha done => h a ha _) []
    rw [List.map_cons, hmore, hfirst, List.cons_append] at hitems ⊢
    rw [List.cons_append, run_valueOrEnd hne, ← List.cons_append, run_append, hitems]
    simp [run_singleton, step, close]

theorem run_tokens_object {members : List (Option Text × Json)}
    (h : ∀ m ∈ members, ∀ frames, run ⟨frames, .value⟩ m.2.tokens = put frames m.2)
    (frames : List Frame) :
    run ⟨frames, .value⟩ (tokens (.object members)) = put frames (.object members) := by
  have hopen : step ⟨frames, .value⟩ .openObject = some ⟨.object [] :: frames, .keyOrEnd⟩ := rfl
  rw [tokens_object, List.cons_append, run_cons, hopen, Option.bind_some]
  cases members with
  | nil => simp [run_singleton, step, close]
  | cons m ms =>
    have hmember : ∀ a ∈ m :: ms, ∀ done, run ⟨.object done :: frames, .key⟩ (tokensOfMember a) =
        some ⟨.object (a :: done) :: frames, .separator⟩ := by
      intro a ha done
      exact h a ha (.member done a.1 :: frames)
    obtain ⟨more, hmore⟩ :=
      exists_intercalate_cons Token.comma (tokensOfMember m) (ms.map tokensOfMember)
    have hitems := run_intercalate .object .key tokensOfMember frames (fun _ _ => rfl)
      (List.cons_ne_nil m ms) hmember []
    rw [List.map_cons, hmore, tokensOfMember, List.cons_append] at hitems ⊢
    rw [List.cons_append, run_keyOrEnd (by simp), ← List.cons_append, run_append, hitems]
    simp [run_singleton, step, close]

/-- The tokens of a value put it where a value was expected. -/
theorem run_tokens (v : Json) : ∀ frames, run ⟨frames, .value⟩ v.tokens = put frames v := by
  induction v using nested_induction with
  | null | bool | number | string | brokenString => exact fun frames => run_singleton _ _
  | array items ih => exact run_tokens_array ih
  | object members ih => exact run_tokens_object ih

end Reader.Builder

theorem ofTokens?_tokens (v : Json) : ofTokens? v.tokens = some v := by
  rw [ofTokens?, ← Builder.run, Builder.run_tokens]
  rfl

/-! ## Only the tokens of a value are accepted -/

namespace Reader

/-- The tokens of a container up to the place where its next item is expected: every item so far has
a comma behind it, and a member that waits for its value has its key and a colon. -/
def Frame.tokens : Frame → List Token
  | .array items => .openArray :: (items.reverse.map Json.tokens).flatMap (· ++ [.comma])
  | .object members => .openObject :: (members.reverse.map tokensOfMember).flatMap (· ++ [.comma])
  | .member members key =>
    .openObject :: (members.reverse.map tokensOfMember).flatMap (· ++ [.comma]) ++
      [.string key, .colon]

/-- The tokens of the open containers, the outermost first. -/
def openTokens (frames : List Frame) : List Token := frames.reverse.flatMap Frame.tokens

theorem openTokens_cons (frame : Frame) (outer : List Frame) :
    openTokens (frame :: outer) = openTokens outer ++ frame.tokens := by
  simp [openTokens]

namespace Builder

/-- What the state of the builder knows about the tokens it has read. -/
inductive After : Builder → List Token → Prop where
  | value {frames : List Frame} : After ⟨frames, .value⟩ (openTokens frames)
  | valueOrEnd {outer : List Frame} :
      After ⟨.array [] :: outer, .valueOrEnd⟩ (openTokens outer ++ [.openArray])
  | key {frames : List Frame} : After ⟨frames, .key⟩ (openTokens frames)
  | keyOrEnd {outer : List Frame} :
      After ⟨.object [] :: outer, .keyOrEnd⟩ (openTokens outer ++ [.openObject])
  | colon {members : List (Option Text × Json)} {key : Option Text} {outer : List Frame} :
      After ⟨.member members key :: outer, .colon⟩
        (openTokens (.object members :: outer) ++ [.string key])
  | item {items : List Json} {outer : List Frame} (hne : items ≠ []) :
      After ⟨.array items :: outer, .separator⟩
        (openTokens outer ++ .openArray :: [.comma].intercalate (items.reverse.map Json.tokens))
  | member {members : List (Option Text × Json)} {outer : List Frame} (hne : members ≠ []) :
      After ⟨.object members :: outer, .separator⟩
        (openTokens outer ++
          .openObject :: [.comma].intercalate (members.reverse.map tokensOfMember))
  | nothing {v : Json} : After ⟨[], .nothing v⟩ v.tokens

theorem after_put {frames : List Frame} {v : Json} {b : Builder} (h : put frames v = some b) :
    After b (openTokens frames ++ v.tokens) := by
  unfold put at h
  split at h
  · rw [← Option.some.inj h]
    exact .nothing
  · next items outer =>
    rw [← Option.some.inj h, openTokens_cons, Frame.tokens, List.append_assoc, List.cons_append,
      ← Text.intercalate_concat, ← List.map_singleton (f := Json.tokens), ← List.map_append,
      ← List.reverse_cons]
    exact .item (List.cons_ne_nil _ _)
  · next members key outer =>
    have hmember : [Token.string key, .colon] ++ v.tokens = tokensOfMember (key, v) := rfl
    rw [← Option.some.inj h, openTokens_cons, Frame.tokens, List.append_assoc, List.append_assoc,
      hmember, List.cons_append, ← Text.intercalate_concat,
      ← List.map_singleton (f := tokensOfMember), ← List.map_append, ← List.reverse_cons]
    exact .member (List.cons_ne_nil _ _)
  · exact absurd h (by simp)

theorem after_stepValue {frames : List Frame} {t : Token} {b : Builder}
    (h : stepValue frames t = some b) : After b (openTokens frames ++ [t]) := by
  unfold stepValue at h
  split at h
  · rw [← Option.some.inj h]
    exact .valueOrEnd
  · rw [← Option.some.inj h]
    exact .keyOrEnd
  · simpa [tokens] using after_put h
  · simpa [tokens] using after_put h
  · simpa [tokens] using after_put h
  · simpa [tokens] using after_put h
  · simpa [tokens] using after_put h
  all_goals exact absurd h (by simp)

theorem after_stepKey {frames : List Frame} {t : Token} {b : Builder}
    (h : stepKey frames t = some b) : After b (openTokens frames ++ [t]) := by
  unfold stepKey at h
  split at h
  · rw [← Option.some.inj h]
    exact .colon
  · exact absurd h (by simp)

/-- A container that is closed is put as a value into the container around it. -/
theorem after_close {frames : List Frame} {t : Token} {b : Builder} (h : close frames t = some b) :
    (∃ items outer, frames = .array items :: outer ∧
      After b (openTokens outer ++
        .openArray :: [.comma].intercalate (items.reverse.map Json.tokens) ++ [t])) ∨
    ∃ members outer, frames = .object members :: outer ∧
      After b (openTokens outer ++
        .openObject :: [.comma].intercalate (members.reverse.map tokensOfMember) ++ [t]) := by
  unfold close at h
  split at h
  · next items outer =>
    have hput := after_put h
    rw [tokens_array, ← List.append_assoc] at hput
    exact .inl ⟨items, outer, rfl, hput⟩
  · next members outer =>
    have hput := after_put h
    rw [tokens_object, ← List.append_assoc] at hput
    exact .inr ⟨members, outer, rfl, hput⟩
  · exact absurd h (by simp)

/-- One token keeps the invariant. -/
theorem After.step {b b' : Builder} {ts : List Token} {t : Token} (h : After b ts)
    (hstep : b.step t = some b') : After b' (ts ++ [t]) := by
  cases h with
  | value => exact after_stepValue hstep
  | key => exact after_stepKey hstep
  | @valueOrEnd outer =>
    simp only [Builder.step] at hstep
    split at hstep
    · obtain ⟨_, _, hframes, hafter⟩ | ⟨_, _, hframes, -⟩ := after_close hstep
      · cases hframes
        simpa using hafter
      · cases hframes
    · have hafter := after_stepValue hstep
      rw [openTokens_cons] at hafter
      exact hafter
  | @keyOrEnd outer =>
    simp only [Builder.step] at hstep
    split at hstep
    · obtain ⟨_, _, hframes, -⟩ | ⟨_, _, hframes, hafter⟩ := after_close hstep
      · cases hframes
      · cases hframes
        simpa using hafter
    · have hafter := after_stepKey hstep
      rw [openTokens_cons] at hafter
      exact hafter
  | @colon members key outer =>
    simp only [Builder.step] at hstep
    split at hstep
    · next hcolon =>
      have hopen : openTokens (.object members :: outer) ++ [.string key] ++ [.colon] =
          openTokens (.member members key :: outer) := by
        simp [openTokens_cons, Frame.tokens]
      rw [← Option.some.inj hstep, hcolon, hopen]
      exact .value
    · exact absurd hstep (by simp)
  | @item items outer hne =>
    simp only [Builder.step] at hstep
    split at hstep
    · next hcomma =>
      have hopen : openTokens outer ++
            .openArray :: [.comma].intercalate (items.reverse.map Json.tokens) ++ [.comma] =
          openTokens (.array items :: outer) := by
        rw [openTokens_cons, Frame.tokens, ← Text.intercalate_append_sep _ (by simpa using hne)]
        simp
      rw [← Option.some.inj hstep, hcomma, hopen]
      exact .value
    · obtain ⟨_, _, hframes, hafter⟩ | ⟨_, _, hframes, -⟩ := after_close hstep
      · cases hframes
        exact hafter
      · cases hframes
  | @member members outer hne =>
    simp only [Builder.step] at hstep
    split at hstep
    · next hcomma =>
      have hopen : openTokens outer ++
            .openObject :: [.comma].intercalate (members.reverse.map tokensOfMember) ++ [.comma] =
          openTokens (.object members :: outer) := by
        rw [openTokens_cons, Frame.tokens, ← Text.intercalate_append_sep _ (by simpa using hne)]
        simp
      rw [← Option.some.inj hstep, hcomma, hopen]
      exact .key
    · obtain ⟨_, _, hframes, -⟩ | ⟨_, _, hframes, hafter⟩ := after_close hstep
      · cases hframes
      · cases hframes
        exact hafter
  | nothing => exact absurd hstep (by simp [Builder.step])

theorem After.run {b b' : Builder} {read ts : List Token} (h : After b read)
    (hrun : b.run ts = some b') : After b' (read ++ ts) :=
  invariant_foldlM (fun h hstep => h.step hstep) h hrun

end Builder

/-- The only tokens that are read as a value are its own. -/
theorem eq_tokens_of_ofTokens? {ts : List Token} {v : Json} (h : ofTokens? ts = some v) :
    ts = v.tokens := by
  obtain ⟨b, hrun, hfinish⟩ := Option.bind_eq_some_iff.mp h
  have hstart : Builder.After ⟨[], .value⟩ [] := .value
  have hafter := hstart.run hrun
  rw [List.nil_append] at hafter
  cases hafter with
  | nothing =>
    obtain rfl := Option.some.inj hfinish
    rfl
  | value | valueOrEnd | key | keyOrEnd | colon | item | member =>
    exact absurd hfinish (by simp [Builder.finish?])

end Reader

/-- **Reading JSON.** A text is read as a value exactly if it is a text of that value. -/
theorem read?_eq_some_iff {t : Text} {v : Json} : read? t = some v ↔ IsText v t := by
  constructor
  · intro h
    obtain ⟨ts, htokens, hvalue⟩ := Option.bind_eq_some_iff.mp h
    rw [IsText, ← eq_tokens_of_ofTokens? hvalue]
    exact spelling_of_tokens? htokens
  · intro h
    rw [read?, tokens?_of_spelling h (separated_tokens v), Option.bind_some, ofTokens?_tokens]

end TranscriptLint.Json
