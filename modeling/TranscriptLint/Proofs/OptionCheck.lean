import TranscriptLint.Config
import TranscriptLint.Proofs.DialectFilter
import TranscriptLint.Proofs.FindingRecords

namespace TranscriptLint

/-! # Checking options

Options are checked one after the other, and the first mistake ends the check. What valid options
are and which mistake counts is said here without the order in which the checker works.

* `Config.Valid c`: what the options have to be.
* `Config.Accepted c checked`: what is made of valid options.
* `Config.FirstMistake c err`: the mistake that counts when there are several.
* `Config.options_checked_exactly`: the check decides just that.
-/

/-! ## Tags -/

namespace Dialect

/-- A tag is the name of this dialect, up to surrounding whitespace and ASCII case. -/
def Named (d : Dialect) (tag : Text) : Prop := Text.lowerAscii (Text.trim tag) = d.name

/-- A tag is one of the four names, up to surrounding whitespace and ASCII case. -/
def IsTag (tag : Text) : Prop :=
  Text.lowerAscii (Text.trim tag) ∈ ["sh".toList, "bash".toList, "dash".toList, "ksh".toList]

theorem exists_named_iff {tag : Text} : (∃ d : Dialect, d.Named tag) ↔ IsTag tag := by
  constructor
  · rintro ⟨d, h⟩
    rw [IsTag, h]
    cases d <;> decide
  · intro h
    simp only [IsTag, List.mem_cons, List.not_mem_nil, or_false] at h
    rcases h with h | h | h | h
    · exact ⟨.sh, h⟩
    · exact ⟨.bash, h⟩
    · exact ⟨.dash, h⟩
    · exact ⟨.ksh, h⟩

theorem name_injective {d d' : Dialect} (h : d.name = d'.name) : d = d' := by
  revert h
  cases d <;> cases d' <;> decide

/-- A tag names at most one dialect. -/
theorem Named.unique {d d' : Dialect} {tag : Text} (h : d.Named tag) (h' : d'.Named tag) : d = d' :=
  name_injective (h.symm.trans h')

theorem ofName_eq_ok_iff {tag : Text} {d : Dialect} : ofName tag = .ok d ↔ d.Named tag := by
  unfold ofName
  split
  · next d' hfound =>
    have hname := List.find?_some hfound
    have hnamed : d'.Named tag := (beq_iff_eq.mp hname).symm
    rw [Except.ok.injEq]
    constructor
    · rintro rfl
      exact hnamed
    · exact hnamed.unique
  · next hnone =>
    rw [List.find?_eq_none] at hnone
    constructor
    · intro h
      exact absurd h (by simp)
    · intro h
      exact absurd (beq_iff_eq.mpr h.symm) (hnone d (mem_all d))

end Dialect

namespace Config

/-! ## What the options have to be -/

/-- The `debug` option is a truth value or the number for one. -/
def IsSwitch (flag : DebugFlag) : Prop := (∃ b, flag = .bool b) ∨ flag = .int 0 ∨ flag = .int 1

/-- Options without a mistake. -/
structure Valid (c : Config) : Prop where
  dialects : ∀ name ∈ c.dialects, Dialect.IsTag name
  prompt : c.prompt.length = 1
  debug : IsSwitch c.debug
  tabWidth : 1 ≤ c.tabWidth

/-- What is made of valid options. The dialects are those that are named, each once and in the fixed
order. -/
structure Accepted (c : Config) (checked : Checked) : Prop where
  dialects : ∀ d, d ∈ checked.dialects ↔ ∃ name ∈ c.dialects, d.Named name
  ordered : checked.dialects.Sublist Dialect.all
  prompt : c.prompt = [checked.prompt]
  debug : checked.debug = true ↔ c.debug = .bool true ∨ c.debug = .int 1
  tabWidth : checked.tabWidth = c.tabWidth

/-- The mistake that counts. The options come in the order dialects, prompt, debug and tab width,
and those before it have none; of the names of dialects it is the first that is none. -/
inductive FirstMistake (c : Config) : ConfigError → Prop where
  | dialect {before after : List Text} {name : Text} (hsplit : c.dialects = before ++ name :: after)
      (hbefore : ∀ tag ∈ before, Dialect.IsTag tag) (hname : ¬ Dialect.IsTag name) :
      FirstMistake c (.invalidDialect name)
  | prompt (hdialects : ∀ name ∈ c.dialects, Dialect.IsTag name) (hprompt : c.prompt.length ≠ 1) :
      FirstMistake c (.invalidPrompt c.prompt)
  | debug {n : Int} (hdialects : ∀ name ∈ c.dialects, Dialect.IsTag name)
      (hprompt : c.prompt.length = 1) (hdebug : c.debug = .int n) (hzero : n ≠ 0) (hone : n ≠ 1) :
      FirstMistake c (.invalidDebug n)
  | tabWidth (hdialects : ∀ name ∈ c.dialects, Dialect.IsTag name)
      (hprompt : c.prompt.length = 1) (hdebug : IsSwitch c.debug) (htab : c.tabWidth = 0) :
      FirstMistake c (.invalidTabWidth c.tabWidth)

/-! ## One option -/

theorem checkDialects_cons_of_named {name : Text} {d : Dialect} (h : d.Named name)
    (names : List Text) :
    checkDialects (name :: names) = (checkDialects names).map (d :: ·) := by
  simp only [checkDialects, Dialect.ofName_eq_ok_iff.mpr h]
  cases checkDialects names <;> rfl

theorem checkDialects_cons_of_not_isTag {name : Text} (h : ¬ Dialect.IsTag name)
    (names : List Text) : checkDialects (name :: names) = .error (.invalidDialect name) := by
  unfold checkDialects
  split
  · rfl
  · next d hd => exact absurd (Dialect.exists_named_iff.mp ⟨d, Dialect.ofName_eq_ok_iff.mp hd⟩) h

/-- Every name stands for its dialect, in order. -/
theorem checkDialects_eq_ok_iff {names : List Text} {ds : List Dialect} :
    checkDialects names = .ok ds ↔ List.Forall₂ (fun name d => d.Named name) names ds := by
  induction names generalizing ds with
  | nil => simp [checkDialects, eq_comm]
  | cons name names ih =>
    rw [List.forall₂_cons_left_iff]
    by_cases hname : Dialect.IsTag name
    · obtain ⟨d, hd⟩ := Dialect.exists_named_iff.mpr hname
      rw [checkDialects_cons_of_named hd]
      constructor
      · intro h
        cases hrest : checkDialects names with
        | error e => exact absurd h (by simp [hrest, Except.map])
        | ok rest =>
          rw [hrest] at h
          exact ⟨d, rest, hd, ih.mp hrest, (Except.ok.inj h).symm⟩
      · rintro ⟨d', rest, hd', hrest, rfl⟩
        rw [ih.mpr hrest, hd.unique hd']
        rfl
    · rw [checkDialects_cons_of_not_isTag hname]
      constructor
      · intro h
        exact absurd h (by simp)
      · rintro ⟨d, -, hd, -⟩
        exact absurd (Dialect.exists_named_iff.mp ⟨d, hd⟩) hname

theorem exists_checkDialects_iff {names : List Text} :
    (∃ ds, checkDialects names = .ok ds) ↔ ∀ name ∈ names, Dialect.IsTag name := by
  simp only [checkDialects_eq_ok_iff, Finding.exists_forall₂_iff, Dialect.exists_named_iff]

/-- The names up to the first that stands for no dialect do not matter, nor do those after it. -/
theorem checkDialects_of_split {before after : List Text} {name : Text}
    (hbefore : ∀ tag ∈ before, Dialect.IsTag tag) (hname : ¬ Dialect.IsTag name) :
    checkDialects (before ++ name :: after) = .error (.invalidDialect name) := by
  induction before with
  | nil => exact checkDialects_cons_of_not_isTag hname after
  | cons tag before ih =>
    rw [List.forall_mem_cons] at hbefore
    obtain ⟨d, hd⟩ := Dialect.exists_named_iff.mpr hbefore.1
    rw [List.cons_append, checkDialects_cons_of_named hd, ih hbefore.2]
    rfl

theorem checkDialects_eq_error_iff {names : List Text} {err : ConfigError} :
    checkDialects names = .error err ↔ ∃ before name after, names = before ++ name :: after ∧
      (∀ tag ∈ before, Dialect.IsTag tag) ∧ ¬ Dialect.IsTag name ∧ err = .invalidDialect name := by
  constructor
  · intro h
    induction names with
    | nil => exact absurd h (by simp [checkDialects])
    | cons name names ih =>
      by_cases hname : Dialect.IsTag name
      · obtain ⟨d, hd⟩ := Dialect.exists_named_iff.mpr hname
        rw [checkDialects_cons_of_named hd] at h
        cases hrest : checkDialects names with
        | ok rest => exact absurd h (by simp [hrest, Except.map])
        | error e =>
          rw [hrest] at h
          obtain rfl : e = err := Except.error.inj h
          obtain ⟨before, bad, after, rfl, hbefore, hbad⟩ := ih hrest
          exact ⟨name :: before, bad, after, rfl, List.forall_mem_cons.mpr ⟨hname, hbefore⟩, hbad⟩
      · rw [checkDialects_cons_of_not_isTag hname] at h
        exact ⟨[], name, names, rfl, by simp, hname, (Except.error.inj h).symm⟩
  · rintro ⟨before, name, after, rfl, hbefore, hname, rfl⟩
    exact checkDialects_of_split hbefore hname

theorem checkPrompt_eq_ok_iff {prompt : Text} {c : Char} :
    checkPrompt prompt = .ok c ↔ prompt = [c] := by
  unfold checkPrompt
  split
  · simp
  · next hnot => simpa using hnot c

theorem checkPrompt_eq_error_iff {prompt : Text} {err : ConfigError} :
    checkPrompt prompt = .error err ↔ prompt.length ≠ 1 ∧ err = .invalidPrompt prompt := by
  unfold checkPrompt
  split
  · simp
  · next hnot =>
    have hlength : prompt.length ≠ 1 := fun hone =>
      (List.length_eq_one_iff.mp hone).elim fun c hc => hnot c hc
    simp [hlength, eq_comm]

theorem checkDebug_eq_ok_iff {flag : DebugFlag} {b : Bool} :
    checkDebug flag = .ok b ↔ flag = .bool b ∨ flag = .int (if b then 1 else 0) := by
  cases flag with
  | bool b' => simp [checkDebug]
  | int n =>
    simp only [checkDebug]
    split_ifs <;> cases b <;> simp_all

theorem checkDebug_eq_error_iff {flag : DebugFlag} {err : ConfigError} :
    checkDebug flag = .error err ↔
      ∃ n, flag = .int n ∧ n ≠ 0 ∧ n ≠ 1 ∧ err = .invalidDebug n := by
  cases flag with
  | bool b => simp [checkDebug]
  | int n =>
    simp only [checkDebug]
    split_ifs <;> simp_all [eq_comm]

theorem checkTabWidth_eq_ok_iff {n width : Nat} :
    checkTabWidth n = .ok width ↔ 1 ≤ n ∧ width = n := by
  unfold checkTabWidth
  split <;> simp <;> omega

theorem checkTabWidth_eq_error_iff {n : Nat} {err : ConfigError} :
    checkTabWidth n = .error err ↔ n = 0 ∧ err = .invalidTabWidth n := by
  unfold checkTabWidth
  split <;> simp_all [eq_comm]

/-! ## All options -/

section Bind

variable {ε α β : Type} {x : Except ε α} {f : α → Except ε β}

theorem bind_eq_ok_iff {b : β} : (x >>= f) = .ok b ↔ ∃ a, x = .ok a ∧ f a = .ok b := by
  cases x <;> simp [bind, Except.bind]

theorem bind_eq_error_iff {e : ε} :
    (x >>= f) = .error e ↔ x = .error e ∨ ∃ a, x = .ok a ∧ f a = .error e := by
  cases x <;> simp [bind, Except.bind]

end Bind

theorem check_eq_ok_iff {c : Config} {checked : Checked} :
    c.check = .ok checked ↔ ∃ ds, checkDialects c.dialects = .ok ds ∧
      ∃ prompt, checkPrompt c.prompt = .ok prompt ∧ ∃ debug, checkDebug c.debug = .ok debug ∧
      1 ≤ c.tabWidth ∧ ⟨Dialect.inOrder ds, prompt, debug, c.tabWidth⟩ = checked := by
  simp only [check, bind_eq_ok_iff, checkTabWidth_eq_ok_iff, pure, Except.pure, Except.ok.injEq,
    and_assoc, exists_and_left, exists_eq_left]

theorem check_eq_error_iff {c : Config} {err : ConfigError} :
    c.check = .error err ↔ checkDialects c.dialects = .error err ∨
      (∃ ds, checkDialects c.dialects = .ok ds) ∧ (checkPrompt c.prompt = .error err ∨
        (∃ prompt, checkPrompt c.prompt = .ok prompt) ∧ (checkDebug c.debug = .error err ∨
          (∃ debug, checkDebug c.debug = .ok debug) ∧ checkTabWidth c.tabWidth = .error err)) := by
  simp only [check, bind_eq_error_iff, pure, Except.pure, reduceCtorEq, and_false, exists_false,
    or_false, exists_and_right]

theorem exists_checkPrompt_iff {prompt : Text} :
    (∃ c, checkPrompt prompt = .ok c) ↔ prompt.length = 1 := by
  simp only [checkPrompt_eq_ok_iff, List.length_eq_one_iff]

theorem exists_checkDebug_iff {flag : DebugFlag} :
    (∃ b, checkDebug flag = .ok b) ↔ IsSwitch flag := by
  simp only [checkDebug_eq_ok_iff, exists_or, Bool.exists_bool, IsSwitch]
  simp

/-- The dialects that names stand for are those that are named. -/
theorem mem_iff_of_forall₂_named {names : List Text} {ds : List Dialect}
    (h : List.Forall₂ (fun name d => d.Named name) names ds) (d : Dialect) :
    d ∈ ds ↔ ∃ name ∈ names, d.Named name := by
  induction h with
  | nil => simp
  | @cons name d' names ds hname _ ih =>
    have hfirst : d = d' ↔ d.Named name := by
      constructor
      · rintro rfl
        exact hname
      · exact fun h => h.unique hname
    rw [List.mem_cons, List.exists_mem_cons_iff, ih, hfirst]

/-- Order and repetition of the names do not matter. -/
theorem mem_inOrder_iff {names : List Text} {ds : List Dialect}
    (h : checkDialects names = .ok ds) (d : Dialect) :
    d ∈ Dialect.inOrder ds ↔ ∃ name ∈ names, d.Named name := by
  rw [← mem_iff_of_forall₂_named (checkDialects_eq_ok_iff.mp h)]
  simp [Dialect.inOrder, Dialect.mem_all]

theorem exists_check_iff (c : Config) : (∃ checked, c.check = .ok checked) ↔ c.Valid := by
  constructor
  · rintro ⟨checked, h⟩
    obtain ⟨ds, hds, prompt, hprompt, debug, hdebug, htab, -⟩ := check_eq_ok_iff.mp h
    exact ⟨exists_checkDialects_iff.mp ⟨ds, hds⟩, exists_checkPrompt_iff.mp ⟨prompt, hprompt⟩,
      exists_checkDebug_iff.mp ⟨debug, hdebug⟩, htab⟩
  · rintro ⟨hdialects, hprompt, hdebug, htab⟩
    obtain ⟨ds, hds⟩ := exists_checkDialects_iff.mpr hdialects
    obtain ⟨prompt, hprompt⟩ := exists_checkPrompt_iff.mpr hprompt
    obtain ⟨debug, hdebug⟩ := exists_checkDebug_iff.mpr hdebug
    exact ⟨_, check_eq_ok_iff.mpr ⟨ds, hds, prompt, hprompt, debug, hdebug, htab, rfl⟩⟩

theorem accepted_of_check {c : Config} {checked : Checked} (h : c.check = .ok checked) :
    c.Accepted checked := by
  obtain ⟨ds, hds, prompt, hprompt, debug, hdebug, -, rfl⟩ := check_eq_ok_iff.mp h
  refine ⟨mem_inOrder_iff hds, List.filter_sublist, checkPrompt_eq_ok_iff.mp hprompt, ?_, rfl⟩
  rcases checkDebug_eq_ok_iff.mp hdebug with hflag | hflag
  · simp [hflag]
  · cases debug <;> simp [hflag]

/-- Which check fails first decides about the mistake. -/
theorem check_eq_error_iff_firstMistake {c : Config} {err : ConfigError} :
    c.check = .error err ↔ c.FirstMistake err := by
  rw [check_eq_error_iff, checkDialects_eq_error_iff, exists_checkDialects_iff,
    checkPrompt_eq_error_iff, exists_checkPrompt_iff, checkDebug_eq_error_iff,
    exists_checkDebug_iff, checkTabWidth_eq_error_iff]
  constructor
  · rintro (⟨before, name, after, hsplit, hbefore, hname, rfl⟩ | ⟨hdialects, ⟨hprompt, rfl⟩ |
      ⟨hprompt, ⟨n, hdebug, hzero, hone, rfl⟩ | ⟨hdebug, htab, rfl⟩⟩⟩)
    · exact .dialect hsplit hbefore hname
    · exact .prompt hdialects hprompt
    · exact .debug hdialects hprompt hdebug hzero hone
    · exact .tabWidth hdialects hprompt hdebug htab
  · intro h
    cases h with
    | dialect hsplit hbefore hname => exact .inl ⟨_, _, _, hsplit, hbefore, hname, rfl⟩
    | prompt hdialects hprompt => exact .inr ⟨hdialects, .inl ⟨hprompt, rfl⟩⟩
    | debug hdialects hprompt hdebug hzero hone =>
      exact .inr ⟨hdialects, .inr ⟨hprompt, .inl ⟨_, hdebug, hzero, hone, rfl⟩⟩⟩
    | tabWidth hdialects hprompt hdebug htab =>
      exact .inr ⟨hdialects, .inr ⟨hprompt, .inr ⟨hdebug, htab, rfl⟩⟩⟩

/-- **Options are checked exactly.** The check succeeds for valid options and for no others. It then
gives the dialects that are named, whatever the order, case and number of the names, and the one
character of the prompt. Else it gives the first mistake. -/
theorem options_checked_exactly (c : Config) :
    ((∃ checked, c.check = .ok checked) ↔ c.Valid) ∧
      (∀ checked, c.check = .ok checked → c.Accepted checked) ∧
      ∀ err, c.check = .error err ↔ c.FirstMistake err :=
  ⟨exists_check_iff c, fun _ => accepted_of_check, fun _ => check_eq_error_iff_firstMistake⟩

end Config
end TranscriptLint
