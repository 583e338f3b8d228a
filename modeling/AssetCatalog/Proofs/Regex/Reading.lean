import AssetCatalog.Regex.Parser
import Mathlib

/-! Steps that read a regular expression: they stay within its text, and end it for reasons that the text shows. -/

set_option mvcgen.warning false

open Std.Do

namespace AssetCatalog.Regex

variable {α : Type} {text : Text} {reader other : Reader} {property : α → Prop} {c : Char} {token : Token}

/-- What a text shows where it is refused for the given reason. -/
def Shows (text : Text) : ParseError → Prop
  | .malformed => True
  | .repetitionTooLarge =>
    ∃ digits, digits <:+: text ∧ (∀ c ∈ digits, c.isDigit = true) ∧ repetitionLimit ≤ numeral 10 digits
  | .tooManyDigits count =>
    ∃ digits, digits <:+: text ∧ (∀ c ∈ digits, c.isDigit = true) ∧ digits.length = count ∧ 4300 < count
  | .bothAlphabets => 'a' ∈ text ∧ 'u' ∈ text
  | .nestedTooDeeply _ => False

/-- The letters of the options for both alphabets stand in a text where these options are set. -/
structure Lettered (text : Text) (options : RegexOptions) : Prop where
  /-- The letter for ASCII. -/
  ascii : options.ascii = true → 'a' ∈ text
  /-- The letter for Unicode. -/
  unicode : options.unicode = true → 'u' ∈ text

/-- What is known while a text is read comes from that text. -/
structure Sound (text : Text) (reader : Reader) : Prop where
  /-- The tokens to come end the text. -/
  rest : reader.rest <:+ tokens text
  /-- The options are spelled in the text. -/
  options : Lettered text reader.options

section Tokens

/-- The tokens of a text spell it. -/
theorem flatMap_text_tokens (text : Text) : (tokens text).flatMap Token.text = text := by
  -- The cases are those of the reading: an escape, a backslash at the end, and a character by itself.
  fun_induction tokens text with
  | case1 => rfl
  | case2 c rest ih => rw [List.flatMap_cons, ih]; rfl
  | case3 => rfl
  | case4 c rest _ _ ih => rw [List.flatMap_cons, ih]; rfl

/-- A character that is a token by itself stands in the text. -/
theorem mem_of_char_mem_tokens (member : .char c ∈ tokens text) : c ∈ text := by
  -- The text is spelled by its tokens, and this one spells its character.
  rw [← flatMap_text_tokens text]
  exact List.mem_flatMap.mpr ⟨.char c, member, List.mem_singleton_self c⟩

/-- Characters that are tokens side by side stand side by side in the text. -/
theorem infix_of_map_char {found : Text} {rest : List Token} (whole : found.map .char ++ rest <:+ tokens text) :
    found <:+: text := by
  obtain ⟨front, spelled⟩ := whole
  refine ⟨front.flatMap Token.text, rest.flatMap Token.text, ?_⟩
  -- Each of the characters is the whole text of its token.
  have chars : (found.map Token.char).flatMap Token.text = found := by
    rw [List.flatMap_map]
    exact List.flatMap_singleton' found
  have texts := congrArg (List.flatMap Token.text) spelled
  rw [flatMap_text_tokens, List.flatMap_append, List.flatMap_append, chars] at texts
  rw [List.append_assoc]
  exact texts

end Tokens

/-- What is known stays sound where the tokens to come and the options are the same. -/
theorem Sound.of_eq (sound : Sound text reader) (rest : other.rest = reader.rest)
    (options : other.options = reader.options) : Sound text other :=
  ⟨rest ▸ sound.rest, options ▸ sound.options⟩

/-- What is known stays sound where fewer tokens are to come. -/
theorem Sound.tail (sound : Sound text reader) : Sound text { reader with rest := reader.rest.tail } :=
  ⟨(List.tail_suffix reader.rest).trans sound.rest, sound.options⟩

namespace Reading

/-- Whatever a step gives has a property and leaves what is sound, and the text shows why it ends where it does. -/
abbrev Safe (text : Text) (step : Reading α) (property : α → Prop) : Prop :=
  ⦃fun reader => ⌜Sound text reader⌝⦄ step
    ⦃post⟨fun found reader => ⌜Sound text reader ∧ property found⌝, fun fault => ⌜Shows text fault⌝⟩⦄

/-- A step is safe exactly if every run of it is. -/
theorem safe_iff {step : Reading α} : Safe text step property ↔ ∀ reader, Sound text reader →
    match step.run reader with
    | .ok (found, after) => Sound text after ∧ property found
    | .error fault => Shows text fault := by
  -- The triple spells out how a run ends, in either way.
  rw [Safe, Triple.iff]
  refine forall_congr' fun reader => ?_
  simp only [wp, PredTrans.apply_pushArg]
  cases step.run reader with
  | error fault => rfl
  | ok result => rfl

/-- What a step gives and leaves, with only refusals as malformed for it to end otherwise. -/
abbrev Ends (before : Reader) (step : Reading α) (property : α → Reader → Prop) : Prop :=
  ⦃fun reader => ⌜reader = before⌝⦄ step
    ⦃post⟨fun found after => ⌜property found after⌝, fun fault => ⌜fault = .malformed⌝⟩⦄

/-- A step ends in some way exactly if its run does. -/
theorem ends_iff {before : Reader} {step : Reading α} {property : α → Reader → Prop} :
    Ends before step property ↔ ∀ reader, reader = before →
      match step.run reader with
      | .ok (found, after) => property found after
      | .error fault => fault = .malformed := by
  -- Here the reader at the start is fixed, and a refusal has to be that of a malformed text.
  rw [Ends, Triple.iff]
  refine forall_congr' fun reader => ?_
  simp only [wp, PredTrans.apply_pushArg]
  cases step.run reader with
  | error fault => rfl
  | ok result => rfl

/-- Refusing as malformed gives nothing. -/
theorem ends_refuse (before : Reader) : Ends before (refuse : Reading α) fun _ _ => False :=
  ends_iff.mpr fun _ _ => rfl

/-- The next token stays. -/
theorem ends_peek (before : Reader) :
    Ends before peek fun found after => found = before.rest.head? ∧ after = before := by
  mvcgen [peek]
  simp_all

/-- Dropping a token leaves those behind it. -/
theorem ends_advance (before : Reader) :
    Ends before advance fun _ after => after = { before with rest := before.rest.tail } := by
  -- Without a token the step refuses; with one, the tail is what is left.
  have refused := ends_refuse (α := Unit)
  mvcgen [advance, refused]
  grind

/-- What is taken are the tokens at hand, each a character that passes the test; nothing else changes. -/
theorem ends_takeUpTo (test : Char → Bool) (count : Nat) : ∀ before : Reader,
    Ends before (takeUpTo test count) fun found after =>
      found.map Token.char ++ after.rest = before.rest ∧ (∀ c ∈ found, test c = true) ∧
        after.options = before.options := by
  -- The induction is over the number of characters that may still be taken.
  induction count with
  | zero =>
    intro before
    mvcgen [takeUpTo]
    simp_all
  | succ count ih =>
    intro before
    mvcgen [takeUpTo, ends_peek, ends_advance, ih]
    all_goals simp_all
    exact List.cons_head?_tail (by grind)

/-- A text may be refused as malformed at any time. -/
@[spec] theorem safe_refuse : Safe text (refuse : Reading α) fun _ => False :=
  safe_iff.mpr fun _ _ => trivial

/-- The next token is one of the text. -/
@[spec] theorem safe_peek : Safe text peek fun found => ∀ token ∈ found, token ∈ tokens text := by
  mvcgen [peek]
  rename_i sound
  -- The tokens ahead are an end of those of the text.
  exact ⟨sound, fun token member => sound.rest.subset (List.mem_of_mem_head? member)⟩

/-- Dropping a token is safe. -/
@[spec] theorem safe_advance : Safe text advance fun _ => True := by
  -- A tail of the tokens ahead still ends the text.
  mvcgen [advance]
  all_goals grind [Sound.tail]

/-- The token that is taken is one of the text. -/
@[spec] theorem safe_next : Safe text next fun found => ∀ token ∈ found, token ∈ tokens text := by
  -- A token that is there was looked at, and is one of the text; otherwise the step refuses.
  mvcgen [next]
  all_goals simp_all

/-- Taking a given character is safe. -/
@[spec] theorem safe_accept (c : Char) : Safe text (accept c) fun _ => True := by
  -- Whether or not the character is taken, the options stay.
  mvcgen [accept]
  all_goals simp_all

/-- The characters that are taken stand side by side in the text. -/
@[spec] theorem safe_takeUpTo (test : Char → Bool) (count : Nat) :
    Safe text (takeUpTo test count) fun found => found <:+: text ∧ ∀ c ∈ found, test c = true := by
  -- What is taken and the rest make up what was ahead, so a sound reader stays sound.
  refine safe_iff.mpr fun before sound => ?_
  have ended := ends_iff.mp (ends_takeUpTo test count before) before rfl
  revert ended
  cases (takeUpTo test count).run before with
  | error fault =>
    intro malformed
    exact malformed ▸ trivial
  | ok result =>
    rintro ⟨whole, passed, options⟩
    have suffix : result.2.rest <:+ before.rest := ⟨_, whole⟩
    exact ⟨⟨suffix.trans sound.rest, options ▸ sound.options⟩, infix_of_map_char (whole ▸ sound.rest), passed⟩

/-- The digits that are taken stand side by side in the text. -/
@[spec] theorem safe_digits : Safe text digits fun found => found <:+: text ∧ ∀ c ∈ found, c.isDigit = true := by
  mvcgen [digits]

/-- Reading up to a closing character is safe. -/
@[spec] theorem safe_textUntil (stop : Char) : Safe text (textUntil stop) fun _ => True := by
  -- The characters found so far do not matter, only that each step takes one of those ahead.
  have go (fuel : Nat) : ∀ found, Safe text (textUntil.go stop fuel found) fun _ => True := by
    induction fuel with
    | zero =>
      intro found
      mvcgen [textUntil.go]
      simp_all
    | succ fuel ih =>
      intro found
      mvcgen [textUntil.go, ih]
      all_goals simp_all
  mvcgen [textUntil, go]

/-- Counting the groups is safe. -/
@[spec] theorem safe_groupCount : Safe text groupCount fun _ => True := by
  mvcgen [groupCount]

/-- Looking whether a group is closed is safe. -/
@[spec] theorem safe_isClosed (number : Nat) : Safe text (isClosed number) fun _ => True := by
  mvcgen [isClosed]

/-- Checking a reference in a look behind is safe. -/
@[spec] theorem safe_checkLookBehind (number : Nat) : Safe text (checkLookBehind number) fun _ => True := by
  mvcgen [checkLookBehind]
  all_goals simp_all

/-- Opening a group is safe. -/
@[spec] theorem safe_openGroup (name : Option Text) : Safe text (openGroup name) fun _ => True := by
  -- Neither the tokens nor the options change with the groups.
  mvcgen [openGroup]
  all_goals grind [Sound.of_eq]

/-- Looking up the widths of the groups is safe. -/
@[spec] theorem safe_groupWidths : Safe text groupWidths fun _ => True := by
  mvcgen [groupWidths]

/-- Closing a group is safe. -/
@[spec] theorem safe_closeGroup (number : Nat) (body : Regex) : Safe text (closeGroup number body) fun _ => True := by
  -- Neither the tokens nor the options change with the groups.
  mvcgen [closeGroup]
  grind [Sound.of_eq]

end Reading

end AssetCatalog.Regex
