import AssetCatalog.Proofs.Regex.Reading

/-! Texts that are refused as regular expressions otherwise than as malformed, by what stands in them. -/

set_option mvcgen.warning false

namespace AssetCatalog.Regex

open Reading

variable {text : Text} {c : Char}

section Escapes

/-- A count is refused for its digits. -/
@[spec] theorem safe_count (digits : Text) (part : digits <:+: text) (each : ∀ c ∈ digits, c.isDigit = true) :
    Safe text (count digits) fun _ => True := by
  -- A count has too many digits, or is too large, or is accepted.
  refine safe_iff.mpr fun reader sound => ?_
  by_cases long : digitLimit < digits.length
  · rw [count, if_pos long]
    exact ⟨digits, part, each, rfl, long⟩
  · by_cases large : repetitionLimit ≤ numeral 10 digits
    · rw [count, if_neg long, if_pos large]
      exact ⟨digits, part, each, large⟩
    · rw [count, if_neg long, if_neg large]
      exact ⟨sound, trivial⟩

/-- Reading the counts between braces is safe, since they are digits of the text. -/
@[spec] theorem safe_braces : Safe text braces fun _ => True := by
  -- Each of the two counts is read from digits that were just taken from the text.
  mvcgen [braces]
  all_goals simp_all

/-- Reading the counts of a repetition mark is safe. -/
@[spec] theorem safe_repetition? (c : Char) : Safe text (repetition? c) fun _ => True := by
  mvcgen [repetition?]

/-- Repeating the last part is safe. -/
@[spec] theorem safe_repeatLast (least : Nat) (most : Option Nat) (parts : List Part) :
    Safe text (repeatLast least most parts) fun _ => True := by
  mvcgen [repeatLast]
  all_goals simp_all

/-- Reading a code point in hexadecimal digits is safe. -/
@[spec] theorem safe_hexEscape (count : Nat) : Safe text (hexEscape count) fun _ => True := by
  mvcgen [hexEscape]
  all_goals simp_all

/-- Reading the name of a character is safe. -/
@[spec] theorem safe_nameEscape : Safe text nameEscape fun _ => True := by
  mvcgen [nameEscape]
  all_goals simp_all

/-- Reading an escape that means the same everywhere is safe. -/
@[spec] theorem safe_commonEscape (c : Char) : Safe text (commonEscape c) fun _ => True := by
  mvcgen [commonEscape]
  all_goals simp_all

/-- Reading an escape inside a set is safe. -/
@[spec] theorem safe_setEscape (c : Char) : Safe text (setEscape c) fun _ => True := by
  mvcgen [setEscape]
  all_goals simp_all

/-- Reading a reference to a group is safe. -/
@[spec] theorem safe_reference (number : Nat) : Safe text (reference number) fun _ => True := by
  mvcgen [reference]
  all_goals simp_all

/-- Reading the digits behind a backslash is safe. -/
@[spec] theorem safe_digitEscape (first : Char) : Safe text (digitEscape first) fun _ => True := by
  mvcgen [digitEscape]
  all_goals simp_all

/-- Reading an escape is safe. -/
@[spec] theorem safe_escape (c : Char) : Safe text (escape c) fun _ => True := by
  mvcgen [escape]

end Escapes

section Sets

/-- Reading an item of a set is safe. -/
@[spec] theorem safe_setItem (token : Token) : Safe text (setItem token) fun _ => True := by
  mvcgen [setItem]
  all_goals simp_all

/-- Reading the items of a set is safe. -/
@[spec] theorem safe_setItems (fuel : Nat) : ∀ items, Safe text (setItems fuel items) fun _ => True := by
  -- One step reads one item, and the rest of the items with one step less.
  induction fuel with
  | zero =>
    intro items
    mvcgen [setItems]
    simp_all
  | succ fuel ih =>
    intro items
    mvcgen [setItems, ih]
    all_goals simp_all

/-- Reading a set is safe. -/
@[spec] theorem safe_set : Safe text set fun _ => True := by
  mvcgen [set]
  all_goals simp_all

end Sets

section Options

/-- The option of a letter of the text is spelled there. -/
theorem lettered_of_optionLetter? {option : RegexOptions} (known : optionLetter? c = some option) (member : c ∈ text) :
    Lettered text option := by
  -- Only two letters set an option for an alphabet.
  unfold optionLetter? at known
  split at known <;> cases known
  all_goals constructor
  all_goals simp_all

/-- Options that are spelled in a text are so together. -/
theorem Lettered.union {first second : RegexOptions} (one : Lettered text first) (other : Lettered text second) :
    Lettered text (first.union second) := by
  -- An option is set in the union if one of the two sets it, and has its letter there.
  constructor
  · intro either
    exact (Bool.or_eq_true _ _ ▸ either).elim one.ascii other.ascii
  · intro either
    exact (Bool.or_eq_true _ _ ▸ either).elim one.unicode other.unicode

/-- No options need no letters. -/
theorem lettered_none (text : Text) : Lettered text {} :=
  ⟨fun set => (nomatch set), fun set => (nomatch set)⟩

/-- Option letters of the text spell the options that they set. -/
@[spec] theorem safe_optionLetters (allowed : RegexOptions → Bool) (stops : List Char) (fuel : Nat) :
    ∀ (found : RegexOptions) (c : Char) (_ : Lettered text found) (_ : c ∈ text),
      Safe text (optionLetters allowed stops fuel found c) fun result => Lettered text result.1 := by
  -- Each letter that is taken is one of the text, so the options stay spelled by letters of the text.
  induction fuel with
  | zero =>
    intro found c lettered member
    mvcgen [optionLetters]
    simp_all
  | succ fuel ih =>
    intro found c lettered member
    mvcgen [optionLetters, ih]
    all_goals grind [Lettered.union, lettered_of_optionLetter?, mem_of_char_mem_tokens]

/-- Reading options is safe: those for the whole pattern are spelled in the text. -/
@[spec] theorem safe_options (first : Char) (member : first ∈ text) : Safe text (options first) fun _ => True := by
  have none := lettered_none text
  mvcgen [options]
  -- Only options for the whole pattern are added to those of the reader.
  all_goals grind [Lettered.union, mem_of_char_mem_tokens, Sound]

end Options

section Groups

/-- Skipping a comment is safe. -/
@[spec] theorem safe_skipComment (fuel : Nat) : Safe text (skipComment fuel) fun _ => True := by
  -- A comment is passed sign by sign.
  induction fuel with
  | zero =>
    mvcgen [skipComment]
    simp_all
  | succ fuel ih =>
    mvcgen [skipComment, ih]
    all_goals simp_all

/-- Skipping the rest of a line is safe. -/
@[spec] theorem safe_skipLine (fuel : Nat) : Safe text (skipLine fuel) fun _ => True := by
  -- Induction on the fuel: a step passes one sign, which is no digit to be read.
  induction fuel with
  | zero => mvcgen [skipLine]
  | succ fuel ih =>
    mvcgen [skipLine, ih]
    all_goals simp_all

/-- Finding the group of a condition is safe. -/
@[spec] theorem safe_conditionGroup (name : Text) : Safe text (conditionGroup name) fun _ => True := by
  -- Only the groups that are asked for are noted, which neither tokens nor options feel.
  mvcgen [conditionGroup]
  all_goals grind [Sound.of_eq]

/-- Closing a parenthesis is safe. -/
@[spec] theorem safe_close : Safe text close fun _ => True := by
  mvcgen [close]
  all_goals simp_all

/-- Reading the name of a group is safe. -/
@[spec] theorem safe_groupName (stop : Char) : Safe text (groupName stop) fun _ => True := by
  mvcgen [groupName]
  all_goals simp_all

/-- Reading what a parenthesis opens is safe. -/
@[spec] theorem safe_opening : Safe text opening fun _ => True := by
  mvcgen [opening]
  all_goals grind [mem_of_char_mem_tokens]

/-- All rules of the grammar are safe within any bound. -/
theorem safe_rules (fuel : Nat) :
    (∀ verbose outermost, Safe text (alternatives fuel verbose outermost) fun _ => True) ∧
      (∀ verbose outermost first, Safe text (moreAlternatives fuel verbose outermost first) fun _ => True) ∧
      (∀ verbose atStart before, Safe text (parts fuel verbose atStart before) fun _ => True) ∧
      ∀ verbose opening, Safe text (body fuel verbose opening) fun _ => True := by
  -- The rules call each other with one step less, so the induction is over all of them together.
  induction fuel with
  | zero =>
    -- Without a step left, every rule refuses.
    refine ⟨?_, ?_, ?_, ?_⟩
    · intro verbose outermost
      mvcgen [alternatives]
      simp_all
    · intro verbose outermost first
      mvcgen [moreAlternatives]
      simp_all
    · intro verbose atStart before
      mvcgen [parts]
      simp_all
    · intro verbose opening
      mvcgen [body]
      simp_all
  | succ fuel ih =>
    -- With one more step, each rule calls the others within the bound before.
    obtain ⟨first, more, sequence, inner⟩ := ih
    refine ⟨?_, ?_, ?_, ?_⟩
    · intro verbose outermost
      mvcgen [alternatives, sequence, more]
      all_goals grind
    · intro verbose outermost found
      mvcgen [moreAlternatives, sequence, more]
      all_goals grind
    · intro verbose atStart before
      mvcgen [parts, sequence, inner]
      all_goals grind
    · intro verbose opening
      mvcgen [body, first, sequence]
      all_goals grind [Sound.of_eq]

end Groups

/-- A text that is refused as a regular expression shows the reason, unless it is refused as malformed. -/
theorem shows_of_parse {fault : ParseError} (refused : parse text = .error fault) : Shows text fault := by
  have begun : Sound text { rest := tokens text } := ⟨List.suffix_rfl, lettered_none text⟩
  -- All grammar rules are safe, and so is the outermost one from the start of the text on.
  have read := safe_iff.mp ((safe_rules (4 * (tokens text).length + 8)).1 false true) _ begun
  unfold parse at refused
  simp only [bind, Except.bind, pure, Except.pure, throw, throwThe, MonadExceptOf.throw] at refused
  revert refused read
  cases (alternatives (4 * (tokens text).length + 8) false true).run { rest := tokens text } with
  | error reason =>
    intro refused read
    split at refused
    · cases refused
      trivial
    · cases refused
      exact read
  | ok result =>
    rintro refused ⟨sound, -⟩
    -- Behind the grammar only the two alphabets are refused otherwise than as malformed.
    split at refused
    · cases refused
      trivial
    · dsimp only at refused
      split at refused
      next both =>
        cases refused
        rw [Bool.and_eq_true] at both
        exact ⟨sound.options.ascii both.1, sound.options.unicode both.2⟩
      next =>
        have malformed : fault = .malformed := by
          revert refused
          repeat' split
          all_goals simp_all
        exact malformed ▸ trivial

end AssetCatalog.Regex
