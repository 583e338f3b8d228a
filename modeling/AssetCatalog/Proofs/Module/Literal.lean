import AssetCatalog.Module.Literal
import AssetCatalog.Source.Literal
import AssetCatalog.Source.Scanner
import Mathlib.Tactic.SplitIfs

/-! The literals of the emitted module stand for the texts that they were made of. -/

namespace AssetCatalog.Literal

open Source (untilQuote?)
open Source.Literal (control? decode hexNumber? hexValue? isOctal numbered)

/-- The hexadecimal digit of a number below sixteen has that number as its value. -/
theorem hexValue?_hexDigit {n : Nat} (small : n < 16) : hexValue? (hexDigit n) = some n := by
  -- There are sixteen digits to look at.
  have checked : ∀ n < 16, hexValue? (hexDigit n) = some n := by decide
  exact checked n small

/-- A character that needs no escape stands for itself. -/
theorem decode_cons {c : Char} (plain : c ≠ '\\') (rest : Text) :
    decode (c :: rest) = (decode rest).map (c :: ·) := by
  -- Only the last equation of the decoder is for a first sign that is no backslash.
  rw [decode]
  · cases decode rest <;> rfl
  all_goals simp [plain]

/-- A backslash and a letter with a meaning of its own stand for one character. -/
theorem decode_control {letter c : Char} (control : control? letter = some c) (rest : Text) :
    decode ('\\' :: letter :: rest) = (decode rest).map (c :: ·) := by
  -- The letter is none of those for which other escapes are tried first.
  have others : ∀ sign ∈ ['\n', 'x', 'u', 'U', 'N'], letter ≠ sign := by
    rintro sign member rfl
    have meaningless : (['\n', 'x', 'u', 'U', 'N'].all fun sign => (control? sign).isNone) = true := by decide
    have none := List.all_eq_true.mp meaningless letter member
    rw [control] at none
    cases none
  have digit : isOctal letter = false := by
    unfold control? at control
    split at control <;> first | decide | cases control
  simp only [List.mem_cons, List.not_mem_nil, or_false, forall_eq_or_imp, forall_eq] at others
  obtain ⟨line, byte, short, long, named⟩ := others
  have free : ['x', 'u', 'U', 'N'].contains letter = false := by simp [*]
  -- Of all ways to read what is behind the backslash, the one for a single letter is left.
  conv => lhs; unfold decode
  split
  case h_7 =>
    rename_i same
    obtain ⟨-, rfl, rfl⟩ := same
    rw [free, digit, control]
    cases decode rest <;> rfl
  case h_8 bare same =>
    obtain ⟨rfl, rfl⟩ := List.cons.inj same
    exact (bare letter rest rfl rfl).elim
  all_goals simp_all

/-- The escape by number stands for the character of that number. -/
theorem decode_numbered {a b c d sign : Char} (value : numbered [a, b, c, d] = .ok sign)
    (rest : Text) :
    decode ('\\' :: 'u' :: a :: b :: c :: d :: rest) = (decode rest).map (sign :: ·) := by
  -- The four digits are read at once, and the rest by itself.
  rw [decode, value]
  cases decode rest <;> rfl

/-- A control is numbered by two zeros and the two digits of its number. -/
theorem numbered_control {c : Char} (control : c.toNat < 0x20) :
    numbered ['0', '0', hexDigit (c.toNat / 16), hexDigit (c.toNat % 16)] = .ok c := by
  -- The two digits are the number divided by sixteen and what is left of it.
  have high : c.toNat / 16 < 16 := by omega
  have low : c.toNat % 16 < 16 := by omega
  have zero : hexValue? '0' = some 0 := by decide
  have number : hexNumber? ['0', '0', hexDigit (c.toNat / 16), hexDigit (c.toNat % 16)] =
      some c.toNat := by
    simp only [hexNumber?, List.foldlM_cons, List.foldlM_nil, zero, hexValue?_hexDigit high,
      hexValue?_hexDigit low, Option.map_some, Option.bind_eq_bind, Option.bind_some, Option.pure_def]
    congr 1
    omega
  have valid : c.toNat < 0x110000 := by omega
  simp [numbered, number, valid]

/-- A character is escaped by a letter or by its number, or it stands for itself. -/
theorem escapeChar_cases (c : Char) :
    (∃ letter, control? letter = some c ∧ escapeChar c = ['\\', letter]) ∨
      (c.toNat < 0x20 ∧ escapeChar c =
        ['\\', 'u', '0', '0', hexDigit (c.toNat / 16), hexDigit (c.toNat % 16)]) ∨
      0x20 ≤ c.toNat ∧ c ≠ '"' ∧ c ≠ '\\' ∧ escapeChar c = [c] := by
  -- The cases follow the tests of the escape, which has a letter for seven characters.
  have byNumber : ∀ n, c.toNat = n → c = Char.ofNat n := by
    rintro n rfl
    exact (Char.ofNat_toNat c).symm
  unfold escapeChar
  split_ifs with quote backslash feed carriage tab back form control
  · exact .inl ⟨'"', by rw [quote]; rfl, rfl⟩
  · exact .inl ⟨'\\', by rw [backslash]; rfl, rfl⟩
  · exact .inl ⟨'n', by rw [feed]; rfl, rfl⟩
  · exact .inl ⟨'r', by rw [carriage]; rfl, rfl⟩
  · exact .inl ⟨'t', by rw [tab]; rfl, rfl⟩
  · -- A backspace and a form feed are told by their numbers.
    exact .inl ⟨'b', by rw [byNumber _ back]; rfl, rfl⟩
  · exact .inl ⟨'f', by rw [byNumber _ form]; rfl, rfl⟩
  · exact .inr (.inl ⟨control, rfl⟩)
  · exact .inr (.inr ⟨Nat.not_lt.mp control, quote, backslash, rfl⟩)

/-- The characters that stand for one character are read as that character. -/
theorem decode_escapeChar (c : Char) (rest : Text) :
    decode (escapeChar c ++ rest) = (decode rest).map (c :: ·) := by
  -- Each of the three ways to spell a character has its own way to be read.
  obtain ⟨letter, control, spelled⟩ | ⟨control, spelled⟩ | ⟨_, _, plain, spelled⟩ := escapeChar_cases c
  · rw [spelled]
    exact decode_control control rest
  · rw [spelled]
    exact decode_numbered (numbered_control control) rest
  · rw [spelled]
    exact decode_cons plain rest

/-- The text between the quotes of a literal is read as the text that was quoted. -/
theorem decode_escape (value : Text) : decode (escape value) = .ok value := by
  -- The characters are read one after the other, each with what stands for it.
  induction value with
  | nil => rfl
  | cons c rest ih =>
    have step := decode_escapeChar c (escape rest)
    rw [ih] at step
    exact step

/-- A hexadecimal digit is neither a control nor one of the signs that end or escape. -/
theorem hexDigit_plain {n : Nat} (small : n < 16) :
    0x20 ≤ (hexDigit n).toNat ∧ hexDigit n ≠ '"' ∧ hexDigit n ≠ '\\' := by
  -- There are sixteen digits to look at.
  have checked : ∀ n < 16, 0x20 ≤ (hexDigit n).toNat ∧ hexDigit n ≠ '"' ∧ hexDigit n ≠ '\\' := by
    decide
  exact checked n small

/-- A control is not written between the quotes of a literal. -/
theorem le_toNat_of_mem_escape {value : Text} {c : Char} (member : c ∈ escape value) :
    0x20 ≤ c.toNat := by
  obtain ⟨sign, _, within⟩ := List.mem_flatMap.mp member
  -- What stands for a control is spelled in signs, letters and digits.
  obtain ⟨letter, control, spelled⟩ | ⟨control, spelled⟩ | ⟨visible, _, _, spelled⟩ :=
    escapeChar_cases sign
  · have visible : 0x20 ≤ letter.toNat := by
      unfold control? at control
      split at control <;> first | decide | cases control
    rw [spelled] at within
    simp only [List.mem_cons, List.not_mem_nil, or_false] at within
    rcases within with rfl | rfl
    · decide
    · exact visible
  · -- A control without a letter of its own is written by its number, in hexadecimal digits.
    have high := (hexDigit_plain (n := sign.toNat / 16) (by omega)).1
    have low := (hexDigit_plain (n := sign.toNat % 16) (by omega)).1
    rw [spelled] at within
    simp only [List.mem_cons, List.not_mem_nil, or_false] at within
    rcases within with rfl | rfl | rfl | rfl | rfl | rfl
    · decide
    · decide
    · decide
    · decide
    · exact high
    · exact low
  · rw [spelled] at within
    exact List.mem_singleton.mp within ▸ visible

/-- A character that neither ends nor escapes is part of the string at hand. -/
theorem untilQuote?_cons {c : Char} (visible : 0x20 ≤ c.toNat) (inside : c ≠ '"') (plain : c ≠ '\\')
    (rest : Text) : untilQuote? '"' (c :: rest) =
      (untilQuote? '"' rest).map fun (body, after) => (c :: body, after) := by
  -- A line feed would end the string as well, but it is a control.
  have sameLine : c ≠ '\n' := by
    rintro rfl
    revert visible
    decide
  rw [untilQuote?]
  · simp [inside, sameLine]
  · simp [plain]

/-- The characters that stand for one character do not close the string that they are in. -/
theorem untilQuote?_escapeChar (c : Char) (rest : Text) :
    untilQuote? '"' (escapeChar c ++ rest) =
      (untilQuote? '"' rest).map fun (body, after) => (escapeChar c ++ body, after) := by
  -- A quote in the text is spelled behind a backslash, which takes it out of consideration.
  obtain ⟨letter, _, spelled⟩ | ⟨control, spelled⟩ | ⟨visible, inside, plain, spelled⟩ :=
    escapeChar_cases c
  · rw [spelled]
    rfl
  · -- The digits of a number are plain, and so are the zeros in front of them.
    obtain ⟨high, highInside, highPlain⟩ := hexDigit_plain (n := c.toNat / 16) (by omega)
    obtain ⟨low, lowInside, lowPlain⟩ := hexDigit_plain (n := c.toNat % 16) (by omega)
    have zero : ∀ rest, untilQuote? '"' ('0' :: rest) =
        (untilQuote? '"' rest).map fun (body, after) => ('0' :: body, after) :=
      untilQuote?_cons (by decide) (by decide) (by decide)
    simp only [spelled, List.cons_append, List.nil_append, untilQuote?, zero,
      untilQuote?_cons high highInside highPlain, untilQuote?_cons low lowInside lowPlain,
      Option.map_map, Function.comp_def]
  · rw [spelled]
    exact untilQuote?_cons visible inside plain rest

/-- A literal is closed by the quote behind what stands for its characters, whatever comes next. -/
theorem untilQuote?_escape_append (value after : Text) :
    untilQuote? '"' (escape value ++ '"' :: after) = some (escape value, after) := by
  -- What stands for the characters is passed, and the quote behind it is the first to close.
  induction value with
  | nil => rfl
  | cons c rest ih =>
    have step := untilQuote?_escapeChar c (escape rest ++ '"' :: after)
    rw [ih, ← List.append_assoc] at step
    exact step

/-- A literal is closed by the quote at its end. -/
theorem untilQuote?_escape (value : Text) :
    untilQuote? '"' (escape value ++ ['"']) = some (escape value, []) :=
  untilQuote?_escape_append value []

/-- Behind the opening quote of a literal comes no other one, except where the literal is empty. -/
theorem head?_escape_ne (value : Text) : (escape value).head? ≠ some '"' := by
  cases value with
  | nil => nofun
  | cons c rest =>
    rw [escape, List.flatMap_cons]
    -- What a character is spelled with starts with a backslash, or it is the character and that is no quote.
    obtain ⟨letter, _, spelled⟩ | ⟨_, spelled⟩ | ⟨_, inside, _, spelled⟩ := escapeChar_cases c <;> rw [spelled]
    · simp
    · simp
    · simpa using inside

end AssetCatalog.Literal
