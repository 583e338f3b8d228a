import AssetCatalog.Text.Utf8
import Mathlib.Tactic.SplitIfs

/-! Bytes spell a text exactly if they are its bytes in UTF-8. -/

namespace AssetCatalog.Utf8

/-- The number of a character is no surrogate and not too great. -/
theorem toNat_valid (c : Char) : c.toNat < 0xD800 ∨ 0xDFFF < c.toNat ∧ c.toNat < 0x110000 :=
  c.valid

/-- A character that is made of such a number has that number. -/
theorem toNat_ofNat_of_valid {n : Nat} (valid : n < 0xD800 ∨ 0xDFFF < n ∧ n < 0x110000) :
    (Char.ofNat n).toNat = n := by
  -- The number is one of a character, so it is not replaced.
  have holds : n.isValidChar := valid
  rw [Char.ofNat, dif_pos holds]
  rfl

/-- A byte that is made of a number below the number of bytes has that number. -/
theorem toNat_byte {n : Nat} (small : n < 0x100) : (UInt8.ofNat n).toNat = n := by
  -- Numbers of bytes are taken modulo their count, which does nothing here.
  rw [UInt8.toNat_ofNat']
  omega

/-- A byte is made of its number. -/
theorem byte_eq {n : Nat} (byte : UInt8) (number : n = byte.toNat) : UInt8.ofNat n = byte := by
  rw [number, UInt8.ofNat_toNat]

/-- Whether the number of a byte lies between two others. -/
def Within (least greatest : Nat) (byte : UInt8) : Prop :=
  least ≤ byte.toNat ∧ byte.toNat ≤ greatest

/-- The bytes that spell a single character, with the number of the character. -/
inductive Spells : Bytes → Nat → Prop where
  /-- One byte. -/
  | one {a : UInt8} (first : a.toNat < 0x80) : Spells [a] a.toNat
  /-- Two bytes. -/
  | two {a b : UInt8} (first : Within 0xC2 0xDF a) (second : Within 0x80 0xBF b) :
    Spells [a, b] ((a.toNat - 0xC0) * 0x40 + (b.toNat - 0x80))
  /-- Three bytes, that do not spell a surrogate or what takes fewer bytes. -/
  | three {a b c : UInt8} (first : Within 0xE0 0xEF a)
    (second : Within (if a.toNat = 0xE0 then 0xA0 else 0x80) (if a.toNat = 0xED then 0x9F else 0xBF) b)
    (third : Within 0x80 0xBF c) :
    Spells [a, b, c] (((a.toNat - 0xE0) * 0x40 + (b.toNat - 0x80)) * 0x40 + (c.toNat - 0x80))
  /-- Four bytes, that do not spell too great a number or what takes fewer bytes. -/
  | four {a b c d : UInt8} (first : Within 0xF0 0xF4 a)
    (second : Within (if a.toNat = 0xF0 then 0x90 else 0x80) (if a.toNat = 0xF4 then 0x8F else 0xBF) b)
    (third : Within 0x80 0xBF c) (fourth : Within 0x80 0xBF d) :
    Spells [a, b, c, d] ((((a.toNat - 0xF0) * 0x40 + (b.toNat - 0x80)) * 0x40 + (c.toNat - 0x80)) * 0x40
      + (d.toNat - 0x80))

section Encoding

variable {c : Char}

/-- A character below the first limit has one byte. -/
theorem encodeChar_one (below : c.toNat < 0x80) : encodeChar c = [UInt8.ofNat c.toNat] := by
  simp [encodeChar, below]

/-- A character between the first two limits has two bytes. -/
theorem encodeChar_two (above : 0x80 ≤ c.toNat) (below : c.toNat < 0x800) :
    encodeChar c = [UInt8.ofNat (0xC0 + c.toNat / 0x40), UInt8.ofNat (0x80 + c.toNat % 0x40)] := by
  -- The bounds decide the tests in turn.
  simp only [encodeChar]
  rw [if_neg (by omega), if_pos below]
  rfl

/-- A character between the second limit and the third has three bytes. -/
theorem encodeChar_three (above : 0x800 ≤ c.toNat) (below : c.toNat < 0x10000) :
    encodeChar c = [UInt8.ofNat (0xE0 + c.toNat / 0x1000), UInt8.ofNat (0x80 + c.toNat / 0x40 % 0x40),
      UInt8.ofNat (0x80 + c.toNat % 0x40)] := by
  -- The bounds decide the tests in turn.
  simp only [encodeChar]
  rw [if_neg (by omega), if_neg (by omega), if_pos below]
  rfl

/-- A character above the third limit has four bytes. -/
theorem encodeChar_four (above : 0x10000 ≤ c.toNat) :
    encodeChar c = [UInt8.ofNat (0xF0 + c.toNat / 0x40000), UInt8.ofNat (0x80 + c.toNat / 0x1000 % 0x40),
      UInt8.ofNat (0x80 + c.toNat / 0x40 % 0x40), UInt8.ofNat (0x80 + c.toNat % 0x40)] := by
  -- The bounds decide the tests in turn.
  simp only [encodeChar]
  rw [if_neg (by omega), if_neg (by omega), if_neg (by omega)]
  rfl

end Encoding

/-- The bytes of a character spell it. -/
theorem spells_encodeChar (c : Char) : Spells (encodeChar c) c.toNat := by
  -- The cases are the four lengths, and the limits of each byte follow from those of the number.
  have valid := toNat_valid c
  -- A single byte is the number itself; what is longer begins with a mark of its length.
  by_cases one : c.toNat < 0x80
  · have a : (UInt8.ofNat c.toNat).toNat = c.toNat := toNat_byte (by omega)
    have spelled : Spells [UInt8.ofNat c.toNat] _ := .one (by omega)
    rwa [a, ← encodeChar_one one] at spelled
  by_cases two : c.toNat < 0x800
  · rw [encodeChar_two (by omega) two]
    have a := toNat_byte (show 0xC0 + c.toNat / 0x40 < 0x100 by omega)
    have b := toNat_byte (show 0x80 + c.toNat % 0x40 < 0x100 by omega)
    have spelled : Spells [UInt8.ofNat (0xC0 + c.toNat / 0x40), UInt8.ofNat (0x80 + c.toNat % 0x40)] _ :=
      .two ⟨by omega, by omega⟩ ⟨by omega, by omega⟩
    have number : (0xC0 + c.toNat / 0x40 - 0xC0) * 0x40 + (0x80 + c.toNat % 0x40 - 0x80) = c.toNat := by omega
    rwa [a, b, number] at spelled
  by_cases three : c.toNat < 0x10000
  · rw [encodeChar_three (by omega) three]
    have a := toNat_byte (show 0xE0 + c.toNat / 0x1000 < 0x100 by omega)
    have b := toNat_byte (show 0x80 + c.toNat / 0x40 % 0x40 < 0x100 by omega)
    have d := toNat_byte (show 0x80 + c.toNat % 0x40 < 0x100 by omega)
    have spelled : Spells [UInt8.ofNat (0xE0 + c.toNat / 0x1000), UInt8.ofNat (0x80 + c.toNat / 0x40 % 0x40),
        UInt8.ofNat (0x80 + c.toNat % 0x40)] _ :=
      .three ⟨by omega, by omega⟩ ⟨by split <;> omega, by split <;> omega⟩ ⟨by omega, by omega⟩
    have number : ((0xE0 + c.toNat / 0x1000 - 0xE0) * 0x40 + (0x80 + c.toNat / 0x40 % 0x40 - 0x80)) * 0x40
        + (0x80 + c.toNat % 0x40 - 0x80) = c.toNat := by omega
    rwa [a, b, d, number] at spelled
  · rw [encodeChar_four (by omega)]
    have a := toNat_byte (show 0xF0 + c.toNat / 0x40000 < 0x100 by omega)
    have b := toNat_byte (show 0x80 + c.toNat / 0x1000 % 0x40 < 0x100 by omega)
    have d := toNat_byte (show 0x80 + c.toNat / 0x40 % 0x40 < 0x100 by omega)
    have e := toNat_byte (show 0x80 + c.toNat % 0x40 < 0x100 by omega)
    have spelled : Spells [UInt8.ofNat (0xF0 + c.toNat / 0x40000), UInt8.ofNat (0x80 + c.toNat / 0x1000 % 0x40),
        UInt8.ofNat (0x80 + c.toNat / 0x40 % 0x40), UInt8.ofNat (0x80 + c.toNat % 0x40)] _ :=
      .four ⟨by omega, by omega⟩ ⟨by split <;> omega, by split <;> omega⟩ ⟨by omega, by omega⟩
        ⟨by omega, by omega⟩
    have number : (((0xF0 + c.toNat / 0x40000 - 0xF0) * 0x40 + (0x80 + c.toNat / 0x1000 % 0x40 - 0x80)) * 0x40
        + (0x80 + c.toNat / 0x40 % 0x40 - 0x80)) * 0x40 + (0x80 + c.toNat % 0x40 - 0x80) = c.toNat := by omega
    rwa [a, b, d, e, number] at spelled

/-- What bytes spell is a character, whose bytes they are. -/
theorem Spells.encodeChar_eq {bytes : Bytes} {n : Nat} (spelled : Spells bytes n) :
    encodeChar (Char.ofNat n) = bytes := by
  -- In each case the number is that of a character of just this length.
  cases spelled with
  | @one a first =>
    have number := toNat_ofNat_of_valid (show a.toNat < 0xD800 ∨ _ by omega)
    rw [encodeChar_one (by omega), byte_eq _ number]
  | @two a b first second =>
    obtain ⟨_, _⟩ := first
    obtain ⟨_, _⟩ := second
    generalize same : (a.toNat - 0xC0) * 0x40 + (b.toNat - 0x80) = n
    have number := toNat_ofNat_of_valid (show n < 0xD800 ∨ _ by omega)
    rw [encodeChar_two (by omega) (by omega), byte_eq a (by omega), byte_eq b (by omega)]
  | @three a b c first second third =>
    obtain ⟨_, _⟩ := first
    obtain ⟨_, _⟩ := second
    obtain ⟨_, _⟩ := third
    generalize same : ((a.toNat - 0xE0) * 0x40 + (b.toNat - 0x80)) * 0x40 + (c.toNat - 0x80) = n
    -- The limits of the second byte keep the number from being one of fewer bytes or a surrogate.
    have limits : (0x80 ≤ b.toNat ∧ b.toNat ≤ 0xBF) ∧ 0x800 ≤ n ∧ n < 0x10000 ∧ (n < 0xD800 ∨ 0xDFFF < n) := by
      split_ifs at * <;> omega
    have number := toNat_ofNat_of_valid (show n < 0xD800 ∨ 0xDFFF < n ∧ n < 0x110000 by omega)
    rw [encodeChar_three (by omega) (by omega), byte_eq a (by omega),
      byte_eq b (by omega), byte_eq c (by omega)]
  | @four a b c d first second third fourth =>
    obtain ⟨_, _⟩ := first
    obtain ⟨_, _⟩ := second
    obtain ⟨_, _⟩ := third
    obtain ⟨_, _⟩ := fourth
    generalize same : (((a.toNat - 0xF0) * 0x40 + (b.toNat - 0x80)) * 0x40 + (c.toNat - 0x80)) * 0x40
      + (d.toNat - 0x80) = n
    have limits : (0x80 ≤ b.toNat ∧ b.toNat ≤ 0xBF) ∧ 0x10000 ≤ n ∧ n < 0x110000 := by
      split_ifs at * <;> omega
    have number := toNat_ofNat_of_valid (show n < 0xD800 ∨ 0xDFFF < n ∧ n < 0x110000 by omega)
    rw [encodeChar_four (by omega), byte_eq a (by omega),
      byte_eq b (by omega), byte_eq c (by omega), byte_eq d (by omega)]

section Starts

variable {a : UInt8}

/-- The bytes that start a character of two. -/
theorem start?_two (first : Within 0xC2 0xDF a) :
    start? a = some ⟨a, 1, 1, a.toNat - 0xC0, 0x80, 0xBF⟩ := by
  -- The bounds decide the tests in turn.
  obtain ⟨least, greatest⟩ := first
  simp only [start?]
  rw [if_neg (by omega), if_pos (by omega)]

/-- The bytes that start a character of three, of which two limit the next byte. -/
theorem start?_three (first : Within 0xE0 0xEF a) :
    start? a = some ⟨a, 1, 2, a.toNat - 0xE0, if a.toNat = 0xE0 then 0xA0 else 0x80,
      if a.toNat = 0xED then 0x9F else 0xBF⟩ := by
  obtain ⟨least, greatest⟩ := first
  simp only [start?]
  rw [if_neg (by omega), if_neg (by omega)]
  -- The first and the last but two of these bytes narrow the limits.
  by_cases lowest : a.toNat = 0xE0
  · simp [lowest]
  by_cases surrogates : a.toNat = 0xED
  · simp [surrogates]
  · rw [if_neg lowest, if_neg surrogates, if_pos (by omega), if_neg lowest, if_neg surrogates]

/-- The bytes that start a character of four, of which two limit the next byte. -/
theorem start?_four (first : Within 0xF0 0xF4 a) :
    start? a = some ⟨a, 1, 3, a.toNat - 0xF0, if a.toNat = 0xF0 then 0x90 else 0x80,
      if a.toNat = 0xF4 then 0x8F else 0xBF⟩ := by
  obtain ⟨least, greatest⟩ := first
  simp only [start?]
  rw [if_neg (by omega), if_neg (by omega), if_neg (by omega), if_neg (by omega), if_neg (by omega)]
  -- The first and the last of these bytes narrow the limits.
  by_cases lowest : a.toNat = 0xF0
  · simp [lowest]
  by_cases highest : a.toNat = 0xF4
  · simp [highest]
  · rw [if_neg lowest, if_pos (by omega), if_neg lowest, if_neg highest]

/-- No other byte starts a character. -/
theorem within_of_start? {pending : Pending} (start : start? a = some pending) :
    Within 0xC2 0xDF a ∨ Within 0xE0 0xEF a ∨ Within 0xF0 0xF4 a := by
  -- Each test that succeeds is one of the three ranges, or lies within one.
  simp only [start?, Within] at *
  split_ifs at start <;> omega

end Starts

section Steps

variable {position : Nat} {done : Text} {byte : UInt8} {bytes : Bytes} {pending : Pending}

/-- A byte below the limit spells a character by itself. -/
theorem decodeFrom_single (single : byte.toNat < 0x80) :
    decodeFrom position done none (byte :: bytes) =
      decodeFrom (position + 1) (Char.ofNat byte.toNat :: done) none bytes := by
  rw [decodeFrom, if_pos single]

/-- A byte above the limit starts a character. -/
theorem decodeFrom_start (several : 0x80 ≤ byte.toNat) (start : start? byte = some pending) :
    decodeFrom position done none (byte :: bytes) = decodeFrom (position + 1) done (some pending) bytes := by
  rw [decodeFrom, if_neg (by omega), start]

/-- The last byte of a character completes it. -/
theorem decodeFrom_last (last : pending.missing ≤ 1) (within : Within pending.least pending.greatest byte) :
    decodeFrom position done (some pending) (byte :: bytes) =
      decodeFrom (position + 1) (Char.ofNat (pending.next byte) :: done) none bytes := by
  obtain ⟨least, greatest⟩ := within
  -- The byte is within its bounds and none is missing behind it.
  rw [decodeFrom, if_neg (by simp; omega), if_pos last]

/-- Any other byte within a character is followed by one more. -/
theorem decodeFrom_further (further : 1 < pending.missing) (within : Within pending.least pending.greatest byte) :
    decodeFrom position done (some pending) (byte :: bytes) =
      decodeFrom (position + 1) done (some ⟨pending.start, pending.taken + 1, pending.missing - 1,
        pending.next byte, 0x80, 0xBF⟩) bytes := by
  obtain ⟨least, greatest⟩ := within
  -- The byte is within its bounds and others are missing behind it.
  rw [decodeFrom, if_neg (by simp; omega), if_neg (by omega)]

/-- Where a character is read on to its end, there is a byte within its limits. -/
theorem exists_byte_of_pending {text : Text}
    (read : decodeFrom position done (some pending) bytes = .ok text) :
    ∃ byte rest, bytes = byte :: rest ∧ Within pending.least pending.greatest byte := by
  -- Neither the end of the bytes nor a byte outside of the limits lets the reading go on.
  cases bytes with
  | nil => simp [decodeFrom] at read
  | cons byte rest =>
    refine ⟨byte, rest, rfl, ?_⟩
    rw [decodeFrom] at read
    by_cases outside : (decide (byte.toNat < pending.least) || decide (pending.greatest < byte.toNat)) = true
    · rw [if_pos outside] at read
      cases read
    · simp only [Bool.or_eq_true, decide_eq_true_eq, not_or, Nat.not_lt] at outside
      exact outside

end Steps

/-- Bytes that spell a character are read as the character. -/
theorem Spells.decodeFrom_append {bytes : Bytes} {n : Nat} (spelled : Spells bytes n) (position : Nat)
    (done : Text) (rest : Bytes) :
    ∃ behind, decodeFrom position done none (bytes ++ rest) =
      decodeFrom behind (Char.ofNat n :: done) none rest := by
  -- four first| Four bytes are the most that a start asks for.
  -- The first byte tells how many are to come, and each of these is within its limits.
  cases spelled with
  | one first => exact ⟨position + 1, decodeFrom_single first⟩
  | two first second =>
    refine ⟨position + 2, ?_⟩
    simp only [List.cons_append, List.nil_append]
    rw [decodeFrom_start (Nat.le_trans (by decide) first.1) (start?_two first),
      decodeFrom_last (by simp) second]
    rfl
  | three first second third =>
    refine ⟨position + 3, ?_⟩
    simp only [List.cons_append, List.nil_append]
    rw [decodeFrom_start (Nat.le_trans (by decide) first.1) (start?_three first),
      decodeFrom_further (by simp) second, decodeFrom_last (by simp) third]
    rfl
  | four first second third fourth =>
    refine ⟨position + 4, ?_⟩
    simp only [List.cons_append, List.nil_append]
    rw [decodeFrom_start (Nat.le_trans (by decide) first.1) (start?_four first),
      decodeFrom_further (by simp) second, decodeFrom_further (by simp) third,
      decodeFrom_last (by simp) fourth]
    rfl

/-- Bytes that are read to the end begin with some that spell a character. -/
theorem exists_spells {position : Nat} {done text : Text} {byte : UInt8} {bytes : Bytes}
    (read : decodeFrom position done none (byte :: bytes) = .ok text) :
    ∃ first n rest, byte :: bytes = first ++ rest ∧ Spells first n := by
  -- A byte below the first limit is a character by itself.
  by_cases single : byte.toNat < 0x80
  · exact ⟨[byte], _, bytes, rfl, .one single⟩
  · -- A first byte that is not single tells how many are to follow.
    cases start : start? byte with
    | none =>
      rw [decodeFrom, if_neg single, start] at read
      cases read
    | some pending =>
      rw [decodeFrom_start (by omega) start] at read
      obtain ⟨b, behindB, rfl, second⟩ := exists_byte_of_pending read
      -- The range of the first byte tells how many follow, and each that is asked for is there.
      rcases within_of_start? start with first | first | first
      · obtain rfl := Option.some.inj (start.symm.trans (start?_two first))
        exact ⟨[byte, b], _, behindB, rfl, .two first second⟩
      · obtain rfl := Option.some.inj (start.symm.trans (start?_three first))
        rw [decodeFrom_further (by simp) second] at read
        obtain ⟨c, behindC, rfl, third⟩ := exists_byte_of_pending read
        exact ⟨[byte, b, c], _, behindC, rfl, .three first second third⟩
      · obtain rfl := Option.some.inj (start.symm.trans (start?_four first))
        rw [decodeFrom_further (by simp) second] at read
        obtain ⟨c, behindC, rfl, third⟩ := exists_byte_of_pending read
        rw [decodeFrom_further (by simp) third] at read
        obtain ⟨d, behindD, rfl, fourth⟩ := exists_byte_of_pending read
        exact ⟨[byte, b, c, d], _, behindD, rfl, .four first second third fourth⟩

/-- The bytes of a text are read behind other characters as the text. -/
theorem decodeFrom_encode (text : Text) : ∀ (position : Nat) (done : Text),
    decodeFrom position done none (encode text) = .ok (done.reverse ++ text) := by
  -- The bytes of one character after the other are read.
  induction text with
  | nil => simp [encode, decodeFrom]
  | cons c rest ih =>
    intro position done
    obtain ⟨behind, read⟩ := (spells_encodeChar c).decodeFrom_append position done (encode rest)
    rw [encode, List.flatMap_cons, ← encode, read, ih, Char.ofNat_toNat]
    simp

/-- Bytes that are read as a text behind other characters are those of what comes behind them. -/
theorem exists_encode_of_decodeFrom {text : Text} (bytes : Bytes) : ∀ {position : Nat} {done : Text},
    decodeFrom position done none bytes = .ok text →
      ∃ behind, text = done.reverse ++ behind ∧ bytes = encode behind := by
  -- Each character takes some bytes, so the bytes left become fewer.
  induction length : bytes.length using Nat.strongRecOn generalizing bytes with
  | ind count ih =>
    intro position done read
    cases bytes with
    | nil =>
      rw [decodeFrom, Except.ok.injEq] at read
      exact ⟨[], by simp [read], rfl⟩
    | cons byte bytes =>
      obtain ⟨first, n, rest, same, spelled⟩ := exists_spells read
      obtain ⟨behind, step⟩ := spelled.decodeFrom_append position done rest
      rw [same, step] at read
      -- No character is spelled without bytes.
      have fewer : rest.length < count := by
        have filled : first ≠ [] := by
          rintro rfl
          cases spelled
        have positive := List.length_pos_iff.mpr filled
        rw [← length, same, List.length_append]
        omega
      obtain ⟨further, text, left⟩ := ih rest.length fewer rest rfl read
      -- The bytes read are those of the character that they spell.
      refine ⟨Char.ofNat n :: further, by simp [text], ?_⟩
      rw [same, left, encode, encode, List.flatMap_cons, spelled.encodeChar_eq]

/-- Bytes are read as a text exactly if they are the bytes of the text. -/
theorem decode_eq_ok_iff {bytes : Bytes} {text : Text} : decode bytes = .ok text ↔ bytes = encode text := by
  -- Reading starts without a pending character, where both directions are known.
  constructor
  · intro read
    obtain ⟨behind, same, spelled⟩ := exists_encode_of_decodeFrom bytes read
    rw [spelled, same, List.reverse_nil, List.nil_append]
  · rintro rfl
    simpa [decode] using decodeFrom_encode text 0 []

end AssetCatalog.Utf8
