import AssetCatalog.Text.Shown

/-! The bytes of a text in UTF-8, and the text of bytes that hold nothing else. -/

namespace AssetCatalog

/-- A sequence of bytes. -/
abbrev Bytes := List UInt8

namespace Utf8

/-- The bytes of a character. -/
def encodeChar (c : Char) : Bytes :=
  -- The first byte tells how many follow, and each that follows carries six bits.
  let n := c.toNat
  let bytes :=
    if n < 0x80 then [n]
    else if n < 0x800 then [0xC0 + n / 0x40, 0x80 + n % 0x40]
    else if n < 0x10000 then [0xE0 + n / 0x1000, 0x80 + n / 0x40 % 0x40, 0x80 + n % 0x40]
    else [0xF0 + n / 0x40000, 0x80 + n / 0x1000 % 0x40, 0x80 + n / 0x40 % 0x40, 0x80 + n % 0x40]
  bytes.map UInt8.ofNat

/-- The bytes of a text. -/
def encode (text : Text) : Bytes :=
  text.flatMap encodeChar

/-- What is wrong about some bytes. -/
inductive Reason where
  /-- No character starts with the byte. -/
  | badStart
  /-- A byte that carries on a character is not followed by another one. -/
  | badContinuation
  /-- The bytes end within a character. -/
  | unexpectedEnd
deriving DecidableEq, Repr

/-- The wording of a reason. -/
def Reason.message : Reason → Text
  | badStart => "invalid start byte"
  | badContinuation => "invalid continuation byte"
  | unexpectedEnd => "unexpected end of data"

/-- The first place at which bytes hold no text. -/
structure Fault where
  /-- What is wrong. -/
  reason : Reason
  /-- The byte at that place. -/
  byte : UInt8
  /-- The number of bytes in front of it. -/
  position : Nat
  /-- The number of bytes that belong together there. -/
  length : Nat
deriving DecidableEq, Repr

/-- The wording of a fault. -/
def Fault.message (fault : Fault) : Text :=
  let place : Text :=
    if fault.length = 1 then
      "byte 0x" ++ Text.hexDigits fault.byte.toNat 2 ++ " in position " ++ Text.ofNat fault.position
    else
      "bytes in position " ++ Text.ofNat fault.position ++ "-"
        ++ Text.ofNat (fault.position + fault.length - 1)
  "'utf-8' codec can't decode " ++ place ++ ": " ++ fault.reason.message

/-- A character of which some bytes were read and others are missing. -/
structure Pending where
  /-- The byte that the character starts with. -/
  start : UInt8
  /-- The number of bytes read. -/
  taken : Nat
  /-- The number of bytes missing. -/
  missing : Nat
  /-- The number that the bytes read spell. -/
  value : Nat
  /-- The least byte that may follow. -/
  least : Nat
  /-- The greatest byte that may follow. -/
  greatest : Nat
deriving DecidableEq, Repr

/-- The character that starts with a byte above the single ones, where there is one. -/
def start? (byte : UInt8) : Option Pending :=
  -- The byte behind some starts is limited, so that no character has two spellings or is a surrogate.
  let n := byte.toNat
  if n < 0xC2 then none
  else if n < 0xE0 then some ⟨byte, 1, 1, n - 0xC0, 0x80, 0xBF⟩
  else if n = 0xE0 then some ⟨byte, 1, 2, 0, 0xA0, 0xBF⟩
  else if n = 0xED then some ⟨byte, 1, 2, 0xD, 0x80, 0x9F⟩
  else if n < 0xF0 then some ⟨byte, 1, 2, n - 0xE0, 0x80, 0xBF⟩
  else if n = 0xF0 then some ⟨byte, 1, 3, 0, 0x90, 0xBF⟩
  else if n < 0xF4 then some ⟨byte, 1, 3, n - 0xF0, 0x80, 0xBF⟩
  else if n = 0xF4 then some ⟨byte, 1, 3, 4, 0x80, 0x8F⟩
  else none

/-- The number that a character spells with one more byte. -/
def Pending.next (pending : Pending) (byte : UInt8) : Nat :=
  pending.value * 0x40 + (byte.toNat - 0x80)

/-- The fault of a character at whose end another byte was to come. -/
def Pending.fault (pending : Pending) (reason : Reason) (position : Nat) : Fault where
  reason := reason
  byte := pending.start
  position := position - pending.taken
  length := pending.taken

/-- Reads bytes behind others that spelled the characters done, the last one first. -/
def decodeFrom (position : Nat) (done : Text) : Option Pending → Bytes → Except Fault Text
  | none, [] => .ok done.reverse
  | some pending, [] => .error (pending.fault .unexpectedEnd position)
  | none, byte :: bytes =>
    if byte.toNat < 0x80 then
      decodeFrom (position + 1) (Char.ofNat byte.toNat :: done) none bytes
    else
      match start? byte with
      | some pending => decodeFrom (position + 1) done (some pending) bytes
      | none => .error ⟨.badStart, byte, position, 1⟩
  | some pending, byte :: bytes =>
    if byte.toNat < pending.least || pending.greatest < byte.toNat then
      .error (pending.fault .badContinuation position)
    else if pending.missing ≤ 1 then
      decodeFrom (position + 1) (Char.ofNat (pending.next byte) :: done) none bytes
    else
      -- Only the first of the bytes that follow has limits of its own.
      let further : Pending :=
        ⟨pending.start, pending.taken + 1, pending.missing - 1, pending.next byte, 0x80, 0xBF⟩
      decodeFrom (position + 1) done (some further) bytes

/-- The text that bytes spell. -/
def decode (bytes : Bytes) : Except Fault Text :=
  decodeFrom 0 [] none bytes

end Utf8

end AssetCatalog
