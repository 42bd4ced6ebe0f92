import LoxTokens.Text.Basic

/-!
# UTF-8

A leading byte fixes how many bytes follow it and in which ranges they lie, so a reader needs to
remember only the ranges still owed. It stops at the first byte that no text can have there, or at
the end when ranges are still owed, and says how much of the input before that place is whole
characters.
-/

namespace LoxTokens

/-- Bytes, in reading order. -/
abbrev Bytes := List UInt8

namespace Utf8

def encode (s : Text) : Bytes :=
  s.flatMap String.utf8EncodeChar

/-- The number of bytes that a text takes up. -/
def size (s : Text) : Nat :=
  (encode s).length

/-- The characters that lie whole in the first bytes of a text. -/
def takeBytes (bytes : Nat) : Text → Text
  | [] => []
  | c :: s => if c.utf8Size ≤ bytes then c :: takeBytes (bytes - c.utf8Size) s else []

/-- The rest of a text after those characters. -/
def dropBytes (bytes : Nat) (s : Text) : Text :=
  s.drop (takeBytes bytes s).length

@[simp]
theorem size_cons (c : Char) (s : Text) : size (c :: s) = c.utf8Size + size s := by
  simp [size, encode, String.length_utf8EncodeChar]

/-- Where and how bytes stop being a text. -/
structure Malformed where
  /-- The number of bytes that whole characters take up before the fault. -/
  validUpTo : Nat
  /-- The bytes of the sequence that was begun in vain; none if the input ends inside it. -/
  badLength : Option Nat
deriving DecidableEq

/-- The bytes from `low` to `high`. -/
structure Range where
  low : UInt8
  high : UInt8

def Range.contains (range : Range) (b : UInt8) : Bool :=
  range.low ≤ b && b ≤ range.high

/-- The bytes that may continue a sequence when nothing narrower is asked for. -/
def Range.tail : Range := ⟨0x80, 0xBF⟩

/-- What a leading byte begins: the bits it contributes and the ranges of the bytes it announces.
The narrower second ranges keep out numbers with a shorter form, surrogates and numbers beyond the
last scalar value. -/
def begin? (lead : UInt8) : Option (Nat × List Range) :=
  if lead < 0x80 then some (lead.toNat, [])
  else if lead < 0xC2 then none
  else if lead < 0xE0 then some (lead.toNat % 32, [.tail])
  else if lead = 0xE0 then some (0, [⟨0xA0, 0xBF⟩, .tail])
  else if lead = 0xED then some (13, [⟨0x80, 0x9F⟩, .tail])
  else if lead < 0xF0 then some (lead.toNat % 16, [.tail, .tail])
  else if lead = 0xF0 then some (0, [⟨0x90, 0xBF⟩, .tail, .tail])
  else if lead < 0xF4 then some (lead.toNat % 8, [.tail, .tail, .tail])
  else if lead = 0xF4 then some (4, [⟨0x80, 0x8F⟩, .tail, .tail])
  else none

/-- A sequence that is begun and not complete. -/
structure Pending where
  /-- The bits read so far, as a number. -/
  bits : Nat
  /-- The number of bytes read so far. -/
  taken : Nat
  /-- The range of the next byte. -/
  range : Range
  /-- The ranges of the bytes after it. -/
  later : List Range

/-- The character of a complete sequence, or the sequence with its next range in front. -/
def settle (bits taken : Nat) : List Range → Char ⊕ Pending
  | [] => .inl (Char.ofNat bits)
  | range :: later => .inr ⟨bits, taken, range, later⟩

/-- One more byte of a pending sequence; none if it does not belong there. -/
def Pending.push? (pending : Pending) (b : UInt8) : Option (Char ⊕ Pending) :=
  if pending.range.contains b then
    some (settle (pending.bits * 64 + b.toNat % 64) (pending.taken + 1) pending.later)
  else
    none

/-- Reads on from a place that has `validUpTo` bytes of whole characters before it, inside the
pending sequence if there is one. -/
def decodeFrom (validUpTo : Nat) (pending? : Option Pending) : Bytes → Except Malformed Text
  | [] =>
      match pending? with
      | none => .ok []
      | some _ => .error ⟨validUpTo, none⟩
  | b :: rest =>
      match pending? with
      | none =>
          match begin? b with
          | none => .error ⟨validUpTo, some 1⟩
          | some (bits, ranges) =>
              match settle bits 1 ranges with
              | .inl c => (decodeFrom (validUpTo + 1) none rest).map (c :: ·)
              | .inr pending => decodeFrom validUpTo (some pending) rest
      | some pending =>
          match pending.push? b with
          | none => .error ⟨validUpTo, some pending.taken⟩
          | some (.inl c) =>
              (decodeFrom (validUpTo + pending.taken + 1) none rest).map (c :: ·)
          | some (.inr pending) => decodeFrom validUpTo (some pending) rest

/-- The text that bytes stand for, or where they stop being one. -/
def decode (bytes : Bytes) : Except Malformed Text :=
  decodeFrom 0 none bytes

end Utf8

end LoxTokens
