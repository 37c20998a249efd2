import Specfile.Text.Basic

/-! The strict byte form of texts. A leading byte fixes how many bytes follow it and
bounds the first of them, which excludes overlong forms, surrogates and numbers beyond
the last code point. Decoding stops at the first byte that cannot continue and names
the longest valid beginning of the refused sequence. -/

set_option autoImplicit false

namespace Specfile

abbrev Bytes := List UInt8

namespace Utf8

def encodeChar (c : Char) : Bytes :=
  let n := c.toNat
  let tail (n : Nat) : UInt8 := .ofNat (0x80 + n % 0x40)
  if n < 0x80 then [.ofNat n]
  else if n < 0x800 then [.ofNat (0xc0 + n / 0x40), tail n]
  else if n < 0x10000 then [.ofNat (0xe0 + n / 0x1000), tail (n / 0x40), tail n]
  else [.ofNat (0xf0 + n / 0x40000), tail (n / 0x1000), tail (n / 0x40), tail n]

def encode (text : Text) : Bytes := text.flatMap encodeChar

/-- What a leading byte announces: its own bits, the number of bytes after it, and the
bounds of the first of these. -/
structure Lead where
  bits : Nat
  following : Nat
  low : Nat := 0x80
  high : Nat := 0xbf
  deriving DecidableEq, Repr

def lead? (byte : Nat) : Option Lead :=
  if byte < 0x80 then some { bits := byte, following := 0 }
  else if byte < 0xc2 then none
  else if byte < 0xe0 then some { bits := byte - 0xc0, following := 1 }
  else if byte = 0xe0 then some { bits := 0, following := 2, low := 0xa0 }
  else if byte = 0xed then some { bits := 0xd, following := 2, high := 0x9f }
  else if byte < 0xf0 then some { bits := byte - 0xe0, following := 2 }
  else if byte = 0xf0 then some { bits := 0, following := 3, low := 0x90 }
  else if byte < 0xf4 then some { bits := byte - 0xf0, following := 3 }
  else if byte = 0xf4 then some { bits := 4, following := 3, high := 0x8f }
  else none

inductive Reason where
  | startByte
  | continuationByte
  | endOfData
  deriving DecidableEq, Repr

def Reason.message : Reason → Text
  | .startByte => "invalid start byte".toList
  | .continuationByte => "invalid continuation byte".toList
  | .endOfData => "unexpected end of data".toList

/-- The first sequence that is no character: its offset, its leading byte and how many of
its bytes form a valid beginning. -/
structure Refusal where
  reason : Reason
  offset : Nat
  byte : UInt8
  span : Nat
  deriving DecidableEq, Repr

def follow : (count low high value seen : Nat) → Bytes → Except (Reason × Nat) (Nat × Bytes)
  | 0, _, _, value, _, bytes => .ok (value, bytes)
  | _ + 1, _, _, _, seen, [] => .error (.endOfData, seen)
  | count + 1, low, high, value, seen, byte :: bytes =>
    if low ≤ byte.toNat ∧ byte.toNat ≤ high then
      follow count 0x80 0xbf (0x40 * value + byte.toNat % 0x40) (seen + 1) bytes
    else .error (.continuationByte, seen)

theorem length_le_of_follow {count low high value seen : Nat} {bytes : Bytes}
    {result : Nat × Bytes} (taken : follow count low high value seen bytes = .ok result) :
    result.2.length ≤ bytes.length := by
  fun_induction follow count low high value seen bytes with
  | case1 => cases taken; exact Nat.le_refl _
  | case2 => cases taken
  | case3 _ _ _ _ _ _ _ _ ih => exact Nat.le_succ_of_le (ih taken)
  | case4 => cases taken

/-- Decodes the rest of the bytes; the characters read before are held last one first. -/
def decodeFrom (offset : Nat) (bytes : Bytes) (done : Text) : Except Refusal Text :=
  match bytes with
  | [] => .ok done.reverse
  | byte :: bytes =>
    match lead? byte.toNat with
    | none => .error ⟨.startByte, offset, byte, 1⟩
    | some lead =>
      match taken : follow lead.following lead.low lead.high lead.bits 1 bytes with
      | .error (reason, span) => .error ⟨reason, offset, byte, span⟩
      | .ok (value, rest) =>
        decodeFrom (offset + 1 + lead.following) rest (Char.ofNat value :: done)
termination_by bytes.length
decreasing_by exact Nat.lt_succ_of_le (length_le_of_follow taken)

def decode (bytes : Bytes) : Except Refusal Text := decodeFrom 0 bytes []

end Utf8

end Specfile
