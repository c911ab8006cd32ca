import MarkupQuery.Bytes

/-!
The UTF-8 form of text. `Utf8.next` reads one well-formed sequence or the longest start of one
that cannot be completed; strict decoding refuses the latter, lenient decoding puts one
replacement character in its place.
-/
namespace MarkupQuery

/-- Text, one entry per character. -/
abbrev Text := List Char

namespace Utf8

/-- The bytes of one character. -/
def encodeChar (c : Char) : Bytes :=
  let n := c.toNat
  if n < 0x80 then [UInt8.ofNat n]
  else if n < 0x800 then [UInt8.ofNat (0xc0 + n / 0x40), UInt8.ofNat (0x80 + n % 0x40)]
  else if n < 0x10000 then
    [UInt8.ofNat (0xe0 + n / 0x1000), UInt8.ofNat (0x80 + n / 0x40 % 0x40),
      UInt8.ofNat (0x80 + n % 0x40)]
  else
    [UInt8.ofNat (0xf0 + n / 0x40000), UInt8.ofNat (0x80 + n / 0x1000 % 0x40),
      UInt8.ofNat (0x80 + n / 0x40 % 0x40), UInt8.ofNat (0x80 + n % 0x40)]

def encode (text : Text) : Bytes := text.flatMap encodeChar

/-- How many bytes a text takes. -/
def size (text : Text) : Nat := (encode text).length

/-- What a leading byte announces: how many bytes follow it and the range of the first of them.
The narrowed ranges keep out overlong forms, surrogates and numbers past the last character. -/
structure Lead where
  bits : Nat
  following : Nat
  low : UInt8
  high : UInt8
  deriving DecidableEq, Repr

def lead? (b : UInt8) : Option Lead :=
  if b < 0x80 then some ⟨b.toNat, 0, 0x80, 0xbf⟩
  else if b < 0xc2 then none
  else if b < 0xe0 then some ⟨b.toNat - 0xc0, 1, 0x80, 0xbf⟩
  else if b == 0xe0 then some ⟨0, 2, 0xa0, 0xbf⟩
  else if b == 0xed then some ⟨0xd, 2, 0x80, 0x9f⟩
  else if b < 0xf0 then some ⟨b.toNat - 0xe0, 2, 0x80, 0xbf⟩
  else if b == 0xf0 then some ⟨0, 3, 0x90, 0xbf⟩
  else if b < 0xf4 then some ⟨b.toNat - 0xf0, 3, 0x80, 0xbf⟩
  else if b == 0xf4 then some ⟨4, 3, 0x80, 0x8f⟩
  else none

/-- Reads `following` continuation bytes, the first of them between `low` and `high`. The second
component is what is left after the bytes that fit. -/
def continued (bits : Nat) (low high : UInt8) : Nat → Bytes → Option Nat × Bytes
  | 0, rest => (some bits, rest)
  | _ + 1, [] => (none, [])
  | following + 1, b :: rest =>
    if low ≤ b && b ≤ high then
      continued (bits * 0x40 + (b.toNat - 0x80)) 0x80 0xbf following rest
    else (none, b :: rest)

/-- Reads one character, or passes over the longest start of a sequence that cannot be one. -/
def next (b : UInt8) (rest : Bytes) : Option Char × Bytes :=
  match lead? b with
  | none => (none, rest)
  | some lead =>
    let (bits, left) := continued lead.bits lead.low lead.high lead.following rest
    (bits.map Char.ofNat, left)

theorem continued_length_le (bits : Nat) (low high : UInt8) (following : Nat) (rest : Bytes) :
    (continued bits low high following rest).2.length ≤ rest.length := by
  fun_induction continued bits low high following rest with
  | case1 => simp
  | case2 => simp
  | case3 _ _ _ _ _ _ _ ih => simp only [List.length_cons]; omega
  | case4 => simp

theorem next_length_le (b : UInt8) (rest : Bytes) : (next b rest).2.length ≤ rest.length := by
  unfold next
  split
  · simp
  · exact continued_length_le ..

/-- The text that the bytes encode, if every sequence is well formed. -/
def decode? : Bytes → Option Text
  | [] => some []
  | b :: rest =>
    match (next b rest).1 with
    | none => none
    | some c => (decode? (next b rest).2).map (c :: ·)
termination_by bytes => bytes.length
decreasing_by
  have := next_length_le b rest
  simp only [List.length_cons]
  omega

/-- The text with one replacement character for each part that is not well formed. -/
def decodeLossy : Bytes → Text
  | [] => []
  | b :: rest => (next b rest).1.getD '\ufffd' :: decodeLossy (next b rest).2
termination_by bytes => bytes.length
decreasing_by
  have := next_length_le b rest
  simp only [List.length_cons]
  omega

end Utf8

end MarkupQuery
