import MarkupQuery.CharSet

/-!
The UTF-8 form of a set of characters: sequences of ranges of bytes such that a character is in the
set exactly if its bytes lie in the ranges of one sequence, each in its own.
-/
namespace MarkupQuery

open Text (CharRanges)

/-- A range of bytes, by its first and its last. -/
abbrev ByteRange := UInt8 × UInt8

namespace CharSet

/-- How many bytes the character with a number takes. -/
def width (n : Nat) : Nat :=
  if n < 0x80 then 1 else if n < 0x800 then 2 else if n < 0x10000 then 3 else 4

/-- The parts of a range whose characters take the same number of bytes. -/
def splitWidths (range : Nat × Nat) : CharRanges :=
  let (low, high) := range
  [(0, 0x7f), (0x80, 0x7ff), (0x800, 0xffff), (0x10000, lastNumber)].filterMap fun (first, last) =>
    if max low first ≤ min high last then some (max low first, min high last) else none

/-- Cuts a range so that, if its ends differ in more than their last `count` groups of six bits,
the latter take all values: from zero at its start, up to ones at its end. -/
def splitGroups (count : Nat) (range : Nat × Nat) : CharRanges :=
  let (low, high) := range
  let block := 1 <<< (6 * count)
  if low / block == high / block then [(low, high)]
  else
    let cutLow := low % block != 0
    let cutHigh := high % block != block - 1
    let first := if cutLow then (low / block + 1) * block else low
    let last := if cutHigh then high / block * block else high + 1
    (if cutLow then [(low, first - 1)] else []) ++
      (if first < last then [(first, last - 1)] else []) ++
      (if cutHigh then [(last, high)] else [])

/-- The sequences for a set, in the order of the bytes. -/
def sequences (a : CharSet) : List (List ByteRange) :=
  ((((a.ranges.flatMap splitWidths).flatMap (splitGroups 1)).flatMap (splitGroups 2)).flatMap
    (splitGroups 3)).map fun (low, high) =>
      (Utf8.encodeChar (Char.ofNat low)).zip (Utf8.encodeChar (Char.ofNat high))

end CharSet

end MarkupQuery
