/-!
Rounding a quotient of natural numbers to a binary64 number, to the nearest and to the even one of
two that are equally near. The bits are computed in exact arithmetic.
-/
namespace MarkupQuery.Binary64

/-- The quotient rounded to the nearest natural number, a half to the even neighbour. -/
def roundDiv (num den : Nat) : Nat :=
  let q := num / den
  let r := num % den
  if 2 * r < den then q
  else if den < 2 * r then q + 1
  else q + q % 2

/-- The exponent `e` with `2 ^ 52 ≤ num / den / 2 ^ e < 2 ^ 53`, for positive numbers. -/
def exponent (num den : Nat) : Int :=
  let e : Int := (num.log2 : Int) - den.log2 - 53
  let scaled := if 0 ≤ e + 53 then (num, den <<< (e + 53).toNat)
    else (num <<< (-(e + 53)).toNat, den)
  if scaled.2 ≤ scaled.1 then e + 1 else e

/-- The least exponent of a binary64 number, that of the subnormal ones. -/
def leastExponent : Int := -1074

/-- The bits of positive infinity. -/
def infinityBits : Nat := 0x7ff0000000000000

/-- The bits of the binary64 number nearest to a quotient of positive numbers. -/
def bitsOfQuotient (num den : Nat) : Nat :=
  let e := max (exponent num den) leastExponent
  let significand :=
    if 0 ≤ e then roundDiv num (den <<< e.toNat) else roundDiv (num <<< (-e).toNat) den
  min (((e - leastExponent).toNat <<< 52) + significand) infinityBits

/-- The bits of the binary64 number nearest to `digits * 10 ^ power`. Powers so large or so small
that the result is infinite or zero anyway are not raised. -/
def bitsOfDecimal (digits : Nat) (power : Int) : Nat :=
  if digits == 0 then 0
  else if 400 < power then infinityBits
  else if 0 ≤ power then bitsOfQuotient (digits * Nat.pow 10 power.toNat) 1
  else if (digits.log2 : Int) + 1081 ≤ -3 * power then 0
  else bitsOfQuotient digits (Nat.pow 10 (-power).toNat)

/-- The bit that says that a number is negative. -/
def signBit : Nat := 0x8000000000000000

/-- The number with the given bits, negated where `negative` asks for it. -/
def ofBits (negative : Bool) (bits : Nat) : Float :=
  Float.ofBits (UInt64.ofNat (if negative then bits + signBit else bits))

end MarkupQuery.Binary64
