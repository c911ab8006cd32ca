import MarkupQuery.Text
import MarkupQuery.Value.Binary64

/-!
Reading scalar values from the text of a node. White space around a value is ignored.
-/
namespace MarkupQuery.Value

/-- A sign, if one is written, and the text after it. -/
def takeSign : Text → Bool × Text
  | '-' :: rest => (true, rest)
  | '+' :: rest => (false, rest)
  | text => (false, text)

/-- The least integer of 64 bits. -/
def leastInteger : Int := -0x8000000000000000

/-- The greatest integer of 64 bits. -/
def greatestInteger : Int := 0x7fffffffffffffff

/-- An integer of 64 bits: decimal digits after an optional sign. -/
def signed? (text : Text) : Option Int :=
  let (negative, digits) := takeSign text
  if digits.isEmpty || !digits.all Text.isDigit then none
  else
    let magnitude : Int := Text.number digits
    let value := if negative then -magnitude else magnitude
    if leastInteger ≤ value ∧ value ≤ greatestInteger then some value else none

def integer? (text : Text) : Option Int := signed? (Text.trim text)

/-- The power of ten that is written after the digits: nothing, or a mark with an optionally
signed number. -/
def power? : Text → Option Int
  | [] => some 0
  | mark :: rest =>
    let (negative, digits) := takeSign rest
    if (mark != 'e' && mark != 'E') || digits.isEmpty || !digits.all Text.isDigit then none
    else
      let magnitude : Int := Text.number digits
      some (if negative then -magnitude else magnitude)

/-- Digits with an optional point among them and an optional power of ten, as the bits of the
nearest number. At least one digit stands before the power. -/
def magnitude? (text : Text) : Option Nat :=
  let whole := text.takeWhile Text.isDigit
  let (fraction, rest) :=
    match text.dropWhile Text.isDigit with
    | '.' :: rest => (rest.takeWhile Text.isDigit, rest.dropWhile Text.isDigit)
    | rest => ([], rest)
  if whole.isEmpty && fraction.isEmpty then none
  else (power? rest).map fun power =>
    Binary64.bitsOfDecimal (Text.number (whole ++ fraction)) (power - fraction.length)

/-- The bits of a quiet number that is none. -/
def nanBits : Nat := 0x7ff8000000000000

/-- A decimal number or one of the words for the numbers that have no digits, in any case. -/
def decimal? (text : Text) : Option Float :=
  let (negative, body) := takeSign text
  let is (word : String) : Bool := Text.sameLetters body word.toList
  if is "inf" || is "infinity" then some (Binary64.ofBits negative Binary64.infinityBits)
  else if is "nan" then some (Binary64.ofBits negative nanBits)
  else (magnitude? body).map (Binary64.ofBits negative)

/-- A number with `separator` as its decimal mark. A point is a decimal mark as well. -/
def float? (separator : Char) (text : Text) : Option Float :=
  decimal? (Text.trim (text.map fun c => if c == separator then '.' else c))

/-- True for `true` in any case and for `1`, false for anything else. -/
def boolean (text : Text) : Bool :=
  Text.sameLetters (Text.trim text) "true".toList || Text.trim text == ['1']

end MarkupQuery.Value
