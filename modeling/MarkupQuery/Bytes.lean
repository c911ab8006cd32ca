/-!
Raw markup is a list of bytes. This module holds the classes of bytes that the grammar of tags
uses and the two ways of trimming blanks. A byte outside ASCII counts as part of a name, so a
name can be found before its bytes are known to be text.
-/
namespace MarkupQuery

/-- Markup as it arrives, before it is known to be text. -/
abbrev Bytes := List UInt8

namespace Bytes

/-- Space, tab, line feed and carriage return. -/
def isBlank (b : UInt8) : Bool := b == 0x20 || b == 0x09 || b == 0x0a || b == 0x0d

def isLetter (b : UInt8) : Bool := (0x41 ≤ b && b ≤ 0x5a) || (0x61 ≤ b && b ≤ 0x7a)

def isDigit (b : UInt8) : Bool := 0x30 ≤ b && b ≤ 0x39

/-- A letter, an underscore, a colon or any byte outside ASCII. -/
def isNameStart (b : UInt8) : Bool := isLetter b || b == 0x5f || b == 0x3a || 0x80 ≤ b

/-- A byte that may start a name, a digit, a hyphen or a full stop. -/
def isNamePart (b : UInt8) : Bool := isNameStart b || isDigit b || b == 0x2d || b == 0x2e

theorem isNamePart_of_isNameStart {b : UInt8} (h : isNameStart b = true) :
    isNamePart b = true := by
  simp [isNamePart, h]

def trimLeft (bytes : Bytes) : Bytes := bytes.dropWhile isBlank

def trimRight (bytes : Bytes) : Bytes := (bytes.reverse.dropWhile isBlank).reverse

/-- A capital letter becomes its small letter; every other byte stays. -/
def toLower (b : UInt8) : UInt8 := if 0x41 ≤ b && b ≤ 0x5a then b + 0x20 else b

/-- The longest name at the head of the bytes. -/
def name? (bytes : Bytes) : Option Bytes :=
  match bytes with
  | [] => none
  | b :: _ => if isNameStart b then some (bytes.takeWhile isNamePart) else none

end Bytes

end MarkupQuery
