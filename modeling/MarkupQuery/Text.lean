import MarkupQuery.Utf8

/-!
Classes of characters, splitting and joining of text. White space is what Unicode calls so, which
is more than the blanks of markup; letters and digits are those of ASCII.
-/
namespace MarkupQuery.Text

/-- The characters with the property White_Space. -/
def isSpace (c : Char) : Bool :=
  let n := c.toNat
  (0x9 ≤ n && n ≤ 0xd) || n == 0x20 || n == 0x85 || n == 0xa0 || n == 0x1680 ||
    (0x2000 ≤ n && n ≤ 0x200a) || n == 0x2028 || n == 0x2029 || n == 0x202f || n == 0x205f ||
    n == 0x3000

/-- Space, tab, line feed and carriage return, the blanks of markup. -/
def isBlank (c : Char) : Bool := c == ' ' || c == '\t' || c == '\n' || c == '\r'

def isLetter (c : Char) : Bool := ('a' ≤ c && c ≤ 'z') || ('A' ≤ c && c ≤ 'Z')

def isDigit (c : Char) : Bool := '0' ≤ c && c ≤ '9'

def trimLeft (text : Text) : Text := text.dropWhile isSpace

/-- The text without white space at its ends. -/
def trim (text : Text) : Text := ((trimLeft text).reverse.dropWhile isSpace).reverse

/-- A capital letter of ASCII becomes its small letter; every other character stays. -/
def lowerAscii (c : Char) : Char :=
  if 'A' ≤ c && c ≤ 'Z' then Char.ofNat (c.toNat + 32) else c

/-- Equality up to the case of ASCII letters. -/
def sameLetters (a b : Text) : Bool := a.map lowerAscii == b.map lowerAscii

/-- The pieces between the occurrences of a separator, at least one. -/
def split (separator : Char) : Text → List Text
  | [] => [[]]
  | c :: rest =>
    match split separator rest with
    | [] => [[c]]
    | piece :: pieces => if c == separator then [] :: piece :: pieces else (c :: piece) :: pieces

/-- The pieces with a separator between each two. -/
def join (separator : Char) : List Text → Text
  | [] => []
  | [piece] => piece
  | piece :: pieces => piece ++ separator :: join separator pieces

/-- The number that a list of digits denotes. -/
def number (digits : Text) : Nat := digits.foldl (fun n c => n * 10 + (c.toNat - '0'.toNat)) 0

end MarkupQuery.Text
