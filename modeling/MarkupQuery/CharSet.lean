import MarkupQuery.Text.Ranges

/-!
Sets of characters with the operations of sets. A set is the list of its ranges, in increasing
order and with a gap after each, so equal sets have equal lists. Surrogates are no characters: no
set that is built here holds their numbers.
-/
namespace MarkupQuery

open Text (CharRanges CharRun)

structure CharSet where
  ranges : CharRanges
  deriving DecidableEq, Repr

namespace CharSet

/-- The last number of a character. -/
def lastNumber : Nat := 0x10ffff

/-- The part of a range that is left without the surrogates. -/
def scalars (range : Nat × Nat) : CharRanges :=
  let (low, high) := range
  let before := if low ≤ min high 0xd7ff then [(low, min high 0xd7ff)] else []
  let after := if max low 0xe000 ≤ high then [(max low 0xe000, high)] else []
  before ++ after

/-- Joins a range with those of the following ones that it touches, and these with one another. -/
def joinFrom (low high : Nat) : CharRanges → CharRanges
  | [] => [(low, high)]
  | (nextLow, nextHigh) :: rest =>
    if nextLow ≤ high + 1 then joinFrom low (max high nextHigh) rest
    else (low, high) :: joinFrom nextLow nextHigh rest

/-- Joins the ranges that touch, in a list with increasing starts. -/
def join : CharRanges → CharRanges
  | [] => []
  | (low, high) :: rest => joinFrom low high rest

/-- Whether a range starts no later than another. -/
def startsBefore (a b : Nat × Nat) : Bool := a.1 ≤ b.1

/-- The characters in some ranges, in any order. -/
def ofRanges (ranges : CharRanges) : CharSet :=
  ⟨join ((ranges.flatMap scalars).mergeSort startsBefore)⟩

def ofRuns (runs : List CharRun) : CharSet := ofRanges (runs.flatMap CharRun.ranges)

def empty : CharSet := ⟨[]⟩

def range (low high : Char) : CharSet := ofRanges [(low.toNat, high.toNat)]

def single (c : Char) : CharSet := range c c

/-- Whether a number is in the set. -/
def contains (a : CharSet) (n : Nat) : Bool := a.ranges.contains n

def isEmpty (a : CharSet) : Bool := a.ranges.isEmpty

def union (a b : CharSet) : CharSet := ⟨join (a.ranges.merge b.ranges startsBefore)⟩

/-- The ranges between some ranges, from a number on. -/
def gaps (start : Nat) : CharRanges → CharRanges
  | [] => if start ≤ lastNumber then [(start, lastNumber)] else []
  | (low, high) :: rest =>
    if start < low then (start, low - 1) :: gaps (high + 1) rest else gaps (high + 1) rest

def compl (a : CharSet) : CharSet := ⟨(gaps 0 a.ranges).flatMap scalars⟩

def all : CharSet := empty.compl

def inter (a b : CharSet) : CharSet := (a.compl.union b.compl).compl

def diff (a b : CharSet) : CharSet := (a.compl.union b).compl

def symmetricDiff (a b : CharSet) : CharSet := (a.union b).diff (a.inter b)

/-- The character of a set that has no other. -/
def only? (a : CharSet) : Option Char :=
  match a.ranges with
  | [(low, high)] => if low == high then some (Char.ofNat low) else none
  | _ => none

/-- Whether every member is a character of ASCII. -/
def isAscii (a : CharSet) : Bool := a.ranges.all fun (_, high) => high < 0x80

/-! ### Classes of ASCII -/

def asciiDigit : CharSet := range '0' '9'

def asciiSpace : CharSet := ofRanges [(0x9, 0xd), (0x20, 0x20)]

def asciiLower : CharSet := range 'a' 'z'

def asciiUpper : CharSet := range 'A' 'Z'

def asciiAlpha : CharSet := asciiLower.union asciiUpper

def asciiAlnum : CharSet := asciiAlpha.union asciiDigit

def asciiWord : CharSet := asciiAlnum.union (single '_')

/-- The classes of ASCII by their names. -/
def asciiClass? (name : String) : Option CharSet :=
  let table : List (String × CharSet) :=
    [("alnum", asciiAlnum), ("alpha", asciiAlpha), ("ascii", range '\x00' '\x7f'),
      ("blank", ofRanges [(0x9, 0x9), (0x20, 0x20)]),
      ("cntrl", ofRanges [(0x0, 0x1f), (0x7f, 0x7f)]), ("digit", asciiDigit),
      ("graph", range '!' '~'), ("lower", asciiLower), ("print", range ' ' '~'),
      ("punct", (range '!' '~').diff asciiAlnum), ("space", asciiSpace), ("upper", asciiUpper),
      ("word", asciiWord),
      ("xdigit", ofRanges [(0x30, 0x39), (0x41, 0x46), (0x61, 0x66)])]
  (table.find? (·.1 == name)).map (·.2)

end CharSet

end MarkupQuery
