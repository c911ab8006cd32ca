import MarkupQuery.Delimiter

/-!
A position in bytes that can be moved, for looking at markup piece by piece. Every position that
a search returns counts from the start of the input.
-/
namespace MarkupQuery

/-- A position in an input, never past its end. -/
structure Cursor where
  input : Bytes
  position : Nat
  position_le : position ≤ input.length
  deriving DecidableEq, Repr

namespace Cursor

def ofBytes (input : Bytes) : Cursor := ⟨input, 0, Nat.zero_le _⟩

/-- Moves to a position, or to the end where the input is shorter. -/
def moveTo (c : Cursor) (position : Nat) : Cursor :=
  ⟨c.input, min position c.input.length, Nat.min_le_right ..⟩

def atEnd (c : Cursor) : Bool := c.input.length ≤ c.position

def remaining (c : Cursor) : Bytes := c.input.drop c.position

/-- The bytes from `start` up to `stop`, where both lie in the input in this order. -/
def slice? (c : Cursor) (start stop : Nat) : Option Bytes :=
  if start ≤ stop && stop ≤ c.input.length then some ((c.input.take stop).drop start) else none

def peek? (c : Cursor) (offset : Nat) : Option UInt8 := c.input[c.position + offset]?

def startsWith (c : Cursor) (needle : Bytes) : Bool := needle.isPrefixOf c.remaining

/-- Whether what remains is a proper start of `needle`, so that more input could complete it. -/
def isPartOf (c : Cursor) (needle : Bytes) : Bool :=
  decide (c.remaining.length < needle.length) && c.remaining.isPrefixOf needle

def byte? (c : Cursor) (b : UInt8) : Option Nat :=
  (c.remaining.idxOf? b).map (c.position + ·)

def tagStart? (c : Cursor) : Option Nat := c.byte? 0x3c

/-- Looks for `needle` from `offset` bytes past the position on. -/
def sequence? (c : Cursor) (needle : Bytes) (offset : Nat) : Option Nat :=
  let origin := min (c.position + offset) c.input.length
  (Delimiter.sequence? needle (c.input.drop origin)).map (origin + ·)

def tagEnd? (c : Cursor) : Option Nat := (Delimiter.tagEnd? c.remaining).map (c.position + ·)

def doctypeEnd? (c : Cursor) : Option Nat :=
  (Delimiter.doctypeEnd? c.remaining).map (c.position + ·)

/-- Reads the name at the position and moves past it. -/
def readName (c : Cursor) : Option Bytes × Cursor :=
  match Bytes.name? c.remaining with
  | none => (none, c)
  | some name => (some name, c.moveTo (c.position + name.length))

end Cursor

end MarkupQuery
