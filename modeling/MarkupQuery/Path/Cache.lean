import MarkupQuery.Path

/-!
A bounded store of parsed paths. A path that was asked for becomes the most recent entry; where
the store is full, a new entry takes the place of the least recent one.
-/
namespace MarkupQuery

/-- A parsed path as it is kept. The serial number tells one parse of a text from another. -/
structure CachedPath where
  path : Path
  serial : Nat
  parsed : path = Path.parse path.raw
  deriving DecidableEq, Repr

/-- Entries, the most recent first. -/
structure PathCache where
  capacity : Nat
  entries : List CachedPath
  nextSerial : Nat
  capacity_pos : 0 < capacity
  deriving Repr

namespace PathCache

/-- An empty store; none for the capacity zero. -/
def ofCapacity? (capacity : Nat) : Option PathCache :=
  if h : 0 < capacity then some ⟨capacity, [], 0, h⟩ else none

def size (c : PathCache) : Nat := c.entries.length

def clear (c : PathCache) : PathCache := { c with entries := [] }

/-- The entry for a path text, and the store with it as the most recent. -/
def get (c : PathCache) (text : Text) : CachedPath × PathCache :=
  match c.entries.find? (·.path.raw == text) with
  | some entry =>
    (entry, { c with entries := entry :: c.entries.filter (·.path.raw != text) })
  | none =>
    let entry : CachedPath := ⟨Path.parse text, c.nextSerial, by simp only [Path.parse]; split <;> rfl⟩
    (entry, { c with
      entries := entry :: c.entries.take (c.capacity - 1)
      nextSerial := c.nextSerial + 1 })

end PathCache

end MarkupQuery
