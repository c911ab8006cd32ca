import MarkupQuery.Utf8

/-!
Sources that hand out bytes piece by piece. A source is the list of what it will deliver: data,
interruptions and failures; after the last item it is at its end, and an empty piece of data is
an end of input as well. An interrupted read is tried again and never seen by the caller.
-/
namespace MarkupQuery

/-- Why a source could not be read: the kind of failure and what is said about it. -/
structure ReadFault where
  kind : Text
  message : Text
  deriving DecidableEq, Repr

/-- One item of what a source delivers. -/
inductive Delivery
  | data (bytes : Bytes)
  | interrupted
  | failure (fault : ReadFault)
  deriving DecidableEq, Repr

/-- What a source has yet to deliver. -/
abbrev Source := List Delivery

namespace Source

/-- Reads at most `limit` bytes of the next piece of data, passing over interruptions. -/
def read (limit : Nat) : Source → Except ReadFault Bytes × Source
  | [] => (.ok [], [])
  | .interrupted :: rest => read limit rest
  | .failure fault :: rest => (.error fault, rest)
  | .data bytes :: rest =>
    (.ok (bytes.take limit),
      match bytes.drop limit with
      | [] => rest
      | left => .data left :: rest)

/-- All bytes up to the end of input. -/
def readAll : Source → Except ReadFault Bytes
  | [] => .ok []
  | .interrupted :: rest => readAll rest
  | .failure fault :: _ => .error fault
  | .data [] :: _ => .ok []
  | .data bytes :: rest => (bytes ++ ·) <$> readAll rest

/-- A bound on how often the source can be read before it is at its end. -/
def weight : Source → Nat
  | [] => 0
  | .data bytes :: rest => bytes.length + 1 + weight rest
  | .interrupted :: rest | .failure _ :: rest => weight rest + 1

theorem read_weight_lt {limit : Nat} {source after : Source} {chunk : Bytes} (positive : 0 < limit)
    (h : source.read limit = (.ok chunk, after)) (nonempty : chunk ≠ []) :
    after.weight < source.weight := by
  fun_induction read limit source with
  | case1 => cases h; exact absurd rfl nonempty
  | case2 rest ih => exact Nat.lt_succ_of_lt (ih h)
  | case3 => cases h
  | case4 bytes rest =>
    simp only [Prod.mk.injEq, Except.ok.injEq] at h
    obtain ⟨taken, left⟩ := h
    subst left
    split
    · simp only [weight]
      omega
    · have : bytes ≠ [] := by
        intro empty
        rw [empty, List.take_nil] at taken
        exact nonempty taken.symm
      have := List.length_pos_iff.mpr this
      simp only [weight, List.length_drop]
      omega

end Source

/-- A source that is read in chunks. `ended` is set for good once the source has come to its
end. `total` counts the bytes handed out and is unbounded, as is a counter of 64 bits below 2^64
bytes. -/
structure ChunkReader where
  source : Source
  capacity : Nat
  ended : Bool
  total : Nat
  capacity_pos : 0 < capacity
  deriving DecidableEq, Repr

namespace ChunkReader

/-- The size of a chunk that is taken where none is asked for. -/
def defaultCapacity : Nat := 8192

/-- Chunks have at most `capacity` bytes, one byte if that is zero. -/
def ofSource (source : Source) (capacity : Nat) : ChunkReader :=
  ⟨source, max capacity 1, false, 0, by omega⟩

/-- The next chunk, none at the end of the source. -/
def next (r : ChunkReader) : Except ReadFault (Option Bytes) × ChunkReader :=
  if r.ended then (.ok none, r)
  else
    match r.source.read r.capacity with
    | (.error fault, source) => (.error fault, { r with source := source })
    | (.ok chunk, source) =>
      if chunk.isEmpty then (.ok none, { r with source := source, ended := true })
      else (.ok (some chunk), { r with source := source, total := r.total + chunk.length })

theorem next_weight_lt {r after : ChunkReader} {chunk : Bytes}
    (h : r.next = (.ok (some chunk), after)) : after.source.weight < r.source.weight := by
  unfold next at h
  split at h
  · cases h
  · split at h
    · cases h
    · rename_i piece source found
      split at h
      · cases h
      · rename_i nonempty
        cases h
        exact Source.read_weight_lt r.capacity_pos found (by simpa using nonempty)

/-- All chunks up to the end of the source or the first failure, and that failure. -/
def chunks (r : ChunkReader) : List Bytes × Option ReadFault :=
  match _h : r.next with
  | (.error fault, _) => ([], some fault)
  | (.ok none, _) => ([], none)
  | (.ok (some chunk), after) =>
    let (others, fault) := after.chunks
    (chunk :: others, fault)
termination_by r.source.weight
decreasing_by exact next_weight_lt _h

end ChunkReader

/-- Where markup comes from: it is given inline, or a named source delivers it. -/
inductive Input
  | inline (markup : Text)
  | named (name : Text) (source : Source)
  deriving DecidableEq, Repr

namespace Input

/-- The name of the source in failures, empty for markup given inline. -/
def name : Input → Text
  | inline _ => []
  | named name _ => name

/-- What the input delivers. -/
def source : Input → Source
  | inline markup => [.data (Utf8.encode markup)]
  | named _ source => source

end Input

end MarkupQuery
