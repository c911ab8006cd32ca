import MarkupQuery.Reader

/-!
What a source delivers, however it is read. Main statement: the chunks of a reader put together are
the bytes that the source delivers, and the reader fails exactly where the source does
(`ChunkReader.chunks_ofSource`).
-/
namespace MarkupQuery

namespace Source

/-- The bytes before the end of the input or the first failure, and that failure. -/
def delivered : Source → Bytes × Option ReadFault
  | [] => ([], none)
  | .interrupted :: rest => delivered rest
  | .failure fault :: _ => ([], some fault)
  | .data [] :: _ => ([], none)
  | .data (b :: bytes) :: rest => (b :: bytes ++ (delivered rest).1, (delivered rest).2)

/-- What is left after one read. -/
theorem delivered_read {limit : Nat} (positive : 0 < limit) (source : Source) :
    match source.read limit with
    | (.error fault, _) => source.delivered = ([], some fault)
    | (.ok [], _) => source.delivered = ([], none)
    | (.ok (b :: chunk), after) =>
      source.delivered = (b :: chunk ++ after.delivered.1, after.delivered.2) := by
  fun_induction read limit source with
  | case1 => rfl
  | case2 rest ih => exact ih
  | case3 fault rest => rfl
  | case4 bytes rest =>
    cases bytes with
    | nil =>
      rw [List.take_nil]
      rfl
    | cons b others =>
      obtain ⟨n, rfl⟩ : ∃ n, limit = n + 1 := ⟨limit - 1, by omega⟩
      have split := List.take_append_drop n others
      simp only [List.take_succ_cons, List.drop_succ_cons, delivered]
      cases left : others.drop n with
      | nil =>
        rw [left, List.append_nil] at split
        rw [split]
      | cons c more =>
        rw [left] at split
        have whole (after : Bytes) : others ++ after = others.take n ++ (c :: more ++ after) := by
          rw [← List.append_assoc, split]
        simp only [delivered, List.cons_append]
        rw [whole, List.cons_append]

end Source

namespace ChunkReader

theorem chunks_eq (r : ChunkReader) :
    r.chunks =
      match r.next with
      | (.error fault, _) => ([], some fault)
      | (.ok none, _) => ([], none)
      | (.ok (some chunk), after) => (chunk :: after.chunks.1, after.chunks.2) := by
  rw [chunks]
  split <;> rename_i found <;> rw [found]

/-- Induction on what the source can still be asked for. -/
theorem chunks_delivered {r : ChunkReader} (going : r.ended = false) :
    r.chunks.1.flatten = r.source.delivered.1 ∧ r.chunks.2 = r.source.delivered.2 := by
  induction size : r.source.weight using Nat.strongRecOn generalizing r with
  | ind bound ih =>
    have delivered := Source.delivered_read r.capacity_pos r.source
    have begun : ¬ r.ended = true := by rw [going]; exact Bool.false_ne_true
    rw [chunks_eq]
    cases found : r.next with
    | mk outcome after =>
      have step := found
      rw [next, if_neg begun] at step
      rcases read : r.source.read r.capacity with ⟨fault | chunk, left⟩
      · rw [read] at delivered step
        cases step
        rw [delivered]
        exact ⟨rfl, rfl⟩
      · rw [read] at delivered step
        cases chunk with
        | nil =>
          cases step
          rw [delivered]
          exact ⟨rfl, rfl⟩
        | cons b bytes =>
          simp only [List.isEmpty_cons, Bool.false_eq_true, if_false, Prod.mk.injEq] at step
          obtain ⟨rfl, same⟩ := step
          have shorter := next_weight_lt found
          have source : after.source = left := by rw [← same]
          have still : after.ended = false := by rw [← same, going]
          obtain ⟨one, two⟩ := ih _ (by omega) still rfl
          rw [delivered, ← source]
          dsimp only
          rw [List.flatten_cons, one, two]
          exact ⟨rfl, rfl⟩

/-- However many bytes are read at a time, the chunks are what the source delivers. -/
theorem chunks_ofSource (source : Source) (capacity : Nat) :
    (ofSource source capacity).chunks.1.flatten = source.delivered.1 ∧
      (ofSource source capacity).chunks.2 = source.delivered.2 :=
  chunks_delivered rfl

end ChunkReader

end MarkupQuery
