import MarkupQuery.Proofs.Utf8.Slicing
import Mathlib.Data.List.TakeWhile

/-!
Offsets between characters. Bytes that encode a text can be cut at some offsets and not at others; a byte
of ASCII always stands between two offsets at which they can be cut. Main statements: between two such
offsets there is text (`Utf8.Boundary.slice`), and a search that only a byte of ASCII stops ends at one
(`Utf8.Encoded.boundary_takeWhile`).
-/
namespace MarkupQuery.Bytes

theorem lt_of_isBlank {b : UInt8} (blank : isBlank b = true) : b.toNat < 0x80 := by
  simp only [isBlank, Bool.or_eq_true, beq_iff_eq] at blank
  rcases blank with ((rfl | rfl) | rfl) | rfl <;> decide

end MarkupQuery.Bytes

namespace MarkupQuery.Utf8

/-- Bytes that are the UTF-8 form of some text. -/
def Encoded (bytes : Bytes) : Prop := ∃ text, bytes = encode text

theorem encoded_encode (text : Text) : Encoded (encode text) := ⟨text, rfl⟩

theorem encoded_nil : Encoded [] := ⟨[], rfl⟩

/-- What comes after the UTF-8 form of a text is decoded on its own. -/
theorem decode?_append (text : Text) (bytes : Bytes) :
    decode? (encode text ++ bytes) = (decode? bytes).map (text ++ ·) := by
  induction text with
  | nil => simp [encode]
  | cons c rest ih =>
    obtain ⟨b, tail, same, read⟩ := next_encodeChar c (encode rest ++ bytes)
    rw [encode_cons, List.append_assoc, same, List.cons_append, decode?, read]
    dsimp only
    rw [ih, Option.map_map]
    rfl

theorem Encoded.of_append {first second : Bytes} (whole : Encoded (first ++ second))
    (head : Encoded first) : Encoded second := by
  obtain ⟨text, rfl⟩ := head
  obtain ⟨all, same⟩ := whole
  have decoded := decode?_eq_some_iff.mpr same
  rw [decode?_append] at decoded
  obtain ⟨rest, read, _⟩ := Option.map_eq_some_iff.mp decoded
  exact ⟨rest, decode?_eq_some_iff.mp read⟩

/-- An offset at which a character ends and the next one starts. -/
def Boundary (bytes : Bytes) (n : Nat) : Prop :=
  ∃ first second, bytes = encode first ++ encode second ∧ size first = n

variable {bytes : Bytes} {m n : Nat}

theorem boundary_iff :
    Boundary bytes n ↔ n ≤ bytes.length ∧ Encoded (bytes.take n) ∧ Encoded (bytes.drop n) := by
  constructor
  · rintro ⟨first, second, rfl, rfl⟩
    refine ⟨?_, ⟨first, List.take_left⟩, ⟨second, List.drop_left⟩⟩
    rw [List.length_append]
    exact Nat.le_add_right _ _
  · rintro ⟨le, ⟨first, before⟩, ⟨second, after⟩⟩
    refine ⟨first, second, ?_, ?_⟩
    · rw [← before, ← after, List.take_append_drop]
    · rw [size, ← before, List.length_take_of_le le]

namespace Boundary

theorem le (h : Boundary bytes n) : n ≤ bytes.length := (boundary_iff.mp h).1

theorem take (h : Boundary bytes n) : Encoded (bytes.take n) := (boundary_iff.mp h).2.1

theorem drop (h : Boundary bytes n) : Encoded (bytes.drop n) := (boundary_iff.mp h).2.2

/-- Between two boundaries there is text, none if they are in the wrong order. -/
theorem slice (one : Boundary bytes m) (two : Boundary bytes n) : Encoded ((bytes.take n).drop m) := by
  rcases Nat.lt_or_ge n m with wrong | right
  · rw [List.drop_eq_nil_of_le (by rw [List.length_take]; omega)]
    exact encoded_nil
  · have whole := two.take
    have split := List.take_append_drop m (bytes.take n)
    rw [List.take_take, Nat.min_eq_left right] at split
    rw [← split] at whole
    exact whole.of_append one.take

/-- A boundary of what comes after a boundary is one of the whole. -/
theorem add (one : Boundary bytes m) (two : Boundary (bytes.drop m) n) : Boundary bytes (m + n) := by
  obtain ⟨first, second, rfl, rfl⟩ := one
  obtain ⟨third, fourth, same, rfl⟩ := two
  rw [show (encode first ++ encode second).drop (size first) = encode second from List.drop_left] at same
  refine ⟨first ++ third, fourth, ?_, ?_⟩
  · rw [same, encode_append, List.append_assoc]
  · rw [size, encode_append, List.length_append]
    rfl

end Boundary

theorem Encoded.boundary_zero (encoded : Encoded bytes) : Boundary bytes 0 := by
  obtain ⟨text, rfl⟩ := encoded
  exact ⟨[], text, rfl, rfl⟩

theorem Encoded.boundary_length (encoded : Encoded bytes) : Boundary bytes bytes.length := by
  obtain ⟨text, rfl⟩ := encoded
  exact ⟨text, [], (List.append_nil _).symm, rfl⟩

/-- A byte of ASCII stands between two boundaries. -/
theorem Encoded.boundary_ascii (encoded : Encoded bytes) {b : UInt8} (found : bytes[n]? = some b)
    (ascii : b.toNat < 0x80) : Boundary bytes n ∧ Boundary bytes (n + 1) := by
  obtain ⟨text, rfl⟩ := encoded
  obtain ⟨inside, same⟩ := List.getElem?_eq_some_iff.mp found
  have cut : encode text = (encode text).take n ++ b :: (encode text).drop (n + 1) := by
    rw [← same, ← List.drop_eq_getElem_cons inside, List.take_append_drop]
  obtain ⟨first, second, _, before, after⟩ := split_before_ascii ascii cut
  obtain ⟨third, fourth, _, through, beyond⟩ := split_after_ascii ascii cut
  refine ⟨⟨first, second, ?_, ?_⟩, ⟨third, fourth, ?_, ?_⟩⟩
  · rw [← before, ← after]
    exact cut
  · rw [size, ← before, List.length_take_of_le (Nat.le_of_lt inside)]
  · rw [← through, ← beyond, List.append_assoc]
    exact cut
  · rw [size, ← through, List.length_append, List.length_take_of_le (Nat.le_of_lt inside)]
    rfl

/-- After bytes of ASCII there is a boundary, and before them if there are any. -/
theorem Encoded.boundary_of_isPrefix (encoded : Encoded bytes) {needle : Bytes}
    (ascii : ∀ b ∈ needle, b.toNat < 0x80) (nonempty : needle ≠ [])
    (found : needle <+: bytes.drop n) : Boundary bytes n ∧ Boundary bytes (n + needle.length) := by
  have at_ {i : Nat} (inside : i < needle.length) : bytes[n + i]? = some needle[i] := by
    obtain ⟨after, same⟩ := found
    rw [← List.getElem?_drop, ← same, List.getElem?_append_left inside, List.getElem?_eq_getElem inside]
  have length := List.length_pos_iff.mpr nonempty
  have first := encoded.boundary_ascii (at_ length) (ascii _ (List.getElem_mem _))
  have last := encoded.boundary_ascii (at_ (Nat.sub_one_lt_of_lt length)) (ascii _ (List.getElem_mem _))
  refine ⟨first.1, ?_⟩
  rw [show n + needle.length = n + (needle.length - 1) + 1 by omega]
  exact last.2

/-- A search that only a byte of ASCII stops, stops at a boundary. -/
theorem Encoded.boundary_takeWhile (encoded : Encoded bytes) {p : UInt8 → Bool}
    (wide : ∀ b : UInt8, 0x80 ≤ b.toNat → p b = true) : Boundary bytes (bytes.takeWhile p).length := by
  have split := List.takeWhile_append_dropWhile (p := p) (l := bytes)
  cases rest : bytes.dropWhile p with
  | nil =>
    rw [rest, List.append_nil] at split
    rw [split]
    exact encoded.boundary_length
  | cons b others =>
    have stops : p b = false := by
      have head := List.head?_dropWhile_not p bytes
      rw [rest] at head
      simpa using head
    have found : bytes[(bytes.takeWhile p).length]? = some b := by
      rw [rest] at split
      generalize bytes.takeWhile p = front at split ⊢
      subst split
      simp
    have ascii : b.toNat < 0x80 := Nat.lt_of_not_le fun large => by
      rw [wide b large] at stops
      cases stops
    exact (encoded.boundary_ascii found ascii).1

/-- What is left when bytes of ASCII are skipped is text. -/
theorem Encoded.dropWhile (encoded : Encoded bytes) {p : UInt8 → Bool}
    (narrow : ∀ b, p b = true → b.toNat < 0x80) : Encoded (bytes.dropWhile p) := by
  induction bytes with
  | nil => exact encoded_nil
  | cons b rest ih =>
    by_cases skipped : p b = true
    · rw [List.dropWhile_cons_of_pos skipped]
      exact ih (encoded.boundary_ascii (n := 0) rfl (narrow b skipped)).2.drop
    · rw [List.dropWhile_cons_of_neg skipped]
      exact encoded

/-- What is left when bytes of ASCII are taken off the end is text. -/
theorem Encoded.trimRight (encoded : Encoded bytes) : Encoded (Bytes.trimRight bytes) := by
  have split : Bytes.trimRight bytes ++ (bytes.reverse.takeWhile Bytes.isBlank).reverse = bytes := by
    rw [Bytes.trimRight, ← List.reverse_append, List.takeWhile_append_dropWhile, List.reverse_reverse]
  have blanks : ∀ b ∈ (bytes.reverse.takeWhile Bytes.isBlank).reverse, b.toNat < 0x80 :=
    fun b member => Bytes.lt_of_isBlank (List.mem_takeWhile_imp (List.mem_reverse.mp member))
  cases trail : (bytes.reverse.takeWhile Bytes.isBlank).reverse with
  | nil =>
    rw [trail, List.append_nil] at split
    rwa [split]
  | cons b others =>
    rw [trail] at split blanks
    have found : bytes[(Bytes.trimRight bytes).length]? = some b := by
      generalize Bytes.trimRight bytes = front at split ⊢
      subst split
      simp
    have kept := (encoded.boundary_ascii found (blanks b (by simp))).1.take
    generalize Bytes.trimRight bytes = front at split kept ⊢
    subst split
    simpa using kept

end MarkupQuery.Utf8
