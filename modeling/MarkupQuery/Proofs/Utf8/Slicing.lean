import MarkupQuery.Proofs.Utf8.Decoding
import MarkupQuery.Text

/-!
Text cut at offsets into its bytes. It can be cut where characters meet and nowhere else, so a program that
searches bytes and cuts the text at what it finds relies on where the search ends. Main statements: where text
can be cut (`Utf8.splitAt?_eq_some_iff`), that a search for bytes whose class is that of their characters ends
there and what was passed over can be cut out (`Utf8.From.skip`), and so does one for a byte of ASCII
(`Utf8.idxOf?_encode_append`).
-/
namespace MarkupQuery

theorem Bytes.idxOf?_append {before : Bytes} {b : UInt8} (absent : b ∉ before) (rest : Bytes) :
    (before ++ b :: rest).idxOf? b = some before.length := by
  induction before with
  | nil => simp [List.idxOf?_cons]
  | cons c others ih =>
    rw [List.mem_cons, not_or] at absent
    have other : (c == b) = false := by simpa using Ne.symm absent.1
    rw [List.cons_append, List.idxOf?_cons, other, ih absent.2]
    rfl

namespace Utf8

variable {n : Nat}

/-- What stands before and after a byte offset, where characters meet there. -/
def splitAt? : Nat → Text → Option (Text × Text)
  | 0, text => some ([], text)
  | _ + 1, [] => none
  | n + 1, c :: rest =>
    if (encodeChar c).length ≤ n + 1 then
      (splitAt? (n + 1 - (encodeChar c).length) rest).map fun (before, after) => (c :: before, after)
    else none

theorem size_cons (c : Char) (text : Text) : size (c :: text) = (encodeChar c).length + size text := by
  rw [size, encode_cons, List.length_append]
  rfl

theorem size_append (first second : Text) : size (first ++ second) = size first + size second := by
  rw [size, encode_append, List.length_append]
  rfl

theorem size_pos_of_ne_nil {text : Text} (nonempty : text ≠ []) : 0 < size text := by
  cases text with
  | nil => exact absurd rfl nonempty
  | cons c rest =>
    have := List.length_pos_iff.mpr (encodeChar_ne_nil c)
    rw [size_cons]
    omega

/-- Text is split at the boundaries of its bytes, and nowhere else. -/
theorem splitAt?_eq_some_iff {text before after : Text} :
    splitAt? n text = some (before, after) ↔ text = before ++ after ∧ size before = n := by
  constructor
  · intro split
    fun_induction splitAt? n text generalizing before after with
    | case1 text =>
      cases split
      exact ⟨rfl, rfl⟩
    | case2 => cases split
    | case3 n c rest fits ih =>
      obtain ⟨⟨inner, tail⟩, found, same⟩ := Option.map_eq_some_iff.mp split
      cases same
      obtain ⟨rfl, length⟩ := ih found
      refine ⟨rfl, ?_⟩
      rw [size_cons]
      omega
    | case4 => cases split
  · rintro ⟨rfl, rfl⟩
    induction before with
    | nil => cases after <;> rfl
    | cons c rest ih =>
      have positive := List.length_pos_iff.mpr (encodeChar_ne_nil c)
      obtain ⟨k, length⟩ : ∃ k, size (c :: rest) = k + 1 := ⟨size (c :: rest) - 1, by
        rw [size_cons]
        omega⟩
      have left : k + 1 - (encodeChar c).length = size rest := by
        rw [size_cons] at length
        omega
      rw [length, List.cons_append, splitAt?, left, ih, if_pos (by rw [size_cons] at length; omega)]
      rfl

theorem splitAt?_append (before after : Text) :
    splitAt? (size before) (before ++ after) = some (before, after) :=
  splitAt?_eq_some_iff.mpr ⟨rfl, rfl⟩

/-- The text between two byte offsets, where characters meet at both. -/
def slice? (text : Text) (start stop : Nat) : Option Text :=
  match splitAt? stop text with
  | none => none
  | some (before, _) => (splitAt? start before).map (·.2)

theorem slice?_append (first part second : Text) :
    slice? (first ++ (part ++ second)) (size first) (size (first ++ part)) = some part := by
  rw [slice?, ← List.append_assoc, splitAt?_append]
  dsimp only
  rw [splitAt?_append]
  rfl

/-- A class of bytes that each character is in with all of its bytes or with none. -/
def SameClass (p : UInt8 → Bool) (q : Char → Bool) : Prop := ∀ c, ∀ b ∈ encodeChar c, p b = q c

theorem sameClass_eq {c : Char} (ascii : c.toNat < 0x80) :
    SameClass (· == UInt8.ofNat c.toNat) (· == c) := by
  intro d b member
  rw [Bool.eq_iff_iff, beq_iff_eq, beq_iff_eq]
  constructor
  · rintro rfl
    have inside : UInt8.ofNat c.toNat ∈ encode [d] := List.mem_flatMap.mpr ⟨d, by simp, member⟩
    exact (List.mem_singleton.mp ((mem_encode_iff ascii).mp inside)).symm
  · rintro rfl
    rw [encodeChar_of_lt ascii] at member
    exact List.mem_singleton.mp member

namespace SameClass

variable {p p' : UInt8 → Bool} {q q' : Char → Bool}

theorem or (first : SameClass p q) (second : SameClass p' q') :
    SameClass (fun b => p b || p' b) (fun c => q c || q' c) := by
  intro c b member
  simp only [first c b member, second c b member]

theorem not (h : SameClass p q) : SameClass (fun b => ! p b) (fun c => ! q c) := by
  intro c b member
  simp only [h c b member]

/-- Such a class takes whole characters off the front. -/
theorem takeWhile_encode (h : SameClass p q) (text : Text) :
    (encode text).takeWhile p = encode (text.takeWhile q) := by
  induction text with
  | nil => rfl
  | cons c rest ih =>
    rw [encode_cons]
    by_cases inside : q c = true
    · rw [List.takeWhile_append_of_pos fun b member => (h c b member).trans inside, ih,
        List.takeWhile_cons_of_pos inside]
      rfl
    · obtain ⟨b, tail, shape⟩ := List.exists_cons_of_ne_nil (encodeChar_ne_nil c)
      have outside : ¬ p b = true := by rwa [h c b (by rw [shape]; simp)]
      rw [shape, List.cons_append, List.takeWhile_cons_of_neg outside, List.takeWhile_cons_of_neg inside]
      rfl

/-- The first byte is in the class exactly if the first character is. -/
theorem exists_head?_encode (h : SameClass p q) (c : Char) (rest : Text) :
    ∃ b, (encode (c :: rest)).head? = some b ∧ p b = q c := by
  obtain ⟨b, tail, shape⟩ := List.exists_cons_of_ne_nil (encodeChar_ne_nil c)
  refine ⟨b, ?_, h c b (by rw [shape]; simp)⟩
  rw [encode_cons, shape]
  rfl

theorem all_head?_encode (h : SameClass p q) (text : Text) :
    (encode text).head?.all p = text.head?.all q := by
  cases text with
  | nil => rfl
  | cons c rest =>
    obtain ⟨b, first, same⟩ := h.exists_head?_encode c rest
    rw [first]
    exact same

theorem any_head?_encode (h : SameClass p q) (text : Text) :
    (encode text).head?.any p = text.head?.any q := by
  cases text with
  | nil => rfl
  | cons c rest =>
    obtain ⟨b, first, same⟩ := h.exists_head?_encode c rest
    rw [first]
    exact same

theorem filter_head?_encode (h : SameClass p q) (c : Char) (rest : Text) :
    (encode (c :: rest)).head?.filter p = if q c then (encode (c :: rest)).head? else none := by
  obtain ⟨b, first, same⟩ := h.exists_head?_encode c rest
  rw [first, Option.filter_some, same]

end SameClass

/-- What stands at the offset at which some text starts. -/
theorem getElem?_encode_append (first second : Text) :
    (encode (first ++ second))[size first]? = (encode second).head? := by
  rw [encode_append, size, List.getElem?_append_right (Nat.le_refl _), Nat.sub_self, List.head?_eq_getElem?]

theorem sameClass_isBlank : SameClass Bytes.isBlank Text.isBlank :=
  (((Utf8.sameClass_eq (c := ' ') (by decide)).or (Utf8.sameClass_eq (c := '\t') (by decide))).or
    (Utf8.sameClass_eq (c := '\n') (by decide))).or (Utf8.sameClass_eq (c := '\r') (by decide))

/-- The offset at which the bytes of a class end. -/
def skip (p : UInt8 → Bool) (bytes : Bytes) (pos : Nat) : Nat :=
  pos + ((bytes.drop pos).takeWhile p).length

theorem le_skip (p : UInt8 → Bool) (bytes : Bytes) (pos : Nat) : pos ≤ skip p bytes pos :=
  Nat.le_add_right _ _

/-- What text stands from an offset on. -/
def From (input : Text) (pos : Nat) (rest : Text) : Prop :=
  ∃ before, input = before ++ rest ∧ size before = pos

theorem from_zero (input : Text) : From input 0 input := ⟨[], rfl, rfl⟩

namespace From

variable {input rest : Text} {pos : Nat}

theorem getElem? (h : From input pos rest) : (encode input)[pos]? = (encode rest).head? := by
  obtain ⟨before, rfl, rfl⟩ := h
  exact getElem?_encode_append before rest

theorem cons {c : Char} (h : From input pos (c :: rest)) (ascii : c.toNat < 0x80) :
    From input (pos + 1) rest := by
  obtain ⟨before, rfl, rfl⟩ := h
  refine ⟨before ++ [c], by simp, ?_⟩
  rw [size_append, size_cons, encodeChar_of_lt ascii]
  rfl

/-- Bytes of a class that is one of characters are skipped up to a character outside the class, and what was
skipped can be cut out. -/
theorem skip {p : UInt8 → Bool} {q : Char → Bool} (h : From input pos rest) (same : SameClass p q) :
    From input (skip p (encode input) pos) (rest.dropWhile q) ∧
      slice? input pos (Utf8.skip p (encode input) pos) = some (rest.takeWhile q) := by
  obtain ⟨before, rfl, rfl⟩ := h
  have stop : Utf8.skip p (encode (before ++ rest)) (size before) =
      size (before ++ rest.takeWhile q) := by
    have drop : (encode before ++ encode rest).drop (size before) = encode rest := List.drop_left
    rw [Utf8.skip, encode_append, drop, same.takeWhile_encode, size_append]
    rfl
  have split : before ++ rest = before ++ (rest.takeWhile q ++ rest.dropWhile q) := by
    rw [List.takeWhile_append_dropWhile]
  rw [stop]
  refine ⟨⟨before ++ rest.takeWhile q, by rw [List.append_assoc, ← split], rfl⟩, ?_⟩
  rw [split]
  exact slice?_append before (rest.takeWhile q) (rest.dropWhile q)

/-- The end of the input is reached where no text stands any more. -/
theorem size_le_iff (h : From input pos rest) : size input ≤ pos ↔ rest = [] := by
  obtain ⟨before, rfl, rfl⟩ := h
  rw [size_append]
  constructor
  · intro le
    cases rest with
    | nil => rfl
    | cons c others =>
      have := size_pos_of_ne_nil (List.cons_ne_nil c others)
      omega
  · rintro rfl
    exact Nat.le_refl _

end From

/-- A search for a byte of ASCII finds its character. -/
theorem idxOf?_encode_append {c : Char} (ascii : c.toNat < 0x80) {before : Text} (absent : c ∉ before)
    (after : Text) :
    (encode (before ++ c :: after)).idxOf? (UInt8.ofNat c.toNat) = some (size before) := by
  rw [encode_append, encode_cons, encodeChar_of_lt ascii]
  exact Bytes.idxOf?_append (fun member => absent ((mem_encode_iff ascii).mp member)) _

theorem idxOf?_encode_eq_none {c : Char} (ascii : c.toNat < 0x80) {text : Text} (absent : c ∉ text) :
    (encode text).idxOf? (UInt8.ofNat c.toNat) = none :=
  List.idxOf?_eq_none_iff.mpr fun member => absent ((mem_encode_iff ascii).mp member)

end Utf8

end MarkupQuery
