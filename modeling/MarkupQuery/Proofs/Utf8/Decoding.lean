import MarkupQuery.Utf8

/-!
Decoding and encoding are inverse to each other, and encoded text can be cut at the bytes of ASCII.
Main statements: bytes decode to a text exactly when they are its encoding (`decode?_eq_some_iff`),
and no byte of ASCII lies inside a longer sequence (`split_before_ascii`, `split_after_ascii`).
-/
namespace MarkupQuery.Utf8

theorem toNat_ofNat {n : Nat} (h : n < 256) : (UInt8.ofNat n).toNat = n := by
  simp [Nat.mod_eq_of_lt h]

theorem ofNat_eq {n : Nat} {b : UInt8} (h : b.toNat = n) : UInt8.ofNat n = b := by
  rw [← h, UInt8.ofNat_toNat]

theorem continued_ofNat {bits following k : Nat} {low high : UInt8} {rest : Bytes}
    (hlow : low.toNat ≤ k) (hhigh : k ≤ high.toNat) :
    continued bits low high (following + 1) (UInt8.ofNat k :: rest) =
      continued (bits * 0x40 + (k - 0x80)) 0x80 0xbf following rest := by
  have hk : k < 256 := Nat.lt_of_le_of_lt hhigh high.toNat_lt
  simp [continued, UInt8.le_iff_toNat_le, toNat_ofNat hk, hlow, hhigh]

theorem lead?_one {b : UInt8} (h : b.toNat < 0x80) : lead? b = some ⟨b.toNat, 0, 0x80, 0xbf⟩ := by
  simp [lead?, UInt8.lt_iff_toNat_lt, h]

theorem lead?_two {b : UInt8} (h₁ : 0xc2 ≤ b.toNat) (h₂ : b.toNat < 0xe0) :
    lead? b = some ⟨b.toNat - 0xc0, 1, 0x80, 0xbf⟩ := by
  have : ¬ b.toNat < 0x80 := by omega
  have : ¬ b.toNat < 0xc2 := by omega
  simp [lead?, UInt8.lt_iff_toNat_lt, *]

/-- The least first continuation byte after a leading byte. -/
def lowOf (n : Nat) : UInt8 := if n = 0xe0 then 0xa0 else if n = 0xf0 then 0x90 else 0x80

/-- The greatest first continuation byte after a leading byte. -/
def highOf (n : Nat) : UInt8 := if n = 0xed then 0x9f else if n = 0xf4 then 0x8f else 0xbf

theorem lowOf_le_iff {n k : Nat} :
    (lowOf n).toNat ≤ k ↔ 0x80 ≤ k ∧ (n = 0xe0 → 0xa0 ≤ k) ∧ (n = 0xf0 → 0x90 ≤ k) := by
  unfold lowOf
  split
  · simp; omega
  · split <;> simp <;> omega

theorem le_highOf_iff {n k : Nat} :
    k ≤ (highOf n).toNat ↔ k ≤ 0xbf ∧ (n = 0xed → k ≤ 0x9f) ∧ (n = 0xf4 → k ≤ 0x8f) := by
  unfold highOf
  split
  · simp; omega
  · split <;> simp <;> omega

theorem lead?_three {b : UInt8} (h₁ : 0xe0 ≤ b.toNat) (h₂ : b.toNat < 0xf0) :
    lead? b = some ⟨b.toNat - 0xe0, 2, lowOf b.toNat, highOf b.toNat⟩ := by
  have n₁ : ¬ b.toNat < 0x80 := by omega
  have n₂ : ¬ b.toNat < 0xc2 := by omega
  have n₃ : ¬ b.toNat < 0xe0 := by omega
  by_cases e0 : b.toNat = 0xe0
  · have : b = 0xe0 := UInt8.toNat_inj.mp e0
    subst this
    decide
  · by_cases ed : b.toNat = 0xed
    · have : b = 0xed := UInt8.toNat_inj.mp ed
      subst this
      decide
    · have m₁ : b ≠ 0xe0 := fun h => e0 (by rw [h]; rfl)
      have m₂ : b ≠ 0xed := fun h => ed (by rw [h]; rfl)
      have f0 : ¬ b.toNat = 0xf0 := by omega
      have f4 : ¬ b.toNat = 0xf4 := by omega
      simp [lead?, UInt8.lt_iff_toNat_lt, n₁, n₂, n₃, m₁, m₂, h₂, lowOf, highOf, e0, ed, f0, f4]

theorem lead?_four {b : UInt8} (h₁ : 0xf0 ≤ b.toNat) (h₂ : b.toNat < 0xf5) :
    lead? b = some ⟨b.toNat - 0xf0, 3, lowOf b.toNat, highOf b.toNat⟩ := by
  have n₁ : ¬ b.toNat < 0x80 := by omega
  have n₂ : ¬ b.toNat < 0xc2 := by omega
  have n₃ : ¬ b.toNat < 0xe0 := by omega
  have n₄ : ¬ b.toNat < 0xf0 := by omega
  by_cases f0 : b.toNat = 0xf0
  · have : b = 0xf0 := UInt8.toNat_inj.mp f0
    subst this
    decide
  · by_cases f4 : b.toNat = 0xf4
    · have : b = 0xf4 := UInt8.toNat_inj.mp f4
      subst this
      decide
    · have m₁ : b ≠ 0xe0 := fun h => n₄ (by rw [h]; decide)
      have m₂ : b ≠ 0xed := fun h => n₄ (by rw [h]; decide)
      have m₃ : b ≠ 0xf0 := fun h => f0 (by rw [h]; rfl)
      have e0 : ¬ b.toNat = 0xe0 := by omega
      have ed : ¬ b.toNat = 0xed := by omega
      have n₅ : b.toNat < 0xf4 := by omega
      simp [lead?, UInt8.lt_iff_toNat_lt, n₁, n₂, n₃, n₄, n₅, m₁, m₂, m₃, lowOf, highOf, e0, ed,
        f0, f4]

theorem lead?_none {b : UInt8}
    (h : (0x80 ≤ b.toNat ∧ b.toNat < 0xc2) ∨ 0xf5 ≤ b.toNat) : lead? b = none := by
  have n₁ : ¬ b.toNat < 0x80 := by omega
  rcases h with ⟨_, h⟩ | h
  · simp [lead?, UInt8.lt_iff_toNat_lt, n₁, h]
  · have n₂ : ¬ b.toNat < 0xc2 := by omega
    have n₃ : ¬ b.toNat < 0xe0 := by omega
    have n₄ : ¬ b.toNat < 0xf0 := by omega
    have n₅ : ¬ b.toNat < 0xf4 := by omega
    have m₁ : b ≠ 0xe0 := fun h => n₄ (by rw [h]; decide)
    have m₂ : b ≠ 0xed := fun h => n₄ (by rw [h]; decide)
    have m₃ : b ≠ 0xf0 := fun e => by rw [e] at h; exact absurd h (by decide)
    have m₄ : b ≠ 0xf4 := fun e => by rw [e] at h; exact absurd h (by decide)
    simp [lead?, UInt8.lt_iff_toNat_lt, n₁, n₂, n₃, n₄, n₅, m₁, m₂, m₃, m₄]

theorem toNat_lt_of_valid (c : Char) :
    c.toNat < 0xd800 ∨ (0xdfff < c.toNat ∧ c.toNat < 0x110000) := c.valid

theorem next_encodeChar (c : Char) (rest : Bytes) :
    ∃ b tail, encodeChar c = b :: tail ∧ next b (tail ++ rest) = (some c, rest) := by
  have back : Char.ofNat c.toNat = c := Char.ofNat_toNat c
  have valid := toNat_lt_of_valid c
  unfold encodeChar
  dsimp only
  split
  · rename_i h
    refine ⟨_, _, rfl, ?_⟩
    have e : (UInt8.ofNat c.toNat).toNat = c.toNat := toNat_ofNat (by omega)
    rw [next, lead?_one (by omega)]
    simp [continued, e, back]
  · split
    · refine ⟨_, _, rfl, ?_⟩
      have e : (UInt8.ofNat (0xc0 + c.toNat / 0x40)).toNat = 0xc0 + c.toNat / 0x40 :=
        toNat_ofNat (by omega)
      rw [next, lead?_two (by omega) (by omega)]
      simp only [List.cons_append, List.nil_append]
      rw [continued_ofNat (by simp) (by simp; omega)]
      simp only [continued, Option.map_some, e]
      rw [show (0xc0 + c.toNat / 0x40 - 0xc0) * 0x40 + (0x80 + c.toNat % 0x40 - 0x80) = c.toNat by
        omega, back]
    · split
      · refine ⟨_, _, rfl, ?_⟩
        have e : (UInt8.ofNat (0xe0 + c.toNat / 0x1000)).toNat = 0xe0 + c.toNat / 0x1000 :=
          toNat_ofNat (by omega)
        rw [next, lead?_three (by omega) (by omega)]
        simp only [List.cons_append, List.nil_append, e]
        rw [continued_ofNat (lowOf_le_iff.mpr (by omega)) (le_highOf_iff.mpr (by omega)),
          continued_ofNat (by simp) (by simp; omega)]
        simp only [continued, Option.map_some]
        rw [show ((0xe0 + c.toNat / 0x1000 - 0xe0) * 0x40 + (0x80 + c.toNat / 0x40 % 0x40 - 0x80)) * 0x40
          + (0x80 + c.toNat % 0x40 - 0x80) = c.toNat by omega, back]
      · refine ⟨_, _, rfl, ?_⟩
        have e : (UInt8.ofNat (0xf0 + c.toNat / 0x40000)).toNat = 0xf0 + c.toNat / 0x40000 :=
          toNat_ofNat (by omega)
        rw [next, lead?_four (by omega) (by omega)]
        simp only [List.cons_append, List.nil_append, e]
        rw [continued_ofNat (lowOf_le_iff.mpr (by omega)) (le_highOf_iff.mpr (by omega)),
          continued_ofNat (by simp) (by simp; omega), continued_ofNat (by simp) (by simp; omega)]
        simp only [continued, Option.map_some]
        rw [show (((0xf0 + c.toNat / 0x40000 - 0xf0) * 0x40 + (0x80 + c.toNat / 0x1000 % 0x40 - 0x80)) * 0x40
          + (0x80 + c.toNat / 0x40 % 0x40 - 0x80)) * 0x40
          + (0x80 + c.toNat % 0x40 - 0x80) = c.toNat by omega, back]

theorem continued_some {bits following value : Nat} {low high : UInt8} {rest left : Bytes}
    (h : continued bits low high (following + 1) rest = (some value, left)) :
    ∃ b tail, rest = b :: tail ∧ low.toNat ≤ b.toNat ∧ b.toNat ≤ high.toNat ∧
      continued (bits * 0x40 + (b.toNat - 0x80)) 0x80 0xbf following tail = (some value, left) := by
  cases rest with
  | nil => simp [continued] at h
  | cons b tail =>
    unfold continued at h
    split at h
    · rename_i range
      simp only [Bool.and_eq_true, decide_eq_true_eq, UInt8.le_iff_toNat_le] at range
      exact ⟨b, tail, rfl, range.1, range.2, h⟩
    · simp at h

theorem toNat_ofNat_char {n : Nat} (h : n < 0xd800 ∨ (0xdfff < n ∧ n < 0x110000)) :
    (Char.ofNat n).toNat = n := by
  rw [Char.ofNat, dif_pos h]
  rfl

theorem next_some {b : UInt8} {rest left : Bytes} {c : Char} {lead : Lead}
    (h : next b rest = (some c, left)) (announced : lead? b = some lead) :
    ∃ value, c = Char.ofNat value ∧
      continued lead.bits lead.low lead.high lead.following rest = (some value, left) := by
  simp only [next, announced, Prod.mk.injEq, Option.map_eq_some_iff] at h
  obtain ⟨⟨value, found, rfl⟩, same⟩ := h
  exact ⟨value, rfl, Prod.ext found same⟩

theorem encodeChar_of_next {b : UInt8} {rest left : Bytes} {c : Char}
    (h : next b rest = (some c, left)) : b :: rest = encodeChar c ++ left := by
  have bound := b.toNat_lt
  by_cases one : b.toNat < 0x80
  · obtain ⟨value, rfl, last⟩ := next_some h (lead?_one one)
    simp only [continued, Prod.mk.injEq, Option.some.injEq] at last
    obtain ⟨rfl, rfl⟩ := last
    have back := toNat_ofNat_char (n := b.toNat) (by omega)
    simp [encodeChar, back, one]
  by_cases two : 0xc2 ≤ b.toNat ∧ b.toNat < 0xe0
  · obtain ⟨value, rfl, last⟩ := next_some h (lead?_two two.1 two.2)
    obtain ⟨b₁, tail, rfl, low₁, high₁, last⟩ := continued_some last
    simp only [continued, Prod.mk.injEq, Option.some.injEq, UInt8.reduceToNat] at low₁ high₁ last
    obtain ⟨rfl, rfl⟩ := last
    have back := toNat_ofNat_char (n := (b.toNat - 0xc0) * 0x40 + (b₁.toNat - 0x80)) (by omega)
    rw [encodeChar, back, if_neg (by omega), if_pos (by omega), ofNat_eq (b := b) (by omega),
      ofNat_eq (b := b₁) (by omega)]
    rfl
  by_cases three : 0xe0 ≤ b.toNat ∧ b.toNat < 0xf0
  · obtain ⟨value, rfl, last⟩ := next_some h (lead?_three three.1 three.2)
    obtain ⟨b₁, tail, rfl, low₁, high₁, last⟩ := continued_some last
    obtain ⟨b₂, tail, rfl, low₂, high₂, last⟩ := continued_some last
    rw [lowOf_le_iff] at low₁
    rw [le_highOf_iff] at high₁
    simp only [continued, Prod.mk.injEq, Option.some.injEq, UInt8.reduceToNat] at low₂ high₂ last
    obtain ⟨rfl, rfl⟩ := last
    have back := toNat_ofNat_char
      (n := ((b.toNat - 0xe0) * 0x40 + (b₁.toNat - 0x80)) * 0x40 + (b₂.toNat - 0x80)) (by omega)
    rw [encodeChar, back, if_neg (by omega), if_neg (by omega), if_pos (by omega),
      ofNat_eq (b := b) (by omega), ofNat_eq (b := b₁) (by omega), ofNat_eq (b := b₂) (by omega)]
    rfl
  by_cases four : 0xf0 ≤ b.toNat ∧ b.toNat < 0xf5
  · obtain ⟨value, rfl, last⟩ := next_some h (lead?_four four.1 four.2)
    obtain ⟨b₁, tail, rfl, low₁, high₁, last⟩ := continued_some last
    obtain ⟨b₂, tail, rfl, low₂, high₂, last⟩ := continued_some last
    obtain ⟨b₃, tail, rfl, low₃, high₃, last⟩ := continued_some last
    rw [lowOf_le_iff] at low₁
    rw [le_highOf_iff] at high₁
    simp only [continued, Prod.mk.injEq, Option.some.injEq, UInt8.reduceToNat]
      at low₂ high₂ low₃ high₃ last
    obtain ⟨rfl, rfl⟩ := last
    have back := toNat_ofNat_char (n := (((b.toNat - 0xf0) * 0x40 + (b₁.toNat - 0x80)) * 0x40 +
      (b₂.toNat - 0x80)) * 0x40 + (b₃.toNat - 0x80)) (by omega)
    rw [encodeChar, back, if_neg (by omega), if_neg (by omega), if_neg (by omega),
      ofNat_eq (b := b) (by omega), ofNat_eq (b := b₁) (by omega), ofNat_eq (b := b₂) (by omega),
      ofNat_eq (b := b₃) (by omega)]
    rfl
  · simp [next, lead?_none (b := b) (by omega)] at h

theorem encode_cons (c : Char) (text : Text) : encode (c :: text) = encodeChar c ++ encode text :=
  rfl

theorem encode_append (first second : Text) :
    encode (first ++ second) = encode first ++ encode second := List.flatMap_append

theorem decode?_encode (text : Text) : decode? (encode text) = some text := by
  induction text with
  | nil => simp [encode, decode?]
  | cons c rest ih =>
    obtain ⟨b, tail, same, read⟩ := next_encodeChar c (encode rest)
    rw [encode_cons, same, List.cons_append, decode?, read]
    simp [ih]

theorem encode_of_decode? {bytes : Bytes} {text : Text} (h : decode? bytes = some text) :
    bytes = encode text := by
  fun_induction decode? bytes generalizing text with
  | case1 =>
    cases h
    rfl
  | case2 => cases h
  | case3 b rest c found ih =>
    obtain ⟨others, decoded, rfl⟩ := Option.map_eq_some_iff.mp h
    rw [encode_cons, ← ih decoded]
    exact encodeChar_of_next (Prod.ext found rfl)

/-- Bytes decode to a text exactly when they are its encoding. -/
theorem decode?_eq_some_iff {bytes : Bytes} {text : Text} :
    decode? bytes = some text ↔ bytes = encode text := by
  constructor
  · exact encode_of_decode?
  · rintro rfl
    exact decode?_encode text

/-- A byte of ASCII is no part of a longer sequence. -/
theorem encodeChar_eq_of_mem {c : Char} {b : UInt8} (member : b ∈ encodeChar c)
    (ascii : b.toNat < 0x80) : encodeChar c = [b] := by
  have valid := toNat_lt_of_valid c
  have large {n : Nat} (low : 0x80 ≤ n) (high : n < 256) : b ≠ UInt8.ofNat n := by
    rintro rfl
    rw [toNat_ofNat high] at ascii
    omega
  unfold encodeChar at member ⊢
  dsimp only at member ⊢
  split
  · rename_i one
    rw [if_pos one] at member
    rw [List.mem_singleton.mp member]
  · rename_i one
    exfalso
    rw [if_neg one] at member
    split at member
    · simp only [List.mem_cons, List.not_mem_nil, or_false] at member
      rcases member with same | same <;> exact large (by omega) (by omega) same
    · split at member
      · simp only [List.mem_cons, List.not_mem_nil, or_false] at member
        rcases member with same | same | same <;> exact large (by omega) (by omega) same
      · simp only [List.mem_cons, List.not_mem_nil, or_false] at member
        rcases member with same | same | same | same <;> exact large (by omega) (by omega) same

/-- The encoding of a text can be cut before any byte of ASCII. -/
theorem split_before_ascii {text : Text} {before after : Bytes} {b : UInt8}
    (ascii : b.toNat < 0x80) (same : encode text = before ++ b :: after) :
    ∃ first second, text = first ++ second ∧ before = encode first ∧
      b :: after = encode second := by
  induction text generalizing before with
  | nil => simp [encode] at same
  | cons c rest ih =>
    rw [encode_cons] at same
    rcases List.append_eq_append_iff.mp same with ⟨middle, rfl, tail⟩ | ⟨middle, inside, tail⟩
    · obtain ⟨first, second, rfl, rfl, encoded⟩ := ih tail
      exact ⟨c :: first, second, rfl, rfl, encoded⟩
    · cases middle with
      | nil =>
        refine ⟨[c], rest, rfl, ?_, tail⟩
        rw [encode_cons, inside]
        simp [encode]
      | cons d middle =>
        obtain ⟨rfl, rfl⟩ := List.cons.inj tail
        have single := encodeChar_eq_of_mem (c := c) (by rw [inside]; simp) ascii
        have first : before = [] := by
          rw [single] at inside
          cases before with
          | nil => rfl
          | cons a before => simp at inside
        exact ⟨[], c :: rest, rfl, first, by rw [encode_cons, same, first, List.nil_append]⟩

/-- The encoding of a text can be cut after any byte of ASCII. -/
theorem split_after_ascii {text : Text} {before after : Bytes} {b : UInt8}
    (ascii : b.toNat < 0x80) (same : encode text = before ++ b :: after) :
    ∃ first second, text = first ++ second ∧ before ++ [b] = encode first ∧
      after = encode second := by
  obtain ⟨first, second, rfl, rfl, encoded⟩ := split_before_ascii ascii same
  cases second with
  | nil => simp [encode] at encoded
  | cons c rest =>
    obtain ⟨a, tail, shape, _⟩ := next_encodeChar c []
    have head : a = b := by
      rw [encode_cons, shape] at encoded
      exact (List.cons.inj encoded).1.symm
    have single : encodeChar c = [b] :=
      encodeChar_eq_of_mem (by rw [shape, head]; simp) ascii
    refine ⟨first ++ [c], rest, by simp, ?_, ?_⟩
    · rw [encode_append, encode_cons, single]
      rfl
    · rw [encode_cons, single] at encoded
      exact (List.cons.inj encoded).2

theorem encodeChar_of_lt {c : Char} (ascii : c.toNat < 0x80) :
    encodeChar c = [UInt8.ofNat c.toNat] := by
  simp [encodeChar, ascii]

theorem le_of_mem_encodeChar {c : Char} (large : 0x80 ≤ c.toNat) {b : UInt8}
    (member : b ∈ encodeChar c) : 0x80 ≤ b.toNat := by
  refine Nat.le_of_not_lt fun ascii => ?_
  have single := encodeChar_eq_of_mem member ascii
  unfold encodeChar at single
  dsimp only at single
  rw [if_neg (by omega)] at single
  split at single
  · cases single
  · split at single <;> cases single

theorem encodeChar_ne_nil (c : Char) : encodeChar c ≠ [] := by
  unfold encodeChar
  dsimp only
  split
  · simp
  · split
    · simp
    · split <;> simp

theorem encode_injective {first second : Text} (same : encode first = encode second) :
    first = second := by
  have decoded := decode?_encode first
  rw [same, decode?_encode] at decoded
  exact (Option.some.inj decoded).symm

/-- A byte of ASCII stands for its character only. -/
theorem mem_encode_iff {c : Char} (ascii : c.toNat < 0x80) {text : Text} :
    UInt8.ofNat c.toNat ∈ encode text ↔ c ∈ text := by
  constructor
  · intro member
    obtain ⟨d, inside, byte⟩ := List.mem_flatMap.mp member
    have single := encodeChar_eq_of_mem byte (by rw [toNat_ofNat (by omega)]; exact ascii)
    rw [← encodeChar_of_lt ascii] at single
    have same : [d] = [c] := encode_injective (by simp [encode, single])
    rw [← List.singleton_inj.mp same]
    exact inside
  · intro member
    refine List.mem_flatMap.mpr ⟨c, member, ?_⟩
    simp [encodeChar_of_lt ascii]

theorem head?_encode {c : Char} (ascii : c.toNat < 0x80) {text : Text}
    (head : (encode text).head? = some (UInt8.ofNat c.toNat)) : text.head? = some c := by
  obtain ⟨after, shape⟩ := List.head?_eq_some_iff.mp head
  obtain ⟨first, second, rfl, starts, _⟩ :=
    @split_after_ascii _ [] _ _ (by rw [toNat_ofNat (by omega)]; exact ascii) shape
  have single : first = [c] :=
    encode_injective (by rw [← starts]; simp [encode, encodeChar_of_lt ascii])
  rw [single]
  simp

theorem getLast?_encode {c : Char} (ascii : c.toNat < 0x80) {text : Text}
    (last : (encode text).getLast? = some (UInt8.ofNat c.toNat)) : text.getLast? = some c := by
  obtain ⟨before, shape⟩ := List.getLast?_eq_some_iff.mp last
  obtain ⟨first, second, rfl, _, ends⟩ :=
    split_before_ascii (by rw [toNat_ofNat (by omega)]; exact ascii) shape
  have single : second = [c] :=
    encode_injective (by rw [← ends]; simp [encode, encodeChar_of_lt ascii])
  rw [single]
  simp

end MarkupQuery.Utf8
