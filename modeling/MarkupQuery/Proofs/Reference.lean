import MarkupQuery.Reference
import Mathlib.Data.List.Basic

/-!
Writing references and reading them back. What is encoded decodes to what it was, between tags and
between quotation marks (`Reference.decode_encodeText`, `Reference.decode_encodeAttribute`), and it holds
none of the characters that markup takes as its own (`Reference.plain_of_mem_escape`). Main statement: that
together with where the ampersands of encoded text come from (`Reference.escape_safe`).
-/
namespace MarkupQuery.Reference

theorem expand_nil : expand [] = [] := by
  rw [expand]

theorem expand_cons_of_ne {c : Char} (plain : c ≠ '&') (rest : Text) :
    expand (c :: rest) = c :: expand rest := by
  rw [expand, if_neg (by simpa using plain)]

theorem expand_reference {rest after : Text} {c : Char} (named : read? rest = some (c, after)) :
    expand ('&' :: rest) = c :: expand after := by
  rw [expand, if_pos (beq_self_eq_true '&')]
  split
  · rename_i found
    rw [named] at found
    cases found
    rfl
  · rename_i absent
    rw [named] at absent
    cases absent

theorem expand_of_read?_eq_none {rest : Text} (unread : read? rest = none) :
    expand ('&' :: rest) = '&' :: expand rest := by
  rw [expand, if_pos (beq_self_eq_true '&')]
  split
  · rename_i found
    rw [unread] at found
    cases found
  · rfl

/-- A character that is written decodes to itself, whatever follows it. -/
theorem expand_encodeChar (quoted : Bool) (c : Char) (rest : Text) :
    expand (encodeChar quoted c ++ rest) = c :: expand rest := by
  unfold encodeChar
  split
  · rename_i same
    obtain rfl := beq_iff_eq.mp same
    exact expand_reference rfl
  · split
    · rename_i same
      obtain rfl := beq_iff_eq.mp same
      exact expand_reference rfl
    · split
      · rename_i same
        obtain rfl := beq_iff_eq.mp same
        exact expand_reference rfl
      · rename_i plain
        split
        · rename_i mark
          obtain rfl := beq_iff_eq.mp (Bool.and_eq_true_iff.mp mark).2
          exact expand_reference rfl
        · exact expand_cons_of_ne (by simpa using plain) rest

theorem expand_flatMap (quoted : Bool) (text : Text) :
    expand (text.flatMap (encodeChar quoted)) = text := by
  induction text with
  | nil => exact expand_nil
  | cons c rest ih => rw [List.flatMap_cons, expand_encodeChar, ih]

/-- Text without an ampersand has nothing to replace. -/
theorem expand_append_of_not_mem {before : Text} (plain : '&' ∉ before) (rest : Text) :
    expand (before ++ rest) = before ++ expand rest := by
  induction before with
  | nil => rfl
  | cons c others ih =>
    rw [List.mem_cons, not_or] at plain
    rw [List.cons_append, expand_cons_of_ne (Ne.symm plain.1), ih plain.2, List.cons_append]

theorem expand_of_not_mem {text : Text} (plain : '&' ∉ text) : expand text = text := by
  have whole := expand_append_of_not_mem plain []
  rwa [List.append_nil, expand_nil, List.append_nil] at whole

/-- The way around text without an ampersand makes no difference. -/
theorem decode_eq_expand (text : Text) : decode text = expand text := by
  unfold decode
  split
  · rfl
  · rename_i absent
    rw [expand_of_not_mem (by simpa using absent)]

theorem decode_nil : decode [] = [] := rfl

theorem encodeChar_of_not_isEscaped {quoted : Bool} {c : Char} (plain : isEscaped quoted c = false) :
    encodeChar quoted c = [c] := by
  simp only [isEscaped, Bool.or_eq_false_iff] at plain
  obtain ⟨⟨⟨less, greater⟩, ampersand⟩, mark⟩ := plain
  simp [encodeChar, less, greater, ampersand, mark]

/-- The way around text in which nothing is escaped makes no difference. -/
theorem escape_eq_flatMap (quoted : Bool) (text : Text) :
    escape quoted text = text.flatMap (encodeChar quoted) := by
  unfold escape
  split
  · rfl
  · rename_i absent
    have plain : ∀ c ∈ text, isEscaped quoted c = false := by simpa using absent
    rw [List.flatMap_congr fun c member => encodeChar_of_not_isEscaped (plain c member)]
    exact (List.flatMap_singleton' text).symm

theorem decode_escape (quoted : Bool) (text : Text) : decode (escape quoted text) = text := by
  rw [decode_eq_expand, escape_eq_flatMap, expand_flatMap]

theorem decode_encodeText (text : Text) : decode (encodeText text) = text :=
  decode_escape false text

theorem decode_encodeAttribute (text : Text) : decode (encodeAttribute text) = text :=
  decode_escape true text

theorem plain_of_mem_encodeChar {quoted : Bool} {c d : Char} (member : c ∈ encodeChar quoted d) :
    c ≠ '<' ∧ c ≠ '>' ∧ (quoted = true → c ≠ '"') := by
  have written {name : Text} (plain : ∀ c ∈ name, c ≠ '<' ∧ c ≠ '>' ∧ c ≠ '"')
      (inside : c ∈ name) : c ≠ '<' ∧ c ≠ '>' ∧ (quoted = true → c ≠ '"') := by
    obtain ⟨less, greater, mark⟩ := plain c inside
    exact ⟨less, greater, fun _ => mark⟩
  unfold encodeChar at member
  split at member
  · exact written (by simp) member
  · rename_i less
    split at member
    · exact written (by simp) member
    · rename_i greater
      split at member
      · exact written (by simp) member
      · split at member
        · exact written (by simp) member
        · rename_i mark
          obtain rfl := List.mem_singleton.mp member
          refine ⟨by simpa using less, by simpa using greater, ?_⟩
          rintro rfl
          simpa using mark

/-- No angle bracket is written as it is, and no quotation mark where it would end the value. -/
theorem plain_of_mem_escape {quoted : Bool} {c : Char} {text : Text}
    (member : c ∈ escape quoted text) :
    c ≠ '<' ∧ c ≠ '>' ∧ (quoted = true → c ≠ '"') := by
  rw [escape_eq_flatMap] at member
  obtain ⟨d, _, inside⟩ := List.mem_flatMap.mp member
  exact plain_of_mem_encodeChar inside

/-- A character is written as it is, or as a reference whose only ampersand is its first character. -/
theorem encodeChar_cases (quoted : Bool) (c : Char) :
    (isEscaped quoted c = false ∧ encodeChar quoted c = [c]) ∨
      (isEscaped quoted c = true ∧ ∃ name, encodeChar quoted c = '&' :: name ∧ '&' ∉ name) := by
  cases escaped : isEscaped quoted c with
  | false => exact .inl ⟨rfl, encodeChar_of_not_isEscaped escaped⟩
  | true =>
    refine .inr ⟨rfl, ?_⟩
    unfold encodeChar
    split
    · exact ⟨_, rfl, by decide⟩
    · split
      · exact ⟨_, rfl, by decide⟩
      · split
        · exact ⟨_, rfl, by decide⟩
        · rename_i less greater ampersand
          have mark : (quoted && c == '"') = true := by
            simpa [isEscaped, less, greater, ampersand] using escaped
          rw [if_pos mark]
          exact ⟨_, rfl, by decide⟩

/-- Every ampersand of encoded text is the first character of the reference that is written for a
character. -/
theorem exists_escaped_of_ampersand {quoted : Bool} {text before after : Text}
    (written : escape quoted text = before ++ '&' :: after) :
    ∃ first c second, text = first ++ c :: second ∧ isEscaped quoted c = true ∧
      before = escape quoted first ∧ '&' :: after = encodeChar quoted c ++ escape quoted second := by
  simp only [escape_eq_flatMap] at written ⊢
  induction text generalizing before with
  | nil => simp at written
  | cons c rest ih =>
    rw [List.flatMap_cons] at written
    -- The ampersand comes after what is written for the first character, or it is part of that.
    have later {middle : Text} (same : before = encodeChar quoted c ++ middle)
        (tail : rest.flatMap (encodeChar quoted) = middle ++ '&' :: after) :
        ∃ first d second, c :: rest = first ++ d :: second ∧ isEscaped quoted d = true ∧
          before = first.flatMap (encodeChar quoted) ∧
          '&' :: after = encodeChar quoted d ++ second.flatMap (encodeChar quoted) := by
      obtain ⟨first, d, second, rfl, escaped, rfl, shape⟩ := ih tail
      exact ⟨c :: first, d, second, rfl, escaped, same, shape⟩
    rcases List.append_eq_append_iff.mp written with ⟨middle, same, tail⟩ | ⟨middle, inside, tail⟩
    · exact later same tail
    · cases middle with
      | nil =>
        rw [List.append_nil] at inside
        exact @later [] (by rw [inside, List.append_nil]) tail.symm
      | cons d middle =>
        obtain ⟨rfl, rfl⟩ := List.cons.inj tail
        rcases encodeChar_cases quoted c with ⟨plain, single⟩ | ⟨escaped, name, shape, apart⟩
        · rw [single] at inside
          cases before with
          | nil =>
            cases inside
            cases quoted <;> cases plain
          | cons b before => simp at inside
        · rw [shape] at inside
          cases before with
          | nil =>
            refine ⟨[], c, rest, rfl, escaped, rfl, ?_⟩
            rw [shape, inside]
            rfl
          | cons b before =>
            obtain ⟨_, rfl⟩ := List.cons.inj inside
            exact absurd (by simp) apart

/-- What is encoded decodes to what it was. Encoded text has no angle brackets, and no quotation marks where
they would end the value; each of its ampersands is the first character of the reference that is written for
a character. The way around text without an ampersand makes no difference to decoding. -/
theorem escape_safe (text : Text) :
    decode (encodeText text) = text ∧ decode (encodeAttribute text) = text ∧
      (∀ c ∈ encodeText text, c ≠ '<' ∧ c ≠ '>') ∧
      (∀ c ∈ encodeAttribute text, c ≠ '<' ∧ c ≠ '>' ∧ c ≠ '"') ∧
      (∀ quoted before after, escape quoted text = before ++ '&' :: after →
        ∃ first c second, text = first ++ c :: second ∧ isEscaped quoted c = true ∧
          before = escape quoted first ∧
          '&' :: after = encodeChar quoted c ++ escape quoted second) ∧
      decode text = expand text := by
  refine ⟨decode_encodeText text, decode_encodeAttribute text, ?_, ?_, ?_, decode_eq_expand text⟩
  · intro c member
    obtain ⟨less, greater, -⟩ := plain_of_mem_escape member
    exact ⟨less, greater⟩
  · intro c member
    obtain ⟨less, greater, mark⟩ := plain_of_mem_escape member
    exact ⟨less, greater, mark rfl⟩
  · intro quoted before after written
    exact exists_escaped_of_ampersand written

/-- Text that looks like a reference, with a quotation mark: its two ampersands are those of what is written
for its ampersand and for its quotation mark. -/
theorem escape_safe_of_reference :
    '&' ∈ encodeAttribute "&lt;\"".toList ∧
      (∀ c ∈ encodeAttribute "&lt;\"".toList, c ≠ '<' ∧ c ≠ '>' ∧ c ≠ '"') ∧
      escape true "&lt;\"".toList = "&amp;lt;".toList ++ '&' :: "quot;".toList ∧
      ∃ first c second, "&lt;\"".toList = first ++ c :: second ∧ isEscaped true c = true ∧
        "&amp;lt;".toList = escape true first ∧
        '&' :: "quot;".toList = encodeChar true c ++ escape true second := by
  obtain ⟨_, _, _, plain, ampersands, _⟩ := escape_safe "&lt;\"".toList
  have written : escape true "&lt;\"".toList = "&amp;lt;".toList ++ '&' :: "quot;".toList := by
    decide
  exact ⟨by decide, plain, written, ampersands true _ _ written⟩

end MarkupQuery.Reference
