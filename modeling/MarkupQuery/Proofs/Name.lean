import MarkupQuery.Name
import MarkupQuery.Proofs.Lexer.Locality
import MarkupQuery.Proofs.Utf8.Slicing

/-!
Names as bytes and as text. Tags are found in bytes and attributes in text; both go by the same
characters. Main statement: a text is a name to the last byte exactly when its first character may start
a name and all of them may be part of one (`Name.isName_iff`).
-/
namespace MarkupQuery

namespace Name

/-- A text of which a tag that starts with it takes all for its name. -/
def IsName (name : Text) : Prop := Bytes.name? (Utf8.encode name) = some (Utf8.encode name)

instance (name : Text) : Decidable (IsName name) := inferInstanceAs (Decidable (_ = _))

/-- The classes of bytes and of characters agree on ASCII. -/
theorem ascii_classes : ∀ n < 0x80,
    Bytes.isNameStart (UInt8.ofNat n) = isStart (Char.ofNat n) ∧
      Bytes.isNamePart (UInt8.ofNat n) = isPart (Char.ofNat n) := by
  decide +kernel

theorem isStart_of_le {c : Char} (large : 0x80 ≤ c.toNat) : isStart c = true := by
  have above : '\x80' ≤ c := by
    rw [Char.le_def, UInt32.le_iff_toNat_le]
    exact large
  simp [isStart, above]

theorem isNameStart_of_le {b : UInt8} (large : 0x80 ≤ b.toNat) : Bytes.isNameStart b = true := by
  have above : 0x80 ≤ b := by
    rw [UInt8.le_iff_toNat_le]
    exact large
  simp [Bytes.isNameStart, above]

/-- Every byte of a character is in the class of the character. -/
theorem classes_of_mem {c : Char} {b : UInt8} (member : b ∈ Utf8.encodeChar c) :
    Bytes.isNameStart b = isStart c ∧ Bytes.isNamePart b = isPart c := by
  by_cases ascii : c.toNat < 0x80
  · rw [Utf8.encodeChar_of_lt ascii, List.mem_singleton] at member
    have same := ascii_classes c.toNat ascii
    rw [Char.ofNat_toNat] at same
    rw [member]
    exact same
  · have start := isStart_of_le (c := c) (by omega)
    have first := isNameStart_of_le (Utf8.le_of_mem_encodeChar (by omega) member)
    exact ⟨by rw [start, first], by simp [isPart, Bytes.isNamePart, start, first]⟩

theorem sameClass_isStart : Utf8.SameClass Bytes.isNameStart isStart :=
  fun _ _ member => (classes_of_mem member).1

theorem sameClass_isPart : Utf8.SameClass Bytes.isNamePart isPart :=
  fun _ _ member => (classes_of_mem member).2

/-- A name in bytes and in characters. -/
theorem isName_iff (name : Text) :
    IsName name ↔ name.head?.any isStart = true ∧ ∀ c ∈ name, isPart c = true := by
  unfold IsName
  rw [Bytes.name?_eq_some_iff, List.takeWhile_eq_self_iff]
  have parts : (∀ b ∈ Utf8.encode name, Bytes.isNamePart b = true) ↔
      ∀ c ∈ name, isPart c = true := by
    constructor
    · intro all c member
      obtain ⟨b, inside⟩ := List.exists_mem_of_ne_nil _ (Utf8.encodeChar_ne_nil c)
      rw [← (classes_of_mem inside).2]
      exact all b (List.mem_flatMap.mpr ⟨c, member, inside⟩)
    · intro all b member
      obtain ⟨c, inside, byte⟩ := List.mem_flatMap.mp member
      rw [(classes_of_mem byte).2]
      exact all c inside
  rw [sameClass_isStart.any_head?_encode, parts]

end Name

end MarkupQuery
