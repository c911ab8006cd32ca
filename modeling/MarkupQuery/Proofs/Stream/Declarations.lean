import MarkupQuery.Proofs.Document.Reading
import MarkupQuery.Proofs.Document.Scope
import MarkupQuery.Proofs.Utf8.Decoding
import MarkupQuery.Stream.Streamer
import Mathlib.Data.List.Infix

/-!
Finding the declarations of a tag without reading every tag. Names stand in the attribute section as
they are written, so a section without the letters `xmlns` declares nothing. Main statement: a
streamer finds the declarations that the tag has once it is read (`Streamer.declarations_eq`).
-/
namespace MarkupQuery

/-- A search that finds nothing has looked everywhere. -/
theorem Delimiter.not_infix_of_sequence? {needle bytes : Bytes}
    (h : sequence? needle bytes = none) : ¬ needle <:+: bytes := by
  induction bytes with
  | nil =>
    unfold sequence? at h
    split at h
    · cases h
    · rename_i nonempty
      rw [List.infix_nil]
      simpa using nonempty
  | cons b rest ih =>
    unfold sequence? at h
    split at h
    · cases h
    · rename_i absent
      rw [List.infix_cons_iff]
      rintro (here | later)
      · exact absent (List.isPrefixOf_iff_prefix.mpr here)
      · exact ih (by simpa using h) later

theorem Utf8.encode_infix {part text : Text} (h : part <:+: text) :
    encode part <:+: encode text := by
  obtain ⟨before, after, rfl⟩ := h
  exact ⟨encode before, encode after, by rw [encode_append, encode_append]⟩

namespace Attribute

theorem prefix_of_declares? {a : Attribute} {qualifier : Option Text}
    (h : a.declares? = some qualifier) : declarationName <+: a.name := by
  unfold declares? at h
  split at h
  · rename_i same
    rw [beq_iff_eq.mp same]
  · split at h
    · rename_i qualified
      exact (List.prefix_append _ _).trans (List.isPrefixOf_iff_prefix.mp qualified)
    · cases h

/-- Attributes that are read from a section without the letters `xmlns` declare nothing. -/
theorem declares?_of_absent {raw : Bytes} {written : Text} {attributes : List Attribute}
    (decoded : Utf8.decode? raw = some written) (parsed : parse written = .ok attributes)
    (absent : (Delimiter.sequence? (Utf8.encode declarationName) raw).isNone = true) :
    ∀ a ∈ attributes, a.declares? = none := by
  intro a member
  cases declared : a.declares? with
  | none => rfl
  | some qualifier =>
    have inside : declarationName <:+: written :=
      (prefix_of_declares? declared).isInfix.trans
        ((parse_eq_ok_iff.mp parsed).isInfix_of_mem a member)
    have found := Utf8.encode_infix inside
    rw [← Utf8.encode_of_decode? decoded] at found
    exact absurd found (Delimiter.not_infix_of_sequence? (Option.isNone_iff_eq_none.mp absent))

/-- The declarations in an attribute section, none where it cannot be read. -/
def declaredIn (raw : Bytes) : List Binding :=
  match Utf8.decode? raw with
  | none => []
  | some written =>
    match parse written with
    | .error _ => []
    | .ok attributes => attributes.filterMap fun a => a.declares?.map fun q => ⟨q, a.value⟩

end Attribute

namespace Streamer

variable {name raw : Bytes}

/-- A streamer finds the declarations of a tag. -/
theorem declarations_eq {tag : Tag} (read : Event.tag name raw = .ok tag) :
    declarations raw = .ok tag.bindings := by
  obtain ⟨_, ⟨written, decoded, parsed⟩, _⟩ := Event.tag_eq_ok_iff.mp read
  unfold declarations
  split
  · rename_i absent
    have none : tag.attributes.filterMap (fun a => a.declares?.map (·, a.value)) = [] := by
      rw [List.filterMap_eq_nil_iff]
      intro a member
      rw [Attribute.declares?_of_absent decoded parsed absent a member]
      rfl
    simp [Tag.bindings, Tag.declarations, none]
  · rw [decoded]
    dsimp only
    rw [parsed]
    simp [Tag.bindings, Tag.declarations, List.map_filterMap, Function.comp_def]

/-- What a streamer finds in an attribute section are the declarations in it. -/
theorem declarations_eq_declaredIn {bindings : List Binding}
    (found : declarations raw = .ok bindings) : bindings = Attribute.declaredIn raw := by
  unfold declarations at found
  unfold Attribute.declaredIn
  cases decoded : Utf8.decode? raw with
  | none =>
    rw [decoded] at found
    split at found
    · cases found
      rfl
    · cases found
  | some written =>
    rw [decoded] at found
    dsimp only at found ⊢
    cases parsed : Attribute.parse written with
    | error fault =>
      rw [parsed] at found
      split at found
      · cases found
        rfl
      · cases found
    | ok attributes =>
      rw [parsed] at found
      split at found
      · rename_i absent
        cases found
        symm
        rw [List.filterMap_eq_nil_iff]
        intro a member
        rw [Attribute.declares?_of_absent decoded parsed absent a member]
        rfl
      · cases found
        rfl

end Streamer

end MarkupQuery
