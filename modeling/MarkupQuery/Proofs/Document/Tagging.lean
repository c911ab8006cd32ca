import MarkupQuery.Node.Markup
import MarkupQuery.Proofs.Attribute.Layout
import MarkupQuery.Proofs.Document.Content
import MarkupQuery.Proofs.Document.Making
import MarkupQuery.Proofs.Lexer.Spelling

/-!
Elements and the tags that write them. A tag holds the declarations and the attributes of an element in one
section; `Element.Spelled` says which elements a tag can write where given bindings are in force. Main
statements: the tag of such an element reads as what is written (`Element.Spelled.tag_render`) and opens
the element anew (`Element.Spelled.toElement_tag`), every loaded tree is made of such elements
(`Nests.spelled`), and so is every tree made by hand whose names can be written (`Node.Made.spelled`).
-/
namespace MarkupQuery

namespace Attribute

/-- The name of the attribute that declares a qualifier. -/
def declaringName : Option Text → Text
  | none => declarationName
  | some qualifier => declarationName ++ ':' :: qualifier

theorem declaringName_injective : Function.Injective declaringName := by
  intro first second same
  cases first <;> cases second <;> simp_all [declaringName]

end Attribute

/-- The attribute that declares a binding. -/
def Binding.attribute (b : Binding) : Attribute := ⟨Attribute.declaringName b.qualifier, b.uri⟩

namespace Attribute

/-- An attribute that declares a binding. -/
def Declares (a : Attribute) : Prop := ∃ b : Binding, a = b.attribute

theorem declares?_eq_some_iff {a : Attribute} {b : Binding} (same : a.value = b.uri) :
    a.declares? = some b.qualifier ↔ a = b.attribute := by
  obtain ⟨name, value⟩ := a
  obtain ⟨qualifier, uri⟩ := b
  obtain rfl : value = uri := same
  unfold declares? Binding.attribute declaringName
  simp only [Attribute.mk.injEq, and_true]
  split
  · rename_i plain
    obtain rfl := beq_iff_eq.mp plain
    cases qualifier <;> simp
  · rename_i other
    split
    · rename_i starts
      obtain ⟨rest, rfl⟩ := List.isPrefixOf_iff_prefix.mp starts
      cases qualifier <;> simp [declarationName]
    · rename_i absent
      cases qualifier with
      | none => simpa using other
      | some qualifier =>
        simp only [reduceCtorEq, false_iff]
        rintro rfl
        refine absurd (List.isPrefixOf_iff_prefix.mpr ⟨qualifier, ?_⟩) absent
        simp

theorem declares?_attribute (b : Binding) : b.attribute.declares? = some b.qualifier :=
  (declares?_eq_some_iff rfl).mpr rfl

theorem declares_iff {a : Attribute} : a.Declares ↔ a.declares?.isSome = true := by
  rw [Option.isSome_iff_exists]
  constructor
  · rintro ⟨b, rfl⟩
    exact ⟨b.qualifier, declares?_attribute b⟩
  · rintro ⟨qualifier, declares⟩
    exact ⟨⟨qualifier, a.value⟩, (declares?_eq_some_iff rfl).mp declares⟩

instance (a : Attribute) : Decidable a.Declares := decidable_of_iff _ declares_iff.symm

/-- Attributes as they are written one after another. -/
def renderAll (attributes : List Attribute) : Text :=
  attributes.flatMap fun a => Element.renderAttribute a.name a.value

/-- They are laid out with one blank before each. -/
theorem renderAll_eq (attributes : List Attribute) :
    renderAll attributes = lay (attributes.map fun a => ([' '], spell a)) ++ [] := by
  rw [List.append_nil, lay, List.flatMap_map]
  exact List.flatMap_congr fun a _ => by simp [Element.renderAttribute, spell, Spelling.text]

/-- Attributes with names, each in double quotation marks after a blank, are an attribute section. -/
theorem section_renderAll {attributes : List Attribute}
    (named : ∀ a ∈ attributes, Name.IsName a.name) :
    Section (renderAll attributes) attributes ∧
      (renderAll attributes).head?.all Text.isBlank = true := by
  have spaced : ∀ p ∈ attributes.map fun a => ([' '], spell a), p.1 ≠ [] := by simp
  have layout : Layout (attributes.map fun a => ([' '], spell a)) [] := by
    refine ⟨?_, by simp [Text.isBlank], fun p member => spaced p (List.mem_of_mem_tail member), nofun⟩
    refine List.forall_mem_map.mpr fun a member => ?_
    obtain ⟨start, parts⟩ := (Name.isName_iff a.name).mp (named a member)
    exact valid_spell start parts
  have same : (attributes.map fun a => ([' '], spell a)).map (·.2.toAttribute) = attributes := by
    rw [List.map_map]
    exact List.map_id'' toAttribute_spell attributes
  have whole := layout.to_section
  rw [same] at whole
  rw [renderAll_eq]
  exact ⟨whole, layout.head? spaced⟩

end Attribute

namespace Element

/-- The tag that writes an element, its declarations before its other attributes. -/
def tag (e : Element) : Tag := ⟨e.name, e.declarations.map Binding.attribute ++ e.attributes⟩

theorem renderDeclaration_eq (b : Binding) :
    renderDeclaration b = renderAttribute b.attribute.name b.attribute.value := by
  obtain ⟨_ | qualifier, uri⟩ := b <;> rfl

theorem renderTag_eq (e : Element) : e.renderTag = e.name ++ Attribute.renderAll e.tag.attributes := by
  have declared : e.declarations.flatMap renderDeclaration =
      Attribute.renderAll (e.declarations.map Binding.attribute) := by
    rw [Attribute.renderAll, List.flatMap_map]
    congr 1
    funext b
    exact renderDeclaration_eq b
  rw [renderTag, declared, tag, Attribute.renderAll, Attribute.renderAll, List.flatMap_append,
    List.append_assoc]

/-- The elements that a tag can write where given bindings are in force. -/
structure Spelled (around : List Binding) (e : Element) : Prop where
  name : Name.IsName e.name
  attributes : ∀ a ∈ e.attributes, Name.IsName a.name ∧ a.declares? = none
  declarations : ∀ b ∈ e.declarations, Name.IsName b.attribute.name
  distinct : e.Distinct
  scope : e.scope = e.declarations.foldl Namespace.extend around
  uri : e.uri = Namespace.lookup e.scope (Name.qualifier? e.name)

namespace Spelled

variable {around : List Binding} {e : Element}

theorem named (h : e.Spelled around) : ∀ a ∈ e.tag.attributes, Name.IsName a.name := by
  intro a member
  rcases List.mem_append.mp member with declared | written
  · obtain ⟨b, inside, rfl⟩ := List.mem_map.mp declared
    exact h.declarations b inside
  · exact (h.attributes a written).1

/-- No attribute of the tag repeats the name of another. -/
theorem nodup_tag (h : e.Spelled around) : (e.tag.attributes.map (·.name)).Nodup := by
  have declared : (e.declarations.map Binding.attribute).map (·.name) =
      (e.declarations.map (·.qualifier)).map Attribute.declaringName := by
    rw [List.map_map, List.map_map]
    rfl
  rw [tag, List.map_append, List.nodup_append, declared]
  refine ⟨h.distinct.declarations.map Attribute.declaringName_injective, h.distinct.attributes, ?_⟩
  -- An attribute that has the name of a declaration would be one itself.
  rintro name first _ second rfl
  obtain ⟨qualifier, _, rfl⟩ := List.mem_map.mp first
  obtain ⟨a, inside, same⟩ := List.mem_map.mp second
  have declares : a.declares? = some qualifier :=
    (Attribute.declares?_eq_some_iff (b := ⟨qualifier, a.value⟩) rfl).mpr (by
      rw [Binding.attribute, ← same])
  rw [(h.attributes a inside).2] at declares
  cases declares

theorem bindings_tag (h : e.Spelled around) : e.tag.bindings = e.declarations := by
  have declared : (e.declarations.map Binding.attribute).filterMap
        (fun a => a.declares?.map (·, a.value)) =
      e.declarations.map fun b => (b.qualifier, b.uri) := by
    rw [List.filterMap_map, ← List.filterMap_eq_map]
    congr 1
    funext b
    simp only [Function.comp, Attribute.declares?_attribute]
    rfl
  have written : e.attributes.filterMap (fun a => a.declares?.map (·, a.value)) = [] := by
    rw [List.filterMap_eq_nil_iff]
    intro a member
    rw [(h.attributes a member).2]
    rfl
  rw [Tag.bindings, Tag.declarations, tag, List.filterMap_append, declared, written, List.append_nil,
    List.map_map]
  exact List.map_id _

theorem filter_tag (h : e.Spelled around) :
    e.tag.attributes.filter (·.declares?.isNone) = e.attributes := by
  have declared : (e.declarations.map Binding.attribute).filter (·.declares?.isNone) = [] := by
    rw [List.filter_eq_nil_iff]
    intro a member
    obtain ⟨b, _, rfl⟩ := List.mem_map.mp member
    simp [Attribute.declares?_attribute]
  have written : e.attributes.filter (·.declares?.isNone) = e.attributes := by
    rw [List.filter_eq_self]
    intro a member
    rw [(h.attributes a member).2]
    rfl
  rw [tag, List.filter_append, declared, written, List.nil_append]

theorem scope_tag (h : e.Spelled around) : e.tag.scope around = e.scope := by
  rw [Tag.scope, h.bindings_tag, h.scope]

/-- The tag opens the element, with the character data that comes after it. -/
theorem toElement_tag (h : e.Spelled around) (texts : List Text) :
    e.tag.toElement around texts =
      { e with text := if texts.isEmpty then none else some texts.flatten } := by
  unfold Tag.toElement
  rw [h.bindings_tag, h.filter_tag, h.scope_tag, h.uri]
  rfl

/-- What is written of the element is read as its tag. -/
theorem tag_render (h : e.Spelled around) :
    Event.tag (Utf8.encode e.name) (Utf8.encode (Attribute.renderAll e.tag.attributes)) =
      .ok e.tag := by
  rw [Event.tag_eq_ok_iff]
  refine ⟨Utf8.decode?_encode e.name, ⟨_, Utf8.decode?_encode _, ?_⟩, ?_⟩
  · exact Attribute.parse_eq_ok_iff.mpr (Attribute.section_renderAll h.named).1
  · exact Attribute.duplicate?_eq_none_iff.mpr h.nodup_tag

end Spelled

/-- The elements made by hand that can be written: their names and those of their attributes are names,
no attribute is a declaration, and the qualifiers that cannot be declared play no part. -/
structure Writable (e : Element) : Prop where
  name : Name.IsName e.name
  attributes : ∀ a ∈ e.attributes, Name.IsName a.name ∧ a.declares? = none
  declarations : ∀ b ∈ e.declarations, Name.IsName b.attribute.name
  unreserved : Namespace.isReserved (Name.qualifier? e.name) = false ∧
    ∀ b ∈ e.declarations, Namespace.isReserved b.qualifier = false

theorem writable_iff (e : Element) :
    e.Writable ↔ Name.IsName e.name ∧
      (∀ a ∈ e.attributes, Name.IsName a.name ∧ a.declares? = none) ∧
      (∀ b ∈ e.declarations, Name.IsName b.attribute.name) ∧
      Namespace.isReserved (Name.qualifier? e.name) = false ∧
        ∀ b ∈ e.declarations, Namespace.isReserved b.qualifier = false :=
  ⟨fun h => ⟨h.name, h.attributes, h.declarations, h.unreserved⟩,
    fun ⟨name, attributes, declarations, unreserved⟩ =>
      ⟨name, attributes, declarations, unreserved⟩⟩

instance (e : Element) : Decidable e.Writable := decidable_of_iff _ (writable_iff e).symm

theorem Writable.spelled {e : Element} (writable : e.Writable) (distinct : e.Distinct)
    {around : List Binding} (same : e.rescope around = e) : e.Spelled around where
  name := writable.name
  attributes := writable.attributes
  declarations := writable.declarations
  distinct := distinct
  scope := by
    rw [← scope_rescope distinct writable.unreserved.2, same]
  uri := by
    have resolved := uri_rescope writable.unreserved.1 around
    rw [same] at resolved
    exact resolved

end Element

namespace Node

mutual

/-- The trees that markup can write where given bindings are in force. -/
def Spelled (around : List Binding) : Node → Prop
  | ⟨element, children⟩ => element.Spelled around ∧ SpelledAll element.scope children

/-- The lists of trees that markup can write where given bindings are in force. -/
def SpelledAll (around : List Binding) : List Node → Prop
  | [] => True
  | child :: others => child.Spelled around ∧ SpelledAll around others

end

mutual

theorem spelled_of_rescope {around : List Binding} :
    (n : Node) → n.Every Element.Writable → n.Every Element.Distinct → n.rescope around = n →
      n.Spelled around
  | ⟨element, children⟩, ⟨writable, below⟩, ⟨distinct, apart⟩, same => by
    obtain ⟨head, rest⟩ := rescope_eq_self_iff.mp same
    exact ⟨writable.spelled distinct head, spelledAll_of_rescope children below apart rest⟩

theorem spelledAll_of_rescope {around : List Binding} :
    (ns : List Node) → EveryOf Element.Writable ns → EveryOf Element.Distinct ns →
      rescopeAll around ns = ns → SpelledAll around ns
  | [], _, _, _ => trivial
  | child :: others, ⟨writable, below⟩, ⟨distinct, apart⟩, same => by
    rw [rescopeAll, List.cons.injEq] at same
    exact ⟨spelled_of_rescope child writable distinct same.1,
      spelledAll_of_rescope others below apart same.2⟩

end

/-- Trees made by hand can be written where their names can. -/
theorem Made.spelled {n : Node} (made : Made n) (writable : n.Every Element.Writable) :
    n.Spelled [] :=
  spelled_of_rescope n writable made.distinct made.rescope_nil

end Node

namespace Tag

/-- A tag whose names are names, no two attributes of the same name. -/
structure Wellformed (tag : Tag) : Prop where
  name : Name.IsName tag.name
  attributes : ∀ a ∈ tag.attributes, Name.IsName a.name
  distinct : (tag.attributes.map (·.name)).Nodup

/-- The declarations of a tag are those of its attributes that declare something. -/
theorem map_attribute_bindings (tag : Tag) :
    tag.bindings.map Binding.attribute = tag.attributes.filter (·.Declares) := by
  obtain ⟨name, attributes⟩ := tag
  unfold bindings declarations
  dsimp only
  induction attributes with
  | nil => rfl
  | cons a others ih =>
    cases declares : a.declares? with
    | none => simpa [declares, Attribute.declares_iff] using ih
    | some qualifier =>
      have same := (Attribute.declares?_eq_some_iff (b := ⟨qualifier, a.value⟩) rfl).mp declares
      simpa [declares, Attribute.declares_iff, ← same] using ih

theorem Wellformed.spelled {tag : Tag} (h : tag.Wellformed) (around : List Binding)
    (texts : List Text) : (tag.toElement around texts).Spelled around where
  name := h.name
  attributes a member := by
    have kept : a ∈ tag.attributes ∧ a.declares? = none := by
      simpa [toElement] using member
    exact ⟨h.attributes a kept.1, kept.2⟩
  declarations b member := by
    have inside : b.attribute ∈ tag.bindings.map Binding.attribute := List.mem_map_of_mem member
    rw [map_attribute_bindings] at inside
    exact h.attributes _ (List.mem_filter.mp inside).1
  distinct := by
    constructor
    · exact h.distinct.sublist (List.filter_sublist.map _)
    · have names : ((tag.bindings.map Binding.attribute).map (·.name)).Nodup := by
        rw [map_attribute_bindings]
        exact h.distinct.sublist (List.filter_sublist.map _)
      have declared : (tag.bindings.map Binding.attribute).map (·.name) =
          (tag.bindings.map (·.qualifier)).map Attribute.declaringName := by
        rw [List.map_map, List.map_map]
        rfl
      rw [declared] at names
      exact names.of_map
  scope := rfl
  uri := rfl

end Tag

/-- The trees of well-nested events can be written where their tags are well-formed. -/
theorem Nests.spelled {items : List Item} {content : Content} (nests : Nests items content)
    (tags : ∀ x ∈ items, ∀ tag, x.event = .start tag ∨ x.event = .empty tag → tag.Wellformed)
    (around : List Binding) : Node.SpelledAll around (content.nodes around) := by
  induction nests generalizing around with
  | nil => trivial
  | skip _ _ ih => exact ih (fun x member => tags x (by simp [member])) around
  | data _ _ ih => exact ih (fun x member => tags x (by simp [member])) around
  | @empty x tag items rest single _ ih =>
    have wellformed := tags x (by simp) tag (.inr single)
    exact ⟨⟨wellformed.spelled around [], trivial⟩,
      ih (fun x member => tags x (by simp [member])) around⟩
  | @element x z tag within items inside rest opening _ _ _ inner ih =>
    have wellformed := tags x (by simp) tag (.inl opening)
    exact ⟨⟨wellformed.spelled around inside.texts,
        inner (fun x member => tags x (by simp [member])) (tag.scope around)⟩,
      ih (fun x member => tags x (by simp [member])) around⟩

/-- Every tag that is read is well-formed. -/
theorem Reads.wellformed {markup : Text} {items : List Item} (reads : Reads markup items) {x : Item}
    (member : x ∈ items) {tag : Tag} (tagged : x.event = .start tag ∨ x.event = .empty tag) :
    tag.Wellformed := by
  obtain ⟨name, raw, token, read⟩ := (Event.of_ofLexeme (reads.decoded x member)).tag_parts tagged
  obtain ⟨decoded, ⟨written, _, parsed⟩, fresh⟩ := Event.tag_eq_ok_iff.mp read
  constructor
  · obtain ⟨last, ran⟩ := reads.lexed
    obtain ⟨_, lexes, _⟩ : ∃ q, Lexes (Utf8.encode markup) 0 _ q ∧ _ := Lexes.of_run ran rfl
    obtain ⟨width, found⟩ := lexes.scan_of_mem (List.mem_map_of_mem member)
    have shaped := Scan.shaped_scan ((Utf8.encode markup).drop x.lexeme.start)
    unfold Name.IsName
    rw [← Utf8.encode_of_decode? decoded]
    rcases token with token | token
    · rw [found, token] at shaped
      exact shaped.1
    · rw [found, token] at shaped
      exact shaped.1
  · exact (Attribute.parse_eq_ok_iff.mp parsed).named
  · exact Attribute.duplicate?_eq_none_iff.mp fresh

end MarkupQuery
