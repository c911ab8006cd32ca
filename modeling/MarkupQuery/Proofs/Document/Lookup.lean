import MarkupQuery.Proofs.Document.RoundTrip

/-!
Namespaces of a loaded document. The bindings that an element carries are put together while the markup is
read, or shared with the element around it; here they are what the declarations on the element and on the
elements around it say. Main statement: in a loaded document a qualifier stands for the name of its nearest
declaration, at every element (`Document.ofText_lexical`).
-/
namespace MarkupQuery

/-- The tag that an event opens an element with. -/
def Event.tag? : Event → Option Tag
  | start tag | empty tag => some tag
  | _ => none

namespace Node

mutual

/-- The elements of a tree in the order of their start tags, each with the elements around it, the innermost
first. `above` are the elements around the tree. -/
def lineages (above : List Element) : Node → List (List Element × Element)
  | ⟨element, children⟩ => (above, element) :: lineagesAll (element :: above) children

/-- The elements of a list of trees. -/
def lineagesAll (above : List Element) : List Node → List (List Element × Element)
  | [] => []
  | child :: others => child.lineages above ++ lineagesAll above others

end

end Node

namespace Element

/-- The declaration of a qualifier on the nearest of some elements, the innermost first. -/
def nearest? (qualifier : Option Text) (lineage : List Element) : Option Binding :=
  lineage.findSome? fun e => e.declarations.find? (·.qualifier == qualifier)

/-- The name that the nearest declaration binds to a qualifier, none where it takes the binding away. -/
def bound? (qualifier : Option Text) (lineage : List Element) : Option Text :=
  ((nearest? qualifier lineage).filter (!·.uri.isEmpty)).map (·.uri)

/-- The namespaces of an element are those that the declarations on it and on the elements around it, the
innermost first, give it. -/
structure Lexical (above : List Element) (e : Element) : Prop where
  lookup : ∀ qualifier, qualifier ≠ some Namespace.xmlnsQualifier →
    e.lookup? qualifier =
      if qualifier = some Namespace.xmlQualifier then some Namespace.xmlUri
      else bound? qualifier (e :: above)
  uri : e.uri =
    if Name.qualifier? e.name = some Namespace.xmlnsQualifier then some Namespace.xmlnsUri
    else e.lookup? (Name.qualifier? e.name)
  distinct : (e.scope.map (·.qualifier)).Nodup
  scope : ∀ b, b ∈ e.scope ↔
    Namespace.isReserved b.qualifier = false ∧ bound? b.qualifier (e :: above) = some b.uri
  bound : ∀ b ∈ e.scope, b.uri ≠ []

end Element

namespace Namespace

variable {scope declarations : List Binding} {b : Binding} {qualifier : Option Text}

theorem find?_extend (free : isReserved qualifier = false) (scope : List Binding) (b : Binding) :
    (extend scope b).find? (·.qualifier == qualifier) =
      if b.qualifier = qualifier then (some b).filter (!·.uri.isEmpty)
      else scope.find? (·.qualifier == qualifier) := by
  unfold extend
  cases reserved : isReserved b.qualifier with
  | true =>
    have other : b.qualifier ≠ qualifier := by
      rintro rfl
      rw [free] at reserved
      cases reserved
    rw [if_pos rfl, if_neg other]
  | false => exact Scopes.find?_override b scope qualifier

/-- Of declarations for different qualifiers the one of a qualifier decides; where there is none, what
holds around them does. -/
theorem find?_foldl_extend (free : isReserved qualifier = false)
    (distinct : (declarations.map (·.qualifier)).Nodup) (scope : List Binding) :
    (declarations.foldl extend scope).find? (·.qualifier == qualifier) =
      match declarations.find? (·.qualifier == qualifier) with
      | some b => (some b).filter (!·.uri.isEmpty)
      | none => scope.find? (·.qualifier == qualifier) := by
  induction declarations generalizing scope with
  | nil => rfl
  | cons b others ih =>
    rw [List.map_cons, List.nodup_cons] at distinct
    rw [List.foldl_cons, ih distinct.2, find?_extend free]
    by_cases same : b.qualifier = qualifier
    · have none : others.find? (·.qualifier == qualifier) = none := by
        rw [List.find?_eq_none]
        intro c member equal
        exact distinct.1 (List.mem_map.mpr ⟨c, member, by simpa [same] using equal⟩)
      rw [none, if_pos same, List.find?_cons_of_pos (by simpa using same)]
    · rw [if_neg same, List.find?_cons_of_neg (by simpa using same)]

/-- A binding is found by its qualifier where no other has it. -/
theorem find?_of_mem (distinct : (scope.map (·.qualifier)).Nodup) (member : b ∈ scope) :
    scope.find? (·.qualifier == b.qualifier) = some b := by
  induction scope with
  | nil => cases member
  | cons c others ih =>
    rw [List.map_cons, List.nodup_cons] at distinct
    rcases List.mem_cons.mp member with rfl | later
    · rw [List.find?_cons_of_pos (by simp)]
    · have other : c.qualifier ≠ b.qualifier := fun same =>
        distinct.1 (same ▸ List.mem_map_of_mem later)
      rw [List.find?_cons_of_neg (by simpa using other), ih distinct.2 later]

theorem find?_eq_some_iff (distinct : (scope.map (·.qualifier)).Nodup) :
    scope.find? (·.qualifier == qualifier) = some b ↔ b ∈ scope ∧ b.qualifier = qualifier := by
  constructor
  · intro found
    exact ⟨List.mem_of_find?_eq_some found, by simpa using List.find?_some found⟩
  · rintro ⟨member, rfl⟩
    exact find?_of_mem distinct member

/-- It makes no difference from which side a qualifier is looked for. -/
theorem find?_reverse (distinct : (scope.map (·.qualifier)).Nodup) (qualifier : Option Text) :
    scope.reverse.find? (·.qualifier == qualifier) = scope.find? (·.qualifier == qualifier) := by
  have mirrored : (scope.reverse.map (·.qualifier)).Nodup := by
    rw [List.map_reverse]
    exact List.nodup_reverse.mpr distinct
  apply Option.ext
  intro b
  rw [find?_eq_some_iff mirrored, find?_eq_some_iff distinct, List.mem_reverse]

/-- The bindings in force inside some elements, the innermost first. -/
structure Reflects (lineage : List Element) (scope : List Binding) : Prop where
  proper : Proper scope
  found : ∀ qualifier, isReserved qualifier = false →
    scope.find? (·.qualifier == qualifier) =
      (Element.nearest? qualifier lineage).filter (!·.uri.isEmpty)

theorem Reflects.nil : Reflects [] [] := ⟨proper_nil, fun _ _ => rfl⟩

/-- The bindings in force are those of the nearest declarations, each qualifier with its own. -/
theorem Reflects.mem_iff {lineage : List Element} (h : Reflects lineage scope) :
    b ∈ scope ↔ isReserved b.qualifier = false ∧ Element.bound? b.qualifier lineage = some b.uri := by
  constructor
  · intro member
    have free := h.proper.free b member
    refine ⟨free, ?_⟩
    rw [Element.bound?, ← h.found _ free, find?_of_mem h.proper.distinct member]
    rfl
  · rintro ⟨free, given⟩
    rw [Element.bound?, ← h.found _ free] at given
    obtain ⟨c, found, uri⟩ := Option.map_eq_some_iff.mp given
    obtain ⟨member, qualifier⟩ := (find?_eq_some_iff h.proper.distinct).mp found
    obtain rfl : c = b := by
      cases b
      cases c
      simp_all
    exact member

end Namespace

namespace Element

variable {e : Element} {above : List Element} {around : List Binding}

/-- What is in force inside an element are its declarations, and for the qualifiers that it does not declare
what is in force around it. -/
theorem Spelled.reflects (spelled : e.Spelled around) (outer : Namespace.Reflects above around) :
    Namespace.Reflects (e :: above) e.scope := by
  rw [spelled.scope]
  constructor
  · exact outer.proper.foldl_extend e.declarations
  · intro qualifier free
    rw [Namespace.find?_foldl_extend free spelled.distinct.declarations, nearest?, List.findSome?_cons]
    cases e.declarations.find? (·.qualifier == qualifier) with
    | some b => rfl
    | none => exact outer.found qualifier free

theorem lookup?_eq (inner : Namespace.Reflects (e :: above) e.scope) {qualifier : Option Text}
    (other : qualifier ≠ some Namespace.xmlnsQualifier) :
    e.lookup? qualifier =
      if qualifier = some Namespace.xmlQualifier then some Namespace.xmlUri
      else bound? qualifier (e :: above) := by
  unfold lookup?
  by_cases fixed : qualifier = some Namespace.xmlQualifier
  · rw [if_pos fixed, if_pos (by simpa using fixed)]
  · have free : Namespace.isReserved qualifier = false := by
      simp [Namespace.isReserved, fixed, other]
    rw [if_neg fixed, if_neg (by simpa using fixed), Namespace.find?_reverse inner.proper.distinct,
      inner.found qualifier free]
    rfl

theorem Spelled.lexical (spelled : e.Spelled around) (outer : Namespace.Reflects above around) :
    e.Lexical above := by
  have inner := spelled.reflects outer
  constructor
  · intro qualifier other
    exact lookup?_eq inner other
  · rw [spelled.uri, Namespace.lookup, lookup?]
    generalize Name.qualifier? e.name = qualifier
    by_cases fixed : qualifier = some Namespace.xmlnsQualifier
    · subst fixed
      rfl
    · rw [if_neg fixed, Namespace.find?_reverse inner.proper.distinct]
      simp [fixed]
  · exact inner.proper.distinct
  · intro b
    exact inner.mem_iff
  · intro b member empty
    have bound := inner.proper.bound b member
    rw [empty] at bound
    cases bound

end Element

namespace Node

-- Induction on the tree: the bindings in force inside an element hold around its children.
mutual

theorem Spelled.lexical {above : List Element} {around : List Binding} :
    (n : Node) → n.Spelled around → Namespace.Reflects above around →
      ∀ x ∈ n.lineages above, x.2.Lexical x.1
  | ⟨e, children⟩, ⟨spelled, below⟩, outer, x, member => by
    rcases List.mem_cons.mp member with rfl | deeper
    · exact spelled.lexical outer
    · exact Spelled.lexical_all children below (spelled.reflects outer) x deeper

theorem Spelled.lexical_all {above : List Element} {around : List Binding} :
    (ns : List Node) → Node.SpelledAll around ns → Namespace.Reflects above around →
      ∀ x ∈ Node.lineagesAll above ns, x.2.Lexical x.1
  | child :: others, ⟨first, later⟩, outer, x, member => by
    rcases List.mem_append.mp member with inside | after
    · exact Spelled.lexical child first outer x inside
    · exact Spelled.lexical_all others later outer x after

end

end Node

/-- The elements of well-nested events are those of their tags, each with the declarations that the attributes
of its tag make. -/
theorem Nests.map_lineages {items : List Item} {content : Content} (nests : Nests items content)
    (above : List Element) (around : List Binding) :
    (Node.lineagesAll above (content.nodes around)).map
        (fun x => (x.2.name, x.2.declarations.map Binding.attribute)) =
      ((items.map (·.event)).filterMap Event.tag?).map
        (fun tag => (tag.name, tag.attributes.filter (·.Declares))) := by
  induction nests generalizing above around with
  | nil => rfl
  | @skip x items rest plain _ ih =>
    have none : x.event.tag? = none := by
      cases given : x.event <;> simp_all [Event.shapes, Event.tag?]
    rw [List.map_cons, List.filterMap_cons_none none]
    exact ih above around
  | @data x text items rest character _ ih =>
    have none : x.event.tag? = none := by
      rcases character with given | given <;> rw [given] <;> rfl
    rw [List.map_cons, List.filterMap_cons_none none]
    exact ih above around
  | @empty x tag items rest single _ ih =>
    have one : x.event.tag? = some tag := by
      rw [single]
      rfl
    rw [List.map_cons, List.filterMap_cons_some one, List.map_cons, ← ih above around,
      ← Tag.map_attribute_bindings]
    rfl
  | @element x y tag within items inside rest opening _ closing _ inner ih =>
    have one : x.event.tag? = some tag := by
      rw [opening]
      rfl
    have none : y.event.tag? = none := by
      rw [closing]
      rfl
    rw [List.map_append, List.map_cons, List.cons_append, List.filterMap_cons_some one,
      List.filterMap_append, List.map_cons, List.map_cons, List.filterMap_cons_none none,
      List.map_append, ← ih above around, ← inner (tag.toElement around inside.texts :: above)
        (tag.scope around), ← List.map_append, ← Tag.map_attribute_bindings]
    rfl

namespace Document

/-- In a loaded document there is one element for each tag that opens one, in the order of the tags. Its
declarations are those that attributes of its tag make, in their order, and the namespaces at each element
are those of lexical scoping. -/
theorem ofText_lexical {markup : Text} {document : Document}
    (loaded : ofText markup = .ok document) :
    (document.root.lineages []).map (fun x => (x.2.name, x.2.declarations.map Binding.attribute)) =
        ((Event.ofText (Node.withoutMark markup)).1.filterMap Event.tag?).map
          (fun tag => (tag.name, tag.attributes.filter (·.Declares))) ∧
      ∀ x ∈ document.root.lineages [], x.2.Lexical x.1 := by
  obtain ⟨source, root⟩ := document
  obtain ⟨_, parsed⟩ := ofText_eq_ok_iff_parse.mp loaded
  constructor
  · obtain ⟨items, content, reads, nests, _, one⟩ :=
      (Node.parse_eq_ok_iff Namespace.proper_nil markup root).mp parsed
    have same := nests.map_lineages [] []
    rw [one, Node.lineagesAll, Node.lineagesAll, List.append_nil] at same
    rw [(Event.ofText_eq_iff _ _).mpr ⟨items, reads, rfl⟩, same]
  · exact Node.Spelled.lexical root (Node.spelled_of_parse parsed) .nil

/-- A document with a qualifier that is bound anew, a default namespace that is taken back, an element that
shares the bindings around it, and a declaration of a reserved qualifier. -/
theorem ofText_lexical_shadowed :
    let markup :=
      "<a xmlns='u' xmlns:p='v'><p:b xmlns:p='w' xmlns:xml='n' k='1'><c xmlns=''/><p:d/></p:b></a>".toList
    ∃ document, ofText markup = .ok document ∧
      (document.root.lineages []).map (fun x => (x.2.name, x.2.declarations.map Binding.attribute)) =
        [("a".toList, [⟨"xmlns".toList, "u".toList⟩, ⟨"xmlns:p".toList, "v".toList⟩]),
          ("p:b".toList, [⟨"xmlns:p".toList, "w".toList⟩, ⟨"xmlns:xml".toList, "n".toList⟩]),
          ("c".toList, [⟨"xmlns".toList, []⟩]), ("p:d".toList, [])] ∧
      (document.root.lineages []).map (fun x => (x.2.lookup? none, x.2.lookup? (some ['p']))) =
        [(some ['u'], some ['v']), (some ['u'], some ['w']), (none, some ['w']),
          (some ['u'], some ['w'])] ∧
      ∀ x ∈ document.root.lineages [], x.2.Lexical x.1 := by
  intro markup
  have read : ((ofText markup).map fun document =>
      (document.root.lineages []).map fun x => (x.2.lookup? none, x.2.lookup? (some ['p']))) =
        .ok [(some ['u'], some ['v']), (some ['u'], some ['w']), (none, some ['w']),
          (some ['u'], some ['w'])] := by
    decide +kernel
  obtain ⟨document, loaded, found⟩ := exists_of_map_eq_ok read
  obtain ⟨declared, lexical⟩ := ofText_lexical loaded
  refine ⟨document, loaded, declared.trans ?_, found, lexical⟩
  decide +kernel

end Document

end MarkupQuery
