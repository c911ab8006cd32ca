import MarkupQuery.Proofs.Document.Lookup
import MarkupQuery.Proofs.Path.Walking

/-!
Children are found by the names they are written with. A name with a qualifier is looked for by what the
qualifier stands for at the parent, so it has to stand for the same at the child. Where an element is put
below others, its name is resolved with the bindings around it; where markup is read, with the fixed names of
the reserved qualifiers as well. Main statement: a child that does not declare the qualifier of its name
is found by its name, in a loaded tree always, and in a tree made by hand unless the qualifier is `xml`
(`Resolver.children_name`).
-/
namespace MarkupQuery

namespace Segment

variable {parent child : Element}

theorem divide?_of_parse {name qualifier localPart : Text}
    (two : parse name = qualified qualifier localPart) : Name.divide? name = some (qualifier, localPart) := by
  unfold parse at two
  split at two
  · rename_i first second pieces
    cases two
    have plain : ∀ c ∈ qualifier, (c != ':') = true := fun c member => bne_iff_ne.mpr fun colon =>
      Text.not_mem_of_mem_split (pieces ▸ List.mem_cons_self) (colon ▸ member)
    have written := Text.join_split ':' name
    rw [pieces] at written
    change qualifier ++ ':' :: localPart = name at written
    simp [Name.divide?, ← written, List.dropWhile_append_of_pos plain,
      List.takeWhile_append_of_pos plain]
  · cases two

theorem qualifier?_of_parse {name qualifier localPart : Text}
    (two : parse name = qualified qualifier localPart) : Name.qualifier? name = some qualifier := by
  rw [Name.qualifier?, divide?_of_parse two]
  rfl

/-- The name of a child finds it unless its qualifier stands for something else at the parent. -/
theorem matchesChild_parse :
    (parse child.name).matchesChild parent child = true ↔
      ∀ qualifier localPart, parse child.name = qualified qualifier localPart →
        ∀ uri, parent.lookup? (some qualifier) = some uri → child.uri = some uri := by
  cases read : parse child.name with
  | tag name =>
    have written := render_parse child.name
    rw [read] at written
    simp [matchesChild, show name = child.name from written]
  | qualified qualifier localPart =>
    have divided := divide?_of_parse read
    simp only [matchesChild, Name.localPart, Name.qualifier?, divided, Option.map_some,
      Option.getD_some, beq_self_eq_true, Bool.true_and, qualified.injEq]
    cases found : parent.lookup? (some qualifier) <;> simp [found]

end Segment

namespace Element

variable {parent child e : Element} {around : List Binding}

/-- Unless `child` declares the qualifier of its name, it stands for what it does at `parent`. -/
def Agrees (parent child : Element) : Prop :=
  (∀ b ∈ child.declarations, b.qualifier ≠ Name.qualifier? child.name) →
    ∀ uri, parent.lookup? (Name.qualifier? child.name) = some uri → child.uri = some uri

/-- The same for all qualifiers but `xml`. -/
def AgreesBesideXml (parent child : Element) : Prop :=
  Name.qualifier? child.name ≠ some Namespace.xmlQualifier → Agrees parent child

theorem Agrees.besideXml (agrees : Agrees parent child) : AgreesBesideXml parent child :=
  fun _ => agrees

theorem find?_eq_none_of_undeclared {qualifier : Option Text}
    (undeclared : ∀ b ∈ e.declarations, b.qualifier ≠ qualifier) :
    e.declarations.find? (·.qualifier == qualifier) = none :=
  List.find?_eq_none.mpr fun b member => by simpa using undeclared b member

/-- Reading markup resolves the name of an element as its parent would. -/
theorem Spelled.agrees (proper : Namespace.Proper parent.scope) (spelled : child.Spelled parent.scope) :
    Agrees parent child := by
  intro undeclared uri found
  have declared := find?_eq_none_of_undeclared undeclared
  rw [spelled.uri, Namespace.lookup]
  rw [lookup?, Namespace.find?_reverse proper.distinct] at found
  generalize Name.qualifier? child.name = qualifier at *
  by_cases xml : qualifier = some Namespace.xmlQualifier
  · simpa [xml] using found
  · rw [if_neg (by simpa using xml)] at found ⊢
    by_cases xmlns : qualifier = some Namespace.xmlnsQualifier
    · -- The bindings in force never bind a reserved qualifier, so the parent finds nothing.
      obtain ⟨b, held, _⟩ := Option.map_eq_some_iff.mp found
      obtain ⟨member, same⟩ := (Namespace.find?_eq_some_iff proper.distinct).mp held
      have free := proper.free b member
      rw [same, xmlns] at free
      cases free
    · have free : Namespace.isReserved qualifier = false := by simp [Namespace.isReserved, xml, xmlns]
      rw [if_neg (by simpa using xmlns), spelled.scope,
        Namespace.find?_foldl_extend free spelled.distinct.declarations, declared]
      exact found

/-- Putting an element below another resolves its name as the other would, but for `xml`, which only looking
up knows without a declaration. -/
theorem agreesBesideXml_rescope (apart : (parent.scope.map (·.qualifier)).Nodup) (e : Element) :
    AgreesBesideXml parent (e.rescope parent.scope) := by
  intro other undeclared uri found
  rw [lookup?, if_neg (by simpa using other), Namespace.find?_reverse apart] at found
  obtain ⟨b, held, bound⟩ := Option.map_eq_some_iff.mp found
  have named : b.qualifier = Name.qualifier? e.name := by
    have same := List.find?_some held
    exact beq_iff_eq.mp same
  have kept : (parent.scope.filter fun b => !e.declarations.any (·.qualifier == b.qualifier)).find?
      (·.qualifier == Name.qualifier? e.name) = some b := by
    rw [Namespace.find?_eq_some_iff (apart.sublist (List.filter_sublist.map _)), List.mem_filter]
    refine ⟨⟨List.mem_of_find?_eq_some held, ?_⟩, named⟩
    rw [Bool.not_eq_true', List.any_eq_false]
    intro d member
    rw [named, beq_iff_eq]
    exact undeclared d member
  have uri : (e.rescope parent.scope).uri = some b.uri := by
    rw [rescope, List.find?_append, kept]
    rfl
  rw [uri, bound]

end Element

namespace Node

mutual

/-- Whether a relation holds between each element of a tree and its children. What elements declare and what
is in force at them is distinct. -/
def Aligned (R : Element → Element → Prop) : Node → Prop
  | ⟨element, children⟩ =>
    element.Distinct ∧ (element.scope.map (·.qualifier)).Nodup ∧ AlignedBelow R element children

def AlignedBelow (R : Element → Element → Prop) (parent : Element) : List Node → Prop
  | [] => True
  | child :: others => R parent child.element ∧ child.Aligned R ∧ AlignedBelow R parent others

end

variable {R : Element → Element → Prop}

theorem AlignedBelow.of_mem {parent : Element} {child : Node} {children : List Node}
    (aligned : AlignedBelow R parent children) (member : child ∈ children) :
    R parent child.element ∧ child.Aligned R := by
  induction children with
  | nil => cases member
  | cons first others ih =>
    obtain ⟨related, inner, further⟩ := aligned
    rcases List.mem_cons.mp member with rfl | later
    · exact ⟨related, inner⟩
    · exact ih further later

theorem alignedBelow_append {parent : Element} (first second : List Node) :
    AlignedBelow R parent (first ++ second) ↔
      AlignedBelow R parent first ∧ AlignedBelow R parent second := by
  induction first with
  | nil => simp [AlignedBelow]
  | cons child others ih => simp [AlignedBelow, ih, and_assoc]

/-- Only the bindings of a parent matter. -/
theorem alignedBelow_congr {first second : Element} (same : ∀ child, R first child → R second child)
    {children : List Node} (aligned : AlignedBelow R first children) :
    AlignedBelow R second children := by
  induction children with
  | nil => trivial
  | cons child others ih => exact ⟨same _ aligned.1, aligned.2.1, ih aligned.2.2⟩

mutual

/-- Putting a tree below bindings aligns it anew. -/
theorem aligned_rescope {around : List Binding} (apart : (around.map (·.qualifier)).Nodup) :
    (n : Node) → n.Aligned R → (n.rescope around).Aligned Element.AgreesBesideXml
  | ⟨_, children⟩, ⟨distinct, _, below⟩ =>
    ⟨distinct.rescope around, Element.nodup_scope_rescope distinct apart,
      alignedBelow_rescopeAll (Element.nodup_scope_rescope distinct apart) children below⟩

theorem alignedBelow_rescopeAll {before parent : Element}
    (apart : (parent.scope.map (·.qualifier)).Nodup) :
    (ns : List Node) → AlignedBelow R before ns →
      AlignedBelow Element.AgreesBesideXml parent (rescopeAll parent.scope ns)
  | [], _ => trivial
  | ⟨element, children⟩ :: others, ⟨_, inner, further⟩ =>
    ⟨Element.agreesBesideXml_rescope apart element, aligned_rescope apart ⟨element, children⟩ inner,
      alignedBelow_rescopeAll apart others further⟩

end

mutual

/-- What is read from markup is aligned. -/
theorem aligned_of_spelled (implied : ∀ parent child, Element.Agrees parent child → R parent child)
    {around : List Binding} (proper : Namespace.Proper around) :
    (n : Node) → n.Spelled around → n.Aligned R
  | ⟨element, children⟩, ⟨head, below⟩ => by
    have inner : Namespace.Proper element.scope := by
      rw [head.scope]
      exact proper.foldl_extend element.declarations
    exact ⟨head.distinct, inner.distinct, alignedBelow_of_spelled implied inner children below⟩

theorem alignedBelow_of_spelled
    (implied : ∀ parent child, Element.Agrees parent child → R parent child) {parent : Element}
    (proper : Namespace.Proper parent.scope) :
    (ns : List Node) → SpelledAll parent.scope ns → AlignedBelow R parent ns
  | [], _ => trivial
  | ⟨element, children⟩ :: others, ⟨first, rest⟩ =>
    ⟨implied _ _ (first.1.agrees proper), aligned_of_spelled implied proper ⟨element, children⟩ first,
      alignedBelow_of_spelled implied proper others rest⟩

end

/-- The trees that there are: loaded or made by hand, also from loaded ones and from parts of others. -/
inductive Given : Node → Prop
  | loaded {markup : Text} {document : Document} (read : Document.ofText markup = .ok document) :
    Given document.root
  | ofName (name : Text) : Given (Node.ofName name)
  | withText {n : Node} (given : Given n) (text : Text) : Given (n.withText text)
  | withAttribute {n : Node} (given : Given n) (name value : Text) : Given (n.withAttribute name value)
  | withChild {n child : Node} (given : Given n) (inner : Given child) : Given (n.withChild child)
  | withNamespace {n : Node} (given : Given n) (qualifier : Option Text) (uri : Text) :
    Given (n.withNamespace qualifier uri)
  | child {n child : Node} (given : Given n) (member : child ∈ n.children) : Given child

theorem aligned_of_loaded (implied : ∀ parent child, Element.Agrees parent child → R parent child)
    {markup : Text} {document : Document} (read : Document.ofText markup = .ok document) :
    document.root.Aligned R :=
  aligned_of_spelled implied Namespace.proper_nil _
    (spelled_of_parse (Document.ofText_eq_ok_iff_parse.mp read).2)

theorem Given.aligned {n : Node} (given : n.Given) : n.Aligned Element.AgreesBesideXml := by
  induction given with
  | loaded read => exact aligned_of_loaded (fun _ _ agrees => agrees.besideXml) read
  | ofName name => exact ⟨⟨List.nodup_nil, List.nodup_nil⟩, List.nodup_nil, trivial⟩
  | @withText n _ text ih =>
    obtain ⟨element, children⟩ := n
    obtain ⟨distinct, apart, below⟩ := ih
    have same (child : Element) (agrees : element.AgreesBesideXml child) :
        ({ element with text := some text } : Element).AgreesBesideXml child := agrees
    exact ⟨⟨distinct.attributes, distinct.declarations⟩, apart, alignedBelow_congr same below⟩
  | @withAttribute n _ name value ih =>
    obtain ⟨element, children⟩ := n
    obtain ⟨distinct, apart, below⟩ := ih
    have attributes := Element.nodup_setAttribute ⟨name, value⟩ distinct.attributes
    have same (child : Element) (agrees : element.AgreesBesideXml child) :
        ({ element with attributes := Element.setAttribute ⟨name, value⟩ element.attributes } :
          Element).AgreesBesideXml child := agrees
    exact ⟨⟨attributes, distinct.declarations⟩, apart, alignedBelow_congr same below⟩
  | @withChild n child _ _ ih inner =>
    obtain ⟨element, children⟩ := n
    obtain ⟨head, grandchildren⟩ := child
    obtain ⟨distinct, apart, below⟩ := ih
    exact ⟨distinct, apart, (alignedBelow_append _ _).mpr ⟨below,
      Element.agreesBesideXml_rescope apart head, aligned_rescope apart _ inner, trivial⟩⟩
  | @withNamespace n _ qualifier uri ih =>
    obtain ⟨element, children⟩ := n
    obtain ⟨distinct, _, below⟩ := ih
    have declared : ({ element with
        declarations := element.declarations.filter (·.qualifier != qualifier) ++ [⟨qualifier, uri⟩] } :
          Element).Distinct :=
      ⟨distinct.attributes, Element.nodup_declare ⟨qualifier, uri⟩ distinct.declarations⟩
    have alone : (([] : List Binding).map (·.qualifier)).Nodup := List.nodup_nil
    have apart := Element.nodup_scope_rescope declared alone
    exact ⟨declared.rescope [], apart, alignedBelow_rescopeAll apart children below⟩
  | @child n child _ member ih =>
    obtain ⟨element, children⟩ := n
    exact (ih.2.2.of_mem member).2

end Node

namespace Place

/-- Going down keeps to what holds between the elements of the tree and their children. -/
theorem related_of_descend? {R : Element → Element → Prop} {address : List Nat} {start p child : Place}
    (aligned : start.node.Aligned R) (reached : start.descend? address = some p)
    (inside : child ∈ p.children) : R p.element child.element := by
  have below {q c : Place} (whole : q.node.Aligned R) (member : c ∈ q.children) :
      R q.element c.element ∧ c.node.Aligned R := by
    have node : c.node ∈ q.node.children := by
      rw [← map_node_children]
      exact List.mem_map_of_mem member
    obtain ⟨address, element, children⟩ := q
    exact whole.2.2.of_mem node
  induction address generalizing start with
  | nil =>
    cases reached
    exact (below aligned inside).1
  | cons i rest ih =>
    rw [descend?] at reached
    split at reached
    · cases reached
    · rename_i next found
      exact ih (below aligned (List.mem_of_getElem? found)).2 reached

theorem mem_childrenMatching {p child : Place} {s : Segment} (inside : child ∈ p.children) :
    child ∈ p.childrenMatching s ↔ s.matchesChild p.element child.element = true := by
  rw [childrenMatching, List.mem_filter, and_iff_right inside]

end Place

namespace Resolver

/-- Every child that does not declare the qualifier of its name, where the name has one, is among the children
that are looked for under its name, at every place of every tree, unless its qualifier is `xml`. With this
qualifier it is among them exactly if it is in the namespace that the qualifier always stands for, as it is
wherever the tree was loaded. -/
theorem children_name (r : Resolver) (cache : Option PathCache) {root : Node} (given : root.Given)
    {address : List Nat} {p child : Place}
    (reached : (Place.ofRoot root).descend? address = some p) (inside : child ∈ p.children)
    (undeclared : ∀ qualifier, Name.qualifier? child.element.name = some qualifier →
      ∀ b ∈ child.element.declarations, b.qualifier ≠ some qualifier) :
    ∃ found, answer (r.children child.element.name (.place p)) cache = .ok found ∧
      (child ∈ found ↔
        ∀ localPart, Segment.parse child.element.name = .qualified Namespace.xmlQualifier localPart →
          child.element.uri = some Namespace.xmlUri) ∧
      (∀ markup document, Document.ofText markup = .ok document → document.root = root →
        child ∈ found) := by
  refine ⟨p.childrenMatching (Segment.parse child.element.name), rfl, ?_, ?_⟩
  · rw [Place.mem_childrenMatching inside, Segment.matchesChild_parse]
    constructor
    · intro found localPart read
      exact found _ localPart read _ rfl
    · intro fixed qualifier localPart read uri bound
      have named := Segment.qualifier?_of_parse read
      by_cases xml : qualifier = Namespace.xmlQualifier
      · subst xml
        cases bound
        exact fixed localPart read
      · have agrees := Place.related_of_descend? given.aligned reached inside
        rw [Element.AgreesBesideXml, Element.Agrees, named] at agrees
        exact agrees (fun same => xml (Option.some.inj same)) (undeclared qualifier named) uri bound
  · rintro markup document read rfl
    rw [Place.mem_childrenMatching inside, Segment.matchesChild_parse]
    intro qualifier localPart two uri bound
    have named := Segment.qualifier?_of_parse two
    have aligned := Node.aligned_of_loaded (fun _ _ => id) read
    have agrees := Place.related_of_descend? aligned reached inside
    rw [Element.Agrees, named] at agrees
    exact agrees (undeclared qualifier named) uri bound

/-- A child whose qualifier is bound at its parent, and one without a qualifier that declares a default
namespace. -/
theorem children_name_of_bound :
    let root := (((Node.ofName ['r']).withNamespace (some ['p']) ['u']).withChild
      (Node.ofName ['p', ':', 'a'])).withChild ((Node.ofName ['b']).withNamespace none ['v'])
    let r : Resolver := ⟨Place.ofRoot root, .default⟩
    (∃ child found, child ∈ (Place.ofRoot root).children ∧ child.element.name = ['p', ':', 'a'] ∧
      answer (r.children ['p', ':', 'a'] (.place (Place.ofRoot root))) none = .ok found ∧
      child ∈ found) ∧
    ∃ child found, child ∈ (Place.ofRoot root).children ∧ child.element.name = ['b'] ∧
      child.element.declarations = [⟨none, ['v']⟩] ∧
      answer (r.children ['b'] (.place (Place.ofRoot root))) none = .ok found ∧ child ∈ found := by
  intro root r
  have given : root.Given :=
    .withChild (.withChild (.withNamespace (.ofName _) _ _) (.ofName _)) (.withNamespace (.ofName _) _ _)
  have first : (⟨[0], ⟨⟨['p', ':', 'a'], some ['u'], [], [⟨some ['p'], ['u']⟩], [], none⟩, []⟩⟩ : Place) ∈
      (Place.ofRoot root).children := by decide
  have second : (⟨[1], ⟨⟨['b'], some ['v'], [⟨none, ['v']⟩], [⟨some ['p'], ['u']⟩, ⟨none, ['v']⟩], [], none⟩,
      []⟩⟩ : Place) ∈ (Place.ofRoot root).children := by decide
  have reached : (Place.ofRoot root).descend? [] = some (Place.ofRoot root) := rfl
  obtain ⟨found, answered, member, _⟩ := children_name r none given reached first (fun _ _ => nofun)
  obtain ⟨others, answer, inside, _⟩ := children_name r none given reached second nofun
  exact ⟨⟨_, found, first, rfl, answered, member.mpr fun _ read => by cases read⟩,
    ⟨_, others, second, rfl, rfl, answer, inside.mpr fun _ read => by cases read⟩⟩

/-- In a tree made by hand a child with the qualifier `xml` is not found by its name: no step that puts it
into the tree resolves the qualifier, and looking up does. -/
theorem children_misses_xml :
    let root := (Node.ofName ['a']).withChild (Node.ofName "xml:b".toList)
    let r : Resolver := ⟨Place.ofRoot root, .default⟩
    root.Made ∧ (Place.ofRoot root).children = [⟨[0], Node.ofName "xml:b".toList⟩] ∧
      (Node.ofName "xml:b".toList).element.declarations = [] ∧
      answer (r.children "xml:b".toList (.place (Place.ofRoot root))) none = .ok [] :=
  ⟨.withChild (.ofName _) (.ofName _), rfl, rfl, by decide +kernel⟩

end Resolver

end MarkupQuery
