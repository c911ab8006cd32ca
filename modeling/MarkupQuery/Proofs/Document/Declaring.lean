import MarkupQuery.Document
import MarkupQuery.Proofs.Document.Making
import Mathlib.Data.List.Forall2

/-!
Declaring a namespace on a tree. The bindings of the whole tree are computed anew from what is declared in
it. Main statements: apart from that, only what the declared qualifier stands for changes, and nothing at an
element that declares it anew or inside one (`Node.rebinds_withNamespace`), so on a tree made by hand nothing
else changes (`Node.Made.rebinds_withNamespace`); but a tree with bindings from outside loses these
(`Node.withNamespace_drops_inherited`).
-/
namespace MarkupQuery

/-- What there is to find for a qualifier: the name declared for it, nothing if this is empty. -/
def Binding.found? (b : Binding) : Option Text := if b.uri.isEmpty then none else some b.uri

/-- The bindings of all other qualifiers. -/
def Namespace.apart (qualifier : Option Text) (scope : List Binding) : List Binding :=
  scope.filter (·.qualifier != qualifier)

/-- The bindings of one qualifier. -/
def Namespace.only (qualifier : Option Text) (scope : List Binding) : List Binding :=
  scope.filter (·.qualifier == qualifier)

namespace Element

/-- An element at which the qualifier of a binding comes to stand for what this says, while all else stays. -/
structure Rebinds (b : Binding) (e after : Element) : Prop where
  name : after.name = e.name
  attributes : after.attributes = e.attributes
  text : after.text = e.text
  here : after.lookup? b.qualifier = b.found?
  own : Name.qualifier? e.name = b.qualifier → after.uri = b.found?
  others : ∀ q, q ≠ b.qualifier → after.lookup? q = e.lookup? q
  uri : Name.qualifier? e.name ≠ b.qualifier → after.uri = e.uri

end Element

namespace Namespace

variable {scope after : List Binding} {q qualifier : Option Text} {b : Binding}

theorem find?_eq_head?_only (scope : List Binding) (q : Option Text) :
    scope.find? (·.qualifier == q) = (only q scope).head? := (List.head?_filter ..).symm

theorem find?_reverse_eq_getLast?_only (scope : List Binding) (q : Option Text) :
    scope.reverse.find? (·.qualifier == q) = (only q scope).getLast? := by
  rw [← List.head?_filter, List.filter_reverse, List.head?_reverse]
  rfl

/-- The bindings of a qualifier are among those of all others than another one. -/
theorem only_apart (other : q ≠ qualifier) (scope : List Binding) :
    only q (apart qualifier scope) = only q scope := by
  rw [only, apart, List.filter_filter]
  apply List.filter_congr
  intro c _
  by_cases same : c.qualifier = q
  · simp [same, other]
  · simp [same]

/-- A scope in which the qualifier of a binding stands for what this says, and which is the same otherwise. -/
structure Rebinds (b : Binding) (scope after : List Binding) : Prop where
  here : only b.qualifier after = [b].filter (!·.uri.isEmpty)
  others : apart b.qualifier after = apart b.qualifier scope

/-- A declaration in the place of the earlier ones of its qualifier. -/
theorem rebinds_declared (declarations : List Binding) (b : Binding) :
    Rebinds b (declarations.filter (!·.uri.isEmpty))
      ((Namespace.apart b.qualifier declarations ++ [b]).filter (!·.uri.isEmpty)) where
  others := by
    have last : ([b].filter (!·.uri.isEmpty)).filter (·.qualifier != b.qualifier) = [] := by
      cases empty : b.uri.isEmpty <;> simp [empty]
    rw [Namespace.apart, List.filter_append, List.filter_append, last, List.append_nil]
    simp only [Namespace.apart, List.filter_filter]
    apply List.filter_congr
    intro c _
    cases c.qualifier != b.qualifier <;> simp
  here := by
    have earlier : ((Namespace.apart b.qualifier declarations).filter (!·.uri.isEmpty)).filter
        (·.qualifier == b.qualifier) = [] := by
      simp only [Namespace.apart, List.filter_filter, List.filter_eq_nil_iff]
      intro c _
      by_cases same : c.qualifier = b.qualifier <;> simp [same]
    rw [Namespace.only, List.filter_append, List.filter_append, earlier, List.nil_append]
    cases empty : b.uri.isEmpty <;> simp [empty]

theorem Rebinds.only_eq (rebinds : Rebinds b scope after) (other : q ≠ b.qualifier) :
    Namespace.only q after = Namespace.only q scope := by
  rw [← only_apart other, rebinds.others, only_apart other]

end Namespace

namespace Element

variable {around after : List Binding} {b : Binding} {e changed : Element}

/-- The name of the element stands for what the first binding of its qualifier says. -/
def Resolved (e : Element) : Prop :=
  e.uri = (e.scope.find? (·.qualifier == Name.qualifier? e.name)).map (·.uri)

theorem Rebinds.of_scope (ordinary : b.qualifier ≠ some Namespace.xmlQualifier)
    (scope : Namespace.Rebinds b e.scope changed.scope) (before : e.Resolved)
    (resolved : changed.Resolved) (name : changed.name = e.name)
    (attributes : changed.attributes = e.attributes) (text : changed.text = e.text) :
    e.Rebinds b changed where
  name := name
  attributes := attributes
  text := text
  here := by
    rw [lookup?, if_neg (by simpa using ordinary), Namespace.find?_reverse_eq_getLast?_only, scope.here]
    cases empty : b.uri.isEmpty <;> simp [Binding.found?, empty]
  own := by
    intro same
    rw [resolved, name, same, Namespace.find?_eq_head?_only, scope.here]
    cases empty : b.uri.isEmpty <;> simp [Binding.found?, empty]
  others := by
    intro q other
    simp only [lookup?, Namespace.find?_reverse_eq_getLast?_only, scope.only_eq other]
  uri := by
    intro other
    rw [resolved, before, name, Namespace.find?_eq_head?_only, Namespace.find?_eq_head?_only,
      scope.only_eq other]

theorem resolved_rescope (around : List Binding) (e : Element) : (e.rescope around).Resolved := rfl

/-- The scope of an element is what is left of the scope around it, and its own declarations. -/
theorem filter_scope_rescope (wanted : Binding → Bool) (around : List Binding) (e : Element) :
    (e.rescope around).scope.filter wanted =
      (around.filter wanted).filter (fun c => !e.declarations.any (·.qualifier == c.qualifier)) ++
        (e.declarations.filter (!·.uri.isEmpty)).filter wanted := by
  have scope : (e.rescope around).scope =
      around.filter (fun c => !e.declarations.any (·.qualifier == c.qualifier)) ++
        e.declarations.filter (!·.uri.isEmpty) := rfl
  rw [scope, List.filter_append, List.filter_comm]

/-- What a qualifier stands for around an element reaches into it, unless the element declares it anew. -/
theorem rebinds_scope_rescope (rebinds : Namespace.Rebinds b around after)
    (free : ∀ c ∈ e.declarations, c.qualifier ≠ b.qualifier) :
    Namespace.Rebinds b (e.rescope around).scope (e.rescope after).scope where
  others := by
    have outside := rebinds.others
    simp only [Namespace.apart] at outside ⊢
    rw [filter_scope_rescope, filter_scope_rescope, outside]
  here := by
    have outside := rebinds.here
    have passed : e.declarations.any (·.qualifier == b.qualifier) = false := by simpa using free
    have none : (e.declarations.filter (!·.uri.isEmpty)).filter (·.qualifier == b.qualifier) = [] := by
      simp only [List.filter_filter, List.filter_eq_nil_iff]
      intro c member
      simp [free c member]
    rw [Namespace.only] at outside ⊢
    rw [filter_scope_rescope, outside, none, List.append_nil]
    cases empty : b.uri.isEmpty <;> simp [empty, passed]

/-- An element that declares the qualifier anew does not see what it stands for around it. -/
theorem rescope_of_declares (rebinds : Namespace.Rebinds b around after)
    (again : ∃ c ∈ e.declarations, c.qualifier = b.qualifier) : e.rescope after = e.rescope around := by
  have left (scope : List Binding) :
      scope.filter (fun c => !e.declarations.any (·.qualifier == c.qualifier)) =
        (Namespace.apart b.qualifier scope).filter
          (fun c => !e.declarations.any (·.qualifier == c.qualifier)) := by
    rw [Namespace.apart, List.filter_filter]
    apply List.filter_congr
    intro c _
    by_cases same : c.qualifier = b.qualifier
    · simpa [same] using again
    · simp [same]
  rw [rescope, rescope, left after, left around, rebinds.others]

end Element

namespace Node

/-- A tree in which the qualifier of a binding comes to stand for what this says, down to the elements that
declare it anew, while all else stays. -/
inductive Rebinds (b : Binding) : Node → Node → Prop
  | shadowed {n : Node} (again : ∃ c ∈ n.element.declarations, c.qualifier = b.qualifier) : Rebinds b n n
  | reached {n after : Node} (element : n.element.Rebinds b after.element)
      (declarations : after.element.declarations = n.element.declarations)
      (children : List.Forall₂ (Rebinds b) n.children after.children) : Rebinds b n after

variable {b : Binding}

mutual

theorem rebinds_rescope (ordinary : b.qualifier ≠ some Namespace.xmlQualifier)
    {around after : List Binding} (rebinds : Namespace.Rebinds b around after) :
    (n : Node) → Rebinds b (n.rescope around) (n.rescope after)
  | ⟨e, children⟩ => by
    by_cases again : ∃ c ∈ e.declarations, c.qualifier = b.qualifier
    · rw [rescope, rescope, Element.rescope_of_declares rebinds again]
      exact .shadowed again
    · have scope := Element.rebinds_scope_rescope rebinds (e := e) (by simpa using again)
      refine .reached ?_ rfl (rebinds_rescopeAll ordinary scope children)
      exact .of_scope ordinary scope (e.resolved_rescope around) (e.resolved_rescope after) rfl rfl rfl

theorem rebinds_rescopeAll (ordinary : b.qualifier ≠ some Namespace.xmlQualifier)
    {around after : List Binding} (rebinds : Namespace.Rebinds b around after) :
    (ns : List Node) → List.Forall₂ (Rebinds b) (rescopeAll around ns) (rescopeAll after ns)
  | [] => .nil
  | child :: others =>
    .cons (rebinds_rescope ordinary rebinds child) (rebinds_rescopeAll ordinary rebinds others)

end

/-- Apart from computing the bindings anew from what is declared in the tree, a declaration changes what its
qualifier stands for and nothing else. -/
theorem rebinds_withNamespace (n : Node) {qualifier : Option Text}
    (ordinary : qualifier ≠ some Namespace.xmlQualifier) (uri : Text) :
    (n.rescope []).element.Rebinds ⟨qualifier, uri⟩ (n.withNamespace qualifier uri).element ∧
      (n.withNamespace qualifier uri).element.declarations =
        Namespace.apart qualifier n.element.declarations ++ [⟨qualifier, uri⟩] ∧
      List.Forall₂ (Rebinds ⟨qualifier, uri⟩) (n.rescope []).children
        (n.withNamespace qualifier uri).children := by
  obtain ⟨e, children⟩ := n
  have scope : Namespace.Rebinds ⟨qualifier, uri⟩ (e.rescope []).scope
      ((⟨e, children⟩ : Node).withNamespace qualifier uri).element.scope :=
    Namespace.rebinds_declared e.declarations ⟨qualifier, uri⟩
  refine ⟨?_, rfl, rebinds_rescopeAll ordinary scope children⟩
  exact .of_scope ordinary scope (e.resolved_rescope []) rfl rfl rfl rfl

/-- On a tree made by hand a declaration changes what its qualifier stands for and nothing else. -/
theorem Made.rebinds_withNamespace {n : Node} (made : n.Made) {qualifier : Option Text}
    (ordinary : qualifier ≠ some Namespace.xmlQualifier) (uri : Text) :
    n.element.Rebinds ⟨qualifier, uri⟩ (n.withNamespace qualifier uri).element ∧
      List.Forall₂ (Rebinds ⟨qualifier, uri⟩) n.children (n.withNamespace qualifier uri).children := by
  obtain ⟨element, _, children⟩ := Node.rebinds_withNamespace n ordinary uri
  rw [made.rescope_nil] at element children
  exact ⟨element, children⟩

/-- The root of a fragment has bindings from the elements around it, and a name with the qualifier `xml` needs
no declaration. Neither outlives a declaration of another qualifier. -/
theorem withNamespace_drops_inherited :
    (∃ n, Node.load [] [⟨some ['x'], ['u']⟩] "<x:a/>".toList = .ok n ∧
      n.element.lookup? (some ['x']) = some ['u'] ∧ n.element.uri = some ['u'] ∧
      (n.withNamespace (some ['y']) ['v']).element.lookup? (some ['x']) = none ∧
      (n.withNamespace (some ['y']) ['v']).element.uri = none) ∧
    ∃ n, Node.load [] [] "<xml:a/>".toList = .ok n ∧ n.element.uri = some Namespace.xmlUri ∧
      (n.withNamespace (some ['y']) ['v']).element.uri = none := by
  constructor
  · refine ⟨⟨⟨"x:a".toList, some ['u'], [], [⟨some ['x'], ['u']⟩], [], none⟩, []⟩, ?_, ?_, ?_, ?_, ?_⟩
    · decide +kernel
    · decide
    · decide
    · decide
    · decide
  · refine ⟨⟨⟨"xml:a".toList, some Namespace.xmlUri, [], [], [], none⟩, []⟩, ?_, ?_, ?_⟩
    · decide +kernel
    · decide
    · decide

end Node

end MarkupQuery
