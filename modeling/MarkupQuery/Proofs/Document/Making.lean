import MarkupQuery.Node
import MarkupQuery.Proofs.Document.Scope
import Mathlib.Data.List.Nodup

/-!
Trees made by hand. Every step that makes one puts what it adds below the bindings around it, so the
bindings of a whole tree are up to date after each step. Main statements: putting a made tree below no
bindings changes nothing (`Node.Made.rescope_nil`), the attributes and the declarations of each element
are distinct (`Node.Made.distinct`), and putting an element below bindings is declaring one binding after
another (`Element.scope_rescope`).
-/
namespace MarkupQuery

namespace Element

/-- No attribute and no declaration of the element takes the place of another. -/
structure Distinct (e : Element) : Prop where
  attributes : (e.attributes.map (·.name)).Nodup
  declarations : (e.declarations.map (·.qualifier)).Nodup

theorem map_name_setAttribute (a : Attribute) (attributes : List Attribute) :
    (setAttribute a attributes).map (·.name) =
      if a.name ∈ attributes.map (·.name) then attributes.map (·.name)
      else attributes.map (·.name) ++ [a.name] := by
  induction attributes with
  | nil => simp [setAttribute]
  | cons b others ih =>
    rw [setAttribute]
    by_cases same : b.name = a.name
    · simp [same]
    · have other : a.name ≠ b.name := Ne.symm same
      rw [if_neg (by simpa using same), List.map_cons, ih]
      by_cases later : a.name ∈ others.map (·.name)
      · rw [if_pos later, if_pos (by simp [List.mem_cons, later])]
        rfl
      · rw [if_neg later, if_neg (by simpa [other] using later)]
        rfl

theorem nodup_setAttribute {attributes : List Attribute} (a : Attribute)
    (distinct : (attributes.map (·.name)).Nodup) :
    ((setAttribute a attributes).map (·.name)).Nodup := by
  rw [map_name_setAttribute]
  split
  · exact distinct
  · rename_i fresh
    rw [← List.concat_eq_append]
    exact distinct.concat fresh

/-- A declaration that takes the place of an earlier one is the only one of its qualifier. -/
theorem nodup_declare {declarations : List Binding} (b : Binding)
    (distinct : (declarations.map (·.qualifier)).Nodup) :
    ((declarations.filter (·.qualifier != b.qualifier) ++ [b]).map (·.qualifier)).Nodup := by
  have kept : ((declarations.filter (·.qualifier != b.qualifier)).map (·.qualifier)).Nodup :=
    distinct.sublist (List.filter_sublist.map _)
  rw [List.map_append, List.map_singleton, ← List.concat_eq_append]
  refine kept.concat ?_
  intro member
  obtain ⟨c, inside, same⟩ := List.mem_map.mp member
  simp [same] at inside

/-- What is written on an element stays when it is put below other bindings. -/
theorem rescope_rescope (first second : List Binding) (e : Element) :
    (e.rescope first).rescope second = e.rescope second := rfl

theorem Distinct.rescope {e : Element} (distinct : e.Distinct) (around : List Binding) :
    (e.rescope around).Distinct :=
  ⟨distinct.attributes, distinct.declarations⟩

/-- What an element declares does not get into the way of what it keeps. -/
theorem nodup_scope_rescope {e : Element} {around : List Binding} (distinct : e.Distinct)
    (apart : (around.map (·.qualifier)).Nodup) :
    ((e.rescope around).scope.map (·.qualifier)).Nodup := by
  rw [rescope, List.map_append, List.nodup_append]
  refine ⟨apart.sublist (List.filter_sublist.map _),
    distinct.declarations.sublist (List.filter_sublist.map _), ?_⟩
  rintro first kept second declared rfl
  obtain ⟨b, inside, same⟩ := List.mem_map.mp kept
  obtain ⟨d, written, equal⟩ := List.mem_map.mp declared
  have other := (List.mem_filter.mp inside).2
  have taken : e.declarations.any (·.qualifier == b.qualifier) = true :=
    List.any_eq_true.mpr ⟨d, (List.mem_filter.mp written).1, by simp [same, equal]⟩
  rw [taken] at other
  cases other

end Element

namespace Namespace

/-- Declarations one after another, each of another qualifier, leave those bindings that they do not
declare anew and come after them. -/
theorem foldl_extend_eq {declarations : List Binding}
    (distinct : (declarations.map (·.qualifier)).Nodup)
    (free : ∀ b ∈ declarations, isReserved b.qualifier = false) (around : List Binding) :
    declarations.foldl extend around =
      around.filter (fun b => !declarations.any (·.qualifier == b.qualifier)) ++
        declarations.filter (!·.uri.isEmpty) := by
  induction declarations generalizing around with
  | nil => simp
  | cons b others ih =>
    rw [List.map_cons, List.nodup_cons] at distinct
    have later := ih distinct.2 (fun c member => free c (by simp [member])) (extend around b)
    -- What `b` binds outlives the later declarations, as none of them has its qualifier.
    have passed : others.any (·.qualifier == b.qualifier) = false := by
      rw [List.any_eq_false]
      intro c member same
      exact distinct.1 (List.mem_map.mpr ⟨c, member, by simpa using same⟩)
    have kept : (around.filter (·.qualifier != b.qualifier)).filter
          (fun c => !others.any (·.qualifier == c.qualifier)) =
        around.filter (fun c => !(b :: others).any (·.qualifier == c.qualifier)) := by
      rw [List.filter_filter]
      congr 1
      funext c
      rw [List.any_cons, Bool.not_or, Bool.and_comm, bne_comm]
      rfl
    rw [List.foldl_cons, later, extend, if_neg (by simp [free b (by simp)]), Scopes.override,
      List.filter_append, kept, List.append_assoc]
    congr 1
    cases empty : b.uri.isEmpty <;> simp [empty, passed]

end Namespace

namespace Element

/-- Below given bindings the declarations of an element are in force one after another. -/
theorem scope_rescope {e : Element} (distinct : e.Distinct)
    (free : ∀ b ∈ e.declarations, Namespace.isReserved b.qualifier = false) (around : List Binding) :
    (e.rescope around).scope = e.declarations.foldl Namespace.extend around := by
  rw [Namespace.foldl_extend_eq distinct.declarations free]
  rfl

/-- Below given bindings the name of an element stands for what they say. -/
theorem uri_rescope {e : Element} (free : Namespace.isReserved (Name.qualifier? e.name) = false)
    (around : List Binding) :
    (e.rescope around).uri =
      Namespace.lookup (e.rescope around).scope (Name.qualifier? e.name) := by
  rw [Namespace.isReserved, Bool.or_eq_false_iff] at free
  rw [Namespace.lookup, free.1, free.2]
  rfl

end Element

namespace Node

mutual

/-- Whether every element of a tree has a property. -/
def Every (P : Element → Prop) : Node → Prop
  | ⟨element, children⟩ => P element ∧ EveryOf P children

/-- Whether every element of every tree of a list has a property. -/
def EveryOf (P : Element → Prop) : List Node → Prop
  | [] => True
  | child :: others => child.Every P ∧ EveryOf P others

end

mutual

def decEvery (P : Element → Prop) [DecidablePred P] : (n : Node) → Decidable (n.Every P)
  | ⟨element, children⟩ =>
    have := decEveryOf P children
    inferInstanceAs (Decidable (P element ∧ EveryOf P children))

def decEveryOf (P : Element → Prop) [DecidablePred P] : (ns : List Node) → Decidable (EveryOf P ns)
  | [] => inferInstanceAs (Decidable True)
  | child :: others =>
    have := decEvery P child
    have := decEveryOf P others
    inferInstanceAs (Decidable (child.Every P ∧ EveryOf P others))

end

instance (P : Element → Prop) [DecidablePred P] (n : Node) : Decidable (n.Every P) := decEvery P n

variable {P : Element → Prop}

theorem everyOf_append (first second : List Node) :
    EveryOf P (first ++ second) ↔ EveryOf P first ∧ EveryOf P second := by
  induction first with
  | nil => simp [EveryOf]
  | cons child others ih => simp [EveryOf, ih, and_assoc]

mutual

/-- A property that bindings play no part in stays when a tree is put below other bindings. -/
theorem every_rescope (stays : ∀ e inherited, P e → P (e.rescope inherited))
    (inherited : List Binding) : (n : Node) → n.Every P → (n.rescope inherited).Every P
  | ⟨element, children⟩, ⟨head, below⟩ =>
    ⟨stays element inherited head, everyOf_rescopeAll stays _ children below⟩

theorem everyOf_rescopeAll (stays : ∀ e inherited, P e → P (e.rescope inherited))
    (inherited : List Binding) :
    (ns : List Node) → EveryOf P ns → EveryOf P (rescopeAll inherited ns)
  | [], _ => trivial
  | child :: others, ⟨first, rest⟩ =>
    ⟨every_rescope stays inherited child first, everyOf_rescopeAll stays inherited others rest⟩

end

mutual

theorem rescope_rescope (first second : List Binding) :
    (n : Node) → (n.rescope first).rescope second = n.rescope second
  | ⟨element, children⟩ => by
    rw [rescope, rescope, rescope, Element.rescope_rescope, rescopeAll_rescopeAll]

theorem rescopeAll_rescopeAll (first second : List Binding) :
    (ns : List Node) → rescopeAll second (rescopeAll first ns) = rescopeAll second ns
  | [] => rfl
  | child :: others => by
    rw [rescopeAll, rescopeAll, rescopeAll, rescope_rescope, rescopeAll_rescopeAll]

end

theorem rescopeAll_append (inherited : List Binding) (first second : List Node) :
    rescopeAll inherited (first ++ second) =
      rescopeAll inherited first ++ rescopeAll inherited second := by
  induction first with
  | nil => rfl
  | cons child others ih => rw [List.cons_append, rescopeAll, rescopeAll, ih, List.cons_append]

/-- The trees that can be made by hand. -/
inductive Made : Node → Prop
  | ofName (name : Text) : Made (Node.ofName name)
  | withText {n : Node} (made : Made n) (text : Text) : Made (n.withText text)
  | withAttribute {n : Node} (made : Made n) (name value : Text) : Made (n.withAttribute name value)
  | withChild {n child : Node} (made : Made n) (inner : Made child) : Made (n.withChild child)
  | withNamespace {n : Node} (made : Made n) (qualifier : Option Text) (uri : Text) :
      Made (n.withNamespace qualifier uri)

theorem rescope_eq_self_iff {element : Element} {children : List Node} {around : List Binding} :
    (⟨element, children⟩ : Node).rescope around = ⟨element, children⟩ ↔
      element.rescope around = element ∧ rescopeAll element.scope children = children := by
  rw [rescope, Node.mk.injEq]
  constructor
  · rintro ⟨same, below⟩
    rw [same] at below
    exact ⟨same, below⟩
  · rintro ⟨same, below⟩
    rw [same]
    exact ⟨rfl, below⟩

/-- The bindings of a made tree are those that it has on its own. -/
theorem Made.rescope_nil {n : Node} (made : Made n) : n.rescope [] = n := by
  induction made with
  | ofName name => rfl
  | @withText n _ text ih =>
    obtain ⟨element, children⟩ := n
    obtain ⟨same, below⟩ := rescope_eq_self_iff.mp ih
    have head : ({ element with text := some text } : Element).rescope [] =
        { element.rescope [] with text := some text } := rfl
    exact rescope_eq_self_iff.mpr ⟨by rw [head, same], below⟩
  | @withAttribute n _ name value ih =>
    obtain ⟨element, children⟩ := n
    obtain ⟨same, below⟩ := rescope_eq_self_iff.mp ih
    have head : ({ element with
          attributes := Element.setAttribute ⟨name, value⟩ element.attributes } : Element).rescope [] =
        { element.rescope [] with
          attributes := Element.setAttribute ⟨name, value⟩ element.attributes } := rfl
    exact rescope_eq_self_iff.mpr ⟨by rw [head, same], below⟩
  | @withChild n child _ _ ih _ =>
    obtain ⟨element, children⟩ := n
    obtain ⟨same, below⟩ := rescope_eq_self_iff.mp ih
    refine rescope_eq_self_iff.mpr ⟨same, ?_⟩
    rw [rescopeAll_append, below, rescopeAll, rescope_rescope]
    rfl
  | withNamespace => exact rescope_rescope [] [] _

/-- Nothing on a made tree takes the place of something else on the same element. -/
theorem Made.distinct {n : Node} (made : Made n) : n.Every Element.Distinct := by
  have stays (e : Element) (inherited : List Binding) (h : e.Distinct) :
      (e.rescope inherited).Distinct := h.rescope inherited
  induction made with
  | ofName name => exact ⟨⟨List.nodup_nil, List.nodup_nil⟩, trivial⟩
  | @withText n _ text ih =>
    obtain ⟨element, children⟩ := n
    obtain ⟨head, below⟩ := ih
    exact ⟨⟨head.attributes, head.declarations⟩, below⟩
  | @withAttribute n _ name value ih =>
    obtain ⟨element, children⟩ := n
    obtain ⟨head, below⟩ := ih
    exact ⟨⟨Element.nodup_setAttribute ⟨name, value⟩ head.attributes, head.declarations⟩, below⟩
  | @withChild n child _ _ ih inner =>
    obtain ⟨element, children⟩ := n
    obtain ⟨head, below⟩ := ih
    exact ⟨head, (everyOf_append _ _).mpr ⟨below, every_rescope stays _ child inner, trivial⟩⟩
  | @withNamespace n _ qualifier uri ih =>
    obtain ⟨element, children⟩ := n
    obtain ⟨head, below⟩ := ih
    exact every_rescope stays [] _
      ⟨⟨head.attributes, Element.nodup_declare ⟨qualifier, uri⟩ head.declarations⟩, below⟩

end Node

end MarkupQuery
