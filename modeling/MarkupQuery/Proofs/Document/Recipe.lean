import MarkupQuery.Proofs.Distinct
import MarkupQuery.Proofs.Document.Lookup

/-!
Trees made by hand, by the calls that make them. Bindings are kept at every element and computed anew by the
calls that change them, so a call could leave some of them as they were. Main statements: the tree depends only
on what the calls of each kind say, not on how calls of different kinds follow one another
(`Node.Recipe.tree_eq`), and everywhere in it the bindings follow from the declarations
(`Node.Recipe.tree_orderly`).
-/
namespace MarkupQuery

namespace Element

/-- The bindings around an element, those in force at the innermost of the elements around it. Around a root
there are none. -/
def around (above : List Element) : List Binding := above.head?.elim [] (·.scope)

/-- How the bindings at an element follow from those around it and from its declarations, and the namespace of
the element from its bindings. -/
structure Placed (above : List Element) (e : Element) : Prop where
  scope : e.scope =
    (around above).filter (fun b => b.qualifier ∉ e.declarations.map (·.qualifier)) ++
      e.declarations.filter (fun b => b.uri ≠ [])
  distinct : (e.scope.map (·.qualifier)).Nodup
  uri : ∀ uri, e.uri = some uri ↔ ⟨Name.qualifier? e.name, uri⟩ ∈ e.scope

/-- The declarations after another one, which takes the place of an earlier one of its qualifier. -/
def redeclare (declarations : List Binding) (b : Binding) : List Binding :=
  declarations.filter (·.qualifier != b.qualifier) ++ [b]

variable {e : Element} {above : List Element}

theorem placed_of_rescope (same : e.rescope (around above) = e) (distinct : e.Distinct)
    (apart : ((around above).map (·.qualifier)).Nodup) : e.Placed above := by
  have single : (e.scope.map (·.qualifier)).Nodup := by
    rw [← same]
    exact nodup_scope_rescope distinct apart
  have scope : (e.rescope (around above)).scope =
      (around above).filter (fun b => !e.declarations.any (·.qualifier == b.qualifier)) ++
        e.declarations.filter (!·.uri.isEmpty) := rfl
  have named : (e.rescope (around above)).uri =
      ((e.rescope (around above)).scope.find? (·.qualifier == Name.qualifier? e.name)).map (·.uri) := rfl
  rw [same] at scope named
  refine ⟨?_, single, fun uri => ?_⟩
  · have kept : (around above).filter (fun b => !e.declarations.any (·.qualifier == b.qualifier)) =
        (around above).filter (fun b => b.qualifier ∉ e.declarations.map (·.qualifier)) := by
      apply List.filter_congr
      intro b _
      rw [Bool.eq_iff_iff]
      simp
    have bound : e.declarations.filter (!·.uri.isEmpty) = e.declarations.filter (fun b => b.uri ≠ []) := by
      apply List.filter_congr
      intro b _
      cases b.uri <;> rfl
    rw [← kept, ← bound]
    exact scope
  · rw [named, Option.map_eq_some_iff]
    constructor
    · rintro ⟨b, found, rfl⟩
      obtain ⟨member, qualifier⟩ := (Namespace.find?_eq_some_iff single).mp found
      rw [← qualifier]
      exact member
    · intro member
      exact ⟨_, (Namespace.find?_eq_some_iff single).mpr ⟨member, rfl⟩, rfl⟩

/-- An attribute that is set again keeps its place. -/
theorem names_foldl_setAttribute (attributes : List Attribute) :
    (attributes.foldl (fun set a => setAttribute a set) []).map (·.name) =
      (attributes.map (·.name)).eraseDups := by
  induction attributes using List.reverseRecOn with
  | nil => rfl
  | append_singleton earlier a ih =>
    rw [List.foldl_concat, map_name_setAttribute, ih, List.map_append, List.map_singleton, eraseDups_concat]
    simp only [List.mem_eraseDups]

end Element

namespace Node

mutual

/-- In a tree that has the bindings it would be given anew, these are in place at every element. -/
theorem placed_of_mem_lineages {above : List Element}
    (apart : ((Element.around above).map (·.qualifier)).Nodup) :
    (n : Node) → n.rescope (Element.around above) = n → n.Every Element.Distinct →
      ∀ x ∈ n.lineages above, x.2.Placed x.1
  | ⟨e, children⟩, same, ⟨head, below⟩ => by
    obtain ⟨here, inside⟩ := rescope_eq_self_iff.mp same
    have placed := Element.placed_of_rescope here head apart
    rw [lineages]
    exact List.forall_mem_cons.mpr
      ⟨placed, @placed_of_mem_lineagesAll (e :: above) placed.distinct children inside below⟩

theorem placed_of_mem_lineagesAll {above : List Element}
    (apart : ((Element.around above).map (·.qualifier)).Nodup) :
    (ns : List Node) → rescopeAll (Element.around above) ns = ns → EveryOf Element.Distinct ns →
      ∀ x ∈ lineagesAll above ns, x.2.Placed x.1
  | [], _, _ => nofun
  | child :: others, same, ⟨first, rest⟩ => by
    rw [rescopeAll, List.cons.injEq] at same
    rw [lineagesAll]
    exact List.forall_mem_append.mpr
      ⟨placed_of_mem_lineages apart child same.1 first,
        placed_of_mem_lineagesAll apart others same.2 rest⟩

end

mutual

/-- What holds of every element of a tree holds wherever it stands. -/
theorem of_mem_lineages {P : Element → Prop} {above : List Element} :
    (n : Node) → n.Every P → ∀ x ∈ n.lineages above, P x.2
  | ⟨e, children⟩, ⟨head, below⟩ => by
    rw [lineages]
    exact List.forall_mem_cons.mpr ⟨head, of_mem_lineagesAll children below⟩

theorem of_mem_lineagesAll {P : Element → Prop} {above : List Element} :
    (ns : List Node) → EveryOf P ns → ∀ x ∈ lineagesAll above ns, P x.2
  | [], _ => nofun
  | child :: others, ⟨first, rest⟩ => by
    rw [lineagesAll]
    exact List.forall_mem_append.mpr ⟨of_mem_lineages child first, of_mem_lineagesAll others rest⟩

end

/-- A child is put below the bindings of its parent, whether they come before it or after. -/
theorem withNamespace_withChild (n child : Node) (qualifier : Option Text) (uri : Text) :
    (n.withChild child).withNamespace qualifier uri = (n.withNamespace qualifier uri).withChild child := by
  obtain ⟨e, children⟩ := n
  rw [withNamespace, withChild, rescope, rescopeAll_append, rescopeAll, rescope_rescope]
  rfl

/-- The calls that make a tree, each on the tree that the calls before it made. -/
inductive Recipe
  | ofName (name : Text)
  | withText (r : Recipe) (text : Text)
  | withAttribute (r : Recipe) (name value : Text)
  | withChild (r inner : Recipe)
  | withNamespace (r : Recipe) (qualifier : Option Text) (uri : Text)
  deriving DecidableEq, Repr

/-- What calls on a tree say, for each kind of call in the order of the calls. -/
structure Parts where
  name : Text
  texts : List Text
  attributes : List Attribute
  declarations : List Binding
  children : List Node
  deriving DecidableEq, Repr

/-- The tree of its parts. The last text counts, and a later declaration or attribute takes the place of an
earlier one. -/
def Parts.tree (p : Parts) : Node :=
  rescope [] ⟨⟨p.name, none, p.declarations.foldl Element.redeclare [], [],
    p.attributes.foldl (fun set a => Element.setAttribute a set) [], p.texts.getLast?⟩, p.children⟩

namespace Recipe

def tree : Recipe → Node
  | ofName name => Node.ofName name
  | withText r text => r.tree.withText text
  | withAttribute r name value => r.tree.withAttribute name value
  | withChild r inner => r.tree.withChild inner.tree
  | withNamespace r qualifier uri => r.tree.withNamespace qualifier uri

def parts : Recipe → Parts
  | ofName name => ⟨name, [], [], [], []⟩
  | withText r text => { r.parts with texts := r.parts.texts ++ [text] }
  | withAttribute r name value => { r.parts with attributes := r.parts.attributes ++ [⟨name, value⟩] }
  | withChild r inner => { r.parts with children := r.parts.children ++ [inner.tree] }
  | withNamespace r qualifier uri => { r.parts with declarations := r.parts.declarations ++ [⟨qualifier, uri⟩] }

/-- Induction on the calls. -/
theorem tree_eq (r : Recipe) : r.tree = r.parts.tree := by
  induction r with
  | ofName name => rfl
  | withText r text ih =>
    rw [tree, ih, parts, Parts.tree, Parts.tree, List.getLast?_concat]
    rfl
  | withAttribute r name value ih =>
    rw [tree, ih, parts, Parts.tree, Parts.tree, List.foldl_concat]
    rfl
  | withChild r inner ih _ =>
    rw [tree, ih, parts, Parts.tree, Parts.tree, Node.withChild, rescope, rescope, rescopeAll_append]
    rfl
  | withNamespace r qualifier uri ih =>
    rw [tree, ih, parts, Parts.tree, Parts.tree, Node.withNamespace, rescope, rescope, rescopeAll_rescopeAll,
      List.foldl_concat]
    rfl

theorem made (r : Recipe) : r.tree.Made := by
  induction r with
  | ofName name => exact .ofName name
  | withText r text ih => exact ih.withText text
  | withAttribute r name value ih => exact ih.withAttribute name value
  | withChild r inner ih inside => exact ih.withChild inside
  | withNamespace r qualifier uri ih => exact ih.withNamespace qualifier uri

end Recipe

/-- The trees that can be made by hand are those that have a recipe. -/
theorem made_iff_exists_recipe {n : Node} : n.Made ↔ ∃ r : Recipe, r.tree = n := by
  constructor
  · intro made
    induction made with
    | ofName name => exact ⟨.ofName name, rfl⟩
    | withText _ text ih =>
      obtain ⟨r, rfl⟩ := ih
      exact ⟨r.withText text, rfl⟩
    | withAttribute _ name value ih =>
      obtain ⟨r, rfl⟩ := ih
      exact ⟨r.withAttribute name value, rfl⟩
    | withChild _ _ ih inside =>
      obtain ⟨r, rfl⟩ := ih
      obtain ⟨inner, rfl⟩ := inside
      exact ⟨r.withChild inner, rfl⟩
    | withNamespace _ qualifier uri ih =>
      obtain ⟨r, rfl⟩ := ih
      exact ⟨r.withNamespace qualifier uri, rfl⟩
  · rintro ⟨r, rfl⟩
    exact r.made

namespace Recipe

/-- At every element of a tree made by hand the bindings are those around it that it does not declare anew,
and then its own; its namespace is what they bind its qualifier to. Calls of different kinds can change places,
a child before a declaration also if it was not made by hand. Attributes are in the order in which their names
were first used, each name once. -/
theorem tree_orderly (r : Recipe) :
    (∀ x ∈ r.tree.lineages [], x.2.Placed x.1 ∧ (x.2.attributes.map (·.name)).Nodup) ∧
      (∀ other : Recipe, other.parts = r.parts → other.tree = r.tree) ∧
      r.tree.element.attributes.map (·.name) = (r.parts.attributes.map (·.name)).eraseDups ∧
      ∀ (child : Node) (qualifier : Option Text) (uri text name value : Text),
        (r.tree.withChild child).withNamespace qualifier uri =
            (r.tree.withNamespace qualifier uri).withChild child ∧
          (r.tree.withText text).withChild child = (r.tree.withChild child).withText text ∧
          (r.tree.withText text).withNamespace qualifier uri =
            (r.tree.withNamespace qualifier uri).withText text ∧
          (r.tree.withAttribute name value).withChild child =
            (r.tree.withChild child).withAttribute name value ∧
          (r.tree.withAttribute name value).withNamespace qualifier uri =
            (r.tree.withNamespace qualifier uri).withAttribute name value := by
  have distinct := r.made.distinct
  refine ⟨fun x member => ?_, fun other same => ?_, ?_, fun child qualifier uri text name value => ?_⟩
  · have placed := @placed_of_mem_lineages [] List.nodup_nil r.tree r.made.rescope_nil distinct
    exact ⟨placed x member, (of_mem_lineages r.tree distinct x member).attributes⟩
  · rw [tree_eq, tree_eq, same]
  · rw [tree_eq]
    exact Element.names_foldl_setAttribute r.parts.attributes
  · exact ⟨withNamespace_withChild r.tree child qualifier uri, rfl, rfl, rfl, rfl⟩

/-- A qualifier is declared after the child is added that uses it, or before. -/
theorem tree_orderly_of_late_declaration :
    let leaf : Recipe := .withNamespace (.ofName ['x', ':', 'c']) none []
    let late : Recipe := .withNamespace (.withChild (.ofName ['a']) leaf) (some ['x']) ['u']
    let early : Recipe := .withChild (.withNamespace (.ofName ['a']) (some ['x']) ['u']) leaf
    early.parts = late.parts ∧ early.tree = late.tree ∧
      ∃ x ∈ late.tree.lineages [], x.2.name = ['x', ':', 'c'] ∧ x.2.uri = some ['u'] ∧ x.2.Placed x.1 := by
  intro leaf late early
  obtain ⟨placed, same, _⟩ := tree_orderly late
  have parts : early.parts = late.parts := rfl
  have inside : ([late.tree.element],
      ⟨['x', ':', 'c'], some ['u'], [⟨none, []⟩], [⟨some ['x'], ['u']⟩], [], none⟩) ∈
        late.tree.lineages [] := by
    decide
  exact ⟨parts, same early parts, _, inside, rfl, rfl, (placed _ inside).1⟩

end Recipe

end Node

end MarkupQuery
