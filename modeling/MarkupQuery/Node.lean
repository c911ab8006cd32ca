import MarkupQuery.Attribute
import MarkupQuery.Namespace

/-!
Element trees. Each element carries the namespace bindings in force at it, so that a qualified
name can be looked up without going back to its ancestors. Building a tree by hand keeps the
bindings of every descendant up to date.
-/
namespace MarkupQuery

/-- An element without its children. `uri` is the name of the namespace of the element itself,
`declarations` are those written on it, `scope` the bindings in force; `text` is all the character
data directly inside it. -/
structure Element where
  name : Text
  uri : Option Text
  declarations : List Binding
  scope : List Binding
  attributes : List Attribute
  text : Option Text
  deriving DecidableEq, Repr

namespace Element

/-- An element of which nothing but the name is known. -/
def ofName (name : Text) : Element := ⟨name, none, [], [], [], none⟩

/-- The name for which a qualifier stands at the element. -/
def lookup? (e : Element) (qualifier : Option Text) : Option Text :=
  if qualifier == some Namespace.xmlQualifier then some Namespace.xmlUri
  else (e.scope.reverse.find? (·.qualifier == qualifier)).map (·.uri)

def attribute? (e : Element) (name : Text) : Option Text :=
  (e.attributes.find? (·.name == name)).map (·.value)

/-- The text, empty where there is none. -/
def value (e : Element) : Text := e.text.getD []

/-- Sets an attribute, in the place of one of the same name if there is one. -/
def setAttribute (a : Attribute) : List Attribute → List Attribute
  | [] => [a]
  | b :: others => if b.name == a.name then a :: others else b :: setAttribute a others

/-- Puts the element below the given bindings: its own declarations come after those bindings
that it does not declare anew. -/
def rescope (inherited : List Binding) (e : Element) : Element :=
  let kept := inherited.filter fun b => !e.declarations.any (·.qualifier == b.qualifier)
  let scope := kept ++ e.declarations.filter (!·.uri.isEmpty)
  { e with
    scope
    uri := (scope.find? (·.qualifier == Name.qualifier? e.name)).map (·.uri) }

end Element

/-- An element with its children in document order. -/
structure Node where
  element : Element
  children : List Node
  deriving Repr

namespace Node

mutual

/-- Whether two trees agree in every part. -/
def decEqTree : (a b : Node) → Decidable (a = b)
  | ⟨e, cs⟩, ⟨f, ds⟩ =>
    if h : e = f then
      match decEqTrees cs ds with
      | isTrue k => isTrue (by rw [h, k])
      | isFalse k => isFalse (by intro same; cases same; exact k rfl)
    else isFalse (by intro same; cases same; exact h rfl)

/-- Whether two lists of trees agree. -/
def decEqTrees : (as bs : List Node) → Decidable (as = bs)
  | [], [] => isTrue rfl
  | [], _ :: _ => isFalse (by intro same; cases same)
  | _ :: _, [] => isFalse (by intro same; cases same)
  | a :: as, b :: bs =>
    match decEqTree a b with
    | isFalse h => isFalse (by intro same; cases same; exact h rfl)
    | isTrue h =>
      match decEqTrees as bs with
      | isTrue k => isTrue (by rw [h, k])
      | isFalse k => isFalse (by intro same; cases same; exact k rfl)

end

instance : DecidableEq Node := decEqTree

/-- A tree of one element. -/
def ofName (name : Text) : Node := ⟨Element.ofName name, []⟩

/-- Whether there is nothing inside the element. -/
def isEmpty (n : Node) : Bool := n.children.isEmpty && n.element.text.isNone

mutual

/-- Puts a tree below the given bindings. -/
def rescope (inherited : List Binding) : Node → Node
  | ⟨element, children⟩ =>
    ⟨element.rescope inherited, rescopeAll (element.rescope inherited).scope children⟩

/-- Puts each tree of a list below the given bindings. -/
def rescopeAll (inherited : List Binding) : List Node → List Node
  | [] => []
  | child :: others => rescope inherited child :: rescopeAll inherited others

end

def withText (n : Node) (text : Text) : Node :=
  { n with element := { n.element with text := some text } }

/-- Sets an attribute, in the place of one of the same name if there is one. -/
def withAttribute (n : Node) (name value : Text) : Node :=
  { n with element :=
    { n.element with attributes := Element.setAttribute ⟨name, value⟩ n.element.attributes } }

/-- Adds a child after the others, below the bindings in force at the node. -/
def withChild (n child : Node) : Node :=
  { n with children := n.children ++ [child.rescope n.element.scope] }

/-- Declares a namespace on the node in the place of an earlier declaration of the qualifier. The
bindings are computed anew for the whole tree, with no others around it. -/
def withNamespace (n : Node) (qualifier : Option Text) (uri : Text) : Node :=
  rescope [] { n with element :=
    { n.element with declarations :=
      n.element.declarations.filter (·.qualifier != qualifier) ++ [⟨qualifier, uri⟩] } }

end Node

end MarkupQuery
