import MarkupQuery.Node

/-!
Writing a tree as markup. Declarations come before attributes and text before children; an element
with nothing inside it is written as an empty-element tag.
-/
namespace MarkupQuery

namespace Element

/-- A name and a quoted value after a blank. -/
def renderAttribute (name value : Text) : Text :=
  ' ' :: name ++ '=' :: '"' :: Reference.encodeAttribute value ++ ['"']

def renderDeclaration (b : Binding) : Text :=
  match b.qualifier with
  | none => renderAttribute Attribute.declarationName b.uri
  | some qualifier => renderAttribute (Attribute.declarationName ++ ':' :: qualifier) b.uri

/-- The inside of the start tag. -/
def renderTag (e : Element) : Text :=
  e.name ++ e.declarations.flatMap renderDeclaration ++
    e.attributes.flatMap fun a => renderAttribute a.name a.value

end Element

namespace Node

mutual

/-- The markup of a tree, before other markup. -/
def renderBefore : Node → Text → Text
  | ⟨element, children⟩, rest =>
    '<' :: element.renderTag ++
      if children.isEmpty && element.text.isNone then '/' :: '>' :: rest
      else
        '>' :: Reference.encodeText element.value ++
          renderAllBefore children ('<' :: '/' :: element.name ++ '>' :: rest)

/-- The markup of trees one after another, before other markup. -/
def renderAllBefore : List Node → Text → Text
  | [], rest => rest
  | child :: others, rest => renderBefore child (renderAllBefore others rest)

end

/-- The markup of a tree. -/
def render (n : Node) : Text := renderBefore n []

end Node

end MarkupQuery
