import MarkupQuery.Failure
import MarkupQuery.Node

/-!
Loading markup into a tree. Events are taken one at a time by a builder that holds the open
elements; comments, instructions, declarations and document types leave the tree as it is. An
element that declares no namespace shares the bindings of the element around it.
-/
namespace MarkupQuery

/-- An element whose end tag has not come yet, with its children so far, the latest first. -/
structure OpenElement where
  element : Element
  children : List Node
  deriving DecidableEq, Repr

def OpenElement.close (o : OpenElement) : Node := ⟨o.element, o.children.reverse⟩

/-- The open elements, innermost first, the declarations in force at them, the bindings around the
markup, and the root once it is closed. -/
structure TreeBuilder where
  stack : List OpenElement
  scopes : Scopes
  inherited : List Binding
  root : Option Node
  deriving DecidableEq, Repr

namespace TreeBuilder

/-- Builds a tree around whose root the given bindings hold. -/
def ofInherited (inherited : List Binding) : TreeBuilder :=
  ⟨[], Scopes.ofInherited inherited, inherited, none⟩

/-- The element of a start tag, with the scopes inside it. -/
def openedElement (b : TreeBuilder) (tag : Tag) : Element × Scopes :=
  let declarations := tag.declarations.map fun (qualifier, uri) => Binding.mk qualifier uri
  let scopes := declarations.foldl Scopes.declare b.scopes.push
  let scope :=
    if declarations.isEmpty then
      match b.stack with
      | [] => b.inherited
      | parent :: _ => parent.element.scope
    else scopes.inScope
  ({ name := tag.name
     uri := scopes.resolve? (Name.qualifier? tag.name)
     declarations
     scope
     attributes := tag.attributes.filter (·.declares?.isNone)
     text := none }, scopes)

def start (b : TreeBuilder) (tag : Tag) : Except ParseCause TreeBuilder :=
  if b.stack.isEmpty && b.root.isSome then .error (.extraContent tag.name)
  else
    let (element, scopes) := b.openedElement tag
    .ok { b with stack := ⟨element, []⟩ :: b.stack, scopes }

/-- Closes the innermost element, which is open with the elements `others` around it. -/
def closeInto (b : TreeBuilder) (innermost : OpenElement) (others : List OpenElement) :
    TreeBuilder :=
  let node := innermost.close
  match others with
  | [] => { b with stack := [], scopes := b.scopes.pop, root := some node }
  | parent :: above =>
    { b with
      stack := { parent with children := node :: parent.children } :: above
      scopes := b.scopes.pop }

/-- An end tag closes the innermost element, which must have its name. -/
def stop (b : TreeBuilder) (name : Text) : Except ParseCause TreeBuilder :=
  match b.stack with
  | [] => .error (.unexpectedEnd name)
  | innermost :: others =>
    if innermost.element.name == name then .ok (b.closeInto innermost others)
    else .error (.mismatchedEnd name innermost.element.name)

/-- An empty-element tag is a start tag and its end tag at once. -/
def empty (b : TreeBuilder) (tag : Tag) : Except ParseCause TreeBuilder := do
  (← b.start tag).stop tag.name

/-- Character data goes to the innermost element; outside the root only blanks may stand. -/
def text (b : TreeBuilder) (content : Text) : Except ParseCause TreeBuilder :=
  match b.stack with
  | [] => if content.all Text.isBlank then .ok b else .error .strayText
  | innermost :: others =>
    let element := { innermost.element with text := some (innermost.element.value ++ content) }
    .ok { b with stack := { innermost with element } :: others }

def take (b : TreeBuilder) : Event → Except ParseCause TreeBuilder
  | .start tag => b.start tag
  | .empty tag => b.empty tag
  | .stop name => b.stop name
  | .text content | .cdata content => b.text content
  | .comment _ | .instruction .. | .declaration .. | .doctype _ => .ok b

/-- The tree, once every element is closed. -/
def finish (b : TreeBuilder) : Except ParseCause Node :=
  match b.stack with
  | innermost :: _ => .error (.unclosed innermost.element.name)
  | [] =>
    match b.root with
    | some root => .ok root
    | none => .error .noRoot

end TreeBuilder

namespace Node

/-- The byte order mark. -/
def byteOrderMark : Char := '\ufeff'

/-- Markup without a byte order mark at its head. -/
def withoutMark : Text → Text
  | c :: rest => if c == byteOrderMark then rest else c :: rest
  | [] => []

/-- The tree of markup around which the given bindings hold. A fault of an event counts only when
the builder has taken all events before it. -/
def parse (inherited : List Binding) (markup : Text) : Except ParseCause Node := do
  let (events, fault) := Event.ofText (withoutMark markup)
  let builder ← events.foldlM TreeBuilder.take (TreeBuilder.ofInherited inherited)
  match fault with
  | some fault => .error (.event fault)
  | none => builder.finish

/-- The tree of markup from a named source. -/
def load (source : Text) (inherited : List Binding) (markup : Text) : Except Failure Node :=
  match parse inherited markup with
  | .error cause => .error (.parse source markup cause)
  | .ok root => .ok root

end Node

/-- A loaded document: the name of its source, empty for markup given inline, and its root. -/
structure Document where
  source : Text
  root : Node
  deriving DecidableEq, Repr

namespace Document

/-- The document of markup from a named source. -/
def ofNamed (source markup : Text) : Except Failure Document :=
  (Document.mk source) <$> Node.load source [] markup

/-- The document of markup given inline. -/
def ofText (markup : Text) : Except Failure Document := ofNamed [] markup

/-- The document that bytes from a named source encode. -/
def ofBytes (source : Text) (bytes : Bytes) : Except Failure Document :=
  match Utf8.decode? bytes with
  | none => .error (.parse source (Utf8.decodeLossy bytes) .inputEncoding)
  | some markup => ofNamed source markup

/-- The document that a named source delivers. -/
def ofSource (name : Text) (source : Source) : Except Failure Document :=
  match source.readAll with
  | .error fault => .error (.unreadable name fault)
  | .ok bytes => ofBytes name bytes

/-- The document of an input. -/
def load : Input → Except Failure Document
  | .inline markup => ofText markup
  | .named name source => ofSource name source

end Document

end MarkupQuery
