import MarkupQuery.Attribute
import MarkupQuery.Lexer

/-!
Markup as a sequence of events: tokens whose parts are text, with references decoded and
attributes read. A fault of an event is put down to the offset where its token starts.
-/
namespace MarkupQuery

/-- A start tag or an empty-element tag. -/
structure Tag where
  name : Text
  attributes : List Attribute
  deriving DecidableEq, Repr

namespace Tag

def attribute? (tag : Tag) (name : Text) : Option Attribute :=
  tag.attributes.find? (·.name == name)

/-- The namespace declarations of the tag: a qualifier and the name bound to it. -/
def declarations (tag : Tag) : List (Option Text × Text) :=
  tag.attributes.filterMap fun a => a.declares?.map (·, a.value)

end Tag

inductive Event
  | start (tag : Tag)
  | empty (tag : Tag)
  | stop (name : Text)
  | text (content : Text)
  | cdata (content : Text)
  | comment (content : Text)
  | instruction (target data : Text)
  | declaration (version : Text) (encoding : Option Text) (standalone : Option Bool)
  | doctype (content : Text)
  deriving DecidableEq, Repr

/-- Why there is no event at a position. -/
inductive EventCause
  | lexical (cause : LexicalCause)
  | attributes (fault : AttributeFault)
  | duplicateAttribute (name : Text)
  | encoding
  deriving DecidableEq, Repr

def EventCause.message : EventCause → String
  | lexical cause => cause.message
  | attributes fault => fault.message
  | duplicateAttribute name => s!"Duplicate attribute '{String.ofList name}'"
  | encoding => "Invalid UTF-8"

/-- A cause and the offset to which it is put down. -/
structure EventFault where
  cause : EventCause
  position : Nat
  deriving DecidableEq, Repr

/-- A message with the offset that it is about. -/
def EventFault.describe (fault : EventFault) : String :=
  s!"{fault.cause.message} at byte {fault.position}"

namespace Event

def text? (bytes : Bytes) : Except EventCause Text :=
  match Utf8.decode? bytes with
  | none => .error .encoding
  | some decoded => .ok decoded

def attributes (bytes : Bytes) : Except EventCause (List Attribute) := do
  match Attribute.parse (← text? bytes) with
  | .error fault => .error (.attributes fault)
  | .ok attributes => .ok attributes

/-- The attribute names of one tag are pairwise distinct. -/
def tag (name raw : Bytes) : Except EventCause Tag := do
  let name ← text? name
  let attributes ← attributes raw
  match Attribute.duplicate? attributes with
  | some repeated => .error (.duplicateAttribute repeated)
  | none => .ok ⟨name, attributes⟩

/-- The version is 1.0 unless it is written, and a document is standalone if `yes` is. -/
def ofDeclaration (attributes : List Attribute) : Event :=
  let written (name : String) : Option Text :=
    (attributes.find? (·.name == name.toList)).map (·.value)
  .declaration ((written "version").getD ['1', '.', '0']) (written "encoding")
    ((written "standalone").map (· == ['y', 'e', 's']))

def ofToken : Token → Except EventCause Event
  | .startTag name raw => start <$> tag name raw
  | .emptyTag name raw => empty <$> tag name raw
  | .endTag name => stop <$> text? name
  | .text content => (text ∘ Reference.decode) <$> text? content
  | .cdata content => cdata <$> text? content
  | .comment content => comment <$> text? content
  | .instruction target data => do return instruction (← text? target) (← text? data)
  | .declaration _ data => ofDeclaration <$> attributes data
  | .doctype content => doctype <$> text? content

def ofLexeme (lexeme : Lexeme) : Except EventFault Event :=
  match ofToken lexeme.token with
  | .error cause => .error ⟨cause, lexeme.start⟩
  | .ok event => .ok event

/-- Reads one event, none at the end of the markup. -/
def next (lexer : Lexer) : Except EventFault (Option Event) × Lexer :=
  match lexer.step with
  | (.lexeme lexeme, after) => (some <$> ofLexeme lexeme, after)
  | (.fault fault, after) => (.error ⟨.lexical fault.cause, fault.position⟩, after)
  | (.finished, after) | (.incomplete, after) => (.ok none, after)

/-- The events of a list of lexemes up to the first fault. -/
def ofLexemes : List Lexeme → List Event × Option EventFault
  | [] => ([], none)
  | lexeme :: rest =>
    match ofLexeme lexeme with
    | .error fault => ([], some fault)
    | .ok event =>
      let (events, fault) := ofLexemes rest
      (event :: events, fault)

/-- The events of markup up to the first fault, and that fault. -/
def ofText (markup : Text) : List Event × Option EventFault :=
  let (lexemes, last, _) := (Lexer.ofBytes (Utf8.encode markup)).run
  match ofLexemes lexemes, last with
  | (events, some fault), _ => (events, some fault)
  | (events, none), .fault fault => (events, some ⟨.lexical fault.cause, fault.position⟩)
  | (events, none), _ => (events, none)

/-- All events of markup without a fault. -/
def parse (markup : Text) : Except EventFault (List Event) :=
  match ofText markup with
  | (_, some fault) => .error fault
  | (events, none) => .ok events

end Event

end MarkupQuery
