import MarkupQuery.Event
import MarkupQuery.Reader
import MarkupQuery.Text.Quoted

/-!
What can go wrong when documents are loaded, streamed and queried. Every failure names the path,
attribute or source involved; a failed look-up carries the markup of the node where it failed.
-/
namespace MarkupQuery

/-- Why markup is not a document or a fragment of one. -/
inductive ParseCause
  | event (fault : EventFault)
  | attributes (fault : AttributeFault)
  | encoding
  | extraContent (name : Text)
  | unexpectedEnd (name : Text)
  | mismatchedEnd (name expected : Text)
  | strayText
  | unclosed (name : Text)
  | noRoot
  | inputEncoding
  | fragmentEncoding
  deriving DecidableEq, Repr

def ParseCause.message : ParseCause → String
  | event fault => fault.describe
  | attributes fault => fault.message
  | encoding => "Invalid UTF-8"
  | extraContent name => s!"Extra content at the end of the document: <{String.ofList name}>"
  | unexpectedEnd name => s!"Unexpected end tag </{String.ofList name}>"
  | mismatchedEnd name expected =>
    s!"Mismatched end tag </{String.ofList name}>, expected </{String.ofList expected}>"
  | strayText => "Text content outside of the root element"
  | unclosed name => s!"Premature end of data, unclosed tag <{String.ofList name}>"
  | noRoot => "Document has no root element"
  | inputEncoding => "Input is not valid UTF-8"
  | fragmentEncoding => "Fragment is not valid UTF-8"

/-- What a value was to be read as. -/
inductive ValueKind
  | integer
  | float
  | timestamp
  | dateTime
  deriving DecidableEq, Repr

def ValueKind.name : ValueKind → String
  | integer => "integer"
  | float => "float"
  | timestamp => "timestamp"
  | dateTime => "date-time"

inductive Failure
  | nodeNotFound (path markup : Text)
  | attributeNotFound (name markup : Text)
  | parse (source content : Text) (cause : ParseCause)
  | unreadable (source : Text) (fault : ReadFault)
  | invalidValue (path value : Text) (kind : ValueKind)
  | invalidPattern (pattern : Text)
  deriving DecidableEq, Repr

namespace Failure

def message : Failure → String
  | nodeNotFound path _ => s!"XML node {String.ofList path} not found"
  | attributeNotFound name _ => s!"XML attribute {String.ofList name} not found"
  | parse source _ cause => s!"Could not parse \"{String.ofList source}\": {cause.message}"
  | unreadable source fault =>
    s!"Could not read \"{String.ofList source}\": {String.ofList fault.message}"
  | invalidValue path value kind =>
    s!"Value {String.ofList (Text.quoted value)} at {String.ofList path} is not a valid {kind.name}"
  | invalidPattern pattern =>
    s!"Invalid tag name pattern {String.ofList (Text.quoted pattern)}"

/-- Whether the input could not be used: it could not be parsed, or not even be read. -/
def isParseFailure : Failure → Bool
  | parse .. | unreadable .. => true
  | _ => false

/-- Whether a node or an attribute was looked up in vain. -/
def isNotFound : Failure → Bool
  | nodeNotFound .. | attributeNotFound .. => true
  | _ => false

/-- The path that was asked for. -/
def path? : Failure → Option Text
  | nodeNotFound path _ | invalidValue path _ _ => some path
  | _ => none

/-- The markup of the node at which a look-up failed. -/
def markup? : Failure → Option Text
  | nodeNotFound _ markup | attributeNotFound _ markup => some markup
  | _ => none

/-- The name of the source involved, empty for markup given inline. -/
def source? : Failure → Option Text
  | parse source .. | unreadable source _ => some source
  | _ => none

/-- The content that could not be parsed. -/
def content? : Failure → Option Text
  | parse _ content _ => some content
  | _ => none

end Failure

end MarkupQuery
