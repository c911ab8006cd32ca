import MarkupQuery.Bytes

/-!
The constructs of markup, their parts still raw bytes, and the ways in which a construct can fail
to be read.
-/
namespace MarkupQuery

/-- One construct. The attribute section of a tag is what stands between the name and the end of
the tag, the slash of an empty-element tag left out. -/
inductive Token
  | startTag (name attributes : Bytes)
  | emptyTag (name attributes : Bytes)
  | endTag (name : Bytes)
  | text (content : Bytes)
  | cdata (content : Bytes)
  | comment (content : Bytes)
  | instruction (target data : Bytes)
  | declaration (target data : Bytes)
  | doctype (content : Bytes)
  deriving DecidableEq, Repr

namespace Token

/-- The name of a tag or the target of an instruction. -/
def name? : Token → Option Bytes
  | startTag name _ | emptyTag name _ | endTag name => some name
  | instruction target _ | declaration target _ => some target
  | text _ | cdata _ | comment _ | doctype _ => none

/-- The body of a construct, the data of an instruction or the attribute section of a tag. -/
def content? : Token → Option Bytes
  | startTag _ attributes | emptyTag _ attributes => some attributes
  | endTag _ => none
  | text content | cdata content | comment content | doctype content => some content
  | instruction _ data | declaration _ data => some data

end Token

/-- A token and the half-open range of offsets that it takes up. -/
structure Lexeme where
  token : Token
  start : Nat
  stop : Nat
  deriving DecidableEq, Repr

/-- A construct that the end of the input cuts off. -/
inductive Unfinished
  | angle
  | endTag
  | startTag
  | instruction
  | comment
  | cdata
  | doctype
  | declaration
  deriving DecidableEq, Repr

def Unfinished.message : Unfinished → String
  | angle => "Unexpected end of input after '<'"
  | endTag => "Unclosed end tag"
  | startTag => "Unclosed start tag"
  | instruction => "Unterminated processing instruction"
  | comment => "Unterminated comment"
  | cdata => "Unterminated CDATA section"
  | doctype => "Unterminated DOCTYPE"
  | declaration => "Unterminated markup declaration"

/-- A construct that no further input can mend. -/
inductive Malformed
  | endTagName
  | elementName
  | elementNameEnd
  | instructionTarget
  | declaration
  deriving DecidableEq, Repr

def Malformed.message : Malformed → String
  | endTagName => "Invalid end tag name"
  | elementName => "Invalid element name"
  | elementNameEnd => "Invalid character in element name"
  | instructionTarget => "Invalid processing instruction target"
  | declaration => "Invalid markup declaration"

/-- Why no token stands at a position. -/
inductive LexicalCause
  | unfinished (cause : Unfinished)
  | malformed (cause : Malformed)
  deriving DecidableEq, Repr

def LexicalCause.message : LexicalCause → String
  | unfinished cause => cause.message
  | malformed cause => cause.message

/-- A cause and the offset to which it is put down. -/
structure LexicalFault where
  cause : LexicalCause
  position : Nat
  deriving DecidableEq, Repr

end MarkupQuery
