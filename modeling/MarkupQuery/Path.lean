import MarkupQuery.Text

/-!
Paths through a tree. Segments are divided by full stops or by arrows; a segment with exactly one
colon asks for a namespace, any other for a name as it is written. The empty path and the single
full stop address the node from which they start.
-/
namespace MarkupQuery

/-- One step down a path. -/
inductive Segment
  | tag (name : Text)
  | qualified (qualifier localPart : Text)
  deriving DecidableEq, Repr

namespace Segment

def parse (text : Text) : Segment :=
  match Text.split ':' text with
  | [qualifier, localPart] => qualified qualifier localPart
  | _ => tag text

/-- The segment as it is written. -/
def render : Segment → Text
  | tag name => name
  | qualified qualifier localPart => qualifier ++ ':' :: localPart

end Segment

/-- A path with the text from which it was read. -/
structure Path where
  raw : Text
  segments : List Segment
  deriving DecidableEq, Repr

namespace Path

/-- Writes every arrow as a full stop. -/
def dotted : Text → Text
  | '-' :: '>' :: rest => '.' :: dotted rest
  | c :: rest => c :: dotted rest
  | [] => []

def parse (text : Text) : Path :=
  let joined := dotted text
  if joined.isEmpty || joined == ['.'] then ⟨text, []⟩
  else ⟨text, (Text.split '.' joined).map Segment.parse⟩

/-- Whether the path addresses the node from which it starts. -/
def isSelf (p : Path) : Bool := p.segments.isEmpty

/-- The segments joined by full stops. -/
def normalized (p : Path) : Text := Text.join '.' (p.segments.map Segment.render)

end Path

end MarkupQuery
