import MarkupQuery.Text

/-!
The names of the open elements, which make up the path of the innermost one: joined by full stops
into one text that grows and shrinks at its end. A name that comes while the text is still empty is
joined without a full stop. The text is made only when it is asked for; how long it is and how many
elements are open is known at every name.
-/
namespace MarkupQuery

/-- The name of an open element, how many elements are open at it, itself included, and how long
the joined names are up to it. -/
structure OpenName where
  name : Text
  depth : Nat
  length : Nat
  deriving DecidableEq, Repr

/-- The open elements, the innermost first. -/
structure Trail where
  names : List OpenName
  deriving DecidableEq, Repr

namespace Trail

def empty : Trail := ⟨[]⟩

def depth (t : Trail) : Nat := t.names.head?.elim 0 (·.depth)

/-- The length of the joined names. -/
def length (t : Trail) : Nat := t.names.head?.elim 0 (·.length)

/-- The joined names. -/
def text (t : Trail) : Text :=
  Text.join '.' ((t.names.reverse.map (·.name)).dropWhile List.isEmpty)

/-- Whether the joined names are a text. -/
def isAt (t : Trail) (text : Text) : Bool := t.length == text.length && t.text == text

/-- Adds the name of an element inside all others. -/
def push (t : Trail) (name : Text) : Trail :=
  let stop := if t.length == 0 then 0 else t.length + 1
  ⟨⟨name, t.depth + 1, stop + name.length⟩ :: t.names⟩

/-- Takes the innermost name away; nothing where no element is open. -/
def pop? (t : Trail) : Option Trail :=
  match t.names with
  | [] => none
  | _ :: outer => some ⟨outer⟩

/-- Takes the innermost name away where there is one. -/
def pop (t : Trail) : Trail := t.pop?.getD t

/-- The innermost name. -/
def last? (t : Trail) : Option Text := t.names.head?.map (·.name)

end Trail

end MarkupQuery
