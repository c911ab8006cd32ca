import MarkupQuery.Text

/-!
Names as they are written: an optional qualifier, a colon and a local part. The first colon
divides them, so a local part may hold further colons.
-/
namespace MarkupQuery.Name

/-- A letter, an underscore, a colon or any character outside ASCII. -/
def isStart (c : Char) : Bool := Text.isLetter c || c == '_' || c == ':' || '\x80' ≤ c

/-- A character that may start a name, a digit, a hyphen or a full stop. -/
def isPart (c : Char) : Bool :=
  isStart c || Text.isDigit c || c == '-' || c == '.'

/-- What stands before and after the first colon, where there is one. -/
def divide? (name : Text) : Option (Text × Text) :=
  match name.dropWhile (· != ':') with
  | [] => none
  | _ :: after => some (name.takeWhile (· != ':'), after)

/-- What stands before the first colon. -/
def qualifier? (name : Text) : Option Text := (divide? name).map (·.1)

/-- What stands after the first colon, the whole name where there is none. -/
def localPart (name : Text) : Text := ((divide? name).map (·.2)).getD name

end MarkupQuery.Name
