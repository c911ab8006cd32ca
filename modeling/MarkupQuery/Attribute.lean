import MarkupQuery.Name
import MarkupQuery.Reference

/-!
The attribute section of a tag. Each attribute is a name, an equals sign and a quoted value, with
blanks allowed around the sign and required between attributes.
-/
namespace MarkupQuery

/-- An attribute with its name as written and its value decoded. -/
structure Attribute where
  name : Text
  value : Text
  deriving DecidableEq, Repr

/-- What keeps a text from being an attribute section. -/
inductive AttributeFault
  | name
  | missingValue
  | unquotedValue
  | angleInValue
  | openValue
  | unseparated
  deriving DecidableEq, Repr

def AttributeFault.message : AttributeFault → String
  | name => "Attribute name must start with letter, underscore, or colon"
  | missingValue => "Attribute value required"
  | unquotedValue => "Attribute value must be quoted"
  | angleInValue => "Attribute value cannot contain '<'"
  | openValue => "Attribute value has mismatched quotes"
  | unseparated => "Attributes must be separated by whitespace"

namespace Attribute

/-- `xmlns` -/
def declarationName : Text := ['x', 'm', 'l', 'n', 's']

/-- The qualifier that the attribute binds to a namespace: none of its own for `xmlns`, `p` for
`xmlns:p`. Any other attribute declares nothing. -/
def declares? (a : Attribute) : Option (Option Text) :=
  if a.name == declarationName then some none
  else if (declarationName ++ [':']).isPrefixOf a.name then
    some (some (a.name.drop (declarationName.length + 1)))
  else none

def skipBlanks (text : Text) : Text := text.dropWhile Text.isBlank

/-- The value up to the closing quotation mark, and the text after the mark. -/
def readValue (quote : Char) : Text → Except AttributeFault (Text × Text)
  | [] => .error .openValue
  | c :: rest =>
    if c == quote then .ok ([], rest)
    else if c == '<' then .error .angleInValue
    else
      match readValue quote rest with
      | .error fault => .error fault
      | .ok (value, after) => .ok (c :: value, after)

/-- One attribute at the head of the text, and the text after it. -/
def readOne (text : Text) : Except AttributeFault (Attribute × Text) :=
  if text.head?.all Name.isStart then
    match skipBlanks (text.dropWhile Name.isPart) with
    | '=' :: rest =>
      match skipBlanks rest with
      | [] => .error .unquotedValue
      | quote :: inner =>
        if quote == '"' || quote == '\'' then
          match readValue quote inner with
          | .error fault => .error fault
          | .ok (value, after) =>
            if after.head?.any (! Text.isBlank ·) then .error .unseparated
            else .ok (⟨text.takeWhile Name.isPart, Reference.decode value⟩, after)
        else .error .unquotedValue
    | _ => .error .missingValue
  else .error .name

theorem length_dropWhile_le {α : Type} (p : α → Bool) (l : List α) :
    (l.dropWhile p).length ≤ l.length := (List.dropWhile_sublist p).length_le

theorem readValue_length_le {quote : Char} {text value after : Text}
    (h : readValue quote text = .ok (value, after)) : after.length < text.length := by
  fun_induction readValue quote text generalizing value with
  | case1 => cases h
  | case2 => cases h; simp
  | case3 => cases h
  | case4 => cases h
  | case5 c rest _ _ inner tail found ih =>
    cases h
    have := ih found
    simp only [List.length_cons]
    omega

theorem readOne_length_lt {text after : Text} {a : Attribute}
    (h : readOne text = .ok (a, after)) : after.length < text.length := by
  unfold readOne at h
  split at h
  · split at h
    · rename_i rest atSign
      split at h
      · cases h
      · rename_i quote inner atQuote
        split at h
        · split at h
          · cases h
          · rename_i value tail found
            split at h
            · cases h
            · cases h
              have one := readValue_length_le found
              have two := length_dropWhile_le Text.isBlank rest
              have three := length_dropWhile_le Text.isBlank (text.dropWhile Name.isPart)
              have four := length_dropWhile_le Name.isPart text
              unfold skipBlanks at atSign atQuote
              rw [atQuote] at two
              rw [atSign] at three
              simp only [List.length_cons] at two three
              omega
        · cases h
    · cases h
  · cases h

/-- All attributes of a section, in the order in which they are written. -/
def parse (text : Text) : Except AttributeFault (List Attribute) :=
  if (skipBlanks text).isEmpty then .ok []
  else
    match _h : readOne (skipBlanks text) with
    | .error fault => .error fault
    | .ok (a, after) =>
      match parse after with
      | .error fault => .error fault
      | .ok others => .ok (a :: others)
termination_by text.length
decreasing_by
  have one := readOne_length_lt _h
  have two := length_dropWhile_le Text.isBlank text
  unfold skipBlanks at one
  omega

/-- The first attribute name that a later attribute repeats. -/
def duplicate? : List Attribute → Option Text
  | [] => none
  | a :: others => if others.any (·.name == a.name) then some a.name else duplicate? others

end Attribute

end MarkupQuery
