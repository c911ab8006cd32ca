import MarkupQuery.Text
import MarkupQuery.Text.ScriptExtension
import MarkupQuery.Text.Segment
import MarkupQuery.Text.Version

/-!
Classes of characters that patterns know by a letter or by a name: digits, white space and
characters of words, and the properties of characters.
-/
namespace MarkupQuery.Pattern.Named

open Text (Category Property.alphabetic Property.joinControl Script Version)

def digit : CharSet := Category.union [.digit]

def space : CharSet := Text.Property.space

/-- Alphabetic characters, marks, digits, connectors and the two joiners. -/
def word : CharSet :=
  (Property.alphabetic.union (Category.union (Category.marks ++ [.digit, .connector]))).union
    Property.joinControl

/-! ### Properties -/

/-- A name in small letters. Blanks, hyphens, underscores and what is not of ASCII are left out, and
so is `is` at the very start, unless what is left of the name is the single letter that completes
another name. -/
def loose (name : Text) : String :=
  let clean (text : Text) : Text :=
    (text.filter fun c => c != ' ' && c != '-' && c != '_' && c.toNat < 0x80).map Text.lowerAscii
  match name with
  | i :: s :: rest =>
    if Text.lowerAscii i == 'i' && Text.lowerAscii s == 's' then
      let kept := clean rest
      if kept == ['c'] then "isc" else String.ofList kept
    else String.ofList (clean name)
  | _ => String.ofList (clean name)

/-- The characters that a name alone stands for: of a property, a category or a script. -/
def single? (name : Text) : Option CharSet :=
  let name := loose name
  (Text.Property.named? name).orElse fun _ =>
    (Category.named? name).orElse fun _ => (Script.named? name).map (·.members)

/-- The characters for which a property with more than two values has the value with a name. -/
def valued? (kind value : Text) : Option CharSet :=
  let kind := loose kind
  let value := loose value
  if kind == "gc" || kind == "generalcategory" then Category.named? value
  else if kind == "sc" || kind == "script" then (Script.named? value).map (·.members)
  else if kind == "scx" || kind == "scriptextensions" then (Script.named? value).map (·.users)
  else if kind == "age" then Version.characters? value
  else if kind == "gcb" || kind == "graphemeclusterbreak" then
    Text.Segment.named? Text.Segment.Grapheme.classes value
  else if kind == "wb" || kind == "wordbreak" then
    Text.Segment.named? Text.Segment.Word.classes value
  else if kind == "sb" || kind == "sentencebreak" then
    Text.Segment.named? Text.Segment.Sentence.classes value
  else none

/-- The text before and after the first sign of inequality. -/
def splitUnequal? : Text → Option (Text × Text)
  | '!' :: '=' :: rest => some ([], rest)
  | c :: rest => (splitUnequal? rest).map fun (before, after) => (c :: before, after)
  | [] => none

/-- The text before and after the first occurrence of a character. -/
def splitAt? (mark : Char) (text : Text) : Option (Text × Text) :=
  match text.span (· != mark) with
  | (before, _ :: after) => some (before, after)
  | _ => none

/-- The class that stands in braces after `\p`, and whether all but its characters are meant. A sign
of inequality goes before a colon, and that before a sign of equality. -/
def property? (name : Text) : Option (CharSet × Bool) :=
  match splitUnequal? name with
  | some (kind, value) => (valued? kind value).map (·, true)
  | none =>
    match (splitAt? ':' name).orElse fun _ => splitAt? '=' name with
    | some (kind, value) => (valued? kind value).map (·, false)
    | none => (single? name).map (·, false)

end MarkupQuery.Pattern.Named
