import MarkupQuery.DateTime.Format
import MarkupQuery.Value

/-!
Reading moments in the forms in which people and programs write them. The forms are tried in a
fixed order and the first that reads the whole text wins: words and epoch seconds, internet
timestamps, mail dates, then dates and times field by field. What has no offset is in UTC.
-/
namespace MarkupQuery.DateTime

open FieldReader

/-- An internet timestamp such as `2024-01-02T03:04:05.5+01:00`. -/
def internet : FieldReader Fields := do
  let year ← number 4 (some 4)
  literal '-'
  let month ← number 2 (some 2)
  literal '-'
  let day ← number 2 (some 2)
  match ← get with
  | c :: rest => if c == 'T' || c == 't' || c == ' ' then set rest else failure
  | [] => failure
  let hour ← number 2 (some 2)
  literal ':'
  let minute ← number 2 (some 2)
  literal ':'
  let second ← number 2 (some 2)
  let nanos ← match ← get with
    | '.' :: rest => do
      set rest
      fraction
    | _ => pure 0
  let offset ← match ← get with
    | 'Z' :: rest | 'z' :: rest => do
      set rest
      pure 0
    | _ => FieldReader.offset true (literal ':')
  return ⟨year, month, day, hour, minute, second, nanos, some offset, none⟩

/-- Two digits of a year are near the year 2000, three count from 1900. -/
def fullYear (digits year : Nat) : Nat :=
  if digits == 2 then if year < 50 then year + 2000 else year + 1900
  else if digits == 3 then year + 1900
  else year

/-- The zones that have names, with their offsets in hours. -/
def namedZones : List (String × Int) :=
  [("gmt", 0), ("ut", 0), ("z", 0), ("edt", -4), ("est", -5), ("cdt", -5), ("cst", -6),
    ("mdt", -6), ("mst", -7), ("pdt", -7), ("pst", -8)]

/-- A named zone, any letter but `J`, or an offset of four digits. -/
def zone : FieldReader Int := do
  let text ← get
  let name := text.takeWhile Text.isLetter
  if name.isEmpty then FieldReader.offset false (pure ())
  else do
    set (text.drop name.length)
    match namedZones.find? fun z => Text.sameLetters z.1.toList name with
    | some z => return z.2 * 3600
    | none => if name.length == 1 && !Text.sameLetters name ['j'] then return 0 else failure

/-- The text after the bracket that closes the `depth` brackets still open; a backslash takes the
next character along. -/
def afterComment? (depth : Nat) : Text → Option Text
  | [] => none
  | '\\' :: _ :: rest => afterComment? depth rest
  | '(' :: rest => afterComment? (depth + 1) rest
  | ')' :: rest => if depth ≤ 1 then some rest else afterComment? (depth - 1) rest
  | _ :: rest => afterComment? depth rest

theorem afterComment?_length_le {depth : Nat} {text after : Text}
    (h : afterComment? depth text = some after) : after.length < text.length := by
  fun_induction afterComment? depth text with
  | case1 => cases h
  | case2 _ _ _ ih => have := ih h; simp only [List.length_cons]; omega
  | case3 _ _ ih => have := ih h; simp only [List.length_cons]; omega
  | case4 => cases h; simp
  | case5 _ _ _ ih => have := ih h; simp only [List.length_cons]; omega
  | case6 _ _ _ _ _ _ ih => have := ih h; simp only [List.length_cons]; omega

/-- The text after any comments at its head. -/
def skipComments (text : Text) : Text :=
  match _trimmed : Text.trimLeft text with
  | '(' :: inner =>
    match _closed : afterComment? 1 inner with
    | some after => skipComments after
    | none => text
  | _ => text
termination_by text.length
decreasing_by
  have one := afterComment?_length_le _closed
  have two := (List.dropWhile_sublist Text.isSpace (l := text)).length_le
  unfold Text.trimLeft at _trimmed
  rw [_trimmed] at two
  simp only [List.length_cons] at two
  omega

/-- A mail date such as `Tue, 2 Jan 2024 03:04:05 +0100`. -/
def mail : FieldReader Fields := do
  skipSpace
  let text ← get
  let weekday ← match (word weekdays).run text with
    | some (weekday, rest) => do
      set rest
      literal ','
      pure (some weekday)
    | none => pure none
  skipSpace
  let day ← number 1 (some 2)
  space
  let month ← shortMonth
  space
  let digits := ((← get).takeWhile Text.isDigit).length
  let year ← number 2 none
  space
  let hour ← number 2 (some 2)
  skipSpace
  literal ':'
  skipSpace
  let minute ← number 2 (some 2)
  let second ← match Text.trimLeft (← get) with
    | ':' :: rest => do
      set rest
      number 2 (some 2)
    | _ => pure 0
  space
  let offset ← zone
  modify skipComments
  return ⟨fullYear digits year, month, day, hour, minute, second, 0, some offset, weekday⟩

/-- The fields that a reader takes from a text, if it reads all of it. -/
def fieldsOf? (reader : FieldReader Fields) (text : Text) : Option Fields :=
  match reader.run text with
  | some (f, []) => some f
  | _ => none

/-- The forms with fields in an order of their own: with an offset, with a time, and dates. -/
def formats : List String :=
  ["%Y-%m-%d %H:%M:%S%.f %z", "%Y-%m-%dT%H:%M:%S%.f%z",
    "%Y-%m-%d %H:%M:%S%.f", "%Y-%m-%dT%H:%M:%S%.f", "%Y-%m-%d %H:%M", "%Y-%m-%dT%H:%M",
    "%d.%m.%Y %H:%M:%S", "%d.%m.%Y %H:%M", "%m/%d/%Y %H:%M:%S", "%m/%d/%Y %H:%M",
    "%Y/%m/%d %H:%M:%S", "%Y/%m/%d %H:%M",
    "%Y-%m-%d", "%d.%m.%Y", "%m/%d/%Y", "%Y/%m/%d", "%d %B %Y", "%B %d, %Y", "%d %b %Y",
    "%b %d, %Y", "%Y%m%d"]

/-- Every form that is read field by field, in the order in which they are tried. -/
def forms : List (Text → Option Fields) :=
  fieldsOf? internet :: fieldsOf? mail ::
    formats.map fun pattern => FormatItem.fields? (FormatItem.ofPattern pattern.toList)

/-- Seconds since 1970 after an at sign, or a word for a moment or a day near `now`. -/
def relative? (now : DateTime) (text : Text) : Option DateTime :=
  match text with
  | '@' :: rest => (Value.signed? rest).bind (ofSeconds? · 0 0)
  | _ =>
    let is (word : String) : Bool := Text.sameLetters text word.toList
    if is "now" then some { now with offset := 0 }
    else if is "today" || is "midnight" then startOfDay? now.day
    else if is "yesterday" then startOfDay? (now.day - 1)
    else if is "tomorrow" then startOfDay? (now.day + 1)
    else none

/-- The moment that a text names, seen from `now`. -/
def parse? (now : DateTime) (text : Text) : Option DateTime :=
  let text := Text.trim text
  match relative? now text with
  | some moment => some moment
  | none => forms.findSome? fun form => (form text).bind Fields.toDateTime?

end MarkupQuery.DateTime
