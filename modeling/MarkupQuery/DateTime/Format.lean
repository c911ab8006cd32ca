import MarkupQuery.DateTime

/-!
Formats of dates and times as lists of items. An item reads what stands at the head of the text;
a format reads a text if its items read all of it. Numbers may have blanks before them, and where
a format has a space there may be any amount of white space or none.
-/
namespace MarkupQuery.DateTime

/-- Reads from the head of a text and leaves the text after it. -/
abbrev FieldReader := StateT Text Option

namespace FieldReader

def rest : FieldReader Text := get

def literal (c : Char) : FieldReader Unit := do
  match ← get with
  | d :: rest => if c == d then set rest else failure
  | [] => failure

/-- Passes over any white space. -/
def skipSpace : FieldReader Unit := modify Text.trimLeft

/-- Passes over white space, of which there must be some. -/
def space : FieldReader Unit := do
  if (← get).head?.any Text.isSpace then skipSpace else failure

/-- A number of at least `least` and, where it is bounded, at most `most` digits. -/
def number (least : Nat) (most : Option Nat) : FieldReader Nat := do
  let text ← get
  let run := text.takeWhile Text.isDigit
  let digits := match most with
    | none => run
    | some most => run.take most
  if digits.length < least || digits.isEmpty then failure
  else do
    set (text.drop digits.length)
    return Text.number digits

/-- The digits after a decimal point as nanoseconds; those past the ninth do not count. -/
def fraction : FieldReader Nat := do
  let digits := (← get).takeWhile Text.isDigit
  if digits.isEmpty then failure
  else do
    modify (·.dropWhile Text.isDigit)
    return Text.number ((digits ++ List.replicate 9 '0').take 9)

/-- One of some words of three letters, by its place among them. -/
def word (words : List String) : FieldReader Nat := do
  let text ← get
  match words.findIdx? fun w => Text.sameLetters (text.take 3) w.toList with
  | some i => do
    set (text.drop 3)
    return i
  | none => failure

def weekdays : List String := ["mon", "tue", "wed", "thu", "fri", "sat", "sun"]

def months : List String :=
  ["jan", "feb", "mar", "apr", "may", "jun", "jul", "aug", "sep", "oct", "nov", "dec"]

/-- What follows the first three letters of the name of each month. -/
def monthEndings : List String :=
  ["uary", "ruary", "ch", "il", "", "e", "y", "ust", "tember", "ober", "ember", "ember"]

/-- The number of a month by the first three letters of its name. -/
def shortMonth : FieldReader Nat := (· + 1) <$> word months

/-- The number of a month by its name or the first three letters of it. -/
def longMonth : FieldReader Nat := do
  let month ← word months
  let ending := (monthEndings[month]?.getD "").toList
  let text ← get
  if Text.sameLetters (text.take ending.length) ending then set (text.drop ending.length)
  return month + 1

/-- A sign, hours of two digits, what `between` passes over, and minutes of two digits. -/
def offset (minusSign : Bool) (between : FieldReader Unit) : FieldReader Int := do
  let negative ← match ← get with
    | '+' :: rest => do set rest; pure false
    | '-' :: rest => do set rest; pure true
    | '\u2212' :: rest => if minusSign then do set rest; pure true else failure
    | _ => failure
  let hours ← number 2 (some 2)
  between
  let minutes ← number 2 (some 2)
  if 59 < minutes then failure
  else
    let seconds : Int := hours * 3600 + minutes * 60
    return if negative then -seconds else seconds

end FieldReader

/-- One item of a format. -/
inductive FormatItem
  | literal (c : Char)
  | space
  | year
  | month
  | day
  | hour
  | minute
  | second
  | fraction
  | shortMonth
  | longMonth
  | offset
  deriving DecidableEq, Repr

namespace FormatItem

open FieldReader

/-- A number of at most two digits. -/
def pair : FieldReader Nat := do
  skipSpace
  number 1 (some 2)

/-- A year has at most four digits unless a sign is written. -/
def signedYear : FieldReader Int := do
  skipSpace
  match ← get with
  | '-' :: rest => do
    set rest
    return -((← number 1 none : Nat) : Int)
  | '+' :: rest => do
    set rest
    return (← number 1 none : Nat)
  | _ => return (← number 1 (some 4) : Nat)

/-- Reads one item into the fields. -/
def read (f : Fields) : FormatItem → FieldReader Fields
  | literal c => do
    FieldReader.literal c
    return f
  | space => do
    skipSpace
    return f
  | year => do return { f with year := ← signedYear }
  | month => do return { f with month := ← pair }
  | day => do return { f with day := ← pair }
  | hour => do return { f with hour := ← pair }
  | minute => do return { f with minute := ← pair }
  | second => do return { f with second := ← pair }
  | fraction => do
    match ← get with
    | '.' :: rest => do
      set rest
      return { f with nanos := ← FieldReader.fraction }
    | _ => return f
  | shortMonth => do return { f with month := ← FieldReader.shortMonth }
  | longMonth => do return { f with month := ← FieldReader.longMonth }
  | offset => do
    skipSpace
    let between : FieldReader Unit := modify (·.dropWhile fun c => c == ':' || Text.isSpace c)
    return { f with offset := some (← FieldReader.offset true between) }

/-- The items that a pattern such as `%Y-%m-%d` stands for: a percent sign and a letter for a
field, a blank for white space, any other character for itself. -/
def ofPattern : Text → List FormatItem
  | [] => []
  | '%' :: 'Y' :: rest => year :: ofPattern rest
  | '%' :: 'm' :: rest => month :: ofPattern rest
  | '%' :: 'd' :: rest => day :: ofPattern rest
  | '%' :: 'H' :: rest => hour :: ofPattern rest
  | '%' :: 'M' :: rest => minute :: ofPattern rest
  | '%' :: 'S' :: rest => second :: ofPattern rest
  | '%' :: '.' :: 'f' :: rest => fraction :: ofPattern rest
  | '%' :: 'b' :: rest => shortMonth :: ofPattern rest
  | '%' :: 'B' :: rest => longMonth :: ofPattern rest
  | '%' :: 'z' :: rest => offset :: ofPattern rest
  | ' ' :: rest => space :: ofPattern rest
  | c :: rest => literal c :: ofPattern rest

/-- The fields that a text gives in a format, if the format reads all of it. -/
def fields? (items : List FormatItem) (text : Text) : Option Fields :=
  match (items.foldlM read Fields.blank).run text with
  | some (f, []) => some f
  | _ => none

end FormatItem

end MarkupQuery.DateTime
