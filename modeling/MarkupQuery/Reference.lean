import MarkupQuery.Utf8

/-!
References in character data. Decoding goes from left to right: an ampersand that starts a
reference is replaced together with it by one character, any other ampersand stands for itself,
and what was decoded is not looked at again. Encoding writes references for the characters that
markup would otherwise take as its own.
-/
namespace MarkupQuery.Reference

/-- The characters that XML 1.0 admits, by number. -/
def isAdmitted (n : Nat) : Bool :=
  n == 0x9 || n == 0xa || n == 0xd || (0x20 ≤ n && n ≤ 0xd7ff) || (0xe000 ≤ n && n ≤ 0xfffd) ||
    (0x10000 ≤ n && n ≤ 0x10ffff)

/-- The value of a digit in a base up to sixteen. -/
def digit? (base : Nat) (c : Char) : Option Nat :=
  let value :=
    if '0' ≤ c && c ≤ '9' then c.toNat - '0'.toNat
    else if 'a' ≤ c && c ≤ 'f' then c.toNat - 'a'.toNat + 10
    else if 'A' ≤ c && c ≤ 'F' then c.toNat - 'A'.toNat + 10
    else base
  if value < base then some value else none

/-- The number that the digits denote after the digits already read, as long as it has no more than 32
bits. -/
def numeralFrom? (base : Nat) (value : Nat) : Text → Option Nat
  | [] => some value
  | c :: rest =>
    match digit? base c with
    | none => none
    | some d =>
      if value * base + d < 2 ^ 32 then numeralFrom? base (value * base + d) rest else none

/-- An unsigned numeral: at least one digit, after an optional plus sign. -/
def numeral? (base : Nat) (text : Text) : Option Nat :=
  let digits := if text.head? == some '+' then text.tail else text
  if digits.isEmpty then none else numeralFrom? base 0 digits

/-- The character with an admitted number. -/
def admitted? (n : Nat) : Option Char := if isAdmitted n then some (Char.ofNat n) else none

/-- The character that a reference names by what stands between `&` and `;`. -/
def character? : Text → Option Char
  | ['l', 't'] => some '<'
  | ['g', 't'] => some '>'
  | ['a', 'm', 'p'] => some '&'
  | ['q', 'u', 'o', 't'] => some '"'
  | ['a', 'p', 'o', 's'] => some '\''
  | '#' :: 'x' :: digits | '#' :: 'X' :: digits => (numeral? 16 digits).bind admitted?
  | '#' :: digits => (numeral? 10 digits).bind admitted?
  | _ => none

/-- What stands before the next `;`, however far it is, and the text after it. -/
def body? : Text → Option (Text × Text)
  | [] => none
  | c :: rest =>
    if c == ';' then some ([], rest)
    else (body? rest).map fun (body, after) => (c :: body, after)

/-- The character of the reference at the head of the text, its ampersand already read, and the
text after it. -/
def read? (text : Text) : Option (Char × Text) :=
  match body? text with
  | none => none
  | some (body, after) => (character? body).map (·, after)

theorem body?_length_lt {text body after : Text} (h : body? text = some (body, after)) :
    after.length < text.length := by
  fun_induction body? text generalizing body with
  | case1 => cases h
  | case2 => cases h; simp
  | case3 c rest _ ih =>
    obtain ⟨⟨inner, tail⟩, found, same⟩ := Option.map_eq_some_iff.1 h
    cases same
    have := ih found
    simp only [List.length_cons]
    omega

theorem read?_length_lt {text after : Text} {c : Char} (h : read? text = some (c, after)) :
    after.length < text.length := by
  unfold read? at h
  split at h
  · cases h
  · rename_i found
    obtain ⟨_, _, same⟩ := Option.map_eq_some_iff.1 h
    cases same
    exact body?_length_lt found

/-- Replaces every reference by the character that it names. -/
def expand : Text → Text
  | [] => []
  | c :: rest =>
    if c == '&' then
      match _h : read? rest with
      | some (named, after) => named :: expand after
      | none => '&' :: expand rest
    else c :: expand rest
termination_by text => text.length
decreasing_by
  · have := read?_length_lt _h
    simp only [List.length_cons]
    omega
  · simp
  · simp

/-- The text with its references replaced. Text without an ampersand is given as it is. -/
def decode (text : Text) : Text := if text.contains '&' then expand text else text

/-- Whether a character is written as a reference. -/
def isEscaped (quoted : Bool) (c : Char) : Bool :=
  c == '<' || c == '>' || c == '&' || (quoted && c == '"')

/-- Writes one character; quotation marks become references only where `quoted` asks for it. -/
def encodeChar (quoted : Bool) (c : Char) : Text :=
  if c == '<' then ['&', 'l', 't', ';']
  else if c == '>' then ['&', 'g', 't', ';']
  else if c == '&' then ['&', 'a', 'm', 'p', ';']
  else if quoted && c == '"' then ['&', 'q', 'u', 'o', 't', ';']
  else [c]

/-- Writes every character. Text in which none becomes a reference is given as it is. -/
def escape (quoted : Bool) (text : Text) : Text :=
  if text.any (isEscaped quoted) then text.flatMap (encodeChar quoted) else text

/-- Text as it stands between tags. -/
def encodeText (text : Text) : Text := escape false text

/-- Text as it stands between double quotation marks. -/
def encodeAttribute (text : Text) : Text := escape true text

end MarkupQuery.Reference
