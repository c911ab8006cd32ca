import MarkupQuery.Proofs.Attribute
import MarkupQuery.Proofs.Lexer.Tiling
import MarkupQuery.Proofs.Utf8.Slicing

/-!
Tags and text as they are spelled. Where a tag ends is found by one search and what its attributes are by
another; an attribute section leaves no quotation mark open, so the first passes over it as a whole. Main
statements: a spelled tag is read as its name and its attribute section (`Scan.scan_startTag`,
`Scan.scan_emptyTag`, `Scan.scan_endTag`), whatever comes after it, and what is read as attributes may
stand in a tag (`Attribute.Section.closed`).
-/
namespace MarkupQuery

namespace Delimiter

/-- The search for the end of a tag passes over the bytes and has no quotation mark open after them. -/
def Closed (bytes : Bytes) : Prop :=
  ∀ rest, tagEnd? (bytes ++ rest) = (tagEnd? rest).map (· + bytes.length)

theorem closed_nil : Closed [] := fun rest => by simp

theorem Closed.append {first second : Bytes} (h : Closed first) (k : Closed second) :
    Closed (first ++ second) := by
  intro rest
  rw [List.append_assoc, h, k, Option.map_map, List.length_append]
  congr 1
  funext n
  simp only [Function.comp]
  omega

theorem closed_of_plain {bytes : Bytes} (plain : ∀ b ∈ bytes, b ≠ 0x3e ∧ isQuote b = false) :
    Closed bytes := by
  induction bytes with
  | nil => exact closed_nil
  | cons b others ih =>
    intro rest
    obtain ⟨inside, unquoted⟩ := plain b (by simp)
    have later := ih (fun c member => plain c (by simp [member])) rest
    unfold tagEnd? at later ⊢
    rw [List.cons_append, tagEndFrom?, if_neg (by simpa using inside), unquoted]
    simp only [Bool.false_eq_true, if_false, later, Option.map_map]
    congr 1

theorem tagEndFrom?_quoted {quote : UInt8} {inner : Bytes} (plain : ∀ b ∈ inner, b ≠ quote)
    (rest : Bytes) :
    tagEndFrom? (some quote) (inner ++ quote :: rest) =
      (tagEnd? rest).map (· + (inner.length + 1)) := by
  induction inner with
  | nil => simp [tagEndFrom?, tagEnd?]
  | cons b others ih =>
    have other : (b == quote) = false := by simpa using plain b (by simp)
    have later := ih fun c member => plain c (by simp [member])
    rw [List.cons_append, tagEndFrom?, other]
    simp only [Bool.false_eq_true, if_false, later, Option.map_map]
    congr 1

theorem closed_quoted {quote : UInt8} {inner : Bytes} (mark : isQuote quote = true)
    (plain : ∀ b ∈ inner, b ≠ quote) : Closed (quote :: (inner ++ [quote])) := by
  intro rest
  have inside : ¬ (quote == 0x3e) = true := by
    intro same
    rw [beq_iff_eq.mp same] at mark
    cases mark
  have shape : quote :: (inner ++ [quote]) ++ rest = quote :: (inner ++ quote :: rest) := by simp
  rw [shape, tagEnd?, tagEndFrom?, if_neg inside, if_pos mark, tagEndFrom?_quoted plain,
    Option.map_map]
  congr 1
  funext n
  simp only [Function.comp, List.length_cons, List.length_append, List.length_nil]
  omega

end Delimiter

namespace Bytes

/-- A name is read in front of any byte that can be no part of it. -/
theorem name?_append_of_head? {name rest : Bytes} (named : name? name = some name)
    (ends : rest.head?.any isNamePart = false) : name? (name ++ rest) = some name := by
  obtain ⟨start, parts⟩ := name?_eq_some_iff.mp named
  rw [name?_eq_some_iff]
  constructor
  · cases name with
    | nil => cases named
    | cons b others => exact start
  · rw [List.takeWhile_append_of_pos (List.takeWhile_eq_self_iff.mp parts)]
    cases rest with
    | nil => simp
    | cons b others =>
      rw [List.takeWhile_cons_of_neg (by simpa using ends), List.append_nil]

/-- A name holds neither the end of a tag nor blanks. -/
theorem solid_of_name {name : Bytes} (named : name? name = some name) :
    ∀ b ∈ name, b ≠ 0x3e ∧ isBlank b = false := by
  intro b member
  have part := List.takeWhile_eq_self_iff.mp (name?_eq_some_iff.mp named).2 b member
  constructor
  · rintro rfl
    exact absurd part (by decide)
  · by_contra blank
    simp only [Bool.not_eq_false, isBlank, Bool.or_eq_true, beq_iff_eq] at blank
    rcases blank with ((rfl | rfl) | rfl) | rfl <;> exact absurd part (by decide)

theorem trimRight_append {name blanks : Bytes} (solid : ∀ b ∈ name, isBlank b = false)
    (spaced : blanks.all isBlank = true) : trimRight (name ++ blanks) = name := by
  have dropped : ∀ b ∈ blanks.reverse, isBlank b = true := by simpa using spaced
  have kept : name.reverse.dropWhile isBlank = name.reverse := by
    cases shape : name.reverse with
    | nil => rfl
    | cons b others =>
      have last := solid b (by rw [← List.mem_reverse, shape]; simp)
      exact List.dropWhile_cons_of_neg (by simp [last])
  rw [trimRight, List.reverse_append, List.dropWhile_append_of_pos dropped, kept,
    List.reverse_reverse]

end Bytes

namespace Scan

open Delimiter

variable {name attributes : Bytes}

theorem closed_name (named : Bytes.name? name = some name) : Closed name := by
  refine closed_of_plain fun b member => ⟨(Bytes.solid_of_name named b member).1, ?_⟩
  have part := List.takeWhile_eq_self_iff.mp (Bytes.name?_eq_some_iff.mp named).2 b member
  by_contra quote
  rw [Bool.not_eq_false, isQuote, Bool.or_eq_true, beq_iff_eq, beq_iff_eq] at quote
  rcases quote with rfl | rfl <;> exact absurd part (by decide)

/-- A start tag up to its end, whose inside is a name and bytes that leave no quotation mark open. -/
theorem startTag_spelled {inner : Bytes} (named : Bytes.name? name = some name) (closed : Closed inner)
    (apart : inner.head?.any Bytes.isNamePart = false) (rest : Bytes) :
    Bytes.name? (name ++ (inner ++ 0x3e :: rest)) = some name ∧
      tagEnd? (0x3c :: (name ++ (inner ++ 0x3e :: rest))) = some (1 + name.length + inner.length) ∧
      ((0x3c :: (name ++ (inner ++ 0x3e :: rest))).take (1 + name.length + inner.length)).drop
        (1 + name.length) = inner := by
  refine ⟨?_, ?_, ?_⟩
  · refine Bytes.name?_append_of_head? named ?_
    cases inner with
    | nil => rfl
    | cons b others => exact apart
  · have opening : Closed [0x3c] := closed_of_plain (by simp [isQuote])
    have whole := (opening.append ((closed_name named).append closed)) (0x3e :: rest)
    have stop : tagEnd? (0x3e :: rest) = some 0 := rfl
    rw [stop] at whole
    simp only [List.append_assoc, List.cons_append, List.nil_append, List.length_append,
      List.length_cons, Option.map_some] at whole
    rw [whole]
    congr 1
    omega
  · rw [List.drop_take, Nat.add_sub_cancel_left, Nat.add_comm 1, List.drop_succ_cons, List.drop_left,
      List.take_left]

/-- A start tag or an empty-element tag, by whether there is a slash before its end. -/
theorem scan_tag {inner : Bytes} {closes : Bool} (named : Bytes.name? name = some name)
    (closed : Closed inner) (apart : inner.head?.any Bytes.isNamePart = false)
    (split : splitSlash inner = (attributes, closes))
    (spaced : attributes.head?.all Bytes.isBlank = true) (rest : Bytes) :
    scan (0x3c :: (name ++ (inner ++ 0x3e :: rest))) =
      .token (if closes then .emptyTag name attributes else .startTag name attributes)
        (name.length + inner.length + 2) := by
  obtain ⟨found, stop, inside⟩ := startTag_spelled named closed apart rest
  have blank : attributes.head?.any (! Bytes.isBlank ·) = false := by
    cases attributes with
    | nil => rfl
    | cons b others => simpa using spaced
  rw [scan_eq_iff.mpr (.tag found stop (inside ▸ split) blank)]
  congr 1
  omega

theorem not_isNamePart_of_head? {bytes : Bytes} (spaced : bytes.head?.all Bytes.isBlank = true)
    (more : Bytes) (apart : more.head?.any Bytes.isNamePart = false) :
    (bytes ++ more).head?.any Bytes.isNamePart = false := by
  cases bytes with
  | nil => exact apart
  | cons b others =>
    have blank : Bytes.isBlank b = true := by simpa using spaced
    simp only [Bytes.isBlank, Bool.or_eq_true, beq_iff_eq] at blank
    rcases blank with ((rfl | rfl) | rfl) | rfl <;> rfl

/-- A start tag as it is spelled. -/
theorem scan_startTag (named : Bytes.name? name = some name) (closed : Closed attributes)
    (spaced : attributes.head?.all Bytes.isBlank = true) (bare : attributes.getLast? ≠ some 0x2f)
    (rest : Bytes) :
    scan (0x3c :: (name ++ (attributes ++ 0x3e :: rest))) =
      .token (.startTag name attributes) (name.length + attributes.length + 2) := by
  have apart := not_isNamePart_of_head? spaced [] rfl
  rw [List.append_nil] at apart
  have split : splitSlash attributes = (attributes, false) := if_neg (by simpa using bare)
  exact scan_tag named closed apart split spaced rest

/-- An empty-element tag as it is spelled. -/
theorem scan_emptyTag (named : Bytes.name? name = some name) (closed : Closed attributes)
    (spaced : attributes.head?.all Bytes.isBlank = true) (rest : Bytes) :
    scan (0x3c :: (name ++ (attributes ++ 0x2f :: 0x3e :: rest))) =
      .token (.emptyTag name attributes) (name.length + attributes.length + 3) := by
  have slash : Closed (attributes ++ [0x2f]) := closed.append (closed_of_plain (by simp [isQuote]))
  have apart := not_isNamePart_of_head? spaced [0x2f] rfl
  have split : splitSlash (attributes ++ [0x2f]) = (attributes, true) := by
    simp [splitSlash]
  have whole := scan_tag named slash apart split spaced rest
  rw [List.append_assoc, List.length_append] at whole
  exact whole

/-- An end tag as it is spelled: a name without blanks, then blanks. -/
theorem scan_endTag {blanks : Bytes} (nonempty : name ≠ [])
    (solid : ∀ b ∈ name, b ≠ 0x3e ∧ Bytes.isBlank b = false)
    (spaced : blanks.all Bytes.isBlank = true) (rest : Bytes) :
    scan (0x3c :: 0x2f :: (name ++ (blanks ++ 0x3e :: rest))) =
      .token (.endTag name) (name.length + blanks.length + 3) := by
  have absent : 0x3e ∉ 0x3c :: 0x2f :: (name ++ blanks) := by
    simp only [List.mem_cons, List.mem_append, not_or]
    refine ⟨by decide, by decide, fun member => (solid _ member).1 rfl, fun member => ?_⟩
    exact absurd (List.all_eq_true.mp spaced _ member) (by decide)
  have found := Bytes.idxOf?_append absent rest
  have shape : 0x3c :: 0x2f :: (name ++ (blanks ++ 0x3e :: rest)) =
      0x3c :: 0x2f :: (name ++ blanks) ++ 0x3e :: rest := by simp
  have inside : (name.isEmpty || name.any Bytes.isBlank) = false := by
    rw [Bool.or_eq_false_iff, List.any_eq_false, List.isEmpty_eq_false_iff]
    exact ⟨nonempty, fun b member => by simp [(solid b member).2]⟩
  have named : Bytes.trimRight (((0x3c :: 0x2f :: (name ++ blanks) ++ 0x3e :: rest).take
      (0x3c :: 0x2f :: (name ++ blanks)).length).drop 2) = name := by
    rw [List.take_left]
    exact Bytes.trimRight_append (fun b member => (solid b member).2) spaced
  rw [shape]
  refine (scan_eq_iff.mpr (.endTag found named inside)).trans ?_
  congr 1
  simp only [List.length_cons, List.length_append]

end Scan

namespace Delimiter

theorem closed_blanks {blanks : Text} (spaced : blanks.all Text.isBlank = true) :
    Closed (Utf8.encode blanks) := by
  refine closed_of_plain fun b member => ?_
  obtain ⟨c, inside, byte⟩ := List.mem_flatMap.mp member
  have blank := List.all_eq_true.mp spaced c inside
  simp only [Text.isBlank, Bool.or_eq_true, beq_iff_eq] at blank
  rcases blank with ((rfl | rfl) | rfl) | rfl <;>
    (obtain rfl := List.mem_singleton.mp byte; exact ⟨by decide, by decide⟩)

/-- A value in quotation marks that holds neither of them in between. -/
theorem closed_value {quote : Char} {raw : Text} (mark : quote = '"' ∨ quote = '\'')
    (plain : ∀ c ∈ raw, c ≠ quote) : Closed (Utf8.encode (quote :: (raw ++ [quote]))) := by
  have ascii : quote.toNat < 0x80 := by rcases mark with rfl | rfl <;> decide
  have marks : isQuote (UInt8.ofNat quote.toNat) = true := by rcases mark with rfl | rfl <;> rfl
  have absent : ∀ b ∈ Utf8.encode raw, b ≠ UInt8.ofNat quote.toNat := by
    rintro b member rfl
    exact plain quote ((Utf8.mem_encode_iff ascii).mp member) rfl
  rw [Utf8.encode_cons, Utf8.encode_append, Utf8.encode_cons, Utf8.encodeChar_of_lt ascii]
  exact closed_quoted marks absent

end Delimiter

namespace Attribute

open Delimiter

/-- What writes an attribute leaves no quotation mark open. -/
theorem Writes.closed {a : Attribute} {text : Text} (h : Writes a text) :
    Closed (Utf8.encode text) := by
  obtain @⟨before, after, raw, quote, named, left, right, mark, plain, _⟩ := h
  have sign : Closed (Utf8.encodeChar '=') := closed_of_plain (by simp [Utf8.encodeChar, isQuote])
  have value := closed_value mark fun c member => (plain c member).1
  rw [Utf8.encode_append, Utf8.encode_append, Utf8.encode_cons, Utf8.encode_append]
  exact (Scan.closed_name named).append ((closed_blanks left).append
    (sign.append ((closed_blanks right).append value)))

/-- What is read as attributes leaves no quotation mark open. -/
theorem Section.closed {text : Text} {attributes : List Attribute} (h : Section text attributes) :
    Closed (Utf8.encode text) := by
  induction h with
  | blank blanks => exact closed_blanks blanks
  | cons blanks first _ _ ih =>
    rw [Utf8.encode_append, Utf8.encode_append]
    exact (closed_blanks blanks).append (first.closed.append ih)

theorem Writes.getLast?_ne {a : Attribute} {text : Text} (h : Writes a text) (front : Text) :
    (front ++ text).getLast? ≠ some '/' := by
  obtain @⟨before, after, raw, quote, _, _, _, mark, _⟩ := h
  have shape : front ++ (a.name ++ (before ++ '=' :: (after ++ quote :: (raw ++ [quote])))) =
      front ++ (a.name ++ (before ++ '=' :: (after ++ quote :: raw))) ++ [quote] := by simp
  rw [shape, List.getLast?_concat]
  rcases mark with rfl | rfl <;> decide

/-- An attribute section does not end with a slash. -/
theorem Section.getLast?_ne {text : Text} {attributes : List Attribute} (h : Section text attributes) :
    (Utf8.encode text).getLast? ≠ some 0x2f := by
  intro last
  have slash := Utf8.getLast?_encode (c := '/') (by decide) last
  clear last
  induction h with
  | blank blanks =>
    exact absurd (List.all_eq_true.mp blanks _ (List.mem_of_getLast? slash)) (by decide)
  | @cons before written rest a others blanks first _ _ ih =>
    rw [← List.append_assoc, List.getLast?_append] at slash
    cases ends : rest.getLast? with
    | some c =>
      rw [ends] at slash
      exact ih (by rw [ends]; exact slash)
    | none =>
      rw [ends] at slash
      exact first.getLast?_ne before slash

end Attribute

end MarkupQuery
