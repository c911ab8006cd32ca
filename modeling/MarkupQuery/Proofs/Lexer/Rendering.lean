import MarkupQuery.Proofs.Lexer.Spelling

/-!
Markup written construct by construct. A body that does not hold its closing delimiter is read up to
this delimiter, even where it ends with bytes that also start the delimiter: the last byte of a closing
delimiter stands nowhere else in it. Main statement: constructs that are written one after another, no
text next to text, are read as the tokens that they stand for, each in its own bytes
(`Construct.run_markup`).
-/
namespace MarkupQuery

namespace Delimiter

/-- A body is passed over up to the delimiter after it. The delimiter may start with bytes that the body
ends with, but it does not hold its last byte before the end. -/
theorem sequence?_body {opening : Bytes} {mark : UInt8} (only : mark ∉ opening) {body : Bytes}
    (absent : ¬ opening ++ [mark] <:+: body) (rest : Bytes) :
    sequence? (opening ++ [mark]) (body ++ (opening ++ [mark] ++ rest)) = some body.length := by
  have unmet : ∀ (b : UInt8) (others : Bytes), ¬ opening ++ [mark] <:+: b :: others →
      ¬ (opening ++ [mark]).isPrefixOf (b :: (others ++ (opening ++ [mark] ++ rest))) = true := by
    intro b others absent starts
    rw [List.isPrefixOf_iff_prefix, ← List.cons_append] at starts
    by_cases inside : (opening ++ [mark]).length ≤ (b :: others).length
    · have within := List.prefix_of_prefix_length_le starts (List.prefix_append ..) inside
      exact absent within.isInfix
    · -- The last byte of the delimiter would stand among its earlier bytes.
      have wide : (b :: others).length ≤ opening.length := by
        simp only [List.length_append, List.length_cons, List.length_nil] at inside ⊢
        omega
      have last : (b :: others ++ (opening ++ [mark] ++ rest))[opening.length]? = some mark := by
        obtain ⟨after, same⟩ := starts
        rw [← same]
        simp
      have early : opening.length - (b :: others).length < opening.length := by
        simp only [List.length_cons] at wide ⊢
        omega
      rw [List.getElem?_append_right wide, List.append_assoc,
        List.getElem?_append_left early] at last
      exact only (List.mem_of_getElem? last)
  induction body with
  | nil =>
    have starts : (opening ++ [mark]).isPrefixOf (opening ++ [mark] ++ rest) = true := by
      rw [List.isPrefixOf_iff_prefix]
      exact List.prefix_append ..
    cases opening with
    | nil => simp [sequence?]
    | cons c others =>
      simp only [List.nil_append, List.cons_append] at starts ⊢
      rw [sequence?, if_pos starts]
      rfl
  | cons b others ih =>
    have later : ¬ opening ++ [mark] <:+: others := fun inside =>
      absent (inside.trans (List.suffix_cons b others).isInfix)
    rw [List.cons_append, sequence?, if_neg (unmet b others absent), ih later]
    rfl

/-- A delimiter whose first byte does not stand in front of some bytes is found among them. -/
theorem infix_of_infix_append {needle : Bytes} {mark : UInt8} {front bytes : Bytes}
    (absent : mark ∉ front) (inside : mark :: needle <:+: front ++ bytes) :
    mark :: needle <:+: bytes := by
  induction front with
  | nil => exact inside
  | cons b others ih =>
    rw [List.mem_cons, not_or] at absent
    apply ih absent.2
    rw [List.cons_append, List.infix_cons_iff] at inside
    rcases inside with ⟨after, same⟩ | later
    · rw [List.cons_append, List.cons.injEq] at same
      exact absurd same.1 absent.1
    · exact later

end Delimiter

namespace Scan

open Delimiter

/-- A construct between fixed delimiters, up to the end of the closing one. -/
theorem scan_enclosed {opening closing body : Bytes} {make : Bytes → Token} {cause : Unfinished}
    (kind : Enclosed opening closing make cause) {rest : Bytes}
    (found : sequence? closing (body ++ (closing ++ rest)) = some body.length) :
    scan (opening ++ (body ++ (closing ++ rest))) =
      .token (make body) (opening.length + body.length + closing.length) := by
  have read := scan_eq_iff.mpr (.enclosed kind found)
  rwa [List.take_left] at read

theorem scan_comment {body : Bytes} (absent : ¬ commentClose <:+: body) (rest : Bytes) :
    scan (commentOpen ++ (body ++ (commentClose ++ rest))) =
      .token (.comment body) (commentOpen.length + body.length + commentClose.length) :=
  scan_enclosed .comment (@sequence?_body [0x2d, 0x2d] 0x3e (by decide) body absent rest)

theorem scan_cdata {body : Bytes} (absent : ¬ cdataClose <:+: body) (rest : Bytes) :
    scan (cdataOpen ++ (body ++ (cdataClose ++ rest))) =
      .token (.cdata body) (cdataOpen.length + body.length + cdataClose.length) :=
  scan_enclosed .cdata (@sequence?_body [0x5d, 0x5d] 0x3e (by decide) body absent rest)

/-- The token of an instruction: the declaration of the document where its target is `xml` in any
case. -/
def instructionToken (target data : Bytes) : Token :=
  if target.map Bytes.toLower = declarationTarget then .declaration target data
  else .instruction target data

theorem scan_instruction {target blanks data : Bytes} (named : Bytes.name? target = some target)
    (spaced : blanks.all Bytes.isBlank = true) (apart : data ≠ [] → blanks ≠ [])
    (trimmed : data.head?.any Bytes.isBlank = false) (absent : ¬ instructionClose <:+: data)
    (rest : Bytes) :
    scan (0x3c :: 0x3f :: (target ++ (blanks ++ (data ++ (instructionClose ++ rest))))) =
      .token (instructionToken target data)
        (target.length + blanks.length + data.length + 4) := by
  have front : 0x3f ∉ target ++ blanks := by
    rw [List.mem_append, not_or]
    constructor
    · intro member
      have part := List.takeWhile_eq_self_iff.mp (Bytes.name?_eq_some_iff.mp named).2 _ member
      exact absurd part (by decide)
    · intro member
      exact absurd (List.all_eq_true.mp spaced _ member) (by decide)
  have closed : ¬ instructionClose <:+: target ++ (blanks ++ data) := by
    rw [← List.append_assoc]
    exact fun inside => absent (infix_of_infix_append front inside)
  have found := @sequence?_body [0x3f] 0x3e (by decide) _ closed rest
  have outside : (blanks ++ data).head?.any Bytes.isNamePart = false := by
    cases blanks with
    | nil =>
      have none : data = [] := Classical.byContradiction fun some => apart some rfl
      rw [none]
      rfl
    | cons b others =>
      have blank : Bytes.isBlank b = true := List.all_eq_true.mp spaced b (by simp)
      exact @not_isNamePart_of_head? [b] (by simpa using blank) [] rfl
  have target_read := Bytes.name?_append_of_head? named outside
  have data_read : Bytes.trimLeft (blanks ++ data) = data := by
    rw [Bytes.trimLeft, List.dropWhile_append_of_pos (by simpa using spaced)]
    cases data with
    | nil => rfl
    | cons b others => exact List.dropWhile_cons_of_neg (by simpa using trimmed)
  have shape : target ++ (blanks ++ (data ++ (instructionClose ++ rest))) =
      target ++ (blanks ++ data) ++ ([0x3f] ++ [0x3e] ++ rest) := by
    simp [instructionClose]
  have body : ((target ++ (blanks ++ data) ++ ([0x3f] ++ [0x3e] ++ rest)).take
      (target ++ (blanks ++ data)).length) = target ++ (blanks ++ data) := List.take_left
  rw [← body] at target_read
  have trimmed_read : Bytes.trimLeft ((((target ++ (blanks ++ data) ++ ([0x3f] ++ [0x3e] ++ rest)).take
      (target ++ (blanks ++ data)).length)).drop target.length) = data := by
    rw [body, List.drop_left, data_read]
  rw [shape, scan_eq_iff.mpr (.instruction found target_read trimmed_read)]
  simp only [instructionToken, beq_iff_eq, List.length_append]
  congr 1
  omega

end Scan

/-- A construct as it can be written. -/
inductive Construct
  | text (content : Bytes) (nonempty : content ≠ []) (plain : ∀ b ∈ content, b ≠ 0x3c)
  | comment (body : Bytes) (closed : ¬ Scan.commentClose <:+: body)
  | cdata (body : Bytes) (closed : ¬ Scan.cdataClose <:+: body)
  | instruction (target blanks data : Bytes) (named : Bytes.name? target = some target)
      (spaced : blanks.all Bytes.isBlank = true) (apart : data ≠ [] → blanks ≠ [])
      (trimmed : data.head?.any Bytes.isBlank = false) (closed : ¬ Scan.instructionClose <:+: data)
  | endTag (name blanks : Bytes) (nonempty : name ≠ [])
      (solid : ∀ b ∈ name, b ≠ 0x3e ∧ Bytes.isBlank b = false)
      (spaced : blanks.all Bytes.isBlank = true)
  | startTag (name : Bytes) (written : Text) (named : Bytes.name? name = some name)
      (accepted : ∃ attributes, Attribute.parse written = .ok attributes)
      (spaced : written.head?.all Text.isBlank = true)
  | emptyTag (name : Bytes) (written : Text) (named : Bytes.name? name = some name)
      (accepted : ∃ attributes, Attribute.parse written = .ok attributes)
      (spaced : written.head?.all Text.isBlank = true)

namespace Construct

def isText : Construct → Bool
  | text .. => true
  | comment .. | cdata .. | instruction .. | endTag .. | startTag .. | emptyTag .. => false

/-- The bytes of a construct. -/
def markup : Construct → Bytes
  | text content _ _ => content
  | comment body _ => Scan.commentOpen ++ (body ++ Scan.commentClose)
  | cdata body _ => Scan.cdataOpen ++ (body ++ Scan.cdataClose)
  | instruction target blanks data .. =>
    0x3c :: 0x3f :: (target ++ (blanks ++ (data ++ Scan.instructionClose)))
  | endTag name blanks .. => 0x3c :: 0x2f :: (name ++ (blanks ++ [0x3e]))
  | startTag name written .. => 0x3c :: (name ++ (Utf8.encode written ++ [0x3e]))
  | emptyTag name written .. => 0x3c :: (name ++ (Utf8.encode written ++ [0x2f, 0x3e]))

/-- The token for which a construct stands. -/
def token : Construct → Token
  | text content _ _ => .text content
  | comment body _ => .comment body
  | cdata body _ => .cdata body
  | instruction target _ data .. => Scan.instructionToken target data
  | endTag name .. => .endTag name
  | startTag name written .. => .startTag name (Utf8.encode written)
  | emptyTag name written .. => .emptyTag name (Utf8.encode written)

/-- The tokens of constructs that are written one after another from an offset on. -/
def lexemes (p : Nat) : List Construct → List Lexeme
  | [] => []
  | c :: others =>
    ⟨c.token, p, p + c.markup.length⟩ :: lexemes (p + c.markup.length) others

/-- Markup other than text starts with `<`. -/
theorem head?_markup {c : Construct} (other : c.isText = false) (rest : Bytes) :
    (c.markup ++ rest).head? = some 0x3c := by
  cases c with
  | text => cases other
  | _ => rfl

/-- A construct is read as its token, in its own bytes. Only text takes in what comes after it, up to
the next `<`. -/
theorem scan_markup (c : Construct) {rest : Bytes}
    (stops : c.isText = true → rest.takeWhile (· != 0x3c) = []) :
    scan (c.markup ++ rest) = .token c.token c.markup.length := by
  cases c with
  | text content nonempty plain => exact Scan.scan_text nonempty plain (stops rfl)
  | comment body closed =>
    have read := Scan.scan_comment closed rest
    simp only [markup, token, List.append_assoc, List.length_append]
    rw [read, Nat.add_assoc]
  | cdata body closed =>
    have read := Scan.scan_cdata closed rest
    simp only [markup, token, List.append_assoc, List.length_append]
    rw [read, Nat.add_assoc]
  | instruction target blanks data named spaced apart trimmed closed =>
    have read := Scan.scan_instruction named spaced apart trimmed closed rest
    simp only [markup, token, List.cons_append, List.append_assoc]
    rw [read]
    congr 1
    simp only [List.length_cons, List.length_append, Scan.instructionClose, List.length_nil]
    omega
  | endTag name blanks nonempty solid spaced =>
    have read := Scan.scan_endTag nonempty solid spaced rest
    simp only [markup, token, List.cons_append, List.append_assoc, List.nil_append]
    rw [read]
    congr 1
    simp only [List.length_cons, List.length_append, List.length_nil]
    omega
  | startTag name written named accepted spaced =>
    obtain ⟨attributes, parsed⟩ := accepted
    have grammar := Attribute.parse_eq_ok_iff.mp parsed
    have read := Scan.scan_startTag named grammar.closed
      ((Utf8.sameClass_isBlank.all_head?_encode _).trans spaced)
      grammar.getLast?_ne rest
    simp only [markup, token, List.cons_append, List.append_assoc, List.nil_append]
    rw [read]
    congr 1
    simp only [List.length_cons, List.length_append, List.length_nil]
    omega
  | emptyTag name written named accepted spaced =>
    obtain ⟨attributes, parsed⟩ := accepted
    have grammar := Attribute.parse_eq_ok_iff.mp parsed
    have read := Scan.scan_emptyTag named grammar.closed
      ((Utf8.sameClass_isBlank.all_head?_encode _).trans spaced) rest
    simp only [markup, token, List.cons_append, List.append_assoc, List.nil_append]
    rw [read]
    congr 1
    simp only [List.length_cons, List.length_append, List.length_nil]
    omega

/-- The text of a construct ends where another construct starts that is no text. -/
theorem stops_of_isChain {c : Construct} {others : List Construct}
    (apart : (c :: others).IsChain fun one next => ¬ (one.isText = true ∧ next.isText = true))
    (text : c.isText = true) : (others.flatMap markup).takeWhile (· != 0x3c) = [] := by
  cases others with
  | nil => rfl
  | cons next rest =>
    have other : next.isText = false := by
      rw [List.isChain_cons_cons] at apart
      simpa [text] using apart.1
    have angle := head?_markup other (rest.flatMap markup)
    rw [List.flatMap_cons]
    cases shape : next.markup ++ rest.flatMap markup with
    | nil => rfl
    | cons b after =>
      rw [shape] at angle
      obtain rfl : b = 0x3c := by simpa using angle
      rfl

theorem run_lexemes {constructs : List Construct}
    (apart : constructs.IsChain fun one next => ¬ (one.isText = true ∧ next.isText = true))
    (complete : Bool) (p : Nat) :
    (Lexer.mk complete p (constructs.flatMap markup)).run =
      (lexemes p constructs, .finished,
        ⟨complete, p + (constructs.flatMap markup).length, []⟩) := by
  induction constructs generalizing p with
  | nil =>
    rw [Lexer.run_eq]
    rfl
  | cons c others ih =>
    have read := scan_markup c (stops_of_isChain apart)
    have later := ih apart.of_cons (p + c.markup.length)
    rw [List.flatMap_cons, Lexer.run_eq, Lexer.step, read]
    dsimp only [Lexer.advance]
    rw [List.drop_left, later, List.length_append, Nat.add_assoc]
    rfl

theorem map_token_lexemes (p : Nat) (constructs : List Construct) :
    (lexemes p constructs).map (·.token) = constructs.map token := by
  induction constructs generalizing p with
  | nil => rfl
  | cons c others ih => rw [lexemes, List.map_cons, List.map_cons, ih]

/-- Each token has the bytes of its construct. -/
theorem map_between_lexemes (front : Bytes) (constructs : List Construct) :
    (lexemes front.length constructs).map
        (fun x => (front ++ constructs.flatMap markup).between x.start x.stop) =
      constructs.map markup := by
  induction constructs generalizing front with
  | nil => rfl
  | cons c others ih =>
    have later := ih (front ++ c.markup)
    rw [List.length_append, List.append_assoc] at later
    have here : (front ++ (c.markup ++ others.flatMap markup)).between front.length
        (front.length + c.markup.length) = c.markup := by
      rw [← Bytes.take_drop_eq_between, List.drop_left, List.take_left]
    rw [lexemes, List.map_cons, List.map_cons, List.flatMap_cons, here, later]

/-- Constructs that are written one after another, no text next to text, are read to the end of the
markup as the tokens for which they stand, in the same order and each in its own bytes. -/
theorem run_markup {constructs : List Construct}
    (apart : constructs.IsChain fun one next => ¬ (one.isText = true ∧ next.isText = true)) :
    ∃ read last, (Lexer.ofBytes (constructs.flatMap markup)).run = (read, .finished, last) ∧
      read.map (·.token) = constructs.map token ∧
      read.map (fun x => Bytes.between (constructs.flatMap markup) x.start x.stop) =
        constructs.map markup := by
  refine ⟨lexemes 0 constructs, _, run_lexemes apart true 0, ?_, ?_⟩
  · exact map_token_lexemes 0 constructs
  · exact map_between_lexemes [] constructs

/-- Bodies that end with the first bytes of their delimiters, and a value with `>` and a quotation mark of
the other kind in it: `<?xMl a??>`, a comment `-`, a section `]]`, `<a q='/>"'>`, text and `</a >`. -/
theorem run_markup_overlapping :
    let constructs : List Construct :=
      [.instruction [0x78, 0x4d, 0x6c] [0x20] [0x61, 0x3f] (by decide) (by decide) (by simp) (by decide)
          (by decide),
        .comment [0x2d] (by decide), .cdata [0x5d, 0x5d] (by decide),
        .startTag [0x61] " q='/>\"'".toList (by decide) ⟨[⟨['q'], "/>\"".toList⟩], by decide +kernel⟩
          (by decide),
        .text [0x74] (by simp) (by simp),
        .endTag [0x61] [0x20] (by simp) (by simp [Bytes.isBlank]) (by decide)]
    constructs.IsChain (fun one next => ¬ (one.isText = true ∧ next.isText = true)) ∧
      ∃ read last, (Lexer.ofBytes (constructs.flatMap markup)).run = (read, .finished, last) ∧
        read.map (·.token) =
          [.declaration [0x78, 0x4d, 0x6c] [0x61, 0x3f], .comment [0x2d], .cdata [0x5d, 0x5d],
            .startTag [0x61] (Utf8.encode " q='/>\"'".toList), .text [0x74], .endTag [0x61]] := by
  intro constructs
  have apart : constructs.IsChain fun one next => ¬ (one.isText = true ∧ next.isText = true) := by
    decide
  obtain ⟨read, last, ran, tokens, _⟩ := run_markup apart
  exact ⟨apart, read, last, ran, tokens⟩

end Construct

end MarkupQuery
