import MarkupQuery.Proofs.Lexer.Tiling
import MarkupQuery.Utf8

/-!
Where a document type declaration ends. `DocumentType` says how one is written, with an internal subset
of declarations, comments, instructions and references; the lexer looks for the end with one open
quotation mark and a count of brackets in mind and knows nothing of comments and instructions. Main
statements: it finds the end where quotation marks and brackets come in pairs in every comment and
instruction of the subset (`DocumentType.step_markup`), and an apostrophe in a comment hides it
(`DocumentType.unfinished_of_apostrophe`).
-/
namespace MarkupQuery

/-- Any number of blanks. -/
structure Blanks where
  bytes : Bytes
  blank : bytes.all Bytes.isBlank = true

/-- At least one blank. -/
structure Gap extends Blanks where
  nonempty : bytes ≠ []

/-- Bytes between two equal quotation marks. -/
structure Literal where
  quote : UInt8
  inner : Bytes
  mark : Delimiter.isQuote quote = true
  plain : quote ∉ inner

def Literal.markup (l : Literal) : Bytes := l.quote :: (l.inner ++ [l.quote])

namespace Delimiter

def isBracket (b : UInt8) : Bool := b == 0x5b || b == 0x5d

/-- A byte that counts for nothing, wherever it stands in a document type declaration. -/
def isPlain (b : UInt8) : Bool := !isQuote b && !isBracket b && b != 0x3e

/-- Quotation marks come in pairs, and outside of them brackets do. -/
inductive Balanced : Bytes → Prop
  | nil : Balanced []
  | byte (b : UInt8) (unquoted : isQuote b = false) (unbracketed : isBracket b = false) : Balanced [b]
  | literal (l : Literal) : Balanced l.markup
  | bracketed {inner : Bytes} (within : Balanced inner) : Balanced (0x5b :: (inner ++ [0x5d]))
  | append {first second : Bytes} (left : Balanced first) (right : Balanced second) :
      Balanced (first ++ second)

/-- The search for the end of a document type declaration passes over the bytes at a depth and is at this
depth after them, outside quotation marks. -/
def Even (depth : Nat) (bytes : Bytes) : Prop :=
  ∀ rest, doctypeEndFrom? none depth (bytes ++ rest) =
    (doctypeEndFrom? none depth rest).map (· + bytes.length)

variable {depth : Nat} {first second inner bytes : Bytes}

theorem even_nil (depth : Nat) : Even depth [] := by
  intro rest
  simp

theorem Even.append (h : Even depth first) (k : Even depth second) : Even depth (first ++ second) := by
  intro rest
  rw [List.append_assoc, h, k, Option.map_map, List.length_append]
  congr 1
  funext n
  simp only [Function.comp]
  omega

theorem even_flatMap {α : Type} {items : List α} {markup : α → Bytes}
    (each : ∀ x ∈ items, Even depth (markup x)) : Even depth (items.flatMap markup) := by
  induction items with
  | nil => exact even_nil depth
  | cons x others ih =>
    rw [List.flatMap_cons]
    apply Even.append
    · exact each x (by simp)
    · exact ih fun y member => each y (by simp [member])

/-- A `>` counts only outside brackets. -/
theorem even_byte {b : UInt8} (unquoted : isQuote b = false) (unbracketed : isBracket b = false)
    (inside : b = 0x3e → depth ≠ 0) : Even depth [b] := by
  intro rest
  rw [isBracket, Bool.or_eq_false_iff] at unbracketed
  have passed : (b == 0x3e && depth == 0) = false := by
    by_cases mark : b = 0x3e
    · simp [inside mark]
    · simp [mark]
  rw [List.cons_append, doctypeEndFrom?, unquoted, unbracketed.1, unbracketed.2, passed]
  simp

theorem even_plain (depth : Nat) (plain : bytes.all isPlain = true) : Even depth bytes := by
  have each : ∀ b ∈ bytes, Even depth [b] := by
    intro b member
    have free := List.all_eq_true.mp plain b member
    simp only [isPlain, Bool.and_eq_true, Bool.not_eq_true', bne_iff_ne, ne_eq] at free
    exact even_byte free.1.1 free.1.2 fun mark => absurd mark free.2
  have whole := even_flatMap each
  rw [List.flatMap_singleton'] at whole
  exact whole

theorem doctypeEndFrom?_quoted {quote : UInt8} (plain : quote ∉ inner) (rest : Bytes) :
    doctypeEndFrom? (some quote) depth (inner ++ quote :: rest) =
      (doctypeEndFrom? none depth rest).map (· + (inner.length + 1)) := by
  induction inner with
  | nil => simp [doctypeEndFrom?]
  | cons b others ih =>
    rw [List.mem_cons, not_or] at plain
    have other : (b == quote) = false := by simpa using Ne.symm plain.1
    rw [List.cons_append, doctypeEndFrom?, other]
    simp only [Bool.false_eq_true, if_false, ih plain.2, Option.map_map]
    congr 1

theorem even_literal (depth : Nat) (l : Literal) : Even depth l.markup := by
  intro rest
  have shape : l.markup ++ rest = l.quote :: (l.inner ++ l.quote :: rest) := by simp [Literal.markup]
  rw [shape, doctypeEndFrom?, if_pos l.mark, doctypeEndFrom?_quoted l.plain, Option.map_map]
  simp [Literal.markup, Function.comp_def, Nat.add_assoc]

theorem even_bracketed (h : Even (depth + 1) inner) : Even depth (0x5b :: (inner ++ [0x5d])) := by
  intro rest
  have shape : 0x5b :: (inner ++ [0x5d]) ++ rest = 0x5b :: (inner ++ 0x5d :: rest) := by simp
  have opening : doctypeEndFrom? none depth (0x5b :: (inner ++ 0x5d :: rest)) =
      (doctypeEndFrom? none (depth + 1) (inner ++ 0x5d :: rest)).map (· + 1) := rfl
  have closing : doctypeEndFrom? none (depth + 1) (0x5d :: rest) =
      (doctypeEndFrom? none depth rest).map (· + 1) := rfl
  rw [shape, opening, h, closing, Option.map_map, Option.map_map]
  simp [Function.comp_def, Nat.add_assoc, Nat.add_comm]

/-- Inside brackets a `>` counts for nothing. -/
theorem Balanced.even (h : Balanced bytes) (depth : Nat) : Even (depth + 1) bytes := by
  induction h generalizing depth with
  | nil => exact even_nil _
  | byte b unquoted unbracketed => exact even_byte unquoted unbracketed fun _ => Nat.succ_ne_zero depth
  | literal l => exact even_literal _ l
  | bracketed _ ih => exact even_bracketed (ih (depth + 1))
  | append _ _ one two => exact (one depth).append (two depth)

theorem even_blanks (depth : Nat) (b : Blanks) : Even depth b.bytes := by
  apply even_plain
  rw [List.all_eq_true]
  intro c member
  have blank := List.all_eq_true.mp b.blank c member
  simp only [Bytes.isBlank, Bool.or_eq_true, beq_iff_eq] at blank
  rcases blank with ((rfl | rfl) | rfl) | rfl <;> rfl

theorem even_name (depth : Nat) {name : Bytes} (named : Bytes.name? name = some name) :
    Even depth name := by
  apply even_plain
  rw [List.all_eq_true]
  intro b member
  have part := List.takeWhile_eq_self_iff.mp (Bytes.name?_eq_some_iff.mp named).2 b member
  by_contra special
  simp only [isPlain, isQuote, isBracket, Bool.and_eq_true, Bool.not_eq_true', bne_iff_ne, ne_eq,
    Bool.or_eq_false_iff, beq_eq_false_iff_ne, not_and_or, not_not] at special
  rcases special with ((rfl | rfl) | (rfl | rfl)) | rfl <;> exact absurd part (by decide)

end Delimiter

/-- Where the rest of the declarations can be found. -/
inductive ExternalId
  | system (gap : Gap) (place : Literal)
  | general (gap : Gap) (name : Literal) (between : Gap) (place : Literal)

namespace ExternalId

/-- `SYSTEM` -/
def systemKeyword : Bytes := [0x53, 0x59, 0x53, 0x54, 0x45, 0x4d]

/-- `PUBLIC` -/
def publicKeyword : Bytes := [0x50, 0x55, 0x42, 0x4c, 0x49, 0x43]

def markup : ExternalId → Bytes
  | system gap place => systemKeyword ++ (gap.bytes ++ place.markup)
  | general gap name between place =>
    publicKeyword ++ (gap.bytes ++ (name.markup ++ (between.bytes ++ place.markup)))

end ExternalId

/-- What stands in a markup declaration after its keyword. -/
inductive DeclarationPart
  | byte (b : UInt8) (plain : Delimiter.isPlain b = true)
  | literal (l : Literal)

def DeclarationPart.markup : DeclarationPart → Bytes
  | byte b _ => [b]
  | literal l => l.markup

/-- A piece of the internal subset: blanks, a markup declaration such as that of an entity, a comment, an
instruction or a reference to a parameter entity. -/
inductive SubsetItem
  | blanks (b : Blanks)
  | declaration (keyword : Bytes) (named : Bytes.name? keyword = some keyword)
      (parts : List DeclarationPart)
  | comment (body : Bytes) (closed : ¬ [0x2d, 0x2d] <:+: body)
  | instruction (target data : Bytes) (named : Bytes.name? target = some target)
      (apart : data.head?.all Bytes.isBlank = true) (closed : ¬ Scan.instructionClose <:+: data)
  | reference (name : Bytes) (named : Bytes.name? name = some name)

namespace SubsetItem

def markup : SubsetItem → Bytes
  | blanks b => b.bytes
  | declaration keyword _ parts =>
    [0x3c, 0x21] ++ (keyword ++ (parts.flatMap DeclarationPart.markup ++ [0x3e]))
  | comment body _ => Scan.commentOpen ++ (body ++ Scan.commentClose)
  | instruction target data .. => [0x3c, 0x3f] ++ (target ++ (data ++ Scan.instructionClose))
  | reference name _ => [0x25] ++ (name ++ [0x3b])

/-- In the body of a comment and in the data of an instruction, quotation marks and brackets come in
pairs. -/
def Paired : SubsetItem → Prop
  | comment body _ => Delimiter.Balanced body
  | instruction _ data .. => Delimiter.Balanced data
  | blanks _ | declaration .. | reference .. => True

end SubsetItem

/-- A document type declaration as it can be written. -/
structure DocumentType where
  before : Gap
  name : Bytes
  named : Bytes.name? name = some name
  external : Option (Gap × ExternalId)
  subset : Option (Blanks × List SubsetItem)
  after : Blanks

namespace DocumentType

open Delimiter

/-- The bracketed internal subset with the blanks before it. -/
def subsetMarkup : Option (Blanks × List SubsetItem) → Bytes
  | none => []
  | some (b, items) => b.bytes ++ 0x5b :: (items.flatMap SubsetItem.markup ++ [0x5d])

def externalMarkup : Option (Gap × ExternalId) → Bytes
  | none => []
  | some (gap, id) => gap.bytes ++ id.markup

/-- What stands between the opening of the declaration and the `>` that closes it. -/
def content (d : DocumentType) : Bytes :=
  d.before.bytes ++ (d.name ++ (externalMarkup d.external ++
    (subsetMarkup d.subset ++ d.after.bytes)))

def markup (d : DocumentType) : Bytes := Scan.doctypeOpen ++ (d.content ++ [0x3e])

/-- The pieces of the internal subset. -/
def items (d : DocumentType) : List SubsetItem := d.subset.elim [] (·.2)

theorem even_external (depth : Nat) (external : Option (Gap × ExternalId)) :
    Even depth (externalMarkup external) := by
  cases external with
  | none => exact even_nil depth
  | some pair =>
    obtain ⟨gap, id⟩ := pair
    apply (even_blanks depth gap.toBlanks).append
    cases id with
    | system gap place =>
      have keyword : Even depth ExternalId.systemKeyword := even_plain depth rfl
      exact keyword.append ((even_blanks depth gap.toBlanks).append (even_literal depth place))
    | general gap name between place =>
      have keyword : Even depth ExternalId.publicKeyword := even_plain depth rfl
      exact keyword.append ((even_blanks depth gap.toBlanks).append
        ((even_literal depth name).append
          ((even_blanks depth between.toBlanks).append (even_literal depth place))))

/-- Every piece of the subset is passed over inside the brackets. -/
theorem even_item (depth : Nat) {x : SubsetItem} (paired : x.Paired) : Even (depth + 1) x.markup := by
  have angle : Even (depth + 1) [0x3e] := even_byte rfl rfl fun _ => Nat.succ_ne_zero depth
  cases x with
  | blanks b => exact even_blanks _ b
  | declaration keyword named parts =>
    have opening : Even (depth + 1) [0x3c, 0x21] := even_plain _ rfl
    have each : ∀ part ∈ parts, Even (depth + 1) part.markup := by
      intro part _
      cases part with
      | byte b plain => exact even_plain _ (by simpa [DeclarationPart.markup] using plain)
      | literal l => exact even_literal _ l
    exact opening.append ((even_name _ named).append ((even_flatMap each).append angle))
  | comment body closed =>
    have opening : Even (depth + 1) Scan.commentOpen := even_plain _ rfl
    have dashes : Even (depth + 1) [0x2d, 0x2d] := even_plain _ rfl
    exact opening.append ((Balanced.even paired depth).append (dashes.append angle))
  | instruction target data named apart closed =>
    have opening : Even (depth + 1) [0x3c, 0x3f] := even_plain _ rfl
    have mark : Even (depth + 1) [0x3f] := even_plain _ rfl
    exact opening.append ((even_name _ named).append
      ((Balanced.even paired depth).append (mark.append angle)))
  | reference name named =>
    have opening : Even (depth + 1) [0x25] := even_plain _ rfl
    have closing : Even (depth + 1) [0x3b] := even_plain _ rfl
    exact opening.append ((even_name _ named).append closing)

theorem even_content {d : DocumentType} (paired : ∀ x ∈ d.items, x.Paired) : Even 0 d.content := by
  have subset : Even 0 (subsetMarkup d.subset) := by
    unfold items at paired
    cases given : d.subset with
    | none => exact even_nil 0
    | some pair =>
      obtain ⟨b, items⟩ := pair
      rw [given] at paired
      apply (even_blanks 0 b).append
      apply even_bracketed
      exact even_flatMap fun x member => even_item 0 (paired x member)
  exact (even_blanks 0 d.before.toBlanks).append ((even_name 0 d.named).append
    ((even_external 0 d.external).append (subset.append (even_blanks 0 d.after))))

theorem scan_markup {d : DocumentType} (paired : ∀ x ∈ d.items, x.Paired) (rest : Bytes) :
    scan (d.markup ++ rest) = .token (.doctype d.content) d.markup.length := by
  have opening : Even 0 Scan.doctypeOpen := even_plain 0 rfl
  have found := (opening.append (even_content paired)) (0x3e :: rest)
  have last : doctypeEndFrom? none 0 (0x3e :: rest) = some 0 := rfl
  rw [last, List.length_append, List.append_assoc] at found
  have shape : d.markup ++ rest = Scan.doctypeOpen ++ (d.content ++ 0x3e :: rest) := by
    simp [markup]
  have inner : ((Scan.doctypeOpen ++ (d.content ++ 0x3e :: rest)).take
      (Scan.doctypeOpen.length + d.content.length)).drop Scan.doctypeOpen.length = d.content := by
    rw [List.drop_take, Nat.add_sub_cancel_left, List.drop_left, List.take_left]
  rw [Option.map_some, Nat.zero_add] at found
  rw [shape, Scan.scan_eq_iff.mpr (.doctype found), inner, markup, List.length_append, List.length_append,
    Nat.add_assoc]
  rfl

/-- A document type declaration is one token that ends with its closing `>`, whatever comes after it, where
quotation marks and brackets come in pairs in each comment and each instruction of its internal subset.
In literals they may stand as they like. -/
theorem step_markup {d : DocumentType} (paired : ∀ x ∈ d.items, x.Paired) (complete : Bool) (p : Nat)
    (rest : Bytes) :
    (Lexer.mk complete p (d.markup ++ rest)).step =
      (.lexeme ⟨.doctype d.content, p, p + d.markup.length⟩,
        ⟨complete, p + d.markup.length, rest⟩) := by
  rw [Lexer.step, scan_markup paired]
  dsimp only [Lexer.advance]
  rw [List.drop_left]

/-- The name and the internal subset of a declaration without an external identifier. -/
def ofSubset (name : Bytes) (named : Bytes.name? name = some name) (items : List SubsetItem) :
    DocumentType :=
  ⟨⟨⟨[0x20], rfl⟩, by decide⟩, name, named, none, some (⟨[0x20], rfl⟩, items), ⟨[], rfl⟩⟩

/-- The declaration `<!DOCTYPE a [<!-- [">"] --><!ENTITY b "]>'">]>` before the element `a`. -/
theorem step_markup_of_literal :
    let comment : Bytes := [0x20, 0x5b, 0x22, 0x3e, 0x22, 0x5d, 0x20]
    let d := ofSubset [0x61] (by decide)
      [.comment comment (by decide),
        .declaration (Utf8.encode "ENTITY".toList) (by decide)
          [.byte 0x20 (by decide), .byte 0x62 (by decide), .byte 0x20 (by decide),
            .literal ⟨0x22, Utf8.encode "]>'".toList, by decide, by decide⟩]]
    (∀ x ∈ d.items, x.Paired) ∧
      d.markup = Utf8.encode "<!DOCTYPE a [<!-- [\">\"] --><!ENTITY b \"]>'\">]>".toList ∧
      (Lexer.ofBytes (d.markup ++ [0x3c, 0x61, 0x2f, 0x3e])).step.1 =
        .lexeme ⟨.doctype d.content, 0, 0 + d.markup.length⟩ := by
  intro comment d
  have literal : Balanced [0x22, 0x3e, 0x22] := .literal ⟨0x22, [0x3e], rfl, by decide⟩
  have balanced : Balanced comment :=
    .append (.byte 0x20 rfl rfl) (.append (.bracketed literal) (.byte 0x20 rfl rfl))
  have paired : ∀ x ∈ d.items, x.Paired := by
    intro x member
    rcases List.mem_cons.mp member with rfl | later
    · exact balanced
    · rw [List.mem_singleton.mp later]
      trivial
  have step := step_markup paired true 0 [0x3c, 0x61, 0x2f, 0x3e]
  exact ⟨paired, by decide, congrArg Prod.fst step⟩

/-- The apostrophe of a comment is taken for a quotation mark that is never closed, so the declaration
`<!DOCTYPE a [<!-- it's -->]>` before the element `a` has no end. -/
theorem unfinished_of_apostrophe :
    let d := ofSubset [0x61] (by decide) [.comment (Utf8.encode " it's ".toList) (by decide)]
    d.markup = Utf8.encode "<!DOCTYPE a [<!-- it's -->]>".toList ∧
      (Lexer.ofBytes (d.markup ++ [0x3c, 0x61, 0x2f, 0x3e])).step.1 =
        .fault ⟨.unfinished .doctype, 0⟩ := by
  decide +kernel

end DocumentType

end MarkupQuery
