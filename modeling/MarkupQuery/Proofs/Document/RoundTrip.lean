import MarkupQuery.Proofs.Document.Building
import MarkupQuery.Proofs.Document.Tagging

/-!
Writing a tree and reading it back. The markup of a tree is a stretch of the markup around it, so what it is
read as is put together like the tree. Main statement: the markup of a tree that was loaded, or made by hand
of names that can be written, is a document with this tree, an empty text being no text
(`Document.ofText_render`).
-/
namespace MarkupQuery

/-- A stretch of markup without a fault, its events well nested. -/
structure Covers (whole : Bytes) (p : Nat) (items : List Item) (content : Content) (q : Nat) :
    Prop where
  lexes : Lexes whole p (items.map (·.lexeme)) q
  decoded : ∀ x ∈ items, Event.ofLexeme x.lexeme = .ok x.event
  nests : Nests items content

namespace Covers

variable {whole : Bytes} {first second : List Item} {one two : Content} {p q r : Nat}

theorem nil (p : Nat) : Covers whole p [] .nil p := ⟨.done p, by simp, .nil⟩

theorem append (h : Covers whole p first one q) (k : Covers whole q second two r) :
    Covers whole p (first ++ second) (one.append two) r where
  lexes := by
    rw [List.map_append]
    exact h.lexes.append k.lexes
  decoded x member := by
    rcases List.mem_append.mp member with inside | inside
    · exact h.decoded x inside
    · exact k.decoded x inside
  nests := h.nests.append k.nests

end Covers

namespace Utf8

@[simp] theorem encode_less (text : Text) : encode ('<' :: text) = 0x3c :: encode text := rfl

@[simp] theorem encode_greater (text : Text) : encode ('>' :: text) = 0x3e :: encode text := rfl

@[simp] theorem encode_slash (text : Text) : encode ('/' :: text) = 0x2f :: encode text := rfl

end Utf8

/-- An item that takes up the markup from one offset to another. -/
structure Item.Spans (whole : Bytes) (p : Nat) (x : Item) (q : Nat) : Prop where
  lexes : Lexes whole p [x.lexeme] q
  decoded : Event.ofLexeme x.lexeme = .ok x.event

theorem Item.Spans.covers {whole : Bytes} {x : Item} {content : Content} {p q : Nat}
    (spans : x.Spans whole p q) (nests : Nests [x] content) : Covers whole p [x] content q where
  lexes := spans.lexes
  decoded y member := by
    rw [List.mem_singleton.mp member]
    exact spans.decoded
  nests := nests

/-- A start tag, what is inside the element, and its end tag. -/
theorem Covers.element {whole : Bytes} {x y : Item} {items : List Item} {inside : Content} {tag : Tag}
    {p q r s : Nat} (first : x.Spans whole p q) (opening : x.event = .start tag)
    (inner : Covers whole q items inside r) (last : y.Spans whole r s)
    (closing : y.event = .stop tag.name) :
    Covers whole p (x :: items ++ [y]) (.element tag x.lexeme.start y.lexeme.stop inside .nil) s where
  lexes := by
    rw [List.map_append]
    exact (first.lexes.append inner.lexes).append last.lexes
  decoded z member := by
    simp only [List.cons_append, List.mem_cons, List.mem_append, List.not_mem_nil, or_false] at member
    rcases member with rfl | inside | rfl
    · exact first.decoded
    · exact inner.decoded z inside
    · exact last.decoded
  nests := .element opening inner.nests closing .nil

section

variable {whole : Bytes} {p : Nat}

/-- A token that is found in front of other markup. -/
theorem Item.exists_of_scan (before : Bytes) {after : Bytes} {token : Token} {event : Event}
    (here : whole.drop p = before ++ after)
    (found : scan (before ++ after) = .token token before.length)
    (made : Event.ofToken token = .ok event) :
    ∃ (x : Item) (q : Nat), x.Spans whole p q ∧ x.event = event ∧ whole.drop q = after := by
  refine ⟨⟨⟨token, p, p + before.length⟩, event⟩, p + before.length, ⟨?_, ?_⟩, rfl, ?_⟩
  · exact .step (by rw [here, found]) (.done _)
  · rw [Event.ofLexeme, made]
  · rw [← List.drop_drop, here, List.drop_left]

variable {e : Element} {around : List Binding}

/-- The start tag of an element. -/
theorem Element.Spelled.exists_start (spelled : e.Spelled around) {after : Text}
    (here : whole.drop p = Utf8.encode ('<' :: e.renderTag ++ '>' :: after)) :
    ∃ (x : Item) (q : Nat), x.Spans whole p q ∧ x.event = .start e.tag ∧
      whole.drop q = Utf8.encode after := by
  obtain ⟨sectioned, spaced⟩ := Attribute.section_renderAll spelled.named
  have found := Scan.scan_startTag spelled.name sectioned.closed
    ((Utf8.sameClass_isBlank.all_head?_encode _).trans spaced)
    sectioned.getLast?_ne (Utf8.encode after)
  have made : Event.ofToken (.startTag (Utf8.encode e.name)
      (Utf8.encode (Attribute.renderAll e.tag.attributes))) = .ok (.start e.tag) := by
    rw [Event.ofToken, spelled.tag_render]
    rfl
  rw [Element.renderTag_eq] at here
  refine Item.exists_of_scan (0x3c :: (Utf8.encode e.name ++
    (Utf8.encode (Attribute.renderAll e.tag.attributes) ++ [0x3e]))) ?_ ?_ made
  · simpa [Utf8.encode_append] using here
  · simpa [Nat.add_assoc] using found

/-- The empty-element tag of an element. -/
theorem Element.Spelled.exists_empty (spelled : e.Spelled around) {after : Text}
    (here : whole.drop p = Utf8.encode ('<' :: e.renderTag ++ '/' :: '>' :: after)) :
    ∃ (x : Item) (q : Nat), x.Spans whole p q ∧ x.event = .empty e.tag ∧
      whole.drop q = Utf8.encode after := by
  obtain ⟨sectioned, spaced⟩ := Attribute.section_renderAll spelled.named
  have found := Scan.scan_emptyTag spelled.name sectioned.closed
    ((Utf8.sameClass_isBlank.all_head?_encode _).trans spaced)
    (Utf8.encode after)
  have made : Event.ofToken (.emptyTag (Utf8.encode e.name)
      (Utf8.encode (Attribute.renderAll e.tag.attributes))) = .ok (.empty e.tag) := by
    rw [Event.ofToken, spelled.tag_render]
    rfl
  rw [Element.renderTag_eq] at here
  refine Item.exists_of_scan (0x3c :: (Utf8.encode e.name ++
    (Utf8.encode (Attribute.renderAll e.tag.attributes) ++ [0x2f, 0x3e]))) ?_ ?_ made
  · simpa [Utf8.encode_append] using here
  · simpa [Nat.add_assoc] using found

/-- The end tag of an element. -/
theorem Name.IsName.exists_stop {name : Text} (named : Name.IsName name) {after : Text}
    (here : whole.drop p = Utf8.encode ('<' :: '/' :: name ++ '>' :: after)) :
    ∃ (x : Item) (q : Nat), x.Spans whole p q ∧ x.event = .stop name ∧
      whole.drop q = Utf8.encode after := by
  have spaced : ([] : Bytes).all Bytes.isBlank = true := rfl
  have found := Scan.scan_endTag (Scan.name?_ne_nil named) (Bytes.solid_of_name named) spaced
    (Utf8.encode after)
  have made : Event.ofToken (.endTag (Utf8.encode name)) = .ok (.stop name) := by
    rw [Event.ofToken, Event.text?, Utf8.decode?_encode]
    rfl
  refine Item.exists_of_scan (0x3c :: 0x2f :: (Utf8.encode name ++ [0x3e])) ?_ ?_ made
  · simpa [Utf8.encode_append] using here
  · simpa [Nat.add_assoc] using found

/-- Text in front of a tag. -/
theorem Item.exists_text {text : Text} (nonempty : text ≠ []) {after : Bytes}
    (here : whole.drop p = Utf8.encode (Reference.encodeText text) ++ 0x3c :: after) :
    ∃ (x : Item) (q : Nat), x.Spans whole p q ∧ x.event = .text text ∧
      whole.drop q = 0x3c :: after := by
  have found : scan (Utf8.encode (Reference.encodeText text) ++ 0x3c :: after) =
      .token (.text (Utf8.encode (Reference.encodeText text)))
        (Utf8.encode (Reference.encodeText text)).length := by
    refine Scan.scan_text ?_ ?_ rfl
    · intro none
      have plain : Reference.encodeText text = [] := Utf8.encode_injective none
      have decoded := Reference.decode_encodeText text
      rw [plain, Reference.decode_nil] at decoded
      exact nonempty decoded.symm
    · rintro b member rfl
      have angle := (Utf8.mem_encode_iff (c := '<') (by decide)).mp member
      exact (Reference.plain_of_mem_escape angle).1 rfl
  have made : Event.ofToken (.text (Utf8.encode (Reference.encodeText text))) = .ok (.text text) := by
    rw [Event.ofToken, Event.text?, Utf8.decode?_encode]
    simp [Functor.map, Except.map, Reference.decode_encodeText]
  exact Item.exists_of_scan _ here found made

end

namespace Element

/-- An empty text counts as none. -/
def withoutEmptyText (e : Element) : Element := { e with text := e.text.filter (!·.isEmpty) }

/-- The character data that an element writes before its children. -/
def pieces (e : Element) : List Text := if e.value.isEmpty then [] else [e.value]

theorem Spelled.toElement_pieces {around : List Binding} {e : Element} (h : e.Spelled around) :
    e.tag.toElement around e.pieces = e.withoutEmptyText := by
  rw [h.toElement_tag, withoutEmptyText, pieces, value]
  congr 1
  cases e.text with
  | none => rfl
  | some text => cases empty : text.isEmpty <;> simp [empty, Option.filter]

end Element

namespace Node

mutual

/-- A tree in which no element has an empty text. -/
def withoutEmptyText : Node → Node
  | ⟨element, children⟩ => ⟨element.withoutEmptyText, withoutEmptyTextAll children⟩

/-- Trees in which no element has an empty text. -/
def withoutEmptyTextAll : List Node → List Node
  | [] => []
  | child :: others => child.withoutEmptyText :: withoutEmptyTextAll others

end

end Node

section

variable {whole : Bytes}

/-- The text of an element, empty or not, in front of a tag. -/
theorem Covers.exists_text {p : Nat} (text : Text) {after : Bytes}
    (here : whole.drop p = Utf8.encode (Reference.encodeText text) ++ 0x3c :: after) :
    ∃ items content q, Covers whole p items content q ∧ whole.drop q = 0x3c :: after ∧
      content.texts = (if text.isEmpty then [] else [text]) ∧
      ∀ around, content.nodes around = [] := by
  by_cases empty : text = []
  · subst empty
    exact ⟨[], .nil, p, .nil p, here, rfl, fun _ => rfl⟩
  · obtain ⟨x, q, spans, event, rest⟩ := Item.exists_text empty here
    refine ⟨[x], .data text .nil, q, spans.covers (.data (.inl event) .nil), rest, ?_, fun _ => rfl⟩
    rw [if_neg (by simpa using empty)]
    rfl

/-- The markup inside an element goes on with a tag after its text. -/
theorem Node.exists_angle (children : List Node) (rest : Text) :
    ∃ after, Utf8.encode (Node.renderAllBefore children ('<' :: rest)) = 0x3c :: after := by
  cases children with
  | nil => exact ⟨_, rfl⟩
  | cons child others =>
    obtain ⟨element, children⟩ := child
    exact ⟨_, rfl⟩

-- Induction on the tree, whatever comes after its markup: each part is found where the part before it
-- ended, and the contents are put together in the order of the parts.
mutual

/-- The markup of a tree reads as the tree. -/
theorem Node.exists_covers {around : List Binding} : (n : Node) → n.Spelled around →
    ∀ {p : Nat} {rest : Text}, whole.drop p = Utf8.encode (n.renderBefore rest) →
      ∃ items content q, Covers whole p items content q ∧ whole.drop q = Utf8.encode rest ∧
        content.texts = [] ∧ content.nodes around = [n.withoutEmptyText]
  | ⟨e, children⟩, ⟨spelled, below⟩, p, rest, here => by
    rw [Node.renderBefore] at here
    by_cases bare : (children.isEmpty && e.text.isNone) = true
    · rw [if_pos bare] at here
      obtain ⟨x, q, spans, event, ends⟩ := spelled.exists_empty here
      refine ⟨[x], _, q, spans.covers (.empty event .nil), ends, rfl, ?_⟩
      rw [Bool.and_eq_true, List.isEmpty_iff, Option.isNone_iff_eq_none] at bare
      have none : e.pieces = [] := by simp [Element.pieces, Element.value, bare.2]
      have same := spelled.toElement_pieces
      rw [none] at same
      rw [bare.1, Content.nodes, Content.texts, same]
      rfl
    · rw [if_neg bare] at here
      have started : whole.drop p = Utf8.encode ('<' :: e.renderTag ++ '>' ::
          (Reference.encodeText e.value ++
            Node.renderAllBefore children ('<' :: '/' :: e.name ++ '>' :: rest))) := here
      obtain ⟨x, q, first, opening, filled⟩ := spelled.exists_start started
      -- Text is read up to the next tag, so the tag has to show before the text can be found.
      obtain ⟨after, angle⟩ := Node.exists_angle children ('/' :: e.name ++ '>' :: rest)
      have tagged : Utf8.encode (Node.renderAllBefore children
          ('<' :: '/' :: e.name ++ '>' :: rest)) = 0x3c :: after := angle
      rw [Utf8.encode_append, tagged] at filled
      obtain ⟨data, pieces, r, text, ends, texts, nodes⟩ := Covers.exists_text e.value filled
      rw [← tagged] at ends
      obtain ⟨items, inside, s, inner, closed, none, kept⟩ :=
        Node.exists_covers_all children below ends
      obtain ⟨y, t, last, closing, left⟩ := spelled.name.exists_stop closed
      refine ⟨_, _, t, .element first opening (text.append inner) last closing, left, rfl, ?_⟩
      have inward : (pieces.append inside).texts = e.pieces := by
        rw [Content.texts_append, texts, none, List.append_nil]
        rfl
      have outward : (pieces.append inside).nodes (e.tag.scope around) =
          Node.withoutEmptyTextAll children := by
        rw [Content.nodes_append, nodes, List.nil_append, spelled.scope_tag, kept]
      rw [Content.nodes, inward, outward, spelled.toElement_pieces]
      rfl

/-- The markup of trees one after another reads as the trees. -/
theorem Node.exists_covers_all {around : List Binding} : (ns : List Node) → Node.SpelledAll around ns →
    ∀ {p : Nat} {rest : Text}, whole.drop p = Utf8.encode (Node.renderAllBefore ns rest) →
      ∃ items content q, Covers whole p items content q ∧ whole.drop q = Utf8.encode rest ∧
        content.texts = [] ∧ content.nodes around = Node.withoutEmptyTextAll ns
  | [], _, p, rest, here => ⟨[], .nil, p, .nil p, here, rfl, rfl⟩
  | child :: others, ⟨first, later⟩, p, rest, here => by
    rw [Node.renderAllBefore] at here
    obtain ⟨items, content, q, head, between, none, tree⟩ := Node.exists_covers child first here
    obtain ⟨more, further, r, tail, ends, blank, trees⟩ :=
      Node.exists_covers_all others later between
    refine ⟨items ++ more, content.append further, r, head.append tail, ends, ?_, ?_⟩
    · rw [Content.texts_append, none, blank]
      rfl
    · rw [Content.nodes_append, tree, trees]
      rfl

end

end

namespace Node

theorem withoutMark_render (n : Node) : withoutMark n.render = n.render := by
  obtain ⟨element, children⟩ := n
  rfl

/-- The markup of a tree that it can write is loaded as the tree. -/
theorem Spelled.parse_render {n : Node} (spelled : n.Spelled []) :
    parse [] n.render = .ok n.withoutEmptyText := by
  have here : (Utf8.encode n.render).drop 0 = Utf8.encode (n.renderBefore []) := rfl
  obtain ⟨items, content, q, covers, ends, texts, nodes⟩ := n.exists_covers spelled here
  have whole : Utf8.encode n.render = (Utf8.encode n.render).between 0 q := by
    rw [Bytes.between, List.drop_zero, List.take_of_length_le (List.drop_eq_nil_iff.mp ends)]
  have read := Event.ofText_between covers.lexes covers.decoded whole
  rw [← withoutMark_render] at read
  exact parse_of_nests Namespace.proper_nil read covers.nests (by simp [texts]) nodes

/-- A tree that was loaded can be written. -/
theorem spelled_of_parse {markup : Text} {root : Node} (loaded : parse [] markup = .ok root) :
    root.Spelled [] := by
  obtain ⟨items, content, reads, nests, _, one⟩ :=
    (parse_eq_ok_iff Namespace.proper_nil markup root).mp loaded
  have spelled := nests.spelled (fun x member tag tagged => reads.wellformed member tagged) []
  rw [one] at spelled
  exact spelled.1

end Node

namespace Document

/-- The markup of the root of a document, and of a tree made by hand whose names can be written, is a
document with this tree as its root, up to texts that are empty. -/
theorem ofText_render {n : Node}
    (origin : (∃ markup document, ofText markup = .ok document ∧ document.root = n) ∨
      (n.Made ∧ n.Every Element.Writable)) :
    ofText n.render = .ok ⟨[], n.withoutEmptyText⟩ := by
  have spelled : n.Spelled [] := by
    rcases origin with ⟨markup, ⟨source, root⟩, loaded, rfl⟩ | ⟨made, writable⟩
    · exact Node.spelled_of_parse (ofText_eq_ok_iff_parse.mp loaded).2
    · exact made.spelled writable
  exact ofText_eq_ok_iff_parse.mpr ⟨rfl, spelled.parse_render⟩

/-- A tree with the characters that markup takes as its own, a qualifier that is taken back further down,
and an empty text. -/
def sample : Node :=
  ((((Node.ofName "p:a".toList).withNamespace (some ['p']) "'<u>'".toList).withAttribute
    "k".toList "\"&lt;>\n".toList).withText "]]> & </a>".toList).withChild
      (((Node.ofName "p:b".toList).withChild ((Node.ofName "c".toList).withText [])).withNamespace
        (some ['p']) [])

/-- This tree, and the root of a document with an empty text and the reserved qualifier. -/
theorem ofText_render_sample :
    ofText sample.render = .ok ⟨[], sample.withoutEmptyText⟩ ∧
      (∃ document, ofText "<a xmlns='u'><![CDATA[]]><xml:b c='&#65;'/></a>".toList = .ok document ∧
        ofText document.root.render = .ok ⟨[], document.root.withoutEmptyText⟩) := by
  constructor
  · refine ofText_render (.inr ⟨?_, by decide +kernel⟩)
    exact .withChild (.withText (.withAttribute (.withNamespace (.ofName _) _ _) _ _) _)
      (.withNamespace (.withChild (.ofName _) (.withText (.ofName _) _)) _ _)
  · have some : (ofText "<a xmlns='u'><![CDATA[]]><xml:b c='&#65;'/></a>".toList).isOk = true := by
      decide +kernel
    cases loaded : ofText "<a xmlns='u'><![CDATA[]]><xml:b c='&#65;'/></a>".toList with
    | error failure =>
      rw [loaded] at some
      cases some
    | ok document => exact ⟨document, rfl, ofText_render (.inl ⟨_, document, loaded, rfl⟩)⟩

end Document

end MarkupQuery
