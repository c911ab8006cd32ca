import MarkupQuery.Document
import MarkupQuery.Proofs.Attribute.Slicing
import MarkupQuery.Proofs.Lexer.Encoding

/-!
Markup that is text gives no faults of encoding. What the lexer cuts out of text is text, so none of it
fails to be decoded, whatever is read after a fault; nothing else puts a fault down to the encoding, so
neither an event nor a list of events is refused for it (`Event.failsOnly_next`, `Event.failsOnly_parse`), nor
is a document (`Document.failsOnly_ofText`). Main statement: all of this together, with attributes and
references cut out of text between its characters (`Document.text_throughout`).
-/
namespace MarkupQuery

open Utf8 (Boundary Encoded)

/-- Every failure is one of some kind. -/
def FailsOnly {ε α : Type} (P : ε → Prop) (outcome : Except ε α) : Prop :=
  ∀ e, outcome = .error e → P e

namespace FailsOnly

variable {ε α β : Type} {P : ε → Prop} {outcome : Except ε α}

theorem ok (a : α) : FailsOnly P (.ok a : Except ε α) := nofun

theorem error {e : ε} (h : P e) : FailsOnly P (.error e : Except ε α) := by
  rintro _ ⟨⟩
  exact h

theorem mono {Q : ε → Prop} (h : FailsOnly P outcome) (weaker : ∀ e, P e → Q e) : FailsOnly Q outcome :=
  fun e failed => weaker e (h e failed)

theorem bind {next : α → Except ε β} (first : FailsOnly P outcome)
    (after : ∀ a, FailsOnly P (next a)) : FailsOnly P (outcome >>= next) := by
  cases outcome with
  | error e => exact error (first e rfl)
  | ok a => exact after a

theorem map (f : α → β) (h : FailsOnly P outcome) : FailsOnly P (f <$> outcome) := by
  cases outcome with
  | error e => exact error (h e rfl)
  | ok a => exact ok (f a)

theorem foldlM {step : β → α → Except ε β} (each : ∀ b a, FailsOnly P (step b a)) (xs : List α)
    (b : β) : FailsOnly P (xs.foldlM step b) := by
  induction xs generalizing b with
  | nil => exact ok b
  | cons a others ih => exact bind (each b a) ih

end FailsOnly

/-- What can be wrong with the attributes of a construct. -/
def EventCause.OfAttributes : EventCause → Prop
  | attributes _ | duplicateAttribute _ => True
  | lexical _ | encoding => False

/-- A fault that is not put down to the encoding of the markup. -/
def EventFault.Beside (fault : EventFault) : Prop := fault.cause ≠ .encoding

namespace Event

variable {bytes : Bytes}

theorem failsOnly_text? {P : EventCause → Prop} (encoded : Encoded bytes) : FailsOnly P (text? bytes) := by
  obtain ⟨text, rfl⟩ := encoded
  rw [text?, Utf8.decode?_encode]
  exact .ok text

theorem failsOnly_attributes (encoded : Encoded bytes) :
    FailsOnly EventCause.OfAttributes (attributes bytes) := by
  refine .bind (failsOnly_text? encoded) fun text => ?_
  cases Attribute.parse text with
  | error fault => exact .error trivial
  | ok read => exact .ok read

theorem failsOnly_tag {name raw : Bytes} (first : Encoded name) (second : Encoded raw) :
    FailsOnly EventCause.OfAttributes (tag name raw) := by
  refine .bind (failsOnly_text? first) fun name => .bind (failsOnly_attributes second) fun read => ?_
  cases Attribute.duplicate? read with
  | some repeated => exact .error trivial
  | none => exact .ok _

theorem failsOnly_ofToken {token : Token} (parts : ∀ part ∈ token.parts, Encoded part) :
    FailsOnly EventCause.OfAttributes (ofToken token) := by
  cases token with
  | startTag name raw | emptyTag name raw =>
    exact .map _ (failsOnly_tag (parts name List.mem_cons_self)
      (parts raw (List.mem_cons_of_mem name List.mem_cons_self)))
  | endTag raw | text raw | cdata raw | comment raw | doctype raw =>
    exact .map _ (failsOnly_text? (parts raw List.mem_cons_self))
  | instruction target data =>
    exact .bind (failsOnly_text? (parts target List.mem_cons_self)) fun _ =>
      .bind (failsOnly_text? (parts data (List.mem_cons_of_mem target List.mem_cons_self))) fun _ => .ok _
  | declaration target data =>
    exact .map _ (failsOnly_attributes (parts data (List.mem_cons_of_mem target List.mem_cons_self)))

theorem failsOnly_ofLexeme {x : Lexeme} (parts : ∀ part ∈ x.token.parts, Encoded part) :
    FailsOnly EventFault.Beside (ofLexeme x) := by
  have read := failsOnly_ofToken parts
  unfold ofLexeme
  cases made : ofToken x.token with
  | error cause =>
    have wrong := read cause made
    refine .error fun same => ?_
    rw [show cause = .encoding from same] at wrong
    exact wrong
  | ok event => exact .ok event

/-- The outcomes of asking for events one after another, also after faults, and the lexer after them. -/
def calls : Nat → Lexer → List (Except EventFault (Option Event)) × Lexer
  | 0, l => ([], l)
  | n + 1, l => ((next l).1 :: (calls n (next l).2).1, (calls n (next l).2).2)

variable {markup : Bytes} {l : Lexer}

theorem failsOnly_next (between : l.Between markup) :
    FailsOnly EventFault.Beside (next l).1 ∧ (next l).2.Between markup := by
  have stepped := between.step
  unfold next
  revert stepped
  rcases l.step with ⟨step, after⟩
  rintro ⟨onward, read⟩
  cases step with
  | lexeme x => exact ⟨.map _ (failsOnly_ofLexeme (read x rfl).parts), onward⟩
  | fault fault => exact ⟨.error nofun, onward⟩
  | finished | incomplete => exact ⟨.ok none, onward⟩

theorem failsOnly_calls (between : l.Between markup) (n : Nat) :
    (∀ outcome ∈ (calls n l).1, FailsOnly EventFault.Beside outcome) ∧
      (calls n l).2.Between markup := by
  induction n generalizing l with
  | zero => exact ⟨nofun, between⟩
  | succ n ih =>
    obtain ⟨first, onward⟩ := failsOnly_next between
    obtain ⟨others, last⟩ := ih onward
    exact ⟨List.forall_mem_cons.mpr ⟨first, others⟩, last⟩

theorem ofLexemes_beside {lexemes : List Lexeme}
    (textual : ∀ x ∈ lexemes, ∀ part ∈ x.token.parts, Encoded part) :
    ∀ fault ∈ (ofLexemes lexemes).2, fault.Beside := by
  induction lexemes with
  | nil => nofun
  | cons x others ih =>
    have first := failsOnly_ofLexeme (textual x List.mem_cons_self)
    have later := ih fun y member => textual y (List.mem_cons_of_mem x member)
    unfold ofLexemes
    cases read : ofLexeme x with
    | error fault =>
      rintro _ ⟨⟩
      exact first fault read
    | ok event => exact later

/-- Text has no fault of encoding in it. -/
theorem ofText_beside (markup : Text) : ∀ fault ∈ (ofText markup).2, fault.Beside := by
  obtain ⟨_, passes, _⟩ := (Lexer.ofBytes (Utf8.encode markup)).exists_passes
  have between := Lexer.between_start (Utf8.encoded_encode markup) true
  have beside := ofLexemes_beside fun x member => (passes.textual between x member).parts
  unfold ofText
  revert beside
  rcases (Lexer.ofBytes (Utf8.encode markup)).run with ⟨lexemes, last, after⟩
  dsimp only
  rcases ofLexemes lexemes with ⟨events, _ | fault⟩
  · intro _
    cases last with
    | fault fault =>
      rintro _ ⟨⟩ ⟨⟩
    | finished | incomplete | lexeme => nofun
  · exact id

theorem failsOnly_parse (markup : Text) : FailsOnly EventFault.Beside (parse markup) := by
  have beside := ofText_beside markup
  unfold parse
  revert beside
  rcases ofText markup with ⟨events, _ | fault⟩
  · exact fun _ => .ok events
  · exact fun beside => .error (beside fault rfl)

end Event

/-- A cause that is not the encoding of the markup. -/
def ParseCause.Beside : ParseCause → Prop
  | event fault => fault.Beside
  | encoding | inputEncoding | fragmentEncoding => False
  | _ => True

/-- What a builder refuses in the events that it is given. -/
def ParseCause.OfBuilder : ParseCause → Prop
  | extraContent _ | unexpectedEnd _ | mismatchedEnd .. | strayText | unclosed _ | noRoot => True
  | event _ | attributes _ | encoding | inputEncoding | fragmentEncoding => False

theorem ParseCause.OfBuilder.beside {cause : ParseCause} (refused : cause.OfBuilder) : cause.Beside := by
  cases cause with
  | event | attributes | encoding | inputEncoding | fragmentEncoding => exact refused.elim
  | _ => trivial

namespace TreeBuilder

variable (b : TreeBuilder)

theorem failsOnly_start (tag : Tag) : FailsOnly ParseCause.OfBuilder (b.start tag) := by
  unfold start
  split
  · exact .error trivial
  · exact .ok _

theorem failsOnly_stop (name : Text) : FailsOnly ParseCause.OfBuilder (b.stop name) := by
  unfold stop
  split
  · exact .error trivial
  · split
    · exact .ok _
    · exact .error trivial

theorem failsOnly_text (content : Text) : FailsOnly ParseCause.OfBuilder (b.text content) := by
  unfold text
  split
  · split
    · exact .ok b
    · exact .error trivial
  · exact .ok _

theorem failsOnly_take (event : Event) : FailsOnly ParseCause.OfBuilder (b.take event) := by
  cases event with
  | start tag => exact b.failsOnly_start tag
  | empty tag => exact .bind (b.failsOnly_start tag) fun opened => opened.failsOnly_stop tag.name
  | stop name => exact b.failsOnly_stop name
  | text content | cdata content => exact b.failsOnly_text content
  | comment | instruction | declaration | doctype => exact .ok b

theorem failsOnly_finish : FailsOnly ParseCause.OfBuilder b.finish := by
  unfold finish
  split
  · exact .error trivial
  · split
    · exact .ok _
    · exact .error trivial

end TreeBuilder

/-- Markup is refused for the first fault of its events, or by the builder. -/
theorem Node.failsOnly_parse (inherited : List Binding) (markup : Text) :
    FailsOnly
      (fun cause => cause.OfBuilder ∨
        ∃ fault, cause = .event fault ∧ (Event.ofText (withoutMark markup)).2 = some fault)
      (parse inherited markup) := by
  unfold parse
  rcases Event.ofText (withoutMark markup) with ⟨events, first⟩
  dsimp only
  refine .bind (.foldlM (fun b event => (b.failsOnly_take event).mono fun _ => .inl) events _) fun b => ?_
  cases first with
  | none => exact b.failsOnly_finish.mono fun _ => .inl
  | some fault => exact .error (.inr ⟨fault, rfl, rfl⟩)

theorem Node.failsOnly_parse_beside (inherited : List Binding) (markup : Text) :
    FailsOnly ParseCause.Beside (parse inherited markup) := by
  refine (failsOnly_parse inherited markup).mono ?_
  rintro _ (refused | ⟨fault, rfl, first⟩)
  · exact refused.beside
  · exact Event.ofText_beside (withoutMark markup) fault first

theorem Document.failsOnly_ofText (markup : Text) :
    FailsOnly
      (fun failure => ∃ source content cause, failure = .parse source content cause ∧ cause.Beside)
      (ofText markup) := by
  refine .map _ ?_
  have parsed := Node.failsOnly_parse_beside [] markup
  unfold Node.load
  cases read : Node.parse [] markup with
  | error cause => exact .error ⟨_, _, cause, rfl, parsed cause read⟩
  | ok root => exact .ok root

/-- Text is read without a fault of encoding. After any number of steps, also of those after a fault, a lexer
stands between characters, and every part of a token is text; no event, no list of events and no document
fails for the encoding; and attributes and references, which are cut out of text at offsets into its bytes,
are cut out between characters. -/
theorem Document.text_throughout (markup : Text) :
    (∀ complete n,
      Boundary (Utf8.encode markup) ((Lexer.mk complete 0 (Utf8.encode markup)).steps n).2.position ∧
      ∀ x, .lexeme x ∈ ((Lexer.mk complete 0 (Utf8.encode markup)).steps n).1 →
        ∀ part ∈ x.token.parts, Encoded part) ∧
    (∀ n, ∀ outcome ∈ (Event.calls n (Lexer.ofBytes (Utf8.encode markup))).1,
      FailsOnly EventFault.Beside outcome) ∧
    FailsOnly EventFault.Beside (Event.parse markup) ∧
    FailsOnly
      (fun failure => ∃ source content cause, failure = .parse source content cause ∧ cause.Beside)
      (ofText markup) ∧
    Attribute.parseAt? markup 0 = some (Attribute.parse markup) ∧
    Reference.expandAt? markup = some (Reference.expand markup) ∧
    Reference.decodeAt? markup = some (Reference.decode markup) := by
  have between (complete : Bool) := Lexer.between_start (Utf8.encoded_encode markup) complete
  refine ⟨fun complete n => ?_, fun n => (Event.failsOnly_calls (between true) n).1,
    Event.failsOnly_parse markup, failsOnly_ofText markup, Attribute.parseAt?_eq markup,
    Reference.expandAt?_eq markup, Reference.decodeAt?_eq markup⟩
  obtain ⟨onward, textual⟩ := Lexer.steps_encoded (between complete) n
  exact ⟨onward.position, fun x member => (textual x member).parts⟩

/-- Characters of two bytes in a tag, and in the text that is read after a fault. -/
theorem Document.text_throughout_of_fault :
    let text : Lexeme := ⟨.text [0x31, 0xc3, 0xbc], 5, 8⟩
    LexerStep.lexeme text ∈ ((Lexer.mk true 0 (Utf8.encode "<é><1ü".toList)).steps 3).1 ∧
      (∀ part ∈ text.token.parts, Encoded part) ∧
      ∃ outcome ∈ (Event.calls 3 (Lexer.ofBytes (Utf8.encode "<é><1ü".toList))).1,
        outcome.isOk = false ∧ FailsOnly EventFault.Beside outcome := by
  obtain ⟨steps, calls, _⟩ := Document.text_throughout "<é><1ü".toList
  have member : LexerStep.lexeme ⟨.text [0x31, 0xc3, 0xbc], 5, 8⟩ ∈
      ((Lexer.mk true 0 (Utf8.encode "<é><1ü".toList)).steps 3).1 := by
    decide +kernel
  have failed : Except.error ⟨.lexical (.malformed .elementName), 4⟩ ∈
      (Event.calls 3 (Lexer.ofBytes (Utf8.encode "<é><1ü".toList))).1 := by
    decide +kernel
  exact ⟨member, (steps true 3).2 _ member, _, failed, rfl, calls 3 _ failed⟩

end MarkupQuery
