import MarkupQuery.Event
import MarkupQuery.Proofs.Attribute
import MarkupQuery.Proofs.Lexer.Stretch
import Mathlib.Data.List.Nodup

/-!
Markup read as a sequence of events, each with the token of which it was made. Main statements:
markup without a fault reads as its events (`Event.ofText_eq_iff`), so does a stretch of it that is
cut out (`Event.ofText_between`), and an event says of which token it was made
(`Event.of_ofLexeme`).
-/
namespace MarkupQuery

/-- An event with the token of which it was made. -/
structure Item where
  lexeme : Lexeme
  event : Event
  deriving DecidableEq, Repr

/-- Markup without a fault, read to its end. -/
structure Reads (markup : Text) (items : List Item) : Prop where
  lexed : ∃ last, (Lexer.ofBytes (Utf8.encode markup)).run =
    (items.map (·.lexeme), .finished, last)
  decoded : ∀ x ∈ items, Event.ofLexeme x.lexeme = .ok x.event

/-- The events of a list of tokens, all of them read. -/
theorem Event.ofLexemes_eq_iff (lexemes : List Lexeme) (events : List Event) :
    Event.ofLexemes lexemes = (events, none) ↔
      ∃ items : List Item, items.map (·.lexeme) = lexemes ∧ items.map (·.event) = events ∧
        ∀ x ∈ items, Event.ofLexeme x.lexeme = .ok x.event := by
  constructor
  · intro h
    induction lexemes generalizing events with
    | nil =>
      cases h
      exact ⟨[], rfl, rfl, by simp⟩
    | cons lexeme rest ih =>
      rw [ofLexemes] at h
      cases read : ofLexeme lexeme with
      | error fault =>
        rw [read] at h
        cases h
      | ok event =>
        rw [read] at h
        simp only [Prod.mk.injEq] at h
        obtain ⟨rfl, fault⟩ := h
        obtain ⟨items, tokens, contents, reads⟩ := ih (ofLexemes rest).1 (by rw [← fault])
        refine ⟨⟨lexeme, event⟩ :: items, ?_, ?_, ?_⟩
        · rw [List.map_cons, tokens]
        · rw [List.map_cons, contents]
        · intro x member
          rcases List.mem_cons.mp member with rfl | inside
          · exact read
          · exact reads x inside
  · rintro ⟨items, rfl, rfl, reads⟩
    induction items with
    | nil => rfl
    | cons x others ih =>
      have head := reads x (by simp)
      have tail := ih (fun y member => reads y (by simp [member]))
      rw [List.map_cons, ofLexemes, head]
      simp only [tail]
      rfl

/-- The events of markup without a fault are those that it reads as. -/
theorem Event.ofText_eq_iff (markup : Text) (events : List Event) :
    Event.ofText markup = (events, none) ↔
      ∃ items, Reads markup items ∧ items.map (·.event) = events := by
  have ends := @Lexer.run_complete (Lexer.ofBytes (Utf8.encode markup)) rfl
  unfold ofText
  constructor
  · intro h
    rcases ran : (Lexer.ofBytes (Utf8.encode markup)).run with ⟨lexemes, last, stopped⟩
    rw [ran] at h ends
    dsimp only at h ends
    rcases lexed : ofLexemes lexemes with ⟨read, _ | fault⟩
    · rw [lexed] at h
      rcases ends with rfl | ⟨fault, rfl⟩
      · cases h
        obtain ⟨items, rfl, contents, decoded⟩ := (ofLexemes_eq_iff _ _).mp lexed
        exact ⟨items, ⟨⟨stopped, ran⟩, decoded⟩, contents⟩
      · cases h
    · rw [lexed] at h
      cases h
  · rintro ⟨items, reads, rfl⟩
    obtain ⟨⟨stopped, ran⟩, decoded⟩ := reads
    have lexed := (ofLexemes_eq_iff _ _).mpr ⟨items, rfl, rfl, decoded⟩
    rw [ran]
    dsimp only
    rw [lexed]

theorem Event.ofLexeme_back {lexeme : Lexeme} {event : Event} (n : Nat)
    (h : Event.ofLexeme lexeme = .ok event) : Event.ofLexeme (lexeme.back n) = .ok event := by
  unfold ofLexeme at h ⊢
  rw [Lexeme.back]
  split at h
  · cases h
  · rename_i made
    rw [made]
    exact h

/-- A stretch of markup that is cut out reads as the events that it had in place. -/
theorem Event.ofText_between {whole : Bytes} {items : List Item} {p q : Nat}
    (lexes : Lexes whole p (items.map (·.lexeme)) q)
    (decoded : ∀ x ∈ items, Event.ofLexeme x.lexeme = .ok x.event) {markup : Text}
    (encoded : Utf8.encode markup = whole.between p q) :
    Event.ofText markup = (items.map (·.event), none) := by
  have cut := lexes.slice (Nat.le_refl p) (Nat.le_refl q)
  rw [Nat.sub_self] at cut
  have ends : (whole.between p q).drop (q - p) = [] := by
    rw [List.drop_eq_nil_iff, Bytes.between, List.length_drop, List.length_take]
    omega
  have ran := cut.run_eq (by rw [ends]; rfl)
  rw [List.drop_zero, ← encoded, List.map_map] at ran
  rw [Event.ofText_eq_iff]
  refine ⟨items.map fun x => ⟨x.lexeme.back p, x.event⟩, ⟨?_, ?_⟩, ?_⟩
  · refine ⟨⟨true, q - p, (Utf8.encode markup).drop (q - p)⟩, ?_⟩
    rw [List.map_map]
    exact ran
  · intro x member
    obtain ⟨y, inside, rfl⟩ := List.mem_map.mp member
    exact ofLexeme_back p (decoded y inside)
  · rw [List.map_map]
    rfl

/-- Where a tag is read, its name and its attribute section are text, the section holds attributes,
and no name of an attribute comes twice. -/
theorem Event.tag_eq_ok_iff {name raw : Bytes} {tag : Tag} :
    Event.tag name raw = .ok tag ↔
      Utf8.decode? name = some tag.name ∧
        (∃ written, Utf8.decode? raw = some written ∧
          Attribute.parse written = .ok tag.attributes) ∧
        Attribute.duplicate? tag.attributes = none := by
  obtain ⟨tagName, tagAttributes⟩ := tag
  unfold Event.tag attributes text?
  cases Utf8.decode? name with
  | none => simp [bind, Except.bind]
  | some name =>
    cases Utf8.decode? raw with
    | none => simp [bind, Except.bind]
    | some written =>
      cases parsed : Attribute.parse written with
      | error fault => simp [bind, Except.bind, parsed]
      | ok found =>
        cases repeated : Attribute.duplicate? found with
        | none =>
          simp only [bind, Except.bind, parsed, repeated, Except.ok.injEq, Tag.mk.injEq,
            Option.some.injEq, exists_eq_left']
          constructor
          · rintro ⟨rfl, rfl⟩
            exact ⟨rfl, rfl, repeated⟩
          · rintro ⟨rfl, rfl, _⟩
            exact ⟨rfl, rfl⟩
        | some name =>
          simp only [bind, Except.bind, parsed, repeated, Option.some.injEq, exists_eq_left',
            Except.ok.injEq, reduceCtorEq, false_iff]
          rintro ⟨_, rfl, none⟩
          rw [repeated] at none
          cases none

/-- Which token an event is made of. -/
def Event.Of (token : Token) : Event → Prop
  | start tag => ∃ name raw, token = .startTag name raw ∧ Event.tag name raw = .ok tag
  | empty tag => ∃ name raw, token = .emptyTag name raw ∧ Event.tag name raw = .ok tag
  | stop name => ∃ raw, token = .endTag raw ∧ Utf8.decode? raw = some name
  | text _ => ∃ raw, token = .text raw
  | cdata _ => ∃ raw, token = .cdata raw
  | comment _ => ∃ raw, token = .comment raw
  | instruction .. => ∃ target data, token = .instruction target data
  | declaration .. => ∃ target data, token = .declaration target data
  | doctype _ => ∃ raw, token = .doctype raw

theorem exists_of_map_eq_ok {ε α β : Type} {f : α → β} {x : Except ε α} {b : β}
    (h : f <$> x = .ok b) : ∃ a, x = .ok a ∧ f a = b := by
  cases x with
  | error e => cases h
  | ok a =>
    cases h
    exact ⟨a, rfl, rfl⟩

theorem Event.of_ofLexeme {lexeme : Lexeme} {event : Event}
    (h : Event.ofLexeme lexeme = .ok event) : Event.Of lexeme.token event := by
  have made : Event.ofToken lexeme.token = .ok event := by
    unfold ofLexeme at h
    split at h
    · cases h
    · rename_i found
      cases h
      exact found
  generalize lexeme.token = token at made ⊢
  cases token with
  | startTag name raw =>
    obtain ⟨tag, read, rfl⟩ := exists_of_map_eq_ok made
    exact ⟨name, raw, rfl, read⟩
  | emptyTag name raw =>
    obtain ⟨tag, read, rfl⟩ := exists_of_map_eq_ok made
    exact ⟨name, raw, rfl, read⟩
  | endTag raw =>
    obtain ⟨name, read, rfl⟩ := exists_of_map_eq_ok made
    refine ⟨raw, rfl, ?_⟩
    unfold text? at read
    split at read
    · cases read
    · rename_i decoded
      cases read
      exact decoded
  | text raw =>
    obtain ⟨content, _, rfl⟩ := exists_of_map_eq_ok made
    exact ⟨raw, rfl⟩
  | cdata raw =>
    obtain ⟨content, _, rfl⟩ := exists_of_map_eq_ok made
    exact ⟨raw, rfl⟩
  | comment raw =>
    obtain ⟨content, _, rfl⟩ := exists_of_map_eq_ok made
    exact ⟨raw, rfl⟩
  | instruction target data =>
    rw [ofToken] at made
    cases first : text? target with
    | error cause =>
      rw [first] at made
      cases made
    | ok name =>
      cases second : text? data with
      | error cause =>
        rw [first, second] at made
        cases made
      | ok content =>
        rw [first, second] at made
        cases made
        exact ⟨target, data, rfl⟩
  | declaration target data =>
    obtain ⟨attributes, _, rfl⟩ := exists_of_map_eq_ok made
    exact ⟨target, data, rfl⟩
  | doctype raw =>
    obtain ⟨content, _, rfl⟩ := exists_of_map_eq_ok made
    exact ⟨raw, rfl⟩

/-- The token of a start tag or of an empty element tag. -/
theorem Event.Of.tag_parts {token : Token} {event : Event} (made : Event.Of token event) {tag : Tag}
    (tagged : event = .start tag ∨ event = .empty tag) :
    ∃ name raw, (token = .startTag name raw ∨ token = .emptyTag name raw) ∧
      Event.tag name raw = .ok tag := by
  rcases tagged with rfl | rfl
  · obtain ⟨name, raw, same, read⟩ := made
    exact ⟨name, raw, .inl same, read⟩
  · obtain ⟨name, raw, same, read⟩ := made
    exact ⟨name, raw, .inr same, read⟩

end MarkupQuery
