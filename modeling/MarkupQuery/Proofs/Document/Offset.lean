import MarkupQuery.Proofs.Document.Encoding
import MarkupQuery.Proofs.Document.Reading
import MarkupQuery.Proofs.Lexer.Continuation
import MarkupQuery.Proofs.Name

/-!
Where markup fails to be a document. The first fault of markup is put down to the `<` of the construct that is
not read, or to the end of the name in it, and all markup before this construct is read. Offsets are counted
after a byte order mark, but a failure carries the markup with the mark. Main statement: the offset that
a message ends with, and the mark where there is one, lead to that place in the content of the failure
(`Document.ofText_offset`).
-/
namespace MarkupQuery

open Utf8 (Encoded)

/-- A message that is put down to an offset. -/
def EndsAtByte (message : String) (n : Nat) : Prop := ∃ front, message = front ++ s!"at byte {n}"

namespace EndsAtByte

variable {front message : String} {m n : Nat}

theorem isDigit_of_mem_toDigits {c : Char} (member : c ∈ Nat.toDigits 10 n) : c.isDigit = true :=
  Nat.isDigit_of_mem_toDigits (b := 10) (by decide) (by decide) member

theorem exists_toList (ends : EndsAtByte message n) :
    ∃ before, message.toList = before ++ ' ' :: Nat.toDigits 10 n := by
  obtain ⟨front, rfl⟩ := ends
  have digits : (toString n).toList = Nat.toDigits 10 n := Nat.toList_repr
  refine ⟨front.toList ++ "at byte".toList, ?_⟩
  rw [String.toList_append, String.toList_append, digits, List.append_assoc]
  rfl

/-- Texts that are the same are the same after the last blank. -/
theorem eq_of_append_blank {x y d e : List Char} (first : ' ' ∉ d) (second : ' ' ∉ e)
    (same : x ++ ' ' :: d = y ++ ' ' :: e) : d = e := by
  have cut {before last : List Char} (absent : ' ' ∉ last) :
      (before ++ ' ' :: last).reverse.takeWhile (· != ' ') = last.reverse := by
    have plain : ∀ c ∈ last.reverse, (c != ' ') = true := by
      intro c member
      exact bne_iff_ne.mpr fun blank => absent (blank ▸ List.mem_reverse.mp member)
    rw [List.reverse_append, List.reverse_cons, List.append_assoc, List.takeWhile_append_of_pos plain]
    simp
  have ends : d.reverse = e.reverse := by rw [← cut first, same, cut second]
  exact List.reverse_inj.mp ends

theorem unique (one : EndsAtByte message m) (two : EndsAtByte message n) : m = n := by
  have plain (k : Nat) : ' ' ∉ Nat.toDigits 10 k := fun member =>
    absurd (isDigit_of_mem_toDigits member) (by decide)
  obtain ⟨_, first⟩ := one.exists_toList
  obtain ⟨_, second⟩ := two.exists_toList
  have digits := eq_of_append_blank (plain m) (plain n) (first.symm.trans second)
  rw [← @Nat.ofDigitChars_ten_toDigits m, digits, Nat.ofDigitChars_ten_toDigits]

/-- The last character of a message that is put down to an offset is a digit. -/
theorem not_append {last : String} {c : Char} (ended : last.toList.getLast? = some c)
    (other : c.isDigit = false) : ¬ EndsAtByte (front ++ last) n := by
  intro ends
  obtain ⟨_, same⟩ := ends.exists_toList
  have nonempty : Nat.toDigits 10 n ≠ [] := Nat.toDigits_ne_nil
  have lasts := congrArg List.getLast? same
  rw [String.toList_append, List.getLast?_append, ended, Option.some_or, List.getLast?_append_cons,
    List.getLast?_cons, List.getLast?_eq_some_getLast nonempty, Option.getD_some, Option.some.injEq] at lasts
  have digit := isDigit_of_mem_toDigits (List.getLast_mem nonempty)
  rw [← lasts, other] at digit
  cases digit

/-- A fault is put down to its position. -/
theorem event (front : String) (fault : EventFault) :
    EndsAtByte (front ++ (ParseCause.event fault).message) fault.position := by
  have blank : toString " at byte " = " " ++ toString "at byte " := by decide
  have described : (ParseCause.event fault).message =
      fault.cause.message ++ (toString " at byte " ++ toString fault.position) := String.append_assoc
  refine ⟨front ++ (fault.cause.message ++ " "), ?_⟩
  rw [described, blank, String.append_assoc, String.append_assoc, String.append_assoc]

/-- A builder puts nothing down to an offset. -/
theorem not_ofBuilder {cause : ParseCause} (refused : cause.OfBuilder) :
    ¬ EndsAtByte (front ++ cause.message) n := by
  have said : ∃ start last c, cause.message = start ++ last ∧ last.toList.getLast? = some c ∧
      c.isDigit = false := by
    cases cause with
    | event | attributes | encoding | inputEncoding | fragmentEncoding => exact refused.elim
    | strayText | noRoot => exact ⟨"", _, 't', String.empty_append.symm, by decide, rfl⟩
    | _ => exact ⟨_, ">", '>', rfl, rfl, rfl⟩
  obtain ⟨start, last, c, same, ended, other⟩ := said
  rw [same, ← String.append_assoc]
  exact not_append ended other

end EndsAtByte

/-- Where a fault is put down: one of the lexer as `LexicalFault.PlacedAt` says, any other to the `<` of the
construct at `p`. -/
def EventFault.PlacedAt (fault : EventFault) (whole : Bytes) (p : Nat) : Prop :=
  match fault.cause with
  | .lexical cause => LexicalFault.PlacedAt ⟨cause, fault.position⟩ whole p
  | _ => fault.position = p

/-- What stands in a construct before the place to which a fault is put down: all up to the end of the name
where the character after the name is what is wrong, and nothing otherwise. `rest` follows the `<`. -/
def EventCause.passed (cause : EventCause) (rest : Text) : Text :=
  if cause = .lexical (.malformed .elementNameEnd) then '<' :: rest.takeWhile Name.isPart else []

/-- A place of a fault in the bytes of a text, as a place in the text. -/
theorem EventFault.PlacedAt.position_eq {fault : EventFault} {before rest : Text}
    (placed : fault.PlacedAt (Utf8.encode (before ++ '<' :: rest)) (Utf8.size before)) :
    fault.position = Utf8.size (before ++ fault.cause.passed rest) := by
  obtain ⟨cause, position⟩ := fault
  have unmoved : Utf8.size before = Utf8.size (before ++ []) := by rw [List.append_nil]
  cases cause with
  | lexical cause =>
    unfold PlacedAt LexicalFault.PlacedAt at placed
    dsimp only at placed
    by_cases nameEnd : cause = .malformed .elementNameEnd
    · subst nameEnd
      rw [if_pos rfl] at placed
      obtain ⟨name, named, rfl, _⟩ := placed
      have after : (Utf8.encode (before ++ '<' :: rest)).drop (Utf8.size before + 1) = Utf8.encode rest := by
        rw [Utf8.encode_append, Utf8.size, ← List.drop_drop, List.drop_left]
        rfl
      rw [after, Bytes.name?_eq_some_iff, Name.sameClass_isPart.takeWhile_encode] at named
      rw [← named.2, EventCause.passed, if_pos rfl, Utf8.size_append, Utf8.size_cons, Nat.add_assoc]
      rfl
    · rw [if_neg nameEnd] at placed
      rw [EventCause.passed, if_neg (by simpa using nameEnd), ← unmoved]
      exact placed
  | attributes | duplicateAttribute | encoding => exact placed.trans unmoved

namespace Event

/-- The first fault of a list of tokens is that of the first one that is not read. -/
theorem exists_of_ofLexemes {lexemes : List Lexeme} {events : List Event} {fault : EventFault}
    (failed : ofLexemes lexemes = (events, some fault)) :
    ∃ (items : List Item) (x : Lexeme) (others : List Lexeme),
      lexemes = items.map (·.lexeme) ++ x :: others ∧ items.map (·.event) = events ∧
        (∀ y ∈ items, ofLexeme y.lexeme = .ok y.event) ∧ ofLexeme x = .error fault := by
  induction lexemes generalizing events with
  | nil => cases failed
  | cons x others ih =>
    rw [ofLexemes] at failed
    cases read : ofLexeme x with
    | error wrong =>
      rw [read] at failed
      cases failed
      exact ⟨[], x, others, rfl, rfl, by simp, read⟩
    | ok event =>
      rw [read] at failed
      rcases later : ofLexemes others with ⟨following, last⟩
      rw [later] at failed
      cases failed
      obtain ⟨items, y, rest, rfl, rfl, decoded, wrong⟩ := ih later
      have all : ∀ z ∈ ⟨x, event⟩ :: items, ofLexeme z.lexeme = .ok z.event :=
        List.forall_mem_cons.mpr ⟨read, decoded⟩
      exact ⟨⟨x, event⟩ :: items, y, rest, rfl, rfl, all, wrong⟩

variable {markup : Text} {events : List Event} {fault : EventFault}

/-- Up to the first fault of markup everything is read, and there the fault is what comes next. -/
theorem exists_passes_of_fault (failed : ofText markup = (events, some fault)) :
    ∃ (items : List Item) (l : Lexer),
      (Lexer.ofBytes (Utf8.encode markup)).Passes (items.map (·.lexeme)) l ∧
        items.map (·.event) = events ∧ (∀ x ∈ items, ofLexeme x.lexeme = .ok x.event) ∧
        (next l).1 = .error fault := by
  obtain ⟨last, passes, ended, _⟩ := (Lexer.ofBytes (Utf8.encode markup)).exists_passes
  unfold ofText at failed
  revert failed passes ended
  rcases (Lexer.ofBytes (Utf8.encode markup)).run with ⟨lexemes, outcome⟩
  dsimp only
  intro failed passes ended
  rcases read : ofLexemes lexemes with ⟨before, _ | wrong⟩
  · obtain ⟨items, rfl, rfl, decoded⟩ := (ofLexemes_eq_iff _ _).mp read
    rw [read, ended] at failed
    refine ⟨items, last, passes, ?_⟩
    unfold next
    revert failed
    rcases last.step with ⟨step, after⟩
    cases step with
    | fault fault =>
      rintro ⟨⟩
      exact ⟨rfl, decoded, rfl⟩
    | finished | incomplete | lexeme => nofun
  · rw [read] at failed
    cases failed
    obtain ⟨items, x, others, rfl, rfl, decoded, wrong⟩ := exists_of_ofLexemes read
    obtain ⟨l, before, after⟩ := passes.split
    refine ⟨items, l, before, rfl, decoded, ?_⟩
    cases after with
    | cons stepped _ =>
      rw [next, stepped]
      dsimp only
      rw [wrong]
      rfl

/-- A fault of a token is one of the attributes in it, and text has none. -/
theorem placed_of_ofLexeme {x : Lexeme} (parts : ∀ part ∈ x.token.parts, Encoded part)
    (failed : ofLexeme x = .error fault) :
    (∀ content, x.token ≠ .text content) ∧ ∀ whole, fault.PlacedAt whole x.start := by
  unfold ofLexeme at failed
  cases made : ofToken x.token with
  | ok event =>
    rw [made] at failed
    cases failed
  | error cause =>
    rw [made] at failed
    cases failed
    refine ⟨fun content same => ?_, fun whole => ?_⟩
    · rw [same] at made parts
      exact (failsOnly_text? (P := fun _ => False) (parts content List.mem_cons_self)).map _ cause made
    · have ofAttributes := failsOnly_ofToken parts cause made
      cases cause with
      | lexical | encoding => exact ofAttributes.elim
      | attributes | duplicateAttribute => rfl

/-- Whatever is not read starts with `<`. -/
theorem placed_of_next {whole : Bytes} {l : Lexer} (between : l.Between whole) (complete : l.complete = true)
    (failed : (next l).1 = .error fault) :
    whole[l.position]? = some 0x3c ∧ fault.PlacedAt whole l.position := by
  have within := between.within
  have moves := within.moves complete
  have textual := between.step.2
  unfold next at failed
  rcases stepped : l.step with ⟨step, after⟩
  rw [stepped] at failed moves textual
  cases step with
  | lexeme x =>
    obtain ⟨width, found, start, _⟩ := ((Lexer.Passes.cons stepped (.nil after)).lexes within).1.uncons
    have wrong : ofLexeme x = .error fault :=
      FailsOnly.map (P := fun e => ofLexeme x = .error e) some (fun _ wrong => wrong) fault failed
    obtain ⟨markup, placed⟩ := placed_of_ofLexeme (textual x rfl).parts wrong
    refine ⟨?_, start ▸ placed whole⟩
    rw [← List.head?_drop]
    exact Scan.head?_of_token found markup
  | fault other =>
    cases failed
    cases moves with
    | fault angle placed => exact ⟨angle, placed⟩
  | finished | incomplete => cases failed

/-- Markup with a fault is text that reads without one, and then a construct that does not. -/
theorem exists_of_fault (failed : ofText markup = (events, some fault)) :
    ∃ before rest, markup = before ++ '<' :: rest ∧ ofText before = (events, none) ∧
      (next ⟨true, Utf8.size before, Utf8.encode ('<' :: rest)⟩).1 = .error fault ∧
      fault.position = Utf8.size (before ++ fault.cause.passed rest) := by
  obtain ⟨items, l, passes, rfl, decoded, stopped⟩ := exists_passes_of_fault failed
  have between := passes.between (Lexer.between_start (Utf8.encoded_encode markup) true)
  obtain ⟨_, _, complete⟩ := passes.tiles (Lexer.within_ofBytes _) rfl
  obtain ⟨lexes, _⟩ := passes.lexes (Lexer.within_ofBytes _)
  obtain ⟨angle, placed⟩ := placed_of_next between complete stopped
  obtain ⟨before, after, cut, reached⟩ := between.position
  obtain rfl : markup = before ++ after :=
    Utf8.encode_injective (by rw [cut, Utf8.encode_append])
  have left : (Utf8.encode (before ++ after)).drop l.position = Utf8.encode after := by
    rw [← reached, Utf8.encode_append, Utf8.size, List.drop_left]
  rw [← List.head?_drop, left] at angle
  obtain ⟨rest, rfl⟩ := List.head?_eq_some_iff.mp (Utf8.head?_encode (c := '<') (by decide) angle)
  have here : l = ⟨true, Utf8.size before, Utf8.encode ('<' :: rest)⟩ := by
    rw [reached, ← left, ← complete, ← between.rest]
  rw [← reached] at placed
  refine ⟨before, rest, rfl, ofText_between lexes decoded ?_, here ▸ stopped, placed.position_eq⟩
  rw [← reached, Utf8.encode_append, Bytes.between, Utf8.size, List.take_left]
  rfl

end Event

/-- A byte order mark, where there is one, and the rest of the markup, of which some part is read. -/
theorem Node.exists_mark {markup before after : Text} (cut : withoutMark markup = before ++ after) :
    ∃ mark, markup = mark ++ before ++ after ∧ withoutMark (mark ++ before) = before ∧
      Utf8.size mark = if markup.head? = some byteOrderMark then 3 else 0 := by
  cases markup with
  | nil =>
    obtain ⟨rfl, rfl⟩ := List.append_eq_nil_iff.mp cut.symm
    exact ⟨[], rfl, rfl, rfl⟩
  | cons c rest =>
    by_cases marked : c = byteOrderMark
    · subst marked
      have whole : rest = before ++ after := cut
      exact ⟨[byteOrderMark], by rw [whole]; rfl, rfl, rfl⟩
    · have plain : withoutMark (c :: rest) = c :: rest := by simp [withoutMark, marked]
      rw [plain] at cut
      refine ⟨[], cut, ?_, by simp [marked, Utf8.size, Utf8.encode]⟩
      cases before with
      | nil => rfl
      | cons d others =>
        obtain ⟨rfl, _⟩ := List.cons.inj cut
        simp [withoutMark, marked]

/-- The offset that a message ends with, and a byte order mark where there is one, lead to the place of the
fault in the content of the failure: to the `<` of the first construct that is not read, or to the end of its
name. Everything before this construct is read. -/
theorem Document.ofText_offset {markup : Text} {failure : Failure} {n : Nat}
    (failed : ofText markup = .error failure) (ends : EndsAtByte failure.message n) :
    ∃ cause before rest events,
      failure = .parse [] markup (.event ⟨cause, n⟩) ∧ failure.content? = some markup ∧
      Event.ofText (Node.withoutMark markup) = (events, some ⟨cause, n⟩) ∧
      markup = before ++ '<' :: rest ∧
      Event.ofText (Node.withoutMark before) = (events, none) ∧
      (Event.next ⟨true, Utf8.size (Node.withoutMark before), Utf8.encode ('<' :: rest)⟩).1 =
        .error ⟨cause, n⟩ ∧
      n + (if markup.head? = some Node.byteOrderMark then 3 else 0) =
        Utf8.size (before ++ cause.passed rest) := by
  unfold ofText ofNamed Node.load at failed
  cases read : Node.parse [] markup with
  | ok root =>
    rw [read] at failed
    cases failed
  | error cause =>
    rw [read] at failed
    cases failed
    rcases Node.failsOnly_parse [] markup cause read with refused | ⟨fault, rfl, first⟩
    · exact absurd ends (EndsAtByte.not_ofBuilder refused)
    · obtain rfl : fault.position = n := (EndsAtByte.event _ fault).unique ends
      have failed : Event.ofText (Node.withoutMark markup) = (_, some fault) := Prod.ext rfl first
      obtain ⟨before, rest, cut, reads, stopped, reached⟩ := Event.exists_of_fault failed
      obtain ⟨mark, whole, unmarked, size⟩ := Node.exists_mark cut
      refine ⟨fault.cause, mark ++ before, rest, _, rfl, rfl, failed, whole, ?_, ?_, ?_⟩
      · rw [unmarked]
        exact reads
      · rw [unmarked]
        exact stopped
      · rw [← size, reached, List.append_assoc, Utf8.size_append mark, Nat.add_comm]

/-- A character of two bytes before a name that does not end well. -/
theorem Document.ofText_offset_of_marked_name :
    let markup := Node.byteOrderMark :: "<r>é<a$></r>".toList
    let failure := Failure.parse [] markup (.event ⟨.lexical (.malformed .elementNameEnd), 7⟩)
    ofText markup = .error failure ∧ EndsAtByte failure.message 7 ∧
      ∃ before rest, markup = before ++ '<' :: rest ∧
        7 + 3 = Utf8.size (before ++ '<' :: rest.takeWhile Name.isPart) := by
  intro markup failure
  have failed : ofText markup = .error failure := by decide +kernel
  have ends : EndsAtByte failure.message 7 :=
    EndsAtByte.event _ ⟨.lexical (.malformed .elementNameEnd), 7⟩
  obtain ⟨cause, before, rest, _, same, _, _, whole, _, _, reached⟩ := ofText_offset failed ends
  dsimp only [failure] at same
  cases same
  exact ⟨failed, ends, before, rest, whole, reached⟩

/-- A byte order mark in the content of a failure is not counted: the message names the offset of the mark,
not that of the construct. -/
theorem Document.ofText_offset_ignores_mark :
    ∃ failure content, ofText (Node.byteOrderMark :: "<!x>".toList) = .error failure ∧
      EndsAtByte failure.message 0 ∧ failure.content? = some content ∧
      (Utf8.encode content)[0]? ≠ some 0x3c ∧ (Utf8.encode content)[3]? = some 0x3c := by
  let fault : EventFault := ⟨.lexical (.malformed .declaration), 0⟩
  refine ⟨.parse [] (Node.byteOrderMark :: "<!x>".toList) (.event fault), _, by decide +kernel,
    EndsAtByte.event _ fault, rfl, ?_, ?_⟩
  · decide +kernel
  · decide +kernel

end MarkupQuery
