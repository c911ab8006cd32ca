import MarkupQuery.Proofs.Lexer.Tiling
import MarkupQuery.Proofs.Utf8.Boundary

/-!
Markup that is text, read as bytes. Everything the lexer stops at is a byte of ASCII, and everything it
passes over without looking is as well, so it cuts text into text. Main statement: after any number of steps,
also after faults, a lexer stands at a boundary between characters, and all that it has cut out is text
(`Lexer.steps_encoded`).
-/
namespace MarkupQuery

open Utf8 (Encoded Boundary)

theorem Delimiter.isPrefix_of_sequence? {needle bytes : Bytes} {n : Nat}
    (found : sequence? needle bytes = some n) : needle <+: bytes.drop n := by
  induction bytes generalizing n with
  | nil =>
    unfold sequence? at found
    split at found
    · rename_i empty
      cases found
      rw [List.isEmpty_iff.mp empty]
      exact List.nil_prefix
    · cases found
  | cons b rest ih =>
    unfold sequence? at found
    split at found
    · rename_i starts
      cases found
      exact List.isPrefixOf_iff_prefix.mp starts
    · obtain ⟨m, later, rfl⟩ := Option.map_eq_some_iff.mp found
      exact ih later

namespace Bytes

/-- The test of a delimiter goes through its bytes, not through all bytes. -/
theorem lt_of_all {bytes : Bytes} (ascii : bytes.all (·.toNat < 0x80) = true) :
    ∀ b ∈ bytes, b.toNat < 0x80 :=
  fun b member => of_decide_eq_true (List.all_eq_true.mp ascii b member)

theorem isNamePart_of_le {b : UInt8} (large : 0x80 ≤ b.toNat) : isNamePart b = true := by
  have above : 0x80 ≤ b := UInt8.le_iff_toNat_le.mpr large
  simp [isNamePart, isNameStart, above]

variable {bytes name : Bytes}

/-- A name at the head of a text ends at a boundary. -/
theorem boundary_name (encoded : Encoded bytes) (named : name? bytes = some name) :
    Boundary bytes name.length := by
  rw [← (name?_eq_some_iff.mp named).2]
  exact encoded.boundary_takeWhile fun _ => isNamePart_of_le

theorem encoded_name (encoded : Encoded bytes) (named : name? bytes = some name) : Encoded name := by
  have taken := (boundary_name encoded named).take
  rwa [← List.prefix_iff_eq_take.mp (isPrefix_of_name? named)] at taken

end Bytes

namespace Scan

/-- The parts of a token are text, and what comes after it, or after the bytes that a fault passes over,
is text as well. -/
def Textual (bytes : Bytes) : Scan → Prop
  | token construct width => (∀ part ∈ construct.parts, Encoded part) ∧ Boundary bytes width
  | rejected _ _ resume => Boundary bytes resume
  | finished | cut _ => True

variable {bytes rest : Bytes}

theorem encoded_splitSlash (encoded : Encoded bytes) : Encoded (splitSlash bytes).1 := by
  unfold splitSlash
  split
  · rename_i slash
    obtain ⟨inner, rfl⟩ := List.getLast?_eq_some_iff.mp (beq_iff_eq.mp slash)
    have last : (inner ++ [0x2f])[inner.length]? = some 0x2f := by simp
    have cut := (encoded.boundary_ascii last (by decide)).1.take
    simpa using cut
  · exact encoded

/-- The delimiters are bytes of ASCII. -/
theorem Enclosed.ascii {opening closing : Bytes} {make : Bytes → Token} {cause : Unfinished}
    (kind : Enclosed opening closing make cause) :
    (opening ≠ [] ∧ ∀ b ∈ opening, b.toNat < 0x80) ∧ closing ≠ [] ∧ ∀ b ∈ closing, b.toNat < 0x80 := by
  cases kind with
  | comment | cdata =>
    exact ⟨⟨by decide, Bytes.lt_of_all (by decide)⟩, by decide, Bytes.lt_of_all (by decide)⟩

/-- The boundary after bytes of ASCII that text starts with. -/
theorem boundary_of_opening {opening rest : Bytes} (encoded : Encoded (opening ++ rest))
    (nonempty : opening ≠ []) (ascii : ∀ b ∈ opening, b.toNat < 0x80) :
    Boundary (opening ++ rest) opening.length := by
  have opened := (encoded.boundary_of_isPrefix (n := 0) ascii nonempty (List.prefix_append ..)).2
  rwa [Nat.zero_add] at opened

theorem Reads.textual {outcome : Scan} (reads : Reads bytes outcome) (encoded : Encoded bytes) :
    Textual bytes outcome := by
  cases reads with
  | @text first rest content _ reach =>
    have ends : Boundary (first :: rest) content.length := by
      rw [← reach]
      refine encoded.boundary_takeWhile fun b large => bne_iff_ne.mpr fun same => ?_
      rw [same] at large
      exact absurd large (by decide)
    refine ⟨fun part member => ?_, ends⟩
    have taken := ends.take
    rw [← reach, ← List.prefix_iff_eq_take.mp (List.takeWhile_prefix _), reach] at taken
    rw [parts_of_single rfl member]
    exact taken
  | endTag found named =>
    have mark := (Delimiter.stepwise_idxOf? 0x3e).getElem?_eq (s := ()) found
    have close := encoded.boundary_ascii mark (by decide)
    have opened := (encoded.boundary_ascii (n := 1) rfl (by decide)).2
    refine ⟨fun part member => ?_, close.2⟩
    rw [parts_of_single rfl member, ← named]
    exact (opened.slice close.1).trimRight
  | endTagName => exact encoded.boundary_zero
  | @instruction rest target data length found named trimmed =>
    have opened := (encoded.boundary_ascii (n := 1) rfl (by decide)).2
    have close := opened.drop.boundary_of_isPrefix (Bytes.lt_of_all (by decide)) (by decide)
      (Delimiter.isPrefix_of_sequence? found)
    have body := close.1.take
    have width := opened.add close.2
    rw [show 1 + 1 + (length + instructionClose.length) = length + 4 by
      simp only [instructionClose, List.length_cons, List.length_nil]
      omega] at width
    refine ⟨fun part member => ?_, width⟩
    rcases parts_of_instruction member with rfl | rfl
    · exact Bytes.encoded_name body named
    · rw [← trimmed]
      exact (Bytes.boundary_name body named).drop.dropWhile fun _ => Bytes.lt_of_isBlank
  | instructionTarget => exact (encoded.boundary_ascii (n := 1) rfl (by decide)).2
  | @enclosed opening closing rest make cause length kind found =>
    have opened := boundary_of_opening encoded kind.ascii.1.1 kind.ascii.1.2
    have inner := opened.drop
    rw [List.drop_left] at inner
    have close := inner.boundary_of_isPrefix kind.ascii.2.2 kind.ascii.2.1
      (Delimiter.isPrefix_of_sequence? found)
    refine ⟨fun part member => ?_, ?_⟩
    · rw [parts_of_single (kind.parts_eq _) member]
      exact close.1.take
    · rw [Nat.add_assoc]
      refine opened.add ?_
      rw [List.drop_left]
      exact close.2
  | doctype found =>
    have opened := boundary_of_opening encoded (by decide) (Bytes.lt_of_all (by decide))
    have mark := Delimiter.stepwise_doctypeEndFrom?.getElem?_eq (s := (none, 0)) found
    have close := encoded.boundary_ascii mark (by decide)
    refine ⟨fun part member => ?_, close.2⟩
    rw [parts_of_single rfl member]
    exact opened.slice close.1
  | declaration => exact encoded.boundary_zero
  | @tag rest name raw closed stop named found split =>
    have opened := (encoded.boundary_ascii (n := 0) rfl (by decide)).2
    have mark := Delimiter.stepwise_tagEndFrom?.getElem?_eq found
    have close := encoded.boundary_ascii mark (by decide)
    have after : Boundary (0x3c :: rest) (1 + name.length) :=
      opened.add (Bytes.boundary_name opened.drop named)
    refine ⟨fun part member => ?_, close.2⟩
    rcases parts_of_tag member with rfl | rfl
    · exact Bytes.encoded_name opened.drop named
    · have inner := encoded_splitSlash (after.slice close.1)
      rwa [split] at inner
  | elementNameEnd => exact encoded.boundary_zero
  | elementName => exact (encoded.boundary_ascii (n := 0) rfl (by decide)).2
  | _ => trivial

theorem textual_scan (encoded : Encoded bytes) : Textual bytes (scan bytes) :=
  (reads_scan bytes).textual encoded

end Scan

/-- A token between two boundaries of the markup, all of whose parts are text. -/
structure Lexeme.Textual (markup : Bytes) (x : Lexeme) : Prop where
  start : Boundary markup x.start
  stop : Boundary markup x.stop
  parts : ∀ part ∈ x.token.parts, Encoded part

namespace Lexer

/-- The outcomes of steps one after another, also of those after a fault, and the lexer after them. -/
def steps : Nat → Lexer → List LexerStep × Lexer
  | 0, l => ([], l)
  | n + 1, l => (l.step.1 :: (steps n l.step.2).1, (steps n l.step.2).2)

/-- A lexer that stands at a boundary of the markup, with the bytes from there on before it. -/
structure Between (markup : Bytes) (l : Lexer) : Prop where
  position : Boundary markup l.position
  rest : l.rest = markup.drop l.position

variable {markup : Bytes} {l : Lexer}

theorem between_start (encoded : Encoded markup) (complete : Bool) :
    Between markup ⟨complete, 0, markup⟩ := ⟨encoded.boundary_zero, rfl⟩

namespace Between

theorem within (between : l.Between markup) : l.Within markup := ⟨between.position.le, between.rest⟩

theorem advance (between : l.Between markup) {width : Nat} (onward : Boundary l.rest width) :
    (l.advance width).Between markup := by
  constructor
  · exact between.position.add (between.rest ▸ onward)
  · rw [Lexer.advance, between.rest, List.drop_drop]

/-- A step goes from one boundary to another, and a token that it reads is text between them. -/
theorem step (between : l.Between markup) :
    l.step.2.Between markup ∧ ∀ x, l.step.1 = .lexeme x → x.Textual markup := by
  have encoded : Encoded l.rest := between.rest ▸ between.position.drop
  have textual := Scan.textual_scan encoded
  unfold Lexer.step
  cases scanned : scan l.rest with
  | finished => exact ⟨between, nofun⟩
  | token token width =>
    rw [scanned] at textual
    have onward := between.advance textual.2
    refine ⟨onward, fun x same => ?_⟩
    cases same
    exact ⟨between.position, onward.position, textual.1⟩
  | cut cause =>
    refine ⟨between, fun x same => ?_⟩
    dsimp only at same
    split at same <;> cases same
  | rejected cause offset resume =>
    rw [scanned] at textual
    exact ⟨between.advance textual, nofun⟩

end Between

/-- Induction on the steps. -/
theorem steps_encoded (between : l.Between markup) (n : Nat) :
    (l.steps n).2.Between markup ∧ ∀ x, .lexeme x ∈ (l.steps n).1 → x.Textual markup := by
  induction n generalizing l with
  | zero => exact ⟨between, nofun⟩
  | succ n ih =>
    obtain ⟨onward, read⟩ := between.step
    obtain ⟨last, others⟩ := ih onward
    refine ⟨last, fun x member => ?_⟩
    rcases List.mem_cons.mp member with first | later
    · exact read x first.symm
    · exact others x later

/-- A lexer that starts at a boundary ends its run at one. -/
theorem Passes.between {last : Lexer} {lexemes : List Lexeme} (passes : l.Passes lexemes last)
    (between : l.Between markup) : last.Between markup := by
  induction passes with
  | nil => exact between
  | cons stepped _ ih =>
    have onward := between.step.1
    rw [stepped] at onward
    exact ih onward

/-- The tokens of a run are text. -/
theorem Passes.textual {last : Lexer} {lexemes : List Lexeme} (passes : l.Passes lexemes last)
    (between : l.Between markup) : ∀ x ∈ lexemes, x.Textual markup := by
  induction passes with
  | nil => exact nofun
  | @cons l next last x others stepped _ ih =>
    have step := between.step
    rw [stepped] at step
    exact List.forall_mem_cons.mpr ⟨step.2 x rfl, ih step.1⟩

end Lexer

end MarkupQuery
