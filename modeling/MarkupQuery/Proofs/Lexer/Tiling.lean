import MarkupQuery.Proofs.Lexer.Stretch

/-!
Markup laid out as tokens. Each step of a lexer takes up the bytes right after those of the step before
it, and what it reads is cut out of these bytes. Main statement: the tokens of complete markup lie side
by side up to its end or to the `<` of the construct at fault, and the end or the fault is reached in no
more steps than there are bytes, and one (`Lexer.run_tiles`).
-/
namespace MarkupQuery

/-- What is cut out of the markup of a token. -/
def Token.parts (token : Token) : List Bytes := token.name?.toList ++ token.content?.toList

namespace Bytes

variable {bytes : Bytes} {width stop : Nat}

theorem drop_take_infix (inside : stop ≤ width) (n : Nat) :
    (bytes.take stop).drop n <:+: bytes.take width :=
  (List.drop_suffix n _).isInfix.trans (List.take_prefix_take_left inside).isInfix

theorem take_drop_infix {n length : Nat} (inside : n + length ≤ width) :
    (bytes.drop n).take length <:+: bytes.take width := by
  have same : (bytes.drop n).take length = (bytes.take (n + length)).drop n := by
    rw [List.drop_take, Nat.add_sub_cancel_left]
  rw [same]
  exact drop_take_infix inside n

theorem isPrefix_trimRight (bytes : Bytes) : trimRight bytes <+: bytes := by
  unfold trimRight
  rw [← List.reverse_suffix, List.reverse_reverse]
  exact List.dropWhile_suffix _

end Bytes

namespace Scan

open Delimiter

/-- The name of a tag ends before the tag does. -/
theorem name_before_tagEnd? {rest name : Bytes} {stop : Nat} (named : Bytes.name? rest = some name)
    (found : tagEnd? (0x3c :: rest) = some stop) : 1 + name.length ≤ stop := by
  by_contra short
  have mark : (0x3c :: rest)[stop]? = some 0x3e := stepwise_tagEndFrom?.getElem?_eq found
  cases stop with
  | zero => simp at mark
  | succ n =>
    rw [List.getElem?_cons_succ] at mark
    obtain ⟨after, same⟩ := Bytes.isPrefix_of_name? named
    rw [← same, List.getElem?_append_left (by omega)] at mark
    have part := List.mem_of_getElem? mark
    rw [← (Bytes.name?_eq_some_iff.mp named).2] at part
    exact absurd (List.mem_takeWhile_imp part) (by decide)

/-- The parts of a token stand in the bytes that it takes up. A fault is put down to the start of its
construct, or to the end of the name where the byte after it is what is wrong, and reading may be tried
again within the bytes. -/
def Placed (bytes : Bytes) : Scan → Prop
  | token construct width => ∀ part ∈ construct.parts, part <:+: bytes.take width
  | rejected cause offset resume =>
    resume ≤ bytes.length ∧
      if cause = .elementNameEnd then
        ∃ name, Bytes.name? (bytes.drop 1) = some name ∧ offset = 1 + name.length ∧
          offset < bytes.length
      else offset = 0
  | finished => bytes = []
  | cut _ => True

theorem scan_plain {first : UInt8} {rest : Bytes} (plain : first ≠ 0x3c) :
    scan (first :: rest) = text (first :: rest) := by
  simp [scan, plain]

/-- Text up to a `<` or to the end of the bytes. -/
theorem scan_text {content rest : Bytes} (nonempty : content ≠ []) (plain : ∀ b ∈ content, b ≠ 0x3c)
    (stops : rest.takeWhile (· != 0x3c) = []) :
    scan (content ++ rest) = .token (.text content) content.length := by
  have all : ∀ b ∈ content, (b != 0x3c) = true := by simpa using plain
  obtain ⟨first, others, rfl⟩ := List.exists_cons_of_ne_nil nonempty
  rw [List.cons_append, scan_plain (plain first (by simp)), text, ← List.cons_append,
    List.takeWhile_append_of_pos all, stops, List.append_nil]

theorem isPrefix_splitSlash (inner : Bytes) : (splitSlash inner).1 <+: inner := by
  unfold splitSlash
  split
  · exact List.dropLast_prefix inner
  · exact List.prefix_refl inner

/-- The parts of a token with one part. -/
theorem parts_of_single {construct : Token} {content part : Bytes}
    (single : construct.parts = [content]) (member : part ∈ construct.parts) : part = content := by
  rw [single] at member
  exact List.mem_singleton.mp member

theorem Enclosed.parts_eq {opening closing : Bytes} {make : Bytes → Token} {cause : Unfinished}
    (kind : Enclosed opening closing make cause) (content : Bytes) : (make content).parts = [content] := by
  cases kind <;> rfl

/-- The parts of a tag are its name and its attributes. -/
theorem parts_of_tag {name raw part : Bytes} {closed : Bool}
    (member : part ∈ (if closed then Token.emptyTag name raw else .startTag name raw).parts) :
    part = name ∨ part = raw := by
  cases closed <;> simpa [Token.parts, Token.name?, Token.content?] using member

/-- The parts of an instruction are its target and its data, and so are those of a declaration. -/
theorem parts_of_instruction {target data part : Bytes} {xml : Bool}
    (member : part ∈ (if xml then Token.declaration target data else .instruction target data).parts) :
    part = target ∨ part = data := by
  cases xml <;> simpa [Token.parts, Token.name?, Token.content?] using member

theorem Reads.placed {bytes : Bytes} {outcome : Scan} (reads : Reads bytes outcome) :
    Placed bytes outcome := by
  cases reads with
  | finished => rfl
  | @text first rest content _ reach =>
    intro part member
    obtain rfl : part = content := parts_of_single rfl member
    rw [← reach, ← List.prefix_iff_eq_take.mp (List.takeWhile_prefix _)]
  | endTag _ named =>
    intro part member
    rw [parts_of_single rfl member, ← named]
    exact (Bytes.isPrefix_trimRight _).isInfix.trans (Bytes.drop_take_infix (by omega) 2)
  | endTagName => exact ⟨Nat.zero_le _, rfl⟩
  | @instruction rest target data length found named trimmed =>
    have body : ((0x3c :: 0x3f :: rest).drop 2).take length <:+:
        (0x3c :: 0x3f :: rest).take (length + 4) := Bytes.take_drop_infix (by omega)
    intro part member
    rcases parts_of_instruction member with rfl | rfl
    · exact (Bytes.isPrefix_of_name? named).isInfix.trans body
    · rw [← trimmed]
      exact ((List.dropWhile_suffix _).trans (List.drop_suffix _ _)).isInfix.trans body
  | instructionTarget => exact ⟨by simp, rfl⟩
  | @enclosed opening closing rest make cause length kind =>
    intro part member
    have inner : ((opening ++ rest).drop opening.length).take length <:+:
        (opening ++ rest).take (opening.length + length + closing.length) :=
      Bytes.take_drop_infix (by omega)
    rw [List.drop_left] at inner
    rw [parts_of_single (kind.parts_eq _) member]
    exact inner
  | doctype =>
    intro part member
    rw [parts_of_single rfl member]
    exact Bytes.drop_take_infix (by omega) _
  | declaration => exact ⟨Nat.zero_le _, rfl⟩
  | @tag rest name raw closed stop named found split =>
    have short : 1 + name.length ≤ stop := name_before_tagEnd? named found
    intro part member
    rcases parts_of_tag member with rfl | rfl
    · have first : ((0x3c :: rest).drop 1).take part.length <:+: (0x3c :: rest).take (stop + 1) :=
        Bytes.take_drop_infix (by omega)
      rw [List.prefix_iff_eq_take.mp (Bytes.isPrefix_of_name? named)]
      exact first
    · have inner := isPrefix_splitSlash (((0x3c :: rest).take stop).drop (1 + name.length))
      rw [split] at inner
      exact inner.isInfix.trans (Bytes.drop_take_infix (by omega) _)
  | @elementNameEnd rest name raw closed stop named found =>
    have short := name_before_tagEnd? named found
    have inside := local_tagEnd?.le_length found
    exact ⟨Nat.zero_le _, name, named, rfl, by omega⟩
  | elementName => exact ⟨by simp, rfl⟩
  | _ => trivial

theorem placed_scan (bytes : Bytes) : Placed bytes (scan bytes) := (reads_scan bytes).placed

/-- Bytes at whose head no token stands start with `<`. -/
theorem head?_of_ne_token {bytes : Bytes} (nonempty : bytes ≠ [])
    (h : ∀ construct width, scan bytes ≠ .token construct width) : bytes.head? = some 0x3c := by
  cases bytes with
  | nil => exact absurd rfl nonempty
  | cons first rest =>
    by_cases angle : first = 0x3c
    · rw [angle, List.head?_cons]
    · exact absurd (scan_plain angle) (h _ _)

end Scan

/-- Tokens that lie side by side in the markup, from one offset to another. Each takes up at least one
byte, and its parts stand in the bytes that it takes up. -/
inductive Tiles (whole : Bytes) : Nat → List Lexeme → Nat → Prop
  | nil (p : Nat) : Tiles whole p [] p
  | cons {x : Lexeme} {others : List Lexeme} {q : Nat} (advances : x.start < x.stop)
      (inside : x.stop ≤ whole.length)
      (parts : ∀ part ∈ x.token.parts, part <:+: whole.between x.start x.stop)
      (after : Tiles whole x.stop others q) : Tiles whole x.start (x :: others) q

namespace Tiles

variable {whole : Bytes} {lexemes : List Lexeme} {p q : Nat}

/-- No more tokens than bytes. -/
theorem length_le (h : Tiles whole p lexemes q) : p + lexemes.length ≤ q := by
  induction h with
  | nil => simp
  | cons advances _ _ _ ih =>
    simp only [List.length_cons]
    omega

/-- Put together, the markup of the tokens is the markup that they lie in. -/
theorem flatten_eq (h : Tiles whole p lexemes q) :
    (lexemes.map fun x => whole.between x.start x.stop).flatten = whole.between p q := by
  induction h with
  | nil p => simp [Bytes.between_self]
  | cons advances _ _ after ih =>
    have le := after.length_le
    rw [List.map_cons, List.flatten_cons, ih]
    exact Bytes.between_append _ (by omega) (by omega)

end Tiles

namespace Lexer

/-- A lexer takes tokens, one at a step, and stands after them. -/
inductive Passes : Lexer → List Lexeme → Lexer → Prop
  | nil (l : Lexer) : Passes l [] l
  | cons {l next last : Lexer} {x : Lexeme} {others : List Lexeme}
      (stepped : l.step = (.lexeme x, next)) (after : Passes next others last) :
      Passes l (x :: others) last

theorem Passes.split {l last : Lexer} {first second : List Lexeme}
    (passes : l.Passes (first ++ second) last) :
    ∃ middle, l.Passes first middle ∧ middle.Passes second last := by
  induction first generalizing l with
  | nil => exact ⟨l, .nil l, passes⟩
  | cons x others ih =>
    cases passes with
    | cons stepped after =>
      obtain ⟨middle, one, two⟩ := ih after
      exact ⟨middle, .cons stepped one, two⟩

/-- A lexer that has passed over the markup before its position. -/
structure Within (whole : Bytes) (l : Lexer) : Prop where
  position_le : l.position ≤ whole.length
  rest_eq : l.rest = whole.drop l.position

end Lexer

/-- Where a fault is put down: to the `<` of the construct at `p`, or to the end of the name of this
construct where a byte that can be no part of it follows the name. -/
def LexicalFault.PlacedAt (fault : LexicalFault) (whole : Bytes) (p : Nat) : Prop :=
  if fault.cause = .malformed .elementNameEnd then
    ∃ name, Bytes.name? (whole.drop (p + 1)) = some name ∧
      fault.position = p + 1 + name.length ∧ fault.position < whole.length
  else fault.position = p

namespace Lexer

/-- What a step on complete markup comes to, and where the lexer stands after it. It is never
incomplete. -/
inductive Moves (whole : Bytes) (l : Lexer) : LexerStep × Lexer → Prop
  | finished (ended : l.position = whole.length) : Moves whole l (.finished, l)
  | lexeme {x : Lexeme} {after : Lexer} (start : x.start = l.position)
      (stop : x.stop = after.position) (advances : x.start < x.stop)
      (inside : x.stop ≤ whole.length)
      (parts : ∀ part ∈ x.token.parts, part <:+: whole.between x.start x.stop) :
      Moves whole l (.lexeme x, after)
  | fault {fault : LexicalFault} {after : Lexer} (angle : whole[l.position]? = some 0x3c)
      (placed : fault.PlacedAt whole l.position) : Moves whole l (.fault fault, after)

variable {whole : Bytes} {l : Lexer}

theorem within_ofBytes (whole : Bytes) : (ofBytes whole).Within whole := ⟨Nat.zero_le _, rfl⟩

theorem Within.advance (within : l.Within whole) {width : Nat} (fits : width ≤ l.rest.length) :
    (l.advance width).Within whole := by
  obtain ⟨le, rest⟩ := within
  rw [rest, List.length_drop] at fits
  constructor
  · simp only [Lexer.advance]
    omega
  · simp only [Lexer.advance, rest, List.drop_drop]

theorem Within.angle (within : l.Within whole) (nonempty : l.rest ≠ [])
    (h : ∀ construct width, scan l.rest ≠ .token construct width) :
    whole[l.position]? = some 0x3c := by
  rw [← List.head?_drop, ← within.rest_eq]
  exact Scan.head?_of_ne_token nonempty h

/-- What the step of a lexer comes to, by what stands at the head of its bytes. -/
theorem Within.moves (within : l.Within whole) (complete : l.complete = true) :
    l.Moves whole l.step := by
  have le := within.position_le
  have rest := within.rest_eq
  have placed := Scan.placed_scan l.rest
  have nonempty (h : scan l.rest ≠ .finished) : l.rest ≠ [] := by
    intro empty
    rw [empty] at h
    exact h rfl
  unfold step
  cases scanned : scan l.rest with
  | finished =>
    rw [scanned] at placed
    have empty : l.rest = [] := placed
    rw [rest, List.drop_eq_nil_iff] at empty
    exact .finished (by omega)
  | token token width =>
    rw [scanned] at placed
    have wide := Scan.width_pos scanned
    have fits := Scan.width_le scanned
    rw [rest, List.length_drop] at fits
    refine .lexeme rfl rfl ?_ ?_ ?_
    · dsimp only
      omega
    · dsimp only
      omega
    · intro part member
      rw [← Bytes.take_drop_eq_between, ← rest]
      exact placed part member
  | cut cause =>
    have angle := within.angle (nonempty (by simp [scanned])) (by simp [scanned])
    rw [complete]
    exact .fault angle rfl
  | rejected cause offset resume =>
    have angle := within.angle (nonempty (by simp [scanned])) (by simp [scanned])
    rw [scanned] at placed
    refine .fault angle ?_
    unfold LexicalFault.PlacedAt
    by_cases nameEnd : cause = .elementNameEnd
    · subst nameEnd
      obtain ⟨_, name, named, rfl, inside⟩ := placed
      rw [rest, List.drop_drop] at named
      rw [rest, List.length_drop] at inside
      rw [if_pos rfl]
      refine ⟨name, named, ?_, ?_⟩
      · dsimp only
        omega
      · dsimp only
        omega
    · have start : offset = 0 := by simpa [Scan.Placed, nameEnd] using placed.2
      rw [if_neg (by simpa using nameEnd), start]
      rfl

theorem Within.step_lexeme (within : l.Within whole) {x : Lexeme} {after : Lexer}
    (stepped : l.step = (.lexeme x, after)) :
    after.Within whole ∧ after.complete = l.complete := by
  cases step_eq_iff.mp stepped with
  | lexeme scanned => exact ⟨within.advance (Scan.width_le scanned), rfl⟩

/-- Induction on the steps. -/
theorem Passes.tiles {last : Lexer} {lexemes : List Lexeme} (passes : l.Passes lexemes last)
    (within : l.Within whole) (complete : l.complete = true) :
    Tiles whole l.position lexemes last.position ∧ last.Within whole ∧ last.complete = true := by
  induction passes with
  | nil l => exact ⟨.nil _, within, complete⟩
  | @cons l next last x others stepped _ ih =>
    obtain ⟨onward, same⟩ := within.step_lexeme stepped
    obtain ⟨tiles, further⟩ := ih onward (same.trans complete)
    have moves := within.moves complete
    rw [stepped] at moves
    cases moves with
    | lexeme start stop advances inside parts =>
      rw [← stop] at tiles
      rw [← start]
      exact ⟨.cons advances inside parts tiles, further⟩

/-- A run is a number of steps that take tokens and one that does not. -/
theorem exists_passes (l : Lexer) :
    ∃ last, l.Passes l.run.1 last ∧ l.run.2 = last.step ∧ ∀ x, last.step.1 ≠ .lexeme x := by
  induction left : l.rest.length using Nat.strongRecOn generalizing l with
  | ind left ih =>
    rw [run_eq]
    rcases stepped : l.step with ⟨outcome, after⟩
    cases outcome with
    | lexeme x =>
      obtain ⟨last, passes, ended, stuck⟩ :=
        ih _ (by rw [← left]; exact step_lexeme_length_lt stepped) after rfl
      exact ⟨last, .cons stepped passes, ended, stuck⟩
    | _ =>
      refine ⟨l, .nil l, stepped.symm, ?_⟩
      intro x
      rw [stepped]
      simp

/-- The tokens of complete markup lie side by side from its start on, however many are taken, and the
next step goes on from there. A run ends at the end of the markup or with a fault, after at most as
many tokens as there are bytes. -/
theorem run_tiles (whole : Bytes) :
    (∀ lexemes l, (ofBytes whole).Passes lexemes l →
      Tiles whole 0 lexemes l.position ∧
        (lexemes.map fun x => whole.between x.start x.stop).flatten = whole.take l.position ∧
        l.Moves whole l.step) ∧
    ∃ lexemes l, (ofBytes whole).Passes lexemes l ∧ lexemes.length ≤ whole.length ∧
      (ofBytes whole).run = (lexemes, l.step) ∧
      (l.step = (.finished, l) ∧ l.position = whole.length ∨ ∃ fault, l.step.1 = .fault fault) := by
  have reached {lexemes : List Lexeme} {l : Lexer} (passes : (ofBytes whole).Passes lexemes l) :=
    passes.tiles (within_ofBytes whole) rfl
  constructor
  · intro lexemes l passes
    obtain ⟨tiles, within, complete⟩ := reached passes
    exact ⟨tiles, tiles.flatten_eq, within.moves complete⟩
  · obtain ⟨l, passes, ended, stuck⟩ := exists_passes (ofBytes whole)
    obtain ⟨tiles, within, complete⟩ := reached passes
    have few := tiles.length_le
    have bound := within.position_le
    have moves := within.moves complete
    refine ⟨_, l, passes, ?_, Prod.ext rfl ended, ?_⟩
    · omega
    · generalize l.step = step at moves stuck
      cases moves with
      | finished last => exact .inl ⟨rfl, last⟩
      | lexeme => exact absurd rfl (stuck _)
      | fault => exact .inr ⟨_, rfl⟩

end Lexer

end MarkupQuery
