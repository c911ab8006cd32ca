import MarkupQuery.Proofs.Lexer.Locality

/-!
Stretches of markup. `Lexes` says which tokens take up the markup from one offset to another; a
stretch can be cut between any two tokens, and cut out of the markup around it. Main statements:
what the markup of a tag looks like (`Scan.shaped_scan`), a run of the lexer is a stretch to the end
(`Lexes.run_eq`, `Lexes.of_run`), and markup that is cut out reads as it did (`Lexes.slice`).
-/
namespace MarkupQuery

namespace Scan

open Delimiter

/-- How the markup of a tag ends, and that the name of a start tag is one. -/
def Shaped (bytes : Bytes) : Scan → Prop
  | token (.startTag name _) width | token (.emptyTag name _) width =>
    Bytes.name? name = some name ∧ ∃ inner, bytes.take width = inner ++ [0x3e]
  | token (.endTag _) width => ∃ inner, bytes.take width = inner ++ [0x3e]
  | _ => True

theorem name?_ne_nil {bytes name : Bytes} (h : Bytes.name? bytes = some name) : name ≠ [] := by
  cases bytes with
  | nil => cases h
  | cons b rest =>
    rw [Bytes.name?] at h
    split at h
    · rename_i start
      cases h
      simp [Bytes.isNamePart_of_isNameStart start]
    · cases h

theorem take_through {bytes : Bytes} {stop : Nat} (h : bytes[stop]? = some 0x3e) :
    bytes.take (stop + 1) = bytes.take stop ++ [0x3e] := by
  rw [List.take_add_one, h]
  rfl

theorem Reads.shaped {bytes : Bytes} {outcome : Scan} (reads : Reads bytes outcome) :
    Shaped bytes outcome := by
  cases reads with
  | endTag found => exact ⟨_, take_through ((stepwise_idxOf? 0x3e).getElem?_eq (s := ()) found)⟩
  | instruction => split <;> trivial
  | enclosed kind => cases kind <;> trivial
  | @tag rest name raw closed stop named found =>
    have last := take_through (stepwise_tagEndFrom?.getElem?_eq (s := none) found)
    cases closed with
    | false => exact ⟨Bytes.name?_self named, _, last⟩
    | true => exact ⟨Bytes.name?_self named, _, last⟩
  | _ => trivial

theorem shaped_scan (bytes : Bytes) : Shaped bytes (scan bytes) := (reads_scan bytes).shaped

/-- All markup but text starts with `<`. -/
theorem head?_of_token {bytes : Bytes} {token : Token} {width : Nat}
    (h : scan bytes = .token token width) (markup : ∀ content, token ≠ .text content) :
    bytes.head? = some 0x3c := by
  cases scan_eq_iff.mp h with
  | text => exact absurd rfl (markup _)
  | enclosed kind => cases kind <;> rfl
  | _ => rfl

end Scan

namespace Lexer

theorem run_eq (l : Lexer) :
    l.run =
      match l.step with
      | (.lexeme lexeme, after) => (lexeme :: after.run.1, after.run.2.1, after.run.2.2)
      | (last, after) => ([], last, after) := by
  rw [run]
  split
  · rename_i found
    rw [found]
  · rename_i last after other found
    rw [found]
    cases last with
    | lexeme lexeme => exact (other lexeme rfl).elim
    | _ => rfl

/-- A run on markup that is all there ends at its end or with a fault. -/
theorem run_complete {l : Lexer} (complete : l.complete = true) :
    l.run.2.1 = .finished ∨ ∃ fault, l.run.2.1 = .fault fault := by
  induction left : l.rest.length using Nat.strongRecOn generalizing l with
  | ind left ih =>
    rw [run_eq]
    rcases stepped : l.step with ⟨outcome, after⟩
    cases step_eq_iff.mp stepped with
    | finished => exact .inl rfl
    | lexeme scanned => exact ih _ (left ▸ Scan.length_drop_lt scanned) complete rfl
    | incomplete going =>
      rw [complete] at going
      cases going
    | unfinished => exact .inr ⟨_, rfl⟩
    | malformed => exact .inr ⟨_, rfl⟩

end Lexer

/-- The tokens that take up the markup from one offset to another. -/
inductive Lexes (whole : Bytes) : Nat → List Lexeme → Nat → Prop
  | done (p : Nat) : Lexes whole p [] p
  | step {p q width : Nat} {token : Token} {lexemes : List Lexeme}
      (found : scan (whole.drop p) = .token token width)
      (after : Lexes whole (p + width) lexemes q) :
      Lexes whole p (⟨token, p, p + width⟩ :: lexemes) q

/-- The bytes from one offset up to another. -/
def Bytes.between (whole : Bytes) (start stop : Nat) : Bytes := (whole.take stop).drop start

namespace Bytes

theorem between_self (whole : Bytes) (start : Nat) : whole.between start start = [] := by
  simp [between]

theorem between_append {start middle stop : Nat} (whole : Bytes) (one : start ≤ middle)
    (two : middle ≤ stop) : whole.between start middle ++ whole.between middle stop =
      whole.between start stop := by
  have width : stop - start = (middle - start) + (stop - middle) := by omega
  simp only [between, List.drop_take]
  rw [width, List.take_add, List.drop_drop, Nat.add_sub_cancel' one]

theorem between_append_drop {start stop : Nat} (whole : Bytes) (le : start ≤ stop) :
    whole.between start stop ++ whole.drop stop = whole.drop start := by
  have cut := List.take_append_drop (stop - start) (whole.drop start)
  rw [List.drop_drop, Nat.add_sub_cancel' le] at cut
  rw [between, List.drop_take]
  exact cut

theorem take_drop_eq_between (whole : Bytes) (start width : Nat) :
    (whole.drop start).take width = whole.between start (start + width) := by
  rw [between, List.drop_take, Nat.add_sub_cancel_left]

end Bytes

/-- The same token in markup that starts later by `n` bytes. -/
def Lexeme.back (n : Nat) (lexeme : Lexeme) : Lexeme :=
  ⟨lexeme.token, lexeme.start - n, lexeme.stop - n⟩

namespace Lexes

variable {whole : Bytes} {lexemes first second : List Lexeme} {p q r : Nat}

theorem uncons {lexeme : Lexeme} (h : Lexes whole p (lexeme :: lexemes) q) :
    ∃ width, scan (whole.drop p) = .token lexeme.token width ∧ lexeme.start = p ∧
      lexeme.stop = p + width ∧ Lexes whole lexeme.stop lexemes q := by
  cases h with
  | step found after => exact ⟨_, found, rfl, rfl, after⟩

theorem le (h : Lexes whole p lexemes q) : p ≤ q := by
  induction h with
  | done => exact Nat.le_refl _
  | step _ _ ih => omega

theorem split (h : Lexes whole p (first ++ second) r) :
    ∃ q, Lexes whole p first q ∧ Lexes whole q second r := by
  induction first generalizing p with
  | nil => exact ⟨p, .done p, h⟩
  | cons lexeme others ih =>
    cases h with
    | step found after =>
      obtain ⟨q, one, two⟩ := ih after
      exact ⟨q, .step found one, two⟩

theorem append (h : Lexes whole p first q) (k : Lexes whole q second r) :
    Lexes whole p (first ++ second) r := by
  induction h with
  | done => exact k
  | step found _ ih => exact .step found (ih k)

/-- A stretch ends where any of its tokens does. -/
theorem through {lexeme : Lexeme} (h : Lexes whole p (first ++ lexeme :: second) r) :
    Lexes whole p (first ++ [lexeme]) lexeme.stop := by
  induction first generalizing p with
  | nil =>
    cases h with
    | step found after => exact .step found (.done _)
  | cons head others ih =>
    cases h with
    | step found after => exact .step found (ih after)

/-- Each token of a stretch is read where it stands. -/
theorem scan_of_mem {x : Lexeme} (h : Lexes whole p lexemes q) (member : x ∈ lexemes) :
    ∃ width, scan (whole.drop x.start) = .token x.token width := by
  induction h with
  | done => simp at member
  | step found _ ih =>
    rcases List.mem_cons.mp member with rfl | later
    · exact ⟨_, found⟩
    · exact ih later

/-- What is cut out of markup is made of the same tokens. -/
theorem slice {n k : Nat} (h : Lexes whole p lexemes q) (start : n ≤ p) (stop : q ≤ k) :
    Lexes (whole.between n k) (p - n) (lexemes.map (·.back n)) (q - n) := by
  induction h with
  | done => exact .done _
  | @step p q width token lexemes found after ih =>
    have last := after.le
    have here : (whole.between n k).drop (p - n) = (whole.drop p).take (k - p) := by
      rw [Bytes.between, List.drop_drop, List.drop_take, Nat.add_sub_cancel' start]
    have token := Scan.token_take found (show width ≤ k - p by omega)
    rw [← here] at token
    have later := ih (by omega) stop
    rw [Nat.sub_add_comm start] at later
    have shifted := Lexes.step token later
    rw [← Nat.sub_add_comm start] at shifted
    exact shifted

/-- A run that ends without a fault is a stretch up to the end of the markup. -/
theorem of_run {l last : Lexer} (h : l.run = (lexemes, .finished, last))
    (rest : l.rest = whole.drop l.position) :
    ∃ q, Lexes whole l.position lexemes q ∧ scan (whole.drop q) = .finished := by
  induction size : l.rest.length using Nat.strongRecOn generalizing l lexemes with
  | ind bound ih =>
    rw [Lexer.run_eq] at h
    rcases stepped : l.step with ⟨outcome, after⟩
    rw [stepped] at h
    cases Lexer.step_eq_iff.mp stepped with
    | finished ended =>
      cases h
      exact ⟨_, .done _, rest ▸ ended⟩
    | @lexeme token width scanned =>
      simp only [Prod.mk.injEq] at h
      obtain ⟨rfl, ended, stopped⟩ := h
      have same : (l.advance width).rest = whole.drop (l.advance width).position := by
        simp only [Lexer.advance, rest, List.drop_drop]
      have later : (l.advance width).run = ((l.advance width).run.1, .finished, last) := by
        rw [← ended, ← stopped]
      obtain ⟨q, after, empty⟩ := ih _ (size ▸ Scan.length_drop_lt scanned) later same rfl
      exact ⟨q, .step (rest ▸ scanned) after, empty⟩
    | incomplete | unfinished | malformed => cases h

/-- A stretch up to the end of the markup is a run of the lexer. -/
theorem run_eq (h : Lexes whole p lexemes q) (ends : scan (whole.drop q) = .finished) :
    (Lexer.mk true p (whole.drop p)).run =
      (lexemes, .finished, ⟨true, q, whole.drop q⟩) := by
  induction h with
  | done p => rw [Lexer.run_eq, Lexer.step, ends]
  | step found after ih =>
    have later := ih ends
    rw [Lexer.run_eq, Lexer.step, found]
    dsimp only [Lexer.advance]
    rw [List.drop_drop, later]

end Lexes

end MarkupQuery
