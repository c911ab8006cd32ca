import MarkupQuery.Proofs.Lexer.Locality
import MarkupQuery.Proofs.Stream.Selector

/-!
Cutting markup into pieces. A run that stops where its markup ends goes on from there once more
markup has come, and neither a fragment nor a fault depends on markup that comes later. Main
statement: what a streamer hands out and how it ends depend on the bytes that are fed to it, not on
the pieces in which they come or on when it is asked (`Streamer.outcome_independent_of_chunking`).
-/
namespace MarkupQuery

namespace Selector

theorem keep_nil (m : Selector) : m.keep [] = m := by
  obtain ⟨target, held, trail, scopes⟩ := m
  cases held <;> simp [keep]

theorem keep_append (m : Selector) (first second : Bytes) :
    m.keep (first ++ second) = (m.keep first).keep second := by
  obtain ⟨target, held, trail, scopes⟩ := m
  cases held <;> simp [keep]

/-- The bytes up to the next `<` are text and are kept. -/
theorem run_text (complete : Bool) (m : Selector) (markup : Bytes) : m.run complete markup =
    (m.keep (markup.takeWhile (· != 0x3c))).run complete (markup.dropWhile (· != 0x3c)) := by
  cases markup with
  | nil => rw [List.takeWhile_nil, List.dropWhile_nil, keep_nil]
  | cons first rest =>
    by_cases angle : first = 0x3c
    · simp [angle, keep_nil]
    · have split := List.takeWhile_append_dropWhile (p := (· != 0x3c)) (l := first :: rest)
      have scanned : scan (first :: rest) = .token (.text ((first :: rest).takeWhile (· != 0x3c)))
          ((first :: rest).takeWhile (· != 0x3c)).length := by
        simp [scan, Scan.text, angle]
      rw [run_eq, scanned]
      generalize (first :: rest).takeWhile (· != 0x3c) = content at split ⊢
      generalize (first :: rest).dropWhile (· != 0x3c) = others at split ⊢
      rw [← split]
      simp [take]

/-- Text may be taken in pieces. -/
theorem run_plain {bytes : Bytes} (plain : ∀ b ∈ bytes, b ≠ 0x3c) (complete : Bool) (m : Selector)
    (rest : Bytes) : m.run complete (bytes ++ rest) = (m.keep bytes).run complete rest := by
  have all : ∀ b ∈ bytes, (b != 0x3c) = true := by simpa using plain
  rw [run_text, List.takeWhile_append_of_pos all, List.dropWhile_append_of_pos all, keep_append,
    ← run_text]

/-- What a run on the start of some markup says about a run on all of it: a fragment and a fault
stay what they are, and a run that came to the end goes on from there. -/
inductive Extends (complete : Bool) (more : Bytes) :
    Except ParseCause (Option Fragment × Bytes × Selector) →
    Except ParseCause (Option Fragment × Bytes × Selector) → Prop
  | failed (cause : ParseCause) : Extends complete more (.error cause) (.error cause)
  | found (fragment : Fragment) (rest : Bytes) (after : Selector) :
      Extends complete more (.ok (some fragment, rest, after))
        (.ok (some fragment, rest ++ more, after))
  | went (rest : Bytes) (after : Selector) :
      Extends complete more (.ok (none, rest, after)) (after.run complete (rest ++ more))

/-- Induction on the markup, one token at a time. Text is the one token that further markup
lengthens. -/
theorem run_append (complete : Bool) (m : Selector) (markup more : Bytes) :
    Extends complete more (m.run false markup) (m.run complete (markup ++ more)) := by
  induction left : markup.length using Nat.strongRecOn generalizing m markup with
  | ind size ih =>
    cases markup with
    | nil =>
      rw [run_eq false]
      exact .went [] m
    | cons first rest =>
      by_cases angle : first = 0x3c
      · rw [run_eq false]
        cases scanned : scan (first :: rest) with
        | finished => exact .went (first :: rest) m
        | cut cause => exact .went (first :: rest) m
        | rejected cause offset resume =>
          rw [run_eq, Scan.rejected_append scanned more]
          exact .failed _
        | token token width =>
          have wide := Scan.width_pos scanned
          have fits := Scan.width_le scanned
          rw [run_eq complete, Scan.token_append (by rw [angle]; rfl) scanned more]
          dsimp only
          rw [List.take_append_of_le_length fits, List.drop_append_of_le_length fits]
          cases m.take token ((first :: rest).take width) with
          | error cause => exact .failed cause
          | ok outcome =>
            obtain ⟨found, after⟩ := outcome
            cases found with
            | some fragment => exact .found fragment _ after
            | none =>
              exact ih _ (by rw [← left, List.length_drop]; omega) after
                ((first :: rest).drop width) rfl
      · have split := List.takeWhile_append_dropWhile (p := (· != 0x3c)) (l := first :: rest)
        have plain : ∀ b ∈ (first :: rest).takeWhile (· != 0x3c), b ≠ 0x3c := by
          intro b member
          simpa using List.mem_takeWhile_imp member
        have shorter : ((first :: rest).dropWhile (· != 0x3c)).length < size := by
          have fewer := Attribute.length_dropWhile_le (· != 0x3c) rest
          simp only [← left, List.dropWhile_cons, bne_iff_ne, ne_eq, angle, not_false_eq_true,
            if_true, List.length_cons]
          omega
        have further := ih _ shorter (m.keep ((first :: rest).takeWhile (· != 0x3c)))
          ((first :: rest).dropWhile (· != 0x3c)) rfl
        rw [← run_text, ← run_plain plain, ← List.append_assoc, split] at further
        exact further

theorem next_incomplete (m : Selector) (markup : Bytes) :
    m.next false markup = m.run false markup := by
  unfold next
  split
  · rename_i ran
    rw [ran]
  · rfl

/-- How the fragments of some markup continue those of its start. -/
theorem drain_append (complete : Bool) (m : Selector) (markup more : Bytes) :
    m.drain complete (markup ++ more) =
      match m.next false markup with
      | .error cause => ([], .error cause)
      | .ok (none, rest, after) => after.drain complete (rest ++ more)
      | .ok (some fragment, rest, after) =>
        (fragment :: (after.drain complete (rest ++ more)).1,
          (after.drain complete (rest ++ more)).2) := by
  have continued := run_append complete m markup more
  rw [next_incomplete, drain_eq complete m, next]
  generalize m.run false markup = part at continued
  generalize m.run complete (markup ++ more) = whole at continued
  cases continued with
  | failed cause => rfl
  | found fragment rest after => rfl
  | went rest after =>
    dsimp only
    rw [drain_eq complete after, next]

end Selector

/-- Messages that are the same but for an offset at their end. -/
def SameUpToOffset (first second : String) : Prop :=
  first = second ∨ ∃ (lead : String) (m n : Nat),
    first = s!"{lead} at byte {m}" ∧ second = s!"{lead} at byte {n}"

/-- The cause alone makes the message, whatever content is shown. -/
theorem ParseCause.sameUpToOffset {source content content' : Text} {cause cause' : ParseCause}
    (same : cause.withoutOffset = cause'.withoutOffset) :
    SameUpToOffset (Failure.parse source content cause).message
      (Failure.parse source content' cause').message := by
  unfold withoutOffset at same
  split at same
  · rename_i fault
    split at same
    · rename_i fault'
      obtain ⟨cause, position⟩ := fault
      obtain ⟨cause', position'⟩ := fault'
      obtain rfl : cause = cause' := by simpa using same
      have named (content : Text) (cause : ParseCause) :
          (Failure.parse source content cause).message =
            s!"Could not parse \"{String.ofList source}\": {cause.message}" := rfl
      have placed (position : Nat) : (ParseCause.event ⟨cause, position⟩).message =
          s!"{cause.message} at byte {position}" := rfl
      refine Or.inr ⟨s!"Could not parse \"{String.ofList source}\": {cause.message}", position,
        position', ?_, ?_⟩
      · rw [named, placed]
        simp only [ToString.toString, String.append_assoc]
      · rw [named, placed]
        simp only [ToString.toString, String.append_assoc]
    · rename_i other
      exact absurd same.symm (other _)
  · rename_i other
    split at same
    · exact absurd same (other _)
    · rw [same]
      exact Or.inl rfl

/-- What is done with a streamer before it is finished. -/
inductive Call
  | feed (chunk : Bytes)
  | next
  deriving DecidableEq, Repr

/-- The bytes that are fed in the course of some calls. -/
def Call.fed : List Call → Bytes
  | [] => []
  | feed chunk :: others => chunk ++ fed others
  | next :: others => fed others

namespace Streamer

/-- Makes some calls, finishes the streamer and lets it hand out what is left. The first fault ends
it all. What is handed out, the fault if there is one, and the streamer after it. -/
def perform (s : Streamer) : List Call → List Fragment × Option StreamFault × Streamer
  | [] => s.finish.drain
  | .feed chunk :: others => (s.feed chunk).perform others
  | .next :: others =>
    match s.next with
    | (.error fault, s) => ([], some fault, s)
    | (.ok none, s) => s.perform others
    | (.ok (some fragment), s) =>
      let (fragments, fault, last) := s.perform others
      (fragment :: fragments, fault, last)

/-- Induction on the calls: the markup that a call of `next` leaves is read on together with what
is fed later. -/
theorem perform_agrees {s : Streamer} (within : s.Within 0) (going : s.finished = false)
    (calls : List Call) :
    DrainAgrees true s.source ((s.selector 0).drain true (s.pending ++ Call.fed calls))
      (s.perform calls) := by
  induction calls generalizing s with
  | nil =>
    rw [Call.fed, List.append_nil]
    exact drain_agrees within.finish
  | cons call others ih =>
    cases call with
    | feed chunk =>
      have further := ih (within.feed chunk) going
      have pending : (s.feed chunk).pending = s.pending ++ chunk := rfl
      rw [pending, selector_feed, List.append_assoc] at further
      exact further
    | next =>
      have went := next_agrees within
      rw [going] at went
      rw [Call.fed, Selector.drain_append, perform]
      generalize (s.selector 0).next false s.pending = expected at went
      generalize s.next = actual at went
      cases went with
      | failed => exact .failed
      | @went found after settled finished named =>
        have further := ih settled finished
        rw [named] at further
        cases found with
        | none => exact further
        | some fragment => exact further.cons fragment

/-- Outcomes that are both without a fault, or parse failures of the same source with the same
message. The content that they show and the offset in the message may differ. -/
inductive SameOutcome (source : Text) : Option StreamFault → Option StreamFault → Prop
  | complete : SameOutcome source none none
  | failed {content content' : Text} {cause cause' : ParseCause}
      (same : cause.withoutOffset = cause'.withoutOffset)
      (message : SameUpToOffset (Failure.parse source content cause).message
        (Failure.parse source content' cause').message) :
      SameOutcome source (some (.failure (.parse source content cause)))
        (some (.failure (.parse source content' cause')))

theorem DrainAgrees.sameOutcome {complete : Bool} {source : Text}
    {expected : List Fragment × Except ParseCause (Bytes × Selector)}
    {first second : List Fragment × Option StreamFault × Streamer}
    (one : DrainAgrees complete source expected first)
    (two : DrainAgrees complete source expected second) :
    first.1 = second.1 ∧ SameOutcome source first.2.1 second.2.1 := by
  obtain ⟨fragments, outcome⟩ := expected
  cases one with
  | @failed _ content cause after =>
    generalize same : cause.withoutOffset = bare at two
    cases two with
    | failed => exact ⟨rfl, .failed same (ParseCause.sameUpToOffset same)⟩
  | @went _ after within finished named =>
    generalize after.pending = rest, after.selector 0 = selector at two
    cases two with
    | went => exact ⟨rfl, .complete⟩

/-- What is handed out and how it ends depends on the bytes fed alone. -/
theorem outcome_independent_of_chunking (path source : Text) {first second : List Call}
    (same : Call.fed first = Call.fed second) :
    ((ofPath path source).perform first).1 = ((ofPath path source).perform second).1 ∧
      SameOutcome source ((ofPath path source).perform first).2.1
        ((ofPath path source).perform second).2.1 := by
  have start := within_ofPath path source
  have one := perform_agrees start rfl first
  have two := perform_agrees start rfl second
  rw [same] at one
  exact one.sameOutcome two

/-- A tag that is cut in two, with a fragment asked for in between. -/
theorem outcome_of_cut_tag :
    Call.fed [.feed [0x3c, 0x61, 0x2f, 0x3e]] =
        Call.fed [.feed [0x3c, 0x61], .next, .feed [0x2f, 0x3e], .next] ∧
      ((ofPath ['a'] []).perform [.feed [0x3c, 0x61, 0x2f, 0x3e]]).1 =
        [⟨['<', 'a', '/', '>'], []⟩] ∧
      ((ofPath ['a'] []).perform [.feed [0x3c, 0x61, 0x2f, 0x3e]]).1 =
        ((ofPath ['a'] []).perform [.feed [0x3c, 0x61], .next, .feed [0x2f, 0x3e], .next]).1 :=
  ⟨by decide, by decide +kernel, (outcome_independent_of_chunking ['a'] [] (by decide)).1⟩

end Streamer

end MarkupQuery
