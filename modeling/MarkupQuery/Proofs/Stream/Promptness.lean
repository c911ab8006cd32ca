import MarkupQuery.Proofs.Stream.Feeding
import MarkupQuery.Proofs.Utf8.Decoding

/-!
Handing out in time. The markup of a fragment ends where reading stands when the fragment is found,
and no byte after it is looked at. Main statement: each fragment of some markup ends some start of
the markup, and this start alone gives it and those before it (`Selector.drain_prompt`).
-/
namespace MarkupQuery

namespace Selector

variable {m after : Selector} {before : Bytes} {found : Option Fragment}

/-- What is kept of the selected element is the end of what has been read. -/
def Trailing (m : Selector) (read : Bytes) : Prop := ∀ h, m.held = some h → h.markup <:+ read

theorem Trailing.keep (h : m.Trailing before) (bytes : Bytes) :
    (m.keep bytes).Trailing (before ++ bytes) := by
  intro kept same
  cases held : m.held with
  | none => simp [Selector.keep, held] at same
  | some old =>
    simp only [Selector.keep, held, Option.map_some, Option.some.injEq] at same
    obtain ⟨skipped, read⟩ := h old held
    rw [← same, ← read, List.append_assoc]
    exact List.suffix_append _ _

theorem Trailing.enter (h : m.Trailing before) {name : Text} {raw : Bytes}
    (entered : m.enter name raw = .ok after) : after.Trailing before := by
  unfold Selector.enter at entered
  dsimp only at entered
  split at entered
  · cases entered
    exact h
  · split at entered
    · cases entered
      intro kept same
      cases same
      exact List.nil_suffix
    · split at entered
      · cases entered
      · cases entered
        exact h

theorem Trailing.close (h : m.Trailing before) (closed : m.close = .ok (found, after)) :
    after.Trailing before ∧ ∀ f, found = some f → Utf8.encode f.markup <:+ before := by
  unfold Selector.close at closed
  split at closed
  · cases closed
    exact ⟨h, fun f same => by cases same⟩
  · rename_i kept held
    split at closed
    · split at closed
      · rename_i markup decoded
        cases closed
        refine ⟨(fun kept same => by cases same), ?_⟩
        intro f same
        cases same
        dsimp only
        rw [← Utf8.encode_of_decode? decoded]
        exact h kept held
      · cases closed
    · cases closed
      exact ⟨h, fun f same => by cases same⟩

theorem Trailing.take (h : m.Trailing before) {token : Token} {bytes : Bytes}
    (taken : m.take token bytes = .ok (found, after)) :
    after.Trailing (before ++ bytes) ∧
      ∀ f, found = some f → Utf8.encode f.markup <:+ before ++ bytes := by
  cases take_eq_ok_iff.mp taken with
  | startTag _ entered => exact ⟨(h.enter entered).keep bytes, fun f same => by cases same⟩
  | emptyTag _ entered closed => exact ((h.enter entered).keep bytes).close closed
  | endTag _ _ closed => exact (h.keep bytes).close closed
  | other => exact ⟨h.keep bytes, fun f same => by cases same⟩

/-- A run looks at no byte after the fragment that it finds. Induction on the tokens that are taken; the part
that is read ends with the fragment. -/
theorem Runs.prompt {complete : Bool} {markup rest : Bytes} (runs : Runs complete m markup found rest after)
    (h : m.Trailing before) {fragment : Fragment} (hit : found = some fragment) :
    ∃ read, markup = read ++ rest ∧ Runs false m read (some fragment) [] after ∧
      after.Trailing (before ++ read) ∧ Utf8.encode fragment.markup <:+ before ++ read := by
  induction runs generalizing before with
  | ended => cases hit
  | cut => cases hit
  | @found m after markup token width _ scanned taken =>
    cases hit
    obtain ⟨trailing, ends⟩ := h.take taken
    have whole : (markup.take width).take width = markup.take width := by
      rw [List.take_take, Nat.min_self]
    have nothing : (markup.take width).drop width = [] := by
      rw [List.drop_eq_nil_iff, List.length_take]
      exact Nat.min_le_left ..
    have again := @Runs.found false m after _ token width fragment
      (Scan.token_take scanned (Nat.le_refl width)) (by rw [whole]; exact taken)
    rw [nothing] at again
    exact ⟨markup.take width, (List.take_append_drop width markup).symm, again, trailing, ends fragment rfl⟩
  | @step m next after markup rest token width _ scanned taken _ ih =>
    obtain ⟨read, split, again, trailing, ends⟩ := ih (h.take taken).1 hit
    have length : (markup.take width).length = width := by
      rw [List.length_take, Nat.min_eq_left (Scan.width_le scanned)]
    have whole : markup = markup.take width ++ read ++ rest := by
      rw [List.append_assoc, ← split, List.take_append_drop]
    have start : markup.take (width + read.length) = markup.take width ++ read := by
      conv_lhs => rw [whole]
      rw [List.take_left' (by rw [List.length_append, length])]
    have first : scan (markup.take width ++ read) = .token token width := by
      rw [← start]
      exact Scan.token_take scanned (Nat.le_add_right ..)
    rw [List.append_assoc] at trailing ends
    refine ⟨markup.take width ++ read, whole, ?_, trailing, ends⟩
    refine .step first (by rw [List.take_left' length]; exact taken) ?_
    rw [List.drop_left' length]
    exact again

theorem run_prompt {complete : Bool} {markup rest : Bytes} {fragment : Fragment}
    (h : m.Trailing before) (ran : m.run complete markup = .ok (some fragment, rest, after)) :
    ∃ read, markup = read ++ rest ∧ m.run false read = .ok (some fragment, [], after) ∧
      after.Trailing (before ++ read) ∧ Utf8.encode fragment.markup <:+ before ++ read := by
  obtain ⟨read, split, again, trailing⟩ := (run_eq_ok_iff.mp ran).prompt h rfl
  exact ⟨read, split, run_eq_ok_iff.mpr again, trailing⟩

theorem run_of_drain {complete : Bool} {markup : Bytes} {fragment : Fragment}
    {others : List Fragment} (drained : (m.drain complete markup).1 = fragment :: others) :
    ∃ rest after, m.run complete markup = .ok (some fragment, rest, after) ∧
      (after.drain complete rest).1 = others := by
  rw [drain_eq, next] at drained
  rcases ran : m.run complete markup with cause | ⟨_ | f, rest, after⟩
  · rw [ran] at drained
    cases drained
  · rw [ran] at drained
    dsimp only at drained
    split at drained
    · cases drained
    · cases drained
    · rename_i found
      split at found <;> cases found
  · rw [ran] at drained
    cases drained
    exact ⟨rest, after, rfl, rfl⟩

/-- Each fragment ends a start of the markup that gives no other fragment after it. -/
theorem drain_prompt {complete : Bool} {markup : Bytes} {fragment : Fragment}
    {first others : List Fragment} (h : m.Trailing before)
    (drained : (m.drain complete markup).1 = first ++ fragment :: others) :
    ∃ read, read <+: markup ∧ Utf8.encode fragment.markup <:+ before ++ read ∧
      (m.drain false read).1 = first ++ [fragment] := by
  induction first generalizing m markup before with
  | nil =>
    obtain ⟨rest, after, ran, _⟩ := run_of_drain drained
    obtain ⟨read, split, again, _, ends⟩ := run_prompt h ran
    refine ⟨read, ⟨rest, split.symm⟩, ends, ?_⟩
    rw [drain_of_run again, settled_nil]
    rfl
  | cons earlier first ih =>
    obtain ⟨rest, after, ran, left⟩ := run_of_drain drained
    obtain ⟨read, split, again, trailing, _⟩ := run_prompt h ran
    obtain ⟨more, ⟨unread, start⟩, ends, same⟩ := ih trailing left
    refine ⟨read ++ more, ⟨unread, ?_⟩, ?_, ?_⟩
    · rw [List.append_assoc, start, split]
    · rw [← List.append_assoc]
      exact ends
    · rw [drain_append_drain, drain_of_run again, settled_nil]
      dsimp only
      rw [List.nil_append, same]
      rfl

end Selector

end MarkupQuery
