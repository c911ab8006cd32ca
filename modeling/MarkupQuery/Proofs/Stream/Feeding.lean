import MarkupQuery.Proofs.Stream.Chunking

/-!
Handing out after each piece. A streamer that is fed pieces one after another and drained after each
of them hands out what it would if it were drained once, at the end. Main statements: the fragments
of some markup and those of what follows make up those of the whole (`Selector.drain_append_drain`),
so a streamer may be drained as it goes, finished in the end (`Streamer.streamed_agrees`) or not
(`Streamer.feedAll_agrees`).
-/
namespace MarkupQuery

namespace Selector

/-- Where a run stops without a fragment, it does not go on. -/
theorem run_settled {m after : Selector} {markup rest : Bytes}
    (h : m.run false markup = .ok (none, rest, after)) :
    after.run false rest = .ok (none, rest, after) := by
  have runs := run_eq_ok_iff.mp h
  rw [run_eq_ok_iff]
  generalize same : (none : Option Fragment) = hit at runs ⊢
  clear h
  induction runs with
  | ended finished => exact .ended finished
  | cut going stops => exact .cut going stops
  | found => cases same
  | step _ _ _ ih => exact ih same

/-- Nothing is left to hand out. -/
def Settled (m : Selector) (rest : Bytes) : Prop := m.drain false rest = ([], .ok (rest, m))

theorem settled_nil (m : Selector) : m.Settled [] := by
  rw [Settled, drain_eq, next, run_eq]
  rfl

/-- Fragments of some markup, then those of what it leaves together with what follows. Induction on the
fragments. -/
theorem drain_append_drain (complete : Bool) (m : Selector) (markup more : Bytes) :
    m.drain complete (markup ++ more) =
      match m.drain false markup with
      | (fragments, .error cause) => (fragments, .error cause)
      | (fragments, .ok (rest, after)) =>
        (fragments ++ (after.drain complete (rest ++ more)).1,
          (after.drain complete (rest ++ more)).2) := by
  fun_induction drain false m markup with
  | case1 m markup cause failed => rw [drain_append, failed]
  | case2 m markup rest after ended =>
    rw [drain_append, ended]
    rfl
  | case3 m markup fragment rest after found fragments outcome drained ih =>
    rw [drain_append, found]
    dsimp only
    rw [ih, drained]
    cases outcome <;> rfl

theorem drain_settled {m after : Selector} {markup rest : Bytes} {fragments : List Fragment}
    (h : m.drain false markup = (fragments, .ok (rest, after))) : after.Settled rest := by
  fun_induction drain false m markup generalizing fragments with
  | case1 => cases h
  | case2 m markup rest after ended =>
    cases h
    rw [next_incomplete] at ended
    rw [Settled, drain_eq, next_incomplete, run_settled ended]
  | case3 m markup fragment rest after found fragments outcome drained ih =>
    cases h
    exact ih drained

end Selector

namespace Streamer

/-- Feeds pieces one after another and hands out all there is after each of them. -/
def feedAll (s : Streamer) : List Bytes → List Fragment × Option StreamFault × Streamer
  | [] => ([], none, s)
  | piece :: others =>
    match (s.feed piece).drain with
    | (fragments, some fault, after) => (fragments, some fault, after)
    | (fragments, none, after) =>
      let (more, fault, last) := after.feedAll others
      (fragments ++ more, fault, last)

/-- Feeds pieces one after another, finishes the streamer, and hands out all there is after each
piece and at the end. -/
def streamed (s : Streamer) (pieces : List Bytes) :
    List Fragment × Option StreamFault × Streamer :=
  match s.feedAll pieces with
  | (fragments, some fault, after) => (fragments, some fault, after)
  | (fragments, none, after) =>
    let (more, fault, last) := after.finish.drain
    (fragments ++ more, fault, last)

theorem DrainAgrees.append {complete : Bool} {source : Text}
    {expected : List Fragment × Except ParseCause (Bytes × Selector)}
    {actual : List Fragment × Option StreamFault × Streamer} (fragments : List Fragment)
    (h : DrainAgrees complete source expected actual) :
    DrainAgrees complete source (fragments ++ expected.1, expected.2)
      (fragments ++ actual.1, actual.2.1, actual.2.2) := by
  cases h with
  | failed => exact .failed
  | went within finished named => exact .went within finished named

theorem feed_agrees {s : Streamer} (within : s.Within 0) (chunk : Bytes) :
    DrainAgrees s.finished s.source ((s.selector 0).drain s.finished (s.pending ++ chunk))
      (s.feed chunk).drain := by
  have agrees := drain_agrees (within.feed chunk)
  rw [selector_feed] at agrees
  exact agrees

/-- Induction on the pieces: what is left after one of them is read on with the next. -/
theorem feedAll_agrees {s : Streamer} (within : s.Within 0) (going : s.finished = false)
    (settled : (s.selector 0).Settled s.pending) (pieces : List Bytes) :
    DrainAgrees false s.source ((s.selector 0).drain false (s.pending ++ pieces.flatten))
      (s.feedAll pieces) := by
  induction pieces generalizing s with
  | nil =>
    rw [List.flatten_nil, List.append_nil, settled]
    exact .went within going rfl
  | cons piece others ih =>
    have fed := feed_agrees within piece
    rw [going] at fed
    rw [List.flatten_cons, ← List.append_assoc, Selector.drain_append_drain, feedAll]
    generalize drained : (s.selector 0).drain false (s.pending ++ piece) = expected at fed
    generalize (s.feed piece).drain = actual at fed
    cases fed with
    | failed => exact .failed
    | @went fragments after inside finished named =>
      have further := ih inside finished (Selector.drain_settled drained)
      rw [named] at further
      exact further.append fragments

theorem streamed_agrees {s : Streamer} (within : s.Within 0) (going : s.finished = false)
    (settled : (s.selector 0).Settled s.pending) (pieces : List Bytes) :
    DrainAgrees true s.source ((s.selector 0).drain true (s.pending ++ pieces.flatten))
      (s.streamed pieces) := by
  have fed := feedAll_agrees within going settled pieces
  have whole := Selector.drain_append_drain true (s.selector 0) (s.pending ++ pieces.flatten) []
  rw [List.append_nil] at whole
  rw [whole, streamed]
  generalize (s.selector 0).drain false (s.pending ++ pieces.flatten) = expected at fed
  generalize s.feedAll pieces = actual at fed
  cases fed with
  | failed => exact .failed
  | @went fragments after inside finished named =>
    have last : DrainAgrees true after.source _ _ := drain_agrees inside.finish
    rw [named] at last
    dsimp only
    rw [List.append_nil]
    exact last.append fragments

end Streamer

end MarkupQuery
