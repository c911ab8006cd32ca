import MarkupQuery.Document
import MarkupQuery.Path
import MarkupQuery.Stream.Trail

/-!
Finding the elements at a path while markup arrives in pieces. Bytes wait in `pending` until they
are needed; the trail of open names decides which element is wanted, and the markup of that element
is kept, over as many pieces as it takes, until its end tag. Reading stops right after each wanted
element. Where a step fails, no bytes are used up, but what the step had already done to the trail
and the scopes remains. Main statement: a fragment uses up at least one byte, so handing out
fragments comes to an end.
-/
namespace MarkupQuery

/-- The markup of one wanted element and the bindings in force around it. -/
structure Fragment where
  markup : Text
  inherited : List Binding
  deriving DecidableEq, Repr

/-- The tree of a fragment, whose source is named in failures. -/
def Fragment.load (f : Fragment) (source : Text) : Except Failure Node :=
  Node.load source f.inherited f.markup

/-- What stops a streamer: a failure, or a slice of the pending bytes whose bounds do not lie in
them in this order. -/
inductive StreamFault
  | failure (failure : Failure)
  | outOfBounds (start stop : Nat)
  deriving DecidableEq, Repr

/-- A wanted element that is open: the pieces of its markup that are used up, the latest first,
where in the pending bytes the rest of it starts, how many elements are open at it, itself
included, and the bindings around it. -/
structure Capture where
  pieces : List Bytes
  start : Nat
  depth : Nat
  inherited : List Binding
  deriving DecidableEq, Repr

/-- A streamer between two pieces of markup. -/
structure Streamer where
  target : Text
  source : Text
  pending : Bytes
  finished : Bool
  capture : Option Capture
  trail : Trail
  scopes : Scopes
  deriving DecidableEq, Repr

namespace Streamer

/-- A streamer that wants the elements at a path. -/
def ofPath (path source : Text) : Streamer :=
  ⟨(Path.parse path).normalized, source, [], false, none, Trail.empty, Scopes.empty⟩

def feed (s : Streamer) (chunk : Bytes) : Streamer := { s with pending := s.pending ++ chunk }

/-- Says that no more bytes will come. -/
def finish (s : Streamer) : Streamer := { s with finished := true }

/-- The pending bytes from `start` up to `stop`. -/
def slice (s : Streamer) (start stop : Nat) : Except StreamFault Bytes :=
  if start ≤ stop && stop ≤ s.pending.length then .ok ((s.pending.take stop).drop start)
  else .error (.outOfBounds start stop)

/-- A failure to parse what is pending. -/
def fault (s : Streamer) (cause : ParseCause) : StreamFault :=
  .failure (.parse s.source (Utf8.decodeLossy s.pending) cause)

/-- Leaves the innermost element. -/
def leave (s : Streamer) : Streamer := { s with trail := s.trail.pop, scopes := s.scopes.pop }

/-- The fragment of a capture that ends before the offset `stop`. -/
def complete (s : Streamer) (c : Capture) (stop : Nat) : Except StreamFault Fragment :=
  match s.slice c.start stop with
  | .error fault => .error fault
  | .ok last =>
    let bytes := (last :: c.pieces).reverse.flatten
    match Utf8.decode? bytes with
    | some markup => .ok ⟨markup, c.inherited⟩
    | none =>
      .error (.failure (.parse s.source (Utf8.decodeLossy bytes) .fragmentEncoding))

/-- Closes the innermost element at the offset `stop`; the fragment, if the element is wanted. -/
def close (s : Streamer) (stop : Nat) : Except StreamFault (Option Fragment) × Streamer :=
  match s.capture with
  | none => (.ok none, s.leave)
  | some c =>
    if c.depth == s.trail.depth then
      let s := { s with capture := none }
      match s.complete c stop with
      | .error fault => (.error fault, s)
      | .ok fragment => (.ok (some fragment), s.leave)
    else (.ok none, s.leave)

/-- The namespace declarations in an attribute section. A section without the letters `xmlns`
holds none and is not looked at. -/
def declarations (raw : Bytes) : Except ParseCause (List Binding) :=
  if (Delimiter.sequence? (Utf8.encode Attribute.declarationName) raw).isNone then .ok []
  else
    match Utf8.decode? raw with
    | none => .error .encoding
    | some text =>
      match Attribute.parse text with
      | .error fault => .error (.attributes fault)
      | .ok attributes =>
        .ok (attributes.filterMap fun a => a.declares?.map fun q => ⟨q, a.value⟩)

/-- Enters an element whose tag starts at the offset `start`. The declarations of a wanted element
and of those inside it stay with its markup. -/
def enter (s : Streamer) (name : Text) (raw : Bytes) (start : Nat) :
    Except StreamFault Unit × Streamer :=
  let trail := s.trail.push name
  let entered := { s with trail, scopes := s.scopes.push }
  if s.capture.isSome then (.ok (), entered)
  else if trail.isAt s.target then
    (.ok (), { entered with capture := some ⟨[], start, trail.depth, s.scopes.inScope⟩ })
  else
    match declarations raw with
    | .error cause => (.error (s.fault cause), entered)
    | .ok bindings => (.ok (), { entered with scopes := bindings.foldl Scopes.declare entered.scopes })

/-- Takes one token. Only tags matter. -/
def take (s : Streamer) (lexeme : Lexeme) : Except StreamFault (Option Fragment) × Streamer :=
  match lexeme.token with
  | .startTag name raw =>
    match Utf8.decode? name with
    | none => (.error (s.fault .encoding), s)
    | some name =>
      match s.enter name raw lexeme.start with
      | (.error fault, s) => (.error fault, s)
      | (.ok (), s) => (.ok none, s)
  | .emptyTag name raw =>
    match Utf8.decode? name with
    | none => (.error (s.fault .encoding), s)
    | some name =>
      match s.enter name raw lexeme.start with
      | (.error fault, s) => (.error fault, s)
      | (.ok (), s) => s.close lexeme.stop
  | .endTag name =>
    match Utf8.decode? name with
    | none => (.error (s.fault .encoding), s)
    | some name =>
      match s.trail.last? with
      | none => (.error (s.fault (.unexpectedEnd name)), s)
      | some innermost =>
        if innermost == name then s.close lexeme.stop
        else (.error (s.fault (.mismatchedEnd name innermost)), s)
  | _ => (.ok none, s)

/-- Takes tokens until a fragment is complete, the markup ends or is cut off, or something is
wrong. Together with the outcome, the offset that was reached. -/
def run (s : Streamer) (lexer : Lexer) : Except StreamFault (Option Fragment) × Nat × Streamer :=
  match _h : lexer.step with
  | (.fault fault, after) =>
    (.error (s.fault (.event ⟨.lexical fault.cause, fault.position⟩)), after.position, s)
  | (.finished, after) | (.incomplete, after) => (.ok none, after.position, s)
  | (.lexeme lexeme, after) =>
    match s.take lexeme with
    | (.ok none, s) => s.run after
    | (outcome, s) => (outcome, after.position, s)
termination_by lexer.rest.length
decreasing_by exact Lexer.step_lexeme_length_lt _h

/-- Uses up the pending bytes before an offset; those of an open capture are kept. -/
def consume (s : Streamer) (count : Nat) : Except StreamFault Streamer :=
  match s.capture with
  | none => .ok { s with pending := s.pending.drop count }
  | some c =>
    match s.slice c.start count with
    | .error fault => .error fault
    | .ok piece =>
      .ok { s with
        pending := s.pending.drop count
        capture := some { c with pieces := piece :: c.pieces, start := 0 } }

/-- What an element still open at the end of the markup amounts to. -/
def ending (s : Streamer) : Except StreamFault (Option Fragment) :=
  match s.finished, s.trail.last? with
  | true, some innermost =>
    .error (.failure (.parse s.source s.trail.text (.unclosed innermost)))
  | _, _ => .ok none

/-- The next fragment. None means that more bytes are needed or, once the streamer is finished,
that the document is complete. -/
def next (s : Streamer) : Except StreamFault (Option Fragment) × Streamer :=
  match s.run ⟨s.finished, 0, s.pending⟩ with
  | (.error fault, _, s) => (.error fault, s)
  | (.ok found, count, s) =>
    match s.consume count with
    | .error fault => (.error fault, s)
    | .ok s =>
      match found with
      | some fragment => (.ok (some fragment), s)
      | none => (s.ending, s)

theorem close_pending (s : Streamer) (stop : Nat) : (s.close stop).2.pending = s.pending := by
  fun_cases close s stop <;> rfl

theorem enter_pending {s after : Streamer} {name : Text} {raw : Bytes} {start : Nat}
    {outcome : Except StreamFault Unit} (entered : s.enter name raw start = (outcome, after)) :
    after.pending = s.pending := by
  have same : (s.enter name raw start).2.pending = s.pending := by
    fun_cases enter s name raw start <;> rfl
  rw [entered] at same
  exact same

theorem take_pending (s : Streamer) (lexeme : Lexeme) : (s.take lexeme).2.pending = s.pending := by
  fun_cases take s lexeme with
  | case2 _ _ _ _ _ fault after entered => exact enter_pending entered
  | case3 _ _ _ _ _ after entered => exact enter_pending entered
  | case5 _ _ _ _ _ fault after entered => exact enter_pending entered
  | case6 _ _ _ _ _ after entered =>
    exact (close_pending after lexeme.stop).trans (enter_pending entered)
  | case9 => exact close_pending s lexeme.stop
  | _ => rfl

theorem run_pending (s : Streamer) (lexer : Lexer) :
    (s.run lexer).2.2.pending = s.pending := by
  fun_induction run s lexer with
  | case1 => rfl
  | case2 => rfl
  | case3 => rfl
  | case4 s lexer lexeme after _ taken found ih =>
    have same := take_pending s lexeme
    rw [found] at same
    rw [ih, same]
  | case5 s lexer lexeme after _ outcome taken _ found =>
    have same := take_pending s lexeme
    rw [found] at same
    exact same

/-- Reading up to the end of a fragment passes over at least one byte. -/
theorem run_advances {s after : Streamer} {lexer : Lexer} {fragment : Fragment} {count : Nat}
    (h : s.run lexer = (.ok (some fragment), count, after)) : lexer.position < count := by
  fun_induction run s lexer with
  | case1 => cases h
  | case2 => cases h
  | case3 => cases h
  | case4 s lexer lexeme next stepped taken found ih =>
    exact Nat.lt_trans (Lexer.step_lexeme_position_lt stepped) (ih h)
  | case5 s lexer lexeme next stepped outcome taken _ found =>
    cases h
    exact Lexer.step_lexeme_position_lt stepped

theorem consume_length {s after : Streamer} {count : Nat} (h : s.consume count = .ok after) :
    after.pending.length = s.pending.length - count := by
  unfold consume at h
  split at h
  · cases h
    simp
  · split at h
    · cases h
    · cases h
      simp

/-- A fragment uses up at least one pending byte. -/
theorem next_length_lt {s after : Streamer} {fragment : Fragment}
    (h : s.next = (.ok (some fragment), after)) : after.pending.length < s.pending.length := by
  unfold next at h
  split at h
  · cases h
  · rename_i found count stopped ran
    split at h
    · cases h
    · rename_i consumed used
      split at h
      · cases h
        have same := run_pending s ⟨s.finished, 0, s.pending⟩
        rw [ran] at same
        have wide := run_advances ran
        have shorter := consume_length used
        simp only at same wide
        rw [same] at shorter
        have nonempty : s.pending ≠ [] := by
          intro empty
          rw [empty, run] at ran
          simp [Lexer.step, scan] at ran
        have := List.length_pos_iff.mpr nonempty
        omega
      · unfold ending at h
        split at h <;> cases h

/-- The fragments that the pending bytes complete, what stops the streamer if anything does, and
the streamer after it. -/
def drain (s : Streamer) : List Fragment × Option StreamFault × Streamer :=
  match _h : s.next with
  | (.error fault, s) => ([], some fault, s)
  | (.ok none, s) => ([], none, s)
  | (.ok (some fragment), after) =>
    let (fragments, fault, last) := after.drain
    (fragment :: fragments, fault, last)
termination_by s.pending.length
decreasing_by exact next_length_lt _h

end Streamer

end MarkupQuery
