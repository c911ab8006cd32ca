import MarkupQuery.Proofs.Lexer.Locality
import MarkupQuery.Stream.Streamer

/-!
Selection without a buffer. A `Selector` reads markup token by token and keeps the bytes of the
element that it has selected; it knows neither pieces nor offsets. A streamer that has passed over
some of its pending bytes stands for a selector. Main statement: what a streamer hands out next is
what its selector finds next in the pending bytes (`Streamer.next_agrees`).
-/
namespace MarkupQuery

/-- A selected element that is open: its markup so far, how many elements are open at it, itself
included, and the bindings around it. -/
structure Selection where
  markup : Bytes
  depth : Nat
  inherited : List Binding
  deriving DecidableEq, Repr

/-- The elements that are open and the one among them that is selected. -/
structure Selector where
  target : Text
  held : Option Selection
  trail : Trail
  scopes : Scopes
  deriving DecidableEq, Repr

/-- Whether a token is the tag of an element. -/
def Token.isTag : Token → Bool
  | startTag .. | emptyTag .. | endTag _ => true
  | text _ | cdata _ | comment _ | instruction .. | declaration .. | doctype _ => false

namespace Selector

/-- Adds bytes to the markup of the selected element. -/
def keep (m : Selector) (bytes : Bytes) : Selector :=
  { m with held := m.held.map fun h => { h with markup := h.markup ++ bytes } }

def leave (m : Selector) : Selector := { m with trail := m.trail.pop, scopes := m.scopes.pop }

/-- Enters an element before any byte of its tag is kept. -/
def enter (m : Selector) (name : Text) (raw : Bytes) : Except ParseCause Selector :=
  let entered := { m with trail := m.trail.push name, scopes := m.scopes.push }
  if m.held.isSome then .ok entered
  else if entered.trail.isAt m.target then
    .ok { entered with held := some ⟨[], entered.trail.depth, m.scopes.inScope⟩ }
  else
    match Streamer.declarations raw with
    | .error cause => .error cause
    | .ok bindings => .ok { entered with scopes := bindings.foldl Scopes.declare entered.scopes }

/-- Closes the innermost element, the last byte of which is kept. -/
def close (m : Selector) : Except ParseCause (Option Fragment × Selector) :=
  match m.held with
  | none => .ok (none, m.leave)
  | some h =>
    if h.depth == m.trail.depth then
      match Utf8.decode? h.markup with
      | some markup => .ok (some ⟨markup, h.inherited⟩, { m with held := none }.leave)
      | none => .error .fragmentEncoding
    else .ok (none, m.leave)

/-- Takes one token, which the given bytes spell. -/
def take (m : Selector) (token : Token) (bytes : Bytes) :
    Except ParseCause (Option Fragment × Selector) :=
  match token with
  | .startTag name raw =>
    match Utf8.decode? name with
    | none => .error .encoding
    | some name =>
      match m.enter name raw with
      | .error cause => .error cause
      | .ok m => .ok (none, m.keep bytes)
  | .emptyTag name raw =>
    match Utf8.decode? name with
    | none => .error .encoding
    | some name =>
      match m.enter name raw with
      | .error cause => .error cause
      | .ok m => (m.keep bytes).close
  | .endTag name =>
    match Utf8.decode? name with
    | none => .error .encoding
    | some name =>
      match m.trail.last? with
      | none => .error (.unexpectedEnd name)
      | some innermost =>
        if innermost == name then (m.keep bytes).close else .error (.mismatchedEnd name innermost)
  | _ => .ok (none, m.keep bytes)

/-- What a token does that is taken. A start tag enters an element, an end tag closes the innermost one, and the
tag of an empty element does both; the bytes of every token are kept. -/
inductive Takes (m : Selector) (bytes : Bytes) : Token → Option Fragment → Selector → Prop
  | startTag {name raw : Bytes} {text : Text} {inside : Selector}
      (decoded : Utf8.decode? name = some text) (entered : m.enter text raw = .ok inside) :
      Takes m bytes (.startTag name raw) none (inside.keep bytes)
  | emptyTag {name raw : Bytes} {text : Text} {inside after : Selector} {found : Option Fragment}
      (decoded : Utf8.decode? name = some text) (entered : m.enter text raw = .ok inside)
      (closed : (inside.keep bytes).close = .ok (found, after)) :
      Takes m bytes (.emptyTag name raw) found after
  | endTag {name : Bytes} {text : Text} {after : Selector} {found : Option Fragment}
      (decoded : Utf8.decode? name = some text) (innermost : m.trail.last? = some text)
      (closed : (m.keep bytes).close = .ok (found, after)) : Takes m bytes (.endTag name) found after
  | other {token : Token} (plain : token.isTag = false) : Takes m bytes token none (m.keep bytes)

theorem take_eq_ok_iff {m after : Selector} {token : Token} {bytes : Bytes} {found : Option Fragment} :
    m.take token bytes = .ok (found, after) ↔ m.Takes bytes token found after := by
  constructor
  · fun_cases take m token bytes with
    | case3 _ _ text decoded inside entered =>
      rintro ⟨⟩
      exact .startTag decoded entered
    | case6 _ _ text decoded inside entered =>
      intro closed
      exact .emptyTag decoded entered closed
    | case9 _ text decoded innermost last same =>
      intro closed
      rw [beq_iff_eq.mp same] at last
      exact .endTag decoded last closed
    | case11 token start single stop =>
      rintro ⟨⟩
      refine .other ?_
      cases token with
      | startTag name raw => exact absurd rfl (start name raw)
      | emptyTag name raw => exact absurd rfl (single name raw)
      | endTag name => exact absurd rfl (stop name)
      | _ => rfl
    | _ => rintro ⟨⟩
  · intro takes
    cases takes with
    | startTag decoded entered =>
      rw [take, decoded]
      dsimp only
      rw [entered]
    | emptyTag decoded entered closed =>
      rw [take, decoded]
      dsimp only
      rw [entered]
      exact closed
    | endTag decoded innermost closed =>
      rw [take, decoded]
      dsimp only
      rw [innermost]
      simpa using closed
    | other plain =>
      cases token with
      | startTag | emptyTag | endTag => cases plain
      | _ => rfl

/-- The fault of markup that is cut off or malformed at its head, the offset left out. -/
def lexicalCause (cause : LexicalCause) : ParseCause := .event ⟨.lexical cause, 0⟩

/-- Reads up to the end of the next selected element, or to where the markup ends or is cut off;
what was found and the markup that is left. -/
def run (complete : Bool) (m : Selector) (markup : Bytes) :
    Except ParseCause (Option Fragment × Bytes × Selector) :=
  match _h : scan markup with
  | .finished => .ok (none, markup, m)
  | .cut cause =>
    if complete then .error (lexicalCause (.unfinished cause)) else .ok (none, markup, m)
  | .rejected cause _ _ => .error (lexicalCause (.malformed cause))
  | .token token width =>
    match m.take token (markup.take width) with
    | .error cause => .error cause
    | .ok (some fragment, m) => .ok (some fragment, markup.drop width, m)
    | .ok (none, m) => m.run complete (markup.drop width)
termination_by markup.length
decreasing_by exact Scan.length_drop_lt _h

theorem run_eq (complete : Bool) (m : Selector) (markup : Bytes) :
    m.run complete markup =
      match scan markup with
      | .finished => .ok (none, markup, m)
      | .cut cause =>
        if complete then .error (lexicalCause (.unfinished cause)) else .ok (none, markup, m)
      | .rejected cause _ _ => .error (lexicalCause (.malformed cause))
      | .token token width =>
        match m.take token (markup.take width) with
        | .error cause => .error cause
        | .ok (some fragment, m) => .ok (some fragment, markup.drop width, m)
        | .ok (none, m) => m.run complete (markup.drop width) := by
  rw [run]
  split <;> rename_i found <;> rw [found]

section

variable {complete : Bool} {m after : Selector} {markup rest : Bytes} {token : Token} {width : Nat}
  {fragment : Fragment}

theorem run_step (found : scan markup = .token token width)
    (taken : m.take token (markup.take width) = .ok (none, after)) :
    m.run complete markup = after.run complete (markup.drop width) := by
  rw [run_eq, found]
  dsimp only
  rw [taken]

theorem run_found (found : scan markup = .token token width)
    (taken : m.take token (markup.take width) = .ok (some fragment, after)) :
    m.run complete markup = .ok (some fragment, markup.drop width, after) := by
  rw [run_eq, found]
  dsimp only
  rw [taken]

end

/-- A run without a fault: one token after another is taken, up to the end of the markup, to a construct that
is cut off or to the end of a fragment. -/
inductive Runs (complete : Bool) : Selector → Bytes → Option Fragment → Bytes → Selector → Prop
  | ended {m : Selector} {markup : Bytes} (finished : scan markup = .finished) :
      Runs complete m markup none markup m
  | cut {m : Selector} {markup : Bytes} {cause : Unfinished} (going : complete = false)
      (stops : scan markup = .cut cause) : Runs complete m markup none markup m
  | found {m after : Selector} {markup : Bytes} {token : Token} {width : Nat} {fragment : Fragment}
      (scanned : scan markup = .token token width)
      (taken : m.take token (markup.take width) = .ok (some fragment, after)) :
      Runs complete m markup (some fragment) (markup.drop width) after
  | step {m next after : Selector} {markup rest : Bytes} {token : Token} {width : Nat}
      {hit : Option Fragment} (scanned : scan markup = .token token width)
      (taken : m.take token (markup.take width) = .ok (none, next))
      (further : Runs complete next (markup.drop width) hit rest after) :
      Runs complete m markup hit rest after

theorem run_eq_ok_iff {complete : Bool} {m after : Selector} {markup rest : Bytes}
    {hit : Option Fragment} :
    m.run complete markup = .ok (hit, rest, after) ↔ Runs complete m markup hit rest after := by
  constructor
  · intro ran
    fun_induction run complete m markup with
    | case1 m markup finished =>
      cases ran
      exact .ended finished
    | case2 => cases ran
    | case3 m markup cause stops going =>
      cases ran
      exact .cut (by simpa using going) stops
    | case4 => cases ran
    | case5 => cases ran
    | case6 m markup token width scanned fragment next taken =>
      cases ran
      exact .found scanned taken
    | case7 m markup token width scanned next taken ih => exact .step scanned taken (ih ran)
  · intro runs
    induction runs with
    | ended finished => rw [run_eq, finished]
    | cut going stops =>
      rw [run_eq, stops, going]
      rfl
    | found scanned taken => exact run_found scanned taken
    | step scanned taken _ ih => rw [run_step scanned taken, ih]

/-- What is found takes up at least one byte. -/
theorem Runs.length_lt {complete : Bool} {m after : Selector} {markup rest : Bytes}
    {hit : Option Fragment} (runs : Runs complete m markup hit rest after) (found : hit.isSome = true) :
    rest.length < markup.length := by
  induction runs with
  | ended => cases found
  | cut => cases found
  | found scanned => exact Scan.length_drop_lt scanned
  | step scanned _ _ ih => exact (ih found).trans (Scan.length_drop_lt scanned)

/-- An element that is open at the end of complete markup is a fault. -/
def next (complete : Bool) (m : Selector) (markup : Bytes) :
    Except ParseCause (Option Fragment × Bytes × Selector) :=
  match m.run complete markup with
  | .ok (none, rest, m) =>
    match complete, m.trail.last? with
    | true, some innermost => .error (.unclosed innermost)
    | _, _ => .ok (none, rest, m)
  | outcome => outcome

theorem next_length_lt {complete : Bool} {m after : Selector} {markup rest : Bytes}
    {fragment : Fragment} (h : m.next complete markup = .ok (some fragment, rest, after)) :
    rest.length < markup.length := by
  unfold next at h
  split at h
  · split at h <;> cases h
  · exact (run_eq_ok_iff.mp h).length_lt rfl

/-- All fragments, with the fault that ends them or what is left. -/
def drain (complete : Bool) (m : Selector) (markup : Bytes) :
    List Fragment × Except ParseCause (Bytes × Selector) :=
  match _h : m.next complete markup with
  | .error cause => ([], .error cause)
  | .ok (none, rest, m) => ([], .ok (rest, m))
  | .ok (some fragment, rest, m) =>
    let (fragments, outcome) := m.drain complete rest
    (fragment :: fragments, outcome)
termination_by markup.length
decreasing_by exact next_length_lt _h

theorem drain_eq (complete : Bool) (m : Selector) (markup : Bytes) :
    m.drain complete markup =
      match m.next complete markup with
      | .error cause => ([], .error cause)
      | .ok (none, rest, m) => ([], .ok (rest, m))
      | .ok (some fragment, rest, m) =>
        (fragment :: (m.drain complete rest).1, (m.drain complete rest).2) := by
  rw [drain]
  split <;> rename_i found <;> rw [found]

theorem drain_of_run {complete : Bool} {m after : Selector} {markup rest : Bytes}
    {fragment : Fragment} (ran : m.run complete markup = .ok (some fragment, rest, after)) :
    m.drain complete markup =
      (fragment :: (after.drain complete rest).1, (after.drain complete rest).2) := by
  rw [drain_eq, next, ran]

end Selector

/-- The cause with the offset that it may carry left out. -/
def ParseCause.withoutOffset : ParseCause → ParseCause
  | event fault => event { fault with position := 0 }
  | cause => cause

namespace Streamer

/-- What a streamer that has passed over `read` pending bytes has selected. -/
def selector (s : Streamer) (read : Nat) : Selector where
  target := s.target
  held := s.capture.map fun c =>
    ⟨c.pieces.reverse.flatten ++ (s.pending.take read).drop c.start, c.depth, c.inherited⟩
  trail := s.trail
  scopes := s.scopes

/-- The bytes passed over are pending ones, and the open capture starts among them. -/
structure Within (s : Streamer) (read : Nat) : Prop where
  le_length : read ≤ s.pending.length
  start_le : ∀ c, s.capture = some c → c.start ≤ read

theorem within_ofPath (path source : Text) : (ofPath path source).Within 0 :=
  ⟨Nat.zero_le _, fun c captured => by cases captured⟩

theorem Within.feed {s : Streamer} (within : s.Within 0) (chunk : Bytes) :
    (s.feed chunk).Within 0 :=
  ⟨Nat.zero_le _, within.start_le⟩

theorem Within.finish {s : Streamer} {read : Nat} (within : s.Within read) :
    s.finish.Within read :=
  ⟨within.le_length, within.start_le⟩

theorem selector_feed (s : Streamer) (chunk : Bytes) :
    (s.feed chunk).selector 0 = s.selector 0 := by
  simp [selector, feed]

/-- Two streamers that differ only in what they have selected. -/
structure SameInput (s after : Streamer) : Prop where
  pending : after.pending = s.pending
  finished : after.finished = s.finished
  source : after.source = s.source

/-- A step of a streamer that ends `read` bytes on has the outcome of a step of its selector. -/
inductive Agrees (s : Streamer) (read : Nat) : Except ParseCause (Option Fragment × Selector) →
    Except StreamFault (Option Fragment) × Streamer → Prop
  | failed {content : Text} {cause : ParseCause} {after : Streamer}
      (bare : cause.withoutOffset = cause) :
      Agrees s read (.error cause) (.error (.failure (.parse s.source content cause)), after)
  | went {found : Option Fragment} {after : Streamer} (within : after.Within read)
      (same : s.SameInput after) :
      Agrees s read (.ok (found, after.selector read)) (.ok found, after)

theorem selector_keep {s : Streamer} {read width : Nat} (within : s.Within read)
    (bound : read + width ≤ s.pending.length) :
    s.selector (read + width) = (s.selector read).keep ((s.pending.drop read).take width) := by
  cases captured : s.capture with
  | none => simp [selector, Selector.keep, captured]
  | some c =>
    have start := within.start_le c captured
    have split : (s.pending.take (read + width)).drop c.start =
        (s.pending.take read).drop c.start ++ (s.pending.drop read).take width := by
      rw [List.take_add, List.drop_append_of_le_length (by simp; omega)]
    simp [selector, Selector.keep, captured, split, List.append_assoc]

theorem Within.mono {s : Streamer} {read next : Nat} (within : s.Within read) (le : read ≤ next)
    (bound : next ≤ s.pending.length) : s.Within next :=
  ⟨bound, fun c captured => Nat.le_trans (within.start_le c captured) le⟩

theorem declarations_bare {raw : Bytes} {cause : ParseCause}
    (h : declarations raw = .error cause) : cause.withoutOffset = cause := by
  unfold declarations at h
  split at h
  · cases h
  · split at h
    · cases h
      rfl
    · split at h
      · cases h
        rfl
      · cases h

/-- A streamer that enters an element `read` bytes on does what its selector does. -/
inductive EnterAgrees (s : Streamer) (read : Nat) : Except ParseCause Selector →
    Except StreamFault Unit × Streamer → Prop
  | failed {cause : ParseCause} {after : Streamer} (bare : cause.withoutOffset = cause) :
      EnterAgrees s read (.error cause) (.error (s.fault cause), after)
  | went {after : Streamer} (within : after.Within read) (same : s.SameInput after) :
      EnterAgrees s read (.ok (after.selector read)) (.ok (), after)

/-- After an element is entered, a step of the streamer and one of its selector go on alike. -/
theorem EnterAgrees.bind {s : Streamer} {read stop : Nat} {expected : Except ParseCause Selector}
    {actual : Except StreamFault Unit × Streamer}
    {next : Selector → Except ParseCause (Option Fragment × Selector)}
    {further : Streamer → Except StreamFault (Option Fragment) × Streamer}
    (alike : ∀ {after : Streamer}, after.Within read → s.SameInput after →
      s.Agrees stop (next (after.selector read)) (further after)) :
    EnterAgrees s read expected actual → s.Agrees stop
      (match expected with
        | .error cause => .error cause
        | .ok m => next m)
      (match actual with
        | (.error fault, after) => (.error fault, after)
        | (.ok (), after) => further after) := by
  intro entered
  cases entered with
  | failed bare => exact .failed bare
  | went within same => exact alike within same

/-- Entering an element with nothing kept of its tag yet. -/
theorem enter_agrees {s : Streamer} {read : Nat} (within : s.Within read) (name : Text)
    (raw : Bytes) :
    EnterAgrees s read ((s.selector read).enter name raw) (s.enter name raw read) := by
  obtain ⟨target, source, pending, finished, capture, trail, scopes⟩ := s
  obtain ⟨bound, start⟩ := within
  unfold Selector.enter enter
  cases capture with
  | some c =>
    have inside : Within ⟨target, source, pending, finished, some c, trail.push name,
        scopes.push⟩ read := ⟨bound, start⟩
    exact .went inside ⟨rfl, rfl, rfl⟩
  | none =>
    by_cases wanted : (trail.push name).isAt target = true
    · simp only [selector, Option.map_none, Option.isSome_none, Bool.false_eq_true, if_false,
        wanted, if_true]
      have inside : Within ⟨target, source, pending, finished,
          some ⟨[], read, (trail.push name).depth, scopes.inScope⟩, trail.push name,
          scopes.push⟩ read := by
        refine ⟨bound, ?_⟩
        intro c same
        cases same
        exact Nat.le_refl _
      have went := EnterAgrees.went (s := ⟨target, source, pending, finished, none, trail, scopes⟩)
        inside ⟨rfl, rfl, rfl⟩
      simpa [selector] using went
    · simp only [selector, Option.map_none, Option.isSome_none, Bool.false_eq_true, if_false,
        wanted]
      cases declared : declarations raw with
      | error cause => exact .failed (declarations_bare declared)
      | ok bindings =>
        have inside : Within ⟨target, source, pending, finished, none, trail.push name,
            bindings.foldl Scopes.declare scopes.push⟩ read :=
          ⟨bound, fun c same => by cases same⟩
        exact .went inside ⟨rfl, rfl, rfl⟩

theorem close_agrees {s : Streamer} {stop : Nat} (within : s.Within stop) :
    Agrees s stop (s.selector stop).close (s.close stop) := by
  obtain ⟨target, source, pending, finished, capture, trail, scopes⟩ := s
  obtain ⟨bound, start⟩ := within
  unfold Selector.close close
  cases capture with
  | none =>
    have within : Within ⟨target, source, pending, finished, none, trail.pop, scopes.pop⟩ stop :=
      ⟨bound, start⟩
    exact .went within ⟨rfl, rfl, rfl⟩
  | some c =>
    have first : c.start ≤ stop := start c rfl
    by_cases innermost : (c.depth == trail.depth) = true
    · have inside : (decide (c.start ≤ stop) && decide (stop ≤ pending.length)) = true := by
        simp only [Bool.and_eq_true, decide_eq_true_eq]
        exact ⟨first, bound⟩
      have whole : ((pending.take stop).drop c.start :: c.pieces).reverse.flatten =
          c.pieces.reverse.flatten ++ (pending.take stop).drop c.start := by simp
      simp only [selector, Option.map_some, innermost, if_true, complete, slice, inside, whole]
      cases decoded :
          Utf8.decode? (c.pieces.reverse.flatten ++ (pending.take stop).drop c.start) with
      | none => exact .failed rfl
      | some markup =>
        have within :
            Within ⟨target, source, pending, finished, none, trail.pop, scopes.pop⟩ stop :=
          ⟨bound, fun c same => by cases same⟩
        exact .went within ⟨rfl, rfl, rfl⟩
    · simp only [selector, Option.map_some, innermost]
      have within :
          Within ⟨target, source, pending, finished, some c, trail.pop, scopes.pop⟩ stop :=
        ⟨bound, start⟩
      exact .went within ⟨rfl, rfl, rfl⟩

theorem SameInput.trans {first second third : Streamer} (one : first.SameInput second)
    (two : second.SameInput third) : first.SameInput third :=
  ⟨two.pending.trans one.pending, two.finished.trans one.finished, two.source.trans one.source⟩

theorem Agrees.of_sameInput {s middle : Streamer} {read : Nat}
    {expected : Except ParseCause (Option Fragment × Selector)}
    {actual : Except StreamFault (Option Fragment) × Streamer} (same : s.SameInput middle)
    (h : middle.Agrees read expected actual) : s.Agrees read expected actual := by
  cases h with
  | failed bare =>
    rw [same.source]
    exact .failed bare
  | went within input => exact .went within (same.trans input)

/-- Taking the token that the bytes after `read` spell. -/
theorem take_agrees {s : Streamer} {read width : Nat} (within : s.Within read)
    (bound : read + width ≤ s.pending.length) (token : Token) :
    Agrees s (read + width) ((s.selector read).take token ((s.pending.drop read).take width))
      (s.take ⟨token, read, read + width⟩) := by
  have kept {after : Streamer} (inside : after.Within read) (same : s.SameInput after) :
      (after.selector read).keep ((s.pending.drop read).take width) =
        after.selector (read + width) := by
    rw [← same.pending] at bound ⊢
    exact (selector_keep inside bound).symm
  have further {after : Streamer} (inside : after.Within read) (same : s.SameInput after) :
      after.Within (read + width) :=
    inside.mono (Nat.le_add_right ..) (by rw [same.pending]; exact bound)
  have unchanged : s.SameInput s := ⟨rfl, rfl, rfl⟩
  unfold Selector.take take
  cases token with
  | startTag name raw =>
    dsimp only
    cases Utf8.decode? name with
    | none => exact .failed rfl
    | some name =>
      refine EnterAgrees.bind (fun inside input => ?_) (enter_agrees within name raw)
      rw [kept inside input]
      exact .went (further inside input) input
  | emptyTag name raw =>
    dsimp only
    cases Utf8.decode? name with
    | none => exact .failed rfl
    | some name =>
      refine EnterAgrees.bind (fun inside input => ?_) (enter_agrees within name raw)
      rw [kept inside input]
      exact (close_agrees (further inside input)).of_sameInput input
  | endTag name =>
    dsimp only
    cases Utf8.decode? name with
    | none => exact .failed rfl
    | some name =>
      have trail : (s.selector read).trail = s.trail := rfl
      simp only [trail]
      cases s.trail.last? with
      | none => exact .failed rfl
      | some innermost =>
        by_cases same : (innermost == name) = true
        · simp only [same, if_true, kept within unchanged]
          exact close_agrees (further within unchanged)
        · simp only [same]
          exact .failed rfl
  | _ =>
    simp only [kept within unchanged]
    exact .went (further within unchanged) unchanged

/-- The outcome of a run of a streamer is that of a run of its selector. -/
inductive RunAgrees (s : Streamer) : Except ParseCause (Option Fragment × Bytes × Selector) →
    Except StreamFault (Option Fragment) × Nat × Streamer → Prop
  | failed {content : Text} {cause : ParseCause} {count : Nat} {after : Streamer} :
      RunAgrees s (.error cause.withoutOffset)
        (.error (.failure (.parse s.source content cause)), count, after)
  | went {found : Option Fragment} {count : Nat} {after : Streamer} (within : after.Within count)
      (same : s.SameInput after) :
      RunAgrees s (.ok (found, s.pending.drop count, after.selector count))
        (.ok found, count, after)

theorem RunAgrees.of_sameInput {s middle : Streamer}
    {expected : Except ParseCause (Option Fragment × Bytes × Selector)}
    {actual : Except StreamFault (Option Fragment) × Nat × Streamer} (same : s.SameInput middle)
    (h : middle.RunAgrees expected actual) : s.RunAgrees expected actual := by
  cases h with
  | failed =>
    rw [same.source]
    exact .failed
  | went within input =>
    rw [same.pending]
    exact .went within (same.trans input)

theorem run_eq (s : Streamer) (lexer : Lexer) :
    s.run lexer =
      match lexer.step with
      | (.fault fault, after) =>
        (.error (s.fault (.event ⟨.lexical fault.cause, fault.position⟩)), after.position, s)
      | (.finished, after) | (.incomplete, after) => (.ok none, after.position, s)
      | (.lexeme lexeme, after) =>
        match s.take lexeme with
        | (.ok none, s) => s.run after
        | (outcome, s) => (outcome, after.position, s) := by
  rw [run]
  split <;> rename_i found <;> exact found ▸ rfl

/-- Induction on the bytes still to be passed over. -/
theorem run_agrees {s : Streamer} {read : Nat} (within : s.Within read) :
    s.RunAgrees ((s.selector read).run s.finished (s.pending.drop read))
      (s.run ⟨s.finished, read, s.pending.drop read⟩) := by
  induction left : s.pending.length - read using Nat.strongRecOn generalizing s read with
  | ind left ih =>
    have unchanged : s.SameInput s := ⟨rfl, rfl, rfl⟩
    rw [Selector.run_eq, run_eq, Lexer.step]
    cases scanned : scan (s.pending.drop read) with
    | finished => exact .went within unchanged
    | cut cause =>
      by_cases complete : s.finished = true
      · simp only [complete, if_true]
        exact @RunAgrees.failed s _ (.event ⟨.lexical (.unfinished cause), read⟩) _ _
      · simp only [complete]
        exact .went within unchanged
    | rejected cause offset resume =>
      exact @RunAgrees.failed s _ (.event ⟨.lexical (.malformed cause), read + offset⟩) _ _
    | token token width =>
      have wide := Scan.width_pos scanned
      have fits := Scan.width_le scanned
      rw [List.length_drop] at fits
      have bound : read + width ≤ s.pending.length := by omega
      have past : (s.pending.drop read).drop width = s.pending.drop (read + width) :=
        List.drop_drop
      have taken := take_agrees within bound token
      dsimp only [Lexer.advance]
      rw [past]
      generalize (s.selector read).take token ((s.pending.drop read).take width) = expected
        at taken
      generalize s.take ⟨token, read, read + width⟩ = actual at taken
      cases taken with
      | @failed content cause after bare =>
        have failed := @RunAgrees.failed s content cause (read + width) after
        rw [bare] at failed
        exact failed
      | @went found after inside same =>
        cases found with
        | some fragment => exact .went inside same
        | none =>
          have further := ih (s.pending.length - (read + width)) (by omega) inside
            (by rw [same.pending])
          rw [same.pending, same.finished] at further
          exact further.of_sameInput same

/-- What a settled streamer hands out next. -/
inductive NextAgrees (complete : Bool) (source : Text) :
    Except ParseCause (Option Fragment × Bytes × Selector) →
    Except StreamFault (Option Fragment) × Streamer → Prop
  | failed {content : Text} {cause : ParseCause} {after : Streamer} :
      NextAgrees complete source (.error cause.withoutOffset)
        (.error (.failure (.parse source content cause)), after)
  | went {found : Option Fragment} {after : Streamer} (within : after.Within 0)
      (finished : after.finished = complete) (named : after.source = source) :
      NextAgrees complete source (.ok (found, after.pending, after.selector 0)) (.ok found, after)

theorem consume_selector {s : Streamer} {count : Nat} (within : s.Within count) :
    ∃ after, s.consume count = .ok after ∧ after.pending = s.pending.drop count ∧
      after.selector 0 = s.selector count ∧ after.Within 0 ∧ after.finished = s.finished ∧
      after.source = s.source := by
  obtain ⟨target, source, pending, finished, capture, trail, scopes⟩ := s
  obtain ⟨bound, start⟩ := within
  unfold consume
  cases capture with
  | none =>
    exact ⟨_, rfl, rfl, rfl, ⟨Nat.zero_le _, fun c same => by cases same⟩, rfl, rfl⟩
  | some c =>
    have inside : (decide (c.start ≤ count) && decide (count ≤ pending.length)) = true := by
      simp only [Bool.and_eq_true, decide_eq_true_eq]
      exact ⟨start c rfl, bound⟩
    simp only [slice, inside, if_true]
    refine ⟨_, rfl, rfl, ?_, ⟨Nat.zero_le _, ?_⟩, rfl, rfl⟩
    · simp [selector]
    · intro c same
      cases same
      exact Nat.le_refl 0

/-- What a streamer hands out next is what its selector finds next in the pending bytes. -/
theorem next_agrees {s : Streamer} (within : s.Within 0) :
    NextAgrees s.finished s.source ((s.selector 0).next s.finished s.pending) s.next := by
  have ran := run_agrees within
  unfold Selector.next next
  rw [List.drop_zero] at ran
  generalize (s.selector 0).run s.finished s.pending = expected at ran
  generalize s.run ⟨s.finished, 0, s.pending⟩ = actual at ran
  cases ran with
  | failed => exact .failed
  | @went found count after inside same =>
    obtain ⟨settled, used, pending, selected, start, finished, source⟩ := consume_selector inside
    dsimp only
    rw [used]
    cases found with
    | some fragment =>
      dsimp only
      rw [← same.pending, ← pending, ← selected]
      exact .went start (finished.trans same.finished) (source.trans same.source)
    | none =>
      have trail : (after.selector count).trail = settled.trail := by rw [← selected]; rfl
      dsimp only
      rw [trail, ending, finished, same.finished]
      cases complete : s.finished with
      | false =>
        rw [← same.pending, ← pending, ← selected]
        exact .went start (finished.trans (same.finished.trans complete)) (source.trans same.source)
      | true =>
        cases open_ : settled.trail.last? with
        | none =>
          rw [← same.pending, ← pending, ← selected]
          exact .went start (finished.trans (same.finished.trans complete))
            (source.trans same.source)
        | some innermost =>
          rw [source, same.source]
          exact @NextAgrees.failed _ _ _ (.unclosed innermost) _

theorem drain_eq (s : Streamer) :
    s.drain =
      match s.next with
      | (.error fault, after) => ([], some fault, after)
      | (.ok none, after) => ([], none, after)
      | (.ok (some fragment), after) =>
        (fragment :: after.drain.1, after.drain.2.1, after.drain.2.2) := by
  rw [drain]
  split <;> rename_i found <;> rw [found]

/-- All that a settled streamer hands out. -/
inductive DrainAgrees (complete : Bool) (source : Text) :
    List Fragment × Except ParseCause (Bytes × Selector) →
    List Fragment × Option StreamFault × Streamer → Prop
  | failed {fragments : List Fragment} {content : Text} {cause : ParseCause} {after : Streamer} :
      DrainAgrees complete source (fragments, .error cause.withoutOffset)
        (fragments, some (.failure (.parse source content cause)), after)
  | went {fragments : List Fragment} {after : Streamer} (within : after.Within 0)
      (finished : after.finished = complete) (named : after.source = source) :
      DrainAgrees complete source (fragments, .ok (after.pending, after.selector 0))
        (fragments, none, after)

theorem DrainAgrees.of_ok {complete : Bool} {source : Text} {fragments : List Fragment}
    {rest : Bytes} {m : Selector} {actual : List Fragment × Option StreamFault × Streamer}
    (h : DrainAgrees complete source (fragments, .ok (rest, m)) actual) :
    ∃ after, actual = (fragments, none, after) ∧ after.selector 0 = m := by
  generalize shape : (fragments, Except.ok (rest, m)) = expected at h
  cases h with
  | failed => cases shape
  | @went _ after within finished named =>
    cases shape
    exact ⟨after, rfl, rfl⟩

theorem DrainAgrees.cons {complete : Bool} {source : Text}
    {expected : List Fragment × Except ParseCause (Bytes × Selector)}
    {actual : List Fragment × Option StreamFault × Streamer} (fragment : Fragment)
    (h : DrainAgrees complete source expected actual) :
    DrainAgrees complete source (fragment :: expected.1, expected.2)
      (fragment :: actual.1, actual.2.1, actual.2.2) := by
  cases h with
  | failed => exact .failed
  | went within finished named => exact .went within finished named

/-- Induction on the pending bytes: each fragment uses up some of them. -/
theorem drain_agrees {s : Streamer} (within : s.Within 0) :
    DrainAgrees s.finished s.source ((s.selector 0).drain s.finished s.pending) s.drain := by
  induction left : s.pending.length using Nat.strongRecOn generalizing s with
  | ind left ih =>
    have went := next_agrees within
    rw [Selector.drain_eq, drain_eq]
    generalize (s.selector 0).next s.finished s.pending = expected at went
    generalize actually : s.next = actual at went
    cases went with
    | failed => exact .failed
    | @went found after settled finished named =>
      cases found with
      | none => exact .went settled finished named
      | some fragment =>
        have shorter := next_length_lt actually
        have others := ih _ (by omega) settled rfl
        rw [finished, named] at others
        exact others.cons fragment

end Streamer

end MarkupQuery
