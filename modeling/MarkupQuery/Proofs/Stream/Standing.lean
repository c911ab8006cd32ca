import MarkupQuery.Proofs.Stream.OpenTags

/-!
Where a streamer stands between two calls. The bytes that it has used up are a whole number of tokens, and the
elements that these leave open say what its trail, its scopes and its capture are, in whatever pieces the
bytes came and whenever a fragment was asked for. Main statement: `Streamer.standing_of_unfailed`.
-/
namespace MarkupQuery

open OpenTag

/-- A fragment is the markup of a wanted element, from the first byte of its tag to the end of the token that
closes it, and the markup read so far ends with this token. -/
inductive Handed (target : Text) (read : Bytes) (f : Fragment) : List Lexeme → Prop
  | intro {t : OpenTag} {outer opened : List OpenTag} {earlier : List Lexeme} {x : Lexeme}
      (before : Lexeme.open? earlier = some (opened.map OpenTag.lexeme))
      (closes : ClosedBy t outer x opened) (last : x.stop = read.length)
      (wanted : IsAt target (t :: outer)) (markup : Utf8.encode f.markup = read.drop t.start) :
      Handed target read f (earlier ++ [x])

namespace Selector

/-- A selector that has read some tokens, which leave the given tags open. -/
structure Standing (target : Text) (read : Bytes) (lexemes : List Lexeme) (opened : List OpenTag)
    (m : Selector) : Prop where
  lexed : ∃ last, (Lexer.ofBytes read).run = (lexemes, .finished, last)
  opens : Lexeme.open? lexemes = some (opened.map OpenTag.lexeme)
  within : ∀ t ∈ opened, t.Within read.length
  selector : m = ofOpen target opened read

variable {target : Text} {read markup rest : Bytes} {lexemes : List Lexeme} {opened : List OpenTag}
  {m after : Selector} {found : Option Fragment} {complete : Bool}

theorem standing_nil (target : Text) :
    Standing target [] [] [] ⟨target, none, Trail.empty, Scopes.empty⟩ where
  lexed := by
    refine ⟨Lexer.ofBytes [], ?_⟩
    rw [Lexer.run_eq]
    rfl
  opens := rfl
  within t member := by simp at member
  selector := rfl

/-- One more token. -/
theorem Standing.take (stands : m.Standing target read lexemes opened) {token : Token} {width : Nat}
    (scanned : scan markup = .token token width)
    (taken : m.take token (markup.take width) = .ok (found, after)) :
    ∃ longer later, after.Standing target (read ++ markup.take width) longer later ∧
      ∀ f, found = some f → Handed target (read ++ markup.take width) f longer := by
  have length : (markup.take width).length = width := by
    rw [List.length_take, Nat.min_eq_left (Scan.width_le scanned)]
  have alone := Scan.token_take scanned (Nat.le_refl width)
  generalize markup.take width = bytes at taken length alone ⊢
  subst length
  rw [stands.selector] at taken
  obtain ⟨later, opens, within, same, fragment⟩ := take_ofOpen stands.within scanned taken
  obtain ⟨last, ran⟩ := stands.lexed
  obtain ⟨longer, next, lexed, change, markup⟩ := Lexer.exists_run_concat ran alone
  rw [stands.opens, Option.bind_some] at change
  refine ⟨longer, later, ⟨⟨next, lexed⟩, change.trans opens, within, same⟩, ?_⟩
  intro f one
  obtain ⟨t, outer, closes, wanted, kept⟩ := fragment f one
  have tag : ∀ content, token ≠ .text content := by
    rintro content rfl
    cases closes with
    | endTag last => cases last
    | emptyTag single => cases single
  rw [markup tag]
  exact .intro stands.opens closes List.length_append.symm wanted kept

/-- A run reads a whole number of tokens, up to the end of the markup, to a construct that is cut off or to
the end of a fragment. Induction on the tokens that are taken. -/
theorem Standing.run (stands : m.Standing target read lexemes opened)
    (ran : m.run complete markup = .ok (found, rest, after)) :
    ∃ part longer later, markup = part ++ rest ∧
      after.Standing target (read ++ part) longer later ∧
      (found = none → rest = [] ∨ complete = false ∧ ∃ cause, scan rest = .cut cause) ∧
      ∀ f, found = some f → Handed target (read ++ part) f longer := by
  have still {m : Selector} {read : Bytes} {lexemes : List Lexeme} {opened : List OpenTag}
      (stands : m.Standing target read lexemes opened) :
      m.Standing target (read ++ []) lexemes opened := by
    rw [List.append_nil]
    exact stands
  have runs := run_eq_ok_iff.mp ran
  clear ran
  induction runs generalizing read lexemes opened with
  | @ended m markup finished =>
    have placed := Scan.placed_scan markup
    rw [finished] at placed
    exact ⟨[], lexemes, opened, rfl, still stands, fun _ => .inl placed, fun f same => by cases same⟩
  | cut going stops =>
    exact ⟨[], lexemes, opened, rfl, still stands, fun _ => .inr ⟨going, _, stops⟩,
      fun f same => by cases same⟩
  | @found m after markup token width fragment scanned taken =>
    obtain ⟨longer, later, further, handed⟩ := stands.take scanned taken
    have split := (List.take_append_drop width markup).symm
    refine ⟨markup.take width, longer, later, split, further, ?_, handed⟩
    intro none
    cases none
  | @step m next after markup rest token width hit scanned taken _ ih =>
    obtain ⟨longer, later, further, _⟩ := stands.take scanned taken
    obtain ⟨part, whole, last, split, standing, stops, handed⟩ := ih further
    have cut := List.take_append_drop width markup
    rw [split, ← List.append_assoc] at cut
    rw [List.append_assoc] at standing handed
    exact ⟨markup.take width ++ part, whole, last, cut.symm, standing, stops, handed⟩

theorem run_of_next (called : m.next complete markup = .ok (found, rest, after)) :
    m.run complete markup = .ok (found, rest, after) := by
  unfold next at called
  split at called
  · rename_i ran
    split at called
    · cases called
    · cases called
      exact ran
  · exact called

end Selector

namespace Streamer

/-- The streamers to which calls lead that have not failed, with the bytes fed. -/
inductive Unfailed (path source : Text) : Bytes → Streamer → Prop
  | start : Unfailed path source [] (ofPath path source)
  | feed {fed : Bytes} {s : Streamer} (sofar : Unfailed path source fed s) (chunk : Bytes) :
      Unfailed path source (fed ++ chunk) (s.feed chunk)
  | finish {fed : Bytes} {s : Streamer} (sofar : Unfailed path source fed s) :
      Unfailed path source fed s.finish
  | next {fed : Bytes} {s after : Streamer} {found : Option Fragment}
      (sofar : Unfailed path source fed s) (called : s.next = (.ok found, after)) :
      Unfailed path source fed after

/-- Where a streamer stands that has been fed some bytes: those that are used up are a whole number of tokens,
and the elements that these leave open, the innermost first, are those of its trail. The declarations in its
scopes are those on the elements outside the captured one, which is the one at the target. -/
structure Standing (target : Text) (fed used : Bytes) (lexemes : List Lexeme) (opened : List OpenTag)
    (s : Streamer) : Prop where
  fed_eq : fed = used ++ s.pending
  lexed : ∃ last, (Lexer.ofBytes used).run = (lexemes, .finished, last)
  opens : Lexeme.open? lexemes = some (opened.map OpenTag.lexeme)
  names : s.trail.names.reverse.map (·.name) = chain opened
  text : s.trail.text = Text.join '.' (chain opened)
  trail_depth : s.trail.depth = opened.length
  scopes_depth : s.scopes.depth = s.trail.depth
  bindings : s.scopes.bindings = (outside target opened).flatMap OpenTag.bindings
  capture_iff : s.capture.isSome = true ↔
    ∃ t outer, t :: outer <:+ opened ∧ IsAt target (t :: outer)
  captured : ∀ c, s.capture = some c → ∀ t outer, t :: outer <:+ opened → IsAt target (t :: outer) →
    c.depth = outer.length + 1 ∧ c.start = 0 ∧ c.pieces.reverse.flatten = used.drop t.start

variable {path source target : Text} {fed read : Bytes} {s after : Streamer} {lexemes : List Lexeme}
  {opened : List OpenTag} {found : Option Fragment}

theorem Within.standing (within : s.Within 0)
    (stands : (s.selector 0).Standing target read lexemes opened) (same : fed = read ++ s.pending) :
    s.Standing target fed read lexemes opened := by
  have held : s.capture.map (fun c => Selection.mk
        (c.pieces.reverse.flatten ++ (s.pending.take 0).drop c.start) c.depth c.inherited) =
      (selected? target opened).map (Selection.ofOpen target read) :=
    congrArg Selector.held stands.selector
  have trail : s.trail = Trail.ofChain (chain opened) := congrArg Selector.trail stands.selector
  have scopes : s.scopes = OpenTag.scopes target opened := congrArg Selector.scopes stands.selector
  have depth : s.trail.depth = opened.length := by
    rw [trail, Trail.depth_ofChain, length_chain]
  constructor
  · exact same
  · exact stands.lexed
  · exact stands.opens
  · rw [trail, Trail.names_ofChain]
  · rw [trail, Trail.text_ofChain (named_chain stands.within)]
  · exact depth
  · rw [depth, scopes]
    exact length_nested target opened
  · rw [scopes, bindings_scopes]
  · have both : s.capture.isSome = (selected? target opened).isSome := by
      rw [← Option.isSome_map, held, Option.isSome_map]
    rw [both, Option.isSome_iff_exists]
    constructor
    · rintro ⟨⟨t, outer⟩, selected⟩
      exact ⟨t, outer, selected?_eq_some_iff.mp selected⟩
    · rintro ⟨t, outer, inside⟩
      exact ⟨(t, outer), selected?_eq_some_iff.mpr inside⟩
  · intro c captured t outer suffix wanted
    have start := within.start_le c captured
    rw [captured, selected?_eq_some_iff.mpr ⟨suffix, wanted⟩] at held
    simp only [Option.map_some, List.take_zero, List.drop_nil, List.append_nil, Option.some.injEq,
      Selection.ofOpen, Selection.mk.injEq] at held
    exact ⟨held.2.1, Nat.le_zero.mp start, held.1⟩

/-- What a call that does not fail uses up and hands out. -/
theorem Within.next_standing (within : s.Within 0)
    (stands : (s.selector 0).Standing target read lexemes opened)
    (called : s.next = (.ok found, after)) :
    ∃ part longer later, s.pending = part ++ after.pending ∧ after.Within 0 ∧
      (after.selector 0).Standing target (read ++ part) longer later ∧
      (found = none → after.pending = [] ∨
        s.finished = false ∧ ∃ cause, scan after.pending = .cut cause) ∧
      ∀ f, found = some f → Handed target (read ++ part) f longer := by
  have agrees := next_agrees within
  rw [called] at agrees
  generalize expected : (s.selector 0).next s.finished s.pending = outcome at agrees
  cases agrees with
  | went settled _ _ =>
    obtain ⟨part, longer, later, split, standing, stops, handed⟩ :=
      stands.run (Selector.run_of_next expected)
    exact ⟨part, longer, later, split, settled, standing, stops, handed⟩

/-- Induction on the calls: none of them reads less than a whole number of tokens. -/
theorem Unfailed.exists_standing (sofar : Unfailed path source fed s) :
    ∃ read lexemes opened, fed = read ++ s.pending ∧ s.Within 0 ∧
      (s.selector 0).Standing (Path.parse path).normalized read lexemes opened := by
  induction sofar with
  | start => exact ⟨[], [], [], rfl, within_ofPath path source, Selector.standing_nil _⟩
  | feed _ chunk ih =>
    obtain ⟨read, lexemes, opened, split, within, stands⟩ := ih
    refine ⟨read, lexemes, opened, ?_, within.feed chunk, ?_⟩
    · rw [split, List.append_assoc]
      rfl
    · rw [selector_feed]
      exact stands
  | finish _ ih =>
    obtain ⟨read, lexemes, opened, split, within, stands⟩ := ih
    exact ⟨read, lexemes, opened, split, within.finish, stands⟩
  | next _ called ih =>
    obtain ⟨read, lexemes, opened, split, within, stands⟩ := ih
    obtain ⟨part, longer, later, used, settled, further, _⟩ := within.next_standing stands called
    refine ⟨read ++ part, longer, later, ?_, settled, further⟩
    rw [split, used, List.append_assoc]

/-- As long as no call fails, what a streamer holds is what the elements that are open in the bytes used up
make of it. A call that hands out nothing uses up all bytes but a construct that is cut off, and a
fragment is a stretch of the bytes fed, from the first byte of its element to the last. -/
theorem standing_of_unfailed (sofar : Unfailed path source fed s) :
    (∃ used lexemes opened, s.Standing (Path.parse path).normalized fed used lexemes opened) ∧
      (∀ after, s.next = (.ok none, after) →
        after.pending = [] ∨ s.finished = false ∧ after.pending.head? = some 0x3c ∧
          ∃ cause, scan after.pending = .cut cause) ∧
      ∀ f after, s.next = (.ok (some f), after) →
        ∃ used lexemes opened, after.Standing (Path.parse path).normalized fed used lexemes opened ∧
          Handed (Path.parse path).normalized used f lexemes := by
  obtain ⟨read, lexemes, opened, split, within, stands⟩ := sofar.exists_standing
  refine ⟨⟨read, lexemes, opened, within.standing stands split⟩, ?_, ?_⟩
  · intro after called
    obtain ⟨_, _, _, _, _, _, stops, _⟩ := within.next_standing stands called
    by_cases nothing : after.pending = []
    · exact .inl nothing
    · obtain ⟨going, cause, scanned⟩ := (stops rfl).resolve_left nothing
      refine .inr ⟨going, ?_, cause, scanned⟩
      apply Scan.head?_of_ne_token nothing
      simp [scanned]
  · intro f after called
    obtain ⟨part, longer, later, used, settled, further, _, handed⟩ :=
      within.next_standing stands called
    refine ⟨read ++ part, longer, later, settled.standing further ?_, handed f rfl⟩
    rw [split, used, List.append_assoc]

/-- The element at `a.b`, whose end tag comes after a call that finds nothing. -/
theorem standing_of_unfailed_cut_element :
    let s := ((ofPath "a.b".toList []).feed (Utf8.encode "<a xmlns='u'><b>t".toList)).next.2
    s.capture.isSome = true ∧
      (∃ used lexemes opened, s.Standing "a.b".toList (Utf8.encode "<a xmlns='u'><b>t".toList)
        used lexemes opened) ∧
      ∃ f after, (s.feed (Utf8.encode "</b> <!--".toList)).next = (.ok (some f), after) ∧
        ∃ used lexemes opened, after.Standing "a.b".toList
            (Utf8.encode "<a xmlns='u'><b>t".toList ++ Utf8.encode "</b> <!--".toList)
            used lexemes opened ∧
          Handed "a.b".toList used f lexemes := by
  intro s
  have target : (Path.parse "a.b".toList).normalized = "a.b".toList := by decide +kernel
  have nothing : ((ofPath "a.b".toList []).feed (Utf8.encode "<a xmlns='u'><b>t".toList)).next =
      (.ok none, s) := Prod.ext (by decide +kernel) rfl
  have first : Unfailed "a.b".toList [] (Utf8.encode "<a xmlns='u'><b>t".toList) s :=
    .next (.feed .start _) nothing
  obtain ⟨f, found⟩ : ∃ f, (s.feed (Utf8.encode "</b> <!--".toList)).next.1 = .ok (some f) :=
    ⟨⟨"<b>t</b>".toList, [⟨none, ['u']⟩]⟩, by decide +kernel⟩
  have one := (standing_of_unfailed first).1
  have two := (standing_of_unfailed (first.feed (Utf8.encode "</b> <!--".toList))).2.2 f _
    (Prod.ext found rfl)
  rw [target] at one two
  exact ⟨by decide +kernel, one, f, _, Prod.ext found rfl, two⟩

end Streamer

end MarkupQuery
