import MarkupQuery.Proofs.Path.Joining
import MarkupQuery.Proofs.Stream.Standing

/-!
What a target says about the elements that are found for it. An element is found where the joined names of
the elements down to it are the target, so the segments of the target are these names, each cut at its full
stops. Main statement: the segments are the names themselves for exactly those elements where no name has a
full stop in it (`Streamer.segments_of_next`).
-/
namespace MarkupQuery

open OpenTag

/-- The last token of the markup closes an element, with the given ones around it. -/
inductive EndsWith (read : Bytes) (t : OpenTag) (outer : List OpenTag) : Prop
  | intro {earlier : List Lexeme} {opened : List OpenTag} {x : Lexeme} {last : Lexer}
      (lexed : (Lexer.ofBytes read).run = (earlier ++ [x], .finished, last))
      (before : Lexeme.open? earlier = some (opened.map OpenTag.lexeme))
      (closes : ClosedBy t outer x opened)

/-- What is left open are tags that were read. -/
theorem Lexeme.subset_of_open? {lexemes opened : List Lexeme} (opens : open? lexemes = some opened) :
    opened ⊆ lexemes := by
  induction lexemes using List.reverseRecOn generalizing opened with
  | nil =>
    cases opens
    exact List.Subset.refl _
  | append_singleton earlier x ih =>
    rw [open?_concat] at opens
    obtain ⟨before, was, change⟩ := Option.bind_eq_some_iff.mp opens
    have still := List.Subset.trans (ih was) (List.subset_append_left earlier [x])
    unfold openAfter? at change
    split at change
    · cases change
      exact List.cons_subset.mpr ⟨by simp, still⟩
    · split at change
      · cases change
      · split at change
        · cases change
          exact List.Subset.trans (List.subset_cons_self _ _) still
        · cases change
    · cases change
      exact still

theorem OpenTag.lexeme_injective : Function.Injective OpenTag.lexeme := by
  intro t u same
  rw [lexeme, lexeme, Lexeme.mk.injEq, Token.startTag.injEq] at same
  obtain ⟨⟨names, attributes⟩, start, stop⟩ := same
  cases t
  cases u
  congr
  exact Utf8.encode_injective names

namespace EndsWith

variable {read : Bytes} {t u : OpenTag} {outer around : List OpenTag}

/-- Markup ends with one element at most, down to which the names and the first byte are determined. -/
theorem unique (ends : EndsWith read t outer) (also : EndsWith read u around) :
    chain (t :: outer) = chain (u :: around) ∧ t.start = u.start := by
  obtain @⟨earlier, opened, x, last, lexed, before, closes⟩ := ends
  obtain @⟨others, further, y, _, again, later, closed⟩ := also
  obtain ⟨rfl, same⟩ := List.append_inj' (Prod.mk.inj (lexed.symm.trans again)).1 rfl
  obtain rfl : x = y := List.singleton_inj.mp same
  obtain rfl : opened = further := by
    apply List.map_injective_iff.mpr OpenTag.lexeme_injective
    exact Option.some.inj (before.symm.trans later)
  cases closes with
  | endTag last =>
    cases closed with
    | endTag => exact ⟨rfl, rfl⟩
    | emptyTag single => cases last.symm.trans single
  | emptyTag single start =>
    cases closed with
    | endTag last => cases last.symm.trans single
    | emptyTag other place =>
      have names := (Token.emptyTag.inj (single.symm.trans other)).1
      rw [chain_cons, chain_cons, Utf8.encode_injective names]
      exact ⟨rfl, start.symm.trans place⟩

/-- The names of tags that open elements are not empty. -/
theorem named (ends : EndsWith read t outer) : ∀ name ∈ chain (t :: outer), name ≠ [] := by
  obtain ⟨lexed, before, closes⟩ := ends
  rename_i earlier opened x last
  obtain ⟨_, lexes, _⟩ := Lexes.of_run lexed rfl
  have tag {token : Token} {u : OpenTag} (inside : ∃ y ∈ earlier ++ [x], y.token = token)
      (opening : token = .startTag (Utf8.encode u.name) u.attributes ∨
        token = .emptyTag (Utf8.encode u.name) u.attributes) : u.name ≠ [] := by
    obtain ⟨y, member, rfl⟩ := inside
    obtain ⟨width, scanned⟩ := lexes.scan_of_mem member
    exact Selector.name_ne_nil_of_scan scanned opening (Utf8.decode?_encode u.name)
  have around : ∀ u ∈ opened, u.name ≠ [] := by
    intro u member
    have read := Lexeme.subset_of_open? before (List.mem_map_of_mem member)
    exact tag ⟨u.lexeme, List.mem_append_left [x] read, rfl⟩ (.inl rfl)
  have all : ∀ u ∈ t :: outer, u.name ≠ [] := by
    cases closes with
    | endTag => exact around
    | emptyTag single =>
      intro u member
      rcases List.mem_cons.mp member with rfl | further
      · exact tag ⟨x, by simp, single⟩ (.inr rfl)
      · exact around u further
  intro name member
  obtain ⟨u, inside, rfl⟩ := List.mem_map.mp member
  exact all u (List.mem_reverse.mp inside)

/-- Joined, the names are a target exactly if they are its segments, each name cut at its full stops. -/
theorem isAt_normalized_iff (ends : EndsWith read t outer) (path : Text) :
    IsAt (Path.parse path).normalized (t :: outer) ↔
      (Path.parse path).segments.map Segment.render = (chain (t :: outer)).flatMap (Text.split '.') := by
  have nonempty : chain (t :: outer) ≠ [] := by simp [chain]
  rw [← Text.split_join '.' nonempty, IsAt]
  cases self : (Path.parse path).isSelf with
  | true =>
    have none : (Path.parse path).segments = [] := List.isEmpty_iff.mp self
    rw [Path.normalized, none]
    refine iff_of_false (Text.join_ne_nil '.' nonempty ends.named) ?_
    exact (Text.split_ne_nil '.' _).symm
  | false =>
    rw [Path.render_segments self]
    constructor
    · intro same
      rw [same]
    · intro same
      have joined := congrArg (Text.join '.') same
      rw [Text.join_split, Text.join_split] at joined
      exact joined.symm

end EndsWith

namespace Streamer

variable {path source : Text} {fed : Bytes} {s after : Streamer} {f : Fragment}

/-- A fragment is the markup of the element that the markup read so far ends with. The names down to it, each
cut at its full stops, are the segments of the target. These are the names themselves, and as many, exactly
if no name has a full stop in it. -/
theorem segments_of_next (sofar : Unfailed path source fed s)
    (called : s.next = (.ok (some f), after)) :
    ∃ read, fed = read ++ after.pending ∧ (∃ t outer, EndsWith read t outer) ∧
      ∀ t outer, EndsWith read t outer → Utf8.encode f.markup = read.drop t.start ∧
        (Path.parse path).segments.map Segment.render =
          (chain (t :: outer)).flatMap (Text.split '.') ∧
        (chain (t :: outer) = (Path.parse path).segments.map Segment.render ↔
          ∀ name ∈ chain (t :: outer), '.' ∉ name) ∧
        (outer.length + 1 = (Path.parse path).segments.length ↔
          ∀ name ∈ chain (t :: outer), '.' ∉ name) := by
  obtain ⟨read, lexemes, opened, split, within, stands⟩ := sofar.exists_standing
  obtain ⟨part, longer, later, used, _, further, _, handed⟩ := within.next_standing stands called
  obtain ⟨last, lexed⟩ := further.lexed
  have handed := handed f rfl
  generalize longer = lexemes at lexed handed
  obtain @⟨t, outer, opened, earlier, x, before, closes, _, wanted, markup⟩ := handed
  have ends : EndsWith (read ++ part) t outer := .intro lexed before closes
  have segments := (ends.isAt_normalized_iff path).mp wanted
  refine ⟨read ++ part, ?_, ⟨t, outer, ends⟩, ?_⟩
  · rw [split, used, List.append_assoc]
  · intro u around also
    obtain ⟨names, start⟩ := ends.unique also
    rw [names] at segments
    rw [start] at markup
    have depth : around.length + 1 = (chain (u :: around)).length := by simp
    have number : (Path.parse path).segments.length =
        ((chain (u :: around)).flatMap (Text.split '.')).length := by
      rw [← segments, List.length_map]
    refine ⟨markup, segments, ?_, ?_⟩
    · rw [segments, eq_comm, Text.flatMap_split_eq_self_iff]
    · rw [depth, number, eq_comm, Text.length_flatMap_split_eq_iff]

/-- A child with a qualified name, asked for with an arrow. -/
theorem segments_of_next_of_child :
    let s := (ofPath "r->x:a".toList []).feed (Utf8.encode "<r><x:a/>".toList)
    s.next.1 = .ok (some ⟨"<x:a/>".toList, []⟩) ∧
      ∃ read, Utf8.encode "<r><x:a/>".toList = read ++ s.next.2.pending ∧
        (∃ t outer, EndsWith read t outer) ∧
        ∀ t outer, EndsWith read t outer → Utf8.encode "<x:a/>".toList = read.drop t.start ∧
          ["r".toList, "x:a".toList] = (chain (t :: outer)).flatMap (Text.split '.') ∧
          (chain (t :: outer) = ["r".toList, "x:a".toList] ↔
            ∀ name ∈ chain (t :: outer), '.' ∉ name) ∧
          (outer.length + 1 = 2 ↔ ∀ name ∈ chain (t :: outer), '.' ∉ name) := by
  intro s
  have found : s.next.1 = .ok (some ⟨"<x:a/>".toList, []⟩) := by decide +kernel
  have segments : (Path.parse "r->x:a".toList).segments.map Segment.render =
      ["r".toList, "x:a".toList] := by decide
  have number : (Path.parse "r->x:a".toList).segments.length = 2 := by decide
  have sofar : Unfailed "r->x:a".toList [] (Utf8.encode "<r><x:a/>".toList) s := .feed .start _
  have matched := segments_of_next sofar (Prod.ext found rfl)
  rw [segments, number] at matched
  exact ⟨found, matched⟩

/-- The target of two segments is met by one element with a full stop in its name. After a call that failed,
names that it had read before are read again and count twice. -/
theorem segments_ne_chain :
    (let s := (ofPath "a.b".toList []).feed (Utf8.encode "<a.b/>".toList)
      let t : OpenTag := ⟨"a.b".toList, [], 0, 6⟩
      Unfailed "a.b".toList [] (Utf8.encode "<a.b/>".toList) s ∧
        s.next.1 = .ok (some ⟨"<a.b/>".toList, []⟩) ∧ EndsWith (Utf8.encode "<a.b/>".toList) t [] ∧
        chain [t] ≠ (Path.parse "a.b".toList).segments.map Segment.render ∧
        [t].length ≠ (Path.parse "a.b".toList).segments.length) ∧
    (let s := ((ofPath "x.x.a".toList []).feed (Utf8.encode "<x><a></a></y>".toList)).next.2
      let opened : List OpenTag := [⟨"a".toList, [], 3, 6⟩, ⟨"x".toList, [], 0, 3⟩]
      s.next.1 = .ok (some ⟨"<a></a>".toList, []⟩) ∧
        (∃ t outer, opened = t :: outer ∧ EndsWith (Utf8.encode "<x><a></a>".toList) t outer) ∧
        chain opened ≠ (Path.parse "x.x.a".toList).segments.map Segment.render ∧
        opened.length ≠ (Path.parse "x.x.a".toList).segments.length) := by
  have one : (Lexer.ofBytes (Utf8.encode "<a.b/>".toList)).run =
      ([] ++ [⟨.emptyTag (Utf8.encode "a.b".toList) [], 0, 6⟩], .finished, ⟨true, 6, []⟩) := by
    decide +kernel
  have two : (Lexer.ofBytes (Utf8.encode "<x><a></a>".toList)).run =
      ([⟨.startTag (Utf8.encode "x".toList) [], 0, 3⟩, ⟨.startTag (Utf8.encode "a".toList) [], 3, 6⟩] ++
        [⟨.endTag (Utf8.encode "a".toList), 6, 10⟩], .finished, ⟨true, 10, []⟩) := by
    decide +kernel
  refine ⟨⟨.feed .start _, ?_, .intro one (by rfl) (.emptyTag rfl rfl), ?_, ?_⟩, ?_, ?_, ?_, ?_⟩
  · decide +kernel
  · decide
  · decide
  · decide +kernel
  · exact ⟨_, _, rfl, .intro two rfl (.endTag rfl)⟩
  · decide
  · decide

end Streamer

end MarkupQuery
