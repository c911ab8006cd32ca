import MarkupQuery.Path

/-!
Paths that are joined and taken apart. Splitting and joining text undo each other, a segment is written as
it was read, and the segments of a path are the pieces of its text between full stops. Main statement: a
path after another has the segments of both, one after the other (`Path.Joined.segments`).
-/
namespace MarkupQuery

namespace Text

theorem split_eq_splitOn (separator : Char) (text : Text) :
    split separator text = text.splitOn separator := by
  induction text with
  | nil => rfl
  | cons c rest ih =>
    have step : (c :: rest).splitOn separator =
        if c == separator then [] :: rest.splitOn separator
        else (rest.splitOn separator).modifyHead (c :: ·) := by
      simp only [List.splitOn_eq_splitOnP]
      exact List.splitOnP_cons_eq_if_modifyHead c rest
    rw [split, ih, step]
    cases pieces : rest.splitOn separator with
    | nil => exact absurd pieces (List.splitOn_ne_nil separator rest)
    | cons first others => rfl

theorem join_eq_intercalate (separator : Char) (pieces : List Text) :
    join separator pieces = [separator].intercalate pieces := by
  induction pieces with
  | nil => rfl
  | cons piece others ih =>
    cases others with
    | nil => simp [join]
    | cons next rest =>
      rw [List.intercalate_cons_cons, ← ih, List.append_assoc]
      rfl

theorem split_ne_nil (separator : Char) (text : Text) : split separator text ≠ [] := by
  rw [split_eq_splitOn]
  exact List.splitOn_ne_nil separator text

/-- What was split is joined again. -/
theorem join_split (separator : Char) (text : Text) :
    join separator (split separator text) = text := by
  rw [split_eq_splitOn, join_eq_intercalate]
  exact List.intercalate_splitOn separator

theorem split_append (separator : Char) (first second : Text) :
    split separator (first ++ separator :: second) =
      split separator first ++ split separator second := by
  simp only [split_eq_splitOn, List.splitOn_eq_splitOnP]
  exact List.splitOnP_append_cons first second (by simp)

/-- No piece has a separator in it. -/
theorem not_mem_of_mem_split {separator : Char} {text piece : Text}
    (member : piece ∈ split separator text) : separator ∉ piece := by
  induction text generalizing piece with
  | nil => simp_all [split]
  | cons c rest ih =>
    rw [split] at member
    cases pieces : split separator rest with
    | nil => exact absurd pieces (split_ne_nil separator rest)
    | cons first others =>
      rw [pieces] at member ih
      dsimp only at member
      split at member
      · rcases List.mem_cons.mp member with rfl | further
        · simp
        · exact ih further
      · rename_i other
        rcases List.mem_cons.mp member with rfl | further
        · rw [List.mem_cons, not_or]
          exact ⟨fun same => other (beq_iff_eq.mpr same.symm), ih List.mem_cons_self⟩
        · exact ih (List.mem_cons_of_mem first further)

theorem split_eq_singleton_iff {separator : Char} {text : Text} :
    split separator text = [text] ↔ separator ∉ text := by
  constructor
  · intro single
    exact not_mem_of_mem_split (single ▸ List.mem_singleton_self text)
  · intro apart
    rw [split_eq_splitOn]
    exact List.splitOn_eq_singleton apart

/-- What was joined is split again, and so is each of the pieces. -/
theorem split_join (separator : Char) {pieces : List Text} (nonempty : pieces ≠ []) :
    split separator (join separator pieces) = pieces.flatMap (split separator) := by
  induction pieces with
  | nil => exact absurd rfl nonempty
  | cons piece others ih =>
    cases others with
    | nil => simp [join]
    | cons next rest =>
      rw [join, split_append, ih (by simp), ← List.flatMap_cons]
      simp

/-- Pieces are found again after they were joined exactly if none of them has a separator in it. -/
theorem flatMap_split_eq_self_iff {separator : Char} {pieces : List Text} :
    pieces.flatMap (split separator) = pieces ↔ ∀ piece ∈ pieces, separator ∉ piece := by
  constructor
  · intro same piece member
    rw [← same] at member
    obtain ⟨whole, _, inside⟩ := List.mem_flatMap.mp member
    exact not_mem_of_mem_split inside
  · intro apart
    induction pieces with
    | nil => rfl
    | cons piece others ih =>
      rw [List.flatMap_cons, split_eq_singleton_iff.mpr (apart piece (by simp)),
        ih fun other member => apart other (by simp [member])]
      rfl

theorem split_length_pos (separator : Char) (text : Text) : 0 < (split separator text).length :=
  List.length_pos_iff.mpr (split_ne_nil separator text)

theorem split_length_eq_one_iff {separator : Char} {text : Text} :
    (split separator text).length = 1 ↔ separator ∉ text := by
  rw [← split_eq_singleton_iff]
  constructor
  · intro one
    obtain ⟨piece, single⟩ := List.length_eq_one_iff.mp one
    have joined := join_split separator text
    rw [single, join] at joined
    rw [single, joined]
  · intro single
    rw [single]
    rfl

/-- Pieces that were joined are found again in the same number, or there are more of them. -/
theorem length_le_flatMap_split (separator : Char) (pieces : List Text) :
    pieces.length ≤ (pieces.flatMap (split separator)).length := by
  induction pieces with
  | nil => simp
  | cons piece others ih =>
    have some := split_length_pos separator piece
    rw [List.flatMap_cons, List.length_append, List.length_cons]
    omega

theorem length_flatMap_split_eq_iff {separator : Char} {pieces : List Text} :
    (pieces.flatMap (split separator)).length = pieces.length ↔
      ∀ piece ∈ pieces, separator ∉ piece := by
  induction pieces with
  | nil => simp
  | cons piece others ih =>
    have some := split_length_pos separator piece
    have more := length_le_flatMap_split separator others
    rw [List.forall_mem_cons, ← ih, ← split_length_eq_one_iff, List.flatMap_cons, List.length_append,
      List.length_cons]
    omega

end Text

namespace Segment

/-- A segment is written as it was read. -/
theorem render_parse (text : Text) : (parse text).render = text := by
  have joined := Text.join_split ':' text
  unfold parse
  split
  · rename_i qualifier localPart pieces
    rw [pieces] at joined
    exact joined
  · rfl

end Segment

namespace Path

/-- Arrows are written anew on both sides of a place that is not inside one. -/
theorem dotted_append (first : Text) {second : Text} (apart : second.head? ≠ some '>') :
    dotted (first ++ second) = dotted first ++ dotted second := by
  fun_induction dotted first with
  | case1 rest ih =>
    rw [List.cons_append, List.cons_append, dotted, ih]
    rfl
  | case2 c rest other ih =>
    rw [List.cons_append, dotted, ih]
    · rfl
    · rintro tail rfl arrow
      cases rest with
      | nil =>
        rw [List.nil_append] at arrow
        rw [arrow] at apart
        exact apart rfl
      | cons d others =>
        cases arrow
        exact other others rfl rfl
  | case3 => rfl

/-- A path after another, with a separator between them. -/
inductive Joined (first second : Text) : Text → Prop
  | dot : Joined first second (first ++ '.' :: second)
  | arrow : Joined first second (first ++ '-' :: '>' :: second)

variable {first second joined text : Text}

theorem Joined.dotted (join : Joined first second joined) :
    dotted joined = Path.dotted first ++ '.' :: Path.dotted second := by
  cases join with
  | dot =>
    rw [dotted_append first (by simp), Path.dotted]
    simp
  | arrow => rw [dotted_append first (by simp), Path.dotted]

theorem isSelf_eq_false_iff :
    (parse text).isSelf = false ↔ dotted text ≠ [] ∧ dotted text ≠ ['.'] := by
  unfold parse isSelf
  by_cases nothing : dotted text = []
  · simp [nothing]
  · by_cases stop : dotted text = ['.']
    · simp [stop]
    · simp [nothing, stop, Text.split_ne_nil]

/-- The segments of a path that leads somewhere are the pieces between its full stops. -/
theorem segments_eq (leads : (parse text).isSelf = false) :
    (parse text).segments = (Text.split '.' (dotted text)).map Segment.parse := by
  obtain ⟨something, more⟩ := isSelf_eq_false_iff.mp leads
  simp [parse, something, more]

/-- The segments of a path that leads somewhere are written as the pieces of its normal form are. -/
theorem render_segments (leads : (parse text).isSelf = false) :
    (parse text).segments.map Segment.render = Text.split '.' (parse text).normalized := by
  have pieces : (parse text).segments.map Segment.render = Text.split '.' (dotted text) := by
    rw [segments_eq leads, List.map_map]
    exact List.map_id'' Segment.render_parse _
  rw [normalized, pieces, Text.join_split]

/-- A path after another has the segments of both. -/
theorem Joined.segments (join : Joined first second joined) (one : (parse first).isSelf = false)
    (two : (parse second).isSelf = false) :
    (parse joined).segments = (parse first).segments ++ (parse second).segments := by
  have leads : (parse joined).isSelf = false := by
    rw [isSelf_eq_false_iff, join.dotted]
    have something := List.length_pos_iff.mpr (isSelf_eq_false_iff.mp one).1
    refine ⟨by simp, fun same => ?_⟩
    have length := congrArg List.length same
    simp only [List.length_append, List.length_cons, List.length_nil] at length
    omega
  rw [segments_eq leads, segments_eq one, segments_eq two, join.dotted, Text.split_append,
    List.map_append]

theorem parse_render_of_mem {s : Segment} (member : s ∈ (parse text).segments) :
    Segment.parse s.render = s := by
  cases self : (parse text).isSelf with
  | true =>
    rw [List.isEmpty_iff.mp self] at member
    simp at member
  | false =>
    rw [segments_eq self] at member
    obtain ⟨piece, _, rfl⟩ := List.mem_map.mp member
    rw [Segment.render_parse]

end Path

end MarkupQuery
