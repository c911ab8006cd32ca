import MarkupQuery.Proofs.Path.Joining
import MarkupQuery.Stream.Dispatcher
import Mathlib.Data.List.Infix

/-!
The normal form of a path. Writing arrows as full stops takes the text apart at its arrows and joins the
pieces again, and makes no new arrow; so the normal form of a path is a path with the same segments, and
paths with the same segments have one normal form. Main statement: what is normalized can be read and
normalized again without a change (`Path.normalized_stable`).
-/
namespace MarkupQuery

namespace Text

variable {separator : Char}

theorem length_split (separator : Char) (text : Text) :
    (split separator text).length = text.count separator + 1 := by
  induction text with
  | nil => rfl
  | cons c rest ih =>
    rw [split]
    cases pieces : split separator rest with
    | nil => exact absurd pieces (split_ne_nil separator rest)
    | cons piece others =>
      rw [pieces] at ih
      by_cases same : c = separator
      · simpa [same] using ih
      · simpa [same] using ih

end Text

namespace Segment

/-- A segment asks for a namespace exactly if it is written with one colon. -/
theorem exists_qualified_iff (text : Text) :
    (∃ qualifier localPart, parse text = qualified qualifier localPart) ↔ text.count ':' = 1 := by
  have pieces := Text.length_split ':' text
  unfold parse
  split
  · rename_i qualifier localPart two
    rw [two] at pieces
    simp only [List.length_cons, List.length_nil] at pieces
    exact ⟨fun _ => by omega, fun _ => ⟨qualifier, localPart, rfl⟩⟩
  · rename_i other
    refine ⟨nofun, fun one => ?_⟩
    rw [one, List.length_eq_two] at pieces
    obtain ⟨qualifier, localPart, two⟩ := pieces
    exact absurd two (other qualifier localPart)

end Segment

namespace Path

/-- `->` -/
def arrow : Text := ['-', '>']

/-- Arrows are written as full stops: between the pieces without arrows that the text is made of, each arrow
gives way to a full stop. -/
structure Dots (text : Text) (pieces : List Text) : Prop where
  nonempty : pieces ≠ []
  apart : ∀ piece ∈ pieces, ¬ arrow <:+: piece
  written : arrow.intercalate pieces = text
  dotted : Text.join '.' pieces = dotted text

theorem Dots.head? {text first : Text} {others : List Text} (dots : Dots text (first :: others))
    (angle : first.head? = some '>') : text.head? = some '>' := by
  rw [← dots.written]
  cases others <;> simp_all

theorem exists_dots (text : Text) : ∃ pieces, Dots text pieces := by
  fun_induction dotted text with
  | case1 rest ih =>
    obtain ⟨pieces, dots⟩ := ih
    obtain ⟨first, others, rfl⟩ := List.exists_cons_of_ne_nil dots.nonempty
    refine ⟨[] :: first :: others, by simp, ?_, ?_, ?_⟩
    · intro piece member
      rcases List.mem_cons.mp member with rfl | later
      · simp [arrow]
      · exact dots.apart piece later
    · rw [List.intercalate_cons_cons, dots.written]
      rfl
    · rw [dotted, ← dots.dotted]
      rfl
  | case2 c rest other ih =>
    obtain ⟨pieces, dots⟩ := ih
    obtain ⟨first, others, rfl⟩ := List.exists_cons_of_ne_nil dots.nonempty
    refine ⟨(c :: first) :: others, by simp, ?_, ?_, ?_⟩
    · intro piece member
      rcases List.mem_cons.mp member with rfl | later
      · rw [List.infix_cons_iff, not_or]
        refine ⟨fun starts => ?_, dots.apart first (by simp)⟩
        obtain ⟨tail, same⟩ := starts
        cases same
        obtain ⟨after, rfl⟩ := List.head?_eq_some_iff.mp (dots.head? rfl)
        exact other after rfl rfl
      · exact dots.apart piece (by simp [later])
    · rw [← dots.written]
      cases others <;> simp [List.intercalate_cons_cons]
    · rw [dotted, ← dots.dotted]
      · cases others <;> rfl
      · exact other
  | case3 => exact ⟨[[]], by simp, by simp [arrow], rfl, rfl⟩

theorem dotted_of_not_infix {text : Text} (plain : ¬ arrow <:+: text) : dotted text = text := by
  fun_induction dotted text with
  | case1 rest => exact absurd (List.prefix_append arrow rest).isInfix plain
  | case2 c rest other ih =>
    rw [ih fun inside => plain (inside.trans (List.suffix_cons c rest).isInfix)]
  | case3 => rfl

theorem head?_of_dotted {text : Text} (angle : (dotted text).head? = some '>') :
    text.head? = some '>' := by
  fun_cases dotted text with
  | case1 rest => simp [dotted] at angle
  | case2 c rest other =>
    rw [dotted] at angle
    · exact angle
    · exact other
  | case3 => exact angle

/-- Writing arrows as full stops makes no new ones. -/
theorem not_infix_dotted (text : Text) : ¬ arrow <:+: dotted text := by
  fun_induction dotted text with
  | case1 rest ih =>
    rw [List.infix_cons_iff, not_or]
    exact ⟨fun starts => by simp [arrow] at starts, ih⟩
  | case2 c rest other ih =>
    rw [List.infix_cons_iff, not_or]
    refine ⟨fun starts => ?_, ih⟩
    obtain ⟨tail, same⟩ := starts
    obtain ⟨rfl, angle⟩ := List.cons.inj same
    obtain ⟨after, rfl⟩ := List.head?_eq_some_iff.mp (head?_of_dotted (by rw [← angle]; rfl))
    exact other after rfl rfl
  | case3 => simp [arrow]

theorem dotted_dotted (text : Text) : dotted (dotted text) = dotted text :=
  dotted_of_not_infix (not_infix_dotted text)

theorem normalized_eq (text : Text) :
    (parse text).normalized = if dotted text = ['.'] then [] else dotted text := by
  cases self : (parse text).isSelf with
  | false =>
    rw [if_neg (isSelf_eq_false_iff.mp self).2, normalized, segments_eq self, List.map_map]
    rw [show List.map (Segment.render ∘ Segment.parse) (Text.split '.' (dotted text)) =
      Text.split '.' (dotted text) from List.map_id'' Segment.render_parse _, Text.join_split]
  | true =>
    have none : (parse text).normalized = [] := by
      rw [normalized, List.isEmpty_iff.mp self]
      rfl
    rw [none]
    split
    · rfl
    · rename_i stop
      by_contra something
      have leads := isSelf_eq_false_iff.mpr ⟨fun same => something same.symm, stop⟩
      rw [self] at leads
      cases leads

/-- The segments of a path rest on its arrows being written as full stops. -/
theorem segments_congr {first second : Text} (same : dotted first = dotted second) :
    (parse first).segments = (parse second).segments := by
  simp only [parse, same]
  split <;> rfl

theorem segments_normalized (text : Text) :
    (parse (parse text).normalized).segments = (parse text).segments := by
  rw [normalized_eq]
  split
  · rename_i stop
    simp [parse, stop, dotted]
  · exact segments_congr (dotted_dotted text)

theorem segments_eq_iff {first second : Text} :
    (parse first).segments = (parse second).segments ↔
      (parse first).normalized = (parse second).normalized := by
  constructor
  · intro same
    rw [normalized, normalized, same]
  · intro same
    rw [← segments_normalized first, same, segments_normalized]

/-- The normal form of a path has no arrows. It is the path with every arrow written as a full stop, and
empty where that is a single full stop. Read again it has the same segments and the same normal form, so a
stream looks for the path that its dispatcher was given. Paths with one normal form are those with the same
segments, and a segment asks for a namespace exactly if it is written with one colon. -/
theorem normalized_stable (text : Text) :
    ¬ arrow <:+: (parse text).normalized ∧
      (∃ pieces, Dots text pieces) ∧
      (parse text).normalized = (if dotted text = ['.'] then [] else dotted text) ∧
      (parse (parse text).normalized).segments = (parse text).segments ∧
      (parse (parse text).normalized).normalized = (parse text).normalized ∧
      (∀ settings source, (Streamer.ofPath (Dispatcher.ofPath text settings).target source).target =
        (Dispatcher.ofPath text settings).target) ∧
      (∀ other, (parse text).segments = (parse other).segments ↔
        (parse text).normalized = (parse other).normalized) ∧
      ((∃ qualifier localPart, Segment.parse text = .qualified qualifier localPart) ↔
        text.count ':' = 1) ∧
      (Segment.parse text).render = text := by
  have again : (parse (parse text).normalized).normalized = (parse text).normalized :=
    segments_eq_iff.mp (segments_normalized text)
  refine ⟨?_, exists_dots text, normalized_eq text, segments_normalized text, again, fun _ _ => again,
    fun _ => segments_eq_iff, Segment.exists_qualified_iff text, Segment.render_parse text⟩
  rw [normalized_eq]
  split
  · simp [arrow]
  · exact not_infix_dotted text

end Path

end MarkupQuery
