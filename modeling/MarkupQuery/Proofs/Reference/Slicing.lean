import MarkupQuery.Proofs.Reference.Grammar
import MarkupQuery.Proofs.Utf8.Slicing

/-!
References by byte offsets. The ampersand and the semicolon of a reference are found among the bytes of the
text, and the text is cut at the offsets that were found; where such an offset lies inside a character there
is no answer. Main statements: there always is one, that of the walk over the characters
(`Reference.expandAt?_eq`, `Reference.decodeAt?_eq`).
-/
namespace MarkupQuery.Reference

open Utf8 (encode size splitAt? slice?)

/-- The character that is named by a reference at the head of the text, its ampersand included, with the
offset of its semicolon. -/
def namedAt? (text : Text) : Option (Option (Char × Nat)) :=
  match (encode text).idxOf? 0x3b with
  | none => some none
  | some semicolon => (slice? text 1 semicolon).map fun body => (character? body).map (·, semicolon)

/-- What is written for the text up to the ampersand and for the reference there, and the text after it. An
ampersand that starts no reference is written as it is. -/
def turnAt? (text : Text) (ampersand : Nat) : Option (Text × Text) :=
  (splitAt? ampersand text).bind fun (before, rest) =>
    (namedAt? rest).bind fun
      | none => (splitAt? 1 rest).map fun (_, after) => (before ++ ['&'], after)
      | some (c, semicolon) =>
        (splitAt? (semicolon + 1) rest).map fun (_, after) => (before ++ [c], after)

theorem length_lt_of_splitAt? {n : Nat} {text before after : Text}
    (split : splitAt? (n + 1) text = some (before, after)) : after.length < text.length := by
  obtain ⟨rfl, length⟩ := Utf8.splitAt?_eq_some_iff.mp split
  have nonempty : before ≠ [] := by
    rintro rfl
    cases length
  have := List.length_pos_iff.mpr nonempty
  rw [List.length_append]
  omega

theorem turnAt?_length_lt {text written after : Text} {ampersand : Nat}
    (turned : turnAt? text ampersand = some (written, after)) : after.length < text.length := by
  obtain ⟨⟨before, rest⟩, split, turned⟩ := Option.bind_eq_some_iff.mp turned
  obtain ⟨named, _, turned⟩ := Option.bind_eq_some_iff.mp turned
  have shorter : after.length < rest.length := by
    rcases named with _ | ⟨c, semicolon⟩
    all_goals
      obtain ⟨⟨_, _⟩, later, same⟩ := Option.map_eq_some_iff.mp turned
      cases same
      exact length_lt_of_splitAt? later
  obtain ⟨rfl, _⟩ := Utf8.splitAt?_eq_some_iff.mp split
  rw [List.length_append]
  omega

/-- Replaces every reference, from one ampersand to the next. -/
def expandAt? (text : Text) : Option Text :=
  match (encode text).idxOf? 0x26 with
  | none => some text
  | some ampersand =>
    match _h : turnAt? text ampersand with
    | none => none
    | some (written, after) => (expandAt? after).map (written ++ ·)
termination_by text.length
decreasing_by exact turnAt?_length_lt _h

/-- The text with its references replaced. Text without an ampersand is given as it is. -/
def decodeAt? (text : Text) : Option Text :=
  if (encode text).contains 0x26 then expandAt? text else some text

/-- A reference found by its offsets is the one that is read character by character, up to its semicolon. -/
theorem namedAt?_eq (rest : Text) :
    (read? rest = none ∧ namedAt? ('&' :: rest) = some none) ∨
      ∃ body c after, rest = body ++ ';' :: after ∧ read? rest = some (c, after) ∧
        namedAt? ('&' :: rest) = some (some (c, size ('&' :: body))) := by
  have semicolon : (';' : Char).toNat < 0x80 := by decide
  by_cases member : ';' ∈ rest
  · obtain ⟨body, after, rfl, apart⟩ := List.eq_append_cons_of_mem member
    have absent : ';' ∉ '&' :: body := by simpa using apart
    have found := Utf8.idxOf?_encode_append semicolon absent after
    have sliced : slice? ('&' :: (body ++ ';' :: after)) 1 (size ('&' :: body)) = some body :=
      Utf8.slice?_append ['&'] body (';' :: after)
    have named : namedAt? ('&' :: (body ++ ';' :: after)) =
        some ((character? body).map (·, size ('&' :: body))) := by
      unfold namedAt?
      rw [show (encode ('&' :: (body ++ ';' :: after))).idxOf? 0x3b = some (size ('&' :: body)) from found]
      dsimp only
      rw [sliced]
      rfl
    have read : read? (body ++ ';' :: after) = (character? body).map (·, after) := by
      rw [read?, body?_eq_some_iff.mpr ⟨rfl, apart⟩]
    rw [named, read]
    cases character? body with
    | none => exact .inl ⟨rfl, rfl⟩
    | some c => exact .inr ⟨body, c, after, rfl, rfl, rfl⟩
  · have absent : ';' ∉ '&' :: rest := by simpa using member
    refine .inl ⟨?_, ?_⟩
    · cases split : body? rest with
      | none => rw [read?, split]
      | some pair =>
        obtain ⟨rfl, _⟩ := body?_eq_some_iff.mp split
        simp at member
    · unfold namedAt?
      rw [show (encode ('&' :: rest)).idxOf? 0x3b = none from Utf8.idxOf?_encode_eq_none semicolon absent]

/-- One turn replaces what the walk over the characters replaces. -/
theorem turnAt?_eq (before rest : Text) :
    ∃ c after, turnAt? (before ++ '&' :: rest) (size before) = some (before ++ [c], after) ∧
      expand ('&' :: rest) = c :: expand after := by
  unfold turnAt?
  rw [Utf8.splitAt?_append, Option.bind_some]
  dsimp only
  rcases namedAt?_eq rest with ⟨unread, named⟩ | ⟨body, c, after, rfl, read, named⟩
  · have past : splitAt? 1 ('&' :: rest) = some (['&'], rest) := Utf8.splitAt?_append ['&'] rest
    rw [named, Option.bind_some]
    dsimp only
    rw [past]
    exact ⟨'&', rest, rfl, expand_of_read?_eq_none unread⟩
  · have past : splitAt? (size ('&' :: body) + 1) ('&' :: (body ++ ';' :: after)) =
        some ('&' :: body ++ [';'], after) :=
      Utf8.splitAt?_eq_some_iff.mpr ⟨by simp, Utf8.size_append ('&' :: body) [';']⟩
    rw [named, Option.bind_some]
    dsimp only
    rw [past]
    exact ⟨c, after, rfl, expand_reference read⟩

/-- Whatever the text, it is cut between its characters only, and its references are replaced. -/
theorem expandAt?_eq (text : Text) : expandAt? text = some (expand text) := by
  have ampersand : ('&' : Char).toNat < 0x80 := by decide
  by_cases member : '&' ∈ text
  · obtain ⟨before, rest, rfl, absent⟩ := List.eq_append_cons_of_mem member
    obtain ⟨c, after, turned, expanded⟩ := turnAt?_eq before rest
    have shorter := turnAt?_length_lt turned
    unfold expandAt?
    rw [show (encode (before ++ '&' :: rest)).idxOf? 0x26 = some (size before) from
      Utf8.idxOf?_encode_append ampersand absent rest]
    dsimp only
    split
    · rename_i failed
      rw [turned] at failed
      cases failed
    · rename_i written tail found
      rw [turned] at found
      cases found
      rw [expandAt?_eq after, expand_append_of_not_mem absent, expanded]
      simp
  · unfold expandAt?
    rw [show (encode text).idxOf? 0x26 = none from Utf8.idxOf?_encode_eq_none ampersand member,
      expand_of_not_mem member]
termination_by text.length

theorem decodeAt?_eq (text : Text) : decodeAt? text = some (decode text) := by
  have ampersand : ('&' : Char).toNat < 0x80 := by decide
  have same : (encode text).contains 0x26 = text.contains '&' := by
    rw [Bool.eq_iff_iff, List.contains_iff_mem, List.contains_iff_mem]
    exact Utf8.mem_encode_iff ampersand
  unfold decodeAt? decode
  rw [same]
  split
  · exact expandAt?_eq text
  · rfl

end MarkupQuery.Reference
