import MarkupQuery.Path.Cache
import MarkupQuery.Proofs.Distinct
import Mathlib.Data.List.Induction

/-!
What a cache of parsed paths holds after any requests. The texts asked for since it was last cleared,
each where it was asked for last, are its history; the cache holds the most recent of them, as many as it
has room for. Main statements: the entries are the first of those texts (`PathCache.texts_serve`), and an
entry is given again exactly if fewer other texts than the cache has room for were asked for in between
(`PathCache.get_serve_eq_iff`).
-/
namespace MarkupQuery

namespace PathCache

/-- What is asked of a cache. -/
inductive Request
  | get (text : Text)
  | clear
  deriving DecidableEq, Repr

/-- The cache after a request. -/
def after (c : PathCache) : Request → PathCache
  | .get text => (c.get text).2
  | .clear => c.clear

/-- The cache after requests, the earliest first. -/
def serve (c : PathCache) (history : List Request) : PathCache := history.foldl after c

/-- The texts that were asked for once a request is added. -/
def Request.note (texts : List Text) : Request → List Text
  | .get text => text :: texts
  | .clear => []

/-- The texts asked for since the cache was last cleared, the latest first. -/
def asked (history : List Request) : List Text := history.foldl Request.note []

/-- The texts of the entries, the most recent first. -/
def texts (c : PathCache) : List Text := c.entries.map (·.path.raw)

variable {c : PathCache} {text : Text} {entry : CachedPath} {request : Request}
  {history earlier between : List Request}

theorem serve_append (c : PathCache) (first second : List Request) :
    c.serve (first ++ second) = (c.serve first).serve second := List.foldl_append

theorem asked_concat (history : List Request) (request : Request) :
    asked (history ++ [request]) = request.note (asked history) := by
  simp [asked]

/-- What was asked for before is forgotten where the cache was cleared since. -/
theorem asked_append (first second : List Request) :
    asked (first ++ second) =
      if Request.clear ∈ second then asked second else asked second ++ asked first := by
  induction second using List.reverseRecOn with
  | nil => simp [asked]
  | append_singleton others last ih =>
    rw [← List.append_assoc, asked_concat, asked_concat, ih]
    cases last with
    | clear => simp [Request.note]
    | get text =>
      by_cases cleared : Request.clear ∈ others <;> simp [Request.note, cleared]

theorem get_mem_of_mem_asked (member : text ∈ asked history) : Request.get text ∈ history := by
  induction history using List.reverseRecOn with
  | nil => simp [asked] at member
  | append_singleton others last ih =>
    rw [asked_concat] at member
    cases last with
    | clear => simp [Request.note] at member
    | get other =>
      rcases List.mem_cons.mp member with rfl | before
      · simp
      · simp [ih before]

/-- The entry of a text comes first, and it is the only one of this text. What was there before is the
entry itself or is not of this text. -/
theorem entries_get (c : PathCache) (text : Text) :
    (c.get text).1.path.raw = text ∧
      ∃ others, (c.get text).2.entries = (c.get text).1 :: others ∧
        ∀ e ∈ others, e ∈ c.entries ∧ e.path.raw ≠ text := by
  unfold get
  cases found : c.entries.find? (·.path.raw == text) with
  | some entry =>
    refine ⟨by simpa using List.find?_some found, _, rfl, ?_⟩
    intro e member
    simpa using member
  | none =>
    refine ⟨?_, _, rfl, ?_⟩
    · simp only [Path.parse]
      split <;> rfl
    · intro e member
      have inside := List.mem_of_mem_take member
      exact ⟨inside, by simpa using List.find?_eq_none.mp found e inside⟩

theorem path_get (c : PathCache) (text : Text) : (c.get text).1.path = Path.parse text := by
  rw [(c.get text).1.parsed, (c.entries_get text).1]

theorem capacity_after (c : PathCache) (request : Request) : (c.after request).capacity = c.capacity := by
  cases request with
  | clear => rfl
  | get text =>
    unfold after get
    dsimp only
    split <;> rfl

@[simp] theorem capacity_serve (c : PathCache) (history : List Request) :
    (c.serve history).capacity = c.capacity := by
  induction history generalizing c with
  | nil => rfl
  | cons request others ih => exact (ih (c.after request)).trans (capacity_after c request)

/-- A text that is asked for takes itself away from its old place, or the last text from a full cache. -/
theorem texts_get {noted : List Text} (same : c.texts = noted.eraseDups.take c.capacity) (text : Text) :
    (c.get text).2.texts = (text :: noted).eraseDups.take c.capacity := by
  obtain ⟨room, roomy⟩ := Nat.exists_eq_add_one.mpr c.capacity_pos
  rw [roomy, eraseDups_cons_eq, List.take_succ_cons]
  rw [roomy] at same
  unfold get
  cases found : c.entries.find? (·.path.raw == text) with
  | some entry =>
    have named : entry.path.raw = text := by simpa using List.find?_some found
    have member : text ∈ noted.eraseDups.take (room + 1) := by
      rw [← same, ← named]
      exact List.mem_map_of_mem (List.mem_of_find?_eq_some found)
    have moved := filter_take_of_mem (nodup_eraseDups noted) member
    rw [← same, texts, List.filter_map] at moved
    rw [texts, List.map_cons, named]
    exact congrArg (text :: ·) moved
  | none =>
    have absent : text ∉ noted.eraseDups.take (room + 1) := by
      rw [← same]
      intro member
      obtain ⟨e, inside, named⟩ := List.mem_map.mp member
      exact List.find?_eq_none.mp found e inside (by simpa using named)
    have kept : (c.entries.take room).map (·.path.raw) = noted.eraseDups.take room := by
      rw [List.map_take]
      refine (congrArg (List.take room) same).trans ?_
      rw [List.take_take, Nat.min_eq_left (Nat.le_succ room)]
    have fresh : (noted.eraseDups.filter (· != text)).take room = noted.eraseDups.take room := by
      have all := congrArg (List.take room) (take_filter_of_not_mem absent)
      rwa [List.take_take, List.take_take, Nat.min_eq_left (Nat.le_succ room)] at all
    have entry := (c.entries_get text).1
    rw [get, found] at entry
    rw [fresh, ← kept, texts, List.map_cons, roomy]
    exact congrArg (· :: _) entry

/-- A cache starts empty. -/
theorem entries_of_ofCapacity? {capacity : Nat} (made : ofCapacity? capacity = some c) :
    c.entries = [] ∧ c.capacity = capacity := by
  unfold ofCapacity? at made
  split at made <;> cases made
  exact ⟨rfl, rfl⟩

/-- The cache holds the most recent of the texts that were asked for, as many as it has room for. -/
theorem texts_serve {capacity : Nat} (made : ofCapacity? capacity = some c) (history : List Request) :
    (c.serve history).texts = (asked history).eraseDups.take capacity := by
  obtain ⟨empty, room⟩ := entries_of_ofCapacity? made
  rw [← room]
  induction history using List.reverseRecOn with
  | nil => simp [serve, asked, texts, empty]
  | append_singleton others last ih =>
    rw [serve_append, asked_concat]
    cases last with
    | clear => simp [serve, after, clear, texts, Request.note]
    | get text =>
      have next := (c.serve others).texts_get (by rw [capacity_serve, ih]) text
      rwa [capacity_serve] at next

/-- Every entry was made before the next one will be. -/
def Dated (c : PathCache) : Prop := ∀ e ∈ c.entries, e.serial < c.nextSerial

theorem Dated.get (dated : c.Dated) (text : Text) :
    (c.get text).1.serial < (c.get text).2.nextSerial ∧ c.nextSerial ≤ (c.get text).2.nextSerial := by
  unfold PathCache.get
  cases found : c.entries.find? (·.path.raw == text) with
  | some entry => exact ⟨dated entry (List.mem_of_find?_eq_some found), Nat.le_refl _⟩
  | none => exact ⟨Nat.lt_succ_self _, Nat.le_succ _⟩

theorem Dated.after (dated : c.Dated) (request : Request) :
    (c.after request).Dated ∧ c.nextSerial ≤ (c.after request).nextSerial := by
  cases request with
  | clear => exact ⟨fun e member => by simp [PathCache.after, PathCache.clear] at member, Nat.le_refl _⟩
  | get text =>
    obtain ⟨first, later⟩ := dated.get text
    obtain ⟨_, others, entries, kept⟩ := c.entries_get text
    refine ⟨?_, later⟩
    intro e member
    rw [PathCache.after, entries] at member
    rcases List.mem_cons.mp member with rfl | inside
    · exact first
    · exact Nat.lt_of_lt_of_le (dated e (kept e inside).1) later

theorem Dated.serve (dated : c.Dated) (history : List Request) :
    (c.serve history).Dated ∧ c.nextSerial ≤ (c.serve history).nextSerial := by
  induction history generalizing c with
  | nil => exact ⟨dated, Nat.le_refl _⟩
  | cons request others ih =>
    obtain ⟨next, later⟩ := dated.after request
    obtain ⟨last, latest⟩ := ih next
    exact ⟨last, Nat.le_trans later latest⟩

/-- An entry that is still there was there before, unless its text was asked for. -/
theorem mem_entries_of_after (member : entry ∈ (c.after request).entries)
    (other : request ≠ .get entry.path.raw) : entry ∈ c.entries := by
  cases request with
  | clear => simp [after, clear] at member
  | get text =>
    obtain ⟨named, others, entries, kept⟩ := c.entries_get text
    rw [after, entries] at member
    rcases List.mem_cons.mp member with rfl | inside
    · exact absurd (congrArg Request.get named.symm) other
    · exact (kept entry inside).1

theorem mem_entries_of_serve (member : entry ∈ (c.serve between).entries)
    (unasked : Request.get entry.path.raw ∉ between) : entry ∈ c.entries := by
  induction between generalizing c with
  | nil => exact member
  | cons request others ih =>
    rw [List.mem_cons, not_or] at unasked
    exact mem_entries_of_after (ih member unasked.2) (Ne.symm unasked.1)

/-- An entry is given again exactly if its text was never dropped. -/
theorem get_serve_eq_iff_mem (dated : c.Dated) (unasked : Request.get text ∉ between) :
    (((c.get text).2.serve between).get text).1 = (c.get text).1 ↔
      text ∈ ((c.get text).2.serve between).texts := by
  obtain ⟨named, others, entries, kept⟩ := c.entries_get text
  constructor
  · intro same
    by_contra dropped
    -- Where the text was dropped it is parsed anew, and that entry is later than all before it.
    have first := (dated.get text).1
    have later := ((dated.after (.get text)).1.serve between).2
    have missed : ((c.get text).2.serve between).entries.find? (·.path.raw == text) = none := by
      rw [List.find?_eq_none]
      intro e member raw
      exact dropped (List.mem_map.mpr ⟨e, member, by simpa using raw⟩)
    have anew : (((c.get text).2.serve between).get text).1.serial =
        ((c.get text).2.serve between).nextSerial := by
      rw [PathCache.get, missed]
    rw [same] at anew
    exact absurd (Nat.lt_of_lt_of_le first later) (by rw [anew]; exact Nat.lt_irrefl _)
  · intro member
    obtain ⟨e, inside, raw⟩ := List.mem_map.mp member
    cases found : ((c.get text).2.serve between).entries.find? (·.path.raw == text) with
    | none => exact absurd (by simpa using raw) (List.find?_eq_none.mp found e inside)
    | some entry =>
      have raw : entry.path.raw = text := by simpa using List.find?_some found
      have before := mem_entries_of_serve (List.mem_of_find?_eq_some found) (by rwa [raw])
      rw [entries] at before
      have same : entry = (c.get text).1 :=
        (List.mem_cons.mp before).resolve_right fun inside => (kept entry inside).2 raw
      rw [PathCache.get, found]
      exact same

theorem mem_take_eraseDups_iff {texts : List Text} (absent : text ∉ texts) (rest : List Text)
    (n : Nat) :
    text ∈ (texts ++ text :: rest).eraseDups.take n ↔ texts.eraseDups.length < n := by
  have next : (text :: rest).removeAll texts = text :: rest.removeAll texts := by
    unfold List.removeAll
    rw [List.filter_cons_of_pos (by simpa using absent)]
  have unmoved : text ∉ texts.eraseDups := by rwa [List.mem_eraseDups]
  rw [List.eraseDups_append, next, List.eraseDups_cons, List.take_append, List.mem_append]
  constructor
  · rintro (inside | later)
    · exact absurd (List.mem_of_mem_take inside) unmoved
    · by_contra full
      rw [Nat.sub_eq_zero_of_le (Nat.le_of_not_lt full)] at later
      simp at later
  · intro room
    right
    obtain ⟨m, more⟩ := Nat.exists_eq_add_one.mpr (Nat.sub_pos_of_lt room)
    rw [more, List.take_succ_cons]
    exact List.mem_cons_self

/-- An entry is given again exactly if the cache was not cleared since and fewer other texts than it has
room for were asked for. -/
theorem get_serve_eq_iff {capacity : Nat} (made : ofCapacity? capacity = some c)
    (unasked : Request.get text ∉ between) :
    ((c.serve (earlier ++ .get text :: between)).get text).1 = ((c.serve earlier).get text).1 ↔
      Request.clear ∉ between ∧ (asked between).eraseDups.length < capacity := by
  have dated : c.Dated := by
    intro e member
    rw [(entries_of_ofCapacity? made).1] at member
    cases member
  have absent : text ∉ asked between := fun member => unasked (get_mem_of_mem_asked member)
  have split : c.serve (earlier ++ .get text :: between) =
      ((c.serve earlier).get text).2.serve between := serve_append c earlier _
  have held := texts_serve made (earlier ++ .get text :: between)
  have history : asked (earlier ++ .get text :: between) =
      if Request.clear ∈ between then asked between
      else asked between ++ text :: asked earlier := by
    rw [List.append_cons, asked_append, asked_concat]
    rfl
  rw [split] at held ⊢
  rw [get_serve_eq_iff_mem (dated.serve earlier).1 unasked, held, history]
  by_cases cleared : Request.clear ∈ between
  · rw [if_pos cleared]
    constructor
    · intro member
      exact absurd (List.mem_eraseDups.mp (List.mem_of_mem_take member)) absent
    · exact fun both => absurd cleared both.1
  · rw [if_neg cleared, mem_take_eraseDups_iff absent]
    exact (and_iff_right cleared).symm

theorem size_serve {capacity : Nat} (made : ofCapacity? capacity = some c) (history : List Request) :
    (c.serve history).size = min capacity (asked history).eraseDups.length := by
  have length := congrArg List.length (texts_serve made history)
  rwa [texts, List.length_map, List.length_take] at length

end PathCache

end MarkupQuery
