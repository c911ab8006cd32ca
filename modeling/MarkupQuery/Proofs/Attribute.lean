import MarkupQuery.Attribute
import MarkupQuery.Proofs.Name
import MarkupQuery.Proofs.Reference

/-!
Attribute sections as a grammar. `Writes` and `Section` say how attributes are written, apart from how
they are read. Main statements: a section is read exactly where it is one, as the attributes that it
writes (`Attribute.parse_eq_ok_iff`), and no name is repeated exactly where the names are distinct
(`Attribute.duplicate?_eq_none_iff`).
-/
namespace MarkupQuery.Attribute

/-- How an attribute may be written: a name, an equals sign with blanks around it, and a value between
two equal quotation marks that holds neither this mark nor `<`. -/
inductive Writes (a : Attribute) : Text → Prop
  | intro {before after raw : Text} {quote : Char} (named : Name.IsName a.name)
      (left : before.all Text.isBlank = true) (right : after.all Text.isBlank = true)
      (mark : quote = '"' ∨ quote = '\'') (plain : ∀ c ∈ raw, c ≠ quote ∧ c ≠ '<')
      (value : Reference.decode raw = a.value) :
      Writes a (a.name ++ (before ++ '=' :: (after ++ quote :: (raw ++ [quote]))))

/-- How the attributes of a tag may be written: one after another, blanks between them. -/
inductive Section : Text → List Attribute → Prop
  | blank {text : Text} (blanks : text.all Text.isBlank = true) : Section text []
  | cons {before written rest : Text} {a : Attribute} {others : List Attribute}
      (blanks : before.all Text.isBlank = true) (first : Writes a written)
      (apart : rest.head?.all Text.isBlank = true) (after : Section rest others) :
      Section (before ++ (written ++ rest)) (a :: others)

/-- The names of attributes are names. -/
theorem Section.named {text : Text} {attributes : List Attribute} (h : Section text attributes) :
    ∀ a ∈ attributes, Name.IsName a.name := by
  induction h with
  | blank => simp
  | cons _ first _ _ ih =>
    obtain ⟨named, _⟩ := first
    simpa [named] using ih

theorem Writes.isPrefix_name {a : Attribute} {written : Text} (h : Writes a written) :
    a.name <+: written := by
  obtain ⟨_⟩ := h
  exact List.prefix_append _ _

/-- Every name of an attribute stands in the section as it is. -/
theorem Section.isInfix_of_mem {text : Text} {attributes : List Attribute} (h : Section text attributes) :
    ∀ a ∈ attributes, a.name <:+: text := by
  induction h with
  | blank => simp
  | @cons before written rest a others _ first _ _ ih =>
    intro b member
    rcases List.mem_cons.mp member with rfl | later
    · have head := first.isPrefix_name.trans (List.prefix_append written rest)
      exact head.isInfix.trans (List.suffix_append before _).isInfix
    · exact (ih b later).trans (((List.suffix_append ..).trans (List.suffix_append ..)).isInfix)

theorem readValue_append {quote : Char} {value : Text} (plain : ∀ c ∈ value, c ≠ quote ∧ c ≠ '<')
    (after : Text) : readValue quote (value ++ quote :: after) = .ok (value, after) := by
  induction value with
  | nil => simp [readValue]
  | cons c rest ih =>
    obtain ⟨unmarked, unbracketed⟩ := plain c (by simp)
    have later := ih fun d member => plain d (by simp [member])
    rw [List.cons_append, readValue, if_neg (by simpa using unmarked),
      if_neg (by simpa using unbracketed), later]

theorem readValue_eq_ok_iff {quote : Char} {text value after : Text} :
    readValue quote text = .ok (value, after) ↔
      text = value ++ quote :: after ∧ ∀ c ∈ value, c ≠ quote ∧ c ≠ '<' := by
  constructor
  · intro h
    fun_induction readValue quote text generalizing value with
    | case1 => cases h
    | case2 c rest mark =>
      cases h
      rw [beq_iff_eq.mp mark]
      simp
    | case3 => cases h
    | case4 => cases h
    | case5 c rest mark angle inner tail found ih =>
      cases h
      obtain ⟨rfl, plain⟩ := ih found
      refine ⟨rfl, ?_⟩
      intro d member
      rcases List.mem_cons.mp member with rfl | inside
      · exact ⟨by simpa using mark, by simpa using angle⟩
      · exact plain d inside
  · rintro ⟨rfl, plain⟩
    exact readValue_append plain after

theorem skipBlanks_append {before : Text} (blanks : before.all Text.isBlank = true) (rest : Text) :
    skipBlanks (before ++ rest) = skipBlanks rest :=
  List.dropWhile_append_of_pos (by simpa using blanks)

theorem skipBlanks_of_head? {rest : Text} (solid : rest.head?.any Text.isBlank = false) :
    skipBlanks rest = rest := by
  cases rest with
  | nil => rfl
  | cons c rest => exact List.dropWhile_cons_of_neg (by simpa using solid)

/-- Text is the blanks at its head and what is left when they are skipped. -/
theorem exists_blanks (text : Text) :
    ∃ before, before.all Text.isBlank = true ∧ text = before ++ skipBlanks text := by
  refine ⟨text.takeWhile Text.isBlank, ?_, (List.takeWhile_append_dropWhile).symm⟩
  rw [List.all_eq_true]
  intro c member
  exact List.mem_takeWhile_imp member

theorem not_isPart_of_isBlank {c : Char} (blank : Text.isBlank c = true) : Name.isPart c = false := by
  simp only [Text.isBlank, Bool.or_eq_true, beq_iff_eq] at blank
  rcases blank with ((rfl | rfl) | rfl) | rfl <;> decide

/-- A name ends where blanks and an equals sign come. -/
theorem span_name {name before : Text} (named : Name.IsName name)
    (blanks : before.all Text.isBlank = true) (rest : Text) :
    (name ++ (before ++ '=' :: rest)).takeWhile Name.isPart = name ∧
      (name ++ (before ++ '=' :: rest)).dropWhile Name.isPart = before ++ '=' :: rest := by
  have parts := ((Name.isName_iff name).mp named).2
  have ends : ∃ c others, before ++ '=' :: rest = c :: others ∧ ¬ Name.isPart c = true := by
    cases before with
    | nil => exact ⟨'=', rest, rfl, by decide⟩
    | cons c before =>
      have blank : Text.isBlank c = true := List.all_eq_true.mp blanks c (by simp)
      exact ⟨c, _, rfl, by simp [not_isPart_of_isBlank blank]⟩
  obtain ⟨c, others, shape, outside⟩ := ends
  rw [shape]
  constructor
  · rw [List.takeWhile_append_of_pos parts, List.takeWhile_cons_of_neg outside, List.append_nil]
  · rw [List.dropWhile_append_of_pos parts, List.dropWhile_cons_of_neg outside]

theorem readOne_append {a : Attribute} {written after : Text} (h : Writes a written)
    (apart : after.head?.all Text.isBlank = true) : readOne (written ++ after) = .ok (a, after) := by
  obtain @⟨before, inner, raw, quote, named, left, right, mark, plain, value⟩ := h
  have text : a.name ++ (before ++ '=' :: (inner ++ quote :: (raw ++ [quote]))) ++ after =
      a.name ++ (before ++ '=' :: (inner ++ quote :: (raw ++ quote :: after))) := by
    simp
  have start : (a.name ++ (before ++ '=' :: (inner ++ quote :: (raw ++ quote :: after)))).head?.all
      Name.isStart = true := by
    have first := ((Name.isName_iff a.name).mp named).1
    cases name : a.name with
    | nil => simp [name] at first
    | cons c rest => simpa [name] using first
  have marked : (quote == '"' || quote == '\'') = true := by simpa using mark
  have solid : Text.isBlank quote = false := by rcases mark with rfl | rfl <;> decide
  have joined : ¬ after.head?.any (! Text.isBlank ·) = true := by
    cases after with
    | nil => simp
    | cons c rest => simpa using apart
  obtain ⟨name, sign⟩ := span_name named left (inner ++ quote :: (raw ++ quote :: after))
  have signed : skipBlanks (before ++ '=' :: (inner ++ quote :: (raw ++ quote :: after))) =
      '=' :: (inner ++ quote :: (raw ++ quote :: after)) := by
    rw [skipBlanks_append left, skipBlanks_of_head? (by rfl)]
  have quoted : skipBlanks (inner ++ quote :: (raw ++ quote :: after)) =
      quote :: (raw ++ quote :: after) := by
    rw [skipBlanks_append right, skipBlanks_of_head? (by simpa using solid)]
  rw [text, readOne, if_pos start, name, sign, signed]
  split
  · rename_i rest same
    cases same
    rw [quoted]
    dsimp only
    rw [if_pos marked, readValue_append plain]
    dsimp only
    rw [if_neg joined, value]
  · rename_i absent
    exact absurd rfl (absent _)

theorem isName_takeWhile {text : Text} (start : text.head?.all Name.isStart = true)
    (nonempty : text ≠ []) : Name.IsName (text.takeWhile Name.isPart) := by
  rw [Name.isName_iff]
  refine ⟨?_, fun c member => List.mem_takeWhile_imp member⟩
  cases text with
  | nil => exact absurd rfl nonempty
  | cons c rest =>
    have first : Name.isStart c = true := by simpa using start
    have part : Name.isPart c = true := by simp [Name.isPart, first]
    rw [List.takeWhile_cons_of_pos part]
    simpa using first

/-- An attribute is read exactly where it is written, with a blank or the end after it. -/
theorem readOne_eq_ok_iff {text after : Text} {a : Attribute} :
    readOne text = .ok (a, after) ↔
      ∃ written, Writes a written ∧ text = written ++ after ∧
        after.head?.all Text.isBlank = true := by
  constructor
  · intro h
    unfold readOne at h
    split at h
    · rename_i start
      split at h
      · rename_i rest sign
        split at h
        · cases h
        · rename_i quote inside found
          split at h
          · rename_i mark
            split at h
            · cases h
            · rename_i raw tail read
              split at h
              · cases h
              · rename_i apart
                cases h
                obtain ⟨rfl, plain⟩ := readValue_eq_ok_iff.mp read
                -- The blanks that were skipped are part of what is written.
                obtain ⟨before, left, gap⟩ := exists_blanks (text.dropWhile Name.isPart)
                obtain ⟨between, right, room⟩ := exists_blanks rest
                rw [sign] at gap
                rw [found] at room
                subst room
                have split := List.takeWhile_append_dropWhile (p := Name.isPart) (l := text)
                have named := isName_takeWhile start (by rintro rfl; simp at gap)
                generalize text.takeWhile Name.isPart = name at split named ⊢
                rw [gap] at split
                subst split
                refine ⟨_, .intro named left right (by simpa using mark) plain rfl, by simp, ?_⟩
                cases after with
                | nil => rfl
                | cons c rest => simpa using apart
          · cases h
      · cases h
    · cases h
  · rintro ⟨written, writes, rfl, apart⟩
    exact readOne_append writes apart

theorem skipBlanks_eq_nil_iff {text : Text} :
    (skipBlanks text).isEmpty = true ↔ text.all Text.isBlank = true := by
  rw [List.isEmpty_iff, skipBlanks, List.dropWhile_eq_nil_iff, List.all_eq_true]

/-- What writes an attribute starts with its name. -/
theorem Writes.head? {a : Attribute} {written : Text} (h : Writes a written) (rest : Text) :
    (written ++ rest).head?.any Text.isBlank = false := by
  obtain @⟨before, inner, raw, quote, named, _⟩ := h
  have first := ((Name.isName_iff a.name).mp named).1
  cases name : a.name with
  | nil => simp [name] at first
  | cons c others =>
    rw [name] at first
    by_contra blank
    have outside := not_isPart_of_isBlank (c := c) (by simpa using blank)
    have part : Name.isPart c = true := by
      have start : Name.isStart c = true := by simpa using first
      simp [Name.isPart, start]
    rw [outside] at part
    cases part

/-- A section is read exactly where it is one, as the attributes that it writes. -/
theorem parse_eq_ok_iff {text : Text} {attributes : List Attribute} :
    parse text = .ok attributes ↔ Section text attributes := by
  constructor
  · intro h
    fun_induction parse text generalizing attributes with
    | case1 text none =>
      cases h
      exact .blank (skipBlanks_eq_nil_iff.mp none)
    | case2 => cases h
    | case3 => cases h
    | case4 text some a after read others found ih =>
      cases h
      obtain ⟨written, writes, same, apart⟩ := readOne_eq_ok_iff.mp read
      obtain ⟨before, blanks, split⟩ := exists_blanks text
      rw [split, same]
      exact .cons blanks writes apart (ih found)
  · intro h
    induction h with
    | blank blanks => rw [parse, if_pos (skipBlanks_eq_nil_iff.mpr blanks)]
    | @cons before written rest a others blanks first apart _ ih =>
      have skipped : skipBlanks (before ++ (written ++ rest)) = written ++ rest := by
        rw [skipBlanks_append blanks, skipBlanks_of_head? (first.head? rest)]
      have read := readOne_append first apart
      have some : ¬ (written ++ rest).isEmpty = true := by
        intro none
        rw [List.isEmpty_iff.mp none] at read
        cases read
      rw [parse, skipped, if_neg some]
      split
      · rename_i failed
        rw [read] at failed
        cases failed
      · rename_i found
        rw [read] at found
        cases found
        rw [ih]

/-- No name is repeated exactly where the names are distinct. -/
theorem duplicate?_eq_none_iff {attributes : List Attribute} :
    duplicate? attributes = none ↔ (attributes.map (·.name)).Nodup := by
  induction attributes with
  | nil => simp [duplicate?]
  | cons a others ih =>
    rw [List.map_cons, List.nodup_cons, ← ih, duplicate?]
    have repeated : others.any (·.name == a.name) = true ↔ a.name ∈ others.map (·.name) := by
      rw [List.any_eq_true, List.mem_map]
      simp only [beq_iff_eq]
    split
    · rename_i later
      simp [repeated.mp later]
    · rename_i fresh
      rw [repeated] at fresh
      simp [fresh]

end MarkupQuery.Attribute
