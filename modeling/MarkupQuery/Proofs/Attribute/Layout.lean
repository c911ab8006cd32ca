import MarkupQuery.Proofs.Attribute

/-!
Attribute sections laid out flat. A layout is a list of attributes as they are written, each with the blanks
before it, and the blanks at the end; only the first attribute may stand without a blank before it. Main
statement: the texts that are read as attributes are those of the layouts, and they are read as the
attributes that are laid out, so attributes can be written in any layout and read back
(`Attribute.parse_layout`).
-/
namespace MarkupQuery.Attribute

/-- An attribute as it is written: `before` and `after` are the blanks around the equals sign, and `raw` is
the value before references are read. -/
structure Spelling where
  name : Text
  before : Text
  after : Text
  quote : Char
  raw : Text

namespace Spelling

def text (s : Spelling) : Text :=
  s.name ++ (s.before ++ '=' :: (s.after ++ s.quote :: (s.raw ++ [s.quote])))

def toAttribute (s : Spelling) : Attribute := ⟨s.name, Reference.decode s.raw⟩

/-- The name starts as a name and goes on as one, and the value has neither the quotation mark around it nor
`<` in it. -/
structure Valid (s : Spelling) : Prop where
  start : s.name.head?.any Name.isStart = true
  parts : ∀ c ∈ s.name, Name.isPart c = true
  before : ∀ c ∈ s.before, Text.isBlank c = true
  after : ∀ c ∈ s.after, Text.isBlank c = true
  quote : s.quote = '"' ∨ s.quote = '\''
  raw : s.quote ∉ s.raw ∧ '<' ∉ s.raw

theorem Valid.writes {s : Spelling} (valid : s.Valid) : Writes s.toAttribute s.text :=
  .intro ((Name.isName_iff s.name).mpr ⟨valid.start, valid.parts⟩) (List.all_eq_true.mpr valid.before)
    (List.all_eq_true.mpr valid.after) valid.quote
    (fun _ member => ⟨ne_of_mem_of_not_mem member valid.raw.1, ne_of_mem_of_not_mem member valid.raw.2⟩)
    rfl

/-- A spelling starts with its name, so not with a blank. -/
theorem Valid.exists_cons {s : Spelling} (valid : s.Valid) :
    ∃ c rest, s.text = c :: rest ∧ Text.isBlank c = false := by
  have start := valid.start
  cases name : s.name with
  | nil => simp [name] at start
  | cons c others =>
    refine ⟨c, _, by rw [Spelling.text, name, List.cons_append], ?_⟩
    by_contra blank
    have outside := not_isPart_of_isBlank (Bool.not_eq_false _ ▸ blank)
    rw [valid.parts c (by simp [name])] at outside
    cases outside

end Spelling

theorem Writes.exists_spelling {a : Attribute} {written : Text} (h : Writes a written) :
    ∃ s : Spelling, s.Valid ∧ s.text = written ∧ s.toAttribute = a := by
  obtain @⟨before, after, raw, quote, named, left, right, mark, plain, value⟩ := h
  obtain ⟨start, parts⟩ := (Name.isName_iff a.name).mp named
  refine ⟨⟨a.name, before, after, quote, raw⟩, ⟨start, parts, List.all_eq_true.mp left,
    List.all_eq_true.mp right, mark, fun member => (plain _ member).1 rfl,
    fun member => (plain _ member).2 rfl⟩, rfl, ?_⟩
  rw [Spelling.toAttribute, value]

/-- Spellings one after another, each after the blanks that stand with it. -/
def lay (pieces : List (Text × Spelling)) : Text := pieces.flatMap fun p => p.1 ++ p.2.text

/-- Spellings with blanks between them: only the first may come without. -/
structure Layout (pieces : List (Text × Spelling)) (trail : Text) : Prop where
  valid : ∀ p ∈ pieces, p.2.Valid
  blanks : ∀ p ∈ pieces, ∀ c ∈ p.1, Text.isBlank c = true
  apart : ∀ p ∈ pieces.tail, p.1 ≠ []
  trail : ∀ c ∈ trail, Text.isBlank c = true

namespace Layout

variable {pieces : List (Text × Spelling)} {trail : Text}

theorem tail {p : Text × Spelling} (h : Layout (p :: pieces) trail) : Layout pieces trail where
  valid q member := h.valid q (List.mem_cons_of_mem p member)
  blanks q member := h.blanks q (List.mem_cons_of_mem p member)
  apart q member := h.apart q (List.mem_of_mem_tail member)
  trail := h.trail

/-- A layout with blanks before each spelling starts with a blank, if there is anything in it. -/
theorem head? (h : Layout pieces trail) (spaced : ∀ p ∈ pieces, p.1 ≠ []) :
    (lay pieces ++ trail).head?.all Text.isBlank = true := by
  cases pieces with
  | nil =>
    cases trail with
    | nil => rfl
    | cons c rest => exact h.trail c (by simp)
  | cons p others =>
    obtain ⟨gap, s⟩ := p
    cases gap with
    | nil => exact absurd rfl (spaced ([], s) (by simp))
    | cons c rest => exact h.blanks (c :: rest, s) (by simp) c (by simp)

theorem to_section (h : Layout pieces trail) :
    Section (lay pieces ++ trail) (pieces.map (·.2.toAttribute)) := by
  induction pieces with
  | nil => exact .blank (List.all_eq_true.mpr h.trail)
  | cons p others ih =>
    have gap : p.1.all Text.isBlank = true := List.all_eq_true.mpr (h.blanks p (by simp))
    have first := (h.valid p (by simp)).writes
    have whole := Section.cons gap first (h.tail.head? h.apart) (ih h.tail)
    rw [lay, List.flatMap_cons, List.append_assoc, List.append_assoc]
    exact whole

end Layout

/-- A section can be laid out. -/
theorem Section.exists_layout {text : Text} {attributes : List Attribute} (h : Section text attributes) :
    ∃ pieces trail, Layout pieces trail ∧ lay pieces ++ trail = text ∧
      pieces.map (·.2.toAttribute) = attributes := by
  induction h with
  | @blank text blanks =>
    exact ⟨[], text, ⟨by simp, by simp, by simp, List.all_eq_true.mp blanks⟩, rfl, rfl⟩
  | @cons before written rest a others blanks first apart _ ih =>
    obtain ⟨pieces, trail, layout, rfl, rfl⟩ := ih
    obtain ⟨s, valid, rfl, rfl⟩ := first.exists_spelling
    refine ⟨(before, s) :: pieces, trail, ⟨?_, ?_, ?_, layout.trail⟩, ?_, rfl⟩
    · exact List.forall_mem_cons.mpr ⟨valid, layout.valid⟩
    · exact List.forall_mem_cons.mpr ⟨List.all_eq_true.mp blanks, layout.blanks⟩
    · -- A further spelling without a blank before it would start a name where a blank has to be.
      intro p member none
      cases pieces with
      | nil => cases member
      | cons q later =>
        rcases List.mem_cons.mp member with rfl | deeper
        · obtain ⟨c, tail, text, solid⟩ := (layout.valid p (by simp)).exists_cons
          rw [lay, List.flatMap_cons, none, text] at apart
          exact Bool.false_ne_true (solid.symm.trans apart)
        · exact layout.apart p deeper none
    · rw [lay, List.flatMap_cons, List.append_assoc, List.append_assoc]
      rfl

theorem exists_layout_iff {text : Text} {attributes : List Attribute} :
    (∃ pieces trail, Layout pieces trail ∧ lay pieces ++ trail = text ∧
      pieces.map (·.2.toAttribute) = attributes) ↔ Section text attributes := by
  refine ⟨?_, Section.exists_layout⟩
  rintro ⟨pieces, trail, layout, rfl, rfl⟩
  exact layout.to_section

/-- An attribute in double quotation marks, its value with references. -/
def spell (a : Attribute) : Spelling := ⟨a.name, [], [], '"', Reference.encodeAttribute a.value⟩

theorem valid_spell {a : Attribute} (start : a.name.head?.any Name.isStart = true)
    (parts : ∀ c ∈ a.name, Name.isPart c = true) : (spell a).Valid := by
  refine ⟨start, parts, by simp [spell], by simp [spell], .inl rfl, fun member => ?_, fun member => ?_⟩
  · exact (Reference.plain_of_mem_escape member).2.2 rfl rfl
  · exact (Reference.plain_of_mem_escape member).1 rfl

theorem toAttribute_spell (a : Attribute) : (spell a).toAttribute = a := by
  rw [Spelling.toAttribute, spell, Reference.decode_encodeAttribute]

/-- A text is read as attributes exactly if it lays them out: blanks, attributes with blanks between them,
and blanks, where an attribute is a name, an equals sign with blanks around it, and a value between two equal
quotation marks without this mark and without `<`. Attributes with names are read back from every layout in
which they are written with references in double quotation marks, and no attribute repeats the name of another
exactly if the names are distinct. -/
theorem parse_layout :
    (∀ text attributes, parse text = .ok attributes ↔
      ∃ pieces trail, Layout pieces trail ∧ lay pieces ++ trail = text ∧
        pieces.map (·.2.toAttribute) = attributes) ∧
      (∀ (pieces : List (Text × Attribute)) (trail : Text),
        (∀ p ∈ pieces, p.2.name.head?.any Name.isStart = true ∧
          ∀ c ∈ p.2.name, Name.isPart c = true) →
        (∀ p ∈ pieces, ∀ c ∈ p.1, Text.isBlank c = true) → (∀ p ∈ pieces.tail, p.1 ≠ []) →
        (∀ c ∈ trail, Text.isBlank c = true) →
          parse ((pieces.flatMap fun p => p.1 ++ (p.2.name ++ '=' :: '"' ::
            (Reference.encodeAttribute p.2.value ++ ['"']))) ++ trail) = .ok (pieces.map (·.2))) ∧
      ∀ attributes, duplicate? attributes = none ↔ (attributes.map (·.name)).Nodup := by
  refine ⟨fun text attributes => ?_, fun pieces trail named blanks apart trailing => ?_,
    fun _ => duplicate?_eq_none_iff⟩
  · rw [parse_eq_ok_iff, exists_layout_iff]
  · have layout : Layout (pieces.map fun p => (p.1, spell p.2)) trail := by
      refine ⟨?_, List.forall_mem_map.mpr blanks, ?_, trailing⟩
      · exact List.forall_mem_map.mpr fun p member => valid_spell (named p member).1 (named p member).2
      · rw [← List.map_tail]
        exact List.forall_mem_map.mpr apart
    have whole := parse_eq_ok_iff.mpr layout.to_section
    rw [List.map_map, lay, List.flatMap_map] at whole
    refine whole.trans (congrArg Except.ok (List.map_congr_left fun p _ => toAttribute_spell p.2))

/-- Names that start with a colon or have a letter outside ASCII, and a value that has to be escaped. -/
theorem parse_layout_of_escaped :
    let pieces : List (Text × Attribute) :=
      [([], ⟨[':'], ['<', '&', '"']⟩), ([' ', '\n'], ⟨['é', '-'], []⟩)]
    parse ((pieces.flatMap fun p => p.1 ++ (p.2.name ++ '=' :: '"' ::
      (Reference.encodeAttribute p.2.value ++ ['"']))) ++ ['\t']) = .ok (pieces.map (·.2)) :=
  parse_layout.2.1 _ _ (by simp [Name.isStart, Name.isPart]) (by simp [Text.isBlank]) (by simp)
    (by simp [Text.isBlank])

end MarkupQuery.Attribute
