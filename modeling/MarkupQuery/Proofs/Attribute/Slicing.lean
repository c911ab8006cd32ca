import MarkupQuery.Proofs.Attribute
import MarkupQuery.Proofs.Reference.Slicing

/-!
Attributes by byte offsets. An attribute section is scanned byte by byte, with an offset that goes on from
one byte to the next, and names and values are cut out of the text between offsets; where such an offset lies
inside a character there is no answer. Main statement: there always is an answer, that of the walk over the
characters (`Attribute.parseAt?_eq`).
-/
namespace MarkupQuery.Attribute

open Utf8 (encode size slice? skip SameClass From)

/-- Whether a value goes on with a character, `quote` being the mark in front of the value. -/
def inValue (quote c : Char) : Bool := ! (c == quote || c == '<')

def inValueByte (quote b : UInt8) : Bool := ! (b == quote || b == 0x3c)

/-- The offset of the quotation mark that ends a value. -/
def closingAt (quote : UInt8) (bytes : Bytes) (pos : Nat) : Except AttributeFault Nat :=
  let stop := skip (inValueByte quote) bytes pos
  match bytes[stop]? with
  | none => .error .openValue
  | some b => if b == quote then .ok stop else .error .angleInValue

/-- The quoted value after an equals sign, and the offset after its closing quotation mark. -/
def quotedAt? (input : Text) (pos : Nat) : Option (Except AttributeFault (Text × Nat)) :=
  let start := skip Bytes.isBlank (encode input) pos
  match (encode input)[start]?.filter (fun b => b == 0x22 || b == 0x27) with
  | none => some (.error .unquotedValue)
  | some quote =>
    match closingAt quote (encode input) (start + 1) with
    | .error fault => some (.error fault)
    | .ok stop =>
      (slice? input (start + 1) stop).bind fun raw =>
        (Reference.decodeAt? raw).map fun value => .ok (value, stop + 1)

/-- One attribute from an offset on, and the offset after it. -/
def readOneAt? (input : Text) (pos : Nat) : Option (Except AttributeFault (Attribute × Nat)) :=
  if (encode input)[pos]?.all Bytes.isNameStart then
    let stop := skip Bytes.isNamePart (encode input) pos
    (slice? input pos stop).bind fun name =>
      let sign := skip Bytes.isBlank (encode input) stop
      if (encode input)[sign]? == some 0x3d then
        (quotedAt? input (sign + 1)).map (·.bind fun (value, next) =>
          if (encode input)[next]?.any (! Bytes.isBlank ·) then .error .unseparated
          else .ok (⟨name, value⟩, next))
      else some (.error .missingValue)
  else some (.error .name)

theorem le_of_closingAt {quote : UInt8} {bytes : Bytes} {pos stop : Nat}
    (found : closingAt quote bytes pos = .ok stop) : pos ≤ stop := by
  unfold closingAt at found
  dsimp only at found
  split at found
  · cases found
  · split at found
    · cases found
      exact Utf8.le_skip _ _ _
    · cases found

theorem lt_of_quotedAt? {input value : Text} {pos next : Nat}
    (read : quotedAt? input pos = some (.ok (value, next))) : pos < next := by
  unfold quotedAt? at read
  dsimp only at read
  split at read
  · cases read
  · split at read
    · cases read
    · rename_i stop found
      obtain ⟨raw, _, read⟩ := Option.bind_eq_some_iff.mp read
      obtain ⟨_, _, same⟩ := Option.map_eq_some_iff.mp read
      cases same
      have after := le_of_closingAt found
      have start := Utf8.le_skip Bytes.isBlank (encode input) pos
      omega

theorem lt_of_readOneAt? {input : Text} {pos next : Nat} {a : Attribute}
    (read : readOneAt? input pos = some (.ok (a, next))) : pos < next := by
  unfold readOneAt? at read
  split at read
  · obtain ⟨name, _, read⟩ := Option.bind_eq_some_iff.mp read
    dsimp only at read
    split at read
    · obtain ⟨outcome, quoted, read⟩ := Option.map_eq_some_iff.mp read
      rcases outcome with _ | ⟨value, after⟩
      · cases read
      · dsimp only [Except.bind] at read
        split at read
        · cases read
        · cases read
          have value := lt_of_quotedAt? quoted
          have name := Utf8.le_skip Bytes.isNamePart (encode input) pos
          have sign := Utf8.le_skip Bytes.isBlank (encode input)
            (skip Bytes.isNamePart (encode input) pos)
          omega
    · cases read
  · cases read

/-- All attributes from an offset on. -/
def parseAt? (input : Text) (pos : Nat) : Option (Except AttributeFault (List Attribute)) :=
  let start := skip Bytes.isBlank (encode input) pos
  if _inside : size input ≤ start then some (.ok [])
  else
    match _h : readOneAt? input start with
    | none => none
    | some (.error fault) => some (.error fault)
    | some (.ok (a, next)) =>
      (parseAt? input next).map (·.map (a :: ·))
termination_by size input - pos
decreasing_by
  have onward := lt_of_readOneAt? _h
  have start := Utf8.le_skip Bytes.isBlank (encode input) pos
  omega

variable {input rest : Text} {pos : Nat}

/-- The search for the end of a value stops at the first quotation mark of its kind or `<`. -/
theorem readValue_eq (quote : Char) (text : Text) :
    readValue quote text =
      match text.dropWhile (inValue quote) with
      | [] => .error .openValue
      | c :: after =>
        if c == quote then .ok (text.takeWhile (inValue quote), after) else .error .angleInValue := by
  induction text with
  | nil => rfl
  | cons c others ih =>
    rw [readValue]
    split
    · rename_i mark
      have outside : ¬ inValue quote c = true := by simp [inValue, mark]
      rw [List.dropWhile_cons_of_neg outside, List.takeWhile_cons_of_neg outside]
      exact (if_pos mark).symm
    · rename_i unmarked
      split
      · rename_i angle
        have outside : ¬ inValue quote c = true := by simp [inValue, angle]
        rw [List.dropWhile_cons_of_neg outside]
        exact (if_neg unmarked).symm
      · rename_i plain
        have inside : inValue quote c = true := by simp [inValue, unmarked, plain]
        rw [ih, List.dropWhile_cons_of_pos inside, List.takeWhile_cons_of_pos inside]
        cases others.dropWhile (inValue quote) with
        | nil => rfl
        | cons d after =>
          dsimp only
          cases d == quote <;> rfl

theorem sameClass_inValue {quote : Char} (ascii : quote.toNat < 0x80) :
    SameClass (inValueByte (UInt8.ofNat quote.toNat)) (inValue quote) :=
  ((Utf8.sameClass_eq ascii).or (Utf8.sameClass_eq (c := '<') (by decide))).not

/-- The quotation mark that ends a value is found where it is, and the value can be cut out. -/
theorem closingAt_eq {quote : Char} (ascii : quote.toNat < 0x80) (h : From input pos rest) :
    ∃ stop, closingAt (UInt8.ofNat quote.toNat) (encode input) pos =
        (readValue quote rest).map (fun _ => stop) ∧
      ∀ value after, readValue quote rest = .ok (value, after) →
        slice? input pos stop = some value ∧ From input (stop + 1) after := by
  obtain ⟨standing, sliced⟩ := h.skip (sameClass_inValue ascii)
  refine ⟨skip (inValueByte (UInt8.ofNat quote.toNat)) (encode input) pos, ?_⟩
  unfold closingAt
  dsimp only
  rw [standing.getElem?, readValue_eq]
  revert standing
  cases rest.dropWhile (inValue quote) with
  | nil => exact fun _ => ⟨rfl, nofun⟩
  | cons c after =>
    intro standing
    obtain ⟨b, first, same⟩ := (Utf8.sameClass_eq ascii).exists_head?_encode c after
    rw [first]
    dsimp only
    rw [same]
    split
    · rename_i closes
      obtain rfl := beq_iff_eq.mp closes
      refine ⟨rfl, fun value tail read => ?_⟩
      cases read
      exact ⟨sliced, standing.cons ascii⟩
    · exact ⟨rfl, nofun⟩

/-- The quoted value at the head of the text, and the text after it. -/
def readQuoted (text : Text) : Except AttributeFault (Text × Text) :=
  match skipBlanks text with
  | [] => .error .unquotedValue
  | quote :: inner =>
    if quote == '"' || quote == '\'' then
      (readValue quote inner).map fun (value, after) => (Reference.decode value, after)
    else .error .unquotedValue

theorem readOne_eq (text : Text) :
    readOne text =
      if text.head?.all Name.isStart then
        match skipBlanks (text.dropWhile Name.isPart) with
        | [] => .error .missingValue
        | sign :: rest =>
          if sign == '=' then
            (readQuoted rest).bind fun (value, after) =>
              if after.head?.any (! Text.isBlank ·) then .error .unseparated
              else .ok (⟨text.takeWhile Name.isPart, value⟩, after)
          else .error .missingValue
      else .error .name := by
  unfold readOne readQuoted
  generalize skipBlanks (text.dropWhile Name.isPart) = marked
  split
  · cases marked with
    | nil => rfl
    | cons sign rest =>
      dsimp only
      split
      · rename_i same
        cases same
        rw [if_pos (beq_self_eq_true '=')]
        cases skipBlanks rest with
        | nil => rfl
        | cons quote inner =>
          dsimp only
          split
          · cases readValue quote inner <;> rfl
          · rfl
      · rename_i absent
        exact (if_neg fun same => absent rest (by rw [beq_iff_eq.mp same])).symm
  · rfl

theorem quotedAt?_eq (h : From input pos rest) :
    ∃ next, quotedAt? input pos = some ((readQuoted rest).map fun (value, _) => (value, next)) ∧
      ∀ value after, readQuoted rest = .ok (value, after) → From input next after := by
  have standing := (h.skip Utf8.sameClass_isBlank).1
  have quotes : SameClass (fun b => b == 0x22 || b == 0x27) (fun c => c == '"' || c == '\'') :=
    (Utf8.sameClass_eq (c := '"') (by decide)).or (Utf8.sameClass_eq (c := '\'') (by decide))
  unfold quotedAt? readQuoted skipBlanks
  dsimp only
  rw [standing.getElem?]
  revert standing
  generalize skip Bytes.isBlank (encode input) pos = start
  cases rest.dropWhile Text.isBlank with
  | nil => exact fun _ => ⟨0, rfl, nofun⟩
  | cons quote inner =>
    intro standing
    by_cases mark : (quote == '"' || quote == '\'') = true
    · have ascii : quote.toNat < 0x80 := by
        rw [Bool.or_eq_true, beq_iff_eq, beq_iff_eq] at mark
        rcases mark with rfl | rfl <;> decide
      obtain ⟨stop, closing, cut⟩ := closingAt_eq ascii (standing.cons ascii)
      have first : (encode (quote :: inner)).head? = some (UInt8.ofNat quote.toNat) := by
        rw [Utf8.encode_cons, Utf8.encodeChar_of_lt ascii]
        rfl
      rw [quotes.filter_head?_encode, if_pos mark, first]
      dsimp only
      rw [closing, if_pos mark]
      cases read : readValue quote inner with
      | error fault => exact ⟨0, rfl, nofun⟩
      | ok found =>
        obtain ⟨raw, after⟩ := found
        obtain ⟨sliced, onward⟩ := cut raw after read
        refine ⟨stop + 1, ?_, ?_⟩
        · dsimp only [Except.map]
          rw [sliced, Option.bind_some, Reference.decodeAt?_eq]
          rfl
        · rintro value _ ⟨⟩
          exact onward
    · rw [quotes.filter_head?_encode, if_neg mark]
      dsimp only
      rw [if_neg mark]
      exact ⟨0, rfl, nofun⟩

theorem readOneAt?_eq (h : From input pos rest) :
    ∃ next, readOneAt? input pos = some ((readOne rest).map fun (a, _) => (a, next)) ∧
      ∀ a after, readOne rest = .ok (a, after) → From input next after := by
  obtain ⟨named, name⟩ := h.skip Name.sameClass_isPart
  have marked := (named.skip Utf8.sameClass_isBlank).1
  have sign : SameClass (· == 0x3d) (· == '=') := Utf8.sameClass_eq (c := '=') (by decide)
  unfold readOneAt?
  rw [h.getElem?, Name.sameClass_isStart.all_head?_encode, readOne_eq]
  split
  · dsimp only
    rw [name, Option.bind_some, marked.getElem?]
    unfold skipBlanks
    revert marked
    cases (rest.dropWhile Name.isPart).dropWhile Text.isBlank with
    | nil => exact fun _ => ⟨0, rfl, nofun⟩
    | cons c tail =>
      intro marked
      have equals : ((encode (c :: tail)).head? == some 0x3d) = (c == '=') := by
        obtain ⟨b, first, same⟩ := sign.exists_head?_encode c tail
        rw [first]
        exact same
      dsimp only
      rw [equals]
      split
      · rename_i mark
        obtain rfl := beq_iff_eq.mp mark
        obtain ⟨next, quoted, onward⟩ := quotedAt?_eq (marked.cons (by decide))
        rw [quoted]
        cases read : readQuoted tail with
        | error fault => exact ⟨0, rfl, nofun⟩
        | ok found =>
          obtain ⟨value, after⟩ := found
          have standing := onward value after read
          refine ⟨next, ?_, ?_⟩
          · dsimp only [Option.map_some, Except.map, Except.bind]
            rw [standing.getElem?, Utf8.sameClass_isBlank.not.any_head?_encode]
            split <;> rfl
          · rintro a _ same
            dsimp only [Except.bind] at same
            split at same <;> cases same
            exact standing
      · exact ⟨0, rfl, nofun⟩
  · exact ⟨0, rfl, nofun⟩

theorem skipBlanks_from (h : From input pos rest) :
    From input (skip Bytes.isBlank (encode input) pos) (skipBlanks rest) := (h.skip Utf8.sameClass_isBlank).1

theorem more_of_nonempty (h : From input pos rest) (nonempty : ¬ (skipBlanks rest).isEmpty = true) :
    ¬ size input ≤ skip Bytes.isBlank (encode input) pos :=
  fun finished => nonempty (List.isEmpty_iff.mpr ((skipBlanks_from h).size_le_iff.mp finished))

theorem parseAt?_of_fault {fault : AttributeFault}
    (more : ¬ size input ≤ skip Bytes.isBlank (encode input) pos)
    (scanned : readOneAt? input (skip Bytes.isBlank (encode input) pos) = some (.error fault)) :
    parseAt? input pos = some (.error fault) := by
  rw [parseAt?, dif_neg more]
  split
  all_goals
    rename_i found
    rw [scanned] at found
    cases found
  rfl

theorem parseAt?_of_attribute {a : Attribute} {next : Nat}
    (more : ¬ size input ≤ skip Bytes.isBlank (encode input) pos)
    (scanned : readOneAt? input (skip Bytes.isBlank (encode input) pos) = some (.ok (a, next))) :
    parseAt? input pos = (parseAt? input next).map (·.map (a :: ·)) := by
  rw [parseAt?, dif_neg more]
  split
  all_goals
    rename_i found
    rw [scanned] at found
    cases found
  rfl

/-- Scanned by offsets or walked character by character, a section has the same attributes or the same
fault. -/
theorem parseAt?_from (h : From input pos rest) : parseAt? input pos = some (parse rest) := by
  fun_induction parse rest generalizing pos with
  | case1 rest none =>
    have standing := skipBlanks_from h
    rw [parseAt?, dif_pos (standing.size_le_iff.mpr (List.isEmpty_iff.mp none))]
  | case2 rest nonempty fault failed =>
    obtain ⟨next, scanned, -⟩ := readOneAt?_eq (skipBlanks_from h)
    rw [failed] at scanned
    exact parseAt?_of_fault (more_of_nonempty h nonempty) scanned
  | case3 rest nonempty a after read fault failed ih =>
    obtain ⟨next, scanned, onward⟩ := readOneAt?_eq (skipBlanks_from h)
    rw [read] at scanned
    rw [parseAt?_of_attribute (more_of_nonempty h nonempty) scanned, ih (onward a after read), failed]
    rfl
  | case4 rest nonempty a after read others parsed ih =>
    obtain ⟨next, scanned, onward⟩ := readOneAt?_eq (skipBlanks_from h)
    rw [read] at scanned
    rw [parseAt?_of_attribute (more_of_nonempty h nonempty) scanned, ih (onward a after read), parsed]
    rfl

theorem parseAt?_eq (input : Text) : parseAt? input 0 = some (parse input) :=
  parseAt?_from (Utf8.from_zero input)

end MarkupQuery.Attribute
