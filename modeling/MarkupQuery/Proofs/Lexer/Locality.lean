import MarkupQuery.Lexer
import Mathlib.Data.List.Infix
import Mathlib.Data.List.TakeWhile

/-!
How far a token reaches. What the lexer reads at the head of some bytes depends on nothing past
the end of the token that it finds, and no further bytes mend a fault. Main statements: a token of
markup stays where other bytes follow it (`Scan.token_congr`, `Scan.token_append`), and a fault
stays where more bytes follow (`Scan.rejected_append`).
-/
namespace MarkupQuery

namespace Delimiter

/-- A search whose answer rests on nothing past the delimiter that it finds, `reach` bytes long. -/
structure Local (reach : Nat) (find : Bytes → Option Nat) : Prop where
  le_length : ∀ {bytes n}, find bytes = some n → n + reach ≤ bytes.length
  congr : ∀ {seen after n}, find (seen ++ after) = some n → n + reach ≤ seen.length →
    ∀ other, find (seen ++ other) = some n

/-- What is found in some bytes is found in the same place when more bytes follow them. -/
theorem Local.append {reach n : Nat} {find : Bytes → Option Nat} {bytes : Bytes}
    (l : Local reach find) (h : find bytes = some n) (more : Bytes) :
    find (bytes ++ more) = some n := by
  have whole : find (bytes ++ []) = some n := by rw [List.append_nil, h]
  exact l.congr whole (l.le_length h) more

/-- A search that passes over the bytes one by one. It stops only at `mark`, and otherwise goes on
in a state that the byte decides. -/
structure Stepwise {σ : Type} (mark : UInt8) (find : σ → Bytes → Option Nat) : Prop where
  nil : ∀ s, find s [] = none
  cons : ∀ s b, (b = mark ∧ ∀ rest, find s (b :: rest) = some 0) ∨
    ∃ next, ∀ rest, find s (b :: rest) = (find next rest).map (· + 1)

namespace Stepwise

variable {σ : Type} {mark : UInt8} {find : σ → Bytes → Option Nat}

theorem isLocal (steps : Stepwise mark find) (s : σ) : Local 1 (find s) where
  le_length {bytes n} h := by
    induction bytes generalizing s n with
    | nil => simp [steps.nil] at h
    | cons b rest ih =>
      rcases steps.cons s b with ⟨_, stops⟩ | ⟨next, goes⟩
      · rw [stops] at h
        cases h
        simp
      · rw [goes] at h
        obtain ⟨m, found, rfl⟩ := Option.map_eq_some_iff.mp h
        have := ih next found
        simp only [List.length_cons]
        omega
  congr {seen after n} h bound other := by
    induction seen generalizing s n with
    | nil => simp at bound
    | cons b rest ih =>
      rw [List.cons_append] at h ⊢
      rcases steps.cons s b with ⟨_, stops⟩ | ⟨next, goes⟩
      · rw [stops] at h ⊢
        exact h
      · rw [goes] at h ⊢
        obtain ⟨m, found, rfl⟩ := Option.map_eq_some_iff.mp h
        rw [ih next found (by simpa using bound)]
        rfl

theorem getElem?_eq (steps : Stepwise mark find) {s : σ} {bytes : Bytes} {n : Nat}
    (h : find s bytes = some n) : bytes[n]? = some mark := by
  induction bytes generalizing s n with
  | nil => simp [steps.nil] at h
  | cons b rest ih =>
    rcases steps.cons s b with ⟨same, stops⟩ | ⟨next, goes⟩
    · rw [stops] at h
      cases h
      simp [same]
    · rw [goes] at h
      obtain ⟨m, found, rfl⟩ := Option.map_eq_some_iff.mp h
      simpa using ih found

end Stepwise

theorem stepwise_idxOf? (b : UInt8) :
    Stepwise b (fun (_ : Unit) (bytes : Bytes) => bytes.idxOf? b) where
  nil _ := rfl
  cons _ a := by
    by_cases same : (a == b) = true
    · exact Or.inl ⟨beq_iff_eq.mp same, fun rest => by simp [List.idxOf?_cons, same]⟩
    · exact Or.inr ⟨(), fun rest => by simp [List.idxOf?_cons, same]⟩

theorem stepwise_tagEndFrom? : Stepwise 0x3e tagEndFrom? where
  nil _ := rfl
  cons quote b := by
    cases quote with
    | some q => exact Or.inr ⟨_, fun rest => rfl⟩
    | none =>
      by_cases close : (b == 0x3e) = true
      · exact Or.inl ⟨beq_iff_eq.mp close, fun rest => by simp [tagEndFrom?, close]⟩
      · exact Or.inr ⟨_, fun rest => by rw [tagEndFrom?, if_neg close]⟩

theorem stepwise_doctypeEndFrom? :
    Stepwise 0x3e (fun (s : Option UInt8 × Nat) => doctypeEndFrom? s.1 s.2) where
  nil _ := rfl
  cons s b := by
    obtain ⟨quote, depth⟩ := s
    cases quote with
    | some q => exact Or.inr ⟨(_, depth), fun rest => rfl⟩
    | none =>
      by_cases mark : isQuote b = true
      · exact Or.inr ⟨(some b, depth), fun rest => by simp [doctypeEndFrom?, mark]⟩
      by_cases opening : (b == 0x5b) = true
      · exact Or.inr ⟨(none, depth + 1), fun rest => by simp [doctypeEndFrom?, mark, opening]⟩
      by_cases closing : (b == 0x5d) = true
      · exact Or.inr ⟨(none, depth - 1), fun rest => by
          simp [doctypeEndFrom?, mark, opening, closing]⟩
      by_cases stop : (b == 0x3e && depth == 0) = true
      · refine Or.inl ⟨?_, fun rest => by simp [doctypeEndFrom?, mark, opening, closing, stop]⟩
        exact beq_iff_eq.mp (Bool.and_eq_true_iff.mp stop).1
      · exact Or.inr ⟨(none, depth), fun rest => by
          simp [doctypeEndFrom?, mark, opening, closing, stop]⟩

theorem local_idxOf? (b : UInt8) : Local 1 (fun bytes : Bytes => bytes.idxOf? b) :=
  (stepwise_idxOf? b).isLocal ()

theorem local_tagEnd? : Local 1 tagEnd? := stepwise_tagEndFrom?.isLocal none

theorem local_doctypeEnd? : Local 1 doctypeEnd? := stepwise_doctypeEndFrom?.isLocal (none, 0)

/-- Whether `needle` stands at the head shows in the bytes that it takes up. -/
theorem isPrefixOf_append {needle seen : Bytes} (h : needle.length ≤ seen.length)
    (other : Bytes) : needle.isPrefixOf (seen ++ other) = needle.isPrefixOf seen := by
  rw [Bool.eq_iff_iff, List.isPrefixOf_iff_prefix, List.isPrefixOf_iff_prefix]
  exact ⟨fun p => List.prefix_of_prefix_length_le p (List.prefix_append ..) h,
    fun p => p.trans (List.prefix_append ..)⟩

theorem local_sequence? (needle : Bytes) : Local needle.length (sequence? needle) where
  le_length {bytes n} h := by
    induction bytes generalizing n with
    | nil =>
      unfold sequence? at h
      split at h
      · rename_i empty
        cases h
        simp [List.isEmpty_iff.mp empty]
      · cases h
    | cons b rest ih =>
      unfold sequence? at h
      split at h
      · rename_i found
        cases h
        simpa using (List.isPrefixOf_iff_prefix.mp found).length_le
      · obtain ⟨m, found, rfl⟩ := Option.map_eq_some_iff.mp h
        have := ih found
        simp only [List.length_cons]
        omega
  congr {seen after n} h bound other := by
    induction seen generalizing n with
    | nil =>
      rw [List.length_nil] at bound
      have empty : needle = [] := List.length_eq_zero_iff.mp (by omega)
      have head : n = 0 := by omega
      subst empty head
      cases other <;> simp [sequence?]
    | cons b rest ih =>
      have wide : needle.length ≤ (b :: rest).length := by omega
      have agree (more : Bytes) : needle.isPrefixOf (b :: (rest ++ more)) =
          needle.isPrefixOf (b :: rest) := isPrefixOf_append wide more
      rw [List.cons_append, sequence?, agree] at h ⊢
      split at h
      · rename_i found
        rw [if_pos found]
        exact h
      · rename_i missing
        obtain ⟨m, found, rfl⟩ := Option.map_eq_some_iff.mp h
        rw [if_neg missing, ih found (by rw [List.length_cons] at bound; omega)]
        rfl

end Delimiter

namespace Bytes

/-- A name ends before the first byte that can be no part of it. -/
theorem name?_append {bytes : Bytes} {b : UInt8} (member : b ∈ bytes)
    (outside : isNamePart b = false) (other : Bytes) : name? (bytes ++ other) = name? bytes := by
  cases bytes with
  | nil => simp at member
  | cons a rest =>
    have short : ((a :: rest).takeWhile isNamePart).length ≠ (a :: rest).length := by
      intro whole
      have same := (List.takeWhile_prefix isNamePart (l := a :: rest)).eq_of_length whole
      rw [← same] at member
      simp [List.mem_takeWhile_imp member] at outside
    simp only [name?, List.cons_append]
    rw [← List.cons_append, List.takeWhile_append, if_neg short]

theorem name?_eq_some_iff {bytes name : Bytes} :
    name? bytes = some name ↔ bytes.head?.any isNameStart = true ∧ bytes.takeWhile isNamePart = name := by
  cases bytes with
  | nil => simp [name?]
  | cons b rest => by_cases start : isNameStart b = true <;> simp [name?, start]

/-- What is read as a name is one to its last byte. -/
theorem name?_self {bytes name : Bytes} (h : name? bytes = some name) : name? name = some name := by
  obtain ⟨start, rfl⟩ := name?_eq_some_iff.mp h
  rw [name?_eq_some_iff, List.takeWhile_eq_self_iff]
  refine ⟨?_, fun b member => List.mem_takeWhile_imp member⟩
  cases bytes with
  | nil => cases h
  | cons b rest =>
    have first : isNameStart b = true := by simpa using start
    rw [List.takeWhile_cons_of_pos (isNamePart_of_isNameStart first)]
    simpa using first

theorem isPrefix_of_name? {bytes name : Bytes} (h : name? bytes = some name) : name <+: bytes := by
  rw [← (name?_eq_some_iff.mp h).2]
  exact List.takeWhile_prefix _

end Bytes

namespace Scan

open Delimiter

variable {seen after : Bytes} {construct : Token}

/-- The end of a tag comes after its `<`. -/
theorem mem_of_tagEnd? {rest : Bytes} {stop : Nat} (h : tagEnd? (0x3c :: rest) = some stop) :
    0x3e ∈ rest := by
  have last : (0x3c :: rest)[stop]? = some 0x3e := stepwise_tagEndFrom?.getElem?_eq h
  cases stop with
  | zero => simp at last
  | succ n =>
    rw [List.getElem?_cons_succ] at last
    exact List.mem_of_getElem? last

/-- A document type declaration reaches past its own opening. -/
theorem doctypeOpen_length_le {rest : Bytes} {stop : Nat}
    (h : doctypeEnd? (doctypeOpen ++ rest) = some stop) : doctypeOpen.length ≤ stop := by
  by_contra short
  have last : (doctypeOpen ++ rest)[stop]? = some 0x3e :=
    stepwise_doctypeEndFrom?.getElem?_eq (s := (none, 0)) h
  rw [List.getElem?_append_left (by omega)] at last
  exact absurd (List.mem_of_getElem? last) (by decide)

/-- What some bytes start with, their beginning starts with if it is long enough. -/
theorem exists_of_opening {opening rest : Bytes} (whole : seen ++ after = opening ++ rest)
    (wide : opening.length ≤ seen.length) : ∃ inner, seen = opening ++ inner ∧ rest = inner ++ after := by
  have starts : opening <+: seen ++ after := ⟨rest, whole.symm⟩
  obtain ⟨inner, rfl⟩ := List.prefix_of_prefix_length_le starts (List.prefix_append ..) wide
  rw [List.append_assoc] at whole
  exact ⟨inner, rfl, (List.append_cancel_left whole).symm⟩

/-- A token of markup is there whatever follows it. -/
theorem token_congr (angle : seen.head? = some 0x3c)
    (h : scan (seen ++ after) = .token construct seen.length) (other : Bytes) :
    scan (seen ++ other) = .token construct seen.length := by
  have same (stop : Nat) (inside : stop ≤ seen.length) :
      (seen ++ after).take stop = (seen ++ other).take stop := by
    rw [List.take_append_of_le_length inside, List.take_append_of_le_length inside]
  generalize whole : seen ++ after = bytes at h
  generalize width : seen.length = n at h same ⊢
  rw [scan_eq_iff]
  -- A construct opens before its token ends, and the search for its end stops where it did.
  cases scan_eq_iff.mp h with
  | @text first rest content plain =>
    obtain ⟨inner, rfl⟩ := List.head?_eq_some_iff.mp angle
    exact absurd (List.cons.inj whole).1.symm plain
  | @endTag rest name stop found named solid =>
    have far : stop ≠ 0 := by
      rintro rfl
      exact absurd ((stepwise_idxOf? 0x3e).getElem?_eq (s := ()) found) (by simp)
    obtain ⟨inner, rfl, rfl⟩ := @exists_of_opening seen after [0x3c, 0x2f] rest whole
      (by simp only [List.length_cons, List.length_nil]; omega)
    have again := (local_idxOf? 0x3e).congr (whole ▸ found) (Nat.le_of_eq width.symm) other
    rw [← whole, same stop (by omega)] at named
    exact .endTag again named solid
  | @instruction rest target data length found named trimmed =>
    obtain ⟨inner, rfl, rfl⟩ := @exists_of_opening seen after [0x3c, 0x3f] rest whole
      (by simp only [List.length_cons, List.length_nil]; omega)
    have wide : length + instructionClose.length = inner.length := by
      simp only [instructionClose, List.length_append, List.length_cons, List.length_nil] at width ⊢
      omega
    have again := (local_sequence? instructionClose).congr found (Nat.le_of_eq wide) other
    have body (more : Bytes) : (inner ++ more).take length = inner.take length :=
      List.take_append_of_le_length (by omega)
    rw [body] at named trimmed
    exact .instruction again ((body other).symm ▸ named) ((body other).symm ▸ trimmed)
  | @enclosed opening closing rest make cause length kind found =>
    obtain ⟨inner, rfl, rfl⟩ := exists_of_opening whole (by omega)
    rw [List.length_append] at width
    have again := (local_sequence? closing).congr found (by omega) other
    have body (more : Bytes) : (inner ++ more).take length = inner.take length :=
      List.take_append_of_le_length (by omega)
    rw [body after, ← body other, List.append_assoc]
    exact .enclosed kind again
  | @doctype rest stop found =>
    have reach := doctypeOpen_length_le found
    obtain ⟨inner, rfl, rfl⟩ := exists_of_opening whole (by omega)
    have again := local_doctypeEnd?.congr (whole ▸ found) (Nat.le_of_eq width.symm) other
    rw [← whole, same stop (by omega), List.append_assoc]
    rw [List.append_assoc] at again
    exact .doctype again
  | @tag rest name raw closed stop named found split apart =>
    obtain ⟨inner, rfl⟩ := List.head?_eq_some_iff.mp angle
    obtain rfl : inner ++ after = rest := (List.cons.inj whole).2
    have again := local_tagEnd?.congr (whole ▸ found) (Nat.le_of_eq width.symm) other
    have alone := local_tagEnd?.congr (whole ▸ found) (Nat.le_of_eq width.symm) []
    rw [List.append_nil] at alone
    have part (more : Bytes) : Bytes.name? (inner ++ more) = Bytes.name? inner :=
      Bytes.name?_append (mem_of_tagEnd? alone) (by decide) more
    rw [← whole, same stop (by omega)] at split
    rw [part] at named
    exact .tag ((part other).trans named) again split apart

/-- A token, where there is one, lies within the bytes. -/
def Fits (bytes : Bytes) : Scan → Prop
  | token _ width => width ≤ bytes.length
  | finished | cut _ | rejected .. => True

theorem Reads.fits {bytes : Bytes} {outcome : Scan} (reads : Reads bytes outcome) :
    Fits bytes outcome := by
  cases reads with
  | text _ reach =>
    rw [← reach]
    exact (List.takeWhile_prefix _).length_le
  | endTag found => exact (local_idxOf? 0x3e).le_length found
  | instruction found =>
    have inside := (local_sequence? instructionClose).le_length found
    simp only [Fits, instructionClose, List.length_cons, List.length_nil] at inside ⊢
    omega
  | enclosed _ found =>
    have inside := (local_sequence? _).le_length found
    simp only [Fits, List.length_append]
    omega
  | doctype found => exact local_doctypeEnd?.le_length found
  | tag _ found => exact local_tagEnd?.le_length found
  | _ => trivial

theorem width_le {bytes : Bytes} {width : Nat} (h : scan bytes = .token construct width) :
    width ≤ bytes.length := by
  simpa [Fits, h] using (reads_scan bytes).fits

/-- A token of markup stays where other bytes take the place of those after it. -/
theorem token_replace {bytes : Bytes} {width : Nat} (angle : bytes.head? = some 0x3c)
    (h : scan bytes = .token construct width) (other : Bytes) :
    scan (bytes.take width ++ other) = .token construct width := by
  have wide := width_pos h
  have whole : (bytes.take width).length = width := by
    rw [List.length_take, Nat.min_eq_left (width_le h)]
  have head : (bytes.take width).head? = some 0x3c := by
    rw [List.head?_take, if_neg (by omega), angle]
  have same : scan (bytes.take width ++ bytes.drop width) =
      .token construct (bytes.take width).length := by
    rw [List.take_append_drop, whole, h]
  rw [token_congr head same, whole]

/-- A token of markup stays where more bytes follow. -/
theorem token_append {bytes : Bytes} {width : Nat} (angle : bytes.head? = some 0x3c)
    (h : scan bytes = .token construct width) (more : Bytes) :
    scan (bytes ++ more) = .token construct width := by
  have further := token_replace angle h (bytes.drop width ++ more)
  rw [← List.append_assoc, List.take_append_drop] at further
  exact further

/-- A token stays where the markup ends right after it or later. -/
theorem token_take {bytes : Bytes} {width k : Nat} (h : scan bytes = .token construct width)
    (inside : width ≤ k) : scan (bytes.take k) = .token construct width := by
  cases bytes with
  | nil => cases h
  | cons first rest =>
    by_cases angle : first = 0x3c
    · have split : (first :: rest).take k = (first :: rest).take width ++
          ((first :: rest).drop width).take (k - width) := by
        rw [← List.take_add, Nat.add_sub_cancel' inside]
      rw [split]
      exact token_replace (by rw [angle]; rfl) h _
    · have plain : (first != 0x3c) = true := by simpa using angle
      have wide := width_pos h
      obtain ⟨k, rfl⟩ : ∃ n, k = n + 1 := ⟨k - 1, by omega⟩
      simp only [List.take_succ_cons, scan, plain, if_true, text, Scan.token.injEq] at h ⊢
      obtain ⟨rfl, rfl⟩ := h
      have same : (first :: rest.take k).takeWhile (· != 0x3c) =
          (first :: rest).takeWhile (· != 0x3c) := by
        rw [← List.take_succ_cons, ← List.take_takeWhile, List.take_of_length_le inside]
      rw [same]
      exact ⟨rfl, rfl⟩

theorem isOpening_iff {bytes : Bytes} : isOpening bytes = true ↔
    ∃ opening ∈ [commentOpen, cdataOpen, doctypeOpen],
      bytes.length < opening.length ∧ bytes <+: opening := by
  simp [isOpening, List.isPrefixOf_iff_prefix]

/-- Bytes that start no declaration, not even in part, start none with more bytes after them. -/
theorem not_isPrefix_append {opening bytes : Bytes}
    (member : opening ∈ [commentOpen, cdataOpen, doctypeOpen])
    (absent : ¬ opening <+: bytes) (whole : isOpening bytes = false) (more : Bytes) :
    ¬ opening <+: bytes ++ more := by
  intro starts
  by_cases wide : opening.length ≤ bytes.length
  · exact absent (List.prefix_of_prefix_length_le starts (List.prefix_append ..) wide)
  · have inside : bytes <+: opening := List.prefix_of_prefix_length_le (List.prefix_append ..)
      starts (by omega)
    rw [← Bool.not_eq_true, isOpening_iff] at whole
    exact whole ⟨opening, member, by omega, inside⟩

/-- A fault stays where more bytes follow. -/
theorem rejected_append {bytes : Bytes} {cause : Malformed} {offset resume : Nat}
    (h : scan bytes = .rejected cause offset resume) (more : Bytes) :
    scan (bytes ++ more) = .rejected cause offset resume := by
  rw [scan_eq_iff]
  cases scan_eq_iff.mp h with
  | @endTagName rest name stop found named wrong =>
    have bound := (local_idxOf? 0x3e).le_length found
    have same : (0x3c :: 0x2f :: rest ++ more).take stop = (0x3c :: 0x2f :: rest).take stop :=
      List.take_append_of_le_length (by omega)
    exact .endTagName ((local_idxOf? 0x3e).append found more) (same ▸ named) wrong
  | @instructionTarget rest length found unnamed =>
    have bound := (local_sequence? instructionClose).le_length found
    have same : (rest ++ more).take length = rest.take length :=
      List.take_append_of_le_length (by omega)
    exact .instructionTarget ((local_sequence? instructionClose).append found more) (same ▸ unnamed)
  | @declaration rest unopened wrong =>
    have still : isOpening (0x3c :: 0x21 :: rest ++ more) = false := by
      rw [← Bool.not_eq_true, isOpening_iff] at wrong ⊢
      rintro ⟨opening, member, short, inside⟩
      rw [List.length_append] at short
      exact wrong ⟨opening, member, by omega, (List.prefix_append ..).trans inside⟩
    exact .declaration (fun opening member => not_isPrefix_append member (unopened opening member) wrong more) still
  | @elementNameEnd rest name raw closed stop named found split joined =>
    have bound := local_tagEnd?.le_length found
    have again : Bytes.name? (rest ++ more) = some name := by
      rw [Bytes.name?_append (mem_of_tagEnd? found) (by decide), named]
    have same : (0x3c :: rest ++ more).take stop = (0x3c :: rest).take stop :=
      List.take_append_of_le_length (by omega)
    exact .elementNameEnd again (local_tagEnd?.append found more) (same ▸ split) joined
  | @elementName second rest other unnamed =>
    refine .elementName other ?_
    simpa [Bytes.name?] using unnamed

end Scan

end MarkupQuery
