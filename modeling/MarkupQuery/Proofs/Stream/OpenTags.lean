import MarkupQuery.Proofs.Lexer.Opening
import MarkupQuery.Proofs.Namespace
import MarkupQuery.Proofs.Stream.Refinement

/-!
The open elements that a selector has to know, and no more. The start tags of the open elements say which of
them is selected, which declarations are in force and what the trail is, so a selector can be written down
from them. Main statements: the selected element is the one whose chain of names is the target
(`OpenTag.selected?_eq_some_iff`), and a token takes the selector of some open tags to the selector of those
that are open after it (`Selector.take_ofOpen`).
-/
namespace MarkupQuery

/-- The start tag of an open element. -/
structure OpenTag where
  name : Text
  attributes : Bytes
  start : Nat
  stop : Nat
  deriving DecidableEq, Repr

namespace OpenTag

/-- The token of the tag. -/
def lexeme (t : OpenTag) : Lexeme := ⟨.startTag (Utf8.encode t.name) t.attributes, t.start, t.stop⟩

/-- The declarations of the tag that count, the latest first. -/
def bindings (t : OpenTag) : List Binding :=
  ((Attribute.declaredIn t.attributes).filter fun b => !Namespace.isReserved b.qualifier).reverse

/-- A tag with a name, within the given number of bytes. -/
structure Within (length : Nat) (t : OpenTag) : Prop where
  named : t.name ≠ []
  start_le : t.start ≤ length

theorem Within.mono {t : OpenTag} {length more : Nat} (within : t.Within length) (le : length ≤ more) :
    t.Within more :=
  ⟨within.named, within.start_le.trans le⟩

/-- A token closes an element, with the given ones around it, where the last ones are open before it: it is
the end tag of the innermost element, or the tag of an element without anything inside it. -/
inductive ClosedBy (t : OpenTag) (outer : List OpenTag) (x : Lexeme) : List OpenTag → Prop
  | endTag (last : x.token = .endTag (Utf8.encode t.name)) : ClosedBy t outer x (t :: outer)
  | emptyTag (single : x.token = .emptyTag (Utf8.encode t.name) t.attributes)
      (start : x.start = t.start) : ClosedBy t outer x outer

/-- The names of open elements, the outermost first. The elements themselves are given innermost first, here
and in all that follows. -/
def chain (opened : List OpenTag) : List Text := opened.reverse.map (·.name)

theorem chain_cons (t : OpenTag) (outer : List OpenTag) : chain (t :: outer) = chain outer ++ [t.name] := by
  simp [chain]

theorem chain_append (inner outer : List OpenTag) : chain (inner ++ outer) = chain outer ++ chain inner := by
  simp [chain]

@[simp] theorem length_chain (opened : List OpenTag) : (chain opened).length = opened.length := by
  simp [chain]

theorem push_chain (t : OpenTag) (outer : List OpenTag) :
    (Trail.ofChain (chain outer)).push t.name = Trail.ofChain (chain (t :: outer)) := by
  rw [chain_cons, Trail.ofChain_concat]

theorem pop_chain (t : OpenTag) (outer : List OpenTag) :
    (Trail.ofChain (chain (t :: outer))).pop = Trail.ofChain (chain outer) := by
  rw [← push_chain]
  rfl

theorem depth_chain (opened : List OpenTag) : (Trail.ofChain (chain opened)).depth = opened.length := by
  rw [Trail.depth_ofChain, length_chain]

theorem named_chain {opened : List OpenTag} {length : Nat} (within : ∀ t ∈ opened, t.Within length) :
    ∀ name ∈ chain opened, name ≠ [] := by
  intro name member
  obtain ⟨t, inside, rfl⟩ := List.mem_map.mp member
  exact (within t (List.mem_reverse.mp inside)).named

section

variable (target : Text)

/-- Whether the innermost of some open elements is one that is wanted. -/
def IsAt (opened : List OpenTag) : Prop := Text.join '.' (chain opened) = target

instance (opened : List OpenTag) : Decidable (IsAt target opened) :=
  inferInstanceAs (Decidable (_ = _))

/-- The outermost wanted one of some open elements, with those around it. -/
def selected? : List OpenTag → Option (OpenTag × List OpenTag)
  | [] => none
  | t :: outer => (selected? outer).or (if IsAt target (t :: outer) then some (t, outer) else none)

/-- The open elements outside the selected one. -/
def outside : List OpenTag → List OpenTag
  | [] => []
  | t :: outer => if (selected? target (t :: outer)).isSome then outside outer else t :: outer

/-- The declarations of the open elements, each in a scope of its own. Those of the selected element and of
the elements inside it are left to its markup. -/
def nested : List OpenTag → List (List Binding)
  | [] => []
  | t :: outer => (if (selected? target (t :: outer)).isSome then [] else t.bindings) :: nested outer

/-- The scopes of open elements. -/
def scopes (opened : List OpenTag) : Scopes := Scopes.ofStack ⟨[], nested target opened⟩

end

variable {target : Text} {t u : OpenTag} {opened outer around : List OpenTag}

theorem selected?_cons_of_some (inside : selected? target outer = some (u, around)) (t : OpenTag) :
    selected? target (t :: outer) = some (u, around) := by
  rw [selected?, inside, Option.some_or]

theorem selected?_cons_of_isAt (idle : selected? target outer = none) (wanted : IsAt target (t :: outer)) :
    selected? target (t :: outer) = some (t, outer) := by
  rw [selected?, idle, Option.none_or, if_pos wanted]

theorem selected?_cons_of_not_isAt (idle : selected? target outer = none)
    (passed : ¬ IsAt target (t :: outer)) : selected? target (t :: outer) = none := by
  rw [selected?, idle, Option.none_or, if_neg passed]

theorem selected?_of_cons_eq_none (idle : selected? target (t :: outer) = none) :
    selected? target outer = none := by
  cases inside : selected? target outer with
  | none => rfl
  | some found =>
    rw [selected?, inside] at idle
    cases idle

theorem isAt_of_selected? (found : selected? target opened = some (t, outer)) :
    t :: outer <:+ opened ∧ IsAt target (t :: outer) := by
  induction opened with
  | nil => cases found
  | cons u around ih =>
    cases inside : selected? target around with
    | some pair =>
      rw [selected?, inside, Option.some_or] at found
      obtain ⟨suffix, wanted⟩ := ih (inside.trans found)
      exact ⟨suffix.trans (List.suffix_cons u around), wanted⟩
    | none =>
      by_cases wanted : IsAt target (u :: around)
      · rw [selected?_cons_of_isAt inside wanted] at found
        cases found
        exact ⟨List.suffix_refl _, wanted⟩
      · rw [selected?_cons_of_not_isAt inside wanted] at found
        cases found

/-- The selected element is the one at the target: no element inside another has the same joined names. -/
theorem selected?_eq_some_iff :
    selected? target opened = some (t, outer) ↔
      t :: outer <:+ opened ∧ IsAt target (t :: outer) := by
  constructor
  · exact isAt_of_selected?
  · rintro ⟨suffix, wanted⟩
    induction opened with
    | nil => simp at suffix
    | cons u around ih =>
      rcases List.suffix_cons_iff.mp suffix with same | further
      · cases same
        cases inside : selected? target outer with
        | none => exact selected?_cons_of_isAt inside wanted
        | some pair =>
          obtain ⟨v, beyond⟩ := pair
          obtain ⟨⟨more, split⟩, also⟩ := isAt_of_selected? inside
          have longer : (Text.join '.' (chain (v :: beyond))).length <
              (Text.join '.' (chain (v :: beyond) ++ chain (t :: more))).length := by
            apply Text.length_join_lt
            · simp [chain]
            · simp [chain]
          rw [← chain_append, List.cons_append, split, wanted, also] at longer
          exact absurd longer (Nat.lt_irrefl _)
      · exact selected?_cons_of_some (ih further) u

theorem length_lt_of_selected? (found : selected? target opened = some (t, outer)) :
    outer.length < opened.length :=
  (isAt_of_selected? found).1.length_le

theorem mem_of_selected? (found : selected? target opened = some (t, outer)) : t ∈ opened :=
  (isAt_of_selected? found).1.mem (by simp)

theorem push_scopes (inside : (selected? target (t :: opened)).isSome) :
    (scopes target opened).push = scopes target (t :: opened) := by
  rw [scopes, Scopes.push_ofStack, scopes, nested, if_pos inside]

theorem declare_scopes (passed : selected? target (t :: opened) = none) :
    (Attribute.declaredIn t.attributes).foldl Scopes.declare (scopes target opened).push =
      scopes target (t :: opened) := by
  rw [scopes, Scopes.push_ofStack, Scopes.foldl_declare_ofStack, scopes, nested, passed,
    if_neg (by simp), List.append_nil, bindings]

theorem pop_scopes : (scopes target (t :: outer)).pop = scopes target outer :=
  Scopes.pop_ofStack [] _ _

theorem outside_of_none (idle : selected? target opened = none) : outside target opened = opened := by
  cases opened with
  | nil => rfl
  | cons t outer => rw [outside, idle, if_neg (by simp)]

@[simp] theorem length_nested (target : Text) (opened : List OpenTag) :
    (nested target opened).length = opened.length := by
  induction opened with
  | nil => rfl
  | cons t outer ih => rw [nested, List.length_cons, List.length_cons, ih]

theorem flatten_nested (target : Text) (opened : List OpenTag) :
    (nested target opened).flatten = (outside target opened).flatMap bindings := by
  induction opened with
  | nil => rfl
  | cons t outer ih =>
    rw [nested, List.flatten_cons, outside, ih]
    cases inside : selected? target (t :: outer) with
    | some found => simp
    | none =>
      rw [outside_of_none (selected?_of_cons_eq_none inside)]
      simp

theorem bindings_scopes (target : Text) (opened : List OpenTag) :
    (scopes target opened).bindings = (outside target opened).flatMap bindings := by
  rw [scopes, Scopes.bindings_ofStack, Scopes.Stack.bindings, List.append_nil, flatten_nested]

end OpenTag

/-- The selection of an open element, with those around it, once the given bytes are read. -/
def Selection.ofOpen (target : Text) (read : Bytes) (found : OpenTag × List OpenTag) : Selection :=
  ⟨read.drop found.1.start, found.2.length + 1, (OpenTag.scopes target found.2).inScope⟩

namespace Selector

open OpenTag

/-- The selector of which the given tags are open once the given bytes are read. -/
def ofOpen (target : Text) (opened : List OpenTag) (read : Bytes) : Selector where
  target := target
  held := (selected? target opened).map (Selection.ofOpen target read)
  trail := Trail.ofChain (chain opened)
  scopes := OpenTag.scopes target opened

variable {target : Text} {t : OpenTag} {opened outer : List OpenTag} {read bytes : Bytes}
  {after : Selector} {found : Option Fragment}

theorem held_ofOpen {pair : OpenTag × List OpenTag} (inside : selected? target opened = some pair)
    (read : Bytes) : (ofOpen target opened read).held = some (Selection.ofOpen target read pair) := by
  rw [ofOpen, inside]
  rfl

theorem idle_ofOpen (idle : selected? target opened = none) (read : Bytes) :
    (ofOpen target opened read).held = none := by
  rw [ofOpen, idle]
  rfl

/-- Bytes that come later are kept with the markup of the selected element. -/
theorem keep_ofOpen (within : ∀ t ∈ opened, t.Within read.length) (bytes : Bytes) :
    (ofOpen target opened read).keep bytes = ofOpen target opened (read ++ bytes) := by
  unfold keep ofOpen
  cases inside : selected? target opened with
  | none => rfl
  | some pair =>
    obtain ⟨t, outer⟩ := pair
    have first := (within t (mem_of_selected? inside)).start_le
    simp [Selection.ofOpen, List.drop_append_of_le_length first]

/-- Inside the selected element nothing is declared. -/
theorem inside_ofOpen {pair : OpenTag × List OpenTag} (within : ∀ u ∈ opened, u.Within read.length)
    (inside : selected? target opened = some pair) (t : OpenTag) (bytes : Bytes) :
    ((ofOpen target opened read).inside t.name).keep bytes =
      ofOpen target (t :: opened) (read ++ bytes) := by
  obtain ⟨u, around⟩ := pair
  have still := selected?_cons_of_some inside t
  have start := (within u (mem_of_selected? inside)).start_le
  have scopes := push_scopes (t := t) (by rw [still]; rfl)
  simp [Selector.inside, keep, ofOpen, inside, still, push_chain, scopes, Selection.ofOpen,
    List.drop_append_of_le_length start]

/-- The selected element is kept from the first byte of its tag on. -/
theorem selecting_ofOpen (idle : selected? target opened = none) (wanted : IsAt target (t :: opened))
    (start : t.start = read.length) (bytes : Bytes) :
    ((ofOpen target opened read).selecting t.name).keep bytes =
      ofOpen target (t :: opened) (read ++ bytes) := by
  have here := selected?_cons_of_isAt idle wanted
  have scopes := push_scopes (t := t) (by rw [here]; rfl)
  simp [selecting, Selector.inside, keep, ofOpen, here, push_chain, scopes, Selection.ofOpen, start,
    depth_chain]

/-- An element outside the selected one declares what its tag does. -/
theorem passing_ofOpen (idle : selected? target opened = none) (passed : ¬ IsAt target (t :: opened))
    (read bytes : Bytes) :
    ({ (ofOpen target opened read).inside t.name with
        scopes := (Attribute.declaredIn t.attributes).foldl Scopes.declare
          (OpenTag.scopes target opened).push } : Selector).keep bytes =
      ofOpen target (t :: opened) (read ++ bytes) := by
  have beyond := selected?_cons_of_not_isAt idle passed
  rw [declare_scopes beyond]
  simp [Selector.inside, keep, ofOpen, idle, beyond, push_chain]

/-- An element is entered with the first byte of its tag. -/
theorem enter_ofOpen (within : ∀ u ∈ opened, u.Within read.length) (named : t.name ≠ [])
    (start : t.start = read.length)
    (entered : (ofOpen target opened read).enter t.name t.attributes = .ok after) (bytes : Bytes) :
    after.keep bytes = ofOpen target (t :: opened) (read ++ bytes) := by
  have reached : ((ofOpen target opened read).trail.push t.name).isAt target =
      (Text.join '.' (chain (t :: opened)) == target) := by
    rw [ofOpen, push_chain]
    apply Trail.isAt_ofChain
    apply @named_chain _ read.length
    intro u member
    rcases List.mem_cons.mp member with rfl | outer
    · exact ⟨named, Nat.le_of_eq start⟩
    · exact within u outer
  cases inside : selected? target opened with
  | some pair =>
    rw [enter_held (held_ofOpen inside read)] at entered
    cases entered
    exact inside_ofOpen within inside t bytes
  | none =>
    have idle := idle_ofOpen inside read
    by_cases wanted : IsAt target (t :: opened)
    · have here := reached.trans (beq_iff_eq.mpr wanted)
      rw [enter_wanted idle here] at entered
      cases entered
      exact selecting_ofOpen inside wanted start bytes
    · have elsewhere := reached.trans (beq_eq_false_iff_ne.mpr wanted)
      have same : (ofOpen target opened read).target = target := rfl
      simp only [enter, idle, same, elsewhere, Option.isSome_none, Bool.false_eq_true, if_false]
        at entered
      split at entered
      · cases entered
      · rename_i declared
        cases entered
        rw [Streamer.declarations_eq_declaredIn declared, ← passing_ofOpen inside wanted read bytes]
        rw [Selector.inside, ← idle]
        rfl

/-- Leaving an element that is not the selected one. -/
theorem leave_ofOpen (same : selected? target (t :: outer) = selected? target outer) (read : Bytes) :
    (ofOpen target (t :: outer) read).leave = ofOpen target outer read := by
  simp [leave, ofOpen, same, pop_chain, pop_scopes]

/-- The innermost element is closed with the last byte of its end tag. A fragment is its markup, and comes
where it is the selected element. -/
theorem close_ofOpen (closed : (ofOpen target (t :: outer) read).close = .ok (found, after)) :
    after = ofOpen target outer read ∧
      ∀ f, found = some f → IsAt target (t :: outer) ∧ Utf8.encode f.markup = read.drop t.start := by
  have depth : (ofOpen target (t :: outer) read).trail.depth = outer.length + 1 :=
    depth_chain (t :: outer)
  cases inside : selected? target outer with
  | some pair =>
    obtain ⟨u, around⟩ := pair
    have still := selected?_cons_of_some inside t
    have fewer := length_lt_of_selected? inside
    have deeper : (Selection.ofOpen target read (u, around)).depth <
        (ofOpen target (t :: outer) read).trail.depth := by
      rw [depth, Selection.ofOpen]
      dsimp only
      omega
    rw [close_deeper (held_ofOpen still read) deeper] at closed
    cases closed
    exact ⟨leave_ofOpen (still.trans inside.symm) read, fun f same => by cases same⟩
  | none =>
    by_cases wanted : IsAt target (t :: outer)
    · have held := held_ofOpen (selected?_cons_of_isAt inside wanted) read
      unfold close at closed
      rw [held] at closed
      simp only [Selection.ofOpen, depth, BEq.rfl, if_true] at closed
      split at closed
      · rename_i markup decoded
        cases closed
        constructor
        · simp [leave, ofOpen, inside, pop_chain, pop_scopes]
        · intro f same
          cases same
          exact ⟨wanted, (Utf8.encode_of_decode? decoded).symm⟩
      · cases closed
    · have passed := selected?_cons_of_not_isAt inside wanted
      rw [close_idle (idle_ofOpen passed read)] at closed
      cases closed
      exact ⟨leave_ofOpen (passed.trans inside.symm) read, fun f same => by cases same⟩

theorem last?_ofOpen (target : Text) (opened : List OpenTag) (read : Bytes) :
    (ofOpen target opened read).trail.last? = opened.head?.map (·.name) := by
  cases opened with
  | nil => rfl
  | cons t outer =>
    rw [ofOpen, chain_cons, Trail.ofChain_concat]
    rfl

/-- The name of a tag that opens an element is not empty. -/
theorem name_ne_nil_of_scan {markup name raw : Bytes} {token : Token} {width : Nat}
    (scanned : scan markup = .token token width)
    (tag : token = .startTag name raw ∨ token = .emptyTag name raw) {text : Text}
    (decoded : Utf8.decode? name = some text) : text ≠ [] := by
  have shaped := Scan.shaped_scan markup
  rw [scanned] at shaped
  have named : Bytes.name? name = some name := by
    rcases tag with rfl | rfl
    · exact shaped.1
    · exact shaped.1
  rintro rfl
  exact Scan.name?_ne_nil named (Utf8.encode_of_decode? decoded)

/-- A token takes the selector of some open tags to the selector of those that are open after it. A fragment
is the markup of the wanted element that the token closes. -/
theorem take_ofOpen {markup : Bytes} {token : Token} {width : Nat}
    (within : ∀ t ∈ opened, t.Within read.length) (scanned : scan markup = .token token width)
    (taken : (ofOpen target opened read).take token bytes = .ok (found, after)) :
    let x : Lexeme := ⟨token, read.length, read.length + bytes.length⟩
    ∃ later, Lexeme.openAfter? (opened.map OpenTag.lexeme) x = some (later.map OpenTag.lexeme) ∧
      (∀ t ∈ later, t.Within (read ++ bytes).length) ∧ after = ofOpen target later (read ++ bytes) ∧
      ∀ f, found = some f → ∃ t outer, ClosedBy t outer x opened ∧ IsAt target (t :: outer) ∧
        Utf8.encode f.markup = (read ++ bytes).drop t.start := by
  intro x
  have longer : read.length ≤ (read ++ bytes).length := by simp
  have further : ∀ t ∈ opened, t.Within (read ++ bytes).length :=
    fun t member => (within t member).mono longer
  cases take_eq_ok_iff.mp taken with
  | @startTag name raw text inside decoded entered =>
    have named := name_ne_nil_of_scan scanned (.inl rfl) decoded
    obtain rfl := Utf8.encode_of_decode? decoded
    let t : OpenTag := ⟨text, raw, read.length, read.length + bytes.length⟩
    refine ⟨t :: opened, rfl, ?_, enter_ofOpen within named rfl entered bytes, fun f same => by cases same⟩
    intro u member
    rcases List.mem_cons.mp member with rfl | outer
    · exact ⟨named, longer⟩
    · exact further u outer
  | @emptyTag name raw text inside after found decoded entered closed =>
    have named := name_ne_nil_of_scan scanned (.inr rfl) decoded
    obtain rfl := Utf8.encode_of_decode? decoded
    let t : OpenTag := ⟨text, raw, read.length, read.length + bytes.length⟩
    rw [enter_ofOpen (t := t) within named rfl entered bytes] at closed
    obtain ⟨same, fragment⟩ := close_ofOpen closed
    exact ⟨opened, rfl, further, same, fun f one => ⟨t, opened, .emptyTag rfl rfl, fragment f one⟩⟩
  | @endTag name text after found decoded innermost closed =>
    rw [last?_ofOpen] at innermost
    obtain ⟨t, outer, rfl, rfl⟩ : ∃ t outer, opened = t :: outer ∧ t.name = text := by
      cases opened with
      | nil => cases innermost
      | cons t outer => exact ⟨t, outer, rfl, Option.some.inj innermost⟩
    obtain rfl := Utf8.encode_of_decode? decoded
    rw [keep_ofOpen within] at closed
    obtain ⟨same, fragment⟩ := close_ofOpen closed
    refine ⟨outer, if_pos rfl, fun u member => further u (by simp [member]), same, ?_⟩
    exact fun f one => ⟨t, outer, .endTag rfl, fragment f one⟩
  | other plain =>
    have still : Lexeme.openAfter? (opened.map OpenTag.lexeme) x = some (opened.map OpenTag.lexeme) := by
      cases token with
      | startTag | emptyTag | endTag => cases plain
      | _ => rfl
    exact ⟨opened, still, further, keep_ofOpen within bytes, fun f same => by cases same⟩

end Selector

end MarkupQuery
