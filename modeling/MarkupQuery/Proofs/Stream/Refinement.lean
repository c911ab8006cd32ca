import MarkupQuery.Proofs.Document.Building
import MarkupQuery.Proofs.Stream.Declarations
import MarkupQuery.Proofs.Stream.Feeding
import MarkupQuery.Proofs.Stream.Trail
import Mathlib.Data.List.Forall2

/-!
Streaming a document hands out the elements that loading it finds. A selector is run on well-nested
events, first inside the element that it has selected, then outside, where it works out the same
bindings as the tree. Main statement: a document that is streamed in pieces gives the wanted
elements, each with its own markup and its own tree (`Streamer.streamed_document`).
-/
namespace MarkupQuery

namespace Selector

/-- Goes into an element without declaring anything. -/
def inside (m : Selector) (name : Text) : Selector :=
  { m with trail := m.trail.push name, scopes := m.scopes.push }

theorem held_keep {m : Selector} {h : Selection} (held : m.held = some h) (bytes : Bytes) :
    (m.keep bytes).held = some { h with markup := h.markup ++ bytes } := by
  rw [keep, held]
  rfl

theorem leave_keep_inside (m : Selector) (name : Text) (bytes : Bytes) :
    ((m.inside name).keep bytes).leave = m.keep bytes := by
  have same : ((m.inside name).keep bytes).leave =
      { m.keep bytes with scopes := m.scopes.push.pop } := rfl
  rw [same, Scopes.pop_push]
  rfl

theorem drain_step {complete : Bool} {m after : Selector} {markup : Bytes} {token : Token}
    {width : Nat} (found : scan markup = .token token width)
    (taken : m.take token (markup.take width) = .ok (none, after)) :
    m.drain complete markup = after.drain complete (markup.drop width) := by
  rw [drain_eq complete m, drain_eq complete after, next, next, run_step found taken]

theorem drain_found {complete : Bool} {m after : Selector} {markup : Bytes} {token : Token}
    {width : Nat} {fragment : Fragment} (found : scan markup = .token token width)
    (taken : m.take token (markup.take width) = .ok (some fragment, after)) :
    m.drain complete markup = (fragment :: (after.drain complete (markup.drop width)).1,
      (after.drain complete (markup.drop width)).2) :=
  drain_of_run (run_found found taken)

/-- Tokens that are no tags are kept. -/
theorem take_kept {token : Token} {event : Event} (made : Event.Of token event)
    (other : event.shapes = false ∨ ∃ text, event = .text text ∨ event = .cdata text)
    (m : Selector) (bytes : Bytes) : m.take token bytes = .ok (none, m.keep bytes) := by
  cases event with
  | start tag => simp [Event.shapes] at other
  | empty tag => simp [Event.shapes] at other
  | stop name => simp [Event.shapes] at other
  | instruction target data =>
    obtain ⟨_, _, rfl⟩ := made
    rfl
  | declaration version encoding standalone =>
    obtain ⟨_, _, rfl⟩ := made
    rfl
  | _ =>
    obtain ⟨_, rfl⟩ := made
    rfl

theorem take_start {token : Token} {tag : Tag} (made : Event.Of token (.start tag))
    {m after : Selector} (entered : ∀ name raw, Event.tag name raw = .ok tag →
      m.enter tag.name raw = .ok after) (bytes : Bytes) :
    m.take token bytes = .ok (none, after.keep bytes) := by
  obtain ⟨name, raw, rfl, read⟩ := made
  exact take_eq_ok_iff.mpr (.startTag (Event.tag_eq_ok_iff.mp read).1 (entered name raw read))

theorem take_empty {token : Token} {tag : Tag} (made : Event.Of token (.empty tag))
    {m inside after : Selector} (entered : ∀ name raw, Event.tag name raw = .ok tag →
      m.enter tag.name raw = .ok inside) {bytes : Bytes} {found : Option Fragment}
    (closed : (inside.keep bytes).close = .ok (found, after)) :
    m.take token bytes = .ok (found, after) := by
  obtain ⟨name, raw, rfl, read⟩ := made
  exact take_eq_ok_iff.mpr (.emptyTag (Event.tag_eq_ok_iff.mp read).1 (entered name raw read) closed)

theorem take_stop {token : Token} {name : Text} (made : Event.Of token (.stop name))
    {m after : Selector} (innermost : m.trail.last? = some name) {bytes : Bytes} {found : Option Fragment}
    (closed : (m.keep bytes).close = .ok (found, after)) : m.take token bytes = .ok (found, after) := by
  obtain ⟨raw, rfl, decoded⟩ := made
  exact take_eq_ok_iff.mpr (.endTag decoded innermost closed)

theorem enter_held {m : Selector} {h : Selection} (held : m.held = some h) (name : Text)
    (raw : Bytes) : m.enter name raw = .ok (m.inside name) := by
  rw [enter, if_pos (by rw [held]; rfl)]
  rfl

/-- Goes into the wanted element. -/
def selecting (m : Selector) (name : Text) : Selector :=
  { m.inside name with held := some ⟨[], m.trail.depth + 1, m.scopes.inScope⟩ }

/-- Goes into an element that is not wanted. -/
def passing (m : Selector) (tag : Tag) : Selector :=
  { m.inside tag.name with scopes := tag.bindings.foldl Scopes.declare m.scopes.push }

theorem enter_wanted {m : Selector} (idle : m.held = none) {name : Text}
    (wanted : (m.trail.push name).isAt m.target = true) (raw : Bytes) :
    m.enter name raw = .ok (m.selecting name) := by
  simp only [enter, idle, Option.isSome_none, Bool.false_eq_true, if_false, wanted, if_true]
  rfl

theorem enter_passed {m : Selector} (idle : m.held = none) {tag : Tag}
    (passed : (m.trail.push tag.name).isAt m.target = false) {name raw : Bytes}
    (read : Event.tag name raw = .ok tag) : m.enter tag.name raw = .ok (m.passing tag) := by
  simp only [enter, passing, inside, idle, Option.isSome_none, Bool.false_eq_true, if_false,
    passed, Streamer.declarations_eq read]

theorem keep_idle {m : Selector} (idle : m.held = none) (bytes : Bytes) : m.keep bytes = m := by
  obtain ⟨target, held, trail, scopes⟩ := m
  cases idle
  rfl

theorem leave_passing (m : Selector) (tag : Tag) : (m.passing tag).leave = m := by
  have scopes : (tag.bindings.foldl Scopes.declare m.scopes.push).pop = m.scopes :=
    Scopes.pop_foldl_declare m.scopes tag.bindings
  rw [leave, passing]
  dsimp only
  rw [scopes]
  rfl

theorem close_idle {m : Selector} (idle : m.held = none) : m.close = .ok (none, m.leave) := by
  rw [close, idle]

theorem close_deeper {m : Selector} {h : Selection} (held : m.held = some h)
    (deeper : h.depth < m.trail.depth) : m.close = .ok (none, m.leave) := by
  have other : (h.depth == m.trail.depth) = false := by
    rw [beq_eq_false_iff_ne]
    omega
  rw [close, held]
  dsimp only
  rw [other]
  rfl

theorem close_selected {m : Selector} {h : Selection} (held : m.held = some h)
    (same : h.depth = m.trail.depth) {markup : Text}
    (decoded : Utf8.decode? h.markup = some markup) :
    m.close = .ok (some ⟨markup, h.inherited⟩, { m with held := none }.leave) := by
  rw [close, held]
  dsimp only
  rw [if_pos (beq_iff_eq.mpr same), decoded]

/-- The wanted element is closed with all of its markup kept. -/
theorem close_selecting {m : Selector} (idle : m.held = none) (name : Text) {bytes : Bytes}
    {markup : Text} (encoded : Utf8.encode markup = bytes) :
    ((m.selecting name).keep bytes).close = .ok (some ⟨markup, m.scopes.inScope⟩, m) := by
  have held : (m.selecting name).held = some ⟨[], m.trail.depth + 1, m.scopes.inScope⟩ := rfl
  rw [close_selected (held_keep held bytes) rfl (Utf8.decode?_eq_some_iff.mpr encoded.symm)]
  have same : ({ (m.selecting name).keep bytes with held := none } : Selector).leave =
      { m with held := none, scopes := m.scopes.push.pop } := rfl
  rw [same, Scopes.pop_push, ← idle]

section

variable {whole : Bytes} {items : List Item} {content : Content} {p q : Nat}

theorem drain_next {complete : Bool} {m after : Selector} {lexeme : Lexeme}
    {lexemes : List Lexeme} (lexes : Lexes whole p (lexeme :: lexemes) q)
    (taken : m.take lexeme.token (whole.between p lexeme.stop) = .ok (none, after)) :
    m.drain complete (whole.drop p) = after.drain complete (whole.drop lexeme.stop) := by
  obtain ⟨width, found, _, stop, _⟩ := lexes.uncons
  rw [stop, ← Bytes.take_drop_eq_between] at taken
  rw [drain_step found taken, List.drop_drop, stop]

theorem drain_last {complete : Bool} {m after : Selector} {lexeme : Lexeme}
    {lexemes : List Lexeme} {fragment : Fragment} (lexes : Lexes whole p (lexeme :: lexemes) q)
    (taken : m.take lexeme.token (whole.between p lexeme.stop) = .ok (some fragment, after)) :
    m.drain complete (whole.drop p) =
      (fragment :: (after.drain complete (whole.drop lexeme.stop)).1,
        (after.drain complete (whole.drop lexeme.stop)).2) := by
  obtain ⟨width, found, _, stop, _⟩ := lexes.uncons
  rw [stop, ← Bytes.take_drop_eq_between] at taken
  rw [drain_found found taken, List.drop_drop, stop]

theorem drain_kept {complete : Bool} (m : Selector) {x : Item} {lexemes : List Lexeme}
    (lexes : Lexes whole p (x.lexeme :: lexemes) q)
    (decoded : Event.ofLexeme x.lexeme = .ok x.event)
    (other : x.event.shapes = false ∨ ∃ text, x.event = .text text ∨ x.event = .cdata text) :
    m.drain complete (whole.drop p) =
      (m.keep (whole.between p x.lexeme.stop)).drain complete (whole.drop x.lexeme.stop) :=
  drain_next lexes (take_kept (Event.of_ofLexeme decoded) other m _)

/-- Well-nested events inside the selected element add their markup to it. -/
theorem drain_held (nests : Nests items content) (lexes : Lexes whole p (items.map (·.lexeme)) q)
    (decoded : ∀ x ∈ items, Event.ofLexeme x.lexeme = .ok x.event) {m : Selector} {h : Selection}
    (held : m.held = some h) (deep : h.depth ≤ m.trail.depth) :
    m.drain true (whole.drop p) =
      (m.keep (whole.between p q)).drain true (whole.drop q) := by
  induction nests generalizing p q m h with
  | nil =>
    cases lexes
    rw [Bytes.between_self, keep_nil]
  | @skip x items rest plain _ ih =>
    obtain ⟨width, _, _, stop, after⟩ := lexes.uncons
    rw [drain_kept m lexes (decoded x (by simp)) (.inl plain),
      ih after (fun y member => decoded y (by simp [member])) (held_keep held _) deep,
      ← keep_append, Bytes.between_append _ (by omega) after.le]
  | @data x text items rest character _ ih =>
    obtain ⟨width, _, _, stop, after⟩ := lexes.uncons
    rw [drain_kept m lexes (decoded x (by simp)) (.inr ⟨text, character⟩),
      ih after (fun y member => decoded y (by simp [member])) (held_keep held _) deep,
      ← keep_append, Bytes.between_append _ (by omega) after.le]
  | @empty x tag items rest single _ ih =>
    obtain ⟨width, _, _, stop, after⟩ := lexes.uncons
    have made := Event.of_ofLexeme (decoded x (by simp))
    rw [single] at made
    have taken : m.take x.lexeme.token (whole.between p x.lexeme.stop) =
        .ok (none, m.keep (whole.between p x.lexeme.stop)) := by
      apply take_empty made (fun _ raw _ => enter_held held tag.name raw)
      rw [close_deeper (held_keep (m := m.inside tag.name) held _) (Nat.lt_succ_of_le deep),
        leave_keep_inside]
    rw [drain_next lexes taken,
      ih after (fun y member => decoded y (by simp [member])) (held_keep held _) deep,
      ← keep_append, Bytes.between_append _ (by omega) after.le]
  | @element x y tag within items inner rest opening _ closing _ inside ih =>
    rw [List.cons_append, List.map_cons, List.map_append, List.map_cons] at lexes
    obtain ⟨width, _, _, stop, more⟩ := lexes.uncons
    obtain ⟨r, middle, ending⟩ := more.split
    obtain ⟨size, _, _, last, after⟩ := ending.uncons
    have started := Event.of_ofLexeme (decoded x (by simp))
    have stopped := Event.of_ofLexeme (decoded y (by simp))
    rw [opening] at started
    rw [closing] at stopped
    have entered : (m.inside tag.name).held = some h := held
    have taken := take_start started (fun _ raw _ => enter_held held tag.name raw)
      (whole.between p x.lexeme.stop)
    rw [drain_next lexes taken, inside middle (fun z member => decoded z (by simp [member]))
      (held_keep entered _) (Nat.le_succ_of_le deep), ← keep_append,
      Bytes.between_append _ (by omega) middle.le]
    have left : ((m.inside tag.name).keep (whole.between p r)).take y.lexeme.token
        (whole.between r y.lexeme.stop) = .ok (none, m.keep (whole.between p y.lexeme.stop)) := by
      apply take_stop stopped rfl
      rw [← keep_append,
        Bytes.between_append _ (by have := middle.le; omega) (by omega),
        close_deeper (held_keep entered _) (Nat.lt_succ_of_le deep), leave_keep_inside]
    rw [drain_next ending left, ih after (fun z member => decoded z (by simp [member]))
      (held_keep held _) deep, ← keep_append,
      Bytes.between_append _ (by have := middle.le; omega) after.le]

/-- The bytes of an element are text, like all of the markup. -/
theorem exists_markup {text : Text} (encoded : whole = Utf8.encode text) (le : p ≤ q)
    (head : (whole.drop p).head? = some 0x3c) {inner : Bytes}
    (last : whole.between p q = inner ++ [0x3e]) :
    ∃ markup, Utf8.encode markup = whole.between p q := by
  obtain ⟨others, tail⟩ : ∃ others, whole.drop p = 0x3c :: others := by
    cases bytes : whole.drop p with
    | nil =>
      rw [bytes] at head
      cases head
    | cons b others =>
      rw [bytes] at head
      cases head
      exact ⟨others, rfl⟩
  have cut : Utf8.encode text = whole.take p ++ 0x3c :: others := by
    rw [← tail, List.take_append_drop, encoded]
  obtain ⟨before, after, _, _, rest⟩ := Utf8.split_before_ascii (by decide) cut
  have pieces : Utf8.encode after = inner ++ 0x3e :: whole.drop q := by
    rw [← rest, ← tail, ← Bytes.between_append_drop whole le, last, List.append_assoc]
    rfl
  obtain ⟨markup, _, _, first, _⟩ := Utf8.split_after_ascii (by decide) pieces
  exact ⟨markup, by rw [last, first]⟩

theorem opening_markup {x : Item} {lexemes : List Lexeme}
    (lexes : Lexes whole p (x.lexeme :: lexemes) q)
    (decoded : Event.ofLexeme x.lexeme = .ok x.event) {tag : Tag}
    (opening : x.event = .start tag ∨ x.event = .empty tag) :
    (whole.drop p).head? = some 0x3c ∧ tag.name ≠ [] := by
  obtain ⟨width, found, _, _, _⟩ := lexes.uncons
  have shaped := Scan.shaped_scan (whole.drop p)
  obtain ⟨name, raw, token, read⟩ := (Event.of_ofLexeme decoded).tag_parts opening
  have written : name ≠ [] := by
    rcases token with token | token
    · rw [found, token] at shaped
      exact Scan.name?_ne_nil shaped.1
    · rw [found, token] at shaped
      exact Scan.name?_ne_nil shaped.1
  refine ⟨Scan.head?_of_token found ?_, ?_⟩
  · intro content same
    rcases token with token | token <;> rw [token] at same <;> cases same
  · intro empty
    have encoded := Utf8.encode_of_decode? (Event.tag_eq_ok_iff.mp read).1
    rw [empty] at encoded
    exact written encoded

theorem closing_markup {x : Item} {lexemes : List Lexeme}
    (lexes : Lexes whole p (x.lexeme :: lexemes) q)
    (decoded : Event.ofLexeme x.lexeme = .ok x.event)
    (closing : (∃ tag, x.event = .empty tag) ∨ ∃ name, x.event = .stop name) :
    ∃ inner, whole.between p x.lexeme.stop = inner ++ [0x3e] := by
  obtain ⟨width, found, _, stop, _⟩ := lexes.uncons
  have shaped := Scan.shaped_scan (whole.drop p)
  have made := Event.of_ofLexeme decoded
  rw [stop, ← Bytes.take_drop_eq_between]
  rcases closing with ⟨tag, same⟩ | ⟨name, same⟩
  · rw [same] at made
    obtain ⟨name, raw, token, _⟩ := made
    rw [found, token] at shaped
    exact shaped.2
  · rw [same] at made
    obtain ⟨raw, token, _⟩ := made
    rw [found, token] at shaped
    exact shaped

/-- A selected element that is one tag. -/
theorem drain_selected_empty {text : Text} (encoded : whole = Utf8.encode text) {x : Item}
    {lexemes : List Lexeme} (lexes : Lexes whole p (x.lexeme :: lexemes) q)
    (decoded : Event.ofLexeme x.lexeme = .ok x.event) {tag : Tag} (single : x.event = .empty tag)
    {m : Selector} (idle : m.held = none) (wanted : (m.trail.push tag.name).isAt m.target = true) :
    ∃ markup, Utf8.encode markup = whole.between p x.lexeme.stop ∧
      m.drain true (whole.drop p) =
        (⟨markup, m.scopes.inScope⟩ :: (m.drain true (whole.drop x.lexeme.stop)).1,
          (m.drain true (whole.drop x.lexeme.stop)).2) := by
  have made := Event.of_ofLexeme decoded
  rw [single] at made
  obtain ⟨width, _, _, stop, _⟩ := lexes.uncons
  obtain ⟨inner, last⟩ := closing_markup lexes decoded (.inl ⟨tag, single⟩)
  obtain ⟨markup, bytes⟩ := exists_markup encoded (by omega)
    (opening_markup lexes decoded (.inr single)).1 last
  have taken : m.take x.lexeme.token (whole.between p x.lexeme.stop) =
      .ok (some ⟨markup, m.scopes.inScope⟩, m) := by
    exact take_empty made (fun _ raw _ => enter_wanted idle wanted raw) (close_selecting idle _ bytes)
  exact ⟨markup, bytes, drain_last lexes taken⟩

/-- A selected element with a start tag and an end tag. -/
theorem drain_selected_element {text : Text} (encoded : whole = Utf8.encode text) {x y : Item}
    {within : List Item} {lexemes : List Lexeme}
    (lexes : Lexes whole p (x.lexeme :: (within.map (·.lexeme) ++ y.lexeme :: lexemes)) q)
    (started : Event.ofLexeme x.lexeme = .ok x.event)
    (decoded : ∀ z ∈ within, Event.ofLexeme z.lexeme = .ok z.event)
    (stopped : Event.ofLexeme y.lexeme = .ok y.event) {tag : Tag}
    (opening : x.event = .start tag) (nests : Nests within content)
    (closing : y.event = .stop tag.name) {m : Selector} (idle : m.held = none)
    (wanted : (m.trail.push tag.name).isAt m.target = true) :
    ∃ markup, Utf8.encode markup = whole.between p y.lexeme.stop ∧
      m.drain true (whole.drop p) =
        (⟨markup, m.scopes.inScope⟩ :: (m.drain true (whole.drop y.lexeme.stop)).1,
          (m.drain true (whole.drop y.lexeme.stop)).2) := by
  have first := Event.of_ofLexeme started
  have final := Event.of_ofLexeme stopped
  rw [opening] at first
  rw [closing] at final
  obtain ⟨width, _, _, start, more⟩ := lexes.uncons
  obtain ⟨r, middle, ending⟩ := more.split
  obtain ⟨size, _, _, stop, _⟩ := ending.uncons
  have le : p ≤ r := by have := middle.le; omega
  obtain ⟨inner, last⟩ := closing_markup ending stopped (.inr ⟨_, closing⟩)
  have bytes : whole.between p y.lexeme.stop = (whole.between p r ++ inner) ++ [0x3e] := by
    rw [List.append_assoc, ← last, Bytes.between_append _ le (by omega)]
  obtain ⟨markup, written⟩ := exists_markup encoded (by omega)
    (opening_markup lexes started (.inl opening)).1 bytes
  have selected : (m.selecting tag.name).held =
      some ⟨[], m.trail.depth + 1, m.scopes.inScope⟩ := rfl
  have entered : m.drain true (whole.drop p) = _ := drain_next lexes
    (take_start first (fun _ raw _ => enter_wanted idle wanted raw) _)
  have inside := drain_held nests middle decoded
    (held_keep selected (whole.between p x.lexeme.stop)) (Nat.le_refl _)
  have taken : (((m.selecting tag.name).keep (whole.between p x.lexeme.stop)).keep
      (whole.between x.lexeme.stop r)).take y.lexeme.token (whole.between r y.lexeme.stop) =
        .ok (some ⟨markup, m.scopes.inScope⟩, m) := by
    apply take_stop final rfl
    rw [← keep_append, ← keep_append,
      Bytes.between_append _ middle.le (by omega),
      Bytes.between_append _ (by omega) (by have := middle.le; omega),
      close_selecting idle _ written]
  refine ⟨markup, written, ?_⟩
  rw [entered, inside]
  exact drain_last ending taken

end

end Selector

/-- A fragment is the markup of an element and is loaded as its tree. -/
structure Fragment.Shows (whole : Bytes) (f : Fragment) (o : Occurrence) : Prop where
  markup : Utf8.encode f.markup = whole.between o.start o.stop
  tree : ∀ source, f.load source = .ok o.node

/-- Markup that starts with `<` has no byte order mark at its head. -/
theorem Node.withoutMark_of_angle {markup : Text} (angle : (Utf8.encode markup).head? = some 0x3c) :
    withoutMark markup = markup := by
  obtain ⟨rest, rfl⟩ := List.head?_eq_some_iff.mp (Utf8.head?_encode (c := '<') (by decide) angle)
  rfl

/-- What is cut out around one element is loaded as the tree of that element. -/
theorem Fragment.shows_of_nests {whole : Bytes} {items : List Item} {tag : Tag} {inner : Content}
    {start stop p q : Nat} (nests : Nests items (.element tag start stop inner .nil))
    (lexes : Lexes whole p (items.map (·.lexeme)) q)
    (decoded : ∀ x ∈ items, Event.ofLexeme x.lexeme = .ok x.event)
    (head : (whole.drop p).head? = some 0x3c) (wide : p < q) {around : List Binding}
    (proper : Namespace.Proper around) {markup : Text}
    (encoded : Utf8.encode markup = whole.between p q) (chain : List Text) :
    Fragment.Shows whole ⟨markup, around⟩ ⟨chain, tag.toNode around inner, p, q⟩ where
  markup := encoded
  tree source := by
    have angle : (Utf8.encode markup).head? = some 0x3c := by
      rw [encoded, Bytes.between, List.drop_take, List.head?_take, if_neg (by omega), head]
    have read := Event.ofText_between lexes decoded encoded
    rw [← Node.withoutMark_of_angle angle] at read
    have parsed := Node.parse_of_nests proper read nests (by simp [Content.texts]) rfl
    rw [Fragment.load, Node.load, parsed]
    rfl

namespace Selector

section

variable {above : List Text} {around : List Binding} {target : Text}

/-- The elements inside one that is wanted are not wanted. -/
theorem filter_inside {inner : Content} {chain : List Text}
    (nonempty : chain ≠ []) (wanted : Text.join '.' chain = target) :
    (inner.occurrences chain around).filter (fun o => Text.join '.' o.chain == target) = [] := by
  rw [List.filter_eq_nil_iff]
  intro o member same
  obtain ⟨more, further, longer⟩ := Content.chain_of_mem member
  have lengths := Text.length_join_lt '.' nonempty further
  rw [← longer, beq_iff_eq.mp same, wanted] at lengths
  exact Nat.lt_irrefl _ lengths

theorem filter_wanted {tag : Tag} {start stop : Nat} {inner : Content}
    (wanted : (Text.join '.' (above ++ [tag.name]) == target) = true) :
    ((Content.element tag start stop inner .nil).occurrences above around).filter
        (fun o => Text.join '.' o.chain == target) =
      [⟨above ++ [tag.name], tag.toNode around inner, start, stop⟩] := by
  rw [Content.occurrences, List.filter_cons_of_pos (by exact wanted), List.filter_append,
    filter_inside (by simp) (beq_iff_eq.mp wanted), List.nil_append]
  rfl

theorem filter_passed {tag : Tag} {start stop : Nat} {inner : Content}
    (passed : (Text.join '.' (above ++ [tag.name]) == target) = false) :
    ((Content.element tag start stop inner .nil).occurrences above around).filter
        (fun o => Text.join '.' o.chain == target) =
      (inner.occurrences (above ++ [tag.name]) (tag.scope around)).filter
          (fun o => Text.join '.' o.chain == target) := by
  rw [Content.occurrences, List.filter_cons_of_neg (by simpa using passed), Content.occurrences,
    List.append_nil]

end

/-- Where a selector stands that has selected nothing: the chain of names of the open elements and
the bindings in force. -/
structure Stands (m : Selector) (above : List Text) (around : List Binding) : Prop where
  idle : m.held = none
  trail : m.trail = Trail.ofChain above
  inScope : m.scopes.inScope = around
  named : ∀ name ∈ above, name ≠ []
  proper : Namespace.Proper around

section

variable {m : Selector} {above : List Text} {around : List Binding}

theorem Stands.named_concat (stands : m.Stands above around) {name : Text}
    (nonempty : name ≠ []) : ∀ n ∈ above ++ [name], n ≠ [] := by
  intro n member
  rcases List.mem_append.mp member with before | last
  · exact stands.named n before
  · rw [List.mem_singleton.mp last]
    exact nonempty

theorem Stands.isAt (stands : m.Stands above around) {name : Text} (nonempty : name ≠ []) :
    (m.trail.push name).isAt m.target = (Text.join '.' (above ++ [name]) == m.target) := by
  rw [stands.trail, ← Trail.ofChain_concat, Trail.isAt_ofChain (stands.named_concat nonempty)]

theorem Stands.passing (stands : m.Stands above around) {tag : Tag} (nonempty : tag.name ≠ []) :
    (m.passing tag).Stands (above ++ [tag.name]) (tag.scope around) where
  idle := stands.idle
  trail := by
    rw [Trail.ofChain_concat, ← stands.trail]
    rfl
  inScope := by
    rw [Selector.passing, Scopes.inScope_foldl_declare, Scopes.inScope_push, stands.inScope]
    rfl
  named := stands.named_concat nonempty
  proper := tag.proper_scope stands.proper

end

section

variable {whole : Bytes} {p q : Nat} {complete : Bool} {m : Selector} {tag : Tag} {x : Item}
  {lexemes : List Lexeme}

theorem drain_passed_start (lexes : Lexes whole p (x.lexeme :: lexemes) q)
    (decoded : Event.ofLexeme x.lexeme = .ok x.event) (opening : x.event = .start tag)
    (idle : m.held = none) (passed : (m.trail.push tag.name).isAt m.target = false) :
    m.drain complete (whole.drop p) =
      (m.passing tag).drain complete (whole.drop x.lexeme.stop) := by
  have made := Event.of_ofLexeme decoded
  rw [opening] at made
  have taken := take_start made (fun _ _ read => enter_passed idle passed read)
    (whole.between p x.lexeme.stop)
  rw [keep_idle (m := m.passing tag) idle] at taken
  exact drain_next lexes taken

theorem drain_passed_stop (lexes : Lexes whole p (x.lexeme :: lexemes) q)
    (decoded : Event.ofLexeme x.lexeme = .ok x.event) (closing : x.event = .stop tag.name)
    (idle : m.held = none) :
    (m.passing tag).drain complete (whole.drop p) =
      m.drain complete (whole.drop x.lexeme.stop) := by
  have made := Event.of_ofLexeme decoded
  rw [closing] at made
  have innermost : (m.passing tag).trail.last? = some tag.name := rfl
  apply drain_next lexes
  apply take_stop made innermost
  rw [keep_idle (m := m.passing tag) idle, close_idle (m := m.passing tag) idle, leave_passing]

theorem drain_passed_empty (lexes : Lexes whole p (x.lexeme :: lexemes) q)
    (decoded : Event.ofLexeme x.lexeme = .ok x.event) (single : x.event = .empty tag)
    (idle : m.held = none) (passed : (m.trail.push tag.name).isAt m.target = false) :
    m.drain complete (whole.drop p) = m.drain complete (whole.drop x.lexeme.stop) := by
  have made := Event.of_ofLexeme decoded
  rw [single] at made
  apply drain_next lexes
  apply take_empty made (fun _ _ read => enter_passed idle passed read)
  rw [keep_idle (m := m.passing tag) idle, close_idle (m := m.passing tag) idle, leave_passing]

end

section

variable {whole : Bytes} {text : Text} {p q : Nat} {m : Selector} {above : List Text}
  {around : List Binding} {tag : Tag} {x y : Item} {lexemes : List Lexeme}

/-- A wanted element that is one tag is handed out. -/
theorem drain_wanted_empty (encoded : whole = Utf8.encode text)
    (lexes : Lexes whole p (x.lexeme :: lexemes) q)
    (decoded : Event.ofLexeme x.lexeme = .ok x.event) (single : x.event = .empty tag)
    (stands : m.Stands above around) (wanted : (m.trail.push tag.name).isAt m.target = true)
    (chain : List Text) :
    ∃ f : Fragment, f.Shows whole ⟨chain, tag.toNode around .nil, p, x.lexeme.stop⟩ ∧
      m.drain true (whole.drop p) = (f :: (m.drain true (whole.drop x.lexeme.stop)).1,
        (m.drain true (whole.drop x.lexeme.stop)).2) := by
  obtain ⟨width, found, _, stop, _⟩ := lexes.uncons
  have wide := Scan.width_pos found
  have head := (opening_markup lexes decoded (.inr single)).1
  obtain ⟨markup, bytes, drained⟩ :=
    drain_selected_empty encoded lexes decoded single stands.idle wanted
  have alone : Lexes whole p ([x].map (·.lexeme)) x.lexeme.stop :=
    @Lexes.through whole [] _ _ _ _ lexes
  rw [stands.inScope] at drained
  exact ⟨_, Fragment.shows_of_nests (.empty single .nil) alone (by simpa using decoded) head
    (by omega) stands.proper bytes chain, drained⟩

/-- A wanted element with a start tag and an end tag is handed out. -/
theorem drain_wanted_element (encoded : whole = Utf8.encode text) {within : List Item}
    (lexes : Lexes whole p (x.lexeme :: (within.map (·.lexeme) ++ y.lexeme :: lexemes)) q)
    (decoded : ∀ z ∈ x :: within ++ [y], Event.ofLexeme z.lexeme = .ok z.event)
    (opening : x.event = .start tag) {inner : Content} (nests : Nests within inner)
    (closing : y.event = .stop tag.name) (stands : m.Stands above around)
    (wanted : (m.trail.push tag.name).isAt m.target = true) (chain : List Text) :
    ∃ f : Fragment, f.Shows whole ⟨chain, tag.toNode around inner, p, y.lexeme.stop⟩ ∧
      m.drain true (whole.drop p) = (f :: (m.drain true (whole.drop y.lexeme.stop)).1,
        (m.drain true (whole.drop y.lexeme.stop)).2) := by
  have started := decoded x (by simp)
  obtain ⟨width, found, _, start, more⟩ := lexes.uncons
  obtain ⟨r, middle, ending⟩ := more.split
  obtain ⟨size, _, _, stop, _⟩ := ending.uncons
  have wide := Scan.width_pos found
  have le := middle.le
  have head := (opening_markup lexes started (.inl opening)).1
  obtain ⟨markup, bytes, drained⟩ := drain_selected_element encoded lexes started
    (fun z member => decoded z (by simp [member])) (decoded y (by simp)) opening nests closing
    stands.idle wanted
  have alone : Lexes whole p ((x :: within ++ [y]).map (·.lexeme)) y.lexeme.stop := by
    have through := @Lexes.through whole (x.lexeme :: within.map (·.lexeme)) _ _ _ _ lexes
    simpa using through
  rw [stands.inScope] at drained
  exact ⟨_, Fragment.shows_of_nests (.element opening nests closing .nil) alone decoded head
    (by omega) stands.proper bytes chain, drained⟩

end

/-- From one offset of the markup to another, a selector hands out the wanted ones of some elements and is
afterwards as it was before. -/
def HandsOut (m : Selector) (whole : Bytes) (p q : Nat) (elements : List Occurrence) : Prop :=
  ∃ fragments, List.Forall₂ (Fragment.Shows whole) fragments
      (elements.filter fun o => Text.join '.' o.chain == m.target) ∧
    m.drain true (whole.drop p) = (fragments ++ (m.drain true (whole.drop q)).1,
      (m.drain true (whole.drop q)).2)

section

variable {whole : Bytes} {text : Text} {p q r : Nat} {m : Selector} {above : List Text}
  {around : List Binding} {tag : Tag} {x y : Item} {lexemes : List Lexeme} {first second : List Occurrence}

theorem HandsOut.append (one : m.HandsOut whole p q first) (two : m.HandsOut whole q r second) :
    m.HandsOut whole p r (first ++ second) := by
  obtain ⟨fragments, shows, drained⟩ := one
  obtain ⟨others, further, rest⟩ := two
  refine ⟨fragments ++ others, ?_, ?_⟩
  · rw [List.filter_append]
    exact List.rel_append shows further
  · rw [drained, rest, List.append_assoc]

/-- What is no tag is passed over. -/
theorem handsOut_kept (lexes : Lexes whole p (x.lexeme :: lexemes) q)
    (decoded : Event.ofLexeme x.lexeme = .ok x.event)
    (other : x.event.shapes = false ∨ ∃ text, x.event = .text text ∨ x.event = .cdata text)
    (idle : m.held = none) : m.HandsOut whole p x.lexeme.stop [] := by
  have kept : m.drain true (whole.drop p) =
      (m.keep (whole.between p x.lexeme.stop)).drain true (whole.drop x.lexeme.stop) :=
    drain_kept m lexes decoded other
  rw [keep_idle idle] at kept
  exact ⟨[], .nil, kept⟩

/-- An element that is one tag is handed out if it is wanted, else passed over. -/
theorem handsOut_empty (encoded : whole = Utf8.encode text)
    (lexes : Lexes whole p (x.lexeme :: lexemes) q)
    (decoded : Event.ofLexeme x.lexeme = .ok x.event) (single : x.event = .empty tag)
    (stands : m.Stands above around) :
    m.HandsOut whole p x.lexeme.stop
      ((Content.element tag x.lexeme.start x.lexeme.stop .nil .nil).occurrences above around) := by
  obtain ⟨width, _, start, _, _⟩ := lexes.uncons
  have reached := stands.isAt (opening_markup lexes decoded (.inr single)).2
  cases wanted : (Text.join '.' (above ++ [tag.name]) == m.target) with
  | true =>
    rw [wanted] at reached
    obtain ⟨f, shows, drained⟩ := drain_wanted_empty encoded lexes decoded single stands reached
      (above ++ [tag.name])
    refine ⟨[f], ?_, drained⟩
    rw [filter_wanted wanted, start]
    exact .cons shows .nil
  | false =>
    rw [wanted] at reached
    refine ⟨[], ?_, drain_passed_empty lexes decoded single stands.idle reached⟩
    rw [filter_passed wanted]
    exact .nil

/-- An element with an end tag is handed out if it is wanted, else the wanted ones inside it are. -/
theorem handsOut_element (encoded : whole = Utf8.encode text) {within : List Item}
    (lexes : Lexes whole p (x.lexeme :: (within.map (·.lexeme) ++ y.lexeme :: lexemes)) q)
    (ending : Lexes whole r (y.lexeme :: lexemes) q)
    (decoded : ∀ z ∈ x :: within ++ [y], Event.ofLexeme z.lexeme = .ok z.event)
    (opening : x.event = .start tag) {inner : Content} (nests : Nests within inner)
    (closing : y.event = .stop tag.name) (stands : m.Stands above around)
    (inside : (m.passing tag).HandsOut whole x.lexeme.stop r
      (inner.occurrences (above ++ [tag.name]) (tag.scope around))) :
    m.HandsOut whole p y.lexeme.stop
      ((Content.element tag x.lexeme.start y.lexeme.stop inner .nil).occurrences above around) := by
  have started := decoded x (by simp)
  obtain ⟨width, _, start, _, _⟩ := lexes.uncons
  have reached := stands.isAt (opening_markup lexes started (.inl opening)).2
  cases wanted : (Text.join '.' (above ++ [tag.name]) == m.target) with
  | true =>
    rw [wanted] at reached
    obtain ⟨f, shows, drained⟩ := drain_wanted_element encoded lexes decoded opening nests closing
      stands reached (above ++ [tag.name])
    refine ⟨[f], ?_, drained⟩
    rw [filter_wanted wanted, start]
    exact .cons shows .nil
  | false =>
    rw [wanted] at reached
    obtain ⟨fragments, shows, between⟩ := inside
    refine ⟨fragments, ?_, ?_⟩
    · rw [filter_passed wanted]
      exact shows
    · rw [drain_passed_start lexes started opening stands.idle reached, between,
        drain_passed_stop ending (decoded y (by simp)) closing stands.idle]

end

/-- Well-nested events outside the wanted elements: the wanted ones among them are handed out, and
the selector is afterwards as it was before. -/
theorem drain_outside {whole : Bytes} {text : Text} (encoded : whole = Utf8.encode text)
    {items : List Item} {content : Content} (nests : Nests items content) {p q : Nat}
    (lexes : Lexes whole p (items.map (·.lexeme)) q)
    (decoded : ∀ x ∈ items, Event.ofLexeme x.lexeme = .ok x.event) {m : Selector}
    {above : List Text} {around : List Binding} (stands : m.Stands above around) :
    m.HandsOut whole p q (content.occurrences above around) := by
  induction nests generalizing p q m above around with
  | nil =>
    cases lexes
    exact ⟨[], .nil, rfl⟩
  | @skip x items rest plain _ ih =>
    rw [List.map_cons] at lexes
    obtain ⟨width, _, _, stop, after⟩ := lexes.uncons
    have kept := handsOut_kept lexes (decoded x (by simp)) (.inl plain) stands.idle
    exact kept.append (ih after (fun y member => decoded y (by simp [member])) stands)
  | @data x text items rest character _ ih =>
    rw [List.map_cons] at lexes
    obtain ⟨width, _, _, stop, after⟩ := lexes.uncons
    have kept := handsOut_kept lexes (decoded x (by simp)) (.inr ⟨text, character⟩) stands.idle
    exact kept.append (ih after (fun y member => decoded y (by simp [member])) stands)
  | @empty x tag items rest single _ ih =>
    rw [List.map_cons] at lexes
    obtain ⟨width, _, _, stop, after⟩ := lexes.uncons
    have here := handsOut_empty encoded lexes (decoded x (by simp)) single stands
    exact here.append (ih after (fun y member => decoded y (by simp [member])) stands)
  | @element x y tag within items inner rest opening nested closing _ inside ih =>
    rw [List.cons_append, List.map_cons, List.map_append, List.map_cons] at lexes
    obtain ⟨width, _, _, _, more⟩ := lexes.uncons
    obtain ⟨r, middle, ending⟩ := more.split
    obtain ⟨size, _, _, _, after⟩ := ending.uncons
    have name := (opening_markup lexes (decoded x (by simp)) (.inl opening)).2
    have alone : ∀ z ∈ x :: within ++ [y], Event.ofLexeme z.lexeme = .ok z.event := by
      intro z member
      apply decoded z
      simp only [List.mem_append, List.mem_cons] at member ⊢
      tauto
    have deep := inside middle (fun z member => decoded z (by simp [member])) (stands.passing name)
    have here := handsOut_element encoded lexes ending alone opening nested closing stands deep
    rw [Content.occurrences_element]
    exact here.append (ih after (fun z member => decoded z (by simp [member])) stands)

end Selector

/-- A selector that has read nothing yet. -/
def Selector.ofTarget (target : Text) : Selector := ⟨target, none, Trail.empty, Scopes.empty⟩

/-- A byte order mark is text outside all elements. -/
theorem Selector.drain_withoutMark (target markup : Text) :
    (ofTarget target).drain true (Utf8.encode markup) =
      (ofTarget target).drain true (Utf8.encode (Node.withoutMark markup)) := by
  cases markup with
  | nil => rfl
  | cons c rest =>
    by_cases mark : c = Node.byteOrderMark
    · subst mark
      have bytes : Utf8.encodeChar Node.byteOrderMark = [0xef, 0xbb, 0xbf] := by decide
      have same : (ofTarget target).run true (Utf8.encode (Node.byteOrderMark :: rest)) =
          (ofTarget target).run true (Utf8.encode rest) := by
        rw [Utf8.encode_cons, bytes, run_plain (by simp)]
        rfl
      have left : Node.withoutMark (Node.byteOrderMark :: rest) = rest := rfl
      rw [left, drain_eq, drain_eq true _ (Utf8.encode rest), next, next, same]
    · simp [Node.withoutMark, mark]

namespace Streamer

/-- A document is streamed to its end, and the fragments are its elements at the path, in document
order: their bytes from the start of the start tag to the end of the end tag, and their trees. -/
theorem streamed_document {markup : Text} {document : Document}
    (loaded : Document.ofText markup = .ok document) (path source : Text) {pieces : List Bytes}
    (cut : pieces.flatten = Utf8.encode markup) :
    ∃ fragments last items content,
      (ofPath path source).streamed pieces = (fragments, none, last) ∧ last.trail = Trail.empty ∧
        Reads (Node.withoutMark markup) items ∧ Nests items content ∧
        (content.occurrences [] []).map (fun o => (o.chain, o.node)) = document.root.elements [] ∧
        List.Forall₂ (Fragment.Shows (Utf8.encode (Node.withoutMark markup))) fragments
          ((content.occurrences [] []).filter fun o =>
            Text.join '.' o.chain == (Path.parse path).normalized) := by
  obtain ⟨documentName, root⟩ := document
  have parsed := (Document.ofText_eq_ok_iff_parse.mp loaded).2
  obtain ⟨items, content, reads, nests, _, one⟩ :=
    (Node.parse_eq_ok_iff Namespace.proper_nil markup root).mp parsed
  obtain ⟨⟨stopped, lexed⟩, decoded⟩ := reads
  obtain ⟨q, lexes, ends⟩ := @Lexes.of_run (Utf8.encode (Node.withoutMark markup)) _ _ _ lexed rfl
  have stands : (Selector.ofTarget (Path.parse path).normalized).Stands [] [] :=
    ⟨rfl, rfl, rfl, by simp, Namespace.proper_nil⟩
  obtain ⟨fragments, shows, drained⟩ := Selector.drain_outside rfl nests lexes decoded stands
  have ended : (Selector.ofTarget (Path.parse path).normalized).drain true
      ((Utf8.encode (Node.withoutMark markup)).drop q) =
        ([], .ok ((Utf8.encode (Node.withoutMark markup)).drop q,
          Selector.ofTarget (Path.parse path).normalized)) := by
    rw [Selector.drain_eq, Selector.next, Selector.run_eq, ends]
    rfl
  have start := within_ofPath path source
  have agrees := streamed_agrees start rfl (Selector.settled_nil _) pieces
  have whole : ((ofPath path source).selector 0).drain true
      ((ofPath path source).pending ++ pieces.flatten) =
        (fragments, .ok ((Utf8.encode (Node.withoutMark markup)).drop q,
          Selector.ofTarget (Path.parse path).normalized)) := by
    have first : (ofPath path source).selector 0 =
        Selector.ofTarget (Path.parse path).normalized := rfl
    have fed : (ofPath path source).pending ++ pieces.flatten = Utf8.encode markup := by
      rw [cut]
      rfl
    rw [first, fed, Selector.drain_withoutMark]
    refine Eq.trans drained ?_
    rw [ended, List.append_nil]
  rw [whole] at agrees
  obtain ⟨last, streamed, stands⟩ := agrees.of_ok
  have elements := Content.map_occurrences content [] []
  rw [one, Node.elementsAll, Node.elementsAll, List.append_nil] at elements
  refine ⟨fragments, last, items, content, streamed, ?_, ⟨⟨stopped, lexed⟩, decoded⟩, nests,
    elements, shows⟩
  have trail : (last.selector 0).trail = last.trail := rfl
  rw [← trail, stands]
  rfl

/-- The element `b` of `<a><b/></a>`, with its tag cut in two. -/
theorem streamed_document_of_cut_tag :
    Document.ofText "<a><b/></a>".toList =
        .ok ⟨[], ⟨Element.ofName ['a'], [⟨Element.ofName ['b'], []⟩]⟩⟩ ∧
      [[0x3c, 0x61, 0x3e, 0x3c], [0x62, 0x2f, 0x3e, 0x3c, 0x2f, 0x61, 0x3e]].flatten =
        Utf8.encode "<a><b/></a>".toList ∧
      ∃ fragments last,
        (ofPath "a.b".toList []).streamed
            [[0x3c, 0x61, 0x3e, 0x3c], [0x62, 0x2f, 0x3e, 0x3c, 0x2f, 0x61, 0x3e]] =
          (fragments, none, last) ∧ last.trail = Trail.empty := by
  have loaded : Document.ofText "<a><b/></a>".toList =
      .ok ⟨[], ⟨Element.ofName ['a'], [⟨Element.ofName ['b'], []⟩]⟩⟩ := by decide +kernel
  have cut : [[0x3c, 0x61, 0x3e, 0x3c], [0x62, 0x2f, 0x3e, 0x3c, 0x2f, 0x61, 0x3e]].flatten =
      Utf8.encode "<a><b/></a>".toList := by decide
  obtain ⟨fragments, last, _, _, streamed, ended, _⟩ :=
    streamed_document loaded "a.b".toList [] cut
  exact ⟨loaded, cut, fragments, last, streamed, ended⟩

end Streamer

end MarkupQuery
