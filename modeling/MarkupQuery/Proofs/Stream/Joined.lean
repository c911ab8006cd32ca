import MarkupQuery.Proofs.Stream.Trail
import MarkupQuery.Proofs.Utf8.Slicing

/-!
The names of the open elements in one text. The text grows by a full stop and a name, and how many bytes of
it there were before a name says where this name starts and where the text is cut when the name is taken
away. No full stop is written while the text is empty, which is so too where all names so far are empty. Main
statement: after any calls the text with its marks tells the same as the list of the names that are left, and
so does a trail; no call cuts a character apart, and taking a name away undoes all since it came
(`JoinedNames.run_calls`).
-/
namespace MarkupQuery

/-- What can be done with the names of open elements. -/
inductive Trail.Call
  | push (name : Text)
  | pop
  deriving DecidableEq, Repr

/-- What can be asked about the names of open elements. -/
structure Trail.Shown where
  depth : Nat
  isEmpty : Bool
  last : Option Text
  text : Text
  deriving DecidableEq, Repr

/-- The joined names of the open elements, and for each of them, the innermost first, how many bytes of joined
names there were before it. -/
structure JoinedNames where
  text : Text
  marks : List Nat
  deriving DecidableEq, Repr

namespace Trail

/-- The names after a call, the innermost first. -/
def Call.perform (names : List Text) : Call → List Text
  | push name => name :: names
  | pop => names.tail

/-- The names that are left after calls, the innermost first. -/
def Call.left (calls : List Call) : List Text := calls.foldl perform []

/-- Calls of which each that takes a name away takes one that came with them, and no name is left. -/
inductive Balanced : List Call → Prop
  | nil : Balanced []
  | nested (name : Text) {inner rest : List Call} (inside : Balanced inner) (later : Balanced rest) :
      Balanced (.push name :: inner ++ .pop :: rest)

/-- The answers for a list of names, the innermost first. Of the joined names, empty ones at the start leave
no trace. -/
def Shown.ofNames (names : List Text) : Shown :=
  ⟨names.length, names.isEmpty, names.head?, Text.join '.' (names.reverse.dropWhile List.isEmpty)⟩

def perform (t : Trail) : Call → Trail
  | .push name => t.push name
  | .pop => t.pop

/-- The trail after calls, one after the other. -/
def run (t : Trail) (calls : List Call) : Trail := calls.foldl perform t

def shown (t : Trail) : Shown := ⟨t.depth, t.depth == 0, t.last?, t.text⟩

variable {names : List Text} {name : Text}

theorem ofChain_reverse_cons (name : Text) (names : List Text) :
    ofChain (name :: names).reverse = (ofChain names.reverse).push name := by
  rw [List.reverse_cons, ofChain_concat]

theorem perform_ofChain (names : List Text) (call : Call) :
    (ofChain names.reverse).perform call = ofChain (call.perform names).reverse := by
  cases call with
  | push name => exact (ofChain_reverse_cons name names).symm
  | pop =>
    cases names with
    | nil => rfl
    | cons name outer =>
      rw [ofChain_reverse_cons]
      rfl

theorem run_ofChain (calls : List Call) (names : List Text) :
    (ofChain names.reverse).run calls = ofChain (calls.foldl Call.perform names).reverse := by
  induction calls generalizing names with
  | nil => rfl
  | cons call rest ih =>
    rw [run, List.foldl_cons, List.foldl_cons, perform_ofChain]
    exact ih _

theorem shown_ofChain (names : List Text) : (ofChain names.reverse).shown = Shown.ofNames names := by
  have depth : (ofChain names.reverse).depth = names.length := by rw [depth_ofChain, List.length_reverse]
  have last : (ofChain names.reverse).last? = names.head? := by
    cases names with
    | nil => rfl
    | cons name outer =>
      rw [ofChain_reverse_cons]
      rfl
  have text : (ofChain names.reverse).text = Text.join '.' (names.reverse.dropWhile List.isEmpty) := by
    rw [Trail.text, names_ofChain]
  rw [shown, Shown.ofNames, depth, last, text]
  cases names <;> rfl

theorem pop?_ofChain_eq_none_iff : (ofChain names.reverse).pop? = none ↔ names = [] := by
  cases names with
  | nil => exact iff_of_true rfl rfl
  | cons name outer =>
    rw [ofChain_reverse_cons]
    exact iff_of_false nofun (List.cons_ne_nil name outer)

theorem shown_pop_ofChain (names : List Text) :
    (ofChain names.reverse).pop.shown = Shown.ofNames names.tail := by
  rw [← shown_ofChain]
  exact congrArg shown (perform_ofChain names .pop)

/-- Calls that leave no name leave the trail as it was. -/
theorem run_balanced {calls : List Call} (balanced : Balanced calls) (t : Trail) : t.run calls = t := by
  induction balanced generalizing t with
  | nil => rfl
  | @nested name inner rest _ _ inside later =>
    have within : inner.foldl perform (t.push name) = t.push name := inside (t.push name)
    rw [run, List.foldl_append, List.foldl_cons, List.foldl_cons, perform, within]
    exact later t

end Trail

namespace JoinedNames

open Trail (Call Balanced Shown)

def empty : JoinedNames := ⟨[], []⟩

/-- Adds the name of an element inside all others. -/
def push (j : JoinedNames) (name : Text) : JoinedNames :=
  ⟨if j.text.isEmpty then name else j.text ++ '.' :: name, Utf8.size j.text :: j.marks⟩

/-- Cuts the text back to the innermost mark, and says whether there was one. None where the mark is inside a
character; a text that is not as long as the mark stays. -/
def pop? (j : JoinedNames) : Option (JoinedNames × Bool) :=
  match j.marks with
  | [] => some (j, false)
  | mark :: outer =>
    if Utf8.size j.text < mark then some (⟨j.text, outer⟩, true)
    else (Utf8.splitAt? mark j.text).map fun (kept, _) => (⟨kept, outer⟩, true)

/-- Cuts out the innermost name, if there is one: behind its mark there is a full stop, but not at the start.
None where the name cannot be cut out. -/
def last? (j : JoinedNames) : Option (Option Text) :=
  match j.marks with
  | [] => some none
  | mark :: _ =>
    (Utf8.slice? j.text (if mark == 0 then 0 else mark + 1) (Utf8.size j.text)).map some

def depth (j : JoinedNames) : Nat := j.marks.length

def isEmpty (j : JoinedNames) : Bool := j.marks.isEmpty

def perform? (j : JoinedNames) : Call → Option JoinedNames
  | .push name => some (j.push name)
  | .pop => j.pop?.map (·.1)

/-- The text and the marks after calls, none where one of them cuts a character apart. -/
def run? (j : JoinedNames) (calls : List Call) : Option JoinedNames := calls.foldlM perform? j

/-- All answers, none where the innermost name cannot be cut out. -/
def shown? (j : JoinedNames) : Option Shown :=
  j.last?.map fun last => ⟨j.depth, j.isEmpty, last, j.text⟩

/-- The text and the marks of names, the innermost first. -/
def ofNames (names : List Text) : JoinedNames := names.foldr (fun name j => j.push name) empty

variable {name : Text} {names : List Text}

theorem pop?_push (j : JoinedNames) (name : Text) : (j.push name).pop? = some (j, true) := by
  have split : ∃ added, (j.push name).text = j.text ++ added := by
    unfold push
    cases same : j.text with
    | nil => exact ⟨name, rfl⟩
    | cons c rest => exact ⟨'.' :: name, rfl⟩
  obtain ⟨added, text⟩ := split
  have marks : (j.push name).marks = Utf8.size j.text :: j.marks := rfl
  have long : ¬ Utf8.size (j.text ++ added) < Utf8.size j.text := by
    rw [Utf8.size_append]
    omega
  rw [pop?, marks]
  dsimp only
  rw [text, if_neg long, Utf8.splitAt?_append]
  rfl

/-- Only the first name, or the first after empty ones, has its mark at the start. -/
theorem last?_push (j : JoinedNames) (name : Text) : (j.push name).last? = some (some name) := by
  unfold push last?
  dsimp only
  cases same : j.text with
  | nil =>
    have whole := Utf8.slice?_append [] name []
    rw [List.append_nil, List.nil_append] at whole
    exact congrArg (Option.map some) whole
  | cons c rest =>
    have positive := Utf8.size_pos_of_ne_nil (List.cons_ne_nil c rest)
    have start : (if Utf8.size (c :: rest) == 0 then 0 else Utf8.size (c :: rest) + 1) =
        Utf8.size (c :: rest ++ ['.']) := by
      rw [if_neg (by simpa using Nat.ne_of_gt positive), Utf8.size_append]
      rfl
    have cut := Utf8.slice?_append (c :: rest ++ ['.']) name []
    rw [List.append_nil, List.append_assoc] at cut
    rw [start]
    exact congrArg (Option.map some) cut

theorem marks_ofNames (names : List Text) : (ofNames names).marks.length = names.length := by
  induction names with
  | nil => rfl
  | cons name outer ih => exact congrArg (· + 1) ih

/-- The text is empty as long as all names are. -/
theorem text_ofNames (names : List Text) :
    (ofNames names).text = Text.join '.' (names.reverse.dropWhile List.isEmpty) := by
  induction names with
  | nil => rfl
  | cons name outer ih =>
    have step : (ofNames (name :: outer)).text =
        if (ofNames outer).text.isEmpty then name else (ofNames outer).text ++ '.' :: name := rfl
    rw [step, ih, List.reverse_cons, List.dropWhile_append]
    cases kept : outer.reverse.dropWhile List.isEmpty with
    | nil => cases name <;> rfl
    | cons first others =>
      have named : first ≠ [] := by
        have head := List.head?_dropWhile_not List.isEmpty outer.reverse
        rw [kept] at head
        simpa using head
      have written : Text.join '.' (first :: others) ≠ [] := by
        cases others with
        | nil => exact named
        | cons next rest => simp [Text.join]
      rw [if_neg (by simpa using written), if_neg (by simp),
        Text.join_concat '.' _ name (List.cons_ne_nil first others)]

theorem shown?_ofNames (names : List Text) : (ofNames names).shown? = some (Shown.ofNames names) := by
  have last : (ofNames names).last? = some names.head? := by
    cases names with
    | nil => rfl
    | cons name outer => exact last?_push (ofNames outer) name
  have none : (ofNames names).isEmpty = names.isEmpty := by cases names <;> rfl
  rw [shown?, last, Option.map_some, depth, marks_ofNames, none, text_ofNames, Shown.ofNames]

theorem text_ofNames_of_named (named : ∀ name ∈ names, name ≠ []) :
    (ofNames names).text = Text.join '.' names.reverse := by
  have kept : names.reverse.dropWhile List.isEmpty = names.reverse := by
    cases same : names.reverse with
    | nil => rfl
    | cons first others =>
      have inside : first ∈ names := List.mem_reverse.mp (same ▸ List.mem_cons_self)
      rw [List.dropWhile_cons_of_neg (by simpa using named first inside)]
  rw [text_ofNames, kept]

theorem pop?_ofNames_iff : (ofNames names).pop? = some (ofNames names, false) ↔ names = [] := by
  cases names with
  | nil => exact iff_of_true rfl rfl
  | cons name outer =>
    have popped : (ofNames (name :: outer)).pop? = some (ofNames outer, true) := pop?_push _ name
    rw [popped]
    exact iff_of_false (by simp) (List.cons_ne_nil name outer)

theorem perform?_push (j : JoinedNames) (name : Text) : j.perform? (.push name) = some (j.push name) := rfl

theorem perform?_ofNames (names : List Text) (call : Call) :
    (ofNames names).perform? call = some (ofNames (call.perform names)) := by
  cases call with
  | push name => rfl
  | pop =>
    cases names with
    | nil => rfl
    | cons name outer => exact congrArg (Option.map (·.1)) (pop?_push (ofNames outer) name)

theorem run?_ofNames (calls : List Call) (names : List Text) :
    (ofNames names).run? calls = some (ofNames (calls.foldl Call.perform names)) := by
  induction calls generalizing names with
  | nil => rfl
  | cons call rest ih =>
    rw [run?, List.foldlM_cons, perform?_ofNames, List.foldl_cons]
    exact ih _

/-- Calls that leave no name leave the text and the marks as they were. -/
theorem run?_balanced {calls : List Call} (balanced : Balanced calls) (j : JoinedNames) :
    j.run? calls = some j := by
  induction balanced generalizing j with
  | nil => rfl
  | @nested name inner rest _ _ inside later =>
    have within : inner.foldlM perform? (j.push name) = some (j.push name) := inside (j.push name)
    have closed : (j.push name).perform? .pop = some j := by rw [perform?, pop?_push, Option.map_some]
    simp only [run?, List.foldlM_append, List.foldlM_cons, perform?_push, within, closed,
      Option.bind_eq_bind, Option.bind_some]
    exact later j

/-- After any calls, text and marks, and a trail as well, tell how many names are left, the innermost of them,
and the names joined by full stops, with those left out at the start that are empty. Another name can be taken
away exactly if one is left; then everything is as it was before that name came, and else nothing changes. -/
theorem run_calls (calls : List Call) :
    ∃ j, empty.run? calls = some j ∧
      j.shown? = some (.ofNames (Call.left calls)) ∧
      (Trail.empty.run calls).shown = .ofNames (Call.left calls) ∧
      ((∀ name ∈ Call.left calls, name ≠ []) → j.text = Text.join '.' (Call.left calls).reverse) ∧
      (Call.left calls = [] ↔ j.pop? = some (j, false)) ∧
      (Call.left calls = [] ↔ (Trail.empty.run calls).pop? = none) ∧
      (Call.left calls ≠ [] → ∃ outer, j.pop? = some (outer, true) ∧
        outer.shown? = some (.ofNames (Call.left calls).tail) ∧
        (Trail.empty.run calls).pop.shown = .ofNames (Call.left calls).tail) ∧
      ∀ name inner, Balanced inner →
        j.run? (.push name :: inner ++ [.pop]) = some j ∧
          (Trail.empty.run calls).run (.push name :: inner ++ [.pop]) = Trail.empty.run calls := by
  have trail : Trail.empty.run calls = Trail.ofChain (Call.left calls).reverse := Trail.run_ofChain calls []
  have joined : empty.run? calls = some (ofNames (Call.left calls)) := run?_ofNames calls []
  rw [trail]
  generalize Call.left calls = names at joined
  refine ⟨ofNames names, joined, shown?_ofNames names, Trail.shown_ofChain names, text_ofNames_of_named,
    pop?_ofNames_iff.symm, Trail.pop?_ofChain_eq_none_iff.symm, ?_, ?_⟩
  · intro nonempty
    obtain ⟨name, outer, rfl⟩ := List.exists_cons_of_ne_nil nonempty
    exact ⟨ofNames outer, pop?_push (ofNames outer) name, shown?_ofNames outer, Trail.shown_pop_ofChain _⟩
  · intro name inner balanced
    have whole : Balanced (.push name :: inner ++ [.pop]) := .nested name balanced .nil
    exact ⟨run?_balanced whole _, Trail.run_balanced whole _⟩

/-- A name with a full stop in it between two empty ones, after a name of two bytes was taken away. The first
of them leaves no trace, the last one a full stop. -/
theorem run_calls_of_empty_names :
    let calls : List Call := [.push [], .push ['a', '.', 'b'], .push [], .push ['é'], .pop]
    let inner : List Call := [.push ['x'], .pop]
    Call.left calls ≠ [] ∧ Balanced inner ∧
      ∃ j, empty.run? calls = some j ∧ j.shown? = some ⟨3, false, some [], ['a', '.', 'b', '.']⟩ ∧
        (Trail.empty.run calls).shown = ⟨3, false, some [], ['a', '.', 'b', '.']⟩ ∧
        (∃ outer, j.pop? = some (outer, true) ∧
          outer.shown? = some ⟨2, false, some ['a', '.', 'b'], ['a', '.', 'b']⟩) ∧
        j.run? (.push ['y'] :: inner ++ [.pop]) = some j := by
  intro calls inner
  have some_left : Call.left calls ≠ [] := by decide
  have balanced : Balanced inner := .nested ['x'] .nil .nil
  obtain ⟨j, ran, shown, trail, _, _, _, popped, restored⟩ := run_calls calls
  obtain ⟨outer, taken, before, _⟩ := popped some_left
  exact ⟨some_left, balanced, j, ran, shown, trail, ⟨outer, taken, before⟩,
    (restored ['y'] inner balanced).1⟩

end JoinedNames

end MarkupQuery
