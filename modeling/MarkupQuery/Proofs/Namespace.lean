import MarkupQuery.Proofs.Document.Scope

/-!
Declarations in one list, each with the depth of its scope, are a stack of scopes. `Scopes.ofStack` writes
a stack as such a list; opening, declaring and closing keep to the list of the stack after them, so what
the list answers is what the stack says. Main statement: after any calls that close only open scopes, a
qualifier stands for its latest declaration in them, and what is done in a scope is undone when it is
closed (`Scopes.run_stack`).
-/
namespace MarkupQuery

namespace Scopes

/-- What can be done with scopes. -/
inductive Call
  | push
  | declare (b : Binding)
  | pop
  deriving DecidableEq, Repr

def perform (s : Scopes) : Call → Scopes
  | .push => s.push
  | .declare b => s.declare b
  | .pop => s.pop

/-- The scopes after calls, one after the other. -/
def run (s : Scopes) (calls : List Call) : Scopes := calls.foldl perform s

/-- Calls of which each closing one closes the scope that one of them opened, and none stays open. -/
inductive Balanced : List Call → Prop
  | nil : Balanced []
  | declare (b : Binding) {rest : List Call} (later : Balanced rest) : Balanced (.declare b :: rest)
  | nested {inner rest : List Call} (inside : Balanced inner) (later : Balanced rest) :
      Balanced (.push :: inner ++ .pop :: rest)

/-- The bindings made in each open scope, the innermost scope and in it the latest binding first, and
those made outside all scopes. -/
structure Stack where
  outer : List Binding
  nested : List (List Binding)
  deriving DecidableEq, Repr

namespace Stack

def declare (t : Stack) (b : Binding) : Stack :=
  match t.nested with
  | [] => { t with outer := b :: t.outer }
  | innermost :: others => { t with nested := (b :: innermost) :: others }

/-- The stack after a call, none where no scope is open that it could close. -/
def perform? (t : Stack) : Call → Option Stack
  | .push => some { t with nested := [] :: t.nested }
  | .declare b => some (t.declare b)
  | .pop =>
    match t.nested with
    | [] => none
    | _ :: others => some { t with nested := others }

/-- All bindings, the latest first. -/
def bindings (t : Stack) : List Binding := t.nested.flatten ++ t.outer

/-- The name that the latest binding gives to a qualifier, none where it takes the name away. -/
def latest? (t : Stack) (qualifier : Option Text) : Option Text :=
  ((t.bindings.find? (·.qualifier == qualifier)).filter (!·.uri.isEmpty)).map (·.uri)

/-- The stack without the bindings of reserved qualifiers. -/
def declarable (t : Stack) : Stack :=
  ⟨t.outer.filter (!Namespace.isReserved ·.qualifier),
    t.nested.map (·.filter (!Namespace.isReserved ·.qualifier))⟩

/-- The bindings of nested scopes in one list, each with the depth of its scope. -/
def declared (outer : List Binding) : List (List Binding) → List Declared
  | [] => outer.map (Declared.mk · 0)
  | innermost :: others =>
    innermost.map (Declared.mk · (others.length + 1)) ++ declared outer others

theorem depth_le_of_mem_declared {outer : List Binding} {nested : List (List Binding)} {d : Declared}
    (member : d ∈ declared outer nested) : d.depth ≤ nested.length := by
  induction nested with
  | nil =>
    obtain ⟨_, _, rfl⟩ := List.mem_map.mp member
    exact Nat.le_refl _
  | cons innermost others ih =>
    rcases List.mem_append.mp member with inside | outside
    · obtain ⟨_, _, rfl⟩ := List.mem_map.mp inside
      exact Nat.le_refl _
    · exact Nat.le_succ_of_le (ih outside)

theorem descending_declared (outer : List Binding) (nested : List (List Binding)) :
    (declared outer nested).Pairwise fun later earlier => earlier.depth ≤ later.depth := by
  have level (bindings : List Binding) (depth : Nat) : (bindings.map (Declared.mk · depth)).Pairwise
      fun later earlier => earlier.depth ≤ later.depth :=
    List.pairwise_map.mpr (List.pairwise_of_forall fun _ _ => Nat.le_refl _)
  induction nested with
  | nil => exact level outer 0
  | cons innermost others ih =>
    refine List.pairwise_append.mpr ⟨level innermost _, ih, ?_⟩
    intro d inside e outside
    obtain ⟨_, _, rfl⟩ := List.mem_map.mp inside
    exact Nat.le_succ_of_le (depth_le_of_mem_declared outside)

end Stack

/-- A stack as one list of declarations. -/
def ofStack (t : Stack) : Scopes where
  declared := Stack.declared t.outer t.nested
  depth := t.nested.length
  descending := Stack.descending_declared t.outer t.nested
  depth_le _ member := Stack.depth_le_of_mem_declared member

theorem bindings_ofStack (t : Stack) : (ofStack t).bindings = t.bindings := by
  obtain ⟨outer, nested⟩ := t
  have single (bindings : List Binding) (depth : Nat) :
      (bindings.map (Declared.mk · depth)).map (·.binding) = bindings := by
    rw [List.map_map]
    exact List.map_id _
  unfold bindings ofStack Stack.bindings
  dsimp only
  induction nested with
  | nil => exact single outer 0
  | cons innermost others ih =>
    rw [Stack.declared, List.map_append, single, ih, List.flatten_cons, List.append_assoc]

theorem push_ofStack (outer : List Binding) (nested : List (List Binding)) :
    (ofStack ⟨outer, nested⟩).push = ofStack ⟨outer, [] :: nested⟩ := rfl

theorem declare_ofStack (t : Stack) {b : Binding} (free : Namespace.isReserved b.qualifier = false) :
    (ofStack t).declare b = ofStack (t.declare b) := by
  obtain ⟨outer, nested⟩ := t
  rw [declare, if_neg (by simp [free])]
  cases nested <;> rfl

theorem pop_ofStack (outer innermost : List Binding) (others : List (List Binding)) :
    (ofStack ⟨outer, innermost :: others⟩).pop = ofStack ⟨outer, others⟩ := by
  have shallower : ∀ d ∈ Stack.declared outer others, d.depth < others.length + 1 := fun d member =>
    Nat.lt_succ_of_le (Stack.depth_le_of_mem_declared member)
  exact Scopes.ext (dropWhile_innermost shallower innermost) rfl

/-- Declarations in an open scope are added to its bindings, but for reserved qualifiers. -/
theorem foldl_declare_ofStack (outer innermost : List Binding) (others : List (List Binding))
    (declarations : List Binding) :
    declarations.foldl declare (ofStack ⟨outer, innermost :: others⟩) =
      ofStack ⟨outer, ((declarations.filter fun b => !Namespace.isReserved b.qualifier).reverse ++
        innermost) :: others⟩ := by
  apply Scopes.ext
  · simp [declared_foldl_declare, ofStack, Stack.declared]
  · exact depth_foldl_declare _ _

/-- Each call does to the list of a stack what it does to the stack. Bindings of reserved qualifiers are
in the stack only. -/
theorem perform_ofStack {t after : Stack} {call : Call} (performed : t.perform? call = some after) :
    (ofStack t.declarable).perform call = ofStack after.declarable := by
  obtain ⟨outer, nested⟩ := t
  cases call with
  | push =>
    cases performed
    rfl
  | declare b =>
    cases performed
    rw [perform]
    cases reserved : Namespace.isReserved b.qualifier with
    | true =>
      have unchanged : (Stack.mk outer nested).declarable =
          ((Stack.mk outer nested).declare b).declarable := by
        cases nested <;> simp [Stack.declarable, Stack.declare, reserved]
      rw [declare, if_pos reserved, unchanged]
    | false =>
      have kept : (Stack.mk outer nested).declarable.declare b =
          ((Stack.mk outer nested).declare b).declarable := by
        cases nested <;> simp [Stack.declarable, Stack.declare, reserved]
      rw [declare_ofStack _ reserved, kept]
  | pop =>
    cases nested with
    | nil => cases performed
    | cons innermost others =>
      cases performed
      exact pop_ofStack _ _ _

theorem run_ofStack {t after : Stack} {calls : List Call}
    (performed : calls.foldlM Stack.perform? t = some after) :
    (ofStack t.declarable).run calls = ofStack after.declarable := by
  induction calls generalizing t with
  | nil =>
    cases performed
    rfl
  | cons call rest ih =>
    rw [List.foldlM_cons] at performed
    obtain ⟨next, first, later⟩ := Option.bind_eq_some_iff.mp performed
    rw [run, List.foldl_cons, perform_ofStack first]
    exact ih later

theorem ofInherited_eq (inherited : List Binding) :
    ofInherited inherited = ofStack (Stack.declarable ⟨inherited.reverse, []⟩) := by
  apply Scopes.ext
  · rw [ofInherited, declared_foldl_declare, ← List.filter_reverse]
    exact List.append_nil _
  · exact depth_foldl_declare empty inherited

variable {t : Stack} {bindings : List Binding} {b : Binding} {qualifier : Option Text}

theorem bindings_declarable (t : Stack) :
    t.declarable.bindings = t.bindings.filter (!Namespace.isReserved ·.qualifier) := by
  rw [Stack.bindings, Stack.bindings, List.filter_append, List.filter_flatten]
  rfl

/-- A qualifier that can be declared stands for what the stack says. -/
theorem resolve?_ofStack (free : Namespace.isReserved qualifier = false) :
    (ofStack t.declarable).resolve? qualifier = t.latest? qualifier := by
  have apart := free
  rw [Namespace.isReserved, Bool.or_eq_false_iff] at apart
  have found : (ofStack t.declarable).bindings.find? (·.qualifier == qualifier) =
      t.bindings.find? (·.qualifier == qualifier) := by
    rw [bindings_ofStack, bindings_declarable, List.find?_filter]
    congr 1
    funext b
    by_cases same : b.qualifier = qualifier
    · simp [same, free]
    · simp [same]
  rw [resolve?, if_neg (by simp [apart.1]), if_neg (by simp [apart.2]), found, Stack.latest?]
  cases t.bindings.find? (·.qualifier == qualifier) with
  | none => rfl
  | some b => cases empty : b.uri.isEmpty <;> simp [Option.filter, empty]

theorem inScope_ofStack (t : Stack) :
    (ofStack t.declarable).inScope = t.bindings.foldr (fun b scope => Namespace.extend scope b) [] := by
  rw [inScope, bindings_ofStack, bindings_declarable, List.foldr_filter]
  congr 1
  funext b scope
  unfold Namespace.extend
  cases Namespace.isReserved b.qualifier <;> rfl

/-- Of bindings, the latest first, those are in force that no later one of their qualifier replaces. -/
theorem mem_foldr_extend_iff :
    b ∈ bindings.foldr (fun b scope => Namespace.extend scope b) [] ↔
      Namespace.isReserved b.qualifier = false ∧
        (bindings.find? (·.qualifier == b.qualifier)).filter (!·.uri.isEmpty) = some b := by
  induction bindings with
  | nil => simp
  | cons a others ih =>
    rw [List.foldr_cons, Namespace.extend]
    cases reserved : Namespace.isReserved a.qualifier with
    | true =>
      rw [if_pos rfl, ih]
      refine and_congr_right fun free => ?_
      have other : a.qualifier ≠ b.qualifier := by
        intro same
        rw [same, free] at reserved
        cases reserved
      rw [List.find?_cons_of_neg (by simpa using other)]
    | false =>
      rw [if_neg Bool.false_ne_true, override, List.mem_append, List.mem_filter, ih]
      by_cases same : a.qualifier = b.qualifier
      · have free : Namespace.isReserved b.qualifier = false := same ▸ reserved
        rw [List.find?_cons_of_pos (by simpa using same)]
        cases empty : a.uri.isEmpty with
        | true => simp [same, empty, Option.filter]
        | false => simpa [same, empty, free, Option.filter] using eq_comm
      · have other : b ≠ a := fun equal => same (equal ▸ rfl)
        rw [List.find?_cons_of_neg (by simpa using same)]
        cases empty : a.uri.isEmpty <;> simp [Ne.symm same, other]

/-- Bindings are in force in the order in which their qualifiers were last bound. -/
theorem pairwise_foldr_extend (bindings : List Binding) :
    (bindings.foldr (fun b scope => Namespace.extend scope b) []).Pairwise fun earlier later =>
      bindings.findIdx (·.qualifier == later.qualifier) <
        bindings.findIdx (·.qualifier == earlier.qualifier) := by
  induction bindings with
  | nil => exact .nil
  | cons a others ih =>
    have behind {b : Binding} (other : b.qualifier ≠ a.qualifier) :
        (a :: others).findIdx (·.qualifier == b.qualifier) =
          others.findIdx (·.qualifier == b.qualifier) + 1 := by
      have apart : (a.qualifier == b.qualifier) = false := by simpa using Ne.symm other
      rw [List.findIdx_cons, apart]
      rfl
    -- What was in force stays in its order, one place further back.
    have shifted {kept : List Binding} (others' : ∀ b ∈ kept, b.qualifier ≠ a.qualifier)
        (part : kept.Sublist (others.foldr (fun b scope => Namespace.extend scope b) [])) :
        kept.Pairwise fun earlier later =>
          (a :: others).findIdx (·.qualifier == later.qualifier) <
            (a :: others).findIdx (·.qualifier == earlier.qualifier) := by
      refine (ih.sublist part).imp_of_mem fun {b c} one two less => ?_
      rw [behind (others' b one), behind (others' c two)]
      exact Nat.succ_lt_succ less
    rw [List.foldr_cons, Namespace.extend]
    cases reserved : Namespace.isReserved a.qualifier with
    | true =>
      rw [if_pos rfl]
      refine shifted (fun b member same => ?_) (List.Sublist.refl _)
      rw [← same, (mem_foldr_extend_iff.mp member).1] at reserved
      cases reserved
    | false =>
      have kept : ∀ b ∈ (others.foldr (fun b scope => Namespace.extend scope b) []).filter
          (·.qualifier != a.qualifier), b.qualifier ≠ a.qualifier := by
        intro b member
        simpa using (List.mem_filter.mp member).2
      rw [if_neg Bool.false_ne_true, override]
      refine List.pairwise_append.mpr ⟨shifted kept List.filter_sublist, ?_, ?_⟩
      · cases a.uri.isEmpty <;> simp
      · intro b inside c last
        obtain rfl : c = a := by
          cases empty : a.uri.isEmpty <;> simp_all
        rw [behind (kept b inside)]
        simp [List.findIdx_cons]

/-- Calls of which none is left open declare something in the innermost scope, and no more. -/
theorem exists_run_balanced {calls : List Call} (balanced : Balanced calls) (s : Scopes) :
    ∃ declarations : List Binding, s.run calls = declarations.foldl declare s := by
  induction balanced generalizing s with
  | nil => exact ⟨[], rfl⟩
  | declare b _ ih =>
    obtain ⟨declarations, same⟩ := ih (s.declare b)
    exact ⟨b :: declarations, same⟩
  | @nested inner rest _ _ ih later =>
    obtain ⟨within, same⟩ := ih s.push
    obtain ⟨declarations, after⟩ := later s
    have closed : (s.push.run inner).pop = s := by rw [same, pop_foldl_declare]
    refine ⟨declarations, ?_⟩
    rw [← after, run, run, List.foldl_append, List.foldl_cons, List.foldl_cons]
    exact congrArg (fun s => List.foldl perform s rest) closed

/-- What is done in a scope is undone when it is closed. -/
theorem run_nested {inner : List Call} (balanced : Balanced inner) (s : Scopes) :
    s.run (.push :: inner ++ [.pop]) = s := by
  obtain ⟨declarations, same⟩ := exists_run_balanced balanced s.push
  have closed : (s.push.run inner).pop = s := by rw [same, pop_foldl_declare]
  rw [run, List.foldl_append]
  exact closed

/-- After any calls that close only open scopes, the depth is the number of open scopes, and a qualifier
stands for the name of its latest declaration in them or outside, none where there is none or its name is
empty. The bindings in force are those of the qualifiers that stand for a name, each once, in the order of
their latest declarations. Opening a scope, calls that leave none open, and closing it change nothing. -/
theorem run_stack {inherited : List Binding} {calls : List Call} {t : Stack} {s : Scopes}
    (performed : calls.foldlM Stack.perform? ⟨inherited.reverse, []⟩ = some t)
    (ran : (ofInherited inherited).run calls = s) :
    s.depth = t.nested.length ∧
      (∀ qualifier, Namespace.isReserved qualifier = false →
        s.resolve? qualifier = t.latest? qualifier) ∧
      (∀ b, b ∈ s.inScope ↔
        Namespace.isReserved b.qualifier = false ∧ s.resolve? b.qualifier = some b.uri) ∧
      (s.inScope.map (·.qualifier)).Nodup ∧
      (s.inScope.Pairwise fun earlier later =>
        t.bindings.findIdx (·.qualifier == later.qualifier) <
          t.bindings.findIdx (·.qualifier == earlier.qualifier)) ∧
      ∀ inner, Balanced inner → s.run (.push :: inner ++ [.pop]) = s := by
  have stacked : s = ofStack t.declarable := by
    rw [← ran, ofInherited_eq]
    exact run_ofStack performed
  subst stacked
  have inForce := inScope_ofStack t
  refine ⟨List.length_map _, fun _ => resolve?_ofStack, ?_, ?_, ?_, fun _ balanced => run_nested balanced _⟩
  · intro b
    rw [inForce, mem_foldr_extend_iff]
    refine and_congr_right fun free => ?_
    rw [resolve?_ofStack free, Stack.latest?]
    constructor
    · intro found
      rw [found]
      rfl
    · intro named
      obtain ⟨c, found, uri⟩ := Option.map_eq_some_iff.mp named
      have qualifier : c.qualifier = b.qualifier := by
        simpa using List.find?_some (Option.filter_eq_some_iff.mp found).1
      obtain rfl : c = b := by
        cases b
        cases c
        simp_all
      exact found
  · rw [inForce, ← List.foldl_reverse]
    exact (Namespace.proper_nil.foldl_extend _).distinct
  · rw [inForce]
    exact pairwise_foldr_extend t.bindings

/-- The default namespace is taken back and a qualifier is bound anew in the second of two scopes. What a
third scope declares is gone when it is closed. -/
theorem run_stack_of_shadowed :
    let calls : List Call := [.push, .declare ⟨some ['p'], ['v']⟩, .push, .declare ⟨none, []⟩,
      .declare ⟨some ['p'], ['w']⟩]
    let inner : List Call := [.declare ⟨none, ['x']⟩, .push, .pop]
    calls.foldlM Stack.perform? ⟨[⟨none, ['u']⟩], []⟩ =
        some ⟨[⟨none, ['u']⟩], [[⟨some ['p'], ['w']⟩, ⟨none, []⟩], [⟨some ['p'], ['v']⟩]]⟩ ∧
      Balanced inner ∧
      ((ofInherited [⟨none, ['u']⟩]).run calls).inScope = [⟨some ['p'], ['w']⟩] ∧
      ((ofInherited [⟨none, ['u']⟩]).run calls).resolve? none = none ∧
      ((ofInherited [⟨none, ['u']⟩]).run calls).run (.push :: inner ++ [.pop]) =
        (ofInherited [⟨none, ['u']⟩]).run calls := by
  intro calls inner
  have performed : calls.foldlM Stack.perform? ⟨[⟨none, ['u']⟩], []⟩ =
      some ⟨[⟨none, ['u']⟩], [[⟨some ['p'], ['w']⟩, ⟨none, []⟩], [⟨some ['p'], ['v']⟩]]⟩ := rfl
  have balanced : Balanced inner := .declare _ (.nested .nil .nil)
  obtain ⟨_, resolved, _, _, _, restored⟩ := @run_stack [⟨none, ['u']⟩] calls _ _ performed rfl
  exact ⟨performed, balanced, by decide, resolved none (by decide), restored inner balanced⟩

end Scopes

end MarkupQuery
