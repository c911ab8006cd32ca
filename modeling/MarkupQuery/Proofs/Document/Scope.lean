import MarkupQuery.Event
import MarkupQuery.Namespace

/-!
The bindings in force at an element, worked out from those around it one declaration at a time.
Open scopes keep every declaration; this module says what they amount to. Main statements: a
declaration extends the bindings in force (`Scopes.inScope_declare`), a qualifier stands for what
they say (`Scopes.lookup_inScope`), and declaring the bindings in force anew gives them back
(`Namespace.foldl_extend`).
-/
namespace MarkupQuery

namespace Namespace

/-- The bindings in force after one more declaration. Reserved qualifiers cannot be declared. -/
def extend (scope : List Binding) (b : Binding) : List Binding :=
  if isReserved b.qualifier then scope else Scopes.override b scope

/-- The name for which a qualifier stands where the given bindings are in force. -/
def lookup (scope : List Binding) (qualifier : Option Text) : Option Text :=
  if qualifier == some xmlQualifier then some xmlUri
  else if qualifier == some xmlnsQualifier then some xmlnsUri
  else (scope.find? (·.qualifier == qualifier)).map (·.uri)

/-- Bindings that can be in force together. -/
structure Proper (scope : List Binding) : Prop where
  distinct : (scope.map (·.qualifier)).Nodup
  bound : ∀ b ∈ scope, b.uri.isEmpty = false
  free : ∀ b ∈ scope, isReserved b.qualifier = false

theorem proper_nil : Proper [] where
  distinct := List.nodup_nil
  bound b member := by simp at member
  free b member := by simp at member

theorem Proper.extend {scope : List Binding} (h : Proper scope) (b : Binding) :
    Proper (extend scope b) := by
  unfold Namespace.extend
  cases reserved : isReserved b.qualifier with
  | true => exact h
  | false =>
    have kept : ∀ c ∈ scope.filter (·.qualifier != b.qualifier),
        c ∈ scope ∧ c.qualifier ≠ b.qualifier := by
      intro c member
      simpa using member
    have distinct : ((scope.filter (·.qualifier != b.qualifier)).map (·.qualifier)).Nodup :=
      h.distinct.sublist (List.filter_sublist.map _)
    unfold Scopes.override
    cases empty : b.uri.isEmpty with
    | true =>
      refine ⟨by simpa using distinct, ?_, ?_⟩
      · intro c member
        exact h.bound c (kept c (by simpa using member)).1
      · intro c member
        exact h.free c (kept c (by simpa using member)).1
    | false =>
      refine ⟨?_, ?_, ?_⟩
      · simp only [Bool.false_eq_true, if_false, List.map_append, List.map_cons, List.map_nil]
        rw [List.nodup_append]
        refine ⟨distinct, by simp, ?_⟩
        intro q member r last
        obtain ⟨c, inside, rfl⟩ := List.mem_map.mp member
        rw [List.mem_singleton.mp last]
        exact (kept c inside).2
      · intro c member
        rcases List.mem_append.mp member with inside | last
        · exact h.bound c (kept c inside).1
        · obtain rfl : c = b := by simpa using last
          exact empty
      · intro c member
        rcases List.mem_append.mp member with inside | last
        · exact h.free c (kept c inside).1
        · obtain rfl : c = b := by simpa using last
          exact reserved

theorem Proper.foldl_extend {scope : List Binding} (h : Proper scope)
    (declarations : List Binding) : Proper (declarations.foldl Namespace.extend scope) := by
  induction declarations generalizing scope with
  | nil => exact h
  | cons b others ih => exact ih (h.extend b)

/-- Bindings that can be in force together do not get into each other's way. -/
theorem foldl_extend {before scope : List Binding} (h : Proper (before ++ scope)) :
    scope.foldl extend before = before ++ scope := by
  induction scope generalizing before with
  | nil => simp
  | cons b others ih =>
    have reserved : isReserved b.qualifier = false := h.free b (by simp)
    have bound : b.uri.isEmpty = false := h.bound b (by simp)
    have fresh : before.filter (·.qualifier != b.qualifier) = before := by
      rw [List.filter_eq_self]
      intro c member
      have distinct := h.distinct
      rw [List.map_append, List.nodup_append] at distinct
      have different := distinct.2.2 c.qualifier (List.mem_map_of_mem member) b.qualifier (by simp)
      simpa using different
    have next : extend before b = before ++ [b] := by
      simp [extend, Scopes.override, reserved, bound, fresh]
    rw [List.foldl_cons, next, ih (by simpa using h)]
    simp

end Namespace

namespace Scopes

theorem inScope_push (s : Scopes) : s.push.inScope = s.inScope := by
  simp [push, inScope, bindings]

theorem inScope_declare (s : Scopes) (b : Binding) :
    (s.declare b).inScope = Namespace.extend s.inScope b := by
  unfold declare Namespace.extend
  by_cases reserved : Namespace.isReserved b.qualifier = true
  · rw [if_pos reserved, if_pos reserved]
  · rw [if_neg reserved, if_neg reserved]
    rfl

theorem inScope_foldl_declare (s : Scopes) (declarations : List Binding) :
    (declarations.foldl declare s).inScope = declarations.foldl Namespace.extend s.inScope := by
  induction declarations generalizing s with
  | nil => rfl
  | cons b others ih => rw [List.foldl_cons, List.foldl_cons, ih, inScope_declare]

theorem inScope_ofInherited {scope : List Binding} (h : Namespace.Proper scope) :
    (ofInherited scope).inScope = scope := by
  rw [ofInherited, inScope_foldl_declare]
  exact Namespace.foldl_extend h

/-- Declarations come before those made earlier, the latest first, but for reserved qualifiers. -/
theorem declared_foldl_declare (s : Scopes) (declarations : List Binding) :
    (declarations.foldl declare s).declared =
      (declarations.filter fun b => !Namespace.isReserved b.qualifier).reverse.map (Declared.mk · s.depth) ++
        s.declared := by
  induction declarations generalizing s with
  | nil => rfl
  | cons b others ih =>
    rw [List.foldl_cons, ih, declare]
    cases reserved : Namespace.isReserved b.qualifier with
    | true => rw [if_pos rfl, List.filter_cons_of_neg (by simp [reserved])]
    | false => simp [List.filter_cons_of_pos, reserved]

@[simp] theorem depth_foldl_declare (s : Scopes) (declarations : List Binding) :
    (declarations.foldl declare s).depth = s.depth := by
  induction declarations generalizing s with
  | nil => rfl
  | cons b others ih =>
    rw [List.foldl_cons, ih, declare]
    split
    · rfl
    · rfl

/-- Closing a scope drops what was declared in it and nothing else. -/
theorem dropWhile_innermost {depth : Nat} {outside : List Declared}
    (shallower : ∀ d ∈ outside, d.depth < depth) (innermost : List Binding) :
    (innermost.map (Declared.mk · depth) ++ outside).dropWhile (depth ≤ ·.depth) = outside := by
  rw [List.dropWhile_append_of_pos (by simp)]
  cases outside with
  | nil => rfl
  | cons d others =>
    have first := shallower d (by simp)
    rw [List.dropWhile_cons_of_neg (by simpa using first)]

/-- Declarations change the innermost scope only. -/
theorem pop_foldl_declare (s : Scopes) (declarations : List Binding) :
    (declarations.foldl declare s.push).pop = s := by
  apply Scopes.ext
  · have inside : ∀ d ∈ s.declared, d.depth < s.depth + 1 := fun d member =>
      Nat.lt_succ_of_le (s.depth_le d member)
    simp only [pop, depth_foldl_declare, declared_foldl_declare]
    exact dropWhile_innermost inside _
  · simp [pop, push]

theorem pop_push (s : Scopes) : s.push.pop = s := pop_foldl_declare s []

/-- A later declaration is found in the place of earlier ones of its qualifier, and of no others. -/
theorem find?_override (b : Binding) (active : List Binding) (qualifier : Option Text) :
    (override b active).find? (·.qualifier == qualifier) =
      if b.qualifier = qualifier then (some b).filter (!·.uri.isEmpty)
      else active.find? (·.qualifier == qualifier) := by
  unfold override
  rw [List.find?_append]
  by_cases same : b.qualifier = qualifier
  · have none : (active.filter (·.qualifier != b.qualifier)).find? (·.qualifier == qualifier) =
        none := by
      simp [same]
    rw [none, if_pos same]
    cases empty : b.uri.isEmpty <;> simp [same, empty, Option.filter]
  · have rest : (active.filter (·.qualifier != b.qualifier)).find? (·.qualifier == qualifier) =
        active.find? (·.qualifier == qualifier) := by
      rw [List.find?_filter]
      congr 1
      funext c
      by_cases wanted : c.qualifier = qualifier
      · simp [wanted, Ne.symm same]
      · simp [wanted]
    rw [rest, if_neg same]
    cases b.uri.isEmpty <;> simp [same]

/-- The latest declaration of a qualifier is the one in force, unless its name is empty. -/
theorem find?_inScope (s : Scopes) (qualifier : Option Text) :
    s.inScope.find? (·.qualifier == qualifier) =
      (s.bindings.find? (·.qualifier == qualifier)).filter (!·.uri.isEmpty) := by
  unfold inScope
  induction s.bindings with
  | nil => rfl
  | cons b others ih =>
    rw [List.foldr_cons, find?_override, ih]
    by_cases same : b.qualifier = qualifier
    · rw [if_pos same, List.find?_cons_of_pos (by simpa using same)]
    · rw [if_neg same, List.find?_cons_of_neg (by simpa using same)]

/-- A qualifier stands for what the bindings in force say. -/
theorem lookup_inScope (s : Scopes) (qualifier : Option Text) :
    Namespace.lookup s.inScope qualifier = s.resolve? qualifier := by
  unfold Namespace.lookup resolve?
  rw [find?_inScope]
  cases s.bindings.find? (·.qualifier == qualifier) with
  | none => rfl
  | some b => cases empty : b.uri.isEmpty <;> simp [Option.filter, empty]

end Scopes

namespace Tag

/-- The declarations of a tag, in the order in which they are written. -/
def bindings (tag : Tag) : List Binding := tag.declarations.map fun (q, uri) => ⟨q, uri⟩

/-- The bindings in force inside an element, from those around it. -/
def scope (tag : Tag) (around : List Binding) : List Binding :=
  tag.bindings.foldl Namespace.extend around

theorem proper_scope (tag : Tag) {around : List Binding} (h : Namespace.Proper around) :
    Namespace.Proper (tag.scope around) := h.foldl_extend tag.bindings

end Tag

end MarkupQuery
