import MarkupQuery.Utf8

/-!
Namespace declarations in nested scopes. A qualifier stands for the name that the innermost
declaration binds to it; the empty name takes a binding away. The qualifiers `xml` and `xmlns`
have fixed names and cannot be declared.
-/
namespace MarkupQuery

/-- A qualifier, absent for the default namespace, and the name bound to it. -/
structure Binding where
  qualifier : Option Text
  uri : Text
  deriving DecidableEq, Repr

namespace Namespace

/-- `xml` -/
def xmlQualifier : Text := ['x', 'm', 'l']

/-- `xmlns` -/
def xmlnsQualifier : Text := ['x', 'm', 'l', 'n', 's']

def xmlUri : Text := "http://www.w3.org/XML/1998/namespace".toList

def xmlnsUri : Text := "http://www.w3.org/2000/xmlns/".toList

/-- Whether a qualifier cannot be declared. -/
def isReserved (qualifier : Option Text) : Bool :=
  qualifier == some xmlQualifier || qualifier == some xmlnsQualifier

end Namespace

/-- A declaration, with how many scopes were open when it was made. -/
structure Scopes.Declared where
  binding : Binding
  depth : Nat
  deriving DecidableEq, Repr

/-- The declarations in force or shadowed, the latest first, and how many scopes are open. Those made
outside all scopes have depth zero. -/
@[ext]
structure Scopes where
  declared : List Scopes.Declared
  depth : Nat
  descending : declared.Pairwise fun later earlier => earlier.depth ≤ later.depth
  depth_le : ∀ d ∈ declared, d.depth ≤ depth
  deriving DecidableEq, Repr

namespace Scopes

def empty : Scopes := ⟨[], 0, .nil, by simp⟩

/-- Opens a scope. -/
def push (s : Scopes) : Scopes where
  declared := s.declared
  depth := s.depth + 1
  descending := s.descending
  depth_le d member := Nat.le_succ_of_le (s.depth_le d member)

theorem depth_lt_of_mem_dropWhile {depth : Nat} {declared : List Declared} {d : Declared}
    (descending : declared.Pairwise fun later earlier => earlier.depth ≤ later.depth)
    (member : d ∈ declared.dropWhile (depth ≤ ·.depth)) : d.depth < depth := by
  induction declared with
  | nil => cases member
  | cons e others ih =>
    rw [List.pairwise_cons] at descending
    rw [List.dropWhile_cons] at member
    split at member
    · exact ih descending.2 member
    · rename_i outside
      have first : e.depth < depth := by simpa using outside
      rcases List.mem_cons.mp member with rfl | later
      · exact first
      · exact Nat.lt_of_le_of_lt (descending.1 d later) first

/-- Closes the innermost scope: the latest declarations are dropped as long as they are as deep as it
is. Where no scope is open, this drops what was declared outside. -/
def pop (s : Scopes) : Scopes where
  declared := s.declared.dropWhile (s.depth ≤ ·.depth)
  depth := s.depth - 1
  descending := s.descending.sublist (List.dropWhile_sublist _)
  depth_le _ member := Nat.le_sub_one_of_lt (depth_lt_of_mem_dropWhile s.descending member)

/-- Adds a declaration to the innermost scope, unless its qualifier is reserved. -/
def declare (s : Scopes) (b : Binding) : Scopes :=
  if Namespace.isReserved b.qualifier then s
  else
    { declared := ⟨b, s.depth⟩ :: s.declared
      depth := s.depth
      descending := .cons s.depth_le s.descending
      depth_le := List.forall_mem_cons.mpr ⟨Nat.le_refl _, s.depth_le⟩ }

/-- Scopes around which the given declarations hold. -/
def ofInherited (inherited : List Binding) : Scopes := inherited.foldl declare empty

/-- All declarations, the latest first. -/
def bindings (s : Scopes) : List Binding := s.declared.map (·.binding)

/-- The name for which a qualifier stands. -/
def resolve? (s : Scopes) (qualifier : Option Text) : Option Text :=
  if qualifier == some Namespace.xmlQualifier then some Namespace.xmlUri
  else if qualifier == some Namespace.xmlnsQualifier then some Namespace.xmlnsUri
  else
    match s.bindings.find? (·.qualifier == qualifier) with
    | none => none
    | some b => if b.uri.isEmpty then none else some b.uri

/-- A later declaration takes the place of an earlier one of its qualifier at the end of the
list, or of nothing where its name is empty. -/
def override (b : Binding) (active : List Binding) : List Binding :=
  active.filter (·.qualifier != b.qualifier) ++ if b.uri.isEmpty then [] else [b]

/-- The bindings in force, one for each bound qualifier, ordered by its latest declaration. -/
def inScope (s : Scopes) : List Binding := s.bindings.foldr override []

end Scopes

end MarkupQuery
