import MarkupQuery.Proofs.Path.Joining
import MarkupQuery.Proofs.Path.Sharing

/-!
Following a path. Going down a path is going down one segment after another, each to the first child that
matches it, so a path made of two leads where the second leads from where the first does. Main statement:
look-ups compose and agree with each other, and a miss is reported at the place up to which the path could
be followed (`Resolver.resolve_composes`).
-/
namespace MarkupQuery

namespace Place

/-- A walk that misses gets to some place and finds no child for the segment after it. -/
theorem exists_of_walk_eq_error {p failedAt : Place} {segments : List Segment}
    (missed : p.walk segments = .error failedAt) :
    ∃ before next after, segments = before ++ next :: after ∧ p.walk before = .ok failedAt ∧
      failedAt.walk [next] = .error failedAt := by
  induction segments generalizing p with
  | nil => cases missed
  | cons s rest ih =>
    rw [walk] at missed
    split at missed
    · rename_i none
      cases missed
      refine ⟨[], s, rest, rfl, rfl, ?_⟩
      rw [walk, none]
    · rename_i child found
      obtain ⟨before, next, after, rfl, reached, stuck⟩ := ih missed
      refine ⟨s :: before, next, after, rfl, ?_, stuck⟩
      rw [walk, found]
      exact reached

/-- Segments that can be followed do not go on past the place where a walk misses. -/
theorem isPrefix_of_walk {p failedAt q : Place} {before after further : List Segment} {next : Segment}
    (reached : p.walk before = .ok failedAt) (stuck : failedAt.walk [next] = .error failedAt)
    (part : further <+: before ++ next :: after) (followed : p.walk further = .ok q) :
    further <+: before := by
  rcases List.prefix_or_prefix_of_prefix part (List.prefix_append before (next :: after)) with
    shorter | ⟨rest, rfl⟩
  · exact shorter
  · rw [List.prefix_append_right_inj] at part
    cases rest with
    | nil => simp
    | cons s others =>
      obtain ⟨same, -⟩ := List.cons_prefix_cons.mp part
      have onward : failedAt.walk (s :: others) = .ok q := by
        rw [walk_append, reached] at followed
        exact followed
      rw [same, ← List.singleton_append, walk_append, stuck] at onward
      cases onward

/-- A step goes to the first of the children that match. -/
theorem walk_cons (p : Place) (s : Segment) (rest : List Segment) :
    p.walk (s :: rest) =
      match (p.childrenMatching s).head? with
      | none => .error p
      | some child => child.walk rest := by
  have first : (p.childrenMatching s).head? =
      p.children.find? fun child => s.matchesChild p.element child.element := List.head?_filter ..
  rw [first]
  rfl

end Place

namespace Resolver

variable {α β : Type}

/-- What a query comes to with a cache. -/
def answer (q : Query α) (cache : Option PathCache) : Except Failure α := (q.run.run cache).1

/-- What a query finds with a cache, nothing where it fails. -/
def found? (q : Query α) (cache : Option PathCache) : Option α := (answer q cache).toOption

/-- Goes down segment by segment, each time to the first of the children with the name that the segment is
written with. -/
def descend (r : Resolver) : List Segment → Place → Query (Option Place)
  | [], current => return some current
  | s :: rest, current => do
    match (← r.children s.render (.place current)).head? with
    | none => return none
    | some child => r.descend rest child

variable {r : Resolver} {first second joined path : Text} {cache after : Option PathCache}

theorem answer_map (f : α → β) (q : Query α) (cache : Option PathCache) :
    answer (f <$> q) cache = f <$> answer q cache := by
  rw [answer, answer, ExceptT.run_map]
  rfl

theorem answer_resolveFrom (r : Resolver) (start : Option Place) (path : Text)
    (cache : Option PathCache) :
    answer (r.resolveFrom start path) cache =
      match (start.getD r.context).walk (Path.parse path).segments with
      | .ok place => .ok place
      | .error failedAt => .error (.nodeNotFound path failedAt.node.render) := by
  have looked := lookup_run r path start (.fail : OnMissing Empty) cache
  rw [resolveFrom, answer_map]
  rw [answer, looked]
  cases (start.getD r.context).walk (Path.parse path).segments <;> rfl

theorem found?_resolveFrom (r : Resolver) (start : Option Place) (path : Text)
    (cache : Option PathCache) :
    found? (r.resolveFrom start path) cache =
      ((start.getD r.context).walk (Path.parse path).segments).toOption := by
  rw [found?, answer_resolveFrom]
  cases (start.getD r.context).walk (Path.parse path).segments <;> rfl

theorem answer_child (r : Resolver) (path : Text) (cache : Option PathCache) :
    answer (r.child (.path path)) cache =
      (fun place => { r with context := place }) <$> answer (r.resolve path) cache := by
  have opened : answer (r.child (.path path)) cache =
      answer ((fun place => { r with context := place }) <$> r.resolve path) cache := rfl
  rw [opened, answer_map]

/-- Going down by the names of the children is following the segments. -/
theorem answer_descend (r : Resolver) {segments : List Segment}
    (read : ∀ s ∈ segments, Segment.parse s.render = s) (current : Place) (cache : Option PathCache) :
    answer (r.descend segments current) cache = .ok (current.walk segments).toOption := by
  induction segments generalizing current with
  | nil => rfl
  | cons s rest ih =>
    have opened : answer (r.descend (s :: rest) current) cache =
        answer (match (current.childrenMatching (Segment.parse s.render)).head? with
          | none => return none
          | some child => r.descend rest child) cache := rfl
    rw [opened, read s (by simp), Place.walk_cons]
    cases (current.childrenMatching s).head? with
    | none => rfl
    | some child => exact ih (fun t member => read t (by simp [member])) child

theorem descend_read (path : Text) (part : List Segment)
    (inside : part <+: (Path.parse path).segments) :
    ∀ s ∈ part, Segment.parse s.render = s :=
  fun _ member => Path.parse_render_of_mem (inside.subset member)

theorem mapError_bind {ε ε' : Type} (g : ε → ε') (x : Except ε α) (f : α → Except ε β) :
    (x >>= f).mapError g = x.mapError g >>= fun a => (f a).mapError g := by
  cases x <;> rfl

theorem toOption_eq_of_mapError {ε ε' : Type} {a b : Except ε α} (g : ε → ε')
    (same : a.mapError g = b.mapError g) : a.toOption = b.toOption := by
  cases a <;> cases b <;> simp_all [Except.mapError, Except.toOption]

/-- A look-up leads where the walk does, or shows the node where the walk misses. -/
theorem markup_resolveFrom (r : Resolver) (start : Option Place) (path : Text)
    (cache : Option PathCache) :
    (answer (r.resolveFrom start path) cache).mapError Failure.markup? =
      ((start.getD r.context).walk (Path.parse path).segments).mapError (some ·.node.render) := by
  rw [answer_resolveFrom]
  cases (start.getD r.context).walk (Path.parse path).segments <;> rfl

/-- A path made of two leads where the second leads from where the first does. The failures name different
paths, but the same node. -/
theorem answer_joined (join : Path.Joined first second joined)
    (one : (Path.parse first).isSelf = false) (two : (Path.parse second).isSelf = false)
    (start : Option Place) (cache after : Option PathCache) :
    (answer (r.resolveFrom start joined) cache).mapError Failure.markup? =
      (answer (r.resolveFrom start first) cache >>= fun place =>
        answer (r.resolveFrom (some place) second) after).mapError Failure.markup? := by
  rw [markup_resolveFrom, join.segments one two, Place.walk_append, mapError_bind, mapError_bind,
    markup_resolveFrom]
  simp only [markup_resolveFrom, Option.getD_some]

/-- The same through a resolver for the node at the first path. -/
theorem answer_joined_child (join : Path.Joined first second joined)
    (one : (Path.parse first).isSelf = false) (two : (Path.parse second).isSelf = false)
    (cache after : Option PathCache) :
    (answer (r.resolve joined) cache).mapError Failure.markup? =
      (answer (r.child (.path first)) cache >>= fun inner =>
        answer (inner.resolve second) after).mapError Failure.markup? := by
  rw [resolve, answer_joined join one two none cache after, answer_child, resolve]
  cases answer (r.resolveFrom none first) cache <;> rfl

/-- The look-up that gives nothing on a miss finds what the one that fails does. -/
theorem find_eq_found? (r : Resolver) (path : Text) (cache : Option PathCache) :
    ((r.find path).run cache).1 = found? (r.resolve path) cache := by
  rw [find_run, resolve, found?_resolveFrom]
  rfl

theorem answer_lookup_useDefault {δ : Type} (r : Resolver) (path : Text) (start : Option Place)
    (default : δ) (cache : Option PathCache) :
    answer (r.lookup path start (.useDefault default)) cache =
      .ok ((found? (r.resolveFrom start path) cache).elim (.fallback default) .found) := by
  rw [answer, lookup_run, found?_resolveFrom]
  cases (start.getD r.context).walk (Path.parse path).segments <;> rfl

/-- A miss names the path as it was given and the place where the longest part that can be followed ends. -/
theorem exists_reached_of_failed {start : Option Place} {failure : Failure}
    (failed : answer (r.resolveFrom start path) cache = .error failure) :
    ∃ reached place, reached <+: (Path.parse path).segments ∧
      answer (r.descend reached (start.getD r.context)) cache = .ok (some place) ∧
      (∀ further, further <+: (Path.parse path).segments →
        answer (r.descend further (start.getD r.context)) cache ≠ .ok none → further <+: reached) ∧
      failure = .nodeNotFound path place.node.render := by
  rw [answer_resolveFrom] at failed
  cases walked : (start.getD r.context).walk (Path.parse path).segments with
  | ok place =>
    rw [walked] at failed
    cases failed
  | error failedAt =>
    rw [walked] at failed
    cases failed
    obtain ⟨before, next, later, split, reached, stuck⟩ := Place.exists_of_walk_eq_error walked
    have part : before <+: (Path.parse path).segments := by
      rw [split]
      exact List.prefix_append _ _
    refine ⟨before, failedAt, part, ?_, ?_, rfl⟩
    · rw [answer_descend r (descend_read path _ part), reached]
      rfl
    · intro further inside followed
      rw [answer_descend r (descend_read path _ inside)] at followed
      cases onward : (start.getD r.context).walk further with
      | error other =>
        rw [onward] at followed
        exact absurd rfl followed
      | ok place =>
        rw [split] at inside
        exact Place.isPrefix_of_walk reached stuck inside onward

/-- Look-ups compose. A path made of two comes to what the second comes to from where the first leads, from
any place, through a resolver for the node at the first, and for the look-up that gives nothing on a miss;
where it fails, the failure shows the node where one of the two steps failed. Any path finds what taking the
first of the children with the name of each segment finds. All look-ups agree on that, and where they miss,
the failure names the whole path and the node up to which it can be followed. -/
theorem resolve_composes (r : Resolver) (cache after : Option PathCache) :
    (∀ {first second joined : Text}, Path.Joined first second joined →
      (Path.parse first).isSelf = false → (Path.parse second).isSelf = false →
        (∀ start, (answer (r.resolveFrom start joined) cache).mapError Failure.markup? =
          (answer (r.resolveFrom start first) cache >>= fun place =>
            answer (r.resolveFrom (some place) second) after).mapError Failure.markup?) ∧
        (answer (r.resolve joined) cache).mapError Failure.markup? =
          (answer (r.child (.path first)) cache >>= fun inner =>
            answer (inner.resolve second) after).mapError Failure.markup? ∧
        ((r.find joined).run cache).1 =
          (found? (r.child (.path first)) cache).bind fun inner =>
            ((inner.find second).run after).1) ∧
    ∀ path start,
      answer (r.descend (Path.parse path).segments (start.getD r.context)) cache =
          .ok (found? (r.resolveFrom start path) cache) ∧
      ((({ r with context := start.getD r.context } : Resolver).find path).run cache).1 =
        found? (r.resolveFrom start path) cache ∧
      (∀ {δ : Type} (default : δ), answer (r.lookup path start (.useDefault default)) cache =
        .ok ((found? (r.resolveFrom start path) cache).elim (.fallback default) .found)) ∧
      ∀ failure, answer (r.resolveFrom start path) cache = .error failure →
        ∃ reached place, reached <+: (Path.parse path).segments ∧
          answer (r.descend reached (start.getD r.context)) cache = .ok (some place) ∧
          (∀ further, further <+: (Path.parse path).segments →
            answer (r.descend further (start.getD r.context)) cache ≠ .ok none →
              further <+: reached) ∧
          failure = .nodeNotFound path place.node.render := by
  constructor
  · intro first second joined join one two
    have through := answer_joined_child (r := r) join one two cache after
    refine ⟨fun start => answer_joined join one two start cache after, through, ?_⟩
    simp only [find_eq_found?, found?]
    rw [toOption_eq_of_mapError _ through]
    cases answer (r.child (.path first)) cache <;> rfl
  · intro path start
    refine ⟨?_, ?_, ?_, ?_⟩
    · rw [answer_descend r (descend_read path _ (List.prefix_refl _)), found?_resolveFrom]
    · rw [find_run, found?_resolveFrom]
    · intro δ default
      exact answer_lookup_useDefault r path start default cache
    · intro failure failed
      exact exists_reached_of_failed failed

/-- A grandchild, found with an arrow and with a full stop, and a path that can be followed half the way. -/
theorem resolve_composes_of_grandchild :
    let leaf : Node := ⟨Element.ofName ['b'], []⟩
    let r : Resolver :=
      ⟨Place.ofRoot ⟨Element.ofName ['r'], [⟨Element.ofName ['a'], [leaf]⟩]⟩, .default⟩
    Path.Joined ['a'] ['b'] "a->b".toList ∧ (Path.parse ['a']).isSelf = false ∧
      (Path.parse ['b']).isSelf = false ∧
      answer (r.resolveFrom none "a->b".toList) none = .ok ⟨[0, 0], leaf⟩ ∧
      (answer (r.resolveFrom none ['a']) none >>= fun place =>
        answer (r.resolveFrom (some place) ['b']) none).mapError Failure.markup? =
          .ok ⟨[0, 0], leaf⟩ ∧
      answer (r.resolveFrom none "a.c".toList) none =
        .error (.nodeNotFound "a.c".toList "<a><b/></a>".toList) ∧
      ∃ reached place, reached <+: (Path.parse "a.c".toList).segments ∧
        answer (r.descend reached r.context) none = .ok (some place) ∧
        Failure.nodeNotFound "a.c".toList "<a><b/></a>".toList =
          .nodeNotFound "a.c".toList place.node.render := by
  intro leaf r
  obtain ⟨composes, others⟩ := resolve_composes r none none
  have one : (Path.parse ['a']).isSelf = false := by decide
  have two : (Path.parse ['b']).isSelf = false := by decide
  have found : answer (r.resolveFrom none "a->b".toList) none = .ok ⟨[0, 0], leaf⟩ := by
    decide +kernel
  have failed : answer (r.resolveFrom none "a.c".toList) none =
      .error (.nodeNotFound "a.c".toList "<a><b/></a>".toList) := by decide +kernel
  have joined : Path.Joined ['a'] ['b'] "a->b".toList := .arrow
  have whole := (composes joined one two).1 none
  rw [found] at whole
  obtain ⟨reached, place, part, followed, _, named⟩ := (others _ none).2.2.2 _ failed
  exact ⟨joined, one, two, found, whole.symm, failed, reached, place, part, followed, named⟩

end Resolver

end MarkupQuery
