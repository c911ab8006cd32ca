import MarkupQuery.Proofs.Path.Recency
import MarkupQuery.Proofs.Stream.Dispatch
import MarkupQuery.Resolver

/-!
Look-ups that share a cache of parsed paths. A session is what can be done with resolvers of one cache:
look-ups one after another, each chosen by what the earlier ones gave, with other requests to the cache in
between. Main statement: a session gives what it gives without a cache, and so does a stream whose callback
looks things up (`PathCache.serve_invisible`).
-/
namespace MarkupQuery

namespace Resolver

/-- What resolvers that share a cache can be used for. -/
inductive Session : {α : Type} → CacheM α → Prop
  | done {α : Type} (a : α) : Session (pure a)
  | lookup {δ : Type} (r : Resolver) (path : Text) (start : Option Place) (onMissing : OnMissing δ) :
      Session (r.lookup path start onMissing).run
  | find (r : Resolver) (path : Text) : Session (r.find path)
  | elsewhere (history : List PathCache.Request) :
      Session (modify (Option.map (·.serve history)))
  | bind {α β : Type} {m : CacheM α} {f : α → CacheM β} (first : Session m)
      (next : ∀ a, Session (f a)) : Session (m >>= f)

/-- What an action gives does not depend on the cache. -/
def Oblivious {α : Type} (m : CacheM α) : Prop := ∀ cache, (m.run cache).1 = (m.run none).1

variable {α β : Type}

theorem Oblivious.bind {m : CacheM α} {f : α → CacheM β} (first : Oblivious m)
    (next : ∀ a, Oblivious (f a)) : Oblivious (m >>= f) := by
  intro cache
  change ((f (m.run cache).1).run (m.run cache).2).1 = ((f (m.run none).1).run (m.run none).2).1
  rw [first cache, next _ (m.run cache).2, next _ (m.run none).2]

/-- A cache gives for a path what parsing it gives. -/
theorem expression_run (path : Text) (cache : Option PathCache) :
    ((expression path).run cache).1 = Path.parse path := by
  cases cache with
  | none => rfl
  | some c => exact c.path_get path

theorem lookup_opened {δ : Type} (r : Resolver) (path : Text) (start : Option Place)
    (onMissing : OnMissing δ) (cache : Option PathCache) :
    (r.lookup path start onMissing).run.run cache =
      (match (start.getD r.context).walk ((expression path).run cache).1.segments with
        | .ok place => return .found place
        | .error failedAt =>
          match onMissing with
          | .useDefault value => return .fallback value
          | .fail => throw (.nodeNotFound path failedAt.node.render) :
        Query (Lookup Place δ)).run.run ((expression path).run cache).2 := rfl

theorem find_opened (r : Resolver) (path : Text) (cache : Option PathCache) :
    (r.find path).run cache =
      (match r.context.walk ((expression path).run cache).1.segments with
        | .ok place => return some place
        | .error _ => return none : CacheM (Option Place)).run ((expression path).run cache).2 := rfl

/-- What a look-up comes to. -/
theorem lookup_run {δ : Type} (r : Resolver) (path : Text) (start : Option Place)
    (onMissing : OnMissing δ) (cache : Option PathCache) :
    ((r.lookup path start onMissing).run.run cache).1 =
      match (start.getD r.context).walk (Path.parse path).segments, onMissing with
      | .ok place, _ => .ok (.found place)
      | .error _, .useDefault value => .ok (.fallback value)
      | .error failedAt, .fail => .error (.nodeNotFound path failedAt.node.render) := by
  rw [lookup_opened, expression_run]
  cases (start.getD r.context).walk (Path.parse path).segments with
  | ok place => rfl
  | error failedAt => cases onMissing <;> rfl

theorem find_run (r : Resolver) (path : Text) (cache : Option PathCache) :
    ((r.find path).run cache).1 = (r.context.walk (Path.parse path).segments).toOption := by
  rw [find_opened, expression_run]
  cases r.context.walk (Path.parse path).segments <;> rfl

theorem Session.oblivious {m : CacheM α} (session : Session m) : Oblivious m := by
  induction session with
  | done a => exact fun _ => rfl
  | lookup r path start onMissing =>
    intro cache
    rw [lookup_run, lookup_run]
  | find r path =>
    intro cache
    rw [find_run, find_run]
  | elsewhere history => exact fun _ => rfl
  | bind _ _ first next => exact first.bind next

section

variable {δ : Type}

/-- One query after another is a session if both are. -/
theorem Session.query {q : Query α} {f : α → Query β} (first : Session q.run)
    (next : ∀ a, Session (f a).run) : Session (q >>= f).run := by
  rw [ExceptT.run_bind]
  refine first.bind fun outcome => ?_
  cases outcome with
  | ok a => exact next a
  | error failure => exact .done _

theorem Session.answer (a : α) : Session (pure a : Query α).run := .done _

theorem Session.fails (failure : Failure) : Session (throw failure : Query α).run := .done _

theorem Session.base (r : Resolver) (origin : Base) : Session (r.base origin).run := by
  cases origin with
  | context => exact .answer _
  | place place => exact .answer _
  | path path => exact Session.query (.lookup r path none .fail) fun found => .answer _

theorem Session.child (r : Resolver) (origin : Base) : Session (r.child origin).run :=
  (Session.base r origin).query fun _ => .answer _

theorem Session.children (r : Resolver) (tag : Text) (origin : Base) :
    Session (r.children tag origin).run :=
  (Session.base r origin).query fun _ => .answer _

theorem Session.childrenLike (r : Resolver) (pattern : Text) (origin : Base) :
    Session (r.childrenLike pattern origin).run := by
  unfold Resolver.childrenLike
  split
  · exact .fails _
  · exact (Session.base r origin).query fun _ => .answer _

theorem Session.attributeValue (r : Resolver) (name : Text) (origin : Base)
    (onMissing : OnMissing δ) : Session (r.attributeValue name origin onMissing).run := by
  refine (Session.base r origin).query fun place => ?_
  split
  · exact .answer _
  · exact .answer _
  · exact .fails _

theorem Session.value (r : Resolver) (path : Text) (start : Option Place) (onMissing : OnMissing δ) :
    Session (r.value path start onMissing).run :=
  (Session.lookup r path start onMissing).query fun _ => .answer _

theorem Session.valueAs (kind : ValueKind) (read : Text → Option α) (r : Resolver) (path : Text)
    (start : Option Place) (onMissing : OnMissing δ) :
    Session (r.valueAs kind read path start onMissing).run := by
  refine (Session.value r path start onMissing).query fun found => ?_
  exact .done _

theorem Session.resolveEach (r : Resolver) (paths : List Text) : Session (r.resolveEach paths) := by
  unfold Resolver.resolveEach
  induction paths with
  | nil => exact .done _
  | cons path others ih =>
    rw [List.mapM_cons]
    refine Session.bind ?_ fun _ => ih.bind fun _ => .done _
    exact (Session.lookup r path none .fail).query fun _ => .answer _

end

end Resolver

namespace Dispatcher

open Resolver (Session)

variable {σ ε α β : Type}

/-- An action of a callback is a session in every state of the callback. -/
def Looks (m : ExceptT ε (StateT σ CacheM) α) : Prop := ∀ s, Session (m.run.run s)

theorem Looks.done (a : α) : Looks (pure a : ExceptT ε (StateT σ CacheM) α) := fun _ => .done _

theorem Looks.fails (e : ε) : Looks (throw e : ExceptT ε (StateT σ CacheM) α) := fun _ => .done _

theorem Looks.bind {m : ExceptT ε (StateT σ CacheM) α} {f : α → ExceptT ε (StateT σ CacheM) β}
    (first : Looks m) (next : ∀ a, Looks (f a)) : Looks (m >>= f) := by
  intro s
  rw [ExceptT.run_bind, StateT.run_bind]
  refine (first s).bind ?_
  rintro ⟨_ | a, t⟩
  · exact .done _
  · exact next a t

variable {d : Dispatcher} {ofFault : StreamFault → ε} {callback : Callback σ ε}

theorem looks_callFor (asks : ∀ r, Looks (callback r)) (source : Text) (fragments : List Fragment) :
    Looks (d.callFor source ofFault callback fragments) := by
  induction fragments with
  | nil => exact .done _
  | cons fragment others ih =>
    rw [callFor_cons]
    cases fragment.load source with
    | error failure => exact .fails _
    | ok root => exact (asks _).bind fun _ => ih

/-- A stream does with the cache what its callback does. -/
theorem looks_stream (asks : ∀ r, Looks (callback r)) (input : Input) :
    Looks (d.stream input ofFault callback) := by
  obtain ⟨fault, _, run⟩ := d.stream_runs input
  rw [run]
  unfold runOn
  refine (looks_callFor asks _ _).bind fun _ => ?_
  split
  · exact .fails _
  · exact .fails _
  · exact .done _

end Dispatcher

namespace PathCache

open Resolver (Session)

/-- A cache shows only in how often paths are parsed. It gives for each text what parsing it gives, it holds as
many entries as there are different texts asked for since it was cleared, up to its capacity, and the entry
that was last given for a text is given again exactly if the cache was not cleared since and fewer other
texts than it has room for were asked for. So look-ups give what they give without a cache, whichever
resolvers make them and in whatever order, and so do those of the callback of a stream. -/
theorem serve_invisible {capacity : Nat} {c : PathCache} (made : ofCapacity? capacity = some c) :
    (∀ history text, ((c.serve history).get text).1.path = Path.parse text) ∧
    (∀ history, (c.serve history).size = min capacity (asked history).eraseDups.length) ∧
    (∀ earlier text between, Request.get text ∉ between →
      (((c.serve (earlier ++ .get text :: between)).get text).1 = ((c.serve earlier).get text).1 ↔
        Request.clear ∉ between ∧ (asked between).eraseDups.length < capacity)) ∧
    (∀ {α : Type} {m : CacheM α}, Session m → ∀ history,
      (m.run (some (c.serve history))).1 = (m.run none).1) ∧
    ∀ {σ ε : Type} (d : Dispatcher) (input : Input) (ofFault : StreamFault → ε)
      (callback : Callback σ ε), (∀ r s, Session ((callback r).run.run s)) → ∀ s history,
        (((d.stream input ofFault callback).run.run s).run (some (c.serve history))).1 =
          (((d.stream input ofFault callback).run.run s).run none).1 := by
  refine ⟨?_, size_serve made, ?_, ?_, ?_⟩
  · intro history text
    exact (c.serve history).path_get text
  · intro earlier text between unasked
    exact get_serve_eq_iff made unasked
  · intro α m session history
    exact session.oblivious _
  · intro σ ε d input ofFault callback asks s history
    exact (Dispatcher.looks_stream asks input s).oblivious _

/-- With room for two paths, one other path leaves an entry where it is, and two take its place. Looking up
the children at a path gives the same with this cache, and so does a stream whose callback does. -/
theorem serve_invisible_of_two_paths :
    ∃ c, ofCapacity? 2 = some c ∧
      (c.serve [.get ['a'], .get ['b'], .get ['c']]).size = 2 ∧
      Request.get ['a'] ∉ [Request.get ['b'], .get ['b']] ∧
      ((c.serve [.get ['a'], .get ['b'], .get ['b']]).get ['a']).1 = (c.get ['a']).1 ∧
      ((c.serve [.get ['a'], .get ['b'], .get ['c']]).get ['a']).1 ≠ (c.get ['a']).1 ∧
      (∀ r : Resolver, Session (r.children ['b'] (.path ['a'])).run ∧
        ((r.children ['b'] (.path ['a'])).run.run (some (c.serve [.get ['a']]))).1 =
          ((r.children ['b'] (.path ['a'])).run.run none).1) ∧
      ∀ d : Dispatcher, ∀ input : Input,
        let callback : Callback Nat Unit := fun r => do
          let children ← ((r.children ['b'] (.path ['a'])).run : CacheM _)
          modify (· + children.toOption.elim 0 List.length)
        (((d.stream input (fun _ => ()) callback).run.run 0).run (some (c.serve [.get ['a']]))).1 =
          (((d.stream input (fun _ => ()) callback).run.run 0).run none).1 := by
  have made : ofCapacity? 2 = some ⟨2, [], 0, by decide⟩ := rfl
  obtain ⟨_, sizes, entries, sessions, streams⟩ := serve_invisible made
  have asks (r : Resolver) := Session.children r ['b'] (.path ['a'])
  have other : Request.get ['a'] ∉ [Request.get ['b'], .get ['b']] := by decide
  refine ⟨_, made, sizes _, other, ?_, ?_, fun r => ⟨asks r, sessions (asks r) _⟩, ?_⟩
  · exact (entries [] ['a'] _ other).mpr (by decide)
  · exact fun same => absurd ((entries [] ['a'] _ (by decide)).mp same) (by decide)
  · intro d input callback
    refine streams d input _ callback ?_ 0 _
    intro r s
    exact (asks r).bind fun found => .done (Except.ok (), s + found.toOption.elim 0 List.length)

end PathCache

end MarkupQuery
