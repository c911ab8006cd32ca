import MarkupQuery.DateTime.Parse
import MarkupQuery.Failure
import MarkupQuery.Node.Markup
import MarkupQuery.Node.Place
import MarkupQuery.Path.Cache
import MarkupQuery.Pattern.Parser
import MarkupQuery.Value

/-!
Look-ups in a tree by path. Each segment of a path leads to the first child that matches it. A
look-up that misses either fails, with the markup of the node where it could not go on, or gives a
value that the caller has ready. Parsed paths are kept in a cache that all look-ups share; what it
holds makes no difference to any result.
-/
namespace MarkupQuery

/-- Whether a child of `parent` matches a segment. A name asks for the name as written. With a
qualifier the local parts have to agree, and the child has to be in the namespace for which the
qualifier stands at the parent; where it stands for none, the child has to have it as written. -/
def Segment.matchesChild (s : Segment) (parent child : Element) : Bool :=
  match s with
  | tag name => child.name == name
  | qualified qualifier localPart =>
    Name.localPart child.name == localPart &&
      match parent.lookup? (some qualifier) with
      | some uri => child.uri == some uri
      | none => Name.qualifier? child.name == some qualifier

namespace Place

/-- The children that match a segment. -/
def childrenMatching (p : Place) (s : Segment) : List Place :=
  p.children.filter fun child => s.matchesChild p.element child.element

/-- Follows segments, each to the first child that matches it. On a miss, the place whose children
lack the next segment. -/
def walk (p : Place) : List Segment → Except Place Place
  | [] => .ok p
  | s :: rest =>
    match p.children.find? fun child => s.matchesChild p.element child.element with
    | none => .error p
    | some child => child.walk rest

theorem walk_append (p : Place) (first second : List Segment) :
    p.walk (first ++ second) = p.walk first >>= (·.walk second) := by
  induction first generalizing p with
  | nil => rfl
  | cons s rest ih =>
    simp only [List.cons_append, walk]
    split
    · rfl
    · exact ih _

end Place

/-- What resolvers are made with: the decimal mark of numbers and the size of the path cache, zero
for none. -/
structure Settings where
  separator : Char
  cacheCapacity : Nat
  deriving DecidableEq, Repr

namespace Settings

def default : Settings := ⟨'.', 128⟩

/-- An empty cache, if the settings ask for one. -/
def cache? (s : Settings) : Option PathCache := PathCache.ofCapacity? s.cacheCapacity

end Settings

/-- What a look-up does on a miss. -/
inductive OnMissing (δ : Type)
  | fail
  | useDefault (value : δ)

/-- A value that was found, or the one that the caller had ready. -/
inductive Lookup (α δ : Type)
  | found (value : α)
  | fallback (value : δ)
  deriving DecidableEq, Repr

namespace Lookup

/-- Applies a step that may fail to a value that was found. -/
def tryMap {α β δ ε : Type} (f : α → Except ε β) : Lookup α δ → Except ε (Lookup β δ)
  | found value => found <$> f value
  | fallback value => .ok (fallback value)

def map {α β δ : Type} (f : α → β) : Lookup α δ → Lookup β δ
  | found value => found (f value)
  | fallback value => fallback value

/-- The value, wherever it comes from. -/
def get {α : Type} : Lookup α α → α
  | found value | fallback value => value

/-- The value of a look-up that has no other to fall back on. -/
def getFound {α : Type} : Lookup α Empty → α
  | found value => value

end Lookup

/-- Where a query starts: at the context, at a given place, or where a path from the context
leads. -/
inductive Base
  | context
  | place (place : Place)
  | path (path : Text)

/-- Queries share a cache of parsed paths. -/
abbrev CacheM := StateM (Option PathCache)

/-- A query that may fail. -/
abbrev Query := ExceptT Failure CacheM

/-- Look-ups from a context, with settings. -/
structure Resolver where
  context : Place
  settings : Settings
  deriving DecidableEq, Repr

namespace Resolver

/-- The parsed form of a path, from the cache if there is one. -/
def expression (path : Text) : CacheM Path := fun cache =>
  match cache with
  | none => (Path.parse path, none)
  | some c =>
    let (entry, after) := c.get path
    (entry.path, some after)

/-- Follows a path from `start`, or from the context. -/
def lookup {δ : Type} (r : Resolver) (path : Text) (start : Option Place)
    (onMissing : OnMissing δ) : Query (Lookup Place δ) := do
  let parsed ← (expression path : CacheM Path)
  match (start.getD r.context).walk parsed.segments with
  | .ok place => return .found place
  | .error failedAt =>
    match onMissing with
    | .useDefault value => return .fallback value
    | .fail => throw (.nodeNotFound path failedAt.node.render)

/-- The node at a path from `start`. -/
def resolveFrom (r : Resolver) (start : Option Place) (path : Text) : Query Place :=
  (·.getFound) <$> r.lookup path start .fail

/-- The node at a path from the context. -/
def resolve (r : Resolver) (path : Text) : Query Place := r.resolveFrom none path

/-- The node at a path from the context, none on a miss. -/
def find (r : Resolver) (path : Text) : CacheM (Option Place) := do
  let parsed ← expression path
  match r.context.walk parsed.segments with
  | .ok place => return some place
  | .error _ => return none

def base (r : Resolver) : Base → Query Place
  | .context => return r.context
  | .place place => return place
  | .path path => r.resolve path

/-- A resolver with the same settings for another context. -/
def child (r : Resolver) (origin : Base) : Query Resolver := do
  return { r with context := ← r.base origin }

/-- The children that match a name with or without a qualifier. -/
def children (r : Resolver) (tag : Text) (origin : Base) : Query (List Place) := do
  return (← r.base origin).childrenMatching (Segment.parse tag)

/-- The children part of whose name matches a regular expression. -/
def childrenLike (r : Resolver) (pattern : Text) (origin : Base) : Query (List Place) := do
  match Pattern.parse? pattern with
  | none => throw (.invalidPattern pattern)
  | some expression =>
    return (← r.base origin).children.filter fun child => expression.isMatch child.element.name

def attributes (r : Resolver) (origin : Base) : Query (List Attribute) := do
  return (← r.base origin).element.attributes

/-- The value of an attribute. -/
def attributeValue {δ : Type} (r : Resolver) (name : Text) (origin : Base)
    (onMissing : OnMissing δ) : Query (Lookup Text δ) := do
  let place ← r.base origin
  match place.element.attribute? name, onMissing with
  | some value, _ => return .found value
  | none, .useDefault value => return .fallback value
  | none, .fail => throw (.attributeNotFound name place.node.render)

/-- The text of a node, empty if it has none. -/
def value {δ : Type} (r : Resolver) (path : Text) (start : Option Place)
    (onMissing : OnMissing δ) : Query (Lookup Text δ) :=
  (·.map (·.element.value)) <$> r.lookup path start onMissing

/-- The text of a node, read as a value of some kind. A default is given as it is. -/
def valueAs {α δ : Type} (kind : ValueKind) (read : Text → Option α) (r : Resolver) (path : Text)
    (start : Option Place) (onMissing : OnMissing δ) : Query (Lookup α δ) := do
  let found ← r.value path start onMissing
  let converted : Except Failure (Lookup α δ) := found.tryMap fun text =>
    match read text with
    | some value => .ok value
    | none => .error (.invalidValue path text kind)
  converted

def integer {δ : Type} (r : Resolver) (path : Text) (start : Option Place)
    (onMissing : OnMissing δ) : Query (Lookup Int δ) :=
  valueAs .integer Value.integer? r path start onMissing

/-- A number; `separator` takes the place of the decimal mark of the settings. -/
def float {δ : Type} (r : Resolver) (separator : Option Char) (path : Text)
    (start : Option Place) (onMissing : OnMissing δ) : Query (Lookup Float δ) :=
  valueAs .float (Value.float? (separator.getD r.settings.separator)) r path start onMissing

def boolean {δ : Type} (r : Resolver) (path : Text) (start : Option Place)
    (onMissing : OnMissing δ) : Query (Lookup Bool δ) :=
  (·.map Value.boolean) <$> r.value path start onMissing

/-- A moment as seconds since the start of 1970, seen from `now`. -/
def timestamp {δ : Type} (r : Resolver) (now : DateTime) (path : Text) (start : Option Place)
    (onMissing : OnMissing δ) : Query (Lookup Int δ) :=
  valueAs .timestamp (fun text => (DateTime.parse? now text).map (·.seconds)) r path start
    onMissing

/-- A moment, seen from `now`. -/
def dateTime {δ : Type} (r : Resolver) (now : DateTime) (path : Text) (start : Option Place)
    (onMissing : OnMissing δ) : Query (Lookup DateTime δ) :=
  valueAs .dateTime (DateTime.parse? now) r path start onMissing

/-- The nodes at several paths, each with its own outcome. -/
def resolveEach (r : Resolver) (paths : List Text) : CacheM (List (Except Failure Place)) :=
  paths.mapM fun path => (r.resolve path).run

/-- The texts at several paths under their keys. -/
def valuesAt (r : Resolver) (pairs : List (Text × Text)) : Query (List (Text × Text)) :=
  pairs.mapM fun (key, path) => do
    return (key, (← r.value path none (.fail : OnMissing Empty)).getFound)

end Resolver

end MarkupQuery
