import MarkupQuery.Resolver
import MarkupQuery.Stream.Streamer

/-!
Streaming an input and calling back once for every element at a path, with a resolver for the tree
of that element. The resolvers of one stream share a cache of parsed paths. The callback may keep a
state of its own and may stop the stream with an error; what it did to its state remains.
-/
namespace MarkupQuery

/-- What is done with each element; the state `σ` is the callback's own. -/
abbrev Callback (σ ε : Type) := Resolver → ExceptT ε (StateT σ CacheM) Unit

/-- A path whose elements are wanted, the settings of their resolvers, and how many bytes are read
at a time. -/
structure Dispatcher where
  target : Text
  settings : Settings
  chunkSize : Nat
  deriving DecidableEq, Repr

namespace Dispatcher

/-- A dispatcher for the elements at a path. -/
def ofPath (path : Text) (settings : Settings) : Dispatcher :=
  ⟨(Path.parse path).normalized, settings, ChunkReader.defaultCapacity⟩

def withChunkSize (d : Dispatcher) (size : Nat) : Dispatcher :=
  { d with chunkSize := max size 1 }

variable {σ ε : Type}

/-- Calls back for fragments in order; the number of them. -/
def deliver (d : Dispatcher) (source : Text) (ofFault : StreamFault → ε)
    (callback : Callback σ ε) : List Fragment → ExceptT ε (StateT σ CacheM) Nat
  | [] => return 0
  | fragment :: others =>
    match fragment.load source with
    | .error failure => throw (ofFault (.failure failure))
    | .ok root => do
      callback ⟨Place.ofRoot root, d.settings⟩
      return (← d.deliver source ofFault callback others) + 1

/-- Calls back for all fragments that the pending bytes of a streamer complete. -/
def drain (d : Dispatcher) (source : Text) (ofFault : StreamFault → ε)
    (callback : Callback σ ε) (s : Streamer) : ExceptT ε (StateT σ CacheM) (Nat × Streamer) := do
  let (fragments, fault, after) := s.drain
  let count ← d.deliver source ofFault callback fragments
  match fault with
  | some fault => throw (ofFault fault)
  | none => return (count, after)

/-- Feeds chunks one after another and calls back after each. -/
def feedAll (d : Dispatcher) (source : Text) (ofFault : StreamFault → ε)
    (callback : Callback σ ε) (s : Streamer) :
    List Bytes → ExceptT ε (StateT σ CacheM) (Nat × Streamer)
  | [] => return (0, s)
  | chunk :: others => do
    let (count, s) ← d.drain source ofFault callback (s.feed chunk)
    let (more, s) ← d.feedAll source ofFault callback s others
    return (count + more, s)

/-- Streams an input; the number of elements for which the callback was called. A source that
fails does so after everything that it delivered before has been dealt with. -/
def stream (d : Dispatcher) (input : Input) (ofFault : StreamFault → ε)
    (callback : Callback σ ε) : ExceptT ε (StateT σ CacheM) Nat := do
  let (chunks, fault) := (ChunkReader.ofSource input.source d.chunkSize).chunks
  let (count, s) ←
    d.feedAll input.name ofFault callback (Streamer.ofPath d.target input.name) chunks
  match fault with
  | some fault => throw (ofFault (.failure (.unreadable input.name fault)))
  | none => do
    let (more, _) ← d.drain input.name ofFault callback s.finish
    return count + more

end Dispatcher

end MarkupQuery
