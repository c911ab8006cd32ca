import MarkupQuery.Proofs.Reader
import MarkupQuery.Proofs.Stream.Promptness
import MarkupQuery.Stream.Dispatcher

/-!
What a stream calls back for and how it ends. The fragments that the chunks of an input complete,
one after another, are those that a streamer hands out for all of it at once, and of the faults that
compete the first one in the order of the markup wins. Main statement: a stream is what one piece
with the same bytes makes of it, and the calls for the first elements do not depend on bytes after
them (`Dispatcher.stream_causal`).
-/
namespace MarkupQuery

namespace Dispatcher

variable {σ ε : Type}

/-- Loads fragments one after another and calls back for the tree of each. -/
def callFor (d : Dispatcher) (source : Text) (ofFault : StreamFault → ε)
    (callback : Callback σ ε) (fragments : List Fragment) : ExceptT ε (StateT σ CacheM) Unit :=
  fragments.forM fun fragment =>
    match fragment.load source with
    | .error failure => throw (ofFault (.failure failure))
    | .ok root => callback ⟨Place.ofRoot root, d.settings⟩

/-- A fragment that is not loaded and a callback that fails both stop the calls. -/
theorem callFor_cons (d : Dispatcher) (source : Text) (ofFault : StreamFault → ε)
    (callback : Callback σ ε) (fragment : Fragment) (others : List Fragment) :
    d.callFor source ofFault callback (fragment :: others) =
      match fragment.load source with
      | .error failure => throw (ofFault (.failure failure))
      | .ok root =>
        callback ⟨Place.ofRoot root, d.settings⟩ >>= fun _ =>
          d.callFor source ofFault callback others := by
  unfold callFor
  simp only [List.forM_eq_forM, List.forM_cons]
  cases fragment.load source <;> rfl

theorem callFor_append (d : Dispatcher) (source : Text) (ofFault : StreamFault → ε)
    (callback : Callback σ ε) (first second : List Fragment) :
    d.callFor source ofFault callback (first ++ second) =
      d.callFor source ofFault callback first >>= fun _ =>
        d.callFor source ofFault callback second := by
  unfold callFor
  simp

theorem deliver_eq (d : Dispatcher) (source : Text) (ofFault : StreamFault → ε)
    (callback : Callback σ ε) (fragments : List Fragment) :
    d.deliver source ofFault callback fragments = do
      d.callFor source ofFault callback fragments
      return fragments.length := by
  induction fragments with
  | nil => rfl
  | cons fragment others ih =>
    rw [deliver, callFor_cons]
    cases fragment.load source with
    | error failure => rfl
    | ok root => simp [ih]

theorem drain_eq (d : Dispatcher) (source : Text) (ofFault : StreamFault → ε)
    (callback : Callback σ ε) (s : Streamer) :
    d.drain source ofFault callback s = do
      d.callFor source ofFault callback s.drain.1
      match s.drain.2.1 with
      | some fault => throw (ofFault fault)
      | none => return (s.drain.1.length, s.drain.2.2) := by
  rw [drain]
  rcases s.drain with ⟨fragments, fault, after⟩
  dsimp only
  rw [deliver_eq]
  cases fault <;> simp

theorem feedAll_eq (d : Dispatcher) (source : Text) (ofFault : StreamFault → ε)
    (callback : Callback σ ε) (s : Streamer) (chunks : List Bytes) :
    d.feedAll source ofFault callback s chunks = do
      d.callFor source ofFault callback (s.feedAll chunks).1
      match (s.feedAll chunks).2.1 with
      | some fault => throw (ofFault fault)
      | none => return ((s.feedAll chunks).1.length, (s.feedAll chunks).2.2) := by
  induction chunks generalizing s with
  | nil => rfl
  | cons chunk others ih =>
    rw [feedAll, drain_eq, Streamer.feedAll]
    rcases (s.feed chunk).drain with ⟨fragments, _ | fault, after⟩
    · simp only [ih, callFor_append, bind_assoc, pure_bind]
      rcases after.feedAll others with ⟨more, _ | fault, last⟩ <;> simp
    · simp

/-- Calls back for fragments, then ends with a fault of the markup, else with one of the source,
else with the number of fragments. -/
def runOn (d : Dispatcher) (source : Text) (ofFault : StreamFault → ε) (callback : Callback σ ε)
    (fragments : List Fragment) (fault : Option StreamFault) (unreadable : Option ReadFault) :
    ExceptT ε (StateT σ CacheM) Nat := do
  d.callFor source ofFault callback fragments
  match fault, unreadable with
  | some fault, _ => throw (ofFault fault)
  | none, some cause => throw (ofFault (.failure (.unreadable source cause)))
  | none, none => return fragments.length

end Dispatcher

namespace Streamer

/-- All that a streamer hands out for chunks, and how that ends. It is finished unless the source of
the chunks failed. -/
def ofChunks (s : Streamer) (chunks : List Bytes) (unreadable : Option ReadFault) :
    List Fragment × Option StreamFault × Streamer :=
  if unreadable.isNone then s.streamed chunks else s.feedAll chunks

/-- The same for bytes that come in one piece and are drained once. -/
def ofPiece (s : Streamer) (bytes : Bytes) (unreadable : Option ReadFault) :
    List Fragment × Option StreamFault × Streamer :=
  if unreadable.isNone then (s.feed bytes).finish.drain else (s.feed bytes).drain

theorem DrainAgrees.fragments_eq {complete : Bool} {source : Text}
    {expected : List Fragment × Except ParseCause (Bytes × Selector)}
    {actual : List Fragment × Option StreamFault × Streamer}
    (h : DrainAgrees complete source expected actual) : expected.1 = actual.1 := by
  cases h <;> rfl

theorem ofPiece_agrees (path source : Text) (bytes : Bytes) (unreadable : Option ReadFault) :
    DrainAgrees unreadable.isNone source
      (((ofPath path source).selector 0).drain unreadable.isNone bytes)
      ((ofPath path source).ofPiece bytes unreadable) := by
  have start := within_ofPath path source
  cases unreadable with
  | none => exact drain_agrees (start.feed bytes).finish
  | some cause => exact feed_agrees start bytes

theorem ofChunks_agrees (path source : Text) (chunks : List Bytes)
    (unreadable : Option ReadFault) :
    DrainAgrees unreadable.isNone source
      (((ofPath path source).selector 0).drain unreadable.isNone chunks.flatten)
      ((ofPath path source).ofChunks chunks unreadable) := by
  have start := within_ofPath path source
  cases unreadable with
  | none => exact streamed_agrees start rfl (Selector.settled_nil _) chunks
  | some cause => exact feedAll_agrees start rfl (Selector.settled_nil _) chunks

/-- What a selector finds in the start of some bytes a streamer hands out first when it is fed all
of them. -/
theorem ofPiece_append (path source : Text) (read more : Bytes) (unreadable : Option ReadFault) :
    (((ofPath path source).selector 0).drain false read).1 <+:
      ((ofPath path source).ofPiece (read ++ more) unreadable).1 := by
  have whole := (ofPiece_agrees path source (read ++ more) unreadable).fragments_eq
  rw [← whole, Selector.drain_append_drain]
  rcases ((ofPath path source).selector 0).drain false read with ⟨fragments, _ | ⟨rest, after⟩⟩
  · exact List.prefix_refl _
  · exact List.prefix_append _ _

/-- Each fragment ends some start of the bytes, with which any other bytes give the same fragments
up to this one. -/
theorem ofPiece_prompt (path source : Text) {bytes : Bytes} {unreadable : Option ReadFault}
    {first others : List Fragment} {fragment : Fragment}
    (found : ((ofPath path source).ofPiece bytes unreadable).1 = first ++ fragment :: others) :
    ∃ read, read <+: bytes ∧ Utf8.encode fragment.markup <:+ read ∧
      ∀ (other : Text) (more : Bytes) (unreadable' : Option ReadFault), first ++ [fragment] <+:
        ((ofPath path other).ofPiece (read ++ more) unreadable').1 := by
  have drained := (ofPiece_agrees path source bytes unreadable).fragments_eq
  rw [found] at drained
  have nothing : ((ofPath path source).selector 0).Trailing [] := fun h held => by cases held
  obtain ⟨read, start, ends, same⟩ := Selector.drain_prompt nothing drained
  refine ⟨read, start, ends, ?_⟩
  intro other more unreadable'
  rw [← same]
  exact ofPiece_append path other read more unreadable'

theorem SameOutcome.euclidean {source : Text} {first second third : Option StreamFault}
    (one : SameOutcome source first second) (two : SameOutcome source first third) :
    SameOutcome source second third := by
  cases one with
  | complete =>
    cases two
    exact .complete
  | failed same _ =>
    cases two with
    | failed other _ =>
      have causes := same.symm.trans other
      exact .failed causes (ParseCause.sameUpToOffset causes)

end Streamer

namespace Dispatcher

theorem stream_eq (d : Dispatcher) (input : Input) (ofFault : StreamFault → ε)
    (callback : Callback σ ε) :
    d.stream input ofFault callback =
      let (chunks, unreadable) := (ChunkReader.ofSource input.source d.chunkSize).chunks
      let outcome := (Streamer.ofPath d.target input.name).ofChunks chunks unreadable
      d.runOn input.name ofFault callback outcome.1 outcome.2.1 unreadable := by
  rw [stream]
  rcases (ChunkReader.ofSource input.source d.chunkSize).chunks with ⟨chunks, _ | cause⟩
  · simp only [feedAll_eq, drain_eq, runOn, Streamer.ofChunks, Streamer.streamed]
    rcases (Streamer.ofPath d.target input.name).feedAll chunks with ⟨fragments, _ | fault, after⟩
    · rcases drained : after.finish.drain with ⟨more, _ | fault, last⟩
      · simp [drained, callFor_append]
      · simp [drained, callFor_append]
    · simp
  · simp only [feedAll_eq, runOn, Streamer.ofChunks]
    rcases (Streamer.ofPath d.target input.name).feedAll chunks with ⟨fragments, _ | fault, after⟩
    · simp
    · simp

/-- All that a streamer hands out when it is fed in one piece what an input delivers. -/
def inOnePiece (d : Dispatcher) (input : Input) : List Fragment × Option StreamFault × Streamer :=
  (Streamer.ofPath d.target input.name).ofPiece input.source.delivered.1
    input.source.delivered.2

/-- A stream calls back for the fragments that a streamer hands out in one piece, and ends as it
does. -/
theorem stream_runs (d : Dispatcher) (input : Input) :
    ∃ fault, Streamer.SameOutcome input.name (d.inOnePiece input).2.1 fault ∧
      ∀ {σ ε : Type} (ofFault : StreamFault → ε) (callback : Callback σ ε),
        d.stream input ofFault callback = d.runOn input.name ofFault callback
          (d.inOnePiece input).1 fault input.source.delivered.2 := by
  have chunked := ChunkReader.chunks_ofSource input.source d.chunkSize
  rcases read : (ChunkReader.ofSource input.source d.chunkSize).chunks with ⟨chunks, unreadable⟩
  rw [read] at chunked
  obtain ⟨bytes, failed⟩ := chunked
  dsimp only at bytes failed
  have once := Streamer.ofPiece_agrees d.target input.name chunks.flatten unreadable
  have many := Streamer.ofChunks_agrees d.target input.name chunks unreadable
  obtain ⟨same, ends⟩ := once.sameOutcome many
  rw [inOnePiece, ← bytes, ← failed]
  refine ⟨_, ends, ?_⟩
  intro σ ε ofFault callback
  rw [stream_eq, read, same]

theorem callFor_congr {d d' : Dispatcher} (settings : d'.settings = d.settings) (source : Text)
    (ofFault : StreamFault → ε) (callback : Callback σ ε) (fragments : List Fragment) :
    d'.callFor source ofFault callback fragments = d.callFor source ofFault callback fragments := by
  rw [callFor, callFor, settings]

theorem runOn_congr {d d' : Dispatcher} (settings : d'.settings = d.settings) {source : Text}
    {ofFault : StreamFault → ε} (callback : Callback σ ε) (fragments : List Fragment)
    {fault fault' : Option StreamFault} (same : Streamer.SameOutcome source fault fault')
    (blind : ∀ f g, Streamer.SameOutcome source (some f) (some g) → ofFault f = ofFault g)
    (unreadable : Option ReadFault) :
    d'.runOn source ofFault callback fragments fault' unreadable =
      d.runOn source ofFault callback fragments fault unreadable := by
  unfold runOn
  rw [callFor_congr settings]
  cases same with
  | complete => rfl
  | failed causes message =>
    have equal := blind _ _ (.failed causes message)
    dsimp only
    rw [equal]

/-- The calls for the first fragments come first. -/
theorem runOn_prefix (d : Dispatcher) (source : Text) (ofFault : StreamFault → ε)
    (callback : Callback σ ε) {first fragments : List Fragment} (start : first <+: fragments)
    (fault : Option StreamFault) (unreadable : Option ReadFault) :
    ∃ rest, d.runOn source ofFault callback fragments fault unreadable =
      d.callFor source ofFault callback first >>= fun _ => rest := by
  obtain ⟨others, rfl⟩ := start
  unfold runOn
  rw [callFor_append, bind_assoc]
  exact ⟨_, rfl⟩

/-- Streaming is causal. A stream calls back for the fragments that a streamer hands out when it is
fed all that the source delivers in one piece, and ends with the first of these faults: that of a
fragment or a callback, that of the streamer, that of the source. So how the bytes are cut into
reads and chunks shows at most in the content and the offset of a fault. The markup of each fragment
ends some start of the bytes, and every input that delivers this start makes the same first calls,
up to the one for this fragment. -/
theorem stream_causal (d : Dispatcher) (input : Input) :
    (∃ fault, Streamer.SameOutcome input.name (d.inOnePiece input).2.1 fault ∧
      ∀ {σ ε : Type} (ofFault : StreamFault → ε) (callback : Callback σ ε),
        d.stream input ofFault callback = d.runOn input.name ofFault callback
          (d.inOnePiece input).1 fault input.source.delivered.2) ∧
    (∀ (d' : Dispatcher) (input' : Input), d'.target = d.target → d'.settings = d.settings →
      input'.name = input.name → input'.source.delivered = input.source.delivered →
      ∀ {σ ε : Type} (ofFault : StreamFault → ε) (callback : Callback σ ε),
        (∀ f g, Streamer.SameOutcome input.name (some f) (some g) → ofFault f = ofFault g) →
        d'.stream input' ofFault callback = d.stream input ofFault callback) ∧
    ∀ (first others : List Fragment) (fragment : Fragment),
      (d.inOnePiece input).1 = first ++ fragment :: others →
      ∃ read, read <+: input.source.delivered.1 ∧ Utf8.encode fragment.markup <:+ read ∧
        ∀ (d' : Dispatcher) (input' : Input), d'.target = d.target → d'.settings = d.settings →
          read <+: input'.source.delivered.1 →
          ∀ {σ ε : Type} (ofFault : StreamFault → ε) (callback : Callback σ ε),
            ∃ rest, d'.stream input' ofFault callback =
              d.callFor input'.name ofFault callback (first ++ [fragment]) >>= fun _ => rest := by
  refine ⟨d.stream_runs input, ?_, ?_⟩
  · intro d' input' target settings name delivered σ ε ofFault callback blind
    obtain ⟨fault, one, run⟩ := d.stream_runs input
    obtain ⟨fault', two, run'⟩ := d'.stream_runs input'
    have pieces : d'.inOnePiece input' = d.inOnePiece input := by
      rw [inOnePiece, inOnePiece, target, name, delivered]
    rw [pieces, name] at two
    rw [run, run', pieces, name, delivered]
    exact runOn_congr settings callback _ (one.euclidean two) blind _
  · intro first others fragment found
    obtain ⟨read, start, ends, same⟩ := Streamer.ofPiece_prompt d.target input.name found
    refine ⟨read, start, ends, ?_⟩
    rintro d' input' target settings ⟨more, delivered⟩ σ ε ofFault callback
    obtain ⟨fault, _, run⟩ := d'.stream_runs input'
    have begun := same input'.name more input'.source.delivered.2
    rw [delivered, ← target] at begun
    rw [run, ← callFor_congr settings]
    exact d'.runOn_prefix input'.name ofFault callback begun fault _

/-- An interrupted input with one element, and the same bytes read one by one. -/
theorem stream_of_interrupted :
    (.named [] [.data [0x3c, 0x61, 0x2f, 0x3e]] : Input).source.delivered =
        (.named [] [.data [0x3c, 0x61], .interrupted, .data [0x2f, 0x3e]] :
          Input).source.delivered ∧
      ((ofPath ['a'] .default).inOnePiece
          (.named [] [.data [0x3c, 0x61], .interrupted, .data [0x2f, 0x3e]])).1 =
        [⟨['<', 'a', '/', '>'], []⟩] ∧
      ((ofPath ['a'] .default).withChunkSize 1).stream
          (.named [] [.data [0x3c, 0x61, 0x2f, 0x3e]]) (fun _ => ())
          (fun _ => pure () : Callback Unit Unit) =
        (ofPath ['a'] .default).stream
          (.named [] [.data [0x3c, 0x61], .interrupted, .data [0x2f, 0x3e]]) (fun _ => ())
          (fun _ => pure () : Callback Unit Unit) ∧
      ∃ read : Bytes, read <+: [0x3c, 0x61, 0x2f, 0x3e] ∧
        Utf8.encode ['<', 'a', '/', '>'] <:+ read := by
  have delivered : (.named [] [.data [0x3c, 0x61, 0x2f, 0x3e]] : Input).source.delivered =
      (.named [] [.data [0x3c, 0x61], .interrupted, .data [0x2f, 0x3e]] :
        Input).source.delivered := by decide
  have found : ((ofPath ['a'] .default).inOnePiece
      (.named [] [.data [0x3c, 0x61], .interrupted, .data [0x2f, 0x3e]])).1 =
        [⟨['<', 'a', '/', '>'], []⟩] := by decide +kernel
  obtain ⟨_, uncut, causal⟩ := stream_causal (ofPath ['a'] .default)
    (.named [] [.data [0x3c, 0x61], .interrupted, .data [0x2f, 0x3e]])
  obtain ⟨read, start, ends, _⟩ := causal [] [] _ found
  have same := uncut ((ofPath ['a'] .default).withChunkSize 1)
    (.named [] [.data [0x3c, 0x61, 0x2f, 0x3e]]) rfl rfl rfl delivered (fun _ => ())
    (fun _ => pure () : Callback Unit Unit) fun _ _ _ => rfl
  exact ⟨delivered, found, same, read, start, ends⟩

end Dispatcher

end MarkupQuery
