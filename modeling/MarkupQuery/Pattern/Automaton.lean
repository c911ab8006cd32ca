import MarkupQuery.Pattern.Outline

/-!
How much room the automaton of an expression takes. It reads bytes, and it is built once to be run
from the start of a match and once to be run from its end; an expression is refused if one of the
two would be too large. States are numbered in the order in which they are made. Those for a set of
characters are shared where tables with a fixed number of slots still know an equal one. Building
stops as soon as there is no room left, so a repetition costs no more time than its automaton may
take up.
-/
namespace MarkupQuery

/-- The states made so far, and the bytes that they take beyond what every state takes. -/
structure Tally where
  states : Nat
  extra : Nat
  deriving DecidableEq, Repr

namespace Tally

def empty : Tally := ⟨0, 0⟩

/-- The bytes of a state without what it lists. -/
def stateSize : Nat := 32

/-- The bytes of an arrow with a range of bytes on it, in the list of a state. -/
def arrowSize : Nat := 8

/-- The bytes of an arrow without one. -/
def jumpSize : Nat := 4

/-- The most bytes that an automaton may take: ten mebibytes. -/
def limit : Nat := 10485760

/-- The tally, if it is within the limit. -/
def checked (t : Tally) : Option Tally :=
  if t.states * stateSize + t.extra ≤ limit then some t else none

/-- Makes some states. -/
def add (t : Tally) (count extra : Nat) : Option Tally :=
  checked ⟨t.states + count, t.extra + extra⟩

/-- Leads from the end of a part to what follows it. A part that is `forked` ends in a state that
lists where it leads, all others have room for this. -/
def leave (t : Tally) (forked : Bool) : Option Tally :=
  if forked then t.add 0 jumpSize else some t

end Tally

namespace Automaton

/-! ### Slots -/

/-- Mixes a number into a hash. -/
def mix (hash : UInt64) (n : Nat) : UInt64 := (hash ^^^ n.toUInt64) * 1099511628211

/-- The hash of nothing. -/
def seed : UInt64 := 14695981039346656037

/-! ### A set read forwards -/

/-- An arrow to a state by the number of the latter. -/
structure Arrow where
  range : ByteRange
  target : Nat
  deriving DecidableEq, Repr

def Arrow.mixInto (hash : UInt64) (a : Arrow) : UInt64 :=
  mix (mix (mix hash a.range.1.toNat) a.range.2.toNat) a.target

/-- A state that may still get arrows: those that it has, the latest first, and the range of the
next, whose target is not yet known. -/
structure OpenState where
  arrows : List Arrow
  next : Option ByteRange
  deriving DecidableEq, Repr

/-- Gives the next arrow its target. -/
def OpenState.settle (s : OpenState) (target : Nat) : OpenState :=
  match s.next with
  | none => s
  | some range => ⟨⟨range, target⟩ :: s.arrows, none⟩

/-- The states of a set while they are made: the slots of finished ones with their arrows and
numbers, and the open states, the innermost first. -/
structure Shared where
  tally : Tally
  slots : Array (Option (List Arrow × Nat))
  states : List OpenState

/-- How many finished states are known at a time. -/
def forwardSlots : Nat := 10000

/-- The number of a finished state with some arrows. -/
def finish (arrows : List Arrow) (tally : Tally) (slots : Array (Option (List Arrow × Nat))) :
    Option (Nat × Tally × Array (Option (List Arrow × Nat))) :=
  let slot := (arrows.foldl Arrow.mixInto seed).toNat % forwardSlots
  let known := match slots.getD slot none with
    | some (same, number) => if same == arrows then some number else none
    | none => none
  match known with
  | some number => some (number, tally, slots)
  | none =>
    match tally.add 1 (Tally.arrowSize * arrows.length) with
    | none => none
    | some more => some (tally.states, more, slots.setIfInBounds slot (some (arrows, tally.states)))

/-- Finishes open states but for the outermost `keep` and one more, whose next arrow leads to the
last state finished. -/
def finishTo (keep target : Nat) : List OpenState → Tally → Array (Option (List Arrow × Nat)) →
    Option Shared
  | [], tally, slots => some ⟨tally, slots, []⟩
  | state :: outer, tally, slots =>
    let state := state.settle target
    if outer.length ≤ keep then some ⟨tally, slots, state :: outer⟩
    else
      match finish state.arrows.reverse tally slots with
      | none => none
      | some (number, tally, slots) => finishTo keep number outer tally slots

/-- How many ranges at the start of a sequence are those of the arrows to come. -/
def agreement : List ByteRange → List OpenState → Nat
  | range :: sequence, state :: inner =>
    if state.next == some range then agreement sequence inner + 1 else 0
  | _, _ => 0

/-- Adds a sequence of ranges; `target` is the state after the last byte of a character. -/
def addSequence (target : Nat) (s : Shared) (sequence : List ByteRange) : Option Shared :=
  let ⟨tally, slots, states⟩ := s
  let keep := agreement sequence states.reverse
  match finishTo keep target states tally slots with
  | none => none
  | some ⟨tally, slots, states⟩ =>
    match sequence.drop keep, states with
    | range :: more, state :: outer =>
      let states := more.foldl (fun states range => ⟨[], some range⟩ :: states)
        ({ state with next := some range } :: outer)
      some ⟨tally, slots, states⟩
    | _, states => some ⟨tally, slots, states⟩

/-- The states for a set that holds more than ASCII. -/
def forwardSet (sequences : List (List ByteRange)) (t : Tally) : Option Tally := do
  let target := t.states
  let t ← t.add 1 0
  let s ← sequences.foldlM (addSequence target)
    ⟨t, Array.replicate forwardSlots none, [⟨[], none⟩]⟩
  let s ← finishTo 0 target s.states s.tally s.slots
  match s.states with
  | [] => return s.tally
  | root :: _ =>
    let (_, t, _) ← finish root.arrows.reverse s.tally s.slots
    return t

/-! ### A set read backwards -/

/-- How many states are known at a time. -/
def backwardSlots : Nat := 1000

/-- A state that reads one byte, by the byte and the state that it leads to. -/
structure Step where
  target : Nat
  range : ByteRange
  deriving DecidableEq, Repr

def Step.slot (s : Step) : Nat :=
  (mix (mix (mix seed s.target) s.range.1.toNat) s.range.2.toNat).toNat % backwardSlots

/-- Makes the states for one sequence, the last byte of a character being read first; those that
lead to the same states are shared. -/
def backwardSequence (target : Nat) :
    List ByteRange → Tally → Array (Option (Step × Nat)) →
      Option (Tally × Array (Option (Step × Nat)))
  | [], tally, slots => (tally.add 0 Tally.jumpSize).map (·, slots)
  | range :: sequence, tally, slots =>
    let step : Step := ⟨target, range⟩
    let known := match slots.getD step.slot none with
      | some (same, number) => if same == step then some number else none
      | none => none
    match known with
    | some number => backwardSequence number sequence tally slots
    | none =>
      match tally.add 1 0 with
      | none => none
      | some more =>
        backwardSequence tally.states sequence more
          (slots.setIfInBounds step.slot (some (step, tally.states)))

/-- The states for a set that holds more than ASCII. -/
def backwardSet (sequences : List (List ByteRange)) (t : Tally) : Option Tally := do
  let target := t.states + 1
  let t ← t.add 2 0
  let (t, _) ← sequences.foldlM
    (fun (tally, slots) sequence => backwardSequence target sequence tally slots)
    (t, Array.replicate backwardSlots none)
  return t

/-- The states for a set of characters. -/
def addSet (backward : Bool) (members : CharSet) (t : Tally) : Option Tally :=
  if members.isAscii then t.add 2 (Tally.arrowSize * members.ranges.length)
  else if backward then backwardSet members.sequences t
  else forwardSet members.sequences t

/-! ### A choice between literals -/

/-- Sorts texts by their first bytes; each byte comes with what follows it. -/
def insertByte (byte : UInt8) (rest : Bytes) : List (UInt8 × List Bytes) → List (UInt8 × List Bytes)
  | [] => [(byte, [rest])]
  | (other, rests) :: more =>
    if byte == other then (other, rest :: rests) :: more
    else if byte < other then (byte, [rest]) :: (other, rests) :: more
    else (other, rests) :: insertByte byte rest more

def byFirst (texts : List Bytes) : List (UInt8 × List Bytes) :=
  texts.foldr (fun text groups =>
    match text with
    | [] => groups
    | byte :: rest => insertByte byte rest groups) []

/-- The texts between those that are empty. Another empty one changes nothing where there is
nothing but an empty one so far. -/
def chunks (started closed : Bool) (current : List Bytes) : List Bytes → List (List Bytes)
  | [] => [current.reverse]
  | [] :: rest =>
    if closed && !started then chunks started closed current rest
    else current.reverse :: chunks started true [] rest
  | text :: rest => chunks true closed (text :: current) rest

/-- The states that tell some texts apart by their bytes, in the order of preference. -/
def addTexts : Nat → List Bytes → Tally → Option Tally
  | 0, _, t => some t
  | fuel + 1, texts, t => do
    let all := chunks false false [] texts
    let (t, heads) ← all.foldlM (fun (t, heads) chunk => do
      let groups := byFirst chunk
      let t ← groups.foldlM (fun t (_, rests) =>
        if rests.all List.isEmpty then some t else addTexts fuel rests t) t
      match groups with
      | [] => return (t, heads)
      | [_] => return (← t.add 1 0, heads + 1)
      | _ => return (← t.add 1 (Tally.arrowSize * groups.length), heads + 1)) (t, 0)
    let jumps := heads + (all.length - 1)
    if jumps == 1 then return t else t.add 1 (Tally.jumpSize * jumps)

/-- The bytes of the branches of a choice, if all of them are literals. -/
def literals? (o : Outline) : Option (List Bytes) :=
  o.branches.mapM fun
    | .literal bytes => some bytes
    | _ => none

/-! ### Repetition -/

/-- What makes the states of one copy of a part; it says whether the part ends forked. -/
abbrev Copy := Tally → Option (Bool × Tally)

/-- Makes copies one after another; `forked` says how what stands before them ends. -/
def copies (copy : Copy) : Nat → Bool → Copy
  | 0, forked, t => some (forked, t)
  | count + 1, forked, t =>
    match copy t with
    | none => none
    | some (ending, t) =>
      match t.leave forked with
      | none => none
      | some t => copies copy count ending t

/-- Makes copies each of which may be passed over together with those that follow it. -/
def optionalCopies (copy : Copy) : Nat → Bool → Copy
  | 0, forked, t => (t.leave forked).map (false, ·)
  | count + 1, forked, t =>
    match t.add 1 (2 * Tally.jumpSize) with
    | none => none
    | some t =>
      match copy t with
      | none => none
      | some (ending, t) =>
        match t.leave forked with
        | none => none
        | some t => optionalCopies copy count ending t

/-- Makes a number of copies, or a state that reads nothing. -/
def exactly (copy : Copy) (count : Nat) (t : Tally) : Option (Bool × Tally) :=
  if count == 0 then (t.add 1 0).map (false, ·) else copies copy count false t

/-- Makes the states of a repetition; `productive` says that each copy reads something. -/
def repeated (copy : Copy) (productive : Bool) (least : Nat) (most : Option Nat) (t : Tally) :
    Option (Bool × Tally) :=
  match least, most with
  | 0, some 1 => do
    let t ← t.add 1 (2 * Tally.jumpSize)
    let (forked, t) ← copy t
    return (false, ← (← t.leave forked).add 1 0)
  | least, some most =>
    if least == most then exactly copy least t
    else do
      let (forked, t) ← exactly copy least t
      optionalCopies copy (most - least) forked (← t.add 1 0)
  | 0, none =>
    if productive then do
      let t ← t.add 1 Tally.jumpSize
      let (forked, t) ← copy t
      return (true, ← t.leave forked)
    else do
      let (forked, t) ← copy t
      return (false, ← (← t.leave forked).add 3 (4 * Tally.jumpSize))
  | least + 1, none => do
    let (forked, t) ← copies copy (least + 1) false t
    return (true, ← (← t.leave forked).add 1 Tally.jumpSize)

/-! ### Whole expressions -/

/-- Adds a branch to a choice as its branch number `spine`. The state where a choice starts and the
one where it ends are made after the second branch. -/
def addBranch (spine : Nat) (forked : Bool) (t : Tally) : Option Tally := do
  (← t.leave forked).add (if spine == 1 then 2 else 0) Tally.jumpSize

/-- Makes the states of an expression, and says whether it ends forked. A choice that continues
another one starts with the branch number `spine`. -/
def build (backward : Bool) : Nat → Outline → Copy
  | _, .empty, t | _, .look _, t => (t.add 1 0).map (false, ·)
  | _, .literal bytes, t => (t.add bytes.length 0).map (false, ·)
  | _, .set members, t => (addSet backward members t).map (false, ·)
  | _, .group _ inner, t =>
    if backward then build backward 0 inner t
    else do
      let (forked, t) ← build backward 0 inner (← t.add 1 0)
      return (false, ← (← t.add 1 0).leave forked)
  | _, .times inner least most, t =>
    repeated (build backward 0 inner) (inner.least?.any (0 < ·)) least most t
  | _, .append first rest, t =>
    if backward then do
      let (forked, t) ← build backward 0 rest t
      let (ending, t) ← build backward 0 first t
      return (ending, ← t.leave forked)
    else do
      let (forked, t) ← build backward 0 first t
      let (ending, t) ← build backward 0 rest t
      return (ending, ← t.leave forked)
  | spine, .either first rest, t =>
    match if spine == 0 then literals? (.either first rest) else none with
    | some texts => do
      let texts := if backward then texts.map List.reverse else texts
      let fuel := texts.foldl (max · ·.length) 0
      return (false, ← addTexts (fuel + 1) texts (← t.add 1 0))
    | none => do
      let (forked, t) ← build backward 0 first t
      let t ← addBranch spine forked t
      let (forked, t) ← build backward (spine + 1) rest t
      match rest with
      | .either _ _ => return (false, t)
      | _ => return (false, ← addBranch (spine + 1) forked t)

/-- The states before a match: a loop over any bytes, unless every match is at the very end of the
text where reading starts. -/
def lead (anchored : Bool) (t : Tally) : Option Tally :=
  if anchored then t.add 1 0 else t.add 3 (Tally.arrowSize + 2 * Tally.jumpSize)

/-- The automaton that is run from the start of a match. It keeps track of the match itself as of
a group. -/
def forward (o : Outline) : Option Tally := do
  let (forked, t) ← build false 0 o (← (← lead o.startsText Tally.empty).add 1 0)
  (← t.leave forked).add 2 0

/-- The automaton that is run from the end of a match. -/
def backward (o : Outline) : Option Tally := do
  let (forked, t) ← build true 0 o (← lead o.endsText Tally.empty)
  (← t.leave forked).add 1 0

/-- Whether there is room for both automata of an expression. -/
def fits (p : Pattern CharSet Look) : Bool :=
  let o := p.outline
  (forward o).isSome && (backward o).isSome

end Automaton

end MarkupQuery
