import MarkupQuery.Pattern.Named

/-!
Regular expressions and the question whether one matches somewhere in a text. Positions in a text
are numbered from zero; a set of positions is a number whose bits say which positions are in it. A
pattern takes the positions where a match may start to those where it may end, so a match exists
if the positions reached from all positions are not empty. Lazy and greedy repetition differ in
which match they prefer, not in whether there is one.
-/
namespace MarkupQuery

/-- A condition on a position that takes up no character. -/
inductive Look
  | textStart
  | textEnd
  | lineStart
  | lineEnd
  | crlfLineStart
  | crlfLineEnd
  | boundary (unicode : Bool)
  | notBoundary (unicode : Bool)
  | wordStart (unicode : Bool)
  | wordEnd (unicode : Bool)
  | wordStartHalf (unicode : Bool)
  | wordEndHalf (unicode : Bool)
  deriving DecidableEq, Repr

/-- A pattern over leaves that take one character and leaves that take none. A group may have a
number, by which a search would tell what it matched. -/
inductive Pattern (α β : Type)
  | empty
  | take (leaf : α)
  | look (leaf : β)
  | append (first second : Pattern α β)
  | either (first second : Pattern α β)
  | times (inner : Pattern α β) (least : Nat) (most : Option Nat)
  | group (number : Option Nat) (inner : Pattern α β)
  deriving DecidableEq, Repr

namespace Look

/-- Whether the condition holds between two characters, each absent at an end of the text. -/
def holds (before after : Option Char) (look : Look) : Bool :=
  let isWord (unicode : Bool) (c : Option Char) : Bool :=
    c.any fun c => (if unicode then Pattern.Named.word else CharSet.asciiWord).contains c.toNat
  match look with
  | textStart => before.isNone
  | textEnd => after.isNone
  | lineStart => before.isNone || before == some '\n'
  | lineEnd => after.isNone || after == some '\n'
  | crlfLineStart =>
    before.isNone || before == some '\n' || (before == some '\r' && after != some '\n')
  | crlfLineEnd =>
    after.isNone || after == some '\r' || (after == some '\n' && before != some '\r')
  | boundary unicode => isWord unicode before != isWord unicode after
  | notBoundary unicode => isWord unicode before == isWord unicode after
  | wordStart unicode => !isWord unicode before && isWord unicode after
  | wordEnd unicode => isWord unicode before && !isWord unicode after
  | wordStartHalf unicode => !isWord unicode before
  | wordEndHalf unicode => !isWord unicode after

/-- The positions of a text at which the condition holds, `before` being the character before
it. -/
def positions (look : Look) (before : Option Char) : Text → Nat
  | [] => (holds before none look).toNat
  | c :: rest => (holds before (some c) look).toNat + 2 * positions look (some c) rest

end Look

/-- The positions of a text before a character of a set. -/
def CharSet.positions (set : CharSet) : Text → Nat
  | [] => 0
  | c :: rest => (set.contains c.toNat).toNat + 2 * set.positions rest

namespace Pattern

/-- Replaces the leaves. -/
def map {α β γ δ : Type} (f : α → γ) (g : β → δ) : Pattern α β → Pattern γ δ
  | empty => empty
  | take leaf => take (f leaf)
  | look leaf => look (g leaf)
  | append first second => append (first.map f g) (second.map f g)
  | either first second => either (first.map f g) (second.map f g)
  | times inner least most => times (inner.map f g) least most
  | group number inner => group number (inner.map f g)

/-- Applies a step a number of times. -/
def iterate (step : Nat → Nat) : Nat → Nat → Nat
  | 0, set => set
  | count + 1, set => iterate step count (step set)

/-- Adds to `found` what a step reaches from the positions in `fresh`, from those that this brings
in anew, and so on, a number of times or until nothing is new. A step has been taken from the
positions in `done`, so it need not be taken there again. -/
def spread (step : Nat → Nat) : Nat → (done found fresh : Nat) → Nat
  | 0, _, found, _ => found
  | count + 1, done, found, fresh =>
    if fresh == 0 then found
    else
      let reached := step fresh
      let done := done ||| fresh
      spread step count done (found ||| reached) (reached ^^^ (reached &&& done))

/-- The positions where a match may end that starts at one of the given positions. The leaves are
the sets of positions at which they may be taken. After more repetitions than a text of `length`
characters has positions, further ones change nothing. -/
def ends (length : Nat) : Pattern Nat Nat → Nat → Nat
  | empty, set => set
  | take leaf, set => 2 * (set &&& leaf)
  | look leaf, set => set &&& leaf
  | append first second, set => second.ends length (first.ends length set)
  | either first second, set => first.ends length set ||| second.ends length set
  | times inner least most, set =>
    let step := inner.ends length
    let required := min least (length + 1)
    match most, required with
    | some most, required =>
      let set := iterate step required set
      spread step (min (most - least) (length + 1)) 0 set set
    | none, 0 => spread step (length + 2) 0 set set
    | none, required + 1 => spread step (length + 2) 0 0 (iterate step required set)
  | group _ inner, set => inner.ends length set

/-- Whether the pattern matches some part of a text. -/
def isMatch (p : Pattern CharSet Look) (text : Text) : Bool :=
  let placed := p.map (·.positions text) (·.positions none text)
  placed.ends text.length (1 <<< (text.length + 1) - 1) != 0

end Pattern

end MarkupQuery
