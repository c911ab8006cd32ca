import MarkupQuery.Pattern
import MarkupQuery.Pattern.ByteRanges

/-!
What is left of an expression once it is simplified for the building of an automaton: single
characters in a row are joined into literals, choices between characters into sets, parts that are
empty are dropped, and what all branches of a choice start with stands before the choice.
-/
namespace MarkupQuery

/-- A simplified expression. The second part of an `append` may be another one, its first part not,
and likewise for `either`. -/
inductive Outline
  | empty
  | literal (bytes : Bytes)
  | set (members : CharSet)
  | look (look : Look)
  | group (number : Nat) (inner : Outline)
  | times (inner : Outline) (least : Nat) (most : Option Nat)
  | append (first rest : Outline)
  | either (first rest : Outline)
  deriving DecidableEq, Repr

namespace Outline

/-! ### Lengths of what is matched -/

/-- The least number of bytes that can be matched; none where nothing can. -/
def least? : Outline → Option Nat
  | empty | look _ => some 0
  | literal bytes => some bytes.length
  | set members => members.ranges.head?.map fun (low, _) => CharSet.width low
  | group _ inner => inner.least?
  | times inner least _ => inner.least?.map (· * least)
  | append first rest => do return (← first.least?) + (← rest.least?)
  | either first rest => do return min (← first.least?) (← rest.least?)

/-- The greatest number of bytes that can be matched; none where there is no greatest. -/
def greatest? : Outline → Option Nat
  | empty | look _ => some 0
  | literal bytes => some bytes.length
  | set members => members.ranges.getLast?.map fun (_, high) => CharSet.width high
  | group _ inner => inner.greatest?
  | times inner _ most => do return (← inner.greatest?) * (← most)
  | append first rest => do return (← first.greatest?) + (← rest.greatest?)
  | either first rest => do return max (← first.greatest?) (← rest.greatest?)

/-- Whether every match starts at the start of the text. -/
def startsText : Outline → Bool
  | look .textStart => true
  | group _ inner => inner.startsText
  | times inner least _ => least != 0 && inner.startsText
  | append first rest => first.startsText || (first.greatest? == some 0 && rest.startsText)
  | either first rest => first.startsText && rest.startsText
  | _ => false

/-- Whether every match ends at the end of the text. -/
def endsText : Outline → Bool
  | look .textEnd => true
  | group _ inner => inner.endsText
  | times inner least _ => least != 0 && inner.endsText
  | append first rest => rest.endsText || (rest.greatest? == some 0 && first.endsText)
  | either first rest => first.endsText && rest.endsText
  | _ => false

/-! ### Simplified forms -/

/-- The parts of a sequence. -/
def parts : Outline → List Outline
  | empty => []
  | append first rest => first.parts ++ rest.parts
  | o => [o]

/-- The branches of a choice. -/
def branches : Outline → List Outline
  | either first rest => first.branches ++ rest.branches
  | o => [o]

/-- Puts a part before others; two literals in a row are one. -/
def cons : Outline → List Outline → List Outline
  | literal bytes, literal more :: others => literal (bytes ++ more) :: others
  | part, others => part :: others

/-- Parts one after another. -/
def ofParts : List Outline → Outline
  | [] => empty
  | [part] => part
  | part :: others => append part (ofParts others)

/-- A sequence of parts that are no sequences. -/
def sequence (parts : List Outline) : Outline := ofParts (parts.foldr cons [])

/-- A set, which is a literal if it has one member. -/
def ofSet (members : CharSet) : Outline :=
  match members.only? with
  | some c => literal (Utf8.encodeChar c)
  | none => set members

/-- The character that a literal consists of. -/
def character? : Outline → Option Char
  | literal bytes =>
    match Utf8.decode? bytes with
    | some [c] => some c
    | _ => none
  | _ => none

def members? : Outline → Option CharSet
  | set members => some members
  | _ => none

/-- A choice between branches that have nothing in common. -/
def choiceOf (branches : List Outline) : Outline :=
  match branches.mapM character?, branches.mapM members? with
  | some characters, _ => ofSet (CharSet.ofRanges (characters.map fun c => (c.toNat, c.toNat)))
  | none, some sets => ofSet (sets.foldl CharSet.union CharSet.empty)
  | none, none =>
    match branches.reverse with
    | [] => set CharSet.empty
    | last :: earlier => earlier.foldl (fun later branch => either branch later) last

/-- What two sequences of parts have in common at their start. -/
def commonStart : List Outline → List Outline → List Outline
  | a :: as, b :: bs => if a == b then a :: commonStart as bs else []
  | _, _ => []

/-- A choice between branches. What all of them start with is put before it, if each of them is a
sequence. -/
def choice (options : List Outline) : Outline :=
  let options := options.flatMap branches
  let sequences := options.map parts
  match sequences with
  | [] | [_] => choiceOf options
  | first :: others =>
    if options.all fun o => o.parts.length ≥ 2 then
      let start := others.foldl commonStart first
      if start.isEmpty then choiceOf options
      else
        let rest := choiceOf
          ((sequences.map fun parts => sequence (parts.drop start.length)).flatMap branches)
        sequence (start ++ rest.parts)
    else choiceOf options

/-- A repetition. What cannot match a character need not be repeated. -/
def repetition (inner : Outline) (least : Nat) (most : Option Nat) : Outline :=
  let (least, most) :=
    if inner.greatest? == some 0 then (min least 1, some (most.elim 1 (min · 1)))
    else (least, most)
  if least == 0 && most == some 0 then empty
  else if least == 1 && most == some 1 then inner
  else times inner least most

end Outline

mutual

/-- The parts in sequence that an expression comes to. -/
def Pattern.outlineParts : Pattern CharSet Look → List Outline
  | .empty => []
  | .take members => [Outline.ofSet members]
  | .look condition => [.look condition]
  | .append first second => first.outlineParts ++ second.outlineParts
  | .either first second =>
    (Outline.choice (Outline.sequence first.outlineParts :: second.outlineBranches)).parts
  | .times inner least most =>
    (Outline.repetition (Outline.sequence inner.outlineParts) least most).parts
  | .group none inner => (Outline.sequence inner.outlineParts).parts
  | .group (some number) inner => [.group number (Outline.sequence inner.outlineParts)]

/-- The branches that an expression comes to, one if it is no choice. -/
def Pattern.outlineBranches : Pattern CharSet Look → List Outline
  | .either first second => Outline.sequence first.outlineParts :: second.outlineBranches
  | .empty => [.empty]
  | .take members => [Outline.ofSet members]
  | .look condition => [.look condition]
  | .append first second => [Outline.sequence (first.outlineParts ++ second.outlineParts)]
  | .times inner least most =>
    [Outline.repetition (Outline.sequence inner.outlineParts) least most]
  | .group none inner => [Outline.sequence inner.outlineParts]
  | .group (some number) inner => [.group number (Outline.sequence inner.outlineParts)]

end

/-- The simplified form of an expression. -/
def Pattern.outline (p : Pattern CharSet Look) : Outline := Outline.sequence p.outlineParts

end MarkupQuery
