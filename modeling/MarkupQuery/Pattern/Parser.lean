import MarkupQuery.Pattern.Automaton
import MarkupQuery.Reference
import MarkupQuery.Text.CaseFold
import MarkupQuery.Text.Newer

/-!
Reading regular expressions. The usual operators are understood, with nested classes, classes of
Unicode, and flags that hold to the end of the group in which they are set; neither references to
groups nor conditions on what stands around a match are. A text that is no expression gives none.
-/
namespace MarkupQuery.Pattern

/-- The flags in force. -/
structure Flags where
  ignoreCase : Bool
  multiLine : Bool
  dotAll : Bool
  swapGreed : Bool
  unicode : Bool
  crlf : Bool
  verbose : Bool
  deriving DecidableEq, Repr

def Flags.default : Flags := ⟨false, false, false, false, true, false, false⟩

/-- An expression whose leaves are sets of characters and conditions. -/
abbrev Expression := Pattern CharSet Look

namespace Parser

/-- Characters that mean something in an expression; after a backslash they are themselves. -/
def isMeta (c : Char) : Bool := "\\.+*?()|[]\x7b\x7d^$#&-~".toList.contains c

def isAlnum (c : Char) : Bool := Text.isLetter c || Text.isDigit c

/-- Whether a backslash before a character leaves it as it is. -/
def isEscapable (c : Char) : Bool :=
  isMeta c || (c.toNat < 0x80 && !isAlnum c && c != '<' && c != '>')

/-- Passes over white space and comments where the expression is written with them. -/
def skipIgnored (f : Flags) (text : Text) : Text :=
  if f.verbose then go false text else text
where
  /-- `comment` says that the rest of the line is a comment. -/
  go (comment : Bool) : Text → Text
  | [] => []
  | c :: rest =>
    if comment then go (c != '\n') rest
    else if Text.isSpace c then go false rest
    else if c == '#' then go true rest
    else c :: rest

/-- The character after the first one, anything ignored passed over. -/
def next (f : Flags) (text : Text) : Text := skipIgnored f text.tail

/-- The character with a number, where there is one. -/
def char? (n : Nat) : Option Char :=
  if n < 0xd800 || (0xdfff < n && n < 0x110000) then some (Char.ofNat n) else none

/-- Hexadecimal digits one after another, anything ignored among them passed over. -/
def hexRun (f : Flags) : Nat → Text → Text × Text
  | 0, text => ([], text)
  | fuel + 1, text =>
    match text with
    | [] => ([], [])
    | c :: _ =>
      if (Reference.digit? 16 c).isSome then
        let (digits, rest) := hexRun f fuel (next f text)
        (c :: digits, rest)
      else ([], text)

/-- A character by its number: a fixed count of digits, or any count of them in braces. The text
starts after the letter that says how many. -/
def hex? (f : Flags) (count : Nat) (text : Text) : Option (Char × Text) :=
  match text with
  | '\x7b' :: _ =>
    let inner := next f text
    let (digits, rest) := hexRun f inner.length inner
    match rest with
    | '\x7d' :: _ => do
      let n ← Reference.numeral? 16 digits
      return (← char? n, next f rest)
    | _ => none
  | _ => do
    let (digits, rest) := hexRun f count text
    if digits.length == count then
      let n ← Reference.numeral? 16 digits
      return (← char? n, rest)
    else none

/-- What a backslash and what follows it stand for. `byte` marks a character that is written as
the number of a byte. -/
inductive Escape
  | char (c : Char) (byte : Bool)
  | set (set : CharSet)
  | look (look : Look)
  deriving DecidableEq, Repr

/-- The name in braces after `\p`, white space in it passed over as in the rest. -/
def propertyName (f : Flags) : Nat → Text → Option (Text × Text)
  | 0, _ => none
  | fuel + 1, text =>
    match text with
    | [] => none
    | '\x7d' :: rest => some ([], rest)
    | c :: _ => (propertyName f fuel (next f text)).map fun (name, rest) => (c :: name, rest)

/-- A class of Unicode, after the letter `p`. -/
def property? (f : Flags) (negated : Bool) (text : Text) : Option (CharSet × Text) := do
  let (name, rest) ← match text with
    | [] => none
    | '\x7b' :: _ =>
      let inner := next f text
      propertyName f (inner.length + 1) inner
    | c :: _ => if c == '\\' then none else some ([c], next f text)
  if !f.unicode then none
  else
    let (set, others) ← Named.property? name
    let set := if f.ignoreCase then set.closeCase else set
    return (if negated == others then set else set.compl, rest)

/-- The class that a letter after a backslash stands for. Without Unicode, only the classes that
stay within ASCII can be used. -/
def letterClass? (f : Flags) (c : Char) : Option CharSet :=
  let pick (unicode ascii : CharSet) : Option CharSet := some (if f.unicode then unicode else ascii)
  let others (unicode : CharSet) : Option CharSet := if f.unicode then some unicode.compl else none
  match c with
  | 'd' => pick Named.digit .asciiDigit
  | 'D' => others Named.digit
  | 's' => pick Named.space .asciiSpace
  | 'S' => others Named.space
  | 'w' => pick Named.word .asciiWord
  | 'W' => others Named.word
  | _ => none

/-- The condition that a name in braces after `\b` stands for. -/
def boundaryNamed? (unicode : Bool) (name : Text) : Option Look :=
  if name == "start".toList then some (.wordStart unicode)
  else if name == "end".toList then some (.wordEnd unicode)
  else if name == "start-half".toList then some (.wordStartHalf unicode)
  else if name == "end-half".toList then some (.wordEndHalf unicode)
  else none

/-- The letters and hyphens of a name in braces, anything ignored among them passed over. -/
def boundaryName (f : Flags) : Nat → Text → Text × Text
  | 0, text => ([], text)
  | fuel + 1, text =>
    match text with
    | [] => ([], [])
    | c :: _ =>
      if Text.isLetter c || c == '-' then
        let (name, rest) := boundaryName f fuel (next f text)
        (c :: name, rest)
      else ([], text)

/-- A word boundary, which may be followed by its kind in braces. Braces around anything but a
name are left for a repetition. -/
def boundary? (f : Flags) (text : Text) : Option (Look × Text) :=
  match text with
  | '\x7b' :: _ =>
    let inner := next f text
    match inner with
    | [] => none
    | c :: _ =>
      if Text.isLetter c || c == '-' then
        let (name, rest) := boundaryName f inner.length inner
        match rest with
        | '\x7d' :: after => (boundaryNamed? f.unicode name).map (·, after)
        | _ => none
      else some (.boundary f.unicode, text)
  | _ => some (.boundary f.unicode, text)

/-- What a backslash stands for, the text starting after it. -/
def escape? (f : Flags) (text : Text) : Option (Escape × Text) :=
  match text with
  | [] => none
  | c :: rest =>
    match c with
    | 'x' =>
      let rest := skipIgnored f rest
      (hex? f 2 rest).map fun (d, after) => (.char d (rest.head? != some '\x7b'), after)
    | 'u' => (hex? f 4 (skipIgnored f rest)).map fun (d, after) => (.char d false, after)
    | 'U' => (hex? f 8 (skipIgnored f rest)).map fun (d, after) => (.char d false, after)
    | 'p' => (property? f false (skipIgnored f rest)).map fun (s, after) => (.set s, after)
    | 'P' => (property? f true (skipIgnored f rest)).map fun (s, after) => (.set s, after)
    | 'd' | 'D' | 's' | 'S' | 'w' | 'W' => (letterClass? f c).map fun s => (.set s, rest)
    | 'a' => some (.char '\x07' false, rest)
    | 'f' => some (.char '\x0c' false, rest)
    | 't' => some (.char '\t' false, rest)
    | 'n' => some (.char '\n' false, rest)
    | 'r' => some (.char '\r' false, rest)
    | 'v' => some (.char '\x0b' false, rest)
    | 'A' => some (.look .textStart, rest)
    | 'z' => some (.look .textEnd, rest)
    | 'b' => (boundary? f rest).map fun (l, after) => (.look l, after)
    | 'B' => some (.look (.notBoundary f.unicode), rest)
    | '<' => some (.look (.wordStart f.unicode), rest)
    | '>' => some (.look (.wordEnd f.unicode), rest)
    | _ => if isEscapable c then some (.char c false, rest) else none

/-- A set as it is meant under the flags: with the variants in case of its members if case is
ignored. -/
def foldCase (f : Flags) (set : CharSet) : CharSet :=
  if !f.ignoreCase then set else if f.unicode then set.closeCase else set.closeAsciiCase

/-- The set that is meant by one with or without a sign of negation. Without Unicode it has to stay
within ASCII. -/
def meant? (f : Flags) (negated : Bool) (set : CharSet) : Option CharSet :=
  let set := foldCase f set
  let set := if negated then set.compl else set
  if f.unicode || set.isAscii then some set else none

/-! ### Classes in brackets -/

/-- An operator between classes. -/
inductive ClassOperator
  | inter
  | diff
  | symmetricDiff
  deriving DecidableEq, Repr

def ClassOperator.apply (f : Flags) (left right : CharSet) : ClassOperator → CharSet
  | inter => (foldCase f left).inter (foldCase f right)
  | diff => (foldCase f left).diff (foldCase f right)
  | symmetricDiff => (foldCase f left).symmetricDiff (foldCase f right)

/-- How deep several parts in a row are nested: a single one adds nothing to its own depth. -/
def depthOfRow (count deepest : Nat) : Nat := if count ≤ 1 then deepest else deepest + 1

/-- An open bracket: the operand before the last operator with its depth, and the members after
that operator, their number and the depth of the deepest. -/
structure OpenClass where
  negated : Bool
  pending : Option (CharSet × Nat × ClassOperator)
  members : CharSet
  count : Nat
  deepest : Nat
  deriving DecidableEq, Repr

namespace OpenClass

def add (o : OpenClass) (set : CharSet) (depth : Nat) : OpenClass :=
  { o with
    members := o.members.union set
    count := o.count + 1
    deepest := max o.deepest depth }

/-- What stands before an operator or the closing bracket, and how deep it is. -/
def operand (f : Flags) (o : OpenClass) : CharSet × Nat :=
  let depth := depthOfRow o.count o.deepest
  match o.pending with
  | none => (o.members, depth)
  | some (left, leftDepth, operator) => (operator.apply f left o.members, max leftDepth depth + 1)

def operate (f : Flags) (operator : ClassOperator) (o : OpenClass) : OpenClass :=
  let (set, depth) := o.operand f
  ⟨o.negated, some (set, depth, operator), .empty, 0, 0⟩

/-- The set of a closed bracket and its depth. -/
def close? (f : Flags) (o : OpenClass) : Option (CharSet × Nat) :=
  let (set, depth) := o.operand f
  (meant? f o.negated set).map (·, depth + 1)

end OpenClass

/-- Hyphens at the head of a class are members of it. -/
def leadingHyphens (f : Flags) : Nat → Text → Nat × Text
  | 0, text => (0, text)
  | fuel + 1, text =>
    match text with
    | '-' :: _ =>
      let (count, rest) := leadingHyphens f fuel (next f text)
      (count + 1, rest)
    | _ => (0, text)

/-- The head of a class: a sign of negation, hyphens, or a closing bracket that is a member
because nothing stands before it. The text starts at the opening bracket. -/
def openClass? (f : Flags) (text : Text) : Option (OpenClass × Text) :=
  let inner := next f text
  let (negated, inner) := match inner with
    | '^' :: _ => (true, next f inner)
    | _ => (false, inner)
  let (hyphens, inner) := leadingHyphens f inner.length inner
  let (members, count, inner) :=
    if hyphens != 0 then (CharSet.single '-', hyphens, inner)
    else
      match inner with
      | ']' :: _ => (CharSet.single ']', 1, next f inner)
      | _ => (CharSet.empty, 0, inner)
  if inner.isEmpty then none else some (⟨negated, none, members, count, 0⟩, inner)

/-- A class with a name such as `[:alpha:]`, and whether all but its characters are meant. -/
def posix? (text : Text) : Option (CharSet × Bool × Text) :=
  match text with
  | '[' :: ':' :: rest =>
    let (negated, rest) := match rest with
      | '^' :: rest => (true, rest)
      | rest => (false, rest)
    let name := rest.takeWhile (· != ':')
    match rest.drop name.length with
    | ':' :: ']' :: after =>
      (CharSet.asciiClass? (String.ofList name)).map (·, negated, after)
    | _ => none
  | _ => none

/-- One member of a class: a character or a set. -/
def member? (f : Flags) (text : Text) : Option (Escape × Text) :=
  match text with
  | [] => none
  | '\\' :: rest => escape? f rest
  | c :: rest => some (.char c false, rest)

/-- A character that may be in a class: without Unicode, one of ASCII. -/
def memberChar? (f : Flags) : Escape → Option Char
  | .char c _ => if f.unicode || c.toNat < 0x80 then some c else none
  | .set _ | .look _ => none

/-- The character after the first one that counts when a hyphen is to be told from a range. Where
white space is ignored, so is the sign of one comment, but not the comment. -/
def peek? (f : Flags) (text : Text) : Option Char :=
  let rest := text.tail
  if !f.verbose then rest.head?
  else
    let seen :=
      match Text.trimLeft rest with
      | '#' :: comment => Text.trimLeft comment
      | visible => visible
    (seen.head?).orElse fun _ => rest.head?

/-- A member or a range of characters. A hyphen before the closing bracket or before another
hyphen makes no range. -/
def range? (f : Flags) (text : Text) : Option (CharSet × Text) := do
  let (first, rest) ← member? f text
  let rest := skipIgnored f rest
  let alone : Option (CharSet × Text) :=
    match first with
    | .set s => some (s, rest)
    | _ => (memberChar? f first).map fun c => (.single c, rest)
  match rest with
  | [] => none
  | '-' :: _ =>
    if peek? f rest == some ']' || peek? f rest == some '-' then alone
    else do
      let (second, after) ← member? f (next f rest)
      let low ← memberChar? f first
      let high ← memberChar? f second
      if low ≤ high then some (.range low high, after) else none
  | _ => alone

/-- Reads a class in brackets, the innermost open bracket first. Every turn passes over at least
one character. The depth comes with the set. -/
def classLoop (f : Flags) :
    Nat → OpenClass → List OpenClass → Text → Option ((CharSet × Nat) × Text)
  | 0, _, _, _ => none
  | fuel + 1, innermost, outer, text =>
    let text := skipIgnored f text
    match text with
    | [] => none
    | '[' :: _ =>
      match posix? text with
      | some (set, negated, rest) =>
        match meant? f negated set with
        | some set => classLoop f fuel (innermost.add set 0) outer rest
        | none => none
      | none =>
        match openClass? f text with
        | some (opened, rest) => classLoop f fuel opened (innermost :: outer) rest
        | none => none
    | ']' :: rest =>
      match innermost.close? f, outer with
      | none, _ => none
      | some closed, [] => some (closed, rest)
      | some (set, depth), parent :: others => classLoop f fuel (parent.add set depth) others rest
    | '&' :: '&' :: rest => classLoop f fuel (innermost.operate f .inter) outer rest
    | '-' :: '-' :: rest => classLoop f fuel (innermost.operate f .diff) outer rest
    | '~' :: '~' :: rest => classLoop f fuel (innermost.operate f .symmetricDiff) outer rest
    | _ =>
      match range? f text with
      | some (set, rest) => classLoop f fuel (innermost.add set 0) outer rest
      | none => none

/-- A class in brackets with its depth, the text starting at the opening one. -/
def class? (f : Flags) (text : Text) : Option ((CharSet × Nat) × Text) := do
  let (opened, rest) ← openClass? f text
  classLoop f (rest.length + 1) opened [] rest

/-! ### Repetition -/

/-- A decimal number with any white space around it. -/
def decimal? (f : Flags) (text : Text) : Option (Nat × Text) :=
  let text := Text.trimLeft text
  let (digits, rest) := digitRun text.length text
  if digits.isEmpty || 0x100000000 ≤ Text.number digits then none
  else some (Text.number digits, skipIgnored f (Text.trimLeft rest))
where
  /-- Digits one after another, anything ignored among them passed over. -/
  digitRun : Nat → Text → Text × Text
  | 0, text => ([], text)
  | fuel + 1, text =>
    match text with
    | [] => ([], [])
    | c :: _ =>
      if Text.isDigit c then
        let (digits, rest) := digitRun fuel (next f text)
        (c :: digits, rest)
      else ([], text)

/-- The question mark that makes a repetition lazy changes nothing about what matches. -/
def skipLazy (text : Text) : Text :=
  match text with
  | '?' :: rest => rest
  | _ => text

/-- The bounds of a repetition in braces, the text starting at the opening one. -/
def bounds? (f : Flags) (text : Text) : Option ((Nat × Option Nat) × Text) := do
  let (least, rest) ← decimal? f (next f text)
  let (most, rest) ← match rest with
    | ',' :: _ =>
      match next f rest with
      | '\x7d' :: after => some (none, '\x7d' :: after)
      | inner => do
        let (most, after) ← decimal? f inner
        some (some most, after)
    | _ => some (some least, rest)
  match rest with
  | '\x7d' :: _ => if most.all (least ≤ ·) then some ((least, most), skipLazy (next f rest)) else none
  | _ => none

/-! ### Groups -/

/-- The flags written in a group, up to the colon or the closing bracket. A flag may stand once;
after a hyphen it is taken away. -/
def flags? (f : Flags) (negated : Bool) (seen : Text) : Text → Option (Flags × Text)
  | [] => none
  | c :: rest =>
    if c == ':' || c == ')' then
      if seen.head? == some '-' then none else some (f, c :: rest)
    else if seen.contains c then none
    else
      let value := !negated
      let seen := c :: seen
      match c with
      | '-' => flags? f true seen rest
      | 'i' => flags? { f with ignoreCase := value } negated seen rest
      | 'm' => flags? { f with multiLine := value } negated seen rest
      | 's' => flags? { f with dotAll := value } negated seen rest
      | 'U' => flags? { f with swapGreed := value } negated seen rest
      | 'u' => flags? { f with unicode := value } negated seen rest
      | 'R' => flags? { f with crlf := value } negated seen rest
      | 'x' => flags? { f with verbose := value } negated seen rest
      | _ => none

/-- The name of a group, which ends at `>`. -/
def groupName? (text : Text) : Option (Text × Text) :=
  let name := text.takeWhile (· != '>')
  let isFirst (c : Char) : Bool := c == '_' || Text.Newer.alphabetic.contains c.toNat
  let isLater (c : Char) : Bool :=
    isFirst c || c == '.' || c == '[' || c == ']' || Text.Newer.numeric.contains c.toNat
  match name, text.drop name.length with
  | c :: others, _ :: rest => if isFirst c && others.all isLater then some (name, rest) else none
  | _, _ => none

/-- What an opening bracket starts: a group with its flags, or flags for the rest of the group
around it. A group that is numbered has a name, which is empty if none is written. -/
inductive Opening
  | group (flags : Flags) (name : Option Text)
  | setting (flags : Flags)
  deriving DecidableEq, Repr

/-- Reads what follows an opening bracket. -/
def opening? (f : Flags) (text : Text) : Option (Opening × Text) :=
  match skipIgnored f text with
  | '?' :: 'P' :: '<' :: rest => (groupName? rest).map fun (name, after) =>
    (.group f (some name), after)
  | '?' :: '<' :: rest =>
    if rest.head? == some '=' || rest.head? == some '!' then none
    else (groupName? rest).map fun (name, after) => (.group f (some name), after)
  | '?' :: rest => do
    let (changed, after) ← flags? f false [] rest
    match after with
    | ':' :: inner => some (.group changed none, inner)
    | ')' :: outside => if rest.head? == some ')' then none else some (.setting changed, outside)
    | _ => none
  | rest => some (.group f (some []), rest)

/-- One item of a sequence with its depth; a change of flags is an item that cannot be repeated. -/
inductive Item
  | expression (e : Expression) (depth : Nat)
  | setting
  deriving DecidableEq, Repr

def Item.depth : Item → Nat
  | expression _ depth => depth
  | setting => 0

/-- An open group: the flags around it, its number, its finished branches, the latest first, each
with its depth, and the items of the branch being read, the latest first. -/
structure OpenGroup where
  outside : Flags
  number : Option Nat
  branches : List (Expression × Nat)
  items : List Item
  deriving DecidableEq, Repr

namespace OpenGroup

def add (o : OpenGroup) (e : Expression) (depth : Nat) : OpenGroup :=
  { o with items := .expression e depth :: o.items }

/-- The branch being read as one expression, and its depth. -/
def branch (o : OpenGroup) : Expression × Nat :=
  let sequence := o.items.foldl (fun later item =>
    match item, later with
    | .setting, later => later
    | .expression e _, .empty => e
    | .expression e _, later => .append e later) .empty
  (sequence, depthOfRow o.items.length (o.items.foldl (max · ·.depth) 0))

/-- Ends the branch being read. -/
def alternate (o : OpenGroup) : OpenGroup :=
  { o with branches := o.branch :: o.branches, items := [] }

/-- The expression between the brackets of the group, and its depth. -/
def inside (o : OpenGroup) : Expression × Nat :=
  let (last, lastDepth) := o.branch
  (o.branches.foldl (fun later earlier => .either earlier.1 later) last,
    depthOfRow (o.branches.length + 1) (o.branches.foldl (max · ·.2) lastDepth))

/-- Adds a group that is closed. -/
def addGroup (o closed : OpenGroup) : OpenGroup :=
  let (e, depth) := closed.inside
  o.add (.group closed.number e) (depth + 1)

/-- Puts a repetition in the place of the last item, if that is an expression. -/
def repeatLast? (o : OpenGroup) (least : Nat) (most : Option Nat) : Option OpenGroup :=
  match o.items with
  | .expression e depth :: others =>
    some { o with items := .expression (.times e least most) (depth + 1) :: others }
  | _ => none

end OpenGroup

/-- A character on its own. -/
def charSet (f : Flags) (c : Char) : CharSet := foldCase f (.single c)

/-- A full stop; it leaves out the ends of lines unless all characters are asked for. -/
def dot? (f : Flags) : Option CharSet :=
  if !f.unicode then none
  else if f.dotAll then some .all
  else if f.crlf then some ((CharSet.single '\n').union (.single '\r')).compl
  else some (CharSet.single '\n').compl

def lineStart (f : Flags) : Look :=
  if f.multiLine then if f.crlf then .crlfLineStart else .lineStart else .textStart

def lineEnd (f : Flags) : Look :=
  if f.multiLine then if f.crlf then .crlfLineEnd else .lineEnd else .textEnd

/-- One item that is not a group, a branch or a repetition, with its depth. -/
def primitive? (f : Flags) (text : Text) : Option ((Expression × Nat) × Text) :=
  match text with
  | [] => none
  | '\\' :: rest =>
    match escape? f rest with
    | none => none
    | some (.char c byte, after) =>
      if !f.unicode && byte && 0x80 ≤ c.toNat then none
      else some ((.take (charSet f c), 0), after)
    | some (.set s, after) => some ((.take s, 0), after)
    | some (.look l, after) => some ((.look l, 0), after)
  | '.' :: rest => (dot? f).map fun s => ((.take s, 0), rest)
  | '^' :: rest => some ((.look (lineStart f), 0), rest)
  | '$' :: rest => some ((.look (lineEnd f), 0), rest)
  | '[' :: _ => (class? f text).map fun ((s, depth), after) => ((.take s, depth), after)
  | c :: rest => some ((.take (charSet f c), 0), rest)

/-- Reads an expression under the flags `f` with the innermost open group first. The names of the
numbered groups so far are `groups`, empty for one without a name. Every turn passes over at least
one character. -/
def loop (f : Flags) (groups : List Text) :
    Nat → OpenGroup → List OpenGroup → Text → Option (Expression × Nat)
  | 0, _, _, _ => none
  | fuel + 1, innermost, outer, text =>
    let text := skipIgnored f text
    match text with
    | [] => if outer.isEmpty then some innermost.inside else none
    | '(' :: rest =>
      match opening? f rest with
      | none => none
      | some (.setting changed, after) =>
        loop changed groups fuel { innermost with items := .setting :: innermost.items } outer after
      | some (.group inside none, after) =>
        loop inside groups fuel ⟨f, none, [], []⟩ (innermost :: outer) after
      | some (.group inside (some name), after) =>
        if !name.isEmpty && groups.contains name then none
        else
          loop inside (name :: groups) fuel ⟨f, some groups.length, [], []⟩ (innermost :: outer)
            after
    | ')' :: rest =>
      match outer with
      | [] => none
      | parent :: others =>
        loop innermost.outside groups fuel (parent.addGroup innermost) others rest
    | '|' :: rest => loop f groups fuel innermost.alternate outer rest
    | '?' :: rest =>
      match innermost.repeatLast? 0 (some 1) with
      | none => none
      | some repeated => loop f groups fuel repeated outer (skipLazy rest)
    | '*' :: rest =>
      match innermost.repeatLast? 0 none with
      | none => none
      | some repeated => loop f groups fuel repeated outer (skipLazy rest)
    | '+' :: rest =>
      match innermost.repeatLast? 1 none with
      | none => none
      | some repeated => loop f groups fuel repeated outer (skipLazy rest)
    | '\x7b' :: _ =>
      match bounds? f text with
      | none => none
      | some ((least, most), after) =>
        match innermost.repeatLast? least most with
        | none => none
        | some repeated => loop f groups fuel repeated outer after
    | _ =>
      match primitive? f text with
      | none => none
      | some ((e, depth), after) => loop f groups fuel (innermost.add e depth) outer after

end Parser

/-- How deep an expression may be nested. -/
def depthLimit : Nat := 250

/-- The expression that a text writes. One that is nested too deep is refused, and one whose
automaton would be too large. -/
def parse? (text : Text) : Option Expression :=
  match Parser.loop Flags.default [] (text.length + 1) ⟨Flags.default, none, [], []⟩ [] text with
  | none => none
  | some (e, depth) => if depth ≤ depthLimit && Automaton.fits e then some e else none

end MarkupQuery.Pattern
