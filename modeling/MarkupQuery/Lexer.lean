import MarkupQuery.Delimiter
import MarkupQuery.Token

/-!
Reading markup token by token. `scan` looks at the construct at the head of the bytes and knows
nothing of what came before; a `Lexer` is a position with the bytes after it. While more input may
follow, a construct that is cut off is left where it is; at the end of the input it is a fault.
Main statements: what each construct is read as (`Scan.scan_eq_iff`), and that a token takes at least
one byte (`Scan.width_pos`), so every run of the lexer ends.
-/
namespace MarkupQuery

/-- What stands at the head of the bytes: a token with its width, a construct that is cut off, or
a fault with the offset to report and the number of bytes to pass over before going on. -/
inductive Scan
  | finished
  | token (token : Token) (width : Nat)
  | cut (cause : Unfinished)
  | rejected (cause : Malformed) (offset resume : Nat)
  deriving DecidableEq, Repr

namespace Scan

/-- `<!--` -/
def commentOpen : Bytes := [0x3c, 0x21, 0x2d, 0x2d]

/-- `-->` -/
def commentClose : Bytes := [0x2d, 0x2d, 0x3e]

/-- `<![CDATA[` -/
def cdataOpen : Bytes := [0x3c, 0x21, 0x5b, 0x43, 0x44, 0x41, 0x54, 0x41, 0x5b]

/-- `]]>` -/
def cdataClose : Bytes := [0x5d, 0x5d, 0x3e]

/-- `<!DOCTYPE` -/
def doctypeOpen : Bytes := [0x3c, 0x21, 0x44, 0x4f, 0x43, 0x54, 0x59, 0x50, 0x45]

/-- `?>` -/
def instructionClose : Bytes := [0x3f, 0x3e]

/-- `xml` -/
def declarationTarget : Bytes := [0x78, 0x6d, 0x6c]

/-- Text runs up to the next `<` or to the end of the bytes. -/
def text (bytes : Bytes) : Scan :=
  let content := bytes.takeWhile (· != 0x3c)
  .token (.text content) content.length

/-- The name of an end tag is all that stands between `</` and the next `>`, blanks at its end
left out. -/
def endTag (bytes : Bytes) : Scan :=
  match bytes.idxOf? 0x3e with
  | none => .cut .endTag
  | some stop =>
    let name := Bytes.trimRight ((bytes.take stop).drop 2)
    if name.isEmpty || name.any Bytes.isBlank then .rejected .endTagName 0 0
    else .token (.endTag name) (stop + 1)

/-- Splits off the slash that makes a tag an empty-element tag. -/
def splitSlash (inner : Bytes) : Bytes × Bool :=
  if inner.getLast? == some 0x2f then (inner.dropLast, true) else (inner, false)

/-- A name, then an attribute section that is empty or starts with a blank. -/
def startTag (bytes : Bytes) : Scan :=
  match Bytes.name? (bytes.drop 1) with
  | none => .rejected .elementName 0 1
  | some name =>
    match Delimiter.tagEnd? bytes with
    | none => .cut .startTag
    | some stop =>
      let (attributes, closed) := splitSlash ((bytes.take stop).drop (1 + name.length))
      if attributes.head?.any (! Bytes.isBlank ·) then
        .rejected .elementNameEnd (1 + name.length) 0
      else .token (if closed then .emptyTag name attributes else .startTag name attributes)
        (stop + 1)

/-- An instruction whose target is `xml` in any case is the declaration of the document. -/
def instruction (bytes : Bytes) : Scan :=
  match Delimiter.sequence? instructionClose (bytes.drop 2) with
  | none => .cut .instruction
  | some length =>
    let body := (bytes.drop 2).take length
    match Bytes.name? body with
    | none => .rejected .instructionTarget 0 2
    | some target =>
      let data := Bytes.trimLeft (body.drop target.length)
      .token (if target.map Bytes.toLower == declarationTarget then .declaration target data
        else .instruction target data) (length + 4)

/-- A construct between fixed delimiters, its content running to the first closing delimiter. -/
def delimited (opening closing : Bytes) (make : Bytes → Token) (cut : Unfinished)
    (bytes : Bytes) : Scan :=
  match Delimiter.sequence? closing (bytes.drop opening.length) with
  | none => .cut cut
  | some length =>
    .token (make ((bytes.drop opening.length).take length))
      (opening.length + length + closing.length)

def doctype (bytes : Bytes) : Scan :=
  match Delimiter.doctypeEnd? bytes with
  | none => .cut .doctype
  | some stop => .token (.doctype ((bytes.take stop).drop doctypeOpen.length)) (stop + 1)

/-- Whether the bytes are a proper start of one of the declarations. -/
def isOpening (bytes : Bytes) : Bool :=
  [commentOpen, cdataOpen, doctypeOpen].any fun opening =>
    decide (bytes.length < opening.length) && bytes.isPrefixOf opening

def declaration (bytes : Bytes) : Scan :=
  if commentOpen.isPrefixOf bytes then delimited commentOpen commentClose .comment .comment bytes
  else if cdataOpen.isPrefixOf bytes then delimited cdataOpen cdataClose .cdata .cdata bytes
  else if doctypeOpen.isPrefixOf bytes then doctype bytes
  else if isOpening bytes then .cut .declaration
  else .rejected .declaration 0 0

end Scan

/-- Reads the construct at the head of the bytes. -/
def scan (bytes : Bytes) : Scan :=
  match bytes with
  | [] => .finished
  | first :: rest =>
    if first != 0x3c then Scan.text bytes
    else
      match rest with
      | [] => .cut .angle
      | second :: _ =>
        if second == 0x2f then Scan.endTag bytes
        else if second == 0x3f then Scan.instruction bytes
        else if second == 0x21 then Scan.declaration bytes
        else Scan.startTag bytes

namespace Scan

/-- The constructs between fixed delimiters: how one opens and closes, the token that it makes and what it is
where it is cut off. -/
inductive Enclosed : Bytes → Bytes → (Bytes → Token) → Unfinished → Prop
  | comment : Enclosed commentOpen commentClose .comment .comment
  | cdata : Enclosed cdataOpen cdataClose .cdata .cdata

/-- What the construct at the head of the bytes is read as. It is a token where it is whole, and else it is cut
off or at fault. -/
inductive Reads : Bytes → Scan → Prop
  | finished : Reads [] finished
  | text {first : UInt8} {rest content : Bytes} (plain : first ≠ 0x3c)
      (reach : (first :: rest).takeWhile (· != 0x3c) = content) :
      Reads (first :: rest) (token (.text content) content.length)
  | angle : Reads [0x3c] (cut .angle)
  | endTag {rest name : Bytes} {stop : Nat} (found : (0x3c :: 0x2f :: rest).idxOf? 0x3e = some stop)
      (named : Bytes.trimRight (((0x3c :: 0x2f :: rest).take stop).drop 2) = name)
      (solid : (name.isEmpty || name.any Bytes.isBlank) = false) :
      Reads (0x3c :: 0x2f :: rest) (token (.endTag name) (stop + 1))
  | endTagName {rest name : Bytes} {stop : Nat}
      (found : (0x3c :: 0x2f :: rest).idxOf? 0x3e = some stop)
      (named : Bytes.trimRight (((0x3c :: 0x2f :: rest).take stop).drop 2) = name)
      (wrong : (name.isEmpty || name.any Bytes.isBlank) = true) :
      Reads (0x3c :: 0x2f :: rest) (rejected .endTagName 0 0)
  | endTagCut {rest : Bytes} (unclosed : (0x3c :: 0x2f :: rest).idxOf? 0x3e = none) :
      Reads (0x3c :: 0x2f :: rest) (cut .endTag)
  | instruction {rest target data : Bytes} {length : Nat}
      (found : Delimiter.sequence? instructionClose rest = some length)
      (named : Bytes.name? (rest.take length) = some target)
      (trimmed : Bytes.trimLeft ((rest.take length).drop target.length) = data) :
      Reads (0x3c :: 0x3f :: rest)
        (token (if target.map Bytes.toLower == declarationTarget then .declaration target data
          else .instruction target data) (length + 4))
  | instructionTarget {rest : Bytes} {length : Nat}
      (found : Delimiter.sequence? instructionClose rest = some length)
      (unnamed : Bytes.name? (rest.take length) = none) :
      Reads (0x3c :: 0x3f :: rest) (rejected .instructionTarget 0 2)
  | instructionCut {rest : Bytes} (unclosed : Delimiter.sequence? instructionClose rest = none) :
      Reads (0x3c :: 0x3f :: rest) (cut .instruction)
  | enclosed {opening closing rest : Bytes} {make : Bytes → Token} {cause : Unfinished} {length : Nat}
      (kind : Enclosed opening closing make cause)
      (found : Delimiter.sequence? closing rest = some length) :
      Reads (opening ++ rest)
        (token (make (rest.take length)) (opening.length + length + closing.length))
  | enclosedCut {opening closing rest : Bytes} {make : Bytes → Token} {cause : Unfinished}
      (kind : Enclosed opening closing make cause)
      (unclosed : Delimiter.sequence? closing rest = none) : Reads (opening ++ rest) (cut cause)
  | doctype {rest : Bytes} {stop : Nat}
      (found : Delimiter.doctypeEnd? (doctypeOpen ++ rest) = some stop) :
      Reads (doctypeOpen ++ rest)
        (token (.doctype (((doctypeOpen ++ rest).take stop).drop doctypeOpen.length)) (stop + 1))
  | doctypeCut {rest : Bytes} (unclosed : Delimiter.doctypeEnd? (doctypeOpen ++ rest) = none) :
      Reads (doctypeOpen ++ rest) (cut .doctype)
  | declaration {rest : Bytes}
      (unopened : ∀ opening ∈ [commentOpen, cdataOpen, doctypeOpen], ¬ opening <+: 0x3c :: 0x21 :: rest)
      (wrong : isOpening (0x3c :: 0x21 :: rest) = false) :
      Reads (0x3c :: 0x21 :: rest) (rejected .declaration 0 0)
  | declarationCut {rest : Bytes}
      (unopened : ∀ opening ∈ [commentOpen, cdataOpen, doctypeOpen], ¬ opening <+: 0x3c :: 0x21 :: rest)
      (start : isOpening (0x3c :: 0x21 :: rest) = true) : Reads (0x3c :: 0x21 :: rest) (cut .declaration)
  | tag {rest name raw : Bytes} {closed : Bool} {stop : Nat} (named : Bytes.name? rest = some name)
      (found : Delimiter.tagEnd? (0x3c :: rest) = some stop)
      (split : splitSlash (((0x3c :: rest).take stop).drop (1 + name.length)) = (raw, closed))
      (apart : raw.head?.any (! Bytes.isBlank ·) = false) :
      Reads (0x3c :: rest)
        (token (if closed then .emptyTag name raw else .startTag name raw) (stop + 1))
  | elementNameEnd {rest name raw : Bytes} {closed : Bool} {stop : Nat}
      (named : Bytes.name? rest = some name) (found : Delimiter.tagEnd? (0x3c :: rest) = some stop)
      (split : splitSlash (((0x3c :: rest).take stop).drop (1 + name.length)) = (raw, closed))
      (joined : raw.head?.any (! Bytes.isBlank ·) = true) :
      Reads (0x3c :: rest) (rejected .elementNameEnd (1 + name.length) 0)
  | startTagCut {rest name : Bytes} (named : Bytes.name? rest = some name)
      (unclosed : Delimiter.tagEnd? (0x3c :: rest) = none) : Reads (0x3c :: rest) (cut .startTag)
  | elementName {second : UInt8} {rest : Bytes} (other : second ∉ [0x2f, 0x3f, 0x21])
      (unnamed : Bytes.name? (second :: rest) = none) :
      Reads (0x3c :: second :: rest) (rejected .elementName 0 1)

theorem reads_endTag (rest : Bytes) : Reads (0x3c :: 0x2f :: rest) (Scan.endTag (0x3c :: 0x2f :: rest)) := by
  fun_cases Scan.endTag (0x3c :: 0x2f :: rest) with
  | case1 unclosed => exact .endTagCut unclosed
  | case2 stop found name wrong => exact .endTagName found rfl wrong
  | case3 stop found name solid => exact .endTag found rfl (by simpa using solid)

theorem reads_startTag {second : UInt8} (other : second ∉ [0x2f, 0x3f, 0x21]) (rest : Bytes) :
    Reads (0x3c :: second :: rest) (Scan.startTag (0x3c :: second :: rest)) := by
  fun_cases Scan.startTag (0x3c :: second :: rest) with
  | case1 unnamed => exact .elementName other unnamed
  | case2 name named unclosed => exact .startTagCut named unclosed
  | case3 name named stop found raw closed split joined => exact .elementNameEnd named found split joined
  | case4 name named stop found raw closed split apart =>
    exact .tag named found split (by simpa using apart)

theorem reads_instruction (rest : Bytes) :
    Reads (0x3c :: 0x3f :: rest) (Scan.instruction (0x3c :: 0x3f :: rest)) := by
  fun_cases Scan.instruction (0x3c :: 0x3f :: rest) with
  | case1 unclosed => exact .instructionCut unclosed
  | case2 length found body unnamed => exact .instructionTarget found unnamed
  | case3 length found body target named data => exact .instruction found named rfl

theorem reads_delimited {opening closing : Bytes} {make : Bytes → Token} {cause : Unfinished}
    (kind : Enclosed opening closing make cause) {bytes : Bytes} (starts : opening.isPrefixOf bytes = true) :
    Reads bytes (delimited opening closing make cause bytes) := by
  obtain ⟨rest, rfl⟩ := List.isPrefixOf_iff_prefix.mp starts
  unfold delimited
  rw [List.drop_left]
  split
  · exact .enclosedCut kind ‹_›
  · exact .enclosed kind ‹_›

theorem reads_declaration (rest : Bytes) :
    Reads (0x3c :: 0x21 :: rest) (Scan.declaration (0x3c :: 0x21 :: rest)) := by
  fun_cases Scan.declaration (0x3c :: 0x21 :: rest) with
  | case1 comment => exact reads_delimited .comment comment
  | case2 _ cdata => exact reads_delimited .cdata cdata
  | case3 _ _ opened =>
    obtain ⟨more, same⟩ := List.isPrefixOf_iff_prefix.mp opened
    rw [← same]
    fun_cases Scan.doctype (doctypeOpen ++ more) with
    | case1 unclosed => exact .doctypeCut unclosed
    | case2 stop found => exact .doctype found
  | case4 comment cdata opened start =>
    exact .declarationCut (by simpa using And.intro comment (And.intro cdata opened)) start
  | case5 comment cdata opened wrong =>
    exact .declaration (by simpa using And.intro comment (And.intro cdata opened)) (by simpa using wrong)

theorem reads_scan (bytes : Bytes) : Reads bytes (scan bytes) := by
  fun_cases scan bytes with
  | case1 => exact .finished
  | case2 first rest plain => exact .text (bne_iff_ne.mp plain) rfl
  | case3 first angle =>
    obtain rfl : first = 0x3c := by simpa using angle
    exact .angle
  | case4 first angle second rest slash =>
    obtain rfl : first = 0x3c := by simpa using angle
    obtain rfl := beq_iff_eq.mp slash
    exact reads_endTag rest
  | case5 first angle second rest _ mark =>
    obtain rfl : first = 0x3c := by simpa using angle
    obtain rfl := beq_iff_eq.mp mark
    exact reads_instruction rest
  | case6 first angle second rest _ _ bang =>
    obtain rfl : first = 0x3c := by simpa using angle
    obtain rfl := beq_iff_eq.mp bang
    exact reads_declaration rest
  | case7 first angle second rest slash mark bang =>
    obtain rfl : first = 0x3c := by simpa using angle
    exact reads_startTag (by simpa using And.intro slash (And.intro mark bang)) rest

/-- What is neither an end tag nor an instruction nor a declaration is read as a start tag. -/
theorem scan_startTag_eq {second : UInt8} (other : second ∉ [0x2f, 0x3f, 0x21]) (rest : Bytes) :
    scan (0x3c :: second :: rest) = Scan.startTag (0x3c :: second :: rest) := by
  simp only [List.mem_cons, List.not_mem_nil, or_false, not_or] at other
  simp [scan, other]

theorem scan_named_eq {rest name : Bytes} (named : Bytes.name? rest = some name) :
    scan (0x3c :: rest) = Scan.startTag (0x3c :: rest) := by
  cases rest with
  | nil => cases named
  | cons second rest =>
    refine scan_startTag_eq ?_ rest
    intro member
    simp only [List.mem_cons, List.not_mem_nil, or_false] at member
    rcases member with rfl | rfl | rfl <;> cases named

theorem scan_enclosed_eq {opening closing : Bytes} {make : Bytes → Token} {cause : Unfinished}
    (kind : Enclosed opening closing make cause) (rest : Bytes) :
    scan (opening ++ rest) = delimited opening closing make cause (opening ++ rest) := by
  cases kind <;> rfl

theorem scan_doctype_eq (rest : Bytes) : scan (doctypeOpen ++ rest) = Scan.doctype (doctypeOpen ++ rest) :=
  rfl

theorem scan_declaration_eq {rest : Bytes}
    (unopened : ∀ opening ∈ [commentOpen, cdataOpen, doctypeOpen], ¬ opening <+: 0x3c :: 0x21 :: rest) :
    scan (0x3c :: 0x21 :: rest) =
      if isOpening (0x3c :: 0x21 :: rest) then .cut .declaration else .rejected .declaration 0 0 := by
  rw [show scan (0x3c :: 0x21 :: rest) = Scan.declaration (0x3c :: 0x21 :: rest) from rfl]
  simp only [← List.isPrefixOf_iff_prefix] at unopened
  rw [Scan.declaration, if_neg (unopened _ (by simp)), if_neg (unopened _ (by simp)),
    if_neg (unopened _ (by simp))]

theorem Reads.scan_eq {bytes : Bytes} {outcome : Scan} (reads : Reads bytes outcome) :
    scan bytes = outcome := by
  have ending (rest : Bytes) : scan (0x3c :: 0x2f :: rest) = Scan.endTag (0x3c :: 0x2f :: rest) := rfl
  have marked (rest : Bytes) :
      scan (0x3c :: 0x3f :: rest) = Scan.instruction (0x3c :: 0x3f :: rest) := rfl
  cases reads with
  | finished => rfl
  | text plain reach => simp [scan, Scan.text, plain, reach]
  | angle => rfl
  | endTag found named solid => simp [ending, Scan.endTag, found, named, solid]
  | endTagName found named wrong => simp [ending, Scan.endTag, found, named, wrong]
  | endTagCut unclosed => simp [ending, Scan.endTag, unclosed]
  | instruction found named trimmed => simp [marked, Scan.instruction, found, named, trimmed]
  | instructionTarget found unnamed => simp [marked, Scan.instruction, found, unnamed]
  | instructionCut unclosed => simp [marked, Scan.instruction, unclosed]
  | enclosed kind found => simp [scan_enclosed_eq kind, delimited, found]
  | enclosedCut kind unclosed => simp [scan_enclosed_eq kind, delimited, unclosed]
  | doctype found => simp [scan_doctype_eq, Scan.doctype, found]
  | doctypeCut unclosed => simp [scan_doctype_eq, Scan.doctype, unclosed]
  | declaration unopened wrong => simp [scan_declaration_eq unopened, wrong]
  | declarationCut unopened start => simp [scan_declaration_eq unopened, start]
  | tag named found split apart => simp [scan_named_eq named, Scan.startTag, named, found, split, apart]
  | elementNameEnd named found split joined =>
    simp [scan_named_eq named, Scan.startTag, named, found, split, joined]
  | startTagCut named unclosed => simp [scan_named_eq named, Scan.startTag, named, unclosed]
  | elementName other unnamed => simp [scan_startTag_eq other, Scan.startTag, unnamed]

/-- Nothing else is read, and what is read is told by these cases alone. -/
theorem scan_eq_iff {bytes : Bytes} {outcome : Scan} : scan bytes = outcome ↔ Reads bytes outcome :=
  ⟨fun h => h ▸ reads_scan bytes, Reads.scan_eq⟩

/-- A token, where there is one, takes at least one byte. -/
def Advances : Scan → Prop
  | token _ width => 0 < width
  | finished | cut _ | rejected .. => True

theorem Reads.advances {bytes : Bytes} {outcome : Scan} (reads : Reads bytes outcome) :
    Advances outcome := by
  cases reads with
  | text plain reach => simp [Advances, ← reach, plain]
  | endTag | instruction | doctype | tag => exact Nat.succ_pos _
  | enclosed kind =>
    cases kind with
    | comment | cdata => exact Nat.lt_add_left _ (by decide)
  | _ => trivial

theorem width_pos {bytes : Bytes} {token : Token} {width : Nat}
    (h : scan bytes = .token token width) : 0 < width := by
  simpa [Advances, h] using (reads_scan bytes).advances

/-- A token leaves less markup than there was. -/
theorem length_drop_lt {bytes : Bytes} {token : Token} {width : Nat}
    (h : scan bytes = .token token width) : (bytes.drop width).length < bytes.length := by
  have wide := width_pos h
  have nonempty : bytes ≠ [] := by
    rintro rfl
    cases h
  have := List.length_pos_iff.mpr nonempty
  rw [List.length_drop]
  omega

end Scan

/-- A position in markup with the bytes that follow it. `complete` says that no more bytes will
come after them. -/
structure Lexer where
  complete : Bool
  position : Nat
  rest : Bytes
  deriving DecidableEq, Repr

/-- One step of a lexer. -/
inductive LexerStep
  | finished
  | incomplete
  | lexeme (lexeme : Lexeme)
  | fault (fault : LexicalFault)
  deriving DecidableEq, Repr

namespace Lexer

/-- Reads markup that is all there. -/
def ofBytes (bytes : Bytes) : Lexer := ⟨true, 0, bytes⟩

/-- Reads the start of markup of which more may come. -/
def ofPart (bytes : Bytes) : Lexer := ⟨false, 0, bytes⟩

def advance (l : Lexer) (width : Nat) : Lexer :=
  { l with position := l.position + width, rest := l.rest.drop width }

/-- Reads one token. After a fault the lexer stands where reading may be tried again. -/
def step (l : Lexer) : LexerStep × Lexer :=
  match scan l.rest with
  | .finished => (.finished, l)
  | .token token width => (.lexeme ⟨token, l.position, l.position + width⟩, l.advance width)
  | .cut cause =>
    (if l.complete then .fault ⟨.unfinished cause, l.position⟩ else .incomplete, l)
  | .rejected cause offset resume =>
    (.fault ⟨.malformed cause, l.position + offset⟩, l.advance resume)

/-- What a step comes to, by what stands at the head of the bytes, with the lexer after it. -/
inductive Steps (l : Lexer) : LexerStep → Lexer → Prop
  | finished (ended : scan l.rest = .finished) : Steps l .finished l
  | lexeme {token : Token} {width : Nat} (scanned : scan l.rest = .token token width) :
      Steps l (.lexeme ⟨token, l.position, l.position + width⟩) (l.advance width)
  | incomplete {cause : Unfinished} (going : l.complete = false) (stops : scan l.rest = .cut cause) :
      Steps l .incomplete l
  | unfinished {cause : Unfinished} (complete : l.complete = true)
      (stops : scan l.rest = .cut cause) : Steps l (.fault ⟨.unfinished cause, l.position⟩) l
  | malformed {cause : Malformed} {offset resume : Nat}
      (rejected : scan l.rest = .rejected cause offset resume) :
      Steps l (.fault ⟨.malformed cause, l.position + offset⟩) (l.advance resume)

theorem step_eq_iff {l after : Lexer} {outcome : LexerStep} :
    l.step = (outcome, after) ↔ l.Steps outcome after := by
  constructor
  · fun_cases step l with
    | case1 ended =>
      rintro ⟨⟩
      exact .finished ended
    | case2 token width scanned =>
      rintro ⟨⟩
      exact .lexeme scanned
    | case3 cause stops =>
      cases complete : l.complete with
      | false =>
        rintro ⟨⟩
        exact .incomplete complete stops
      | true =>
        rintro ⟨⟩
        exact .unfinished complete stops
    | case4 cause offset resume rejected =>
      rintro ⟨⟩
      exact .malformed rejected
  · intro steps
    cases steps with
    | finished ended => rw [step, ended]
    | lexeme scanned => rw [step, scanned]
    | incomplete going stops =>
      rw [step, stops, going]
      rfl
    | unfinished complete stops =>
      rw [step, stops, complete]
      rfl
    | malformed rejected => rw [step, rejected]

theorem step_lexeme_length_lt {l after : Lexer} {lexeme : Lexeme}
    (h : l.step = (.lexeme lexeme, after)) : after.rest.length < l.rest.length := by
  cases step_eq_iff.mp h with
  | lexeme scanned => exact Scan.length_drop_lt scanned

theorem step_lexeme_position_lt {l after : Lexer} {lexeme : Lexeme}
    (h : l.step = (.lexeme lexeme, after)) : l.position < after.position := by
  cases step_eq_iff.mp h with
  | lexeme scanned => exact Nat.lt_add_of_pos_right (Scan.width_pos scanned)

/-- All tokens up to the end, the first construct that is cut off or the first fault, with the
step that ended the run and the lexer after it. -/
def run (l : Lexer) : List Lexeme × LexerStep × Lexer :=
  match _h : l.step with
  | (.lexeme lexeme, after) =>
    let (lexemes, last, stopped) := after.run
    (lexeme :: lexemes, last, stopped)
  | (last, after) => ([], last, after)
termination_by l.rest.length
decreasing_by exact step_lexeme_length_lt _h

end Lexer

end MarkupQuery
