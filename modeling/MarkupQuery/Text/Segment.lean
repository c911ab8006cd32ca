import MarkupQuery.Text.Property
import MarkupQuery.Text.Script

/-!
The part that characters play where text is cut into what a reader sees as single characters, into
words and into sentences. Each of the three divisions puts a character into one class at most.
-/
namespace MarkupQuery.Text.Segment

/-- The classes of a division by their names. -/
abbrev Classes := List (List String × CharSet)

/-- The two controls that every division sets apart. -/
def lineControls : Classes := [(["cr"], .single '\r'), (["lf"], .single '\n')]

/-- Marks before a number that count as part of it. -/
def numberSigns : CharSet := Property.prependedMark.diff (.single '\u070f')

def spacingMarks : CharSet := Category.union [.spacingMark]

def joiner : CharSet := .single '\u200d'

/-! ### Single characters -/

namespace Grapheme

def extend : CharSet := Property.graphemeExtend.union Property.emojiModifier

/-- Controls, separators and what has no form of its own, unless it joins or extends. -/
def control : CharSet :=
  ((Category.union [.lineSeparator, .paragraphSeparator, .control, .format]).union
    (Property.defaultIgnorable.diff Category.assigned)).diff
      (((CharSet.ofRanges [(0xa, 0xa), (0xd, 0xd), (0x200c, 0x200d)]).union
        Property.prependedMark).union extend)

def prepended : CharSet :=
  Property.prependedMark.union
    (CharSet.ofRanges
      [(0xd4e, 0xd4e), (0x111c2, 0x111c3), (0x113d1, 0x113d1), (0x1193f, 0x1193f),
       (0x11941, 0x11941), (0x11a3a, 0x11a3a), (0x11a84, 0x11a89), (0x11d46, 0x11d46),
       (0x11f02, 0x11f02)])

/-- Marks that take room beside the character before them. Some signs for vowels and tones do not
count. -/
def spacing : CharSet :=
  (spacingMarks.union (CharSet.ofRanges [(0xe33, 0xe33), (0xeb3, 0xeb3)])).diff
    (extend.union (CharSet.ofRanges
      [(0x102b, 0x102c), (0x1038, 0x1038), (0x1062, 0x1064), (0x1067, 0x106d), (0x1083, 0x1083),
       (0x1087, 0x108c), (0x108f, 0x108f), (0x109a, 0x109c), (0x1a61, 0x1a61), (0x1a63, 0x1a64),
       (0xaa7b, 0xaa7b), (0xaa7d, 0xaa7d), (0x11720, 0x11721)]))

/-- Syllables of a leading consonant and a vowel: every twenty-eighth one. -/
def openSyllables : CharSet := CharSet.ofRuns [⟨0xac00, 0xd788, 28⟩]

def syllables : CharSet := CharSet.ofRanges [(0xac00, 0xd7a3)]

def classes : Classes :=
  lineControls ++
    [(["cn", "control"], control), (["ex", "extend"], extend), (["pp", "prepend"], prepended),
     (["sm", "spacingmark"], spacing), (["zwj"], joiner),
     (["ri", "regionalindicator"], Property.regionalIndicator),
     (["l"], CharSet.ofRanges [(0x1100, 0x115f), (0xa960, 0xa97c)]),
     (["v"], CharSet.ofRanges
       [(0x1160, 0x11a7), (0xd7b0, 0xd7c6), (0x16d63, 0x16d63), (0x16d67, 0x16d6a)]),
     (["t"], CharSet.ofRanges [(0x11a8, 0x11ff), (0xd7cb, 0xd7fb)]),
     (["lv"], openSyllables), (["lvt"], syllables.diff openSyllables)]

end Grapheme

/-! ### Words -/

namespace Word

def extend : CharSet := Grapheme.extend.union spacingMarks

def katakana : CharSet :=
  (CharSet.ofRanges
    [(0x3031, 0x3035), (0x309b, 0x309c), (0x30a0, 0x30a0), (0x30fc, 0x30fc), (0xff70, 0xff70)]).union
      (CharSet.ofRuns ((Script.named? "kana").elim [] (·.runs)))

def hebrewLetters : CharSet :=
  (CharSet.ofRuns ((Script.named? "hebr").elim [] (·.runs))).inter (Category.union [.otherLetter])

/-- Scripts that are written without blanks between words. -/
def unspacedScripts : CharSet :=
  CharSet.ofRuns
    ((["thai", "laoo", "mymr", "khmr", "tale", "talu", "lana", "tavt", "ahom", "hira"].filterMap
      Script.named?).flatMap (·.runs))

/-- Signs that belong to words although they are no letters. -/
def letterLike : CharSet :=
  CharSet.ofRanges
    [(0x2c2, 0x2c5), (0x2d2, 0x2d7), (0x2de, 0x2df), (0x2e5, 0x2eb), (0x2ed, 0x2ed),
     (0x2ef, 0x2ff), (0x55a, 0x55c), (0x55e, 0x55e), (0x58a, 0x58a), (0x5f3, 0x5f3),
     (0x70f, 0x70f), (0xa708, 0xa716), (0xa720, 0xa721), (0xa789, 0xa78a), (0xab5b, 0xab5b)]

def letters : CharSet :=
  (Property.alphabetic.diff
    ((((Property.ideographic.union katakana).union hebrewLetters).union extend).union
      unspacedScripts)).union letterLike

def classes : Classes :=
  lineControls ++
    [(["le", "aletter"], letters), (["hl", "hebrewletter"], hebrewLetters),
     (["ka", "katakana"], katakana), (["extend"], extend), (["zwj"], joiner),
     (["fo", "format"], ((Category.union [.format]).diff
       (CharSet.ofRanges [(0x200b, 0x200d)])).diff (Property.prependedMark.union extend)),
     (["nu", "numeric"],
       ((Category.union [.digit]).union numberSigns).union (.single '\u066b')),
     (["mn", "midnum"], CharSet.ofRanges
       [(0x2c, 0x2c), (0x3b, 0x3b), (0x37e, 0x37e), (0x589, 0x589), (0x60c, 0x60d),
        (0x66c, 0x66c), (0x7f8, 0x7f8), (0x2044, 0x2044), (0xfe10, 0xfe10), (0xfe14, 0xfe14),
        (0xfe50, 0xfe50), (0xfe54, 0xfe54), (0xff0c, 0xff0c), (0xff1b, 0xff1b)]),
     (["ml", "midletter"], CharSet.ofRanges
       [(0x3a, 0x3a), (0xb7, 0xb7), (0x387, 0x387), (0x55f, 0x55f), (0x5f4, 0x5f4),
        (0x2027, 0x2027), (0xfe13, 0xfe13), (0xfe55, 0xfe55), (0xff1a, 0xff1a)]),
     (["mb", "midnumlet"], CharSet.ofRanges
       [(0x2e, 0x2e), (0x2018, 0x2019), (0x2024, 0x2024), (0xfe52, 0xfe52), (0xff07, 0xff07),
        (0xff0e, 0xff0e)]),
     (["ex", "extendnumlet"], CharSet.ofRanges
       [(0x5f, 0x5f), (0x202f, 0x202f), (0x203f, 0x2040), (0x2054, 0x2054), (0xfe33, 0xfe34),
        (0xfe4d, 0xfe4f), (0xff3f, 0xff3f)]),
     (["nl", "newline"], CharSet.ofRanges [(0xb, 0xc), (0x85, 0x85), (0x2028, 0x2029)]),
     (["wsegspace"], CharSet.ofRanges
       [(0x20, 0x20), (0x1680, 0x1680), (0x2000, 0x2006), (0x2008, 0x200a), (0x205f, 0x205f),
        (0x3000, 0x3000)]),
     (["dq", "doublequote"], .single '"'),
     (["sq", "singlequote"], CharSet.ofRanges [(0x27, 0x27)]),
     (["ri", "regionalindicator"], Property.regionalIndicator)]

end Word

/-! ### Sentences -/

namespace Sentence

def extend : CharSet := (Property.graphemeExtend.union spacingMarks).union joiner

/-- Small letters, but for those of a script that does without case in sentences. -/
def lower : CharSet :=
  Property.lowercase.diff
    (Property.graphemeExtend.union (CharSet.ofRanges [(0x10d0, 0x10fa), (0x10fd, 0x10ff)]))

def upper : CharSet :=
  (Property.uppercase.union (Category.union [.titleLetter])).diff
    (CharSet.ofRanges [(0x1c90, 0x1cba), (0x1cbd, 0x1cbf)])

def numeric : CharSet :=
  ((Category.union [.digit]).union numberSigns).union (CharSet.ofRanges [(0x66b, 0x66c)])

/-- Full stops, which may also end an abbreviation. -/
def ambiguousStop : CharSet :=
  CharSet.ofRanges [(0x2e, 0x2e), (0x2024, 0x2024), (0xfe52, 0xfe52), (0xff0e, 0xff0e)]

def classes : Classes :=
  lineControls ++
    [(["lo", "lower"], lower), (["up", "upper"], upper),
     (["le", "oletter"], (Property.alphabetic.union (.single '\u05f3')).diff
       ((lower.union upper).union extend)),
     (["nu", "numeric"], numeric), (["ex", "extend"], extend),
     (["fo", "format"], (Category.union [.format]).diff (extend.union numeric)),
     (["sp"], Property.space.diff
       (CharSet.ofRanges [(0xa, 0xa), (0xd, 0xd), (0x85, 0x85), (0x2028, 0x2029)])),
     (["se", "sep"], CharSet.ofRanges [(0x85, 0x85), (0x2028, 0x2029)]),
     (["at", "aterm"], ambiguousStop),
     (["st", "sterm"], Property.sentenceTerminal.diff ambiguousStop),
     (["sc", "scontinue"], CharSet.ofRanges
       [(0x2c, 0x2d), (0x3a, 0x3b), (0x37e, 0x37e), (0x55d, 0x55d), (0x60c, 0x60d),
        (0x7f8, 0x7f8), (0x1802, 0x1802), (0x1808, 0x1808), (0x2013, 0x2014), (0x3001, 0x3001),
        (0xfe10, 0xfe11), (0xfe13, 0xfe14), (0xfe31, 0xfe32), (0xfe50, 0xfe51),
        (0xfe54, 0xfe55), (0xfe58, 0xfe58), (0xfe63, 0xfe63), (0xff0c, 0xff0d),
        (0xff1a, 0xff1b), (0xff64, 0xff64)]),
     (["cl", "close"],
       (Category.union [.openBracket, .closeBracket, .initialQuote, .finalQuote]).union
         (CharSet.ofRanges
           [(0x22, 0x22), (0x27, 0x27), (0x275b, 0x2760), (0x2e00, 0x2e01), (0x2e06, 0x2e08),
            (0x2e0b, 0x2e0b), (0x1f676, 0x1f678)]))]

end Sentence

/-- The characters of the class with a name in one of the divisions. -/
def named? (classes : Classes) (name : String) : Option CharSet :=
  (classes.find? (·.1.contains name)).map (·.2)

end MarkupQuery.Text.Segment
