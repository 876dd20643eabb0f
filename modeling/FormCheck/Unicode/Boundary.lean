import FormCheck.Unicode.Property
import FormCheck.Unicode.Script

/-!
# Boundaries in texts

The properties `Grapheme_Cluster_Break`, `Word_Break` and `Sentence_Break`, by which a text is cut
into what is seen as one character, into words and into sentences. The values are written as the
standard derives them from other properties, with the characters that it adds or leaves out. What
has none of the values of a property has the value `Other`, which is no set that can be asked for.
-/

namespace FormCheck.Unicode.Boundary

open Property

/-- Signs that stand in front of the digits which they span. -/
def spanningMark : CharSet := .ofText
  "600-605 6DD 70F 890-891 8E2 110BD 110CD"

/-- Those of them that count as numbers; the other one is an abbreviation. -/
def numberMark : CharSet := .diff spanningMark (.range 0x70F 0x70F)

/-- The joiner of characters. -/
def joiner : CharSet := .range 0x200D 0x200D

namespace Grapheme

/-- The value `Extend`. -/
def extend : CharSet := .union graphemeExtend emojiModifier

/-- The value `Control`. -/
def control : CharSet :=
  .diff (.unions [Category.cc, Category.cf, Category.zl, Category.zp,
      .inter Category.cn defaultIgnorableCodePoint])
    (.unions [.ofText "A D", joiner, spanningMark, extend])

/-- The value `Prepend`. -/
def prepend : CharSet := .union spanningMark (.ofText
    "D4E 111C2-111C3 113D1 1193F 11941 11A3A 11A84-11A89 11D46 11F02")

/-- The value `SpacingMark`. -/
def spacingMark : CharSet := .diff (.union Category.mc (.ofText "E33 EB3")) (.union extend (.ofText
    "102B-102C 1038 1062-1064 1067-106D 1083 1087-108C 108F 109A-109C 1A61 1A63-1A64 AA7B AA7D
   11720-11721"))

/-- The value `L`. -/
def leading : CharSet := .ofText "1100-115F A960-A97C"

/-- The value `V`. -/
def vowel : CharSet := .ofText "1160-11A7 D7B0-D7C6 16D63 16D67-16D6A"

/-- The value `T`. -/
def trailing : CharSet := .ofText "11A8-11FF D7CB-D7FB"

/-- The value `LV`: every twenty-eighth syllable of Hangul, the others having a trailing part. -/
def openSyllable : CharSet :=
  .table ⟨(Array.range 399).map fun i => (0xAC00 + 28 * i, 0xAC00 + 28 * i)⟩

/-- The value `LVT`. -/
def closedSyllable : CharSet := .diff (.range 0xAC00 0xD7A3) openSyllable

/-- The values by their names, written loosely. -/
def names : List (List String × CharSet) :=
  [ (["cn", "control"], control),
    (["cr"], .single '\r'),
    (["ex", "extend"], extend),
    (["l"], leading),
    (["lf"], .single '\n'),
    (["lv"], openSyllable),
    (["lvt"], closedSyllable),
    (["pp", "prepend"], prepend),
    (["ri", "regionalindicator"], regionalIndicator),
    (["sm", "spacingmark"], spacingMark),
    (["t"], trailing),
    (["v"], vowel),
    (["zwj"], joiner) ]

end Grapheme

namespace Word

/-- The value `Extend`. -/
def extend : CharSet := .diff (.unions [graphemeExtend, Category.mc, emojiModifier]) joiner

/-- The value `Format`. -/
def format : CharSet :=
  .diff Category.cf (.unions [.ofText "200B-200D", spanningMark, graphemeExtend])

/-- The value `Katakana`. -/
def katakana : CharSet := .union Script.katakana.own (.ofText
    "3031-3035 309B-309C 30A0 30FC FF70")

/-- The value `Hebrew_Letter`. -/
def hebrewLetter : CharSet := .inter Script.hebrew.own Category.lo

/-- The scripts in which words are not set apart. -/
def unspaced : CharSet := .unions
  [Script.ahom.own, Script.khmer.own, Script.lao.own, Script.myanmar.own, Script.newTaiLue.own,
    Script.taiLe.own, Script.taiTham.own, Script.taiViet.own, Script.thai.own]

/-- The value `ALetter`. -/
def letter : CharSet := .diff (.union alphabetic (.ofText
    "2C2-2C5 2D2-2D7 2DE-2DF 2E5-2EB 2ED 2EF-2FF 55A-55C 55E 58A 5F3 70F A708-A716 A720-A721
   A789-A78A AB5B"))
    (.unions [ideographic, katakana, Script.hiragana.own, unspaced, extend, hebrewLetter])

/-- The value `MidNum`. -/
def midNumber : CharSet := .ofText
  "2C 3B 37E 589 60C-60D 66C 7F8 2044 FE10 FE14 FE50 FE54 FF0C FF1B"

/-- The value `Numeric`. -/
def numeric : CharSet := .unions [Category.nd, .range 0x66B 0x66B, numberMark]

/-- The value `WSegSpace`. -/
def space : CharSet := .diff Category.zs (.ofText "A0 2007 202F")

/-- The values by their names, written loosely. -/
def names : List (List String × CharSet) :=
  [ (["le", "aletter"], letter),
    (["cr"], .single '\r'),
    (["dq", "doublequote"], .range 0x22 0x22),
    (["extend"], extend),
    (["ex", "extendnumlet"], .union Category.pc (.range 0x202F 0x202F)),
    (["fo", "format"], format),
    (["hl", "hebrewletter"], hebrewLetter),
    (["ka", "katakana"], katakana),
    (["lf"], .single '\n'),
    (["ml", "midletter"], .ofText "3A B7 387 55F 5F4 2027 FE13 FE55 FF1A"),
    (["mn", "midnum"], midNumber),
    (["mb", "midnumlet"], .ofText "2E 2018-2019 2024 FE52 FF07 FF0E"),
    (["nl", "newline"], .ofText "B-C 85 2028-2029"),
    (["nu", "numeric"], numeric),
    (["ri", "regionalindicator"], regionalIndicator),
    (["sq", "singlequote"], .range 0x27 0x27),
    (["wsegspace"], space),
    (["zwj"], joiner) ]

end Word

namespace Sentence

/-- The value `Extend`. -/
def extend : CharSet := .unions [graphemeExtend, Category.mc, joiner]

/-- The value `Format`. -/
def format : CharSet :=
  .diff Category.cf (.unions [.ofText "200C-200D", spanningMark, graphemeExtend])

/-- The value `Sep`. -/
def separator : CharSet := .ofText "85 2028-2029"

/-- The value `Sp`. -/
def space : CharSet := .diff whiteSpace (.union separator (.ofText "A D"))

/-- The value `Lower`, without the letters of Georgian, which have no case in sentences. -/
def lower : CharSet := .diff lowercase (.union graphemeExtend (.ofText "10D0-10FA 10FD-10FF"))

/-- The value `Upper`. -/
def upper : CharSet :=
  .diff (.union Category.lt uppercase) (.ofText "1C90-1CBA 1CBD-1CBF")

/-- The value `OLetter`. -/
def letter : CharSet :=
  .diff (.union alphabetic (.ofText "5F3 70F")) (.unions [lower, upper, extend])

/-- The value `Numeric`. -/
def numeric : CharSet := .unions [Category.nd, .range 0x66B 0x66C, numberMark]

/-- The value `ATerm`. -/
def stop : CharSet := .ofText "2E 2024 FE52 FF0E"

/-- The value `SContinue`. -/
def continuing : CharSet := .ofText
  "2C-2D 3A-3B 37E 55D 60C-60D 7F8 1802 1808 2013-2014 3001 FE10-FE11 FE13-FE14 FE31-FE32
   FE50-FE51 FE54-FE55 FE58 FE63 FF0C-FF0D FF1A-FF1B FF64"

/-- The value `Close`. -/
def closing : CharSet := .unions [Category.ps, Category.pe, Category.pi, Category.pf,
  .ofText "22 27 275B-2760 2E00-2E01 2E06-2E08 2E0B 1F676-1F678"]

/-- The values by their names, written loosely. -/
def names : List (List String × CharSet) :=
  [ (["at", "aterm"], stop),
    (["cl", "close"], closing),
    (["cr"], .single '\r'),
    (["ex", "extend"], extend),
    (["fo", "format"], format),
    (["le", "oletter"], letter),
    (["lf"], .single '\n'),
    (["lo", "lower"], lower),
    (["nu", "numeric"], numeric),
    (["sc", "scontinue"], continuing),
    (["se", "sep"], separator),
    (["sp"], space),
    (["st", "sterm"], .diff sentenceTerminal stop),
    (["up", "upper"], upper) ]

end Sentence

end FormCheck.Unicode.Boundary
