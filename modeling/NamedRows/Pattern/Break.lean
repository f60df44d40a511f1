import NamedRows.Pattern.CharSet

/-!
# Where text breaks

The classes of characters between which text may break into what a reader takes for single characters
(`graphemeBreaks`), into words (`wordBreaks`) and into sentences (`sentenceBreaks`). Most classes follow from other
properties by a rule; the rest are short lists. Characters of no class have no name here.
-/

namespace NamedRows.Pattern

open Unicode

/-- One class of a way to break text: its names in the loose form, and its characters. -/
structure BreakClass where
  names : List String
  members : CharSet

/-- The characters of the class with the given name. -/
def BreakClass.find? (classes : List BreakClass) (name : String) : Option CharSet :=
  (classes.find? fun b => b.names.contains name).map (·.members)

namespace Breaking

/-- The characters of a general category. -/
def category (name : String) : CharSet := .property (.category name)

/-- The characters of any of several general categories. -/
def categories (names : List String) : CharSet := .unions (names.map category)

/-- The characters of a script. -/
def script (name : String) : CharSet := .property (.script name)

/-- The characters with a yes-or-no property. -/
def holds (name : String) : CharSet := .property (.binary name)

/-- The characters with the given codes, each pair a first and a last one. -/
def spans (codes : List (Nat × Nat)) : CharSet :=
  .unions (codes.map fun (lo, hi) => .range (Char.ofNat lo) (Char.ofNat hi))

/-- The characters with the given codes. -/
def codes (list : List Nat) : CharSet := spans (list.map fun n => (n, n))

/-! ## Classes that several ways to break share -/

/-- The carriage return. -/
def carriageReturn : BreakClass := ⟨["cr"], codes [0x0D]⟩

/-- The line feed. -/
def lineFeed : BreakClass := ⟨["lf"], codes [0x0A]⟩

/-- The joiner of neighbours that otherwise do not join. -/
def zeroWidthJoiner : BreakClass := ⟨["zwj"], codes [0x200D]⟩

/-- The letters of which pairs make flags. -/
def regionalIndicator : BreakClass := ⟨["ri", "regionalindicator"], holds "ri"⟩

/-- The invisible characters that spell out tags. -/
def tags : CharSet := spans [(0xE0020, 0xE007F)]

/-- The joiner and the non-joiner. -/
def joiners : CharSet := codes [0x200C, 0x200D]

/-- The marks that are set before the numbers they belong to. -/
def numberMarks : CharSet :=
  spans [(0x0600, 0x0605), (0x06DD, 0x06DD), (0x0890, 0x0891), (0x08E2, 0x08E2), (0x110BD, 0x110BD),
    (0x110CD, 0x110CD)]

/-! ## Single characters -/

/-- Characters that join the one before them. -/
def extender : CharSet := .union (holds "grext") (holds "emod")

/-- Controls and separators, and codes that are to be ignored where they are not known. -/
def control : CharSet :=
  .diff (.union (categories ["zl", "zp", "cc", "cf"]) (.inter (category "cn") (holds "di")))
    (.unions [codes [0x0A, 0x0D], joiners, holds "pcm", tags])

/-- Characters that join the one after them. -/
def prepend : CharSet :=
  .union numberMarks <| spans
    [(0x070F, 0x070F), (0x0D4E, 0x0D4E), (0x111C2, 0x111C3), (0x113D1, 0x113D1), (0x1193F, 0x1193F),
      (0x11941, 0x11941), (0x11A3A, 0x11A3A), (0x11A84, 0x11A89), (0x11D46, 0x11D46), (0x11F02, 0x11F02)]

/-- Spacing marks that do not stand apart from the character before them. -/
def spacingMark : CharSet :=
  .diff (.union (.diff (category "mc") extender) (codes [0x0E33, 0x0EB3])) <| spans
    [(0x102B, 0x102C), (0x1038, 0x1038), (0x1062, 0x1064), (0x1067, 0x106D), (0x1083, 0x1083), (0x1087, 0x108C),
      (0x108F, 0x108F), (0x109A, 0x109C), (0x1A61, 0x1A61), (0x1A63, 0x1A64), (0xAA7B, 0xAA7B), (0xAA7D, 0xAA7D),
      (0x11720, 0x11721)]

/-- The syllables of Hangul. -/
def syllables : CharSet := spans [(0xAC00, 0xD7A3)]

/-- The syllables of Hangul without a final consonant: every twenty-eighth one. -/
def openSyllables : CharSet := codes ((List.range 399).map fun k => 0xAC00 + 28 * k)

/-! ## Words -/

/-- Marks and other characters that go with the one before them. -/
def wordExtend : CharSet := .diff (.unions [holds "grext", category "mc", holds "emod"]) (codes [0x200D])

/-- Digits and what belongs to a number. -/
def wordNumeric : CharSet := .unions [category "nd", codes [0x066B], numberMarks]

/-- The syllables of Katakana with their marks. -/
def katakana : CharSet :=
  .union (script "kana") <| spans
    [(0x3031, 0x3035), (0x309B, 0x309C), (0x30A0, 0x30A0), (0x30FC, 0x30FC), (0xFF70, 0xFF70)]

/-- The letters of Hebrew. -/
def hebrewLetter : CharSet := .inter (script "hebr") (category "lo")

/-- Signs that count as letters inside words. -/
def letterSigns : CharSet := spans
  [(0x02C2, 0x02C5), (0x02D2, 0x02D7), (0x02DE, 0x02DF), (0x02E5, 0x02EB), (0x02ED, 0x02ED), (0x02EF, 0x02FF),
    (0x055A, 0x055C), (0x055E, 0x055E), (0x058A, 0x058A), (0x05F3, 0x05F3), (0x070F, 0x070F), (0xA708, 0xA716),
    (0xA720, 0xA721), (0xA789, 0xA78A), (0xAB5B, 0xAB5B)]

/-- Letters of scripts that do not write words without spaces between them. -/
def wordLetter : CharSet :=
  .diff (.union (holds "alpha") letterSigns) <| .unions <|
    [holds "ideo", katakana, wordExtend, hebrewLetter] ++
      ["thai", "laoo", "khmr", "mymr", "tale", "talu", "lana", "ahom", "tavt", "hira"].map script

/-! ## Sentences -/

/-- Full stops that also end abbreviations. -/
def fullStop : CharSet := codes [0x002E, 0x2024, 0xFE52, 0xFF0E]

/-- Marks and other characters that go with the one before them. -/
def sentenceExtend : CharSet := .unions [holds "grext", category "mc", codes [0x200D]]

/-- Small letters. -/
def sentenceLower : CharSet :=
  .diff (holds "lower") (.union (holds "grext") (spans [(0x10D0, 0x10FA), (0x10FD, 0x10FF)]))

/-- Capital letters; those of Georgian stand for whole words. -/
def sentenceUpper : CharSet :=
  .diff (.union (category "lt") (holds "upper")) (spans [(0x1C90, 0x1CBA), (0x1CBD, 0x1CBF)])

/-- Letters without case. -/
def sentenceLetter : CharSet :=
  .diff (.union (holds "alpha") (codes [0x05F3])) (.unions [sentenceLower, sentenceUpper, sentenceExtend])

/-- Marks that end sentences. -/
def sentenceEnd : CharSet := .diff (holds "sterm") fullStop

/-- Brackets and quotation marks. -/
def closing : CharSet :=
  .diff
    (.union (categories ["ps", "pe", "pi", "pf"])
      (spans [(0x22, 0x22), (0x27, 0x27), (0x275B, 0x2760), (0x2E00, 0x2E01), (0x2E06, 0x2E08), (0x2E0B, 0x2E0B),
        (0x1F676, 0x1F678)]))
    (.unions [codes [0x05F3], fullStop, sentenceEnd])

end Breaking

open Breaking

/-- The classes that break text into single characters. -/
def graphemeBreaks : List BreakClass := [
  carriageReturn, lineFeed, zeroWidthJoiner, regionalIndicator,
  ⟨["cn", "control"], control⟩,
  ⟨["ex", "extend"], extender⟩,
  ⟨["pp", "prepend"], prepend⟩,
  ⟨["sm", "spacingmark"], spacingMark⟩,
  ⟨["l"], spans [(0x1100, 0x115F), (0xA960, 0xA97C)]⟩,
  ⟨["v"], spans [(0x1160, 0x11A7), (0xD7B0, 0xD7C6), (0x16D63, 0x16D63), (0x16D67, 0x16D6A)]⟩,
  ⟨["t"], spans [(0x11A8, 0x11FF), (0xD7CB, 0xD7FB)]⟩,
  ⟨["lv"], openSyllables⟩,
  ⟨["lvt"], .diff syllables openSyllables⟩]

/-- The classes that break text into words. -/
def wordBreaks : List BreakClass := [
  carriageReturn, lineFeed, zeroWidthJoiner, regionalIndicator,
  ⟨["nl", "newline"], codes [0x0B, 0x0C, 0x85, 0x2028, 0x2029]⟩,
  ⟨["extend"], wordExtend⟩,
  ⟨["fo", "format"], .diff (category "cf") (.unions [codes [0x200B], joiners, tags, holds "pcm"])⟩,
  ⟨["ka", "katakana"], katakana⟩,
  ⟨["hl", "hebrewletter"], hebrewLetter⟩,
  ⟨["le", "aletter"], wordLetter⟩,
  ⟨["sq", "singlequote"], codes [0x27]⟩,
  ⟨["dq", "doublequote"], codes [0x22]⟩,
  ⟨["mb", "midnumlet"], codes [0x2E, 0x2018, 0x2019, 0x2024, 0xFE52, 0xFF07, 0xFF0E]⟩,
  ⟨["ml", "midletter"], codes [0x3A, 0xB7, 0x0387, 0x055F, 0x05F4, 0x2027, 0xFE13, 0xFE55, 0xFF1A]⟩,
  ⟨["mn", "midnum"],
    codes [0x2C, 0x3B, 0x037E, 0x0589, 0x060C, 0x060D, 0x066C, 0x07F8, 0x2044, 0xFE10, 0xFE14, 0xFE50, 0xFE54,
      0xFF0C, 0xFF1B]⟩,
  ⟨["nu", "numeric"], wordNumeric⟩,
  ⟨["ex", "extendnumlet"], .union (category "pc") (codes [0x202F])⟩,
  ⟨["wsegspace"],
    spans [(0x20, 0x20), (0x1680, 0x1680), (0x2000, 0x2006), (0x2008, 0x200A), (0x205F, 0x205F), (0x3000, 0x3000)]⟩]

/-- The classes that break text into sentences. -/
def sentenceBreaks : List BreakClass := [
  carriageReturn, lineFeed,
  ⟨["ex", "extend"], sentenceExtend⟩,
  ⟨["se", "sep"], codes [0x85, 0x2028, 0x2029]⟩,
  ⟨["fo", "format"],
    .diff (category "cf") (.unions [joiners, tags, .diff (holds "pcm") (codes [0x070F])])⟩,
  ⟨["sp"],
    spans [(0x09, 0x09), (0x0B, 0x0C), (0x20, 0x20), (0xA0, 0xA0), (0x1680, 0x1680), (0x2000, 0x200A),
      (0x202F, 0x202F), (0x205F, 0x205F), (0x3000, 0x3000)]⟩,
  ⟨["lo", "lower"], sentenceLower⟩,
  ⟨["up", "upper"], sentenceUpper⟩,
  ⟨["le", "oletter"], sentenceLetter⟩,
  ⟨["nu", "numeric"], .union wordNumeric (codes [0x066C])⟩,
  ⟨["at", "aterm"], fullStop⟩,
  ⟨["sc", "scontinue"],
    codes [0x2C, 0x2D, 0x3A, 0x3B, 0x037E, 0x055D, 0x060C, 0x060D, 0x07F8, 0x1802, 0x1808, 0x2013, 0x2014, 0x3001,
      0xFE10, 0xFE11, 0xFE13, 0xFE14, 0xFE31, 0xFE32, 0xFE50, 0xFE51, 0xFE54, 0xFE55, 0xFE58, 0xFE63, 0xFF0C,
      0xFF0D, 0xFF1A, 0xFF1B, 0xFF64]⟩,
  ⟨["st", "sterm"], sentenceEnd⟩,
  ⟨["cl", "close"], closing⟩]

end NamedRows.Pattern
