import DocShape.Pattern.Property.Category
import DocShape.Pattern.Property.Given
import DocShape.Pattern.Property.Script

/-!
# Properties for finding boundaries

The boundaries of what a reader takes for a character, of words and of sentences depend on three
properties, each of which gives a code point one of a few values. `graphemeBreaks`, `wordBreaks` and
`sentenceBreaks` list the sets of code points with a value, by the names of the value.
-/

namespace DocShape.Charset

/-- Small letters, and what counts as one. -/
def lowercase : Charset := lowercaseLetter.union otherLowercase

/-- Capitals, and what counts as one. -/
def uppercase : Charset := uppercaseLetter.union otherUppercase

/-- Characters that are part of the spelling of words. -/
def alphabetic : Charset :=
  .unions [lowercase, uppercase, titlecaseLetter, modifierLetter, otherLetter, letterNumber,
    otherAlphabetic]

/-- Marks that make one character of themselves and the one before. -/
def graphemeExtend : Charset := .unions [nonspacingMark, enclosingMark, otherGraphemeExtend]

/-- Characters that are not shown. -/
def defaultIgnorable : Charset :=
  (Charset.unions [otherDefaultIgnorableCodePoint, format, variationSelector]).diff
    (.unions [whiteSpace, prependedConcatenationMark, .range 0xFFF9 0xFFFB, .range 0x13430 0x13440])

/-! ### Characters -/

/-- The syllables of the script Hangul. -/
def hangulSyllables : Charset := .range 0xAC00 0xD7A3

/-- The syllables of the script Hangul that end in a vowel: every one with an even share of the
twenty-eight possible ends. -/
def openSyllables : Charset :=
  .ofSorted ((List.range 399).map fun i => ⟨0xAC00 + 28 * i, 0xAC00 + 28 * i⟩)

/-- The consonants at the beginning of a syllable. -/
def leadingConsonants : Charset := .ofTable ["1100-115F A960-A97C"]

/-- The vowels of a syllable. -/
def syllableVowels : Charset := .ofTable ["1160-11A7 D7B0-D7C6 16D63 16D67-16D6A"]

/-- The consonants at the end of a syllable. -/
def trailingConsonants : Charset := .ofTable ["11A8-11FF D7CB-D7FB"]

/-- The joiner. -/
def zeroWidthJoiner : Charset := .range 0x200D 0x200D

/-- Characters that belong to the one behind. -/
def prepended : Charset :=
  prependedConcatenationMark.union
    (.ofTable ["D4E 111C2-111C3 113D1 1193F 11941 11A3A 11A84-11A89 11D46 11F02"])

/-- Spacing marks that stand alone. -/
def loneMarks : Charset := .ofTable
  ["102B-102C 1038 1062-1064 1067-106D 1083 1087-108C 108F 109A-109C 1A61 1A63-1A64 AA7B AA7D",
   "11720-11721"]

/-- Marks that take room of their own and belong to the character before. -/
def joinedSpacingMarks : Charset :=
  (spacingMark.union (.ofTable ["E33 EB3"])).diff (graphemeExtend.union loneMarks)

/-- Characters that never join another one. -/
def breakingControls : Charset :=
  (Charset.unions [lineSeparator, paragraphSeparator, control, format,
    unassigned.inter defaultIgnorable]).diff
    (.unions [.ofTable ["A D"], zeroWidthJoiner, graphemeExtend, prependedConcatenationMark])

/-- The sets for the boundaries of characters. -/
def graphemeBreaks : List (String × Charset) := [
  ("cr", .range 0xD 0xD),
  ("lf", .range 0xA 0xA),
  ("cn control", breakingControls),
  ("ex extend", graphemeExtend.union emojiModifier),
  ("zwj", zeroWidthJoiner),
  ("regionalindicator ri", regionalIndicator),
  ("pp prepend", prepended),
  ("sm spacingmark", joinedSpacingMarks),
  ("l", leadingConsonants),
  ("v", syllableVowels),
  ("t", trailingConsonants),
  ("lv", openSyllables),
  ("lvt", hangulSyllables.diff openSyllables)]

/-! ### Words -/

/-- Marks and modifiers, which never begin a word. -/
def wordExtend : Charset :=
  (Charset.unions [graphemeExtend, spacingMark, emojiModifier]).diff zeroWidthJoiner

/-- Digits, and what stands in or before numbers. -/
def wordNumeric : Charset :=
  decimalNumber.union (.ofTable ["600-605 66B 6DD 890-891 8E2 19DA 110BD 110CD"])

/-- Format characters that are not seen in words. -/
def wordFormat : Charset :=
  format.diff (.unions [wordExtend, wordNumeric, zeroWidthJoiner, .ofTable ["70F 200B"]])

/-- Katakana. -/
def wordKatakana : Charset := .ofTable
  ["3031-3035 309B-309C 30A0-30FA 30FC-30FF 31F0-31FF 32D0-32FE 3300-3357 FF66-FF9D 1AFF0-1AFF3",
   "1AFF5-1AFFB 1AFFD-1AFFE 1B000 1B120-1B122 1B155 1B164-1B167"]

/-- Some characters of a script. -/
def ofScript (name : String) : Charset := (script? name).getD empty

/-- Hebrew letters. -/
def hebrewLetter : Charset := (ofScript "hebr").inter otherLetter

/-- Scripts that do not show where a word ends. -/
def unspacedScripts : Charset :=
  .unions (["thai", "laoo", "mymr", "khmr", "tale", "talu", "lana", "tavt", "ahom"].map ofScript)

/-- Letters of words that the writing keeps apart, and what may stand among them. -/
def wordLetter : Charset :=
  (alphabetic.diff (.unions [ideographic, wordKatakana, ofScript "hira", wordExtend, hebrewLetter,
    unspacedScripts])).union
    (.ofTable ["2C2-2C5 2D2-2D7 2DE-2DF 2E5-2EB 2ED 2EF-2FF 55A-55C 55E 58A 5F3 70F A708-A716",
   "A720-A721 A789-A78A AB5B"])

/-- Punctuation that keeps letters together. -/
def midLetter : Charset := .ofTable ["3A B7 387 55F 5F4 2027 FE13 FE55 FF1A"]

/-- Punctuation that keeps letters together, and digits too. -/
def midNumLet : Charset := .ofTable ["2E 2018-2019 2024 FE52 FF07 FF0E"]

/-- The quotation mark that is an apostrophe as well. -/
def singleQuote : Charset := .range 0x27 0x27

/-- The sets for the boundaries of words. -/
def wordBreaks : List (String × Charset) := [
  ("cr", .range 0xD 0xD),
  ("lf", .range 0xA 0xA),
  ("newline nl", .ofTable ["B-C 85 2028-2029"]),
  ("extend", wordExtend),
  ("zwj", zeroWidthJoiner),
  ("fo format", wordFormat),
  ("regionalindicator ri", regionalIndicator),
  ("ka katakana", wordKatakana),
  ("hebrewletter hl", hebrewLetter),
  ("aletter le", wordLetter),
  ("singlequote sq", singleQuote),
  ("doublequote dq", .range 0x22 0x22),
  ("mb midnumlet", midNumLet),
  ("midletter ml", midLetter),
  ("midnum mn", .ofTable ["2C 3B 37E 589 60C-60D 66C 7F8 2044 FE50 FE54 FF0C FF1B"]),
  ("nu numeric", wordNumeric),
  ("ex extendnumlet", connectorPunctuation.union (.range 0x202F 0x202F)),
  ("wsegspace", spaceSeparator.diff (.ofTable ["A0 2007 202F"]))]

/-! ### Sentences -/

/-- Marks, which never begin a sentence. -/
def sentenceExtend : Charset := graphemeExtend.union spacingMark

/-- Small letters, save those that stand for both cases. -/
def sentenceLower : Charset :=
  lowercase.diff (graphemeExtend.union (.ofTable ["10D0-10FA 10FD-10FF"]))

/-- Capitals, save those that are seldom in use. -/
def sentenceUpper : Charset :=
  (uppercase.union titlecaseLetter).diff (.ofTable ["1C90-1CBA 1CBD-1CBF"])

/-- The full stops. -/
def fullStops : Charset := .ofTable ["2E 2024 FE52 FF0E"]

/-- Brackets and quotation marks. -/
def closers : Charset :=
  ((Charset.unions [openPunctuation, closePunctuation, quotationMark]).diff
    (.ofTable ["FF02 FF07"])).union
    (.ofTable ["275B-2760 2E00-2E0D 2E1C-2E1D 2E20-2E21 1F676-1F678"])

/-- Other letters. -/
def sentenceLetter : Charset :=
  (alphabetic.diff (.unions [sentenceLower, sentenceUpper, sentenceExtend])).union
    (.range 0x5F3 0x5F3)

/-- Punctuation within a sentence. -/
def sentenceContinue : Charset := .ofTable
  ["2C-2D 3A-3B 37E 55D 60C-60D 7F8 1802 1808 2013-2014 3001 FE10-FE11 FE13-FE14 FE31-FE32",
   "FE50-FE51 FE54-FE55 FE58 FE63 FF0C-FF0D FF1A-FF1B FF64"]

/-- The sets for the boundaries of sentences. -/
def sentenceBreaks : List (String × Charset) := [
  ("cr", .range 0xD 0xD),
  ("lf", .range 0xA 0xA),
  ("extend ex", sentenceExtend.union zeroWidthJoiner),
  ("se sep", .ofTable ["85 2028-2029"]),
  ("fo format", wordFormat.union (.ofTable ["70F 200B"])),
  ("sp", whiteSpace.diff (.ofTable ["A D 85 2028-2029"])),
  ("lo lower", sentenceLower),
  ("up upper", sentenceUpper),
  ("le oletter", sentenceLetter),
  ("nu numeric", wordNumeric.union (.range 0x66C 0x66C)),
  ("at aterm", fullStops),
  ("sc scontinue", sentenceContinue),
  ("st sterm", sentenceTerminal.diff fullStops),
  ("cl close", closers)]

end DocShape.Charset
