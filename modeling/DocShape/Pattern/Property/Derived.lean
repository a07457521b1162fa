import DocShape.Pattern.Property.Boundary

/-!
# Properties that are derived

Sets of characters that are made from the general categories and the given properties. `properties`
lists them and the given ones by name, short and long, in small letters and without separators.
`word` is the set of characters that make up words for the purpose of searching.
-/

namespace DocShape.Charset

/-! ### Letters and case -/

/-- The characters that make up words: alphabetic ones, marks, digits, connectors and joiners. -/
def word : Charset := .unions [alphabetic, mark, decimalNumber, connectorPunctuation, joinControl]

/-- Characters with case. -/
def cased : Charset := .unions [lowercase, uppercase, titlecaseLetter]

/-- Characters that do not count when a case depends on the letters around. -/
def caseIgnorable : Charset :=
  .unions [nonspacingMark, enclosingMark, format, modifierLetter, modifierSymbol, midLetter,
    midNumLet, singleQuote]

/-- Characters that change when the first letter of a word becomes a capital. -/
def changesWhenTitlecased : Charset :=
  (changesWhenUppercased.union titlecasedAlone).diff uppercasedAlone

/-- Characters that change when their case is folded. -/
def changesWhenCasefolded : Charset :=
  (changesWhenLowercased.union foldedAlone).diff lowercasedAlone

/-- Characters that change with a change of case. -/
def changesWhenCasemapped : Charset :=
  .unions [changesWhenLowercased, changesWhenUppercased, changesWhenTitlecased]

/-! ### Names -/

/-- The syntax of languages. -/
def patternReserved : Charset := patternSyntax.union patternWhiteSpace

/-- What may begin a name. -/
def idStart : Charset :=
  (Charset.unions [letter, letterNumber, otherIdStart]).diff patternReserved

/-- What may continue a name. -/
def idContinue : Charset :=
  (Charset.unions [idStart, nonspacingMark, spacingMark, decimalNumber, connectorPunctuation,
    otherIdContinue]).diff patternReserved

/-! ### Names of groups

A group in an expression may have a name that is written with the letters and numbers of the next
version of the standard. -/

/-- The letters that names may be made of. -/
def nameLetter : Charset := alphabetic.union <| .ofTable [
  "88F C5C CDC A7CE-A7CF A7D2 A7D4 A7F1 10940-10959 10EC5-10EC7 10EFA-10EFB 11B60-11B67",
  "11DB0-11DDB 16EA0-16EB8 16EBB-16ED3 16FF2-16FF6 187F8-187FF 18D09-18D1E 18D80-18DF2",
  "1E6C0-1E6DE 1E6E0-1E6F5 1E6FE-1E6FF 2B73A-2B73F 2CEA2-2CEAD 323B0-33479"]

/-- The numbers that names may go on with. -/
def nameNumber : Charset := number.union <| .ofTable ["11DE0-11DE9 16FF4-16FF6"]

/-! ### Marks and symbols -/

/-- Characters that marks can be put on. -/
def graphemeBase : Charset :=
  (Charset.unions [control, format, privateUse, unassigned, lineSeparator, paragraphSeparator,
    graphemeExtend]).compl

/-- Symbols of mathematics in a wide sense. -/
def math : Charset := mathSymbol.union otherMath

/-! ### By name -/

/-- The properties that a character has or has not. -/
def properties : List (String × Charset) := [
  ("ahex asciihexdigit", asciiHexDigit),
  ("alpha alphabetic", alphabetic),
  ("bidic bidicontrol", bidiControl),
  ("bidim bidimirrored", bidiMirrored),
  ("caseignorable ci", caseIgnorable),
  ("cased", cased),
  ("changeswhencasefolded cwcf", changesWhenCasefolded),
  ("changeswhencasemapped cwcm", changesWhenCasemapped),
  ("changeswhenlowercased cwl", changesWhenLowercased),
  ("changeswhentitlecased cwt", changesWhenTitlecased),
  ("changeswhenuppercased cwu", changesWhenUppercased),
  ("dash", dash),
  ("defaultignorablecodepoint di", defaultIgnorable),
  ("dep deprecated", deprecated),
  ("dia diacritic", diacritic),
  ("emoji", emoji),
  ("ecomp emojicomponent", emojiComponent),
  ("emod emojimodifier", emojiModifier),
  ("ebase emojimodifierbase", emojiModifierBase),
  ("emojipresentation epres", emojiPresentation),
  ("extendedpictographic extpict", extendedPictographic),
  ("ext extender", extender),
  ("graphemebase grbase", graphemeBase),
  ("graphemeextend grext", graphemeExtend),
  ("graphemelink grlink", graphemeLink),
  ("hex hexdigit", hexDigit),
  ("hyphen", hyphen),
  ("idsb idsbinaryoperator", idsBinaryOperator),
  ("idst idstrinaryoperator", idsTrinaryOperator),
  ("idsu idsunaryoperator", idsUnaryOperator),
  ("idcompatmathcontinue", idCompatMathContinue),
  ("idcompatmathstart", idCompatMathStart),
  ("idc idcontinue", idContinue),
  ("ids idstart", idStart),
  ("ideo ideographic", ideographic),
  ("joinc joincontrol", joinControl),
  ("loe logicalorderexception", logicalOrderException),
  ("lower lowercase", lowercase),
  ("math", math),
  ("mcm modifiercombiningmark", modifierCombiningMark),
  ("nchar noncharactercodepoint", noncharacterCodePoint),
  ("oalpha otheralphabetic", otherAlphabetic),
  ("odi otherdefaultignorablecodepoint", otherDefaultIgnorableCodePoint),
  ("ogrext othergraphemeextend", otherGraphemeExtend),
  ("oidc otheridcontinue", otherIdContinue),
  ("oids otheridstart", otherIdStart),
  ("olower otherlowercase", otherLowercase),
  ("omath othermath", otherMath),
  ("otheruppercase oupper", otherUppercase),
  ("patsyn patternsyntax", patternSyntax),
  ("patternwhitespace patws", patternWhiteSpace),
  ("pcm prependedconcatenationmark", prependedConcatenationMark),
  ("qmark quotationmark", quotationMark),
  ("radical", radical),
  ("regionalindicator ri", regionalIndicator),
  ("sentenceterminal sterm", sentenceTerminal),
  ("sd softdotted", softDotted),
  ("term terminalpunctuation", terminalPunctuation),
  ("uideo unifiedideograph", unifiedIdeograph),
  ("upper uppercase", uppercase),
  ("variationselector vs", variationSelector),
  ("space whitespace wspace", whiteSpace),
  ("xidc xidcontinue", idContinue.diff openIdContinue),
  ("xids xidstart", idStart.diff openIdStart)]

end DocShape.Charset
