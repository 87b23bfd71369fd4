import CfgPatch.Regex.Unicode.Table

/-!
# Boundaries in texts

The part that each character plays where a text is divided into characters as they are
perceived, words, or sentences. Most rows are put together from other properties; a row is
above the rows of its table that it is made of.
-/

namespace CfgPatch.Regex.Unicode

/-- The syllables of Hangul that end in a vowel: every 28th one. -/
def openSyllables : String :=
  " ".intercalate ((List.range 399).map fun k => String.ofList (Nat.toDigits 16 (0xAC00 + 28 * k)))

/-- The parts that characters play in the division into perceived characters. -/
def graphemeBreakRows : List PropertyRow := [
  { names := "CN Control",
    plus := "Zl Zp Cc Cf Default_Ignorable_Code_Point",
    minus := "Lo Mn Extend CR LF ZWJ Prepended_Concatenation_Mark",
    holes := "200C" },
  { names := "SM SpacingMark",
    plus := "Mc",
    minus := "Extend",
    ranges := "E33 EB3",
    holes := "102B-102C 1038 1062-1064 1067-106D 1083 1087-108C 108F 109A-109C 1A61 1A63-1A64
      AA7B AA7D 11720-11721" },
  { names := "EX Extend", plus := "Grapheme_Extend Emoji_Modifier" },
  { names := "LVT", minus := "LV", ranges := "AC00-D7A3" },
  { names := "LV", ranges := openSyllables },
  { names := "L", ranges := "1100-115F A960-A97C" },
  { names := "V", ranges := "1160-11A7 D7B0-D7C6 16D63 16D67-16D6A" },
  { names := "T", ranges := "11A8-11FF D7CB-D7FB" },
  { names := "CR", ranges := "D" },
  { names := "LF", ranges := "A" },
  { names := "PP Prepend",
    plus := "Prepended_Concatenation_Mark",
    ranges := "D4E 111C2-111C3 113D1 1193F 11941 11A3A 11A84-11A89 11D46 11F02" },
  { names := "RI Regional_Indicator", plus := "Regional_Indicator" },
  { names := "ZWJ", ranges := "200D" }
]

/-- The parts that characters play in the division into words. -/
def wordBreakRows : List PropertyRow := [
  { names := "LE ALetter",
    plus := "Alphabetic",
    minus := "Ideographic Katakana Hiragana Extend Hebrew_Letter",
    ranges := "2C2-2C5 2D2-2D7 2DE-2DF 2E5-2EB 2ED 2EF-2FF 55A-55C 55E 58A 5F3 70F A708-A716
      A720-A721 A789-A78A AB5B",
    holes := "E01-E30 E32-E33 E40-E46 E81-E82 E84 E86-E8A E8C-EA3 EA5 EA7-EB0 EB2-EB3 EBD
      EC0-EC4 EC6 EDC-EDF 1000-102A 103F 1050-1055 105A-105D 1061 1065-1066 106E-1070
      1075-1081 108E 1780-17B3 17D7 17DC 1950-196D 1970-1974 1980-19AB 19B0-19C9 1A20-1A54
      1AA7 A9E0-A9E4 A9E6-A9EF A9FA-A9FE AA60-AA76 AA7A AA7E-AAAF AAB1 AAB5-AAB6 AAB9-AABD
      AAC0 AAC2 AADB-AADD 11700-1171A 11740-11746" },
  { names := "EX ExtendNumLet", plus := "Pc", ranges := "202F" },
  { names := "FO Format", plus := "Cf", minus := "Extend Numeric", holes := "70F 200B-200D" },
  { names := "Extend", plus := "Grapheme_Extend Mc Emoji_Modifier" },
  { names := "NU Numeric", plus := "Nd", ranges := "600-605 66B 6DD 890-891 8E2 110BD 110CD" },
  { names := "KA Katakana", plus := "Kana", ranges := "3031-3035 309B-309C 30A0 30FC FF70" },
  { names := "HL Hebrew_Letter",
    ranges := "5D0-5EA 5EF-5F2 FB1D FB1F-FB28 FB2A-FB36 FB38-FB3C FB3E FB40-FB41 FB43-FB44
      FB46-FB4F" },
  { names := "CR", ranges := "D" },
  { names := "LF", ranges := "A" },
  { names := "NL Newline", ranges := "B-C 85 2028-2029" },
  { names := "SQ Single_Quote", ranges := "27" },
  { names := "DQ Double_Quote", ranges := "22" },
  { names := "MB MidNumLet", ranges := "2E 2018-2019 2024 FE52 FF07 FF0E" },
  { names := "ML MidLetter", ranges := "3A B7 387 55F 5F4 2027 FE13 FE55 FF1A" },
  { names := "MN MidNum",
    ranges := "2C 3B 37E 589 60C-60D 66C 7F8 2044 FE10 FE14 FE50 FE54 FF0C FF1B" },
  { names := "RI Regional_Indicator", plus := "Regional_Indicator" },
  { names := "WSegSpace", plus := "Zs", holes := "A0 2007 202F" },
  { names := "ZWJ", ranges := "200D" }
]

/-- The parts that characters play in the division into sentences. -/
def sentenceBreakRows : List PropertyRow := [
  { names := "CL Close",
    plus := "Ps Pe Pi Pf",
    ranges := "22 27 275B-2760 2E00-2E01 2E06-2E08 2E0B 1F676-1F678" },
  { names := "LE OLetter", plus := "Alphabetic", minus := "Lower Upper Extend", ranges := "5F3" },
  { names := "ST STerm", plus := "Sentence_Terminal", minus := "ATerm" },
  { names := "AT ATerm", ranges := "2E 2024 FE52 FF0E" },
  { names := "SP Sp", plus := "White_Space", minus := "Sep CR LF" },
  { names := "CR", ranges := "D" },
  { names := "LF", ranges := "A" },
  { names := "SE Sep", ranges := "85 2028-2029" },
  { names := "FO Format", plus := "Cf", minus := "Extend Numeric", holes := "200C" },
  { names := "EX Extend", plus := "Grapheme_Extend Mc", ranges := "200D" },
  { names := "LO Lower",
    plus := "Lowercase",
    minus := "Grapheme_Extend",
    holes := "10D0-10FA 10FD-10FF" },
  { names := "UP Upper", plus := "Uppercase Lt", holes := "1C90-1CBA 1CBD-1CBF" },
  { names := "NU Numeric", plus := "Nd", ranges := "600-605 66B-66C 6DD 890-891 8E2 110BD 110CD" },
  { names := "SC SContinue",
    ranges := "2C-2D 3A-3B 37E 55D 60C-60D 7F8 1802 1808 2013-2014 3001 FE10-FE11 FE13-FE14
      FE31-FE32 FE50-FE51 FE54-FE55 FE58 FE63 FF0C-FF0D FF1A-FF1B FF64" }
]

end CfgPatch.Regex.Unicode
