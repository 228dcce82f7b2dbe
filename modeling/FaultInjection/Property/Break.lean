import FaultInjection.Property.Script

namespace FaultInjection.Property

open FaultInjection.Text (Ranges)
open FaultInjection.Text.PropertyTable

def carriageReturn : Ranges := #[⟨0xD, 0xD⟩]

def lineFeed : Ranges := #[⟨0xA, 0xA⟩]

def joiner : Ranges := #[⟨0x200D, 0x200D⟩]

def numberSign : String :=
  "600-605 6DD 890-891 8E2 110BD 110CD"

def leadingJamo : String := "1100-115F A960-A97C"

def vowelJamo : String := "1160-11A7 D7B0-D7C6 16D63 16D67-16D6A"

def trailingJamo : String := "11A8-11FF D7CB-D7FB"

def openSyllables : Ranges :=
  ((List.range 399).map fun i => (⟨0xAC00 + 28 * i, 0xAC00 + 28 * i⟩ : Text.Range)).toArray

def prepended : String :=
  "600-605 6DD 70F 890-891 8E2 D4E 110BD 110CD 111C2-111C3 113D1 1193F 11941 11A3A 11A84-11A89
   11D46 11F02"

def detachedMarks : String :=
  "102B 102C 1038 1062-1064 1067-106D 1083 1087-108C 108F 109A-109C 1A61 1A63 1A64 AA7B AA7D
   11720 11721"

def extender (other : Ranges) : Ranges :=
  graphemeExtend other ++ flag "emod"

def graphemeBreak? (name : String) : Option Ranges :=
  match name with
  | "cr" => some carriageReturn
  | "lf" => some lineFeed
  | "zwj" => some joiner
  | "cn" | "control" =>
    some ((categories [.lineSeparator, .paragraphSeparator, .control, .format] ++
      Ranges.ofText "2065 FFF0-FFF8 E0000 E0002-E001F E0080-E00FF E01F0-E0FFF").minus
        (carriageReturn ++ lineFeed ++ joiner ++ Ranges.ofText prepended ++
          graphemeExtend otherGraphemeExtend))
  | "ex" | "extend" => some (extender otherGraphemeExtend)
  | "l" => some (Ranges.ofText leadingJamo)
  | "v" => some (Ranges.ofText vowelJamo)
  | "t" => some (Ranges.ofText trailingJamo)
  | "lv" => some openSyllables
  | "lvt" => some (Ranges.minus #[⟨0xAC00, 0xD7A3⟩] openSyllables)
  | "pp" | "prepend" => some (Ranges.ofText prepended)
  | "ri" | "regionalindicator" => some (flag "ri")
  | "sm" | "spacingmark" =>
    some ((category .spacingMark ++ Ranges.ofText "E33 EB3").minus
      (graphemeExtend otherGraphemeExtend ++ Ranges.ofText detachedMarks))
  | _ => none

def wordExtend (other : Ranges) : Ranges :=
  (extender other ++ category .spacingMark).minus joiner

def katakana : Ranges :=
  (script? "kana").getD #[] ++ Ranges.ofText "3031-3035 309B-309C 30A0 30FC FF70"

def hebrewLetter (hebrew : Ranges) : Ranges :=
  hebrew.meet (category .otherLetter)

def letterSigns : String :=
  "B8 2C2-2C5 2D2-2D7 2DE-2DF 2E5-2EB 2ED 2EF-2FF 55A-55C 55E 58A 5F3 70F A708-A716 A720-A721
   A789-A78A AB5B"

def unparted : String :=
  "E01-E30 E32-E33 E40-E46 E81-E82 E84 E86-E8A E8C-EA3 EA5 EA7-EB0 EB2-EB3 EBD EC0-EC4 EC6
   EDC-EDF 1000-102A 103F 1050-1055 105A-105D 1061 1065-1066 106E-1070 1075-1081 108E 1780-17B3
   17D7 17DC 1950-196D 1970-1974 1980-19AB 19B0-19C9 1A20-1A54 1AA7 A9E0-A9E4 A9E6-A9EF A9FA-A9FE
   AA60-AA76 AA7A AA7E-AAAF AAB1 AAB5-AAB6 AAB9-AABD AAC0 AAC2 AADB-AADD 11700-1171A 11740-11746"

def wordLetter (other : Ranges) : Ranges :=
  (alphabetic other ++ Ranges.ofText letterSigns).minus
    (flag "ideo" ++ katakana ++ Ranges.ofText unparted ++ (script? "hira").getD #[] ++
      wordExtend otherGraphemeExtend ++ hebrewLetter ((script? "hebr").getD #[]))

def wordBreak? (name : String) : Option Ranges :=
  match name with
  | "cr" => some carriageReturn
  | "lf" => some lineFeed
  | "zwj" => some joiner
  | "nl" | "newline" => some (Ranges.ofText "B-C 85 2028-2029")
  | "extend" => some (wordExtend otherGraphemeExtend)
  | "fo" | "format" =>
    some ((category .format).minus (Ranges.ofText "200B-200D" ++ Ranges.ofText prepended ++
      wordExtend otherGraphemeExtend))
  | "ka" | "katakana" => some katakana
  | "hl" | "hebrewletter" => some (hebrewLetter ((script? "hebr").getD #[]))
  | "le" | "aletter" => some (wordLetter otherAlphabetic)
  | "sq" | "singlequote" => some (Ranges.ofText "27")
  | "dq" | "doublequote" => some (Ranges.ofText "22")
  | "mb" | "midnumlet" => some (Ranges.ofText "2E 2018-2019 2024 FE52 FF07 FF0E")
  | "ml" | "midletter" => some (Ranges.ofText "3A B7 387 55F 5F4 2027 FE13 FE55 FF1A")
  | "mn" | "midnum" =>
    some (Ranges.ofText "2C 3B 37E 589 60C-60D 66C 7F8 2044 FE50 FE54 FF0C FF1B")
  | "nu" | "numeric" =>
    some (category .decimalNumber ++ Ranges.ofText "66B" ++ Ranges.ofText numberSign)
  | "ex" | "extendnumlet" => some (Ranges.ofText "5F 202F 203F-2040 2054 FE33-FE34 FE4D-FE4F FF3F")
  | "ri" | "regionalindicator" => some (flag "ri")
  | "wsegspace" => some (Ranges.ofText "20 1680 2000-2006 2008-200A 205F 3000")
  | _ => none

def sentenceLower (other : Ranges) : Ranges :=
  (lowercase other).minus (graphemeExtend otherGraphemeExtend ++
    Ranges.ofText "10D0-10FA 10FD-10FF")

def sentenceUpper (other : Ranges) : Ranges :=
  (uppercase other ++ category .titlecaseLetter).minus (Ranges.ofText "1C90-1CBA 1CBD-1CBF")

def sentenceExtend (other : Ranges) : Ranges :=
  graphemeExtend other ++ category .spacingMark ++ joiner

def stopSigns : String := "2E 2024 FE52 FF0E"

def sentenceEnd (terminal : Ranges) : Ranges :=
  terminal.minus (Ranges.ofText stopSigns)

def plainQuotes : String :=
  "22 27 275B-2760 2E00-2E01 2E06-2E08 2E0B 1F676-1F678"

def sentenceBreak? (name : String) : Option Ranges :=
  match name with
  | "cr" => some carriageReturn
  | "lf" => some lineFeed
  | "ex" | "extend" => some (sentenceExtend otherGraphemeExtend)
  | "se" | "sep" => some (Ranges.ofText "85 2028-2029")
  | "fo" | "format" =>
    some ((category .format).minus (Ranges.ofText "200C-200D" ++ Ranges.ofText numberSign ++
      graphemeExtend otherGraphemeExtend))
  | "sp" => some (Ranges.ofText "9 B-C 20 A0 1680 2000-200A 202F 205F 3000")
  | "lo" | "lower" => some (sentenceLower otherLowercase)
  | "up" | "upper" => some (sentenceUpper otherUppercase)
  | "le" | "oletter" =>
    some ((alphabetic otherAlphabetic ++ Ranges.ofText "5F3").minus
      (sentenceLower otherLowercase ++ sentenceUpper otherUppercase ++
        sentenceExtend otherGraphemeExtend))
  | "nu" | "numeric" =>
    some (category .decimalNumber ++ Ranges.ofText "66B-66C" ++ Ranges.ofText numberSign)
  | "at" | "aterm" => some (Ranges.ofText stopSigns)
  | "sc" | "scontinue" =>
    some (Ranges.ofText "2C-2D 3A-3B 37E 55D 60C-60D 7F8 1802 1808 2013-2014 3001 FE10-FE11
      FE13-FE14 FE31-FE32 FE50-FE51 FE54-FE55 FE58 FE63 FF0C-FF0D FF1A-FF1B FF64")
  | "st" | "sterm" => some (sentenceEnd (flag "sterm"))
  | "cl" | "close" =>
    some ((categories [.openPunctuation, .closePunctuation, .initialPunctuation,
      .finalPunctuation] ++ Ranges.ofText plainQuotes).minus
        (Ranges.ofText stopSigns ++ flag "sterm"))
  | _ => none

end FaultInjection.Property
