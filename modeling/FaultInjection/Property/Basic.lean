import FaultInjection.Property.FlagTable
import FaultInjection.Text.Case

/-!
Sets of characters that patterns can name. Patterns know Unicode 16.0; to them, what was assigned
later is not assigned.
-/
namespace FaultInjection.Property

open FaultInjection.Text (Category Ranges)
open FaultInjection.Text.PropertyTable

def known (rs : Ranges) : Ranges :=
  rs.minus newest

def pharyngeal : Ranges := #[⟨0x295, 0x295⟩]

def everyCategory : List Category :=
  [.letter, .mark, .number, .punctuation, .symbol, .separator, .other]

def unassigned (ks : List Category) : Ranges :=
  (known (ks.foldl (fun rs k => rs ++ k.ranges) #[])).complement

def category (k : Category) : Ranges :=
  match k with
  | .unassigned => unassigned everyCategory
  | .other => known k.ranges ++ unassigned everyCategory
  | .lowercaseLetter | .casedLetter => known (k.ranges ++ pharyngeal)
  | .otherLetter => (known k.ranges).minus pharyngeal
  | k => known k.ranges

def categories (ks : List Category) : Ranges :=
  ks.foldl (fun rs k => rs ++ category k) #[]

def find? (table : List (List String × String)) (name : String) : Option Ranges :=
  (table.find? (·.1.contains name)).map fun e => Ranges.ofText e.2

def flag (name : String) : Ranges :=
  (find? FlagTable.flags name).getD #[]

def alphabetic (other : Ranges) : Ranges :=
  categories [.letter, .letterNumber] ++ known other

def lowercase (other : Ranges) : Ranges :=
  category .lowercaseLetter ++ known other

def uppercase (other : Ranges) : Ranges :=
  category .uppercaseLetter ++ known other

def cased (lower upper : Ranges) : Ranges :=
  lowercase lower ++ uppercase upper ++ category .titlecaseLetter

def graphemeExtend (other : Ranges) : Ranges :=
  categories [.nonspacingMark, .enclosingMark] ++ known other

def caseIgnorable (inner : Ranges) : Ranges :=
  categories [.nonspacingMark, .enclosingMark, .format, .modifierLetter, .modifierSymbol] ++ inner

def word (other : Ranges) : Ranges :=
  alphabetic other ++ categories [.mark, .decimalNumber, .connectorPunctuation] ++
    #[⟨0x200C, 0x200D⟩]

def isWord (c : Char) : Bool :=
  let n := c.toNat
  if n < 0x80 then c.isAlphanum || c == '_'
  else !newest.contains n && (Text.isAlphabetic c ||
    Text.inAny [.mark, .decimalNumber, .connectorPunctuation] n || n == 0x200C || n == 0x200D)

def moved (runs : Array Text.CaseRun) : Ranges :=
  runs.flatMap fun r =>
    ((List.range ((r.hi - r.lo) / r.step + 1)).map fun i =>
      (⟨r.lo + i * r.step, r.lo + i * r.step⟩ : Text.Range)).toArray

def lowered (runs : Array Text.CaseRun) : Ranges :=
  known (moved runs ++ #[⟨0x130, 0x130⟩])

def raised (runs : Array Text.CaseRun) (long : Array (Nat × List Nat)) : Ranges :=
  (known (moved runs ++ long.map fun e => ⟨e.1, e.1⟩)).minus (Ranges.ofText "A7D3 A7D5")

def titled (raised : Ranges) : Ranges :=
  (raised.minus (Ranges.ofText
    "1C5 1C8 1CB 1F2 10D0-10FA 10FD-10FF 1F88-1F8F 1F98-1F9F 1FA8-1FAF 1FBC 1FCC 1FFC")) ++
    Ranges.ofText "1C4 1C7 1CA 1F1"

def foldedAway (lowered : Ranges) : Ranges :=
  (lowered.minus (Ranges.ofText "13A0-13F5")) ++ Ranges.ofText
    "B5 DF 149 17F 345 3C2 3D0-3D1 3D5-3D6 3F0-3F1 3F5 587 13F8-13FD 1C80-1C88 1E9A-1E9B
     1F80-1F87 1F90-1F97 1FA0-1FA7 1FB2-1FB4 1FB7 1FC2-1FC4 1FC7 1FF2-1FF4 1FF7 AB70-ABBF
     FB00-FB06 FB13-FB17"

def startsIdentifier (other : Ranges) : Ranges :=
  (categories [.letter, .letterNumber] ++ other).minus (Ranges.ofText "2E2F")

def continuesIdentifier (start other : Ranges) : Ranges :=
  start ++ categories [.nonspacingMark, .spacingMark, .decimalNumber, .connectorPunctuation] ++
    other

def unstable : String :=
  "37A 309B-309C FC5E-FC63 FDFA-FDFB FE70 FE72 FE74 FE76 FE78 FE7A FE7C FE7E"

def derived? (name : String) : Option Ranges :=
  match name with
  | "alpha" | "alphabetic" => some (alphabetic otherAlphabetic)
  | "lower" | "lowercase" => some (lowercase otherLowercase)
  | "upper" | "uppercase" => some (uppercase otherUppercase)
  | "cased" => some (cased otherLowercase otherUppercase)
  | "ci" | "caseignorable" => some (caseIgnorable wordInner)
  | "grext" | "graphemeextend" => some (graphemeExtend otherGraphemeExtend)
  | "grbase" | "graphemebase" =>
    some ((categories [.letter, .mark, .number, .punctuation, .symbol, .spaceSeparator]).minus
      (graphemeExtend otherGraphemeExtend))
  | "math" => some (category .mathSymbol ++ flag "omath")
  | "oalpha" | "otheralphabetic" => some (known otherAlphabetic)
  | "olower" | "otherlowercase" => some (known otherLowercase)
  | "oupper" | "otheruppercase" => some (known otherUppercase)
  | "ogrext" | "othergraphemeextend" => some (known otherGraphemeExtend)
  | "ids" | "idstart" => some (startsIdentifier (flag "oids"))
  | "idc" | "idcontinue" =>
    some (continuesIdentifier (startsIdentifier (flag "oids")) (flag "oidc"))
  | "xids" | "xidstart" =>
    some ((startsIdentifier (flag "oids")).minus
      (Ranges.ofText unstable ++ Ranges.ofText "E33 EB3 FF9E-FF9F"))
  | "xidc" | "xidcontinue" =>
    some ((continuesIdentifier (startsIdentifier (flag "oids")) (flag "oidc")).minus
      (Ranges.ofText unstable))
  | "cwl" | "changeswhenlowercased" => some (lowered Text.CaseTable.lower)
  | "cwu" | "changeswhenuppercased" => some (raised Text.CaseTable.upper Text.CaseTable.upperLong)
  | "cwt" | "changeswhentitlecased" =>
    some (titled (raised Text.CaseTable.upper Text.CaseTable.upperLong))
  | "cwcm" | "changeswhencasemapped" =>
    some (lowered Text.CaseTable.lower ++
      raised Text.CaseTable.upper Text.CaseTable.upperLong ++ Ranges.ofText "1C4 1C7 1CA 1F1")
  | "cwcf" | "changeswhencasefolded" => some (foldedAway (lowered Text.CaseTable.lower))
  | _ => none

def binary? (name : String) : Option Ranges :=
  (derived? name).orElse fun _ => find? FlagTable.flags name

end FaultInjection.Property
