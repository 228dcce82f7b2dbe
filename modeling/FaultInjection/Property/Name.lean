import FaultInjection.Property.Break

namespace FaultInjection.Property

open FaultInjection.Text (Category Ranges)

def isSeparator (c : Char) : Bool :=
  c = ' ' || c = '_' || c = '-'

/-- A name as tables have it. What is left of `isc` names no set. -/
def looseName (cs : List Char) : String :=
  let (stripped, cs) := match cs with
    | i :: s :: r => if i.toLower = 'i' ∧ s.toLower = 's' then (true, r) else (false, cs)
    | cs => (false, cs)
  let name := String.ofList
    ((cs.filter fun c => c.toNat < 0x80 && !isSeparator c).map Char.toLower)
  if stripped && name = "c" then "isc" else name

def categoryNames : List (String × Category) :=
  [("l", .letter), ("letter", .letter), ("lc", .casedLetter), ("casedletter", .casedLetter),
    ("lu", .uppercaseLetter), ("uppercaseletter", .uppercaseLetter),
    ("ll", .lowercaseLetter), ("lowercaseletter", .lowercaseLetter),
    ("lt", .titlecaseLetter), ("titlecaseletter", .titlecaseLetter),
    ("lm", .modifierLetter), ("modifierletter", .modifierLetter),
    ("lo", .otherLetter), ("otherletter", .otherLetter),
    ("m", .mark), ("mark", .mark), ("combiningmark", .mark),
    ("mn", .nonspacingMark), ("nonspacingmark", .nonspacingMark),
    ("mc", .spacingMark), ("spacingmark", .spacingMark),
    ("me", .enclosingMark), ("enclosingmark", .enclosingMark),
    ("n", .number), ("number", .number), ("nd", .decimalNumber),
    ("decimalnumber", .decimalNumber), ("digit", .decimalNumber),
    ("nl", .letterNumber), ("letternumber", .letterNumber),
    ("no", .otherNumber), ("othernumber", .otherNumber),
    ("p", .punctuation), ("punctuation", .punctuation), ("punct", .punctuation),
    ("pc", .connectorPunctuation), ("connectorpunctuation", .connectorPunctuation),
    ("pd", .dashPunctuation), ("dashpunctuation", .dashPunctuation),
    ("ps", .openPunctuation), ("openpunctuation", .openPunctuation),
    ("pe", .closePunctuation), ("closepunctuation", .closePunctuation),
    ("pi", .initialPunctuation), ("initialpunctuation", .initialPunctuation),
    ("pf", .finalPunctuation), ("finalpunctuation", .finalPunctuation),
    ("po", .otherPunctuation), ("otherpunctuation", .otherPunctuation),
    ("s", .symbol), ("symbol", .symbol), ("sm", .mathSymbol), ("mathsymbol", .mathSymbol),
    ("sc", .currencySymbol), ("currencysymbol", .currencySymbol),
    ("sk", .modifierSymbol), ("modifiersymbol", .modifierSymbol),
    ("so", .otherSymbol), ("othersymbol", .otherSymbol),
    ("z", .separator), ("separator", .separator),
    ("zs", .spaceSeparator), ("spaceseparator", .spaceSeparator),
    ("zl", .lineSeparator), ("lineseparator", .lineSeparator),
    ("zp", .paragraphSeparator), ("paragraphseparator", .paragraphSeparator),
    ("c", .other), ("other", .other), ("cc", .control), ("control", .control),
    ("cntrl", .control), ("cf", .format), ("format", .format),
    ("co", .privateUse), ("privateuse", .privateUse), ("cn", .unassigned),
    ("unassigned", .unassigned)]

def generalCategory? (name : String) : Option Ranges :=
  match name with
  | "any" => some Ranges.everything
  | "ascii" => some #[⟨0, 0x7F⟩]
  | "assigned" => some (category .unassigned).complement
  | name => (categoryNames.find? (·.1 = name)).map fun e => category e.2

def named? (name : String) : Option Ranges :=
  ((binary? name).orElse fun _ => generalCategory? name).orElse fun _ => script? name

def valued? (property value : String) : Option Ranges :=
  match property with
  | "gc" | "generalcategory" => generalCategory? value
  | "sc" | "script" => script? value
  | "scx" | "scriptextensions" => extendedScript? value
  | "age" => age? value
  | "gcb" | "graphemeclusterbreak" => graphemeBreak? value
  | "wb" | "wordbreak" => wordBreak? value
  | "sb" | "sentencebreak" => sentenceBreak? value
  | _ => none

def partedBy? (mark : List Char) : List Char → Option (List Char × List Char)
  | [] => none
  | c :: cs =>
    if mark.isPrefixOf (c :: cs) then some ([], (c :: cs).drop mark.length)
    else (partedBy? mark cs).map fun (before, after) => (c :: before, after)

def parse? (cs : List Char) : Option (Ranges × Bool) :=
  let set (parts : List Char × List Char) := valued? (looseName parts.1) (looseName parts.2)
  match partedBy? ['!', '='] cs, partedBy? [':'] cs, partedBy? ['='] cs with
  | some parts, _, _ => (set parts).map (·, true)
  | none, some parts, _ | none, none, some parts => (set parts).map (·, false)
  | none, none, none => (named? (looseName cs)).map (·, false)

end FaultInjection.Property
