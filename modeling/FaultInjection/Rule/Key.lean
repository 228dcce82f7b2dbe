import FaultInjection.Text.Bytes

/-!
Keys of conditions. Some keys are reserved: they state a limit or an expression and are not
looked up among the attributes. A reserved key is recognised in any spelling that differs in
case or in the separators `-` and `_`; a key that ends in `-regex` states a pattern.
-/
namespace FaultInjection.Key

def effectCount : String := "effect-count"

def effectPercent : String := "effect-percent"

def paramExp : String := "param-exp"

def businessParams : String := "business-params"

def regexEnding : String := "-regex"

def isSeparator (c : Char) : Bool :=
  c = '-' || c = '_'

def canonical (key : String) : List Char :=
  (key.toList.filter fun c => !isSeparator c).map Char.toLower

def names (key reserved : String) : Bool :=
  canonical key == canonical reserved

def isReserved (key : String) : Bool :=
  names key effectCount || names key effectPercent || names key paramExp

def isRegex (key : String) : Bool :=
  let s := key.toList
  let ending := regexEnding.toList
  Text.byteSize ending ≤ Text.byteSize s &&
    (Text.dropBytes? (Text.byteSize s - Text.byteSize ending) s).any (Text.eqAsciiCase · ending)

end FaultInjection.Key
