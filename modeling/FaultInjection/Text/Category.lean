import FaultInjection.Text.CategoryTable
import FaultInjection.Text.PropertyTable

/-!
General categories of characters, and the properties of characters that texts depend on, all as
Unicode 17.0 has them.
-/
namespace FaultInjection.Text

open CategoryTable PropertyTable

inductive Category
  | letter | casedLetter | uppercaseLetter | lowercaseLetter | titlecaseLetter | modifierLetter
  | otherLetter | mark | nonspacingMark | spacingMark | enclosingMark | number | decimalNumber
  | letterNumber | otherNumber | punctuation | connectorPunctuation | dashPunctuation
  | openPunctuation | closePunctuation | initialPunctuation | finalPunctuation
  | otherPunctuation | symbol | mathSymbol | currencySymbol | modifierSymbol | otherSymbol
  | separator | spaceSeparator | lineSeparator | paragraphSeparator | other | control | format
  | privateUse | unassigned
  deriving DecidableEq, Repr

def tablesOf : Category → List Ranges
  | .letter => [uppercaseLetter, lowercaseLetter, titlecaseLetter, modifierLetter, otherLetter]
  | .casedLetter => [uppercaseLetter, lowercaseLetter, titlecaseLetter]
  | .uppercaseLetter => [uppercaseLetter]
  | .lowercaseLetter => [lowercaseLetter]
  | .titlecaseLetter => [titlecaseLetter]
  | .modifierLetter => [modifierLetter]
  | .otherLetter => [otherLetter]
  | .mark => [nonspacingMark, spacingMark, enclosingMark]
  | .nonspacingMark => [nonspacingMark]
  | .spacingMark => [spacingMark]
  | .enclosingMark => [enclosingMark]
  | .number => [decimalNumber, letterNumber, otherNumber]
  | .decimalNumber => [decimalNumber]
  | .letterNumber => [letterNumber]
  | .otherNumber => [otherNumber]
  | .punctuation => [connectorPunctuation, dashPunctuation, openPunctuation, closePunctuation,
      initialPunctuation, finalPunctuation, otherPunctuation]
  | .connectorPunctuation => [connectorPunctuation]
  | .dashPunctuation => [dashPunctuation]
  | .openPunctuation => [openPunctuation]
  | .closePunctuation => [closePunctuation]
  | .initialPunctuation => [initialPunctuation]
  | .finalPunctuation => [finalPunctuation]
  | .otherPunctuation => [otherPunctuation]
  | .symbol => [mathSymbol, currencySymbol, modifierSymbol, otherSymbol]
  | .mathSymbol => [mathSymbol]
  | .currencySymbol => [currencySymbol]
  | .modifierSymbol => [modifierSymbol]
  | .otherSymbol => [otherSymbol]
  | .separator => [spaceSeparator, lineSeparator, paragraphSeparator]
  | .spaceSeparator => [spaceSeparator]
  | .lineSeparator => [lineSeparator]
  | .paragraphSeparator => [paragraphSeparator]
  | .other => [control, format, privateUse]
  | .control => [control]
  | .format => [format]
  | .privateUse => [privateUse]
  | .unassigned => []

namespace Category

def contains (k : Category) (n : Nat) : Bool :=
  (tablesOf k).any (·.contains n)

def ranges (k : Category) : Ranges :=
  (tablesOf k).foldl (· ++ ·) #[]

end Category

def inAny (ks : List Category) (n : Nat) : Bool :=
  ks.any (·.contains n)

def isAlphabetic (c : Char) : Bool :=
  if c.toNat < 0x80 then c.isAlpha
  else inAny [.letter, .letterNumber] c.toNat || otherAlphabetic.contains c.toNat

def isAlphanumeric (c : Char) : Bool :=
  if c.toNat < 0x80 then c.isAlphanum else isAlphabetic c || Category.number.contains c.toNat

def isCased (c : Char) : Bool :=
  Category.casedLetter.contains c.toNat || otherLowercase.contains c.toNat ||
    otherUppercase.contains c.toNat

def isCaseIgnorable (c : Char) : Bool :=
  inAny [.nonspacingMark, .enclosingMark, .format, .modifierLetter, .modifierSymbol] c.toNat ||
    wordInner.contains c.toNat

def extendsGrapheme (c : Char) : Bool :=
  inAny [.nonspacingMark, .enclosingMark] c.toNat ||
    (otherGraphemeExtend.contains c.toNat && !Category.letter.contains c.toNat)

/-- Characters that show something: no controls, format characters or fillers, no blanks other
than the space, and nothing unassigned. -/
def isPrintable (c : Char) : Bool :=
  let n := c.toNat
  if n < 0x80 then 0x20 ≤ n && n < 0x7F
  else inAny [.letter, .mark, .number, .punctuation, .symbol] n && !filler.contains n

end FaultInjection.Text
