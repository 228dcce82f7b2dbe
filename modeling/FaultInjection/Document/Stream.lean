import FaultInjection.Document.Reader
import FaultInjection.Text.Space
import FaultInjection.Text.Split

namespace FaultInjection.Document

/-- Half of a pair of surrogates is no character, and neither is the delete character admitted. -/
def streamDialect : Dialect where
  depth := 128
  surrogates := false
  raw c := 0x20 ≤ c.toNat && c.toNat ≠ 0x7F

namespace Stream

def isSeparator (line : List Char) : Bool :=
  Text.trimEnd line == ['-', '-', '-']

def parts : List (List Char) → List (List (List Char))
  | [] => [[]]
  | line :: lines =>
    if isSeparator line then [] :: parts lines
    else
      match parts lines with
      | [] => [[line]]
      | part :: rest => (line :: part) :: rest

def dropLeading : List (List (List Char)) → List (List (List Char))
  | part :: p :: ps =>
    if part.all fun line => line.all Text.isSpace then p :: ps else part :: p :: ps
  | ps => ps

end Stream

def parseAll? (s : String) : Option (List Document) :=
  (Stream.dropLeading (Stream.parts (Text.splitAll '\n' s.toList))).mapM fun part =>
    parse? streamDialect (part.flatMap fun line => line ++ ['\n'])

def parseOne? (s : String) : Option Document :=
  match parseAll? s with
  | some [j] => some j
  | _ => none

end FaultInjection.Document
