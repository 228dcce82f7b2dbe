import FaultInjection.Text.CaseTable
import FaultInjection.Text.Category

namespace FaultInjection.Text

namespace CaseRun

def image? (r : CaseRun) (n : Nat) : Option Nat :=
  if r.lo ≤ n ∧ n ≤ r.hi ∧ (n - r.lo) % r.step = 0 then some (n + r.shift).toNat else none

def preimage? (r : CaseRun) (n : Nat) : Option Nat :=
  let m := (n - r.shift).toNat
  if r.image? m = some n then some m else none

end CaseRun

private def mapped (runs : Array CaseRun) (c : Char) : Char :=
  match runs.findSome? (·.image? c.toNat) with
  | some n => Char.ofNat n
  | none => c

def lowerChar (c : Char) : List Char :=
  if c.toNat < 0x80 then [c.toLower]
  else if c.toNat = 0x130 then ['i', Char.ofNat 0x307]
  else [mapped CaseTable.lower c]

def upperChar (c : Char) : List Char :=
  if c.toNat < 0x80 then [c.toUpper]
  else match CaseTable.upperLong.find? (·.1 = c.toNat) with
    | some (_, cs) => cs.map Char.ofNat
    | none => [mapped CaseTable.upper c]

def lowerEach (s : List Char) : List Char :=
  s.flatMap lowerChar

private def casedFirst (s : List Char) : Bool :=
  match s.dropWhile isCaseIgnorable with
  | [] => false
  | c :: _ => isCased c

/-- Lower case of the text after `before`, which is held in reverse. -/
private def lowerAfter : (before rest : List Char) → List Char
  | _, [] => []
  | before, c :: rest =>
    (if c.toNat = 0x3A3 then
      [if casedFirst before && !casedFirst rest then Char.ofNat 0x3C2 else Char.ofNat 0x3C3]
    else lowerChar c) ++ lowerAfter (c :: before) rest

def lower (s : String) : String :=
  String.ofList (lowerAfter [] s.toList)

def upper (s : String) : String :=
  String.ofList (s.toList.flatMap upperChar)

def foldChar (c : Char) : Char :=
  if c.toNat < 0x80 then c.toLower else mapped CaseTable.fold c

def foldClass (c : Char) : List Char :=
  let base := foldChar c
  base :: (CaseTable.fold.toList.filterMap (·.preimage? base.toNat)).map Char.ofNat

end FaultInjection.Text
