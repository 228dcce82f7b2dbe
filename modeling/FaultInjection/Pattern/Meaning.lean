import FaultInjection.Pattern.Basic
import FaultInjection.Pattern.Regex

namespace FaultInjection.Regex

structure Flags where
  ignoreCase : Bool := false
  multiLine : Bool := false
  dotNewline : Bool := false
  unicode : Bool := true
  crlf : Bool := false
  deriving Repr

namespace Flags

def set (fs : Flags) : FlagChange → Flags
  | (.ignoreCase, on) => { fs with ignoreCase := on }
  | (.multiLine, on) => { fs with multiLine := on }
  | (.dotNewline, on) => { fs with dotNewline := on }
  | (.unicode, on) => { fs with unicode := on }
  | (.crlf, on) => { fs with crlf := on }
  | (.swapGreed, _) | (.ignoreSpace, _) => fs

def setAll (fs : Flags) (changes : List FlagChange) : Flags :=
  changes.foldl set fs

end Flags

def Posix.set : Posix → CharSet
  | .alnum => .unions [.range 0x30 0x39, .range 0x41 0x5A, .range 0x61 0x7A]
  | .alpha => .unions [.range 0x41 0x5A, .range 0x61 0x7A]
  | .ascii => .range 0 0x7F
  | .blank => .unions [.range 9 9, .range 0x20 0x20]
  | .cntrl => .unions [.range 0 0x1F, .range 0x7F 0x7F]
  | .digit => .range 0x30 0x39
  | .graph => .range 0x21 0x7E
  | .lower => .range 0x61 0x7A
  | .print => .range 0x20 0x7E
  | .punct => .unions [.range 0x21 0x2F, .range 0x3A 0x40, .range 0x5B 0x60, .range 0x7B 0x7E]
  | .space => .unions [.range 9 0xD, .range 0x20 0x20]
  | .upper => .range 0x41 0x5A
  | .word => .unions [.range 0x30 0x39, .range 0x41 0x5A, .range 0x5F 0x5F, .range 0x61 0x7A]
  | .xdigit => .unions [.range 0x30 0x39, .range 0x41 0x46, .range 0x61 0x66]

def foldSet (fs : Flags) (s : CharSet) : CharSet :=
  if !fs.ignoreCase then s else if fs.unicode then .folded s else .foldedAscii s

def negate (negated : Bool) (s : CharSet) : CharSet :=
  if negated then .complement s else s

def checked (fs : Flags) (s : CharSet) : Option CharSet :=
  if fs.unicode || s.isAscii then some s else none

def digitSet : CharSet := .points (Property.category .decimalNumber)

def spaceSet : CharSet := .points (Property.flag "space")

def wordSet : CharSet := .points (Property.word Text.PropertyTable.otherAlphabetic)

def Named.set (fs : Flags) (n : Named) (negated : Bool) : Option CharSet :=
  match n with
  | .digit =>
    checked fs (negate negated (if fs.unicode then digitSet else Posix.digit.set))
  | .space =>
    checked fs (negate negated (if fs.unicode then spaceSet else Posix.space.set))
  | .word =>
    checked fs (negate negated (if fs.unicode then wordSet else Posix.word.set))
  | .posix k => checked fs (negate negated (foldSet fs k.set))
  | .property rs => if fs.unicode then some (negate negated (foldSet fs (.points rs))) else none

def Literal.point (fs : Flags) (l : Literal) : Option Nat :=
  if fs.unicode || l.char.toNat < 0x80 then some l.char.toNat else none

def SetOp.apply : SetOp → CharSet → CharSet → CharSet
  | .meet => .meet
  | .minus => .minus
  | .differ => .differ

mutual

def ClassSet.set (fs : Flags) : ClassSet → Option CharSet
  | .nothing => some CharSet.none
  | .literal l => (l.point fs).map fun n => .range n n
  | .range lo hi => do pure (.range (← lo.point fs) (← hi.point fs))
  | .named n negated => n.set fs negated
  | .bracket negated s => do checked fs (negate negated (foldSet fs (← s.set fs)))
  | .union items => (ClassSet.sets fs items).map CharSet.unions
  | .op o s t => do pure (o.apply (foldSet fs (← s.set fs)) (foldSet fs (← t.set fs)))

def ClassSet.sets (fs : Flags) : List ClassSet → Option (List CharSet)
  | [] => some []
  | s :: ss => do pure ((← s.set fs) :: (← ClassSet.sets fs ss))

end

def Literal.set (fs : Flags) (l : Literal) : Option CharSet :=
  if !fs.unicode && l.byte && 0x80 ≤ l.char.toNat then none
  else some (foldSet fs (CharSet.single l.char))

def dotSet (fs : Flags) : CharSet :=
  if fs.dotNewline then .points Text.Ranges.everything
  else if fs.crlf then .complement (.unions [CharSet.single '\n', CharSet.single '\r'])
  else .complement (CharSet.single '\n')

def Mark.anchor (fs : Flags) : Mark → Anchor
  | .caret => if fs.multiLine then .lineStart fs.crlf else .textStart
  | .dollar => if fs.multiLine then .lineEnd fs.crlf else .textEnd
  | .textStart => .textStart
  | .textEnd => .textEnd
  | .boundary => .boundary !fs.unicode
  | .notBoundary => .notBoundary !fs.unicode
  | .wordStart => .wordStart !fs.unicode
  | .wordEnd => .wordEnd !fs.unicode
  | .wordStartHalf => .wordStartHalf !fs.unicode
  | .wordEndHalf => .wordEndHalf !fs.unicode

structure Parts (α : Type) where
  empty : α
  one : CharSet → α
  anchor : Anchor → α
  rep : α → Nat → Option Nat → α
  group : α → α
  alt : List α → α
  seq : List α → α

variable {α : Type}

mutual

def make (m : Parts α) (fs : Flags) : Regex → Option (α × Flags)
  | .empty => some (m.empty, fs)
  | .flags changes => some (m.empty, fs.setAll changes)
  | .literal l => (l.set fs).map fun s => (m.one s, fs)
  | .dot => if fs.unicode then some (m.one (dotSet fs), fs) else none
  | .mark k => some (m.anchor (k.anchor fs), fs)
  | .named n negated => (n.set fs negated).map fun s => (m.one s, fs)
  | .bracket negated s => do
    pure (m.one (← checked fs (negate negated (foldSet fs (← s.set fs)))), fs)
  | .rep r least most => (r.make m fs).map fun (p, fs) => (m.rep p least most, fs)
  | .group captures _ changes r =>
    (r.make m (fs.setAll changes)).map fun (p, _) => (if captures then m.group p else p, fs)
  | .alt rs => (makeAll m fs rs).map fun (ps, fs) => (m.alt ps, fs)
  | .seq rs => (makeAll m fs rs).map fun (ps, fs) => (m.seq ps, fs)

def makeAll (m : Parts α) (fs : Flags) : List Regex → Option (List α × Flags)
  | [] => some ([], fs)
  | r :: rs => do
    let (p, fs) ← r.make m fs
    let (ps, fs) ← makeAll m fs rs
    pure (p :: ps, fs)

end

def pattern (r : Regex) : Option Pattern :=
  (r.make ⟨.empty, .one, .anchor, .rep, .group, .alts, .seqs⟩ {}).map (·.1)

end FaultInjection.Regex
