import FaultInjection.Pattern.Meaning

namespace FaultInjection

open Text (Ranges)

inductive Plan
  | empty
  | text (cs : List Char)
  | set (rs : Ranges)
  | anchor (a : Anchor)
  | rep (p : Plan) (least : Nat) (most : Option Nat)
  | group (p : Plan)
  | seq (ps : List Plan)
  | alt (ps : List Plan)

namespace Plan

mutual

/-- Equality; groups are numbered, so no two are equal. -/
def same : Plan → Plan → Bool
  | .empty, .empty => true
  | .text cs, .text ds => cs == ds
  | .set rs, .set ts => rs == ts
  | .anchor a, .anchor b => a == b
  | .rep p least most, .rep q least' most' => least == least' && most == most' && same p q
  | .seq ps, .seq qs => sameAll ps qs
  | .alt ps, .alt qs => sameAll ps qs
  | _, _ => false

def sameAll : List Plan → List Plan → Bool
  | [], [] => true
  | p :: ps, q :: qs => same p q && sameAll ps qs
  | _, _ => false

end

mutual

def isZeroWidth : Plan → Bool
  | .empty | .anchor _ => true
  | .text _ | .set _ => false
  | .rep p _ most => most.isSome && p.isZeroWidth
  | .group p => p.isZeroWidth
  | .seq ps | .alt ps => allZeroWidth ps

def allZeroWidth : List Plan → Bool
  | [] => true
  | p :: ps => p.isZeroWidth && allZeroWidth ps

end

mutual

def leastLength : Plan → Option Nat
  | .empty | .anchor _ => some 0
  | .text cs => some cs.length
  | .set rs => if rs.isEmpty then none else some 1
  | .rep p least _ => p.leastLength.map (least * ·)
  | .group p => p.leastLength
  | .seq ps => leastSeq ps
  | .alt ps => leastAlt ps

def leastSeq : List Plan → Option Nat
  | [] => some 0
  | p :: ps => do pure ((← p.leastLength) + (← leastSeq ps))

def leastAlt : List Plan → Option Nat
  | [] => none
  | [p] => p.leastLength
  | p :: ps => do pure (min (← p.leastLength) (← leastAlt ps))

end

def ofRanges (rs : Ranges) : Plan :=
  let rs := rs.normalize
  match rs.toList with
  | [r] => if r.lo = r.hi then .text [Char.ofNat r.lo] else .set rs
  | _ => .set rs

def flatSeq : List Plan → List Plan
  | [] => []
  | .empty :: rest => flatSeq rest
  | .seq ps :: rest => ps ++ flatSeq rest
  | p :: rest => p :: flatSeq rest

def joinTexts : List Plan → List Plan
  | [] => []
  | .text cs :: rest =>
    match joinTexts rest with
    | .text ds :: r => .text (cs ++ ds) :: r
    | r => .text cs :: r
  | p :: rest => p :: joinTexts rest

def ofSeq (ps : List Plan) : Plan :=
  match joinTexts (flatSeq ps) with
  | [] => .empty
  | [p] => p
  | ps => .seq ps

def flatAlt : List Plan → List Plan
  | [] => []
  | .alt ps :: rest => ps ++ flatAlt rest
  | p :: rest => p :: flatAlt rest

def characters? : List Plan → Option Ranges
  | [] => some #[]
  | .text [c] :: ps => (characters? ps).map (·.push ⟨c.toNat, c.toNat⟩)
  | _ => none

def sets? : List Plan → Option Ranges
  | [] => some #[]
  | .set rs :: ps => (sets? ps).map (rs ++ ·)
  | _ => none

def sequences? : List Plan → Option (List (List Plan))
  | [] => some []
  | .seq ps :: rest => (sequences? rest).map (ps :: ·)
  | _ => none

def commonLength : List Plan → List Plan → Nat
  | p :: ps, q :: qs => if p.same q then commonLength ps qs + 1 else 0
  | _, _ => 0

def lifted? (ps : List Plan) : Option (List Plan × List Plan) :=
  match sequences? ps with
  | some (first :: others) =>
    let n := others.foldl (fun n qs => min n (commonLength first qs)) first.length
    if n = 0 then none
    else some (first.take n, (first :: others).map fun qs => ofSeq (qs.drop n))
  | _ => none

/-- `depth` bounds how often the start of alternatives is taken out. -/
def ofAlt (depth : Nat) (ps : List Plan) : Plan :=
  match flatAlt ps with
  | [] => .set #[]
  | [p] => p
  | ps =>
    match (characters? ps).orElse fun _ => sets? ps, depth, lifted? ps with
    | some rs, _, _ => ofRanges rs
    | none, depth + 1, some (start, rests) => ofSeq (start ++ [ofAlt depth rests])
    | none, _, _ => .alt ps

def ofRep (p : Plan) (least : Nat) (most : Option Nat) : Plan :=
  let (least, most) :=
    if p.isZeroWidth then (min least 1, some (min 1 (most.getD 1))) else (least, most)
  if most = some 0 then .empty
  else if least = 1 ∧ most = some 1 then p
  else .rep p least most

end Plan

def Regex.plan (depth : Nat) (r : Regex) : Option Plan :=
  (r.make ⟨.empty, fun s => .ofRanges s.ranges, .anchor, .ofRep, .group, .ofAlt depth, .ofSeq⟩
    {}).map (·.1)

end FaultInjection
