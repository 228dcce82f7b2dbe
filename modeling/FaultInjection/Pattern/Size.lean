import FaultInjection.Pattern.ByteRows
import FaultInjection.Pattern.Plan
import FaultInjection.Text.Bytes

/-!
The memory that the automata of a plan take: one reads forward and one backward, and the bounds of
groups are recorded by the first only. A state has 32 bytes. A way out that depends on the
character adds 8 bytes to its state, and one that does not adds 4.
-/
namespace FaultInjection.Plan

open Text (Ranges ByteRow)

inductive Direction
  | forward
  | backward
  deriving DecidableEq, Repr

def setSize (d : Direction) (rs : Ranges) : Nat :=
  if rs.toList.all (·.hi < 0x80) then 64 + 8 * rs.size
  else
    let rows := rs.rows
    match d with
    | .forward => (ByteRow.states rows).foldl (fun n s => n + 32 + 8 * s.length) 32
    | .backward => 64 + 4 * rows.length + 32 * ByteRow.treeSize [] rows

def bytes (cs : List Char) : List Nat :=
  (String.ofList cs).toUTF8.toList.map (·.toNat)

def texts? : List Plan → Option (List (List Nat))
  | [] => some []
  | .text cs :: ps => (texts? ps).map (bytes cs :: ·)
  | _ => none

def chunks : List (List Nat) → List (List (List Nat))
  | [] => [[]]
  | [] :: ws => [] :: chunks ws
  | w :: ws =>
    match chunks ws with
    | [] => [[w]]
    | c :: cs => (w :: c) :: cs

def dropRepeated : List (List Nat) → List (List Nat)
  | [] :: [] :: ws => dropRepeated ([] :: ws)
  | ws => ws

def firsts (ws : List (List Nat)) : List Nat :=
  (ws.filterMap List.head?).eraseDups

def tails (b : Nat) (ws : List (List Nat)) : List (List Nat) :=
  (ws.filter fun w => w.head? = some b).map List.tail

/-- The tree of words of at most the given length, where some word is not empty. An empty word ends
a part of the words, so that words after it come later than it. -/
def treeSize : Nat → List (List Nat) → Nat
  | 0, _ => 0
  | n + 1, ws =>
    let parts := chunks (dropRepeated ws)
    let branching (p : List (List Nat)) :=
      match (firsts p).length with
      | 0 => 0
      | 1 => 32
      | k => 32 + 8 * k
    let below (p : List (List Nat)) := (firsts p).foldl
      (fun size b =>
        let ts := tails b p
        if ts.all List.isEmpty then size else size + treeSize n ts) 0
    let ways := (parts.filter fun p => !p.isEmpty).length + (parts.length - 1)
    parts.foldl (fun size p => size + branching p + below p) (32 + 4 * ways)

def textsSize (d : Direction) (ws : List (List Nat)) : Nat :=
  let ws := match d with
    | .forward => ws
    | .backward => ws.map List.reverse
  32 + treeSize (ws.foldl (fun n w => max n w.length) 0) ws

/-- The repetitions of a part of size `n`. All are written out; an optional one has a fork before
it, and so does the way back. -/
def repSize (n : Nat) (canBeEmpty : Bool) (least : Nat) (most : Option Nat) : Nat :=
  match least, most with
  | 0, some 1 => n + 72
  | 0, none => if canBeEmpty then n + 112 else n + 40
  | least, none => least * n + 40
  | least, some most =>
    if least = most then least * n
    else (if least = 0 then 32 else least * n) + 32 + (most - least) * (n + 40)

mutual

def size (d : Direction) : Plan → Nat
  | .empty => 32
  | .text cs => 32 * Text.byteSize cs
  | .set rs => setSize d rs
  | .anchor _ => 32
  | .rep p least most =>
    repSize (p.size d) (p.leastLength.all (· = 0)) least most
  | .group p => p.size d + if d = .forward then 64 else 0
  | .seq ps => sizes d ps
  | .alt ps =>
    match texts? ps with
    | some ws => textsSize d ws
    | none => 64 + 4 * ps.length + sizes d ps

def sizes (d : Direction) : List Plan → Nat
  | [] => 0
  | p :: ps => p.size d + sizes d ps

end

def maxSize : Nat := 10485760

def fits (p : Plan) : Bool :=
  p.size .forward + 128 ≤ maxSize && p.size .backward + 64 ≤ maxSize

end FaultInjection.Plan
