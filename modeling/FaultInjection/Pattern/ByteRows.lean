import FaultInjection.Text.Ranges

namespace FaultInjection.Text

abbrev ByteRow := List (Nat × Nat)

namespace Ranges

def byteLengths : List (Nat × Nat × Nat) :=
  [(1, 0, 0x7F), (2, 0x80, 0x7FF), (3, 0x800, 0xD7FF), (3, 0xE000, 0xFFFF),
    (4, 0x10000, 0x10FFFF)]

/-- Rows, first byte first, that together make the characters from `lo` to `hi`, each of `n` bytes;
`mark` is added to the first byte. -/
def byteRows : Nat → (mark : Nat) → Nat → Nat → List ByteRow
  | 0, _, _, _ => [[]]
  | 1, mark, lo, hi => [[(mark + lo, mark + hi)]]
  | n + 2, mark, lo, hi =>
    let unit := Nat.pow 64 (n + 1)
    let row (l h : Nat) (tails : List ByteRow) := tails.map ((mark + l, mark + h) :: ·)
    let full := List.replicate (n + 1) (0x80, 0xBF)
    let (a, b) := (lo / unit, hi / unit)
    if a = b then row a a (byteRows (n + 1) 0x80 (lo % unit) (hi % unit))
    else
      let left :=
        if lo % unit = 0 then [] else row a a (byteRows (n + 1) 0x80 (lo % unit) (unit - 1))
      let right :=
        if hi % unit = unit - 1 then [] else row b b (byteRows (n + 1) 0x80 0 (hi % unit))
      let a := if left.isEmpty then a else a + 1
      let b := if right.isEmpty then b else b - 1
      left ++ (if a ≤ b then row a b [full] else []) ++ right

def leadMark : Nat → Nat
  | 1 => 0
  | 2 => 0xC0
  | 3 => 0xE0
  | _ => 0xF0

def rows (rs : Ranges) : List ByteRow :=
  rs.toList.flatMap fun r => byteLengths.flatMap fun (n, lo, hi) =>
    let l := max r.lo lo
    let h := min r.hi hi
    if l ≤ h then byteRows n (leadMark n) l h else []

end Ranges

namespace ByteRow

def shared (a b : ByteRow) : Nat :=
  ((a.zip b).takeWhile fun (x, y) => x == y).length

def treeSize : ByteRow → List ByteRow → Nat
  | _, [] => 0
  | before, r :: rs => (r.length - shared before r) + treeSize r rs

abbrev State := List ((Nat × Nat) × Nat)

def grouped : List ByteRow → List ((Nat × Nat) × List ByteRow)
  | [] => []
  | [] :: rows => grouped rows
  | (r :: tail) :: rows =>
    match grouped rows with
    | (r', tails) :: groups =>
      if r = r' then (r, tail :: tails) :: groups else (r, [tail]) :: (r', tails) :: groups
    | [] => [(r, [tail])]

def number (s : State) (states : List State) : Nat × List State :=
  match states.idxOf? s with
  | some i => (i + 1, states)
  | none => (states.length + 1, states ++ [s])

/-- Adds the states that read rows of at most the given length; states that do the same are one.
State zero is the end. -/
def addStates : Nat → List ByteRow → List State → Nat × List State
  | 0, _, states => (0, states)
  | n + 1, rows, states =>
    let groups := grouped rows
    if groups.isEmpty then (0, states)
    else
      let (s, states) := groups.foldl
        (fun (s, states) (r, tails) =>
          let (i, states) := addStates n tails states
          (s ++ [(r, i)], states))
        (([], states) : State × List State)
      number s states

def states (rows : List ByteRow) : List State :=
  (addStates 4 rows []).2

end ByteRow
end FaultInjection.Text
