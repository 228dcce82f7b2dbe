import FaultInjection.Property.Basic

namespace FaultInjection

inductive CharSet
  | range (lo hi : Nat)
  | points (rs : Text.Ranges)
  | complement (s : CharSet)
  | union (s t : CharSet)
  | meet (s t : CharSet)
  | minus (s t : CharSet)
  | differ (s t : CharSet)
  | folded (s : CharSet)
  | foldedAscii (s : CharSet)
  deriving Repr

namespace CharSet

def none : CharSet := .range 1 0

def single (c : Char) : CharSet := .range c.toNat c.toNat

def unions : List CharSet → CharSet
  | [] => none
  | [s] => s
  | s :: ss => .union s (unions ss)

def contains : CharSet → Char → Bool
  | .range lo hi, c => lo ≤ c.toNat && c.toNat ≤ hi
  | .points rs, c => rs.contains c.toNat
  | .complement s, c => !s.contains c
  | .union s t, c => s.contains c || t.contains c
  | .meet s t, c => s.contains c && t.contains c
  | .minus s t, c => s.contains c && !t.contains c
  | .differ s t, c => s.contains c != t.contains c
  | .folded s, c => (Text.foldClass c).any fun d => s.contains d
  | .foldedAscii s, c => s.contains c || s.contains c.toLower || s.contains c.toUpper

def foldPairs (runs : Array Text.CaseRun) : List (Nat × Nat) :=
  runs.toList.flatMap fun r => (List.range ((r.hi - r.lo) / r.step + 1)).map fun i =>
    (r.lo + i * r.step, (((r.lo + i * r.step : Nat) : Int) + r.shift).toNat)

def foldRanges (pairs : List (Nat × Nat)) (rs : Text.Ranges) : Text.Ranges :=
  let bases := (pairs.filter fun (n, m) => rs.contains n || rs.contains m).map fun (_, m) =>
    (⟨m, m⟩ : Text.Range)
  let bases := Text.Ranges.normalize bases.toArray
  let others := (pairs.filter fun (_, m) => bases.contains m).map fun (n, _) =>
    (⟨n, n⟩ : Text.Range)
  rs ++ bases ++ others.toArray

def foldAscii (rs : Text.Ranges) : Text.Ranges :=
  let letters := (List.range 26).filter fun i => rs.contains (0x41 + i) || rs.contains (0x61 + i)
  rs ++ (letters.flatMap fun i =>
    [(⟨0x41 + i, 0x41 + i⟩ : Text.Range), ⟨0x61 + i, 0x61 + i⟩]).toArray

def ranges : CharSet → Text.Ranges
  | .range lo hi => #[⟨lo, hi⟩]
  | .points rs => rs
  | .complement s => s.ranges.complement
  | .union s t => s.ranges ++ t.ranges
  | .meet s t => s.ranges.meet t.ranges
  | .minus s t => s.ranges.minus t.ranges
  | .differ s t => s.ranges.minus t.ranges ++ t.ranges.minus s.ranges
  | .folded s => foldRanges (foldPairs Text.CaseTable.fold) s.ranges
  | .foldedAscii s => foldAscii s.ranges

def isAscii (s : CharSet) : Bool :=
  (List.range 128).all fun n => !s.contains (Char.ofNat (n + 128))

end CharSet
end FaultInjection
