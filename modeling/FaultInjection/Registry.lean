import FaultInjection.Limit.Counter
import FaultInjection.Rule.Basic

/-!
The registry of experiments. An experiment is a rule together with its fire count; the count
belongs to the serial number of the experiment and outlives its registration.
-/
namespace FaultInjection

structure Experiment where
  serial : Nat
  rule : Rule

structure Counts where
  cells : List UInt64

namespace Counts

def empty : Counts := ⟨[]⟩

def get (c : Counts) (i : Nat) : UInt64 :=
  (c.cells[i]?).getD 0

def setCell (v : UInt64) : Nat → List UInt64 → List UInt64
  | 0, [] => [v]
  | 0, _ :: cs => v :: cs
  | i + 1, [] => 0 :: setCell v i []
  | i + 1, c :: cs => c :: setCell v i cs

def set (c : Counts) (i : Nat) (v : UInt64) : Counts :=
  ⟨setCell v i c.cells⟩

theorem getElem?_setCell (v : UInt64) (i j : Nat) (cs : List UInt64) :
    ((setCell v i cs)[j]?).getD 0 = if i = j then v else (cs[j]?).getD 0 := by
  induction i generalizing j cs with
  | zero => cases cs <;> cases j <;> simp [setCell]
  | succ i ih =>
    cases cs with
    | nil => cases j <;> simp [setCell, ih]
    | cons c cs => cases j <;> simp [setCell, ih]

@[simp] theorem get_set (c : Counts) (i j : Nat) (v : UInt64) :
    (c.set i v).get j = if i = j then v else c.get j :=
  getElem?_setCell v i j c.cells

end Counts

/-- Experiments stand by target in the order in which they were registered. -/
structure Registry where
  groups : Dict (List Experiment)
  counts : Counts
  next : Nat

namespace Registry

def empty : Registry := ⟨Dict.empty, Counts.empty, 0⟩

def forTarget (r : Registry) (target : String) : List Experiment :=
  (r.groups.get? target).getD []

def add (r : Registry) (e : Experiment) : Registry :=
  { r with groups := r.groups.insert e.rule.target (r.forTarget e.rule.target ++ [e]) }

def register (r : Registry) (rule : Rule) : Experiment × Registry :=
  let e : Experiment := ⟨r.next, rule⟩
  (e, { r with counts := r.counts.set e.serial 0, next := r.next + 1 }.add e)

def registerAll (r : Registry) : List Rule → Registry
  | [] => r
  | rule :: rules => (r.register rule).2.registerAll rules

def size (r : Registry) : Nat :=
  r.groups.entries.foldl (fun n g => n + g.2.length) 0

def isEmpty (r : Registry) : Bool :=
  r.size == 0

def targets (r : Registry) : List String :=
  r.groups.keys

def unregister (r : Registry) (key : String) : Bool × Registry :=
  let groups := r.groups.map fun es => es.filter fun e => !e.rule.answersTo key
  let kept := { r with groups := groups.filter fun _ es => !es.isEmpty }
  (kept.size != r.size, kept)

def unregisterTarget (r : Registry) (target : String) : Nat × Registry :=
  ((r.forTarget target).length, { r with groups := r.groups.erase target })

def clear (r : Registry) : Registry :=
  { r with groups := Dict.empty }

def count (r : Registry) (e : Experiment) : UInt64 :=
  r.counts.get e.serial

def setCount (r : Registry) (e : Experiment) (n : UInt64) : Registry :=
  { r with counts := r.counts.set e.serial n }

@[simp] theorem forTarget_add (r : Registry) (e : Experiment) (target : String) :
    (r.add e).forTarget target =
      if target = e.rule.target then r.forTarget target ++ [e] else r.forTarget target := by
  unfold add forTarget
  grind

@[simp] theorem forTarget_register (r : Registry) (rule : Rule) (target : String) :
    (r.register rule).2.forTarget target =
      if target = rule.target then r.forTarget target ++ [⟨r.next, rule⟩]
      else r.forTarget target :=
  forTarget_add { r with counts := r.counts.set r.next 0, next := r.next + 1 } ⟨r.next, rule⟩ target

@[simp] theorem count_setCount (r : Registry) (e f : Experiment) (n : UInt64) :
    (r.setCount e n).count f = if e.serial = f.serial then n else r.count f :=
  Counts.get_set r.counts e.serial f.serial n

theorem count_congr (r : Registry) {e f : Experiment} (h : e.serial = f.serial) :
    r.count e = r.count f :=
  congrArg r.counts.get h

end Registry
end FaultInjection
