/-!
A bounded cache of compiled texts. An entry that has not been used for longer than `ttl` is
expired; it may linger in its slot, but no look-up sees it. Times are in nanoseconds.
-/
namespace FaultInjection

/-- A slot without a value is claimed by a text that is being compiled. -/
structure Slot (α : Type) where
  key : String
  value : Option α
  lastAccess : Nat

structure Cache (α : Type) where
  ttl : Nat
  capacity : Nat
  capacity_pos : 0 < capacity
  origin : Nat
  slots : List (Slot α)
  compiles : Nat

namespace Cache

variable {α ε : Type}

def second : Nat := 1000000000

def empty (ttl capacity origin : Nat) : Cache α where
  ttl := ttl
  capacity := max 1 capacity
  capacity_pos := by omega
  origin := origin
  slots := []
  compiles := 0

def stamp (c : Cache α) (now : Nat) : Nat :=
  min (now - c.origin) (UInt64.size - 1)

def expired (c : Cache α) (stamp : Nat) (s : Slot α) : Bool :=
  s.value.isSome && c.ttl < stamp - s.lastAccess

def live (c : Cache α) (stamp : Nat) (s : Slot α) : Bool :=
  s.value.isSome && !c.expired stamp s

def find? (c : Cache α) (key : String) : Option (Slot α) :=
  c.slots.find? fun s => s.key == key

def remove (c : Cache α) (key : String) : Cache α :=
  { c with slots := c.slots.filter fun s => s.key != key }

def peek? (c : Cache α) (now : Nat) (key : String) : Option α :=
  match c.find? key with
  | none => none
  | some s => if c.expired (c.stamp now) s then none else s.value

def touch (c : Cache α) (stamp : Nat) (key : String) : Cache α :=
  { c with slots := c.slots.map fun s =>
      if s.key == key then { s with lastAccess := max s.lastAccess stamp } else s }

def get? (c : Cache α) (now : Nat) (key : String) : Option α × Cache α :=
  match c.peek? now key with
  | some v => (some v, c.touch (c.stamp now) key)
  | none => (none, c)

def dropExpired (c : Cache α) (stamp : Nat) : Cache α :=
  { c with slots := c.slots.filter fun s => !c.expired stamp s }

def oldest? : List (Slot α) → Option (Slot α)
  | [] => none
  | s :: ss =>
    if s.value.isNone then oldest? ss
    else
      match oldest? ss with
      | none => some s
      | some t => if s.lastAccess ≤ t.lastAccess then some s else some t

def evict (c : Cache α) (stamp : Nat) : Cache α :=
  let c := c.dropExpired stamp
  if c.slots.length < c.capacity then c
  else
    match oldest? c.slots with
    | some s => c.remove s.key
    | none => c

def claim (c : Cache α) (stamp : Nat) (key : String) : Cache α :=
  let c := c.remove key
  let c := if c.capacity ≤ c.slots.length then c.evict stamp else c
  { c with slots := c.slots ++ [⟨key, none, stamp⟩] }

def fill (c : Cache α) (stamp : Nat) (key : String) (v : α) : Cache α :=
  { c with slots := c.slots.map fun s =>
      if s.key == key then { s with value := some v, lastAccess := max s.lastAccess stamp } else s }

/-- The value under a key, compiled if there is none, which takes until `done`. A failure is not
kept. -/
def getOrCompileUntil (c : Cache α) (now done : Nat) (key : String)
    (compile : String → Except ε α) : Except ε α × Cache α :=
  match c.peek? now key with
  | some v => (.ok v, c.touch (c.stamp now) key)
  | none =>
    let c := c.claim (c.stamp now) key
    let c := { c with compiles := c.compiles + 1 }
    match compile key with
    | .ok v => (.ok v, c.fill (c.stamp done) key v)
    | .error e => (.error e, c.remove key)

def getOrCompile (c : Cache α) (now : Nat) (key : String) (compile : String → Except ε α) :
    Except ε α × Cache α :=
  c.getOrCompileUntil now now key compile

def purge (c : Cache α) (now : Nat) : Nat × Cache α :=
  let kept := c.dropExpired (c.stamp now)
  (c.slots.length - kept.slots.length, kept)

def contains (c : Cache α) (now : Nat) (key : String) : Bool :=
  match c.find? key with
  | some s => c.live (c.stamp now) s
  | none => false

def size (c : Cache α) (now : Nat) : Nat :=
  c.slots.countP (c.live (c.stamp now))

def isEmpty (c : Cache α) (now : Nat) : Bool :=
  c.size now == 0

def clear (c : Cache α) : Cache α :=
  { c with slots := [] }

end Cache
end FaultInjection
