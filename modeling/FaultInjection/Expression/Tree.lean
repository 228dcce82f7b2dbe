import FaultInjection.Expression.Operand
import FaultInjection.Expression.Token

namespace FaultInjection.Expression

inductive Operator
  | root
  | add | sub | neg | mul | div | mod | exp
  | eq | neq | gt | lt | geq | leq
  | and | or | not
  | assign | addAssign | subAssign | mulAssign | divAssign | modAssign | expAssign
  | andAssign | orAssign
  | tuple
  | chain
  | const (value : Operand)
  | write (name : String)
  | read (name : String)
  | function (name : String)

namespace Operator

def precedence : Operator → Nat
  | .root | .const _ | .write _ | .read _ => 200
  | .function _ => 190
  | .exp => 120
  | .neg | .not => 110
  | .mul | .div | .mod => 100
  | .add | .sub => 95
  | .eq | .neq | .gt | .lt | .geq | .leq => 80
  | .and => 75
  | .or => 70
  | .assign | .addAssign | .subAssign | .mulAssign | .divAssign | .modAssign | .expAssign
  | .andAssign | .orAssign => 50
  | .tuple => 40
  | .chain => 0

def capacity : Operator → Option Nat
  | .root | .neg | .not | .function _ => some 1
  | .tuple | .chain => none
  | .const _ | .write _ | .read _ => some 0
  | _ => some 2

def isLeaf (o : Operator) : Bool :=
  o.capacity == some 0

def isRoot : Operator → Bool
  | .root => true
  | _ => false

def isUnary (o : Operator) : Bool :=
  o.capacity == some 1 && !o.isRoot

def isSequence : Operator → Bool
  | .tuple | .chain => true
  | _ => false

def isTuple : Operator → Bool
  | .tuple => true
  | _ => false

def isRightToLeft : Operator → Bool
  | .assign | .function _ => true
  | _ => false

end Operator

inductive Tree
  | node (op : Operator) (children : List Tree)

namespace Tree

def op : Tree → Operator
  | .node o _ => o

def children : Tree → List Tree
  | .node _ ts => ts

def leaf (o : Operator) : Tree := .node o []

def emptyRoot : Tree := .node .root []

def append : Tree → Tree → Tree
  | .node o ts, t => .node o (ts ++ [t])

mutual

def height : Tree → Nat
  | .node _ ts => heights ts + 1

def heights : List Tree → Nat
  | [] => 0
  | t :: ts => max t.height (heights ts)

end

mutual

def size : Tree → Nat
  | .node _ ts => sizes ts + 1

def sizes : List Tree → Nat
  | [] => 0
  | t :: ts => t.size + sizes ts

end

@[simp] theorem sizes_append (ts us : List Tree) : sizes (ts ++ us) = sizes ts + sizes us := by
  induction ts with
  | nil => simp [sizes]
  | cons t ts ih => simp [sizes, ih]; omega

@[simp] theorem sizes_reverse (ts : List Tree) : sizes ts.reverse = sizes ts := by
  induction ts with
  | nil => rfl
  | cons t ts ih => simp [sizes, ih]; omega

def pending : List (Tree × Nat) → Nat
  | [] => 0
  | (t, _) :: ps => t.size + pending ps

@[simp] theorem pending_append (ps qs : List (Tree × Nat)) :
    pending (ps ++ qs) = pending ps + pending qs := by
  induction ps with
  | nil => simp [pending]
  | cons p ps ih => simp [pending, ih]; omega

@[simp] theorem pending_map (d : Nat) (ts : List Tree) :
    pending (ts.map fun t => (t, d)) = sizes ts := by
  induction ts with
  | nil => rfl
  | cons t ts ih => simp [pending, sizes, ih]

def oneDeeper (d : Nat) (ts : List Tree) : List (Tree × Nat) :=
  ts.reverse.map fun t => (t, d + 1)

theorem pending_oneDeeper (d : Nat) (ts : List Tree) : pending (oneDeeper d ts) = sizes ts := by
  rw [oneDeeper, pending_map, sizes_reverse]

def deepest (found : Nat) : List (Tree × Nat) → Nat
  | [] => found
  | (.node _ ts, d) :: rest => deepest (max found d) (oneDeeper d ts ++ rest)
termination_by ps => pending ps
decreasing_by
  simp only [pending_append, pending, pending_oneDeeper, size]
  omega

def depth (t : Tree) : Nat :=
  deepest 0 [(t, 1)]

def bindsTighter (o p : Operator) : Bool :=
  p.precedence < o.precedence ||
    (p.precedence == o.precedence && p.isRightToLeft && o.isRightToLeft)

def canTake (t : Tree) : Bool :=
  match t.op.capacity with
  | some n => t.children.length != n
  | none => true

mutual

/-- Inserts a tree on the right edge. It goes below the last child if it binds tighter, takes the
place of the last child if it does not, with that child as its own, or becomes a child itself
where one is missing. -/
def insert (n : Tree) (atRoot : Bool) : Tree → Except ReadError Tree
  | .node o ts =>
    if !(bindsTighter n.op o || n.op.isUnary || atRoot) then .error .precedenceViolation
    else if o.isLeaf then .error .appendedToLeaf
    else if canTake (.node o ts) then .ok (.node o (ts ++ [n]))
    else (insertLast n o ts.length ts).map (.node o ·)

def insertLast (n : Tree) (o : Operator) (count : Nat) : List Tree → Except ReadError (List Tree)
  | [] => .ok []
  | [last] =>
    if bindsTighter n.op last.op || n.op.isUnary then (insert n false last).map ([·])
    else if n.op.isLeaf then .error .appendedToLeaf
    else if o.isRoot && (n.op.isRoot || 1 < count) ||
        n.op.isRoot && (!n.children.isEmpty || last.op.isRoot) then
      .error .missingOperator
    else .ok [n.append last]
  | t :: ts => (insertLast n o count ts).map (t :: ·)

end

end Tree

namespace Token

def endsOperand : Token → Bool
  | .closing | .identifier _ | .float _ | .int _ | .bool _ | .str _ => true
  | _ => false

def startsOperand : Token → Bool
  | .opening | .identifier _ | .float _ | .int _ | .bool _ | .str _ => true
  | _ => false

def isAssignment : Token → Bool
  | .assign | .plusAssign | .minusAssign | .starAssign | .slashAssign | .percentAssign
  | .hatAssign | .andAssign | .orAssign => true
  | _ => false

/-- The operator of a token. A minus sign subtracts after an operand and negates elsewhere; a
name before an operand is a function. -/
def operator? (afterOperand : Bool) (next : Option Token) : Token → Option Operator
  | .plus => some .add
  | .minus => some (if afterOperand then .sub else .neg)
  | .star => some .mul
  | .slash => some .div
  | .percent => some .mod
  | .hat => some .exp
  | .eq => some .eq
  | .neq => some .neq
  | .gt => some .gt
  | .lt => some .lt
  | .geq => some .geq
  | .leq => some .leq
  | .and => some .and
  | .or => some .or
  | .not => some .not
  | .opening | .closing => none
  | .assign => some .assign
  | .plusAssign => some .addAssign
  | .minusAssign => some .subAssign
  | .starAssign => some .mulAssign
  | .slashAssign => some .divAssign
  | .percentAssign => some .modAssign
  | .hatAssign => some .expAssign
  | .andAssign => some .andAssign
  | .orAssign => some .orAssign
  | .comma => some .tuple
  | .semicolon => some .chain
  | .identifier name =>
    match next with
    | some t =>
      if t.isAssignment then some (.write name)
      else if t.startsOperand then some (.function name)
      else some (.read name)
    | none => some (.read name)
  | .float x => some (.const (.float x))
  | .int i => some (.const (.int i))
  | .bool b => some (.const (.bool b))
  | .str s => some (.const (.str s))

end Token

namespace Tree

abbrev Stack := List Tree

def collapse (top : Tree) : Stack → Except ReadError Stack
  | [] =>
    if top.op.isRoot then
      if 1 < top.children.length then .error .missingOperator else .ok [top]
    else .error .unmatchedClosing
  | t :: stack =>
    if top.op.isRoot then
      if 1 < top.children.length then .error .missingOperator else .ok (top :: t :: stack)
    else if top.op.isSequence then collapse (t.append top) stack
    else if top.op.capacity.any (· < top.children.length) then .error .missingOperator
    else .ok (top :: t :: stack)

def collapseAll : Stack → Except ReadError Stack
  | [] => .error .unmatchedClosing
  | top :: stack => collapse top stack

def collapseTo (precedence : Nat) (top : Tree) : Stack → Except ReadError (Tree × Stack)
  | [] => .error .unmatchedClosing
  | t :: stack =>
    if precedence < t.op.precedence then collapseTo precedence (t.append top) stack
    else .ok (top, t :: stack)

def pushSequence (o : Operator) (top : Tree) (stack : Stack) : Except ReadError Stack :=
  if top.op.isSequence && top.op.isTuple == o.isTuple then .ok (top.append emptyRoot :: stack)
  else if top.op.isRoot then .ok (.node o [top, emptyRoot] :: emptyRoot :: stack)
  else if top.op.precedence < o.precedence then
    match top.children.getLast? with
    | some last =>
      .ok (.node o [last, emptyRoot] :: .node top.op top.children.dropLast :: stack)
    | none => .error .unmatchedClosing
  else
    (collapseTo o.precedence top stack).map fun (top, stack) => .node o [top] :: stack

def pushTree (n top : Tree) (stack : Stack) : Except ReadError Stack :=
  if top.op.isSequence then
    match top.children.getLast? with
    | some last =>
      (insert n true last).map fun last => .node top.op (top.children.dropLast ++ [last]) :: stack
    | none => .error .unmatchedClosing
  else (insert n true top).map (· :: stack)

def push (n : Tree) : Stack → Except ReadError Stack
  | [] => .error .unmatchedClosing
  | top :: stack =>
    if n.op.isSequence then pushSequence n.op top stack else pushTree n top stack

def close (stack : Stack) : Except ReadError Stack :=
  if stack.length ≤ 1 then .error .unmatchedClosing
  else do
    match (← collapseAll stack) with
    | t :: stack => push t stack
    | [] => .error .unmatchedClosing

def build (afterOperand : Bool) (stack : Stack) : List Token → Except ReadError Stack
  | [] => .ok stack
  | t :: ts => do
    let stack ← match t.operator? afterOperand ts.head? with
      | some o => push (leaf o) stack
      | none =>
        match t with
        | .opening => .ok (emptyRoot :: stack)
        | _ => close stack
    build t.endsOperand stack ts

def ofTokens (ts : List Token) : Except ReadError Tree := do
  match (← collapseAll (← build false [emptyRoot] ts)) with
  | [t] => .ok t
  | [] => .error .unmatchedClosing
  | _ => .error .unmatchedOpening

def parse (s : String) : Except ReadError Tree := do
  ofTokens (← tokens s)

end Tree
end FaultInjection.Expression
