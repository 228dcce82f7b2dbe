import FaultInjection.Call

namespace FaultInjection

inductive Interrupt
  | returning (v : Value)
  | throwing (message : String)

def Interrupt.describe : Interrupt → String
  | .returning v => "return immediately with " ++ v.render
  | .throwing message => "throw immediately: " ++ message

inductive ActionError
  | interrupted (i : Interrupt)
  | unsupported (action reason : String)
  | failed (message : String)

namespace ActionError

def message : ActionError → String
  | .interrupted i => "interrupted: " ++ i.describe
  | .unsupported action reason =>
    "unsupported return type for action \"" ++ action ++ "\": " ++ reason
  | .failed message => "action failed: " ++ message

def interrupt? : ActionError → Option Interrupt
  | .interrupted i => some i
  | _ => none

def cause? : ActionError → Option String
  | .failed message => some message
  | _ => none

end ActionError

structure Reaction (σ : Type) where
  call : Call
  ending : Except Crash (Except ActionError Unit)
  host : σ

def Executor (σ : Type) : Type :=
  Call → Rule → σ → Reaction σ

namespace Executor

variable {σ : Type}

def ofEnding (f : Call → Rule → Except Crash (Except ActionError Unit)) : Executor σ :=
  fun call r host => ⟨call, f call r, host⟩

end Executor

structure ActionTable (σ : Type) where
  anyTarget : Dict (Executor σ)
  perTarget : Dict (Dict (Executor σ))

namespace ActionTable

variable {σ : Type}

def empty : ActionTable σ := ⟨Dict.empty, Dict.empty⟩

def withAction (t : ActionTable σ) (action : String) (x : Executor σ) : ActionTable σ :=
  { t with anyTarget := t.anyTarget.insert action x }

def forTarget (t : ActionTable σ) (target : String) : Dict (Executor σ) :=
  (t.perTarget.get? target).getD Dict.empty

def withTargetAction (t : ActionTable σ) (target action : String) (x : Executor σ) :
    ActionTable σ :=
  { t with perTarget := t.perTarget.insert target ((t.forTarget target).insert action x) }

def resolve? (t : ActionTable σ) (target action : String) : Option (Executor σ) :=
  match (t.forTarget target).get? action with
  | some x => some x
  | none => t.anyTarget.get? action

def size (t : ActionTable σ) : Nat :=
  t.perTarget.entries.foldl (fun n g => n + g.2.size) t.anyTarget.size

def isEmpty (t : ActionTable σ) : Bool :=
  t.size == 0

def actions (t : ActionTable σ) : List String :=
  let names := t.anyTarget.keys ++ t.perTarget.entries.flatMap (·.2.keys)
  (Dict.ofList (names.map fun n => (n, ()))).keys

def Every (P : Executor σ → Prop) (t : ActionTable σ) : Prop :=
  ∀ target action x, t.resolve? target action = some x → P x

theorem every_empty (P : Executor σ → Prop) : (empty : ActionTable σ).Every P :=
  fun _ _ _ h => nomatch h

theorem Every.withAction {P : Executor σ → Prop} {t : ActionTable σ} (h : t.Every P)
    (action : String) {x : Executor σ} (hx : P x) : (t.withAction action x).Every P := by
  intro target name y hy
  have hother := h target name
  unfold resolve? at hy hother
  change (match (t.forTarget target).get? name with
    | some x => some x
    | none => (t.anyTarget.insert action x).get? name) = some y at hy
  cases hs : (t.forTarget target).get? name with
  | some z =>
    rw [hs] at hy hother
    exact hother y hy
  | none =>
    rw [hs] at hy hother
    by_cases he : name = action
    · obtain rfl : x = y := by simpa [he] using hy
      exact hx
    · exact hother y (by grind)

end ActionTable
end FaultInjection
