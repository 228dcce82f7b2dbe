import FaultInjection.Value

namespace FaultInjection.Value

variable {v : Value} {items : List Value}

theorem byParts {P : Value → Prop} (null : P .null) (bool : ∀ b, P (.bool b))
    (int : ∀ i, P (.int i)) (float : ∀ x, P (.float x)) (str : ∀ s, P (.str s))
    (list : ∀ items, (∀ v ∈ items, P v) → P (.list items))
    (map : ∀ es, (∀ e ∈ es, P e.2) → P (.map es)) (foreign : ∀ f, P (.foreign f)) :
    ∀ v, P v := by
  refine @Value.rec P (fun items => ∀ v ∈ items, P v) (fun es => ∀ e ∈ es, P e.2) (fun e => P e.2)
    null bool int float str list map foreign ?nil ?cons ?none ?entry ?pair
  case nil => exact nofun
  case cons => exact fun v items hv hitems => List.forall_mem_cons.2 ⟨hv, hitems⟩
  case none => exact nofun
  case entry => exact fun e es he hes => List.forall_mem_cons.2 ⟨he, hes⟩
  case pair => exact fun _ _ hv => hv

inductive Part (w : Value) : Value → Prop
  | self : Part w w
  | item {v : Value} {items : List Value} : v ∈ items → Part w v → Part w (.list items)
  | entry {e : String × Value} {es : List (String × Value)} : e ∈ es → Part w e.2 → Part w (.map es)

inductive Listed (w : Value) : Value → Prop
  | self : Listed w w
  | item {v : Value} {items : List Value} : v ∈ items → Listed w v → Listed w (.list items)

theorem forall_listed_list {P : Value → Prop} :
    (∀ w, Listed w (.list items) → P w) ↔ P (.list items) ∧ ∀ v ∈ items, ∀ w, Listed w v → P w := by
  constructor
  · exact fun h => ⟨h _ .self, fun v hv w hw => h w (.item hv hw)⟩
  · rintro ⟨hself, hitems⟩ w hw
    cases hw with
    | self => exact hself
    | item hv hw => exact hitems _ hv w hw

theorem forall_listed_of_not_list {P : Value → Prop} (h : v.asList? = none) :
    (∀ w, Listed w v → P w) ↔ P v := by
  constructor
  · exact fun hall => hall v .self
  · intro hv w hw
    cases hw with
    | self => exact hv
    | item => cases h

end FaultInjection.Value
