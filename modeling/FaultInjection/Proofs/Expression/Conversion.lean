import FaultInjection.Expression.Operand
import FaultInjection.Proofs.Value.Parts

namespace FaultInjection

namespace Value

variable {v : Value} {items : List Value}

def KeysAscend (v : Value) : Prop :=
  ∀ w, Listed w v → ∀ es, w.asMap? = some es → Entries.Sorted es

theorem keysAscend_list : (Value.list items).KeysAscend ↔ ∀ v ∈ items, v.KeysAscend :=
  forall_listed_list.trans (and_iff_right nofun)

theorem keysAscend_of_not_list (h : v.asList? = none) :
    v.KeysAscend ↔ ∀ es, v.asMap? = some es → Entries.Sorted es :=
  forall_listed_of_not_list h

mutual

def replace (f : Value → Value) : Value → Value
  | .list items => .list (replaceItems f items)
  | v => f v

def replaceItems (f : Value → Value) : List Value → List Value
  | [] => []
  | v :: vs => replace f v :: replaceItems f vs

end

theorem replaceItems_eq (f : Value → Value) (items : List Value) :
    replaceItems f items = items.map (replace f) := by
  induction items with
  | nil => rfl
  | cons v items ih => rw [replaceItems, ih, List.map_cons]

def seen : Value → Value
  | .map es => .list ((es.map Prod.fst).mergeSort.map .str)
  | .foreign f => .str f.text
  | v => v

end Value

namespace Expression.Operand

theorem ofItems_eq (vs : List Value) : ofItems vs = vs.map ofValue := by
  induction vs with
  | nil => rfl
  | cons v vs ih => rw [ofItems, ih, List.map_cons]

theorem toItems_eq (as : List Operand) : toItems as = as.map toValue := by
  induction as with
  | nil => rfl
  | cons a as ih => rw [toItems, ih, List.map_cons]

theorem byItems {P : Operand → Prop} (str : ∀ s, P (.str s)) (float : ∀ x, P (.float x))
    (int : ∀ i, P (.int i)) (bool : ∀ b, P (.bool b))
    (tuple : ∀ items, (∀ a ∈ items, P a) → P (.tuple items)) (empty : P .empty) : ∀ a, P a := by
  refine @Operand.rec P (fun items => ∀ a ∈ items, P a) str float int bool tuple empty ?nil ?cons
  case nil => exact nofun
  case cons => exact fun a items ha hitems => List.forall_mem_cons.2 ⟨ha, hitems⟩

theorem ofValue_toValue (a : Operand) : ofValue (toValue a) = a := by
  induction a using byItems with
  | tuple items ih =>
    rw [toValue, ofValue, toItems_eq, ofItems_eq, List.map_map]
    congr 1
    exact (List.map_congr_left ih).trans (List.map_id items)
  | str _ | float _ | int _ | bool _ | empty => rfl

theorem toValue_ofValue_list (items : List Value) :
    toValue (ofValue (.list items)) = .list (items.map fun v => toValue (ofValue v)) := by
  rw [ofValue, toValue, ofItems_eq, toItems_eq, List.map_map]
  rfl

theorem toValue_ofValue_map (es : List (String × Value)) :
    toValue (ofValue (.map es)) = .list ((es.map Prod.fst).map .str) := by
  rw [ofValue, toValue, toItems_eq, List.map_map, List.map_map]
  rfl

theorem toValue_ofValue {v : Value} (h : v.KeysAscend) :
    toValue (ofValue v) = v.replace Value.seen := by
  induction v using Value.byParts with
  | list items ih =>
    rw [toValue_ofValue_list, Value.replace, Value.replaceItems_eq]
    congr 1
    exact List.map_congr_left fun v hv => ih v hv (Value.keysAscend_list.1 h v hv)
  | map es =>
    have hkeys : (es.map Prod.fst).mergeSort = es.map Prod.fst := by
      apply List.mergeSort_of_pairwise
      have hsorted := (Value.keysAscend_of_not_list rfl).1 h es rfl
      exact List.pairwise_map.2 (hsorted.imp fun hlt => decide_eq_true (Std.le_of_lt hlt))
    rw [toValue_ofValue_map, ← hkeys]
    rfl
  | null | bool _ | int _ | float _ | str _ | foreign _ => rfl

theorem toValue_ofValue_eq_self_iff (v : Value) :
    toValue (ofValue v) = v ↔
      ∀ w : Value, w.Listed v → w.isMap = false ∧ w.asForeign? = none := by
  induction v using Value.byParts with
  | list items ih =>
    have hitems : items.map (fun v => toValue (ofValue v)) = items.map id ↔
        ∀ v ∈ items, toValue (ofValue v) = v := List.map_inj_left
    rw [List.map_id] at hitems
    rw [toValue_ofValue_list, Value.list.injEq, hitems, Value.forall_listed_list]
    constructor
    · exact fun h => ⟨⟨rfl, rfl⟩, fun v hv => (ih v hv).1 (h v hv)⟩
    · exact fun h v hv => (ih v hv).2 (h.2 v hv)
  | map es =>
    rw [toValue_ofValue_map, Value.forall_listed_of_not_list rfl]
    exact iff_of_false nofun nofun
  | foreign f =>
    rw [Value.forall_listed_of_not_list rfl]
    exact iff_of_false nofun nofun
  | null | bool _ | int _ | float _ | str _ =>
    rw [Value.forall_listed_of_not_list rfl]
    exact iff_of_true rfl ⟨rfl, rfl⟩

/-- What an expression computes comes back unchanged. A value comes back with what is seen of its
parts, so it is unchanged if no list in it leads to a map or to a value of the host, and another
way round changes nothing more. -/
theorem round_trips :
    (∀ a, ofValue (toValue a) = a) ∧
    (∀ v : Value, v.KeysAscend → toValue (ofValue v) = v.replace Value.seen) ∧
    (∀ v : Value, toValue (ofValue v) = v ↔
      ∀ w : Value, w.Listed v → w.isMap = false ∧ w.asForeign? = none) ∧
    ∀ v : Value, toValue (ofValue (toValue (ofValue v))) = toValue (ofValue v) := by
  refine ⟨ofValue_toValue, fun v => toValue_ofValue, toValue_ofValue_eq_self_iff, fun v => ?_⟩
  rw [ofValue_toValue]

theorem round_trips_nested :
    let host : Foreign := { identity := 1, kind := "k", text := "t", payload := none }
    let inner : Value := .map [("a", .null), ("b", .foreign host)]
    let v : Value := .list [.list [inner], .foreign host]
    v.KeysAscend ∧ toValue (ofValue v) = v.replace Value.seen ∧
      toValue (ofValue v) = .list [.list [.list [.str "a", .str "b"]], .str "t"] ∧
      toValue (ofValue v) ≠ v ∧
      ofValue (toValue (.tuple [.tuple [], .empty])) = .tuple [.tuple [], .empty] := by
  intro host inner v
  have hinner : inner.KeysAscend := by
    refine (Value.keysAscend_of_not_list rfl).2 fun es hes => ?_
    obtain rfl := Option.some.inj hes
    exact List.pairwise_pair.2 (by decide)
  have hhost : (Value.foreign host).KeysAscend := (Value.keysAscend_of_not_list rfl).2 nofun
  have hkeys : v.KeysAscend := by
    have hfirst : (Value.list [inner]).KeysAscend :=
      Value.keysAscend_list.2 (List.forall_mem_singleton.2 hinner)
    exact Value.keysAscend_list.2
      (List.forall_mem_cons.2 ⟨hfirst, List.forall_mem_singleton.2 hhost⟩)
  obtain ⟨hback, hseen, hself, -⟩ := round_trips
  refine ⟨hkeys, hseen v hkeys, rfl, fun hsame => ?_, hback _⟩
  have hlisted : inner.Listed v := .item List.mem_cons_self (.item List.mem_cons_self .self)
  cases ((hself v).1 hsame inner hlisted).1

end Expression.Operand
end FaultInjection
