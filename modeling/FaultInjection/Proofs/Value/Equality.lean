import FaultInjection.Proofs.Decimal.Comparison
import FaultInjection.Proofs.Value.Parts

namespace FaultInjection

section Lists

variable {α : Type} [BEq α] {as bs cs : List α}

theorem beq_symm_of_mem (h : ∀ a ∈ as, ∀ b, (a == b) = true → (b == a) = true)
    (hab : (as == bs) = true) : (bs == as) = true := by
  induction as generalizing bs with
  | nil =>
    cases bs with
    | nil => rfl
    | cons b bs => cases hab
  | cons a as ih =>
    cases bs with
    | nil => cases hab
    | cons b bs =>
      obtain ⟨ha, has⟩ := List.forall_mem_cons.1 h
      rw [List.cons_beq_cons, Bool.and_eq_true] at hab ⊢
      exact ⟨ha b hab.1, ih has hab.2⟩

theorem beq_trans_of_mem
    (h : ∀ a ∈ as, ∀ b c, (a == b) = true → (b == c) = true → (a == c) = true)
    (hab : (as == bs) = true) (hbc : (bs == cs) = true) : (as == cs) = true := by
  induction as generalizing bs cs with
  | nil =>
    cases bs with
    | nil => exact hbc
    | cons b bs => cases hab
  | cons a as ih =>
    cases bs with
    | nil => cases hab
    | cons b bs =>
      cases cs with
      | nil => cases hbc
      | cons c cs =>
        obtain ⟨ha, has⟩ := List.forall_mem_cons.1 h
        rw [List.cons_beq_cons, Bool.and_eq_true] at hab hbc ⊢
        exact ⟨ha b c hab.1 hbc.1, ih has hab.2 hbc.2⟩

theorem beq_self_iff_of_mem : (as == as) = true ↔ ∀ a ∈ as, (a == a) = true := by
  induction as with
  | nil => exact iff_of_true rfl nofun
  | cons a as ih => rw [List.cons_beq_cons, Bool.and_eq_true, List.forall_mem_cons, ih]

end Lists

namespace Value

variable {a b c : Value} {key : String} {items : List Value} {es fs : List (String × Value)}

theorem beqItems_eq (as bs : List Value) : beqItems as bs = (as == bs) := by
  induction as generalizing bs with
  | nil => cases bs <;> rfl
  | cons a as ih =>
    cases bs with
    | nil => rfl
    | cons b bs =>
      rw [beqItems, ih, List.cons_beq_cons]
      rfl

theorem beqEntries_eq (es fs : List (String × Value)) : beqEntries es fs = (es == fs) := by
  induction es generalizing fs with
  | nil => cases fs <;> rfl
  | cons e es ih =>
    cases fs with
    | nil => rfl
    | cons f fs =>
      rw [beqEntries, ih, List.cons_beq_cons]
      rfl

theorem entry_beq_iff {e f : String × Value} :
    (e == f) = true ↔ e.1 = f.1 ∧ (e.2 == f.2) = true := by
  change (e.1 == f.1 && e.2 == f.2) = true ↔ _
  rw [Bool.and_eq_true, beq_iff_eq]

inductive Alike : Value → Value → Prop
  | null : Alike .null .null
  | bool (x : Bool) : Alike (.bool x) (.bool x)
  | int (i : Int64) : Alike (.int i) (.int i)
  | float {x y : Float} : (x == y) = true → Alike (.float x) (.float y)
  | str (s : String) : Alike (.str s) (.str s)
  | list {items others : List Value} : (items == others) = true →
      Alike (.list items) (.list others)
  | map {es fs : List (String × Value)} : (es == fs) = true → Alike (.map es) (.map fs)
  | foreign {f g : Foreign} : f.identity = g.identity → Alike (.foreign f) (.foreign g)

theorem beq_iff : (a == b) = true ↔ Alike a b := by
  constructor
  · intro h
    cases a with
    | null =>
      cases b with
      | null => exact .null
      | _ => cases h
    | bool x =>
      cases b with
      | bool y =>
        obtain rfl : x = y := eq_of_beq h
        exact .bool x
      | _ => cases h
    | int i =>
      cases b with
      | int j =>
        obtain rfl : i = j := eq_of_beq h
        exact .int i
      | _ => cases h
    | float x =>
      cases b with
      | float y => exact .float h
      | _ => cases h
    | str s =>
      cases b with
      | str t =>
        obtain rfl : s = t := eq_of_beq h
        exact .str s
      | _ => cases h
    | list items =>
      cases b with
      | list others => exact .list ((beqItems_eq items others).symm.trans h)
      | _ => cases h
    | map es =>
      cases b with
      | map fs => exact .map ((beqEntries_eq es fs).symm.trans h)
      | _ => cases h
    | foreign f =>
      cases b with
      | foreign g => exact .foreign (eq_of_beq (α := Nat) h)
      | _ => cases h
  · intro h
    cases h with
    | null => rfl
    | bool x => exact beq_self_eq_true x
    | int i => exact beq_self_eq_true i
    | float h => exact h
    | str s => exact beq_self_eq_true s
    | list h => exact (beqItems_eq _ _).trans h
    | map h => exact (beqEntries_eq _ _).trans h
    | foreign h => exact (beq_iff_eq (α := Nat)).2 h

theorem beq_symm (h : (a == b) = true) : (b == a) = true := by
  induction a using byParts generalizing b with
  | list items ih =>
    cases beq_iff.1 h with
    | list hitems => exact beq_iff.2 (.list (beq_symm_of_mem ih hitems))
  | map es ih =>
    cases beq_iff.1 h with
    | map hentries =>
      refine beq_iff.2 (.map (beq_symm_of_mem (fun e he f hef => ?_) hentries))
      obtain ⟨hkey, hvalue⟩ := entry_beq_iff.1 hef
      exact entry_beq_iff.2 ⟨hkey.symm, ih e he hvalue⟩
  | float x =>
    cases beq_iff.1 h with
    | float hxy => exact beq_iff.2 (.float (BEq.symm hxy))
  | foreign f =>
    cases beq_iff.1 h with
    | foreign hfg => exact beq_iff.2 (.foreign hfg.symm)
  | null | bool _ | int _ | str _ =>
    cases beq_iff.1 h
    exact h

theorem beq_trans (hab : (a == b) = true) (hbc : (b == c) = true) : (a == c) = true := by
  induction a using byParts generalizing b c with
  | list items ih =>
    cases beq_iff.1 hab with
    | list hitems =>
      cases beq_iff.1 hbc with
      | list hothers =>
        exact beq_iff.2 (.list (beq_trans_of_mem (fun v hv _ _ => ih v hv) hitems hothers))
  | map es ih =>
    cases beq_iff.1 hab with
    | map hentries =>
      cases beq_iff.1 hbc with
      | map hothers =>
        refine beq_iff.2 (.map (beq_trans_of_mem (fun e he f g hef hfg => ?_) hentries hothers))
        obtain ⟨hkey, hvalue⟩ := entry_beq_iff.1 hef
        obtain ⟨hkey', hvalue'⟩ := entry_beq_iff.1 hfg
        exact entry_beq_iff.2 ⟨hkey.trans hkey', ih e he hvalue hvalue'⟩
  | float x =>
    cases beq_iff.1 hab with
    | float hxy =>
      cases beq_iff.1 hbc with
      | float hyz => exact beq_iff.2 (.float (BEq.trans hxy hyz))
  | foreign f =>
    cases beq_iff.1 hab with
    | foreign hfg =>
      cases beq_iff.1 hbc with
      | foreign hgh => exact beq_iff.2 (.foreign (hfg.trans hgh))
  | null | bool _ | int _ | str _ =>
    cases beq_iff.1 hab
    exact hbc

def NumbersOnly (v : Value) : Prop :=
  ∀ x, (Value.float x).Part v → x.isNaN = false

theorem numbersOnly_list : (Value.list items).NumbersOnly ↔ ∀ v ∈ items, v.NumbersOnly := by
  constructor
  · exact fun h v hv x hx => h x (.item hv hx)
  · intro h x hx
    cases hx with
    | item hv hx => exact h _ hv x hx

theorem numbersOnly_map : (Value.map es).NumbersOnly ↔ ∀ e ∈ es, e.2.NumbersOnly := by
  constructor
  · exact fun h e he x hx => h x (.entry he hx)
  · intro h x hx
    cases hx with
    | entry he hx => exact h _ he x hx

theorem numbersOnly_float {x : Float} : (Value.float x).NumbersOnly ↔ x.isNaN = false := by
  constructor
  · exact fun h => h x .self
  · intro h y hy
    cases hy
    exact h

theorem list_beq_self_iff : (Value.list items == .list items) = true ↔
    ∀ v ∈ items, (v == v) = true := by
  change beqItems items items = true ↔ _
  rw [beqItems_eq, beq_self_iff_of_mem]

theorem map_beq_self_iff : (Value.map es == .map es) = true ↔ ∀ e ∈ es, (e.2 == e.2) = true := by
  change beqEntries es es = true ↔ _
  rw [beqEntries_eq, beq_self_iff_of_mem]
  exact forall₂_congr fun e _ => entry_beq_iff.trans (and_iff_right rfl)

theorem beq_self_iff (v : Value) : (v == v) = true ↔ v.NumbersOnly := by
  induction v using byParts with
  | list items ih => exact list_beq_self_iff.trans ((forall₂_congr ih).trans numbersOnly_list.symm)
  | map es ih => exact map_beq_self_iff.trans ((forall₂_congr ih).trans numbersOnly_map.symm)
  | float x => exact Decimal.beq_self_iff.trans numbersOnly_float.symm
  | null => exact iff_of_true (beq_iff.2 .null) nofun
  | bool x => exact iff_of_true (beq_iff.2 (.bool x)) nofun
  | int i => exact iff_of_true (beq_iff.2 (.int i)) nofun
  | str s => exact iff_of_true (beq_iff.2 (.str s)) nofun
  | foreign f => exact iff_of_true (beq_iff.2 (.foreign rfl)) nofun

theorem get?_beq_of_beq (h : (es == fs) = true) :
    (Entries.get? key es == Entries.get? key fs) = true := by
  induction es generalizing fs with
  | nil =>
    cases fs with
    | nil => rfl
    | cons f fs => cases h
  | cons e es ih =>
    cases fs with
    | nil => cases h
    | cons f fs =>
      rw [List.cons_beq_cons, Bool.and_eq_true, entry_beq_iff] at h
      obtain ⟨⟨hkey, hvalue⟩, hrest⟩ := h
      rw [Entries.get?, Entries.get?, hkey]
      split
      · exact hvalue
      · exact ih hrest

structure SameViews (a b : Value) : Prop where
  null : a.isNull = b.isNull
  bool : a.asBool? = b.asBool?
  int : a.asInt? = b.asInt?
  float : (a.asFloat? == b.asFloat?) = true
  str : a.asStr? = b.asStr?
  list : (a.asList? == b.asList?) = true
  map : (a.asMap? == b.asMap?) = true
  get : ∀ key, (a.get? key == b.get? key) = true
  foreign : a.asForeign?.map Foreign.identity = b.asForeign?.map Foreign.identity

theorem sameViews_of_beq (h : (a == b) = true) : SameViews a b := by
  have ha := beq_iff.1 h
  constructor
  case float =>
    cases ha with
    | int i => exact Decimal.beq_self_iff.2 (Decimal.isNaN_ofInt64 i)
    | float hxy => exact hxy
    | _ => rfl
  case list =>
    cases ha with
    | list hitems => exact hitems
    | _ => rfl
  case map =>
    cases ha with
    | map hentries => exact hentries
    | _ => rfl
  case get =>
    intro key
    cases ha with
    | map hentries => exact get?_beq_of_beq hentries
    | _ => rfl
  case foreign =>
    cases ha with
    | foreign hfg => exact congrArg some hfg
    | _ => rfl
  case null | bool | int | str => cases ha <;> rfl

/-- Equality may be turned round and passed on. Only for a double that is not a number, somewhere in
it, a value does not equal itself. Equal values read the same, and values of the host are equal just
if they are one. -/
theorem equality_partial (a b c : Value) :
    (a == b) = (b == a) ∧
    ((a == b) = true → (b == c) = true → (a == c) = true) ∧
    ((a == a) = true ↔ ∀ x, (Value.float x).Part a → x.isNaN = false) ∧
    ((a == b) = true → SameViews a b) ∧
    ∀ f g, (Value.foreign f == .foreign g) = true ↔ f.identity = g.identity := by
  refine ⟨?_, beq_trans, beq_self_iff a, sameViews_of_beq, fun f g => ?_⟩
  · exact Bool.eq_iff_iff.2 ⟨beq_symm, beq_symm⟩
  · exact beq_iff_eq (α := Nat)

theorem equality_partial_zeros :
    let plus : Float := .ofBits 0
    let minus : Float := .ofBits 0x8000000000000000
    let nan : Float := .ofBits 0x7ff8000000000000
    let a : Value := .map [("k", .list [.float plus, .int 1])]
    let b : Value := .map [("k", .list [.float minus, .int 1])]
    let v : Value := .list [.null, .map [("k", .float nan)]]
    (a == b) = true ∧ (b == a) = true ∧ (a == a) = true ∧ SameViews a b ∧ (v == v) = false := by
  intro plus minus nan a b v
  have hab : (a == b) = true := by decide +kernel
  have hnan : (Value.float nan).Part v :=
    .item (List.mem_cons_of_mem _ List.mem_cons_self) (.entry List.mem_cons_self .self)
  obtain ⟨hturn, htrans, -, hviews, -⟩ := equality_partial a b a
  have hba : (b == a) = true := hturn ▸ hab
  refine ⟨hab, hba, htrans hab hba, hviews hab, eq_false_of_ne_true fun hself => ?_⟩
  have hnumber : nan.isNaN = false := (equality_partial v v v).2.2.1.1 hself nan hnan
  exact absurd hnumber (by decide)

end Value
end FaultInjection
