import FaultInjection.Expression.Basic
import Mathlib.Data.List.Induction

/-!
What binding writes. To bind a value is to write operands under names, those of the entries of a map
before that of the map. The first write fixes the kind of a name. So a run of writes goes through
exactly if all writes to a name are of one kind, and then a name has what was written last.
-/
namespace FaultInjection.Expression

abbrev Write := String × Operand

mutual

def writes (name : String) : Value → List Write
  | .map entries => entryWrites name entries ++ [(name, Operand.ofValue (.map entries))]
  | v => [(name, Operand.ofValue v)]

def entryWrites (name : String) : List (String × Value) → List Write
  | [] => []
  | (key, v) :: es => writes (name ++ "." ++ key) v ++ entryWrites name es

end

def allWrites (vars : List (String × Value)) : List Write :=
  vars.flatMap fun b => writes b.1 b.2

def lastWritten (name : String) (ws : List Write) : Option Operand :=
  (ws.reverse.find? (·.1 = name)).map (·.2)

def Agree (vs ws : List Write) : Prop :=
  ∀ v ∈ vs, ∀ w ∈ ws, v.1 = w.1 → v.2.kind = w.2.kind

def Consistent (ws : List Write) : Prop :=
  Agree ws ws

section

variable {name : String} {a : Operand} {us vs ws : List Write}

@[simp] theorem lastWritten_append :
    lastWritten name (ws ++ vs) = (lastWritten name vs).or (lastWritten name ws) := by
  rw [lastWritten, List.reverse_append, List.find?_append, lastWritten, lastWritten]
  cases vs.reverse.find? (·.1 = name) <;> rfl

@[simp] theorem lastWritten_snoc {m : String} :
    lastWritten name (ws ++ [(m, a)]) = if m = name then some a else lastWritten name ws := by
  by_cases h : m = name
  · simp [lastWritten, h]
  · simp [lastWritten, h]

theorem mem_of_lastWritten (h : lastWritten name ws = some a) : (name, a) ∈ ws := by
  obtain ⟨⟨m, b⟩, hfind, rfl⟩ := Option.map_eq_some_iff.1 h
  obtain rfl : m = name := by simpa using List.find?_some hfind
  exact List.mem_reverse.1 (List.mem_of_find?_eq_some hfind)

theorem lastWritten_eq_none_iff : lastWritten name ws = none ↔ ∀ w ∈ ws, w.1 ≠ name := by
  simp [lastWritten, List.find?_eq_none]

theorem exists_lastWritten {w : Write} (h : w ∈ ws) : ∃ a, lastWritten w.1 ws = some a := by
  cases hl : lastWritten w.1 ws with
  | some a => exact ⟨a, rfl⟩
  | none => exact absurd rfl (lastWritten_eq_none_iff.1 hl w h)

theorem Agree.symm (h : Agree vs ws) : Agree ws vs :=
  fun w hw v hv hname => (h v hv w hw hname.symm).symm

theorem agree_append_left : Agree (us ++ vs) ws ↔ Agree us ws ∧ Agree vs ws := by
  simp only [Agree, List.forall_mem_append]

theorem agree_append_right : Agree us (vs ++ ws) ↔ Agree us vs ∧ Agree us ws := by
  constructor
  · intro h
    obtain ⟨hv, hw⟩ := agree_append_left.1 h.symm
    exact ⟨hv.symm, hw.symm⟩
  · rintro ⟨hv, hw⟩
    exact (agree_append_left.2 ⟨hv.symm, hw.symm⟩).symm

theorem consistent_append :
    Consistent (vs ++ ws) ↔ Consistent vs ∧ Consistent ws ∧ Agree vs ws := by
  rw [Consistent, agree_append_left, agree_append_right, agree_append_right]
  constructor
  · rintro ⟨⟨hvs, hvw⟩, -, hws⟩
    exact ⟨hvs, hws, hvw⟩
  · rintro ⟨hvs, hws, hvw⟩
    exact ⟨⟨hvs, hvw⟩, hvw.symm, hws⟩

theorem consistent_snoc :
    Consistent (ws ++ [(name, a)]) ↔
      Consistent ws ∧ ∀ w ∈ ws, w.1 = name → w.2.kind = a.kind := by
  rw [consistent_append]
  constructor
  · rintro ⟨hws, -, hagree⟩
    exact ⟨hws, fun w hw hname => hagree w hw _ List.mem_cons_self hname⟩
  · rintro ⟨hws, hlast⟩
    refine ⟨hws, ?_, ?_⟩
    · intro v hv w hw _
      rw [List.mem_singleton.1 hv, List.mem_singleton.1 hw]
    · intro v hv w hw hname
      obtain rfl := List.mem_singleton.1 hw
      exact hlast v hv hname

end

namespace Env

variable {env env' : Env} {name : String} {a b : Operand} {before us vs ws : List Write}

def write (env : Env) (ws : List Write) : Except Stop Env :=
  ws.foldlM (fun env w => env.set w.1 w.2) env

@[simp] theorem write_append : env.write (vs ++ ws) = (env.write vs).bind (·.write ws) :=
  List.foldlM_append

theorem write_snoc :
    env.write (ws ++ [(name, a)]) = (env.write ws).bind (·.set name a) := by
  rw [write_append]
  congr 1
  funext env
  change (env.set name a).bind .ok = env.set name a
  cases env.set name a <;> rfl

theorem bind_of_not_map {v : Value} (h : v.isMap = false) :
    env.bind name v = env.set name (Operand.ofValue v) := by
  cases v with
  | map es => cases h
  | null | bool _ | int _ | float _ | str _ | list _ | foreign _ => rfl

theorem writes_of_not_map {v : Value} (h : v.isMap = false) :
    writes name v = [(name, Operand.ofValue v)] := by
  cases v with
  | map es => cases h
  | null | bool _ | int _ | float _ | str _ | list _ | foreign _ => rfl

mutual

theorem bind_eq_write (env : Env) (name : String) (v : Value) :
    env.bind name v = env.write (writes name v) := by
  cases v with
  | map es =>
    rw [writes, write_snoc, ← bindEntries_eq_write env name es]
    rfl
  | null | bool _ | int _ | float _ | str _ | list _ | foreign _ =>
    rw [bind_of_not_map rfl, writes_of_not_map rfl, ← List.nil_append [_], write_snoc]
    rfl

theorem bindEntries_eq_write (env : Env) (name : String) (es : List (String × Value)) :
    env.bindEntries name es = env.write (entryWrites name es) := by
  cases es with
  | nil => rfl
  | cons e es =>
    obtain ⟨key, v⟩ := e
    rw [entryWrites, write_append, ← bind_eq_write env (name ++ "." ++ key) v]
    change (env.bind (name ++ "." ++ key) v).bind (·.bindEntries name es) = _
    congr 1
    funext env'
    exact bindEntries_eq_write env' name es

end

theorem bindAll_eq_write (env : Env) (vars : List (String × Value)) :
    env.bindAll vars = env.write (allWrites vars) := by
  induction vars generalizing env with
  | nil => rfl
  | cons b vars ih =>
    rw [allWrites, List.flatMap_cons, write_append, ← bind_eq_write env b.1 b.2]
    change (env.bind b.1 b.2).bind (·.bindAll vars) = _
    congr 1
    funext env'
    exact ih env'

def Holds (env : Env) (ws : List Write) : Prop :=
  ∀ name, env.get? name = lastWritten name ws

theorem holds_empty : Holds Dict.empty [] := fun _ => rfl

theorem set_of_kind (h : ∀ b, env.get? name = some b → b.kind = a.kind) :
    env.set name a = .ok (env.insert name a) := by
  unfold set
  split
  · rfl
  · next b hb => rw [if_pos (h b hb)]

theorem set_of_kind_ne (h : env.get? name = some b) (hk : b.kind ≠ a.kind) :
    env.set name a = fail (.expected (.kind b.kind) a) := by
  simp only [set, h, if_neg hk]

theorem Holds.insert (h : env.Holds ws) : Holds (env.insert name a) (ws ++ [(name, a)]) := by
  intro m
  have hold := h m
  rw [lastWritten_snoc]
  split
  · next hm => simp [hm]
  · next hm => grind

theorem Holds.write (h : env.Holds ws) (hc : Consistent (ws ++ vs)) :
    ∃ env', env.write vs = .ok env' ∧ env'.Holds (ws ++ vs) := by
  induction vs using List.reverseRecOn with
  | nil => exact ⟨env, rfl, by rwa [List.append_nil]⟩
  | append_singleton vs w ih =>
    obtain ⟨name, a⟩ := w
    rw [← List.append_assoc, consistent_snoc] at hc
    obtain ⟨hvs, hlast⟩ := hc
    obtain ⟨env', hwrite, henv'⟩ := ih hvs
    -- What the name has is a write of before, so it is of the kind of this one.
    have hset : env'.set name a = .ok (env'.insert name a) := by
      apply set_of_kind
      intro b hb
      rw [henv' name] at hb
      exact hlast _ (mem_of_lastWritten hb) rfl
    refine ⟨env'.insert name a, ?_, ?_⟩
    · rw [write_snoc, hwrite]
      exact hset
    · rw [← List.append_assoc]
      exact henv'.insert

theorem write_of_consistent (hc : Consistent ws) :
    ∃ env, Env.write Dict.empty ws = .ok env ∧ env.Holds ws := by
  rw [← List.nil_append ws] at hc
  exact holds_empty.write hc

theorem write_of_unique (h : ∀ name a b, (name, a) ∈ ws → (name, b) ∈ ws → a = b) :
    ∃ env, Env.write Dict.empty ws = .ok env ∧
      ∀ name a, env.get? name = some a ↔ (name, a) ∈ ws := by
  have hc : Consistent ws := by
    rintro ⟨name, a⟩ ha ⟨name', b⟩ hb hname
    obtain rfl : name = name' := hname
    rw [h name a b ha hb]
  obtain ⟨env, hwrite, henv⟩ := write_of_consistent hc
  refine ⟨env, hwrite, fun name a => ?_⟩
  rw [henv name]
  constructor
  · exact mem_of_lastWritten
  · intro ha
    obtain ⟨b, hb⟩ := exists_lastWritten ha
    rw [h name a b ha (mem_of_lastWritten hb)]
    exact hb

theorem Holds.write_clash (h : env.Holds ws) (hc : Consistent (ws ++ before))
    (hb : lastWritten name (ws ++ before) = some b) (hk : b.kind ≠ a.kind) (vs : List Write) :
    env.write (before ++ (name, a) :: vs) = fail (.expected (.kind b.kind) a) := by
  obtain ⟨env', hwrite, henv'⟩ := h.write hc
  have hset := set_of_kind_ne ((henv' name).trans hb) hk
  rw [write_append, hwrite]
  change (env'.set name a).bind (·.write vs) = _
  rw [hset]
  rfl

theorem write_of_clash (hc : Consistent before) (hb : lastWritten name before = some b)
    (hk : b.kind ≠ a.kind) (vs : List Write) :
    Env.write Dict.empty (before ++ (name, a) :: vs) = fail (.expected (.kind b.kind) a) := by
  rw [← List.nil_append before] at hc hb
  exact holds_empty.write_clash hc hb hk vs

end Env

theorem exists_clash {ws : List Write} (h : ¬ Consistent ws) :
    ∃ before name a after b, ws = before ++ (name, a) :: after ∧ Consistent before ∧
      lastWritten name before = some b ∧ b.kind ≠ a.kind := by
  induction ws using List.reverseRecOn with
  | nil => exact absurd (fun v hv => nomatch hv) h
  | append_singleton ws w ih =>
    obtain ⟨name, a⟩ := w
    by_cases hws : Consistent ws
    · rw [consistent_snoc, not_and] at h
      obtain ⟨w, hw, rfl, hk⟩ : ∃ w ∈ ws, w.1 = name ∧ w.2.kind ≠ a.kind := by
        simpa using h hws
      obtain ⟨b, hb⟩ := exists_lastWritten hw
      refine ⟨ws, w.1, a, [], b, rfl, hws, hb, ?_⟩
      rwa [hws _ (mem_of_lastWritten hb) w hw rfl]
    · obtain ⟨before, m, c, after, b, rfl, hbefore, hb, hk⟩ := ih hws
      exact ⟨before, m, c, after ++ [(name, a)], b, by simp, hbefore, hb, hk⟩

theorem agree_allWrites {ws : List Write} {vars : List (String × Value)}
    (h : ∀ b ∈ vars, Agree ws (writes b.1 b.2)) : Agree ws (allWrites vars) := by
  intro v hv w hw hname
  obtain ⟨b, hb, hwb⟩ := List.mem_flatMap.1 hw
  exact h b hb v hv w hwb hname

theorem consistent_allWrites {vars : List (String × Value)}
    (hapart : vars.Pairwise fun b c => Agree (writes b.1 b.2) (writes c.1 c.2))
    (h : ∀ b ∈ vars, Consistent (writes b.1 b.2)) : Consistent (allWrites vars) := by
  induction vars with
  | nil => exact fun v hv => nomatch hv
  | cons b vars ih =>
    obtain ⟨hb, hvars⟩ := List.pairwise_cons.1 hapart
    rw [allWrites, List.flatMap_cons, consistent_append]
    refine ⟨h b List.mem_cons_self, ?_, agree_allWrites hb⟩
    exact ih hvars fun c hc => h c (List.mem_cons_of_mem b hc)

def Uncontested (name : String) (vars : List (String × Value)) : Prop :=
  ∀ b ∈ vars, ∀ c ∈ vars, ∀ x y, lastWritten name (writes b.1 b.2) = some x →
    lastWritten name (writes c.1 c.2) = some y → x = y

theorem exists_of_lastWritten_allWrites {name : String} {a : Operand} {vars : List (String × Value)}
    (h : lastWritten name (allWrites vars) = some a) :
    ∃ b ∈ vars, lastWritten name (writes b.1 b.2) = some a := by
  induction vars with
  | nil => cases h
  | cons b vars ih =>
    rw [allWrites, List.flatMap_cons, lastWritten_append, Option.or_eq_some_iff] at h
    rcases h with hlater | ⟨-, hb⟩
    · obtain ⟨c, hc, hlast⟩ := ih hlater
      exact ⟨c, List.mem_cons_of_mem b hc, hlast⟩
    · exact ⟨b, List.mem_cons_self, hb⟩

theorem lastWritten_allWrites {name : String} {a : Operand} {vars : List (String × Value)}
    (h : Uncontested name vars) :
    lastWritten name (allWrites vars) = some a ↔
      ∃ b ∈ vars, lastWritten name (writes b.1 b.2) = some a := by
  refine ⟨exists_of_lastWritten_allWrites, ?_⟩
  rintro ⟨b, hb, hlast⟩
  have hmem : (name, a) ∈ allWrites vars := List.mem_flatMap.2 ⟨b, hb, mem_of_lastWritten hlast⟩
  obtain ⟨x, hx⟩ := exists_lastWritten hmem
  obtain ⟨c, hc, hlater⟩ := exists_of_lastWritten_allWrites hx
  rw [h b hb c hc a x hlast hlater]
  exact hx

namespace Env

def fault? (b : String × Value) : Option Stop :=
  match Env.bind Dict.empty b.1 b.2 with
  | .error s => some s
  | .ok _ => none

variable {env : Env} {b : String × Value} {ws : List Write} {s : Stop}
  {vars : List (String × Value)}

theorem write_eq_ok_iff :
    (∃ env, Env.write Dict.empty ws = .ok env) ↔ Consistent ws := by
  constructor
  · rintro ⟨env, henv⟩
    by_contra hclash
    obtain ⟨before, name, a, after, c, rfl, hbefore, hlast, hk⟩ := exists_clash hclash
    rw [write_of_clash hbefore hlast hk after] at henv
    cases henv
  · intro hc
    obtain ⟨env, henv, -⟩ := write_of_consistent hc
    exact ⟨env, henv⟩

theorem fault?_eq_none_iff_bind :
    fault? b = none ↔ ∃ env, Env.bind Dict.empty b.1 b.2 = .ok env := by
  rw [fault?]
  cases Env.bind Dict.empty b.1 b.2 with
  | error s => simp
  | ok env => simp

theorem fault?_eq_none_iff : fault? b = none ↔ Consistent (writes b.1 b.2) := by
  rw [fault?_eq_none_iff_bind, bind_eq_write, write_eq_ok_iff]

theorem Holds.bind_of_fault (h : env.Holds ws) (hws : Consistent ws)
    (hagree : Agree ws (writes b.1 b.2)) (hf : fault? b = some s) :
    env.bind b.1 b.2 = .error s := by
  have hclash : ¬ Consistent (writes b.1 b.2) := by
    intro hc
    rw [fault?_eq_none_iff.2 hc] at hf
    cases hf
  -- The writes are cut at the first clash: those before it go through here as they do alone.
  obtain ⟨before, name, a, after, c, hsplit, hbefore, hlast, hk⟩ := exists_clash hclash
  have halone := write_of_clash hbefore hlast hk after
  rw [← hsplit, ← bind_eq_write] at halone
  rw [fault?, halone] at hf
  obtain rfl := Option.some.inj hf
  rw [hsplit, agree_append_right] at hagree
  have htogether : Consistent (ws ++ before) := consistent_append.2 ⟨hws, hbefore, hagree.1⟩
  have hwritten : lastWritten name (ws ++ before) = some c := by
    rw [lastWritten_append, hlast, Option.some_or]
  rw [bind_eq_write, hsplit]
  exact h.write_clash htogether hwritten hk after

theorem Holds.bindAll_of_fault (h : env.Holds ws) (hws : Consistent ws)
    (hagree : Agree ws (allWrites vars))
    (hapart : vars.Pairwise fun b c => Agree (writes b.1 b.2) (writes c.1 c.2))
    (hf : vars.findSome? fault? = some s) : env.bindAll vars = .error s := by
  induction vars generalizing env ws with
  | nil => cases hf
  | cons b vars ih =>
    obtain ⟨hb, hvars⟩ := List.pairwise_cons.1 hapart
    rw [allWrites, List.flatMap_cons, agree_append_right] at hagree
    change (env.bind b.1 b.2).bind (·.bindAll vars) = _
    rw [List.findSome?_cons] at hf
    cases hfault : fault? b with
    | some t =>
      rw [hfault] at hf
      rw [h.bind_of_fault hws hagree.1 hfault]
      exact congrArg Except.error (Option.some.inj hf)
    | none =>
      rw [hfault] at hf
      have htogether : Consistent (ws ++ writes b.1 b.2) :=
        consistent_append.2 ⟨hws, fault?_eq_none_iff.1 hfault, hagree.1⟩
      obtain ⟨env', hwrite, henv'⟩ := h.write htogether
      rw [bind_eq_write, hwrite]
      exact ih henv' htogether (agree_append_left.2 ⟨hagree.2, agree_allWrites hb⟩) hvars hf

theorem bindAll_of_fault
    (hapart : vars.Pairwise fun b c => Agree (writes b.1 b.2) (writes c.1 c.2))
    (hf : vars.findSome? fault? = some s) : bindAll Dict.empty vars = .error s := by
  apply holds_empty.bindAll_of_fault ?_ ?_ hapart hf
  · exact fun v hv => nomatch hv
  · exact fun v hv => nomatch hv

theorem bindAll_of_no_fault
    (hapart : vars.Pairwise fun b c => Agree (writes b.1 b.2) (writes c.1 c.2))
    (hf : ∀ b ∈ vars, fault? b = none) :
    ∃ env, bindAll Dict.empty vars = .ok env ∧ env.Holds (allWrites vars) := by
  have hc := consistent_allWrites hapart fun b hb => fault?_eq_none_iff.1 (hf b hb)
  rw [bindAll_eq_write]
  exact write_of_consistent hc

theorem bindAll_eq_ok_iff :
    (∃ env, bindAll Dict.empty vars = .ok env) ↔ Consistent (allWrites vars) := by
  rw [bindAll_eq_write, write_eq_ok_iff]

end Env
end FaultInjection.Expression
