import FaultInjection.Action
import Mathlib.Data.Finset.Card

namespace FaultInjection.ActionTable

variable {σ : Type}

structure Assignment (σ : Type) where
  target? : Option String
  action : String
  executor : Executor σ

def assign (t : ActionTable σ) (a : Assignment σ) : ActionTable σ :=
  match a.target? with
  | none => t.withAction a.action a.executor
  | some target => t.withTargetAction target a.action a.executor

def assignAll (t : ActionTable σ) (as : List (Assignment σ)) : ActionTable σ :=
  as.foldl assign t

def Assignment.isGeneral (a : Assignment σ) : Bool :=
  a.target?.isNone

def lastAssigned? (target? : Option String) (action : String) (as : List (Assignment σ)) :
    Option (Executor σ) :=
  (as.reverse.find? fun a => a.target? = target? ∧ a.action = action).map (·.executor)

section

variable {as : List (Assignment σ)} {target? : Option String} {action : String}

@[simp] theorem lastAssigned?_snoc {a : Assignment σ} : lastAssigned? target? action (as ++ [a]) =
    if a.target? = target? ∧ a.action = action then some a.executor
    else lastAssigned? target? action as := by
  by_cases h : a.target? = target? ∧ a.action = action <;> simp [lastAssigned?, h]

theorem isSome_lastAssigned? : (lastAssigned? target? action as).isSome = true ↔
    ∃ a ∈ as, a.target? = target? ∧ a.action = action := by
  simp [lastAssigned?]

end

variable {t : ActionTable σ} {as : List (Assignment σ)}

@[simp] theorem forTarget_withTargetAction (t : ActionTable σ) (target action : String)
    (x : Executor σ) (target' : String) : (t.withTargetAction target action x).forTarget target' =
      if target' = target then (t.forTarget target).insert action x else t.forTarget target' := by
  unfold withTargetAction forTarget
  by_cases h : target' = target
  · subst h
    simp
  · simp only [if_neg h]
    grind

structure Reflects (t : ActionTable σ) (as : List (Assignment σ)) : Prop where
  general : ∀ action, t.anyTarget.get? action = lastAssigned? none action as
  special : ∀ target action,
    (t.forTarget target).get? action = lastAssigned? (some target) action as

theorem reflects_empty : (empty : ActionTable σ).Reflects [] :=
  ⟨fun _ => rfl, fun _ _ => rfl⟩

theorem Reflects.assign (h : t.Reflects as) (a : Assignment σ) :
    (t.assign a).Reflects (as ++ [a]) := by
  obtain ⟨target?, name, x⟩ := a
  cases target? with
  | none =>
    constructor
    · intro action
      have hold := h.general action
      change (t.anyTarget.insert name x).get? action = _
      rw [lastAssigned?_snoc]
      grind
    · intro target action
      rw [lastAssigned?_snoc, if_neg (by simp)]
      exact h.special target action
  | some place =>
    constructor
    · intro action
      rw [lastAssigned?_snoc, if_neg (by simp)]
      exact h.general action
    · intro target action
      have hold := h.special target action
      change ((t.withTargetAction place name x).forTarget target).get? action = _
      rw [lastAssigned?_snoc, forTarget_withTargetAction]
      grind

theorem Reflects.assignAll (h : t.Reflects as) (bs : List (Assignment σ)) :
    (t.assignAll bs).Reflects (as ++ bs) := by
  induction bs generalizing t as with
  | nil =>
    rw [List.append_nil]
    exact h
  | cons b bs ih =>
    rw [List.append_cons]
    exact ih (h.assign b)

theorem Reflects.resolve? (h : t.Reflects as) (target action : String) :
    t.resolve? target action =
      (lastAssigned? (some target) action as).or (lastAssigned? none action as) := by
  unfold ActionTable.resolve?
  rw [h.special, h.general]
  cases lastAssigned? (some target) action as <;> rfl

@[simp] theorem assignAll_append (as bs : List (Assignment σ)) :
    t.assignAll (as ++ bs) = (t.assignAll as).assignAll bs :=
  List.foldl_append

theorem assign_assignAll {a : Assignment σ} (ha : a.isGeneral = false)
    (h : ∀ b ∈ as, b.isGeneral = true) :
    (t.assign a).assignAll as = (t.assignAll as).assign a := by
  induction as generalizing t with
  | nil => rfl
  | cons b bs ih =>
    obtain ⟨hb, hbs⟩ := List.forall_mem_cons.1 h
    have hcomm : (t.assign a).assign b = (t.assign b).assign a := by
      obtain ⟨target?, name, x⟩ := a
      obtain ⟨target?', name', x'⟩ := b
      cases target? with
      | none => cases ha
      | some _ =>
        cases target?' with
        | none => rfl
        | some _ => cases hb
    change ((t.assign a).assign b).assignAll bs = _
    rw [hcomm]
    exact ih hbs

theorem assignAll_eq (t : ActionTable σ) (as : List (Assignment σ)) :
    t.assignAll as = t.assignAll (as.filter (·.isGeneral) ++ as.filter (!·.isGeneral)) := by
  induction as generalizing t with
  | nil => rfl
  | cons a as ih =>
    change (t.assign a).assignAll as = _
    rw [ih]
    by_cases ha : a.isGeneral = true
    · simp only [List.filter_cons, ha]
      rfl
    · rw [Bool.not_eq_true] at ha
      have hgeneral : ∀ b ∈ as.filter (·.isGeneral), b.isGeneral = true := fun b hb =>
        (List.mem_filter.1 hb).2
      rw [assignAll_append, assign_assignAll ha hgeneral]
      simp only [List.filter_cons, ha, assignAll_append]
      rfl

def pairs (t : ActionTable σ) : List (String × String) :=
  t.perTarget.entries.flatMap fun g => g.2.keys.map fun action => (g.1, action)

theorem size_eq (t : ActionTable σ) : t.size = t.anyTarget.keys.length + t.pairs.length := by
  suffices ∀ groups : List (String × Dict (Executor σ)), ∀ n,
      groups.foldl (fun n g => n + g.2.size) n =
        n + (groups.flatMap fun g => g.2.keys.map fun action => (g.1, action)).length by
    rw [size, this, pairs, Dict.keys, List.length_map]
    rfl
  intro groups
  induction groups with
  | nil => exact fun _ => rfl
  | cons g groups ih =>
    intro n
    rw [List.foldl_cons, ih]
    simp [Dict.keys, Dict.size]
    omega

theorem mem_pairs (target action : String) :
    (target, action) ∈ t.pairs ↔ ((t.forTarget target).get? action).isSome = true := by
  have hgroup (d : Dict (Executor σ)) :
      (target, d) ∈ t.perTarget.entries ↔ t.perTarget.get? target = some d :=
    (Entries.get?_eq_some_iff t.perTarget.sorted).symm
  rw [← Dict.mem_keys_iff, pairs, List.mem_flatMap, forTarget]
  constructor
  · rintro ⟨⟨place, d⟩, hd, hmem⟩
    obtain ⟨name, hname, heq⟩ := List.mem_map.1 hmem
    cases heq
    rw [(hgroup d).1 hd]
    exact hname
  · intro h
    cases hd : t.perTarget.get? target with
    | none =>
      rw [hd] at h
      cases h
    | some d =>
      rw [hd] at h
      exact ⟨(target, d), (hgroup d).2 hd, List.mem_map_of_mem h⟩

theorem nodup_pairs (t : ActionTable σ) : t.pairs.Nodup := by
  apply List.nodup_flatMap.2
  constructor
  · intro g _
    exact g.2.keys_nodup.map fun _ _ he => (Prod.mk.inj he).2
  · apply t.perTarget.sorted.imp
    intro g g' hlt p hp hp'
    obtain ⟨_, -, rfl⟩ := List.mem_map.1 hp
    obtain ⟨_, -, heq⟩ := List.mem_map.1 hp'
    rw [(Prod.mk.inj heq).1] at hlt
    exact String.lt_irrefl _ hlt

theorem mem_actions (name : String) :
    name ∈ t.actions ↔ name ∈ t.anyTarget.keys ∨ ∃ target, (target, name) ∈ t.pairs := by
  unfold actions pairs
  rw [Dict.mem_keys_ofList]
  simp only [List.map_map, List.mem_map, Function.comp_apply, List.mem_append, List.mem_flatMap]
  grind

theorem Reflects.mem_keys (h : t.Reflects as) (action : String) :
    action ∈ t.anyTarget.keys ↔ ∃ a ∈ as, a.target? = none ∧ a.action = action := by
  rw [Dict.mem_keys_iff, h.general, isSome_lastAssigned?]

theorem Reflects.mem_pairs (h : t.Reflects as) (target action : String) :
    (target, action) ∈ t.pairs ↔ ∃ a ∈ as, a.target? = some target ∧ a.action = action := by
  rw [ActionTable.mem_pairs, h.special, isSome_lastAssigned?]

def Assignment.name? (a : Assignment σ) : Option String :=
  if a.isGeneral then some a.action else none

def Assignment.pair? (a : Assignment σ) : Option (String × String) :=
  a.target?.map (·, a.action)

theorem Reflects.size (h : t.Reflects as) : t.size =
    (as.filterMap (·.name?)).toFinset.card + (as.filterMap (·.pair?)).toFinset.card := by
  have hnames : (as.filterMap (·.name?)).toFinset = t.anyTarget.keys.toFinset := by
    ext action
    rw [List.mem_toFinset, List.mem_toFinset, h.mem_keys]
    simp [Assignment.name?, Assignment.isGeneral]
  have hpairs : (as.filterMap (·.pair?)).toFinset = t.pairs.toFinset := by
    ext ⟨target, action⟩
    rw [List.mem_toFinset, List.mem_toFinset, h.mem_pairs]
    simp [Assignment.pair?]
  rw [hnames, hpairs, List.toFinset_card_of_nodup t.anyTarget.keys_nodup,
    List.toFinset_card_of_nodup t.nodup_pairs, size_eq]

/-- A table finds what was assigned last on the target asked for, and else what was assigned last
on every target, however the two kinds of assignments stand among each other. It counts the names
of the one kind and the pairs of the other once each, and lists all names of actions in order. -/
theorem resolves_latest (as : List (Assignment σ)) :
    let t := (empty : ActionTable σ).assignAll as
    (∀ target action, t.resolve? target action =
        (lastAssigned? (some target) action as).or (lastAssigned? none action as)) ∧
      t = empty.assignAll (as.filter (·.isGeneral) ++ as.filter (!·.isGeneral)) ∧
      t.size = (as.filterMap (·.name?)).toFinset.card + (as.filterMap (·.pair?)).toFinset.card ∧
      t.actions.Pairwise (· < ·) ∧
      ∀ name, name ∈ t.actions ↔ ∃ a ∈ as, a.action = name := by
  intro t
  have h : t.Reflects as := reflects_empty.assignAll as
  refine ⟨h.resolve?, assignAll_eq empty as, h.size, Dict.keys_sorted _, fun name => ?_⟩
  rw [mem_actions, h.mem_keys]
  simp only [h.mem_pairs]
  constructor
  · rintro (⟨a, ha, -, rfl⟩ | ⟨_, a, ha, -, rfl⟩)
    · exact ⟨a, ha, rfl⟩
    · exact ⟨a, ha, rfl⟩
  · rintro ⟨a, ha, rfl⟩
    cases htarget : a.target? with
    | none => exact .inl ⟨a, ha, htarget, rfl⟩
    | some target => exact .inr ⟨target, a, ha, htarget, rfl⟩

end FaultInjection.ActionTable
