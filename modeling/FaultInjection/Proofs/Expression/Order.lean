import FaultInjection.Proofs.Expression.Reads

namespace FaultInjection.Expression

section

variable {α β : Type} {f : α → Option β} {l l' : List α}

theorem findSome?_eq_some_iff_of_agree
    (h : ∀ a ∈ l, ∀ b ∈ l, ∀ x y, f a = some x → f b = some y → x = y) {x : β} :
    l.findSome? f = some x ↔ ∃ a ∈ l, f a = some x := by
  refine ⟨List.exists_of_findSome?_eq_some, ?_⟩
  rintro ⟨a, ha, hx⟩
  cases hfind : l.findSome? f with
  | none =>
    rw [List.findSome?_eq_none_iff.1 hfind a ha] at hx
    cases hx
  | some y =>
    obtain ⟨b, hb, hy⟩ := List.exists_of_findSome?_eq_some hfind
    rw [h a ha b hb x y hx hy]

theorem findSome?_perm (hp : l.Perm l')
    (h : ∀ a ∈ l, ∀ b ∈ l, ∀ x y, f a = some x → f b = some y → x = y) :
    l.findSome? f = l'.findSome? f := by
  have h' : ∀ a ∈ l', ∀ b ∈ l', ∀ x y, f a = some x → f b = some y → x = y :=
    fun a ha b hb => h a (hp.mem_iff.2 ha) b (hp.mem_iff.2 hb)
  apply Option.ext
  intro x
  rw [findSome?_eq_some_iff_of_agree h, findSome?_eq_some_iff_of_agree h']
  simp only [hp.mem_iff]

end

/-- No order of the bindings makes a difference to the expression. -/
structure Settled (e : Expression) (vars : List (String × Value)) : Prop where
  apart : vars.Pairwise fun b c => Agree (writes b.1 b.2) (writes c.1 c.2)
  read : ∀ name ∈ e.tree.reads, Uncontested name vars
  stopped : ∀ b ∈ vars, ∀ c ∈ vars, ∀ s t, Env.fault? b = some s → Env.fault? c = some t → s = t

section

variable {vars order : List (String × Value)} {b c : String × Value} {name : String}

theorem allWrites_perm (hp : order.Perm vars) : (allWrites order).Perm (allWrites vars) :=
  hp.flatMap_right _

theorem Consistent.perm {ws ws' : List Write} (hp : ws.Perm ws') (h : Consistent ws) :
    Consistent ws' :=
  fun v hv w hw => h v (hp.mem_iff.2 hv) w (hp.mem_iff.2 hw)

theorem bindAll_perm (hp : order.Perm vars) :
    (∃ env, Env.bindAll Dict.empty order = .ok env) ↔
      ∃ env, Env.bindAll Dict.empty vars = .ok env := by
  rw [Env.bindAll_eq_ok_iff, Env.bindAll_eq_ok_iff]
  exact ⟨.perm (allWrites_perm hp), .perm (allWrites_perm hp).symm⟩

theorem Uncontested.perm (hp : order.Perm vars) (h : Uncontested name vars) :
    Uncontested name order :=
  fun b hb c hc => h b (hp.mem_iff.1 hb) c (hp.mem_iff.1 hc)

theorem lastWritten_perm (hp : order.Perm vars) (h : Uncontested name vars) :
    lastWritten name (allWrites order) = lastWritten name (allWrites vars) := by
  apply Option.ext
  intro a
  rw [lastWritten_allWrites (h.perm hp), lastWritten_allWrites h]
  simp only [hp.mem_iff]

theorem Settled.executeIn_perm {e : Expression} (h : e.Settled vars) (hp : order.Perm vars) :
    e.executeIn order = e.executeIn vars := by
  apply executeIn_congr (hp.symm.pairwise h.apart Agree.symm) h.apart
  · exact (findSome?_perm hp.symm h.stopped).symm
  · intro name hname
    exact lastWritten_perm hp (h.read name hname)

theorem Separate.settled {vars : Bindings} (hs : Separate vars.entries)
    (hbound : ∀ b ∈ vars.entries, ∃ env, Env.bind Dict.empty b.1 b.2 = .ok env) (e : Expression) :
    e.Settled vars.entries where
  apart := hs.apart (.refl _)
  read name _ := hs.uncontested (.refl _) name
  stopped b hb c _ s t hstop _ := by
    rw [Env.fault?_eq_none_iff_bind.2 (hbound b hb)] at hstop
    cases hstop

theorem executeIn_arguments_perm {args : List Value}
    (hp : order.Perm (Bindings.ofArguments args).entries)
    (hbound : ∀ i v, args[i]? = some v →
      ∃ env, Env.bind Dict.empty (argumentName i) v = .ok env) (e : Expression) :
    e.executeIn order = e.execute (Bindings.ofArguments args) := by
  have halone : ∀ b ∈ (Bindings.ofArguments args).entries,
      ∃ env, Env.bind Dict.empty b.1 b.2 = .ok env := by
    intro b hb
    obtain ⟨i, v, hi, rfl⟩ := mem_ofArguments.1 hb
    exact hbound i v hi
  exact ((separate_arguments args).settled halone e).executeIn_perm hp

/-- In any order the same bindings can be made. If they are settled for an expression, it has the
same result, too. -/
theorem execute_of_perm {vars : Bindings} (hp : order.Perm vars.entries) :
    ((∃ env, Env.bindAll Dict.empty order = .ok env) ↔
        ∃ env, Env.bindAll Dict.empty vars.entries = .ok env) ∧
      ∀ e : Expression, e.Settled vars.entries → e.executeIn order = e.execute vars :=
  ⟨bindAll_perm hp, fun _ h => h.executeIn_perm hp⟩

end

open Bindings in
theorem execute_of_perm_unread :
    let user : Value := .map [("id", .int 1), ("tier", .str "gold")]
    let vars := (ofArguments [user]).insert "arg0.id" (.int 2)
    let e : Expression := ⟨"arg0.tier", .node .root [.leaf (.read "arg0.tier")]⟩
    compile "arg0.tier" = .ok e ∧ vars.entries.reverse.Perm vars.entries ∧
      e.Settled vars.entries ∧ e.executeIn vars.entries.reverse = e.execute vars := by
  have hfree : Env.fault? ("arg0", .map [("id", .int 1), ("tier", .str "gold")]) = none := by rfl
  intro user vars e
  have hcompile : compile "arg0.tier" = .ok e := compile_of_identifier (by decide) (by rfl)
  have hp : vars.entries.reverse.Perm vars.entries := List.reverse_perm _
  have hentries : vars.entries = [("arg0", user), ("arg0.id", .int 2)] := by
    simp only [vars, user]
    rfl
  have huser : writes "arg0" user = [("arg0.id", .int 1), ("arg0.tier", .str "gold"),
      ("arg0", .tuple [.str "id", .str "tier"])] := by rfl
  have hid : writes "arg0.id" (.int 2) = [("arg0.id", .int 2)] := by rfl
  have hapart : Agree (writes "arg0" user) (writes "arg0.id" (.int 2)) := by
    rw [huser, hid]
    intro v hv w hw hname
    obtain rfl := List.mem_singleton.1 hw
    simp only [List.mem_cons, List.not_mem_nil, or_false] at hv
    rcases hv with rfl | rfl | rfl
    · rfl
    · exact absurd hname (by decide)
    · exact absurd hname (by decide)
  have huncontested : Uncontested "arg0.tier" [("arg0", user), ("arg0.id", .int 2)] := by
    have hnone : lastWritten "arg0.tier" (writes "arg0.id" (.int 2)) = none := by rfl
    intro b hb c hc x y hx hy
    simp only [List.mem_cons, List.not_mem_nil, or_false] at hb hc
    rcases hb with rfl | rfl
    · rcases hc with rfl | rfl
      · exact Option.some.inj (hx.symm.trans hy)
      · cases hnone.symm.trans hy
    · cases hnone.symm.trans hx
  have hbound : ∀ b ∈ [("arg0", user), ("arg0.id", .int 2)], Env.fault? b = none := by
    intro b hb
    simp only [List.mem_cons, List.not_mem_nil, or_false] at hb
    rcases hb with rfl | rfl
    · exact hfree
    · rfl
  have hsettled : e.Settled vars.entries := by
    rw [hentries]
    refine ⟨List.pairwise_pair.2 hapart, ?_, ?_⟩
    · intro name hname
      obtain rfl : name = "arg0.tier" := List.mem_singleton.1 hname
      exact huncontested
    · intro b hb c _ s t hs _
      rw [hbound b hb] at hs
      cases hs
  exact ⟨hcompile, hp, hsettled, (execute_of_perm hp).2 e hsettled⟩

open Bindings in
theorem order_decides :
    ∃ e vars order, compile "arg0.x" = .ok e ∧
      vars = (ofArguments [.map [("x", .int 1)]]).insert "arg0.x" (.int 2) ∧
      order.Perm vars.entries ∧ e.execute vars = .ok (.int 2) ∧
      e.executeIn order = .ok (.int 1) := by
  have hentries : ((ofArguments [.map [("x", .int 1)]]).insert "arg0.x" (.int 2)).entries =
      [("arg0", .map [("x", .int 1)]), ("arg0.x", .int 2)] := by rfl
  refine ⟨⟨"arg0.x", .node .root [.leaf (.read "arg0.x")]⟩, _,
    [("arg0.x", .int 2), ("arg0", .map [("x", .int 1)])],
    compile_of_identifier (by decide) (by rfl), rfl, ?_, ?_, ?_⟩
  · rw [hentries]
    exact .swap _ _ _
  · rw [execute, hentries]
    rfl
  · rfl

end FaultInjection.Expression
