import FaultInjection.Proofs.Expression.Arguments
import FaultInjection.Proofs.Expression.Trim

namespace FaultInjection.Expression

variable {env env' : Env} {name : String}

namespace Operator

def reads : Operator → List String
  | .read name => [name]
  | _ => []

theorem apply_congr {o : Operator} (h : ∀ name ∈ o.reads, env.get? name = env'.get? name)
    (args : List Operand) : o.apply env args = o.apply env' args := by
  cases o with
  | read name =>
    simp only [apply, binary?, unary?, h name List.mem_cons_self]
  | _ => rfl

end Operator

namespace Tree

mutual

def reads : Tree → List String
  | .node o ts => o.reads ++ readsAll ts

def readsAll : List Tree → List String
  | [] => []
  | t :: ts => t.reads ++ readsAll ts

end

mutual

theorem eval_congr (t : Tree) (h : ∀ name ∈ t.reads, env.get? name = env'.get? name) :
    t.eval env = t.eval env' := by
  cases t with
  | node o ts =>
    rw [reads, List.forall_mem_append] at h
    rw [eval, eval, evalAll_congr ts h.2]
    congr 1
    funext args
    exact Operator.apply_congr h.1 args

theorem evalAll_congr (ts : List Tree)
    (h : ∀ name ∈ readsAll ts, env.get? name = env'.get? name) :
    evalAll env ts = evalAll env' ts := by
  cases ts with
  | nil => rfl
  | cons t ts =>
    rw [readsAll, List.forall_mem_append] at h
    rw [evalAll, evalAll, eval_congr t h.1, evalAll_congr ts h.2]

end

end Tree

theorem executeIn_congr {e : Expression} {vs ws : List (String × Value)}
    (hv : vs.Pairwise fun b c => Agree (writes b.1 b.2) (writes c.1 c.2))
    (hw : ws.Pairwise fun b c => Agree (writes b.1 b.2) (writes c.1 c.2))
    (hf : vs.findSome? Env.fault? = ws.findSome? Env.fault?)
    (hread : ∀ name ∈ e.tree.reads,
      lastWritten name (allWrites vs) = lastWritten name (allWrites ws)) :
    e.executeIn vs = e.executeIn ws := by
  rw [executeIn_eq, executeIn_eq]
  cases h : vs.findSome? Env.fault? with
  | some s => rw [Env.bindAll_of_fault hv h, Env.bindAll_of_fault hw (hf ▸ h)]
  | none =>
    obtain ⟨env, hbind, henv⟩ := Env.bindAll_of_no_fault hv (List.findSome?_eq_none_iff.1 h)
    obtain ⟨env', hbind', henv'⟩ :=
      Env.bindAll_of_no_fault hw (List.findSome?_eq_none_iff.1 (hf ▸ h))
    have heval : e.tree.eval env = e.tree.eval env' := by
      apply Tree.eval_congr
      intro name hname
      rw [henv name, henv' name, hread name hname]
    rw [hbind, hbind']
    exact congrArg (Except.map Operand.toValue) heval

namespace Tree

def Mentions (t : Tree) (i : Nat) : Prop :=
  ∃ name ∈ t.reads, name = argumentName i ∨ ∃ rest, name = argumentName i ++ "." ++ rest

end Tree

section

open Bindings

variable {args as bs : List Value} {order vs ws : List (String × Value)}
  {b c : String × Value} {a : Operand} {i : Nat} {v : Value}

theorem dotted_cons_eq (name key : String) (path : List String) :
    ∃ rest, dotted name (key :: path) = name ++ "." ++ rest := by
  refine ⟨key ++ String.ofList (dottedKeys path), String.toList_inj.1 ?_⟩
  rw [toList_dotted]
  simp [dottedKeys]

theorem mentions_of_writes {t : Tree} (hname : name ∈ t.reads)
    (hw : (name, a) ∈ writes (argumentName i) v) : t.Mentions i := by
  obtain ⟨path, hpath⟩ := exists_path_of_mem_writes hw
  refine ⟨name, hname, ?_⟩
  cases path with
  | nil => exact .inl hpath
  | cons key path =>
    obtain ⟨rest, hrest⟩ := dotted_cons_eq (argumentName i) key path
    exact .inr ⟨rest, hpath.trans hrest⟩

def Separate (vars : List (String × Value)) : Prop :=
  ∀ b ∈ vars, ∀ c ∈ vars, ∀ rest, c.1 ≠ b.1 ++ "." ++ rest

section

variable {vars : Bindings}

theorem Separate.eq_of_writes (hs : Separate vars.entries) (hp : order.Perm vars.entries)
    (hb : b ∈ order) (hc : c ∈ order) {x y : Operand} (hx : (name, x) ∈ writes b.1 b.2)
    (hy : (name, y) ∈ writes c.1 c.2) : b = c := by
  have hb' := hp.mem_iff.1 hb
  have hc' := hp.mem_iff.1 hc
  obtain ⟨path, hpath⟩ := exists_path_of_mem_writes hx
  obtain ⟨path', hpath'⟩ := exists_path_of_mem_writes hy
  rcases nested_of_dotted (hpath.symm.trans hpath') with hname | ⟨rest, hrest⟩ | ⟨rest, hrest⟩
  · obtain ⟨n, v⟩ := b
    obtain ⟨m, w⟩ := c
    obtain rfl : n = m := hname
    rw [Entries.value_unique vars.sorted hb' hc']
  · exact absurd hrest (hs b hb' c hc' rest)
  · exact absurd hrest (hs c hc' b hb' rest)

theorem Separate.apart (hs : Separate vars.entries) (hp : order.Perm vars.entries) :
    order.Pairwise fun b c => Agree (writes b.1 b.2) (writes c.1 c.2) := by
  have hnames : order.Pairwise fun b c => b.1 ≠ c.1 := by
    apply hp.symm.pairwise (vars.sorted.imp ?_) fun h => h.symm
    rintro b c hlt heq
    exact String.lt_irrefl c.1 (heq ▸ hlt)
  apply hnames.imp_of_mem
  rintro b c hb hc hne ⟨m, x⟩ hx ⟨n, y⟩ hy hname
  obtain rfl : m = n := hname
  exact absurd (congrArg Prod.fst (hs.eq_of_writes hp hb hc hx hy)) hne

theorem Separate.uncontested (hs : Separate vars.entries) (hp : order.Perm vars.entries)
    (name : String) : Uncontested name order := by
  intro b hb c hc x y hx hy
  obtain rfl := hs.eq_of_writes hp hb hc (mem_of_lastWritten hx) (mem_of_lastWritten hy)
  exact Option.some.inj (hx.symm.trans hy)

end

theorem separate_arguments (args : List Value) : Separate (ofArguments args).entries := by
  intro b _ c hc rest hrest
  obtain ⟨i, v, -, rfl⟩ := mem_ofArguments.1 hc
  apply dot_notin_argumentName i
  rw [show argumentName i = b.1 ++ "." ++ rest from hrest]
  simp

theorem lastWritten_arguments (hp : order.Perm (ofArguments args).entries) :
    lastWritten name (allWrites order) = some a ↔
      ∃ i v, args[i]? = some v ∧ lastWritten name (writes (argumentName i) v) = some a := by
  rw [lastWritten_allWrites ((separate_arguments args).uncontested hp name)]
  constructor
  · rintro ⟨b, hb, hlast⟩
    obtain ⟨i, v, hi, rfl⟩ := mem_ofArguments.1 (hp.mem_iff.1 hb)
    exact ⟨i, v, hi, hlast⟩
  · rintro ⟨i, v, hi, hlast⟩
    exact ⟨_, hp.mem_iff.2 (mem_ofArguments.2 ⟨i, v, hi, rfl⟩), hlast⟩

theorem lastWritten_of_agree {t : Tree} (hv : vs.Perm (ofArguments as).entries)
    (hw : ws.Perm (ofArguments bs).entries) (hagree : ∀ i, t.Mentions i → as[i]? = bs[i]?)
    (hname : name ∈ t.reads) (h : lastWritten name (allWrites vs) = some a) :
    lastWritten name (allWrites ws) = some a := by
  obtain ⟨i, v, hi, hlast⟩ := (lastWritten_arguments hv).1 h
  have hi' := hagree i (mentions_of_writes hname (mem_of_lastWritten hlast))
  exact (lastWritten_arguments hw).2 ⟨i, v, hi' ▸ hi, hlast⟩

theorem lastWritten_eq_of_agree {t : Tree} (hv : vs.Perm (ofArguments as).entries)
    (hw : ws.Perm (ofArguments bs).entries) (hagree : ∀ i, t.Mentions i → as[i]? = bs[i]?)
    (hname : name ∈ t.reads) :
    lastWritten name (allWrites vs) = lastWritten name (allWrites ws) := by
  apply Option.ext
  intro a
  constructor
  · exact lastWritten_of_agree hv hw hagree hname
  · exact lastWritten_of_agree hw hv (fun i hi => (hagree i hi).symm) hname

theorem findSome?_eq_of_names {β : Type} {f : String × Value → Option β}
    (hnames : vs.map (·.1) = ws.map (·.1))
    (hf : ∀ n v w, (n, v) ∈ vs → (n, w) ∈ ws → f (n, v) = f (n, w)) :
    vs.findSome? f = ws.findSome? f := by
  induction vs generalizing ws with
  | nil => rw [List.map_eq_nil_iff.1 hnames.symm]
  | cons b vs ih =>
    cases ws with
    | nil => cases hnames
    | cons c ws =>
      obtain ⟨n, v⟩ := b
      obtain ⟨m, w⟩ := c
      obtain ⟨hname, hrest⟩ := List.cons.inj hnames
      obtain rfl : n = m := hname
      rw [List.findSome?_cons, List.findSome?_cons, hf n v w List.mem_cons_self List.mem_cons_self,
        ih hrest fun k x y hx hy =>
          hf k x y (List.mem_cons_of_mem _ hx) (List.mem_cons_of_mem _ hy)]

theorem mem_keys_ofArguments {name : String} :
    name ∈ (ofArguments args).keys ↔ ∃ i < args.length, name = argumentName i := by
  rw [Dict.keys, List.mem_map]
  constructor
  · rintro ⟨b, hb, rfl⟩
    obtain ⟨i, v, hi, rfl⟩ := mem_ofArguments.1 hb
    obtain ⟨hlt, -⟩ := List.getElem?_eq_some_iff.1 hi
    exact ⟨i, hlt, rfl⟩
  · rintro ⟨i, hlt, rfl⟩
    exact ⟨_, mem_ofArguments.2 ⟨i, args[i], List.getElem?_eq_getElem hlt, rfl⟩, rfl⟩

theorem keys_ofArguments (hl : as.length = bs.length) :
    (ofArguments as).keys = (ofArguments bs).keys := by
  have hperm : (ofArguments as).keys.Perm (ofArguments bs).keys := by
    rw [List.perm_ext_iff_of_nodup (ofArguments as).keys_nodup (ofArguments bs).keys_nodup]
    intro name
    rw [mem_keys_ofArguments, mem_keys_ofArguments, hl]
  apply hperm.eq_of_pairwise ?_ (ofArguments as).keys_sorted (ofArguments bs).keys_sorted
  intro x y _ _ hxy hyx
  exact absurd (String.lt_trans hxy hyx) (String.lt_irrefl x)

theorem fault?_eq_of_agree {t : Tree} (hagree : ∀ i, t.Mentions i → as[i]? = bs[i]?)
    (hbound : ∀ i, ¬ t.Mentions i → ∀ v, as[i]? = some v ∨ bs[i]? = some v →
      ∃ env, Env.bind Dict.empty (argumentName i) v = .ok env)
    (hv : vs.Perm (ofArguments as).entries) (hw : ws.Perm (ofArguments bs).entries) :
    ∀ n v w, (n, v) ∈ vs → (n, w) ∈ ws → Env.fault? (n, v) = Env.fault? (n, w) := by
  intro n v w hvmem hwmem
  obtain ⟨i, x, hi, hx⟩ := mem_ofArguments.1 (hv.mem_iff.1 hvmem)
  obtain ⟨j, y, hj, hy⟩ := mem_ofArguments.1 (hw.mem_iff.1 hwmem)
  obtain ⟨rfl, rfl⟩ := Prod.mk.inj hx
  obtain ⟨hname, rfl⟩ := Prod.mk.inj hy
  obtain rfl := argumentName_inj hname
  by_cases hm : t.Mentions i
  · have hvalue := hagree i hm
    rw [hi, hj] at hvalue
    rw [Option.some.inj hvalue]
  · have hvfree : Env.fault? (argumentName i, v) = none :=
      Env.fault?_eq_none_iff_bind.2 (hbound i hm v (.inl hi))
    have hwfree : Env.fault? (argumentName i, w) = none :=
      Env.fault?_eq_none_iff_bind.2 (hbound i hm w (.inr hj))
    rw [hvfree, hwfree]

theorem exists_of_length_eq (hl : as.length = bs.length) (hv : vs.Perm (ofArguments as).entries)
    (hw : ws.Perm (ofArguments bs).entries) (hc : c ∈ ws) : ∃ v, (c.1, v) ∈ vs := by
  obtain ⟨i, w, hi, rfl⟩ := mem_ofArguments.1 (hw.mem_iff.1 hc)
  obtain ⟨hlt, -⟩ := List.getElem?_eq_some_iff.1 hi
  rw [← hl] at hlt
  have has : as[i]? = some as[i] := List.getElem?_eq_getElem hlt
  exact ⟨as[i], hv.mem_iff.2 (mem_ofArguments.2 ⟨i, as[i], has, rfl⟩)⟩

/-- The result is that of the arguments that the expression mentions, as long as the others can be
bound. Both lists are visited in the same order, or in any two if nothing stops them. -/
theorem execute_of_agree {e : Expression} (hl : as.length = bs.length)
    (hagree : ∀ i, e.tree.Mentions i → as[i]? = bs[i]?)
    (hbound : ∀ i, ¬ e.tree.Mentions i → ∀ v, as[i]? = some v ∨ bs[i]? = some v →
      ∃ env, Env.bind Dict.empty (argumentName i) v = .ok env) :
    e.execute (ofArguments as) = e.execute (ofArguments bs) ∧
      ∀ vs ws, vs.Perm (ofArguments as).entries → ws.Perm (ofArguments bs).entries →
        (vs.map (·.1) = ws.map (·.1) ∨
          ∀ b ∈ vs, ∃ env, Env.bind Dict.empty b.1 b.2 = .ok env) →
        e.executeIn vs = e.executeIn ws := by
  have hsame : ∀ vs ws, vs.Perm (ofArguments as).entries → ws.Perm (ofArguments bs).entries →
      (vs.map (·.1) = ws.map (·.1) ∨
        ∀ b ∈ vs, ∃ env, Env.bind Dict.empty b.1 b.2 = .ok env) →
      e.executeIn vs = e.executeIn ws := by
    intro vs ws hv hw horder
    have hfault := fault?_eq_of_agree hagree hbound hv hw
    have hstop : vs.findSome? Env.fault? = ws.findSome? Env.fault? := by
      rcases horder with hnames | hfree
      · exact findSome?_eq_of_names hnames hfault
      · have hvfree : ∀ b ∈ vs, Env.fault? b = none := fun b hb =>
          Env.fault?_eq_none_iff_bind.2 (hfree b hb)
        have hwfree : ∀ c ∈ ws, Env.fault? c = none := by
          intro c hc
          obtain ⟨v, hmem⟩ := exists_of_length_eq hl hv hw hc
          rw [← hvfree _ hmem, hfault c.1 v c.2 hmem hc]
        rw [List.findSome?_eq_none_iff.2 hvfree, List.findSome?_eq_none_iff.2 hwfree]
    apply executeIn_congr ((separate_arguments as).apart hv) ((separate_arguments bs).apart hw)
      hstop
    intro name hname
    exact lastWritten_eq_of_agree hv hw hagree hname
  refine ⟨hsame _ _ (.refl _) (.refl _) (.inl ?_), hsame⟩
  exact keys_ofArguments hl

end

theorem compile_of_identifier {s : String} (hl : Text.byteSize s.toList ≤ maxLength)
    (h : tokens s = .ok [.identifier name]) :
    compile s = .ok ⟨s, .node .root [.leaf (.read name)]⟩ := by
  apply compile_eq_ok hl
  · rw [parse_eq_bind, h]
    rfl
  · simp [Tree.depth, Tree.deepest, Tree.oneDeeper, Tree.leaf, maxDepth]

theorem Tree.index_of_mentions {i j : Nat}
    (hname : name.toList.takeWhile (· ≠ '.') = (argumentName j).toList)
    (h : Mentions (.node .root [.leaf (.read name)]) i) : i = j := by
  obtain ⟨m, hm, hi⟩ := h
  obtain rfl : m = name := List.mem_singleton.1 hm
  apply argumentName_inj
  rw [← String.toList_inj, ← hname]
  rcases hi with rfl | ⟨rest, rfl⟩
  · exact (takeWhile_dotted i []).symm
  · exact (takeWhile_dotted i [rest]).symm

open Bindings in
theorem execute_of_agree_overlapping :
    let twice : Value := .map [("a", .map [("b", .int 1)]), ("a.b", .int 2)]
    let user : Value := .map [("tier", .str "gold")]
    let e : Expression := ⟨"arg1.tier", .node .root [.leaf (.read "arg1.tier")]⟩
    compile "arg1.tier" = .ok e ∧
      (∀ i, e.tree.Mentions i → [twice, user][i]? = [.null, user][i]?) ∧
      (∀ i, ¬ e.tree.Mentions i → ∀ v, [twice, user][i]? = some v ∨ [.null, user][i]? = some v →
        ∃ env, Env.bind Dict.empty (argumentName i) v = .ok env) ∧
      e.execute (ofArguments [twice, user]) = e.execute (ofArguments [.null, user]) := by
  intro twice user e
  have hcompile : compile "arg1.tier" = .ok e := compile_of_identifier (by decide) (by rfl)
  have hagree : ∀ i, e.tree.Mentions i → [twice, user][i]? = [.null, user][i]? := by
    intro i hi
    obtain rfl : i = 1 := Tree.index_of_mentions (by decide) hi
    rfl
  have hmentions : e.tree.Mentions 1 :=
    ⟨"arg1.tier", List.mem_singleton_self _, .inr ⟨"tier", by decide⟩⟩
  have hbound : ∀ i, ¬ e.tree.Mentions i → ∀ v,
      [twice, user][i]? = some v ∨ [.null, user][i]? = some v →
      ∃ env, Env.bind Dict.empty (argumentName i) v = .ok env := by
    intro i hi v hv
    rcases i with - | - | i
    · rcases hv with hv | hv
      · cases hv
        exact ⟨_, rfl⟩
      · cases hv
        exact ⟨_, rfl⟩
    · exact absurd hmentions hi
    · rcases hv with hv | hv
      · cases hv
      · cases hv
  have hl : [twice, user].length = [.null, user].length := rfl
  exact ⟨hcompile, hagree, hbound, (execute_of_agree hl hagree hbound).1⟩

open Bindings in
theorem unmentioned_argument_stops :
    ∃ e, compile "arg0" = .ok e ∧ ¬ e.tree.Mentions 1 ∧
      e.execute (ofArguments [.int 5, .null]) = .ok (.int 5) ∧
      e.execute (ofArguments [.int 5, .map [("a", .map [("b", .int 1)]), ("a.b", .str "x")]]) =
        fail (.expected (.kind .int) (.str "x")) := by
  refine ⟨_, compile_of_identifier (by decide) (by rfl), ?_, by rfl, by rfl⟩
  intro h
  exact absurd (Tree.index_of_mentions (by decide) h) (by decide : 1 ≠ 0)

end FaultInjection.Expression
