import FaultInjection.Proofs.Expression.Writes
import FaultInjection.Proofs.Value.Parts

namespace FaultInjection

namespace Value

def at? : Value → List String → Option Value
  | v, [] => some v
  | v, key :: path => (v.get? key).bind (·.at? path)

def Ordered (v : Value) : Prop :=
  ∀ path entries, v.at? path = some (.map entries) → Entries.Sorted entries

def Dotless (v : Value) : Prop :=
  ∀ path w, v.at? path = some w → ∀ key ∈ path, '.' ∉ key.toList

variable {v w : Value} {key : String} {path : List String} {es : List (String × Value)}

theorem byEntries {P : Value → Prop} (map : ∀ es, (∀ e ∈ es, P e.2) → P (.map es))
    (other : ∀ v, v.isMap = false → P v) : ∀ v, P v := by
  intro v
  induction v using byParts with
  | map es ih => exact map es ih
  | null | bool _ | int _ | float _ | str _ | list _ _ | foreign _ => exact other _ rfl

theorem get?_of_not_map (h : v.isMap = false) : v.get? key = none := by
  cases v with
  | map es => cases h
  | null | bool _ | int _ | float _ | str _ | list _ | foreign _ => rfl

theorem at?_of_not_map (h : v.isMap = false) : v.at? path = some w ↔ path = [] ∧ v = w := by
  cases path with
  | nil => simp [at?]
  | cons key path => simp [at?, get?_of_not_map h]

theorem Ordered.sorted (h : (Value.map es).Ordered) : Entries.Sorted es :=
  h [] es rfl

theorem Ordered.get? (h : v.Ordered) (hw : v.get? key = some w) : w.Ordered := by
  intro path entries hpath
  apply h (key :: path)
  rw [at?, hw]
  exact hpath

theorem get?_map_eq_some_iff (h : Entries.Sorted es) :
    (Value.map es).get? key = some w ↔ (key, w) ∈ es :=
  Entries.get?_eq_some_iff h

theorem Ordered.of_mem (h : (Value.map es).Ordered) {e : String × Value} (he : e ∈ es) :
    e.2.Ordered :=
  h.get? ((get?_map_eq_some_iff h.sorted).2 he)

theorem ordered_of_not_map (h : v.isMap = false) : v.Ordered := by
  intro path entries hpath
  obtain ⟨-, rfl⟩ := (at?_of_not_map h).1 hpath
  cases h

theorem ordered_map (hs : Entries.Sorted es) (h : ∀ e ∈ es, e.2.Ordered) :
    (Value.map es).Ordered := by
  intro path entries hpath
  cases path with
  | nil =>
    cases hpath
    exact hs
  | cons key path =>
    obtain ⟨w, hw, hrest⟩ := Option.bind_eq_some_iff.1 hpath
    exact h _ ((get?_map_eq_some_iff hs).1 hw) path entries hrest

theorem dotless_of_not_map (h : v.isMap = false) : v.Dotless := by
  intro path w hpath
  obtain ⟨rfl, -⟩ := (at?_of_not_map h).1 hpath
  exact nofun

theorem dotless_map (hs : Entries.Sorted es) (hk : ∀ e ∈ es, '.' ∉ e.1.toList)
    (h : ∀ e ∈ es, e.2.Dotless) : (Value.map es).Dotless := by
  intro path w hpath
  cases path with
  | nil => exact nofun
  | cons key path =>
    obtain ⟨x, hx, hrest⟩ := Option.bind_eq_some_iff.1 hpath
    have he := (get?_map_eq_some_iff hs).1 hx
    exact List.forall_mem_cons.2 ⟨hk _ he, h _ he path w hrest⟩

end Value

namespace Expression

open Bindings

def dotted (name : String) : List String → String
  | [] => name
  | key :: path => dotted (name ++ "." ++ key) path

def argumentName (i : Nat) : String :=
  "arg" ++ toString i

section

variable {name name' : String} {path path' : List String} {i j : Nat}

def dottedKeys (path : List String) : List Char :=
  path.flatMap fun key => '.' :: key.toList

theorem toList_dotted : (dotted name path).toList = name.toList ++ dottedKeys path := by
  induction path generalizing name with
  | nil => exact (List.append_nil _).symm
  | cons key path ih =>
    rw [dotted, ih, dottedKeys, dottedKeys, List.flatMap_cons]
    simp

theorem takeWhile_dottedKeys (path : List String) : (dottedKeys path).takeWhile (· ≠ '.') = [] := by
  cases path with
  | nil => rfl
  | cons key path => simp [dottedKeys]

theorem takeWhile_append_dottedKeys {cs : List Char} (h : '.' ∉ cs) :
    (cs ++ dottedKeys path).takeWhile (· ≠ '.') = cs := by
  rw [List.takeWhile_append_of_pos, takeWhile_dottedKeys, List.append_nil]
  intro c hc
  have hne : c ≠ '.' := by
    rintro rfl
    exact h hc
  simpa using hne

theorem append_dottedKeys_inj {cs ds : List Char} (hc : '.' ∉ cs) (hd : '.' ∉ ds)
    (h : cs ++ dottedKeys path = ds ++ dottedKeys path') :
    cs = ds ∧ dottedKeys path = dottedKeys path' := by
  have hcut := congrArg (List.takeWhile (· ≠ '.')) h
  rw [takeWhile_append_dottedKeys hc, takeWhile_append_dottedKeys hd] at hcut
  subst hcut
  exact ⟨rfl, List.append_cancel_left h⟩

theorem dottedKeys_inj (hp : ∀ key ∈ path, '.' ∉ key.toList)
    (hq : ∀ key ∈ path', '.' ∉ key.toList) (h : dottedKeys path = dottedKeys path') :
    path = path' := by
  induction path generalizing path' with
  | nil =>
    cases path' with
    | nil => rfl
    | cons key' path' => simp [dottedKeys] at h
  | cons key path ih =>
    cases path' with
    | nil => simp [dottedKeys] at h
    | cons key' path' =>
      have hkeys : key.toList ++ dottedKeys path = key'.toList ++ dottedKeys path' := by
        simpa [dottedKeys] using h
      obtain ⟨hkey, hrest⟩ :=
        append_dottedKeys_inj (hp key List.mem_cons_self) (hq key' List.mem_cons_self) hkeys
      rw [String.toList_inj.1 hkey,
        ih (fun k hk => hp k (List.mem_cons_of_mem key hk))
          (fun k hk => hq k (List.mem_cons_of_mem key' hk)) hrest]

theorem toList_argumentName (i : Nat) :
    (argumentName i).toList = "arg".toList ++ Nat.toDigits 10 i := by
  rw [argumentName, String.toList_append]
  exact congrArg _ String.toList_ofList

theorem argumentName_inj (h : argumentName i = argumentName j) : i = j := by
  have hlist := congrArg String.toList h
  rw [toList_argumentName, toList_argumentName] at hlist
  have hread (k : Nat) : Nat.ofDigitChars 10 (Nat.toDigits 10 k) 0 = k :=
    Nat.ofDigitChars_toDigits (by decide) (by decide)
  rw [← hread i, ← hread j, List.append_cancel_left hlist]

theorem dot_notin_argumentName (i : Nat) : '.' ∉ (argumentName i).toList := by
  rw [toList_argumentName, List.mem_append]
  rintro (harg | hdigit)
  · exact absurd harg (by decide)
  · exact absurd (Nat.isDigit_of_mem_toDigits (by decide) (by decide) hdigit) (by decide)

theorem eq_nil_or_dot_of_dottedKeys {cs ds : List Char} (h : dottedKeys path = cs ++ ds) :
    cs = [] ∨ ∃ rest, cs = '.' :: rest := by
  cases cs with
  | nil => exact .inl rfl
  | cons c cs =>
    cases path with
    | nil => simp [dottedKeys] at h
    | cons key path =>
      obtain ⟨rfl, -⟩ : '.' = c ∧ _ := by simpa [dottedKeys] using h
      exact .inr ⟨cs, rfl⟩

theorem nested_of_dotted (h : dotted name path = dotted name' path') :
    name = name' ∨ (∃ rest, name' = name ++ "." ++ rest) ∨ ∃ rest, name = name' ++ "." ++ rest := by
  -- The longer name goes on where the shorter one is followed by the dot of a key.
  have hlonger {m n : String} {cs ds : List Char} {p : List String}
      (hn : n.toList = m.toList ++ cs) (hp : dottedKeys p = cs ++ ds) :
      m = n ∨ ∃ rest, n = m ++ "." ++ rest := by
    rcases eq_nil_or_dot_of_dottedKeys hp with rfl | ⟨rest, rfl⟩
    · exact .inl (String.toList_inj.1 (hn.trans (List.append_nil _)).symm)
    · exact .inr ⟨String.ofList rest, String.toList_inj.1 (by simp [hn])⟩
  have hlist := congrArg String.toList h
  rw [toList_dotted, toList_dotted] at hlist
  rcases List.append_eq_append_iff.1 hlist with ⟨cs, hname, hpath⟩ | ⟨cs, hname, hpath⟩
  · rcases hlonger hname hpath with heq | hrest
    · exact .inl heq
    · exact .inr (.inl hrest)
  · rcases hlonger hname hpath with heq | hrest
    · exact .inl heq.symm
    · exact .inr (.inr hrest)

theorem takeWhile_dotted (i : Nat) (path : List String) :
    (dotted (argumentName i) path).toList.takeWhile (· ≠ '.') = (argumentName i).toList := by
  rw [toList_dotted, takeWhile_append_dottedKeys (dot_notin_argumentName i)]

theorem index_of_dotted (h : dotted (argumentName i) path = dotted (argumentName j) path') :
    i = j := by
  have hcut := congrArg (fun s => s.toList.takeWhile (· ≠ '.')) h
  simp only [takeWhile_dotted] at hcut
  exact argumentName_inj (String.toList_inj.1 hcut)

theorem dotted_inj (hp : ∀ key ∈ path, '.' ∉ key.toList) (hq : ∀ key ∈ path', '.' ∉ key.toList)
    (h : dotted (argumentName i) path = dotted (argumentName j) path') : i = j ∧ path = path' := by
  have hi := index_of_dotted h
  subst hi
  have hlist := congrArg String.toList h
  rw [toList_dotted, toList_dotted] at hlist
  exact ⟨rfl, dottedKeys_inj hp hq (List.append_cancel_left hlist)⟩

end

section

variable {name : String} {v : Value} {w : Write} {es : List (String × Value)}

theorem mem_entryWrites :
    w ∈ entryWrites name es ↔ ∃ e ∈ es, w ∈ writes (name ++ "." ++ e.1) e.2 := by
  induction es with
  | nil => simp [entryWrites]
  | cons e es ih =>
    obtain ⟨key, v⟩ := e
    simp [entryWrites, ih]

theorem mem_writes_map : w ∈ writes name (.map es) ↔
    (∃ e ∈ es, w ∈ writes (name ++ "." ++ e.1) e.2) ∨
      w = (name, Operand.ofValue (.map es)) := by
  rw [writes, List.mem_append, mem_entryWrites, List.mem_singleton]

theorem exists_path_of_mem_writes (h : w ∈ writes name v) : ∃ path, w.1 = dotted name path := by
  induction v using Value.byEntries generalizing name with
  | map es ih =>
    rcases mem_writes_map.1 h with ⟨e, he, hw⟩ | rfl
    · obtain ⟨path, hpath⟩ := ih e he hw
      exact ⟨e.1 :: path, hpath⟩
    · exact ⟨[], rfl⟩
  | other v hv =>
    rw [Env.writes_of_not_map hv] at h
    exact ⟨[], congrArg Prod.fst (List.mem_singleton.1 h)⟩

theorem mem_writes_iff (ho : v.Ordered) : w ∈ writes name v ↔
    ∃ path x, v.at? path = some x ∧ w = (dotted name path, Operand.ofValue x) := by
  induction v using Value.byEntries generalizing name with
  | map es ih =>
    have hget : ∀ {key x}, (Value.map es).get? key = some x ↔ (key, x) ∈ es :=
      Value.get?_map_eq_some_iff ho.sorted
    rw [mem_writes_map]
    constructor
    · rintro (⟨e, he, hw⟩ | rfl)
      · obtain ⟨path, x, hpath, rfl⟩ := (ih e he (ho.of_mem he)).1 hw
        refine ⟨e.1 :: path, x, ?_, rfl⟩
        rw [Value.at?, hget.2 he]
        exact hpath
      · exact ⟨[], _, rfl, rfl⟩
    · rintro ⟨path, x, hpath, rfl⟩
      cases path with
      | nil =>
        obtain rfl := Option.some.inj hpath
        exact .inr rfl
      | cons key path =>
        obtain ⟨y, hy, hrest⟩ := Option.bind_eq_some_iff.1 hpath
        have he := hget.1 hy
        exact .inl ⟨(key, y), he, (ih _ he (ho.of_mem he)).2 ⟨path, x, hrest, rfl⟩⟩
  | other v hv =>
    rw [Env.writes_of_not_map hv, List.mem_singleton]
    constructor
    · rintro rfl
      exact ⟨[], v, rfl, rfl⟩
    · rintro ⟨path, x, hpath, rfl⟩
      obtain ⟨rfl, rfl⟩ := (Value.at?_of_not_map hv).1 hpath
      rfl

end

section

variable {args : List Value} {order : List (String × Value)} {b : String × Value} {w : Write}

theorem mem_argumentsFrom {k : Nat} : b ∈ argumentsFrom k args ↔
    ∃ i v, args[i]? = some v ∧ b = (argumentName (k + i), v) := by
  induction args generalizing k with
  | nil => simp [argumentsFrom]
  | cons v args ih =>
    rw [argumentsFrom, List.mem_cons, ih]
    constructor
    · rintro (rfl | ⟨i, x, hi, rfl⟩)
      · exact ⟨0, v, rfl, rfl⟩
      · exact ⟨i + 1, x, hi, by rw [Nat.add_right_comm, Nat.add_assoc]⟩
    · rintro ⟨i, x, hi, rfl⟩
      cases i with
      | zero =>
        obtain rfl := Option.some.inj hi
        exact .inl rfl
      | succ i => exact .inr ⟨i, x, hi, by rw [Nat.add_right_comm, Nat.add_assoc]⟩

theorem pairwise_argumentsFrom (k : Nat) (args : List Value) :
    (argumentsFrom k args).Pairwise fun b c => b.1 ≠ c.1 := by
  induction args generalizing k with
  | nil => exact .nil
  | cons v args ih =>
    refine List.pairwise_cons.2 ⟨fun b hb hname => ?_, ih (k + 1)⟩
    obtain ⟨i, x, -, rfl⟩ := mem_argumentsFrom.1 hb
    have hk : k = k + 1 + i := argumentName_inj hname
    omega

theorem mem_ofArguments : b ∈ (ofArguments args).entries ↔
    ∃ i v, args[i]? = some v ∧ b = (argumentName i, v) := by
  rw [ofArguments, Dict.ofList, Entries.mem_ofPairs_iff (pairwise_argumentsFrom 0 args),
    mem_argumentsFrom]
  simp only [Nat.zero_add]

theorem mem_allWrites (hp : order.Perm (ofArguments args).entries) : w ∈ allWrites order ↔
    ∃ i v, args[i]? = some v ∧ w ∈ writes (argumentName i) v := by
  rw [allWrites, List.mem_flatMap]
  constructor
  · rintro ⟨b, hb, hw⟩
    obtain ⟨i, v, hi, rfl⟩ := mem_ofArguments.1 (hp.mem_iff.1 hb)
    exact ⟨i, v, hi, hw⟩
  · rintro ⟨i, v, hi, hw⟩
    exact ⟨_, hp.mem_iff.2 (mem_ofArguments.2 ⟨i, v, hi, rfl⟩), hw⟩

def ArgumentAt (args : List Value) (i : Nat) (path : List String) (x : Value) : Prop :=
  ∃ v, args[i]? = some v ∧ v.at? path = some x

variable {i j : Nat} {path path' : List String} {x y : Value}

theorem ArgumentAt.unique (h : ArgumentAt args i path x) (h' : ArgumentAt args i path y) :
    x = y := by
  obtain ⟨v, hi, hx⟩ := h
  obtain ⟨w, hi', hy⟩ := h'
  obtain rfl := Option.some.inj (hi.symm.trans hi')
  exact Option.some.inj (hx.symm.trans hy)

theorem ArgumentAt.dotless (h : ArgumentAt args i path x) (hd : ∀ v ∈ args, v.Dotless) :
    ∀ key ∈ path, '.' ∉ key.toList := by
  obtain ⟨v, hi, hx⟩ := h
  exact hd v (List.mem_of_getElem? hi) path x hx

theorem mem_allWrites_iff_argumentAt (ho : ∀ v ∈ args, v.Ordered)
    (hp : order.Perm (ofArguments args).entries) : w ∈ allWrites order ↔
      ∃ i path x, ArgumentAt args i path x ∧
        w = (dotted (argumentName i) path, Operand.ofValue x) := by
  rw [mem_allWrites hp]
  constructor
  · rintro ⟨i, v, hi, hw⟩
    obtain ⟨path, x, hx, hw⟩ := (mem_writes_iff (ho v (List.mem_of_getElem? hi))).1 hw
    exact ⟨i, path, x, ⟨v, hi, hx⟩, hw⟩
  · rintro ⟨i, path, x, ⟨v, hi, hx⟩, hw⟩
    exact ⟨i, v, hi, (mem_writes_iff (ho v (List.mem_of_getElem? hi))).2 ⟨path, x, hx, hw⟩⟩

end

theorem executeIn_eq (e : Expression) (vars : List (String × Value)) :
    e.executeIn vars = (Env.bindAll Dict.empty vars).bind fun env =>
      (e.tree.eval env).map Operand.toValue := by
  unfold executeIn
  cases Env.bindAll Dict.empty vars with
  | error s => rfl
  | ok env =>
    change (e.tree.eval env).bind (fun a => .ok a.toValue) = (e.tree.eval env).map _
    cases e.tree.eval env <;> rfl

/-- Arguments whose keys have no dots can be bound in any order. Then the variables are the names of
arguments with paths of keys in them, each has what its path leads to, and no two of these have one
name. -/
theorem bindAll_arguments {args : List Value} (ho : ∀ v ∈ args, v.Ordered)
    (hd : ∀ v ∈ args, v.Dotless) {order : List (String × Value)}
    (hp : order.Perm (ofArguments args).entries) :
    ∃ env, Env.bindAll Dict.empty order = .ok env ∧
      (∀ e : Expression, e.executeIn order = (e.tree.eval env).map Operand.toValue) ∧
      (∀ name a, env.get? name = some a ↔ ∃ i path x, ArgumentAt args i path x ∧
        name = dotted (argumentName i) path ∧ a = Operand.ofValue x) ∧
      ∀ i j path path' x y, ArgumentAt args i path x → ArgumentAt args j path' y →
        dotted (argumentName i) path = dotted (argumentName j) path' → i = j ∧ path = path' := by
  have hnames : ∀ i j path path' x y, ArgumentAt args i path x → ArgumentAt args j path' y →
      dotted (argumentName i) path = dotted (argumentName j) path' → i = j ∧ path = path' := by
    intro i j path path' x y h h' hname
    exact dotted_inj (h.dotless hd) (h'.dotless hd) hname
  have hunique : ∀ name a b, (name, a) ∈ allWrites order → (name, b) ∈ allWrites order →
      a = b := by
    intro name a b ha hb
    obtain ⟨i, path, x, h, heq⟩ := (mem_allWrites_iff_argumentAt ho hp).1 ha
    obtain ⟨j, path', y, h', heq'⟩ := (mem_allWrites_iff_argumentAt ho hp).1 hb
    obtain ⟨rfl, rfl⟩ := Prod.mk.inj heq
    obtain ⟨hname, rfl⟩ := Prod.mk.inj heq'
    obtain ⟨rfl, rfl⟩ := hnames i j path path' x y h h' hname
    rw [h.unique h']
  obtain ⟨env, hwrite, hget⟩ := Env.write_of_unique hunique
  rw [← Env.bindAll_eq_write] at hwrite
  refine ⟨env, hwrite, fun e => ?_, fun name a => ?_, hnames⟩
  · rw [executeIn_eq, hwrite]
    rfl
  · rw [hget, mem_allWrites_iff_argumentAt ho hp]
    simp only [Prod.mk.injEq]

theorem bindAll_arguments_nested :
    let user : Value := .map [("", .int 7), ("tier", .str "gold")]
    let args : List Value := [.map [("", .null), ("user", user)], .list [user]]
    let order := (ofArguments args).entries.reverse
    (∀ v ∈ args, v.Ordered) ∧ (∀ v ∈ args, v.Dotless) ∧
      order.Perm (ofArguments args).entries ∧
      ∃ env, Env.bindAll Dict.empty order = .ok env ∧ env.get? "arg0." = some .empty ∧
        env.get? "arg0.user" = some (.tuple [.str "", .str "tier"]) ∧
        env.get? "arg0.user." = some (.int 7) ∧
        env.get? "arg0.user.tier" = some (.str "gold") := by
  intro user args order
  have huser : Entries.Sorted [("", Value.int 7), ("tier", .str "gold")] :=
    List.pairwise_pair.2 (by decide)
  have hroot : Entries.Sorted [("", Value.null), ("user", user)] :=
    List.pairwise_pair.2 (by decide)
  have ho : ∀ v ∈ args, v.Ordered := by
    have hinner : user.Ordered := Value.ordered_map huser <| List.forall_mem_cons.2
      ⟨Value.ordered_of_not_map rfl, List.forall_mem_singleton.2 (Value.ordered_of_not_map rfl)⟩
    have hmap : (Value.map [("", .null), ("user", user)]).Ordered :=
      Value.ordered_map hroot <| List.forall_mem_cons.2
        ⟨Value.ordered_of_not_map rfl, List.forall_mem_singleton.2 hinner⟩
    exact List.forall_mem_cons.2
      ⟨hmap, List.forall_mem_singleton.2 (Value.ordered_of_not_map rfl)⟩
  have hd : ∀ v ∈ args, v.Dotless := by
    have hinner : user.Dotless := Value.dotless_map huser (by decide) <| List.forall_mem_cons.2
      ⟨Value.dotless_of_not_map rfl, List.forall_mem_singleton.2 (Value.dotless_of_not_map rfl)⟩
    have hmap : (Value.map [("", .null), ("user", user)]).Dotless :=
      Value.dotless_map hroot (by decide) <| List.forall_mem_cons.2
        ⟨Value.dotless_of_not_map rfl, List.forall_mem_singleton.2 hinner⟩
    exact List.forall_mem_cons.2
      ⟨hmap, List.forall_mem_singleton.2 (Value.dotless_of_not_map rfl)⟩
  have hp : order.Perm (ofArguments args).entries := List.reverse_perm _
  obtain ⟨env, hbind, -, hget, -⟩ := bindAll_arguments ho hd hp
  refine ⟨ho, hd, hp, env, hbind, ?_, ?_, ?_, ?_⟩
  · exact (hget _ _).2 ⟨0, [""], .null, ⟨_, rfl, rfl⟩, by decide, rfl⟩
  · exact (hget _ _).2 ⟨0, ["user"], user, ⟨_, rfl, rfl⟩, by decide, rfl⟩
  · exact (hget _ _).2 ⟨0, ["user", ""], .int 7, ⟨_, rfl, rfl⟩, by decide, rfl⟩
  · exact (hget _ _).2 ⟨0, ["user", "tier"], .str "gold", ⟨_, rfl, rfl⟩, by decide, rfl⟩

end Expression
end FaultInjection
