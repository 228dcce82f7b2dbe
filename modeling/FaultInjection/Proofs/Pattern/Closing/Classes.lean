import FaultInjection.Proofs.Pattern.Closing.Basic

namespace FaultInjection.Regex.Reader

variable {cs cs' : List Char}

theorem hexDigits_follows (x : Bool) (n : Nat) (acc : List Char) (h : Closed cs cs') :
    Follows (Same Closed) (hexDigits? x n acc cs) (hexDigits? x n acc cs') := by
  induction n generalizing acc cs cs' with
  | zero =>
    simp only [hexDigits?]
    exact (Follows.refl _).map fun c c' hc => ⟨hc, h.skip x⟩
  | succ n ih =>
    have hd : Closed (if acc.isEmpty then cs else skip x cs)
        (if acc.isEmpty then cs' else skip x cs') := by
      by_cases hacc : acc.isEmpty
      · simpa only [if_pos hacc] using h
      · simpa only [if_neg hacc] using h.skip x
    simp only [hexDigits?]
    generalize (if acc.isEmpty then cs else skip x cs) = ds at hd
    generalize (if acc.isEmpty then cs' else skip x cs') = ds' at hd
    cases ds with
    | nil => exact .none
    | cons c ds =>
      obtain ⟨ds', rfl, hr⟩ := hd.of_cons
      exact (ih (c :: acc) hr).guard

theorem hexBrace_follows (x : Bool) (h : Closed cs cs') :
    Follows (Same Closed) (hexBrace? x cs) (hexBrace? x cs') := by
  unfold hexBrace?
  refine (skipMore_follows x h).bind fun ds ds' hd => ?_
  have hrun := run_closed (x := x) (p := fun c => (Text.hexDigit? c).isSome) (Nat.le_refl _)
    (Nat.le_refl _) hd (.inl (by decide))
  obtain ⟨hds, hrest⟩ := hrun
  simp only [hds]
  generalize (run x _ ds.length ds).2 = r at hrest
  generalize (run x _ ds'.length ds').2 = r' at hrest
  split
  · obtain ⟨r', rfl, hr⟩ := hrest.of_cons
    exact (Follows.refl _).map fun c c' hc => ⟨hc, hr.skip x⟩
  · exact .none

theorem hex_follows (x : Bool) (digits : Nat) (h : Closed cs cs') :
    Follows (Same Closed) (hex? x digits cs) (hex? x digits cs') := by
  unfold hex?
  refine (skipMore_follows x h).bind fun ds ds' hd => ?_
  split
  · obtain ⟨r', rfl, hr⟩ := hd.of_cons
    exact (hexBrace_follows x hr).bind fun a a' ha => .some ⟨by rw [ha.1], ha.2⟩
  · next hne =>
    -- with this, `simp only` takes the same branch for the longer text
    have hne' := hd.not_cons (by decide) hne
    simp only
    exact (hexDigits_follows x digits [] hd).bind fun a a' ha => .some ⟨by rw [ha.1], ha.2⟩

theorem unicodeClass_follows (x negated : Bool) (h : Closed cs cs') :
    Follows (Same Closed) (unicodeClass? x negated cs) (unicodeClass? x negated cs') := by
  unfold unicodeClass?
  refine (skipMore_follows x h).bind fun ds ds' hd => ?_
  split
  · obtain ⟨r', rfl, hr⟩ := hd.of_cons
    refine (skipMore_follows x hr).bind fun ds ds' hd => ?_
    have hrun := run_closed (x := x) (p := (· ≠ '}')) (Nat.le_refl _) (Nat.le_refl _) hd
    simp only
    generalize run x _ ds.length ds = name at hrun
    generalize run x _ ds'.length ds' = name' at hrun
    obtain ⟨name, r⟩ := name
    obtain ⟨name', r'⟩ := name'
    cases r with
    | nil => exact .none
    | cons c r =>
      obtain ⟨rfl, hr⟩ := hrun (.inr (List.cons_ne_nil c r))
      obtain ⟨r', rfl, hrest⟩ := hr.of_cons
      exact (Follows.refl _).bind fun set _ hset => .some ⟨by rw [hset], hrest⟩
  · exact .none
  · next c r hbrace hslash =>
    obtain ⟨r', rfl, hr⟩ := hd.of_cons
    simp only
    exact (Follows.refl _).bind fun set _ hset => .some ⟨by rw [hset], hr.skip x⟩
  · exact .none

theorem boundary_follows (x : Bool) (h : Closed cs cs') :
    Follows (Same Closed) (boundary? x cs) (boundary? x cs') := by
  unfold boundary?
  split
  · obtain ⟨inner', rfl, hi⟩ := h.of_cons
    refine (skipMore_follows x hi).bind fun ds ds' hd => ?_
    have hrun := run_closed (x := x) (p := fun c => c.isAlpha || c = '-') (Nat.le_refl _)
      (Nat.le_refl _) hd (.inl (by decide))
    generalize run x _ ds.length ds = name at hrun
    generalize run x _ ds'.length ds' = name' at hrun
    obtain ⟨name, r⟩ := name
    obtain ⟨name', r'⟩ := name'
    obtain ⟨rfl, hr⟩ := hrun
    simp only
    by_cases hname : name.isEmpty
    · rw [if_pos hname, if_pos hname]
      exact .some ⟨rfl, h⟩
    · rw [if_neg hname, if_neg hname]
      split
      · obtain ⟨r', rfl, hrest⟩ := hr.of_cons
        simp only
        split
        · exact .some ⟨rfl, hrest⟩
        · exact .some ⟨rfl, hrest⟩
        · exact .some ⟨rfl, hrest⟩
        · exact .some ⟨rfl, hrest⟩
        · exact .none
      · exact .none
  · next hne =>
    have hne' := h.not_cons (by decide) hne
    simp only
    exact .some ⟨rfl, h⟩

inductive Escaped
  | hex (digits : Nat)
  | property (negated : Bool)
  | boundary
  | single (a : Option Atom)

namespace Escaped

def of (c : Char) : Escaped :=
  match c with
  | 'x' => .hex 2
  | 'u' => .hex 4
  | 'U' => .hex 8
  | 'p' => .property false
  | 'P' => .property true
  | 'b' => .boundary
  -- any other character stands for the same whatever follows it
  | c => .single ((escape? false [c]).map Prod.fst)

def read? (x : Bool) (cs : List Char) : Escaped → Option (Atom × List Char)
  | hex digits => hex? x digits cs
  | property negated => unicodeClass? x negated cs
  | boundary => (boundary? x cs).map fun (m, cs) => (.mark m, cs)
  | single a => a.map (·, cs)

theorem read_follows (e : Escaped) (x : Bool) (h : Closed cs cs') :
    Follows (Same Closed) (e.read? x cs) (e.read? x cs') := by
  cases e with
  | hex digits => exact hex_follows x digits h
  | property negated => exact unicodeClass_follows x negated h
  | boundary => exact (boundary_follows x h).map fun m m' hm => ⟨congrArg Atom.mark hm.1, hm.2⟩
  | single a => exact (Follows.refl a).map fun b b' hb => ⟨hb, h⟩

end Escaped

theorem escape_cons (x : Bool) (c : Char) (cs : List Char) :
    escape? x (c :: cs) = (Escaped.of c).read? x cs := by
  unfold escape?
  split
  all_goals
    rename_i heq
    cases heq
  all_goals first
    | rfl
    | simp only [Escaped.of]
  simp only [Escaped.read?, escape?]
  split <;> rfl

theorem escape_follows (x : Bool) (h : Closed cs cs') :
    Follows (Same Closed) (escape? x cs) (escape? x cs') := by
  cases cs with
  | nil => exact .none
  | cons c cs =>
    obtain ⟨r', rfl, hr⟩ := h.of_cons
    rw [escape_cons, escape_cons]
    exact (Escaped.of c).read_follows x hr

def posixName? (p : Bool × List Char) : Option (ClassSet × List Char) := do
  let (negated, cs) := p
  let (name, cs) := cs.span (· ≠ ':')
  match cs with
  | ':' :: ']' :: cs =>
    let (_, k) ← posixNames.find? (·.1 = String.ofList name)
    pure (.named (.posix k) negated, cs)
  | _ => none

theorem posix_eq (cs : List Char) : posix? cs = (match cs with
    | ':' :: '^' :: cs => some (true, cs)
    | ':' :: cs => some (false, cs)
    | _ => none) >>= posixName? := by
  unfold posix?
  split
  · rfl
  · simp only
    rfl
  · simp only
    rfl

theorem posixName_rel (negated : Bool) (h : Closed cs cs') :
    Option.Rel (Same Closed) (posixName? (negated, cs)) (posixName? (negated, cs')) := by
  unfold posixName?
  dsimp only
  by_cases hrest : (cs.span (· ≠ ':')).2 = []
  · have hrest' : (cs'.span (· ≠ ':')).2 = [] := by
      rw [List.span_eq_takeWhile_dropWhile, List.dropWhile_eq_nil_iff] at hrest ⊢
      rcases h with rfl | rfl
      · have hclosing := List.all_eq_true.1 (show closing.all (· ≠ ':') = true from rfl)
        intro c hc
        exact (List.mem_append.1 hc).elim (hrest c) (hclosing c)
      · exact hrest
    rw [hrest, hrest']
    exact .none
  · have hspan := span_closed h hrest
    generalize cs.span (· ≠ ':') = name at hspan
    generalize cs'.span (· ≠ ':') = name' at hspan
    obtain ⟨name, r⟩ := name
    obtain ⟨name', r'⟩ := name'
    obtain ⟨rfl, hr⟩ := hspan
    dsimp only at hr ⊢
    split
    · obtain ⟨q', rfl, hq⟩ := hr.of_cons
      obtain ⟨t', rfl, ht⟩ := hq.of_cons
      generalize posixNames.find? _ = o
      cases o with
      | none => exact .none
      | some k => exact .some ⟨rfl, ht⟩
    · next hne =>
      have hne' := hr.not_cons_cons (by decide) (by decide) hne
      simp only
      exact .none

theorem posix_rel (h : Closed cs cs') :
    Option.Rel (Same Closed) (posix? cs) (posix? cs') := by
  rw [posix_eq, posix_eq]
  split
  · obtain ⟨r, rfl, hr⟩ := h.of_cons
    obtain ⟨q, rfl, hq⟩ := hr.of_cons
    exact posixName_rel true hq
  · next hcaret =>
    obtain ⟨r, rfl, hr⟩ := h.of_cons
    have hcaret' := hr.not_cons (by decide) hcaret
    simp only
    exact posixName_rel false hr
  · next hne =>
    have hne' := h.not_cons (by decide) hne
    have hcaret' : ∀ r, cs' ≠ ':' :: '^' :: r := fun r => hne' _
    simp only
    exact .none

def dashes? (x : Bool) (p : Bool × List Char) : Option (Bool × List ClassSet × List Char) := do
  let (negated, cs) := p
  let (dashes, cs) := run x (· = '-') cs.length cs
  match dashes, cs with
  | _, [] => none
  | [], ']' :: cs =>
    let cs ← skipMore? x cs
    pure (negated, [.literal ⟨']', false⟩], cs)
  | dashes, cs => pure (negated, dashes.map fun c => .literal ⟨c, false⟩, cs)

theorem classStart_eq (x : Bool) (cs : List Char) : classStart? x cs =
    skipMore? x cs >>= fun cs => (match cs with
      | '^' :: cs => (skipMore? x cs).map (true, ·)
      | cs => some (false, cs)) >>= dashes? x := by
  refine congrArg (skipMore? x cs >>= ·) (funext fun cs => ?_)
  split
  · rfl
  · simp only
    rfl

theorem dashes_follows (x negated : Bool) (h : Closed cs cs') :
    Follows (Same (Same Closed)) (dashes? x (negated, cs)) (dashes? x (negated, cs')) := by
  have hrun := run_closed (x := x) (p := (· = '-')) (Nat.le_refl _) (Nat.le_refl _) h
    (.inl (by decide))
  unfold dashes?
  simp only
  generalize run x _ cs.length cs = dashes at hrun
  generalize run x _ cs'.length cs' = dashes' at hrun
  obtain ⟨dashes, r⟩ := dashes
  obtain ⟨dashes', r'⟩ := dashes'
  obtain ⟨rfl, hr⟩ := hrun
  dsimp only at hr ⊢
  split
  · exact .none
  · obtain ⟨q', rfl, hq⟩ := hr.of_cons
    exact (skipMore_follows x hq).bind fun _ _ hs => .some ⟨rfl, rfl, hs⟩
  · next hne hbracket =>
    have hne' := hr.ne_nil hne
    have hbracket' : ∀ t, dashes = [] → r' ≠ ']' :: t := fun t hd =>
      hr.not_cons (by decide) (fun u => hbracket u hd) t
    simp only
    exact .some ⟨rfl, rfl, hr⟩

theorem classStart_follows (x : Bool) (h : Closed cs cs') :
    Follows (Same (Same Closed)) (classStart? x cs) (classStart? x cs') := by
  rw [classStart_eq, classStart_eq]
  refine (skipMore_follows x h).bind fun ds ds' hd => ?_
  refine Follows.bind (R := Same Closed) ?_ fun p p' hp => ?_
  · split
    · obtain ⟨r', rfl, hr⟩ := hd.of_cons
      exact (skipMore_follows x hr).map fun _ _ hr => ⟨rfl, hr⟩
    · next hne =>
      have hne' := hd.not_cons (by decide) hne
      simp only
      exact .some ⟨rfl, hd⟩
  · obtain ⟨negated, es⟩ := p
    obtain ⟨negated', es'⟩ := p'
    obtain ⟨rfl, he⟩ := hp
    exact dashes_follows x negated he

theorem peek_closed {x : Bool} {c : Char} (hc : c ≠ ')') (hspace : Text.isSpace c = false)
    (h : Closed cs cs') : peek x cs' = some c ↔ peek x cs = some c := by
  cases x with
  | false => exact head?_closed hc h
  | true =>
    have hblank : cs.dropWhile Text.isSpace = [] → cs.head? ≠ some c := by
      intro hd hhead
      have hall := List.dropWhile_eq_nil_iff.1 hd c (List.mem_of_head? hhead)
      exact Bool.false_ne_true (hspace ▸ hall)
    have hd := h.dropWhile (p := Text.isSpace) (by decide)
    simp only [peek, if_true]
    generalize cs.dropWhile Text.isSpace = ds at hd hblank
    generalize cs'.dropWhile Text.isSpace = ds' at hd
    cases ds with
    | nil =>
      rcases hd.nil with rfl | rfl
      · have hhead := hblank rfl
        simp [closing, hc.symm, hhead]
      · exact head?_closed hc h
    | cons d ds =>
      obtain ⟨ds', rfl, hr⟩ := hd.of_cons
      by_cases hcomment : d = '#'
      · subst hcomment
        exact head?_closed hc (hr.dropWhile (by decide))
      · simp only

theorem classAtom_follows (x : Bool) (h : Closed cs cs') :
    Follows (Same Closed) (classAtom? x cs) (classAtom? x cs') := by
  unfold classAtom?
  split
  · exact .none
  · obtain ⟨r, rfl, hr⟩ := h.of_cons
    exact escape_follows x hr
  · obtain ⟨r, rfl, hr⟩ := h.of_cons
    simp only
    exact .some ⟨rfl, hr⟩

theorem classItem_follows (x : Bool) (h : Closed cs cs') :
    Follows (Same Closed) (classItem? x cs) (classItem? x cs') := by
  unfold classItem?
  refine (classAtom_follows x h).bind ?_
  rintro ⟨first, ds⟩ ⟨_, ds'⟩ ⟨rfl, hd⟩
  refine (skipMore_follows x hd).bind fun es es' he => ?_
  split
  · obtain ⟨r', rfl, hr⟩ := he.of_cons
    simp only [peek_closed (c := ']') (by decide) (by decide) hr,
      peek_closed (c := '-') (by decide) (by decide) hr]
    split
    · exact (Follows.refl _).bind fun s _ hs => .some ⟨hs, he⟩
    · refine (skipMore_follows x hr).bind fun q q' hq => ?_
      refine (classAtom_follows x hq).bind ?_
      rintro ⟨last, t⟩ ⟨_, t'⟩ ⟨rfl, ht⟩
      refine (Follows.refl _).bind fun lo _ hlo => ?_
      refine (Follows.refl _).bind fun hi _ hhi => ?_
      rw [← hlo, ← hhi]
      exact .guard (.some ⟨rfl, ht⟩)
  · next hne =>
    have hne' := he.not_cons (by decide) hne
    simp only
    exact (Follows.refl _).bind fun s _ hs => .some ⟨hs, he⟩

theorem classBody_follows (x : Bool) {m n : Nat} (hn : m ≤ n) (items : List ClassSet)
    (pending : Option (SetOp × ClassSet)) (h : Closed cs cs') :
    Follows (Same Closed) (classBody? x m items pending cs)
      (classBody? x n items pending cs') := by
  induction m generalizing n items pending cs cs' with
  | zero => exact .none
  | succ m ih =>
    obtain ⟨n, rfl⟩ : ∃ k, n = k + 1 := ⟨n - 1, by omega⟩
    have hn : m ≤ n := by omega
    have hs := h.skip x
    simp only [classBody?]
    generalize skip x cs = ds at hs
    generalize skip x cs' = ds' at hs
    split
    · exact .none
    · obtain ⟨r', rfl, hr⟩ := hs.of_cons
      simp only
      have hposix := posix_rel hr
      generalize posix? _ = o at hposix
      generalize posix? r' = o' at hposix
      cases hposix with
      | some hset =>
        simp only
        obtain ⟨hset, hq⟩ := hset
        rw [hset]
        exact ih hn _ _ hq
      | none =>
        refine (classStart_follows x hr).bind ?_
        rintro ⟨negated, start, q⟩ ⟨_, _, q'⟩ ⟨rfl, rfl, hq⟩
        refine (ih hn _ _ hq).bind ?_
        rintro ⟨inner, t⟩ ⟨_, t'⟩ ⟨rfl, ht⟩
        exact ih hn _ _ ht
    · obtain ⟨r', rfl, hr⟩ := hs.of_cons
      exact .some ⟨rfl, hr⟩
    · obtain ⟨r', rfl, hr⟩ := hs.of_cons
      obtain ⟨q', rfl, hq⟩ := hr.of_cons
      exact ih hn _ _ hq
    · obtain ⟨r', rfl, hr⟩ := hs.of_cons
      obtain ⟨q', rfl, hq⟩ := hr.of_cons
      exact ih hn _ _ hq
    · obtain ⟨r', rfl, hr⟩ := hs.of_cons
      obtain ⟨q', rfl, hq⟩ := hr.of_cons
      exact ih hn _ _ hq
    · next hnil hopen hclose hmeet hminus hdiffer =>
      have hnil' := hs.ne_nil hnil
      have hopen' := hs.not_cons (by decide) hopen
      have hclose' := hs.not_cons (by decide) hclose
      have hmeet' := hs.not_cons_cons (by decide) (by decide) hmeet
      have hminus' := hs.not_cons_cons (by decide) (by decide) hminus
      have hdiffer' := hs.not_cons_cons (by decide) (by decide) hdiffer
      simp only
      refine (classItem_follows x hs).bind ?_
      rintro ⟨item, r⟩ ⟨_, r'⟩ ⟨rfl, hr⟩
      exact ih hn _ _ hr

theorem bracket_follows (x : Bool) (h : Closed cs cs') :
    Follows (Same Closed) (bracket? x cs) (bracket? x cs') := by
  unfold bracket?
  refine (classStart_follows x h).bind ?_
  rintro ⟨negated, start, r⟩ ⟨_, _, r'⟩ ⟨rfl, rfl, hr⟩
  refine (classBody_follows x (Nat.succ_le_succ h.length_le) _ _ hr).bind ?_
  rintro ⟨inner, q⟩ ⟨_, q'⟩ ⟨rfl, hq⟩
  exact .some ⟨rfl, hq⟩

end FaultInjection.Regex.Reader
