import FaultInjection.Proofs.Pattern.Closing.Classes

namespace FaultInjection.Regex.Reader

variable {cs cs' : List Char}

theorem dropLazy_closed (h : Closed cs cs') : Closed (dropLazy cs) (dropLazy cs') := by
  unfold dropLazy
  split
  · obtain ⟨r', rfl, hr⟩ := h.of_cons
    exact hr
  · next hne =>
    have hne' := h.not_cons (by decide) hne
    simp only
    exact h

def closeCounts? (x : Bool) (least : Nat) (most : Option Nat) :
    List Char → Option (Nat × Option Nat × List Char)
  | '}' :: cs => if most.all (least ≤ ·) then some (least, most, dropLazy (skip x cs)) else none
  | _ => none

theorem closeCounts_follows (x : Bool) (least : Nat) (most : Option Nat) (h : Closed cs cs') :
    Follows (Same (Same Closed)) (closeCounts? x least most cs)
      (closeCounts? x least most cs') := by
  unfold closeCounts?
  split
  · obtain ⟨r', rfl, hr⟩ := h.of_cons
    exact .guard (.some ⟨rfl, rfl, dropLazy_closed (hr.skip x)⟩)
  · exact .none

def countsRest? (x : Bool) (least : Nat) : List Char → Option (Nat × Option Nat × List Char)
  | ',' :: cs => do
    match (← skipMore? x cs) with
    | '}' :: cs => closeCounts? x least none ('}' :: cs)
    | cs =>
      let (most, cs) ← decimal? x cs
      closeCounts? x least (some most) cs
  | cs => closeCounts? x least (some least) cs

theorem counts_eq (x : Bool) (cs : List Char) : counts? x cs =
    skipMore? x cs >>= fun cs => decimal? x cs >>= fun p => countsRest? x p.1 p.2 := by
  rfl

theorem countsRest_follows (x : Bool) (least : Nat) (h : Closed cs cs') :
    Follows (Same (Same Closed)) (countsRest? x least cs) (countsRest? x least cs') := by
  unfold countsRest?
  split
  · obtain ⟨r', rfl, hr⟩ := h.of_cons
    refine (skipMore_follows x hr).bind fun q q' hq => ?_
    split
    · obtain ⟨t', rfl, ht⟩ := hq.of_cons
      exact closeCounts_follows x least none ht.cons
    · next hne =>
      have hne' := hq.not_cons (by decide) hne
      simp only
      refine (decimal_follows x hq).bind ?_
      rintro ⟨most, u⟩ ⟨_, u'⟩ ⟨rfl, hu⟩
      exact closeCounts_follows x least (some most) hu
  · next hne =>
    have hne' := h.not_cons (by decide) hne
    simp only
    exact closeCounts_follows x least (some least) h

theorem counts_follows (x : Bool) (h : Closed cs cs') :
    Follows (Same (Same Closed)) (counts? x cs) (counts? x cs') := by
  rw [counts_eq, counts_eq]
  refine (skipMore_follows x h).bind fun ds ds' hd => ?_
  refine (decimal_follows x hd).bind ?_
  rintro ⟨least, es⟩ ⟨_, es'⟩ ⟨rfl, he⟩
  exact countsRest_follows x least he

theorem flags_follows (on afterDash : Bool) (acc : List FlagChange) (h : Closed cs cs') :
    Follows (Same Closed) (flags? on afterDash acc cs) (flags? on afterDash acc cs') := by
  induction cs generalizing on afterDash acc cs' with
  | nil => exact .none
  | cons c cs ih =>
    obtain ⟨r', rfl, hr⟩ := h.of_cons
    simp only [flags?]
    by_cases hend : c = ':' ∨ c = ')'
    · rw [if_pos hend, if_pos hend]
      cases afterDash with
      | true => exact .none
      | false => exact .some ⟨rfl, hr.cons⟩
    · rw [if_neg hend, if_neg hend]
      by_cases hdash : c = '-'
      · rw [if_pos hdash, if_pos hdash]
        exact (ih false true acc hr).guard
      · rw [if_neg hdash, if_neg hdash]
        generalize flag? c = o
        cases o with
        | none => exact .none
        | some f =>
          dsimp only
          split
          · exact .none
          · exact ih on false _ hr

theorem groupName_follows (h : Closed cs cs') :
    Follows (Same Closed) (groupName? cs) (groupName? cs') := by
  unfold groupName?
  have hspan := span_closed (p := isNameChar) h
  generalize cs.span isNameChar = name at hspan
  generalize cs'.span isNameChar = name' at hspan
  obtain ⟨name, r⟩ := name
  obtain ⟨name', r'⟩ := name'
  dsimp only at hspan ⊢
  split
  · obtain ⟨rfl, hr⟩ := hspan (List.cons_ne_nil _ _)
    obtain ⟨q', rfl, hq⟩ := Closed.of_cons hr
    exact .guard (.some ⟨rfl, hq⟩)
  · exact .none

def groupOpening? (cs : List Char) : Option (Opening × List Char) :=
  (groupName? cs).map fun (name, cs) => (.group true (some name) [], cs)

def flagOpening? (cs : List Char) : Option (Opening × List Char) := do
  let (changes, cs) ← flags? true false [] cs
  match cs with
  | ')' :: cs => if changes.isEmpty then none else pure (.change changes, cs)
  | _ :: cs => pure (.group false none changes, cs)
  | [] => none

theorem groupOpening_follows (h : Closed cs cs') :
    Follows (Same Closed) (groupOpening? cs) (groupOpening? cs') := by
  refine (groupName_follows h).map ?_
  rintro ⟨name, r⟩ ⟨_, r'⟩ ⟨rfl, hr⟩
  exact ⟨rfl, hr⟩

theorem flagOpening_follows (h : Closed cs cs') :
    Follows (Same Closed) (flagOpening? cs) (flagOpening? cs') := by
  unfold flagOpening?
  refine (flags_follows true false [] h).bind ?_
  rintro ⟨changes, r⟩ ⟨_, r'⟩ ⟨rfl, hr⟩
  dsimp only at hr ⊢
  split
  · obtain ⟨q', rfl, hq⟩ := hr.of_cons
    split
    · exact .none
    · exact .some ⟨rfl, hq⟩
  · obtain ⟨q', rfl, hq⟩ := hr.of_cons
    simp only
    exact .some ⟨rfl, hq⟩
  · exact .none

theorem opening_follows (x : Bool) (h : Closed cs cs') :
    Follows (Same Closed) (opening? x cs) (opening? x cs') := by
  have hs := h.skip x
  unfold opening?
  generalize skip x cs = ds at hs
  generalize skip x cs' = ds' at hs
  split
  · exact .none
  · exact .none
  · exact .none
  · exact .none
  · obtain ⟨r', rfl, hr⟩ := hs.of_cons
    obtain ⟨q', rfl, hq⟩ := hr.of_cons
    obtain ⟨t', rfl, ht⟩ := hq.of_cons
    exact groupOpening_follows ht
  · next hahead hbehind =>
    obtain ⟨r', rfl, hr⟩ := hs.of_cons
    obtain ⟨q', rfl, hq⟩ := hr.of_cons
    have hahead' := hq.not_cons (by decide) hahead
    have hbehind' := hq.not_cons (by decide) hbehind
    simp only
    exact groupOpening_follows hq
  · next hahead hnot hbehind hnotBehind hnamed hbracket =>
    obtain ⟨r', rfl, hr⟩ := hs.of_cons
    have hahead' := hr.not_cons (by decide) hahead
    have hnot' := hr.not_cons (by decide) hnot
    have hnamed' := hr.not_cons_cons (by decide) (by decide) hnamed
    have hbracket' := hr.not_cons (by decide) hbracket
    have hbehind' : ∀ t, r' ≠ '<' :: '=' :: t := fun t => hbracket' _
    have hnotBehind' : ∀ t, r' ≠ '<' :: '!' :: t := fun t => hbracket' _
    simp only
    exact flagOpening_follows hr
  · next hne =>
    have hne' := hs.not_cons (by decide) hne
    -- every branch before it starts with a question mark
    split
    all_goals first
      | exact (hne' _ rfl).elim
      | exact .some ⟨rfl, hs⟩

inductive Head
  | close
  | branch
  | group
  | bracket
  | repeated (least : Nat) (most : Option Nat)
  | counted
  | escape
  | part (p : Regex)

namespace Head

def of (c : Char) : Head :=
  match c with
  | ')' => .close
  | '|' => .branch
  | '(' => .group
  | '[' => .bracket
  | '?' => .repeated 0 (some 1)
  | '*' => .repeated 0 none
  | '+' => .repeated 1 none
  | '{' => .counted
  | '\\' => .escape
  | '.' => .part .dot
  | '^' => .part (.mark .caret)
  | '$' => .part (.mark .dollar)
  | c => .part (.literal ⟨c, false⟩)

end Head

def finished (parts branches : List Regex) : Regex :=
  match branches with
  | [] => seqOf parts
  | bs => .alt (seqOf parts :: bs).reverse

def Head.read? (fuel : Nat) (x : Bool) (parts branches : List Regex) (r : List Char) :
    Head → Option (Regex × List Char)
  | close => some (finished parts branches, ')' :: r)
  | branch => body? fuel x [] (seqOf parts :: branches) r
  | group => do
    match (← opening? x r) with
    | (.change changes, r) =>
      body? fuel (ignoresSpace changes x) (.flags changes :: parts) branches r
    | (.group captures name changes, r) =>
      let (inner, r) ← body? fuel (ignoresSpace changes x) [] [] r
      match r with
      | _ :: r => body? fuel x (.group captures name changes inner :: parts) branches r
      | [] => none
  | bracket => do
    let (set, r) ← bracket? x r
    body? fuel x (set :: parts) branches r
  | repeated least most => do
    body? fuel x (← repeatLast? least most parts) branches (dropLazy r)
  | counted => do
    if parts.isEmpty then none
    else
      let (least, most, r) ← counts? x r
      body? fuel x (← repeatLast? least most parts) branches r
  | escape => do
    let (atom, r) ← escape? x r
    body? fuel x (atom.toRegex :: parts) branches r
  | part p => body? fuel x (p :: parts) branches r

theorem body_nil {n : Nat} {x : Bool} {parts branches : List Regex} (h : skip x cs = []) :
    body? (n + 1) x parts branches cs = some (finished parts branches, []) := by
  rw [body?, h]
  cases branches <;> rfl

theorem body_cons {n : Nat} {x : Bool} {parts branches : List Regex} {c : Char} {r : List Char}
    (h : skip x cs = c :: r) :
    body? (n + 1) x parts branches cs = (Head.of c).read? n x parts branches r := by
  rw [body?, h]
  dsimp only
  unfold Head.of
  split
  all_goals
    rename_i heq
    cases heq
  all_goals first
    | rfl
    | (simp only; rfl)
    | (cases branches <;> rfl)

theorem repeatLast_follows {m n : Nat} {x : Bool} {branches : List Regex}
    (ih : ∀ parts,
      Follows (Same Closed) (body? m x parts branches cs) (body? n x parts branches cs'))
    (least : Nat) (most : Option Nat) (parts : List Regex) :
    Follows (Same Closed) (repeatLast? least most parts >>= fun ps => body? m x ps branches cs)
      (repeatLast? least most parts >>= fun ps => body? n x ps branches cs') := by
  refine (Follows.refl _).bind ?_
  rintro ps _ rfl
  exact ih ps

theorem Head.read_follows {m n : Nat} {x : Bool} {parts branches : List Regex}
    (ih : ∀ x parts branches {r r' : List Char}, Closed r r' →
      Follows (Same Closed) (body? m x parts branches r) (body? n x parts branches r'))
    (head : Head) (h : Closed cs cs') :
    Follows (Same Closed) (head.read? m x parts branches cs)
      (head.read? n x parts branches cs') := by
  cases head with
  | close => exact .some ⟨rfl, h.cons⟩
  | branch => exact ih x _ _ h
  | group =>
    refine (opening_follows x h).bind ?_
    rintro ⟨o, q⟩ ⟨_, q'⟩ ⟨rfl, hq⟩
    cases o with
    | change changes => exact ih _ _ _ hq
    | group captures name changes =>
      refine (ih _ _ _ hq).bind ?_
      rintro ⟨inner, t⟩ ⟨_, t'⟩ ⟨rfl, ht⟩
      -- what a group leaves starts with its parenthesis, unless the text ended before it
      cases t with
      | nil => exact .none
      | cons c t =>
        obtain ⟨t', rfl, hrest⟩ := ht.of_cons
        exact ih _ _ _ hrest
  | bracket =>
    refine (bracket_follows x h).bind ?_
    rintro ⟨set, q⟩ ⟨_, q'⟩ ⟨rfl, hq⟩
    exact ih _ _ _ hq
  | repeated least most =>
    exact repeatLast_follows (fun ps => ih x ps branches (dropLazy_closed h)) least most parts
  | counted =>
    cases parts with
    | nil => exact .none
    | cons p ps =>
      refine (counts_follows x h).bind ?_
      rintro ⟨least, most, q⟩ ⟨_, _, q'⟩ ⟨rfl, rfl, hq⟩
      exact repeatLast_follows (fun ps => ih x ps branches hq) least most (p :: ps)
  | escape =>
    refine (escape_follows x h).bind ?_
    rintro ⟨atom, q⟩ ⟨_, q'⟩ ⟨rfl, hq⟩
    exact ih _ _ _ hq
  | part p => exact ih _ _ _ h

theorem body_follows {m n : Nat} (hn : m ≤ n) (x : Bool) (parts branches : List Regex)
    (h : Closed cs cs') :
    Follows (Same Closed) (body? m x parts branches cs) (body? n x parts branches cs') := by
  induction m generalizing n x parts branches cs cs' with
  | zero => exact .none
  | succ m ih =>
    obtain ⟨n, rfl⟩ : ∃ k, n = k + 1 := ⟨n - 1, by omega⟩
    have hn : m ≤ n := by omega
    have hs := h.skip x
    cases hds : skip x cs with
    | nil =>
      rw [hds] at hs
      rw [body_nil hds]
      -- where one text ends the other may go on with the closing parenthesis, which ends it as well
      rcases hs.nil with hds' | hds'
      · rw [body_cons (c := ')') hds']
        exact .some ⟨rfl, .inl rfl⟩
      · rw [body_nil hds']
        exact .some ⟨rfl, .refl []⟩
    | cons c r =>
      rw [hds] at hs
      obtain ⟨r', hds', hr⟩ := hs.of_cons
      rw [body_cons hds, body_cons hds']
      exact Head.read_follows (fun x parts branches _ _ hr => ih hn x parts branches hr) _ hr

theorem body_caret (n : Nat) (parts branches : List Regex) (cs : List Char) :
    body? (n + 1) false parts branches ('^' :: cs) =
      body? n false (.mark .caret :: parts) branches cs := rfl

theorem body_dollar (n : Nat) (parts branches : List Regex) (cs : List Char) :
    body? (n + 1) false parts branches ('$' :: cs) =
      body? n false (.mark .dollar :: parts) branches cs := rfl

theorem body_group_eq (n : Nat) (parts branches : List Regex) (cs : List Char) :
    body? (n + 1) false parts branches ('(' :: '?' :: ':' :: cs) =
      body? n false [] [] cs >>= fun p => match p.2 with
        | _ :: r => body? n false (.group false none [] p.1 :: parts) branches r
        | [] => none := rfl

/-- Between the anchors the whole of a pattern is one group. A comment at its end takes in the
end of that group, and then nothing is read. -/
theorem body_anchored {n : Nat} {r R : Regex} {rest : List Char}
    (h : body? (cs.length + 1) false [] [] cs = some (r, [])) (hn : cs.length < n + 2)
    (hR : body? (n + 4) false [] [] ('^' :: '(' :: '?' :: ':' :: (cs ++ closing)) =
      some (R, rest)) :
    R = .seq [.mark .caret, .group false none [] r, .mark .dollar] := by
  obtain ⟨⟨_, r'⟩, hbody, rfl, hr⟩ := body_follows hn false [] [] (.inl rfl) _ h
  rw [body_caret, body_group_eq, hbody] at hR
  rcases hr.nil with rfl | rfl
  · have hlast : body? (n + 2) false [.group false none [] r, .mark .caret] [] ['$'] =
        some (R, rest) := hR
    rw [body_dollar] at hlast
    cases hlast
    rfl
  · cases hR

end FaultInjection.Regex.Reader
