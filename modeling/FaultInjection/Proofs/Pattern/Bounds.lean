import FaultInjection.Pattern.Meaning
import FaultInjection.Proofs.Pattern.Closing.Body
import FaultInjection.Proofs.Pattern.Matching

namespace FaultInjection.Regex

mutual

def InOrder : Regex → Prop
  | .empty | .flags _ | .literal _ | .dot | .mark _ | .named .. | .bracket .. => True
  | .rep r least most => r.InOrder ∧ ∀ m, most = some m → least ≤ m
  | .group _ _ _ r => r.InOrder
  | .alt rs => AllInOrder rs
  | .seq rs => AllInOrder rs

def AllInOrder : List Regex → Prop
  | [] => True
  | r :: rs => r.InOrder ∧ AllInOrder rs

end

theorem AllInOrder.nil : AllInOrder [] := trivial

theorem AllInOrder.cons {r : Regex} {rs : List Regex} (h : r.InOrder) (hs : AllInOrder rs) :
    AllInOrder (r :: rs) := ⟨h, hs⟩

theorem allInOrder_iff {rs : List Regex} : AllInOrder rs ↔ ∀ r ∈ rs, r.InOrder := by
  induction rs with
  | nil => simp [AllInOrder]
  | cons r rs ih => simp [AllInOrder, ih]

theorem allInOrder_reverse {rs : List Regex} (h : AllInOrder rs) : AllInOrder rs.reverse := by
  rw [allInOrder_iff] at h ⊢
  exact fun r hr => h r (List.mem_reverse.1 hr)

namespace Reader

theorem seqOf_inOrder {parts : List Regex} (h : AllInOrder parts) : (seqOf parts).InOrder := by
  unfold seqOf
  split
  · trivial
  · exact h.1
  · exact allInOrder_reverse h

theorem repeatLast_inOrder {least : Nat} {most : Option Nat} (hm : ∀ m, most = some m → least ≤ m)
    {parts ps : List Regex} (h : AllInOrder parts) (hps : repeatLast? least most parts = some ps) :
    AllInOrder ps := by
  unfold repeatLast? at hps
  split at hps
  · cases hps
  · cases hps
  · cases hps
  · cases hps
    exact ⟨⟨h.1, hm⟩, h.2⟩

theorem bracket_inOrder {x : Bool} {cs rest : List Char} {r : Regex}
    (h : bracket? x cs = some (r, rest)) : r.InOrder := by
  unfold bracket? at h
  obtain ⟨_, -, h⟩ := Option.bind_eq_some_iff.1 h
  obtain ⟨_, -, h⟩ := Option.bind_eq_some_iff.1 h
  cases h
  trivial

theorem closeCounts_inOrder {x : Bool} {n : Nat} {o : Option Nat} {cs rest : List Char}
    {least : Nat} {most : Option Nat} (h : closeCounts? x n o cs = some (least, most, rest)) :
    ∀ m, most = some m → least ≤ m := by
  unfold closeCounts? at h
  split at h
  · split at h
    · next hall =>
      cases h
      rintro m rfl
      exact of_decide_eq_true hall
    · cases h
  · cases h

theorem counts_inOrder {x : Bool} {cs rest : List Char} {least : Nat} {most : Option Nat}
    (h : counts? x cs = some (least, most, rest)) : ∀ m, most = some m → least ≤ m := by
  rw [counts_eq] at h
  obtain ⟨_, -, h⟩ := Option.bind_eq_some_iff.1 h
  obtain ⟨_, -, h⟩ := Option.bind_eq_some_iff.1 h
  unfold countsRest? at h
  split at h
  · obtain ⟨_, -, h⟩ := Option.bind_eq_some_iff.1 h
    split at h
    · exact closeCounts_inOrder h
    · obtain ⟨_, -, h⟩ := Option.bind_eq_some_iff.1 h
      exact closeCounts_inOrder h
  · exact closeCounts_inOrder h

theorem atom_inOrder (a : Atom) : a.toRegex.InOrder := by
  cases a with
  | literal l => trivial
  | mark m => trivial
  | named n negated => trivial

def Head.InOrder : Head → Prop
  | part p => p.InOrder
  | repeated least most => ∀ m, most = some m → least ≤ m
  | _ => True

theorem Head.of_inOrder (c : Char) : (Head.of c).InOrder := by
  unfold Head.of
  split
  all_goals first
    | trivial
    | exact fun m _ => Nat.zero_le m
    | exact fun _ hm => nomatch hm

theorem finished_inOrder {parts branches : List Regex} (hparts : AllInOrder parts)
    (hbranches : AllInOrder branches) : (finished parts branches).InOrder := by
  cases branches with
  | nil => exact seqOf_inOrder hparts
  | cons b bs => exact allInOrder_reverse (.cons (seqOf_inOrder hparts) hbranches)

theorem Head.read_inOrder {n : Nat} {x : Bool} {parts branches : List Regex} {cs rest : List Char}
    {r : Regex} (hparts : AllInOrder parts) (hbranches : AllInOrder branches)
    (ih : ∀ {x parts branches cs rest r}, AllInOrder parts → AllInOrder branches →
      body? n x parts branches cs = some (r, rest) → r.InOrder)
    (head : Head) (hhead : head.InOrder)
    (h : head.read? n x parts branches cs = some (r, rest)) : r.InOrder := by
  cases head with
  | close =>
    cases h
    exact finished_inOrder hparts hbranches
  | branch => exact ih .nil (.cons (seqOf_inOrder hparts) hbranches) h
  | group =>
    obtain ⟨⟨o, t⟩, -, h⟩ := Option.bind_eq_some_iff.1 h
    cases o with
    | change changes => exact ih (.cons (by trivial) hparts) hbranches h
    | group captures name changes =>
      obtain ⟨⟨inner, u⟩, hinner, h⟩ := Option.bind_eq_some_iff.1 h
      cases u with
      | nil => cases h
      | cons c u =>
        have hin : inner.InOrder := ih .nil .nil hinner
        exact ih (.cons (by exact hin) hparts) hbranches h
  | bracket =>
    obtain ⟨⟨set, t⟩, hset, h⟩ := Option.bind_eq_some_iff.1 h
    exact ih (.cons (bracket_inOrder hset) hparts) hbranches h
  | repeated least most =>
    obtain ⟨ps, hps, h⟩ := Option.bind_eq_some_iff.1 h
    exact ih (repeatLast_inOrder hhead hparts hps) hbranches h
  | counted =>
    cases parts with
    | nil => cases h
    | cons p ps =>
      obtain ⟨⟨least, most, t⟩, hcounts, h⟩ := Option.bind_eq_some_iff.1 h
      obtain ⟨qs, hqs, h⟩ := Option.bind_eq_some_iff.1 h
      exact ih (repeatLast_inOrder (counts_inOrder hcounts) hparts hqs) hbranches h
  | escape =>
    obtain ⟨⟨atom, t⟩, -, h⟩ := Option.bind_eq_some_iff.1 h
    exact ih (.cons (atom_inOrder atom) hparts) hbranches h
  | part p => exact ih (.cons hhead hparts) hbranches h

theorem body_inOrder {n : Nat} {x : Bool} {parts branches : List Regex} {cs rest : List Char}
    {r : Regex} (hparts : AllInOrder parts) (hbranches : AllInOrder branches)
    (h : body? n x parts branches cs = some (r, rest)) : r.InOrder := by
  induction n generalizing x parts branches cs r rest with
  | zero => cases h
  | succ n ih =>
    cases hcs : skip x cs with
    | nil =>
      rw [body_nil hcs] at h
      cases h
      exact finished_inOrder hparts hbranches
    | cons c t =>
      rw [body_cons hcs] at h
      exact Head.read_inOrder hparts hbranches ih _ (Head.of_inOrder c) h

end Reader

theorem parse_inOrder {s : String} {r : Regex} (h : parse? s = some r) : r.InOrder := by
  unfold parse? at h
  obtain ⟨⟨q, rest⟩, hbody, h⟩ := Option.bind_eq_some_iff.1 h
  dsimp only at h
  split at h
  · cases h
    exact Reader.body_inOrder .nil .nil hbody
  · cases h

theorem alts_inOrder {ps : List Pattern} (h : ∀ p ∈ ps, p.InOrder) : (Pattern.alts ps).InOrder := by
  induction ps with
  | nil => trivial
  | cons p ps ih =>
    obtain ⟨hp, hps⟩ := List.forall_mem_cons.1 h
    cases ps with
    | nil => exact hp
    | cons q ps => exact ⟨hp, ih hps⟩

theorem seqs_inOrder {ps : List Pattern} (h : ∀ p ∈ ps, p.InOrder) : (Pattern.seqs ps).InOrder := by
  induction ps with
  | nil => trivial
  | cons p ps ih =>
    obtain ⟨hp, hps⟩ := List.forall_mem_cons.1 h
    cases ps with
    | nil => exact hp
    | cons q ps => exact ⟨hp, ih hps⟩

def patternParts : Parts Pattern :=
  ⟨.empty, .one, .anchor, .rep, .group, .alts, .seqs⟩

mutual

theorem make_inOrder {r : Regex} {fs fs' : Flags} {p : Pattern} (hr : r.InOrder)
    (h : r.make patternParts fs = some (p, fs')) : p.InOrder := by
  cases r with
  | empty | flags _ =>
    cases h
    trivial
  | literal _ | named _ _ =>
    obtain ⟨s, -, h⟩ := Option.map_eq_some_iff.1 h
    cases h
    trivial
  | dot =>
    unfold make at h
    split at h
    · cases h
      trivial
    · cases h
  | mark k =>
    cases h
    trivial
  | bracket negated s =>
    unfold make at h
    obtain ⟨t, -, h⟩ := Option.bind_eq_some_iff.1 h
    obtain ⟨u, -, h⟩ := Option.bind_eq_some_iff.1 h
    cases h
    trivial
  | rep r least most =>
    obtain ⟨⟨q, fs⟩, hq, h⟩ := Option.map_eq_some_iff.1 h
    cases h
    exact ⟨make_inOrder hr.1 hq, hr.2⟩
  | group captures name changes r =>
    obtain ⟨⟨q, fs⟩, hq, h⟩ := Option.map_eq_some_iff.1 h
    cases h
    have hr : r.InOrder := hr
    have hq := make_inOrder hr hq
    cases captures with
    | true => exact hq
    | false => exact hq
  | alt rs =>
    obtain ⟨⟨qs, fs⟩, hqs, h⟩ := Option.map_eq_some_iff.1 h
    cases h
    exact alts_inOrder (makeAll_inOrder hr hqs)
  | seq rs =>
    obtain ⟨⟨qs, fs⟩, hqs, h⟩ := Option.map_eq_some_iff.1 h
    cases h
    exact seqs_inOrder (makeAll_inOrder hr hqs)

theorem makeAll_inOrder {rs : List Regex} {fs fs' : Flags} {ps : List Pattern} (hrs : AllInOrder rs)
    (h : makeAll patternParts fs rs = some (ps, fs')) : ∀ p ∈ ps, p.InOrder := by
  cases rs with
  | nil =>
    cases h
    exact fun _ hp => absurd hp List.not_mem_nil
  | cons r rs =>
    obtain ⟨⟨p, fs⟩, hp, h⟩ := Option.bind_eq_some_iff.1 h
    obtain ⟨⟨qs, fs⟩, hqs, h⟩ := Option.bind_eq_some_iff.1 h
    cases h
    intro q hq
    rcases List.mem_cons.1 hq with rfl | hq
    · exact make_inOrder hrs.1 hp
    · exact makeAll_inOrder hrs.2 hqs q hq

end

theorem pattern_inOrder {s : String} {r : Regex} {p : Pattern} (hr : parse? s = some r)
    (hp : r.pattern = some p) : p.InOrder := by
  obtain ⟨⟨q, fs⟩, hq, rfl⟩ := Option.map_eq_some_iff.1 hp
  exact make_inOrder (parse_inOrder hr) hq

end FaultInjection.Regex
