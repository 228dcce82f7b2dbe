import FaultInjection.Proofs.Config.Validation
import FaultInjection.Proofs.Registry.Serials

namespace FaultInjection

def accept {ε α : Type} (faults : List ε) (a : α) : Except ε α :=
  match faults with
  | [] => .ok a
  | f :: _ => .error f

section

variable {ε α β : Type}

theorem accept_map (faults : List ε) (a : α) (f : α → β) :
    (accept faults a).map f = accept faults (f a) := by
  cases faults <;> rfl

theorem accept_bind {faults more : List ε} {a : α} {b : β} {k : α → Except ε β}
    (h : k a = accept more b) : (accept faults a).bind k = accept (faults ++ more) b := by
  cases faults with
  | nil => exact h
  | cons f faults => rfl

theorem accept_eq_ok {faults : List ε} {a b : α} (h : accept faults a = .ok b) :
    faults = [] ∧ a = b := by
  cases faults with
  | nil => exact ⟨rfl, Except.ok.inj h⟩
  | cons f faults => cases h

end

namespace RuleConfig

def written (c : RuleConfig) : Rule where
  id := c.id
  target := c.target
  action := c.action
  conditions := c.matcher.map (·.map Json.toValue)
  expression := c.paramExp
  flags := c.flags.map fun j => (flagText? j).getD ""

def blankFault? (name text : String) : Option RuleFault :=
  if Text.isBlank text then some (.blankField name) else none

def patternFault? (key : String) (j : Json) : Option RuleFault :=
  if Key.isRegex key && (Pattern.compileWhole? j.toValue.render).isNone then
    some (.invalidPattern key j.toValue.render)
  else none

def flagFault? (name : String) (j : Json) : Option RuleFault :=
  if (flagText? j).isNone then some (.invalidFlag name) else none

def limitFault? (r : Rule) : Option RuleFault :=
  match Limit.of r with
  | .ok _ => none
  | .error e => some (.invalidLimit e)

def expressionFault? (text : String) : Option RuleFault :=
  if Text.isBlank text then none
  else
    match Expression.compile text with
    | .ok _ => none
    | .error e => some (.invalidExpression text e)

def conditionFaults (c : RuleConfig) : List RuleFault :=
  ((c.matcher.map (·.entries)).getD []).filterMap fun e => patternFault? e.1 e.2

def flagFaults (c : RuleConfig) : List RuleFault :=
  c.flags.entries.filterMap fun e => flagFault? e.1 e.2

def faults (c : RuleConfig) : List RuleFault :=
  (blankFault? "target" c.target).toList ++ (blankFault? "action" c.action).toList ++
    c.conditionFaults ++ c.flagFaults ++ (limitFault? c.written).toList ++
    (c.written.expressionText?.bind expressionFault?).toList

theorem checkNames_eq (c : RuleConfig) : c.checkNames =
    accept ((blankFault? "target" c.target).toList ++ (blankFault? "action" c.action).toList)
      () := by
  unfold checkNames blankFault?
  by_cases ht : Text.isBlank c.target = true
  · simp only [if_pos ht]
    rfl
  · by_cases ha : Text.isBlank c.action = true
    · simp only [if_neg ht, if_pos ha]
      rfl
    · simp only [if_neg ht, if_neg ha]
      rfl

theorem conditions_eq (js : List (String × Json)) : conditions js =
    accept (js.filterMap fun e => patternFault? e.1 e.2)
      (js.map fun e => (e.1, e.2.toValue)) := by
  induction js with
  | nil => rfl
  | cons e js ih =>
    obtain ⟨key, j⟩ := e
    simp only [conditions, List.filterMap_cons, patternFault?, List.map_cons, ih, accept_map]
    split
    · rfl
    · rfl

theorem matcherValues_eq (c : RuleConfig) :
    c.matcherValues = accept c.conditionFaults c.written.conditions := by
  unfold matcherValues conditionFaults written
  cases c.matcher with
  | none => rfl
  | some m =>
    simp only [conditions_eq, accept_map]
    exact congrArg (fun d => accept _ (some d)) (Dict.ofList_map_entries Json.toValue m)

theorem flagTexts_eq (js : List (String × Json)) : flagTexts js =
    accept (js.filterMap fun e => flagFault? e.1 e.2)
      (js.map fun e => (e.1, (flagText? e.2).getD "")) := by
  induction js with
  | nil => rfl
  | cons e js ih =>
    obtain ⟨name, j⟩ := e
    simp only [flagTexts, List.filterMap_cons, flagFault?, List.map_cons]
    cases flagText? j with
    | none => rfl
    | some text =>
      simp only [ih, accept_map]
      rfl

theorem checkRule_eq (r : Rule) : checkRule r =
    accept ((limitFault? r).toList ++ (r.expressionText?.bind expressionFault?).toList) () := by
  unfold checkRule limitFault? checkExpression
  cases Limit.of r with
  | error e => rfl
  | ok limit =>
    cases r.expressionText? with
    | none => rfl
    | some text =>
      simp only [Option.bind_some, expressionFault?]
      split
      · rfl
      · cases Expression.compile text <;> rfl

theorem toRule_eq_accept (c : RuleConfig) : c.toRule = accept c.faults c.written := by
  have hdraft : c.draft c.written.conditions
      (c.flags.entries.map fun e => (e.1, (flagText? e.2).getD "")) = c.written := by
    unfold draft written
    rw [Dict.ofList_map_entries (fun j => (flagText? j).getD "")]
  rw [toRule_eq, checkNames_eq, matcherValues_eq, flagTexts_eq, faults]
  simp only [List.append_assoc]
  rw [← List.append_assoc]
  refine accept_bind (accept_bind (accept_bind ?_))
  rw [hdraft, checkRule_eq, accept_map]

theorem toRule_eq_written {c : RuleConfig} (ht : Text.isBlank c.target = false)
    (ha : Text.isBlank c.action = false)
    (h : c.conditionFaults ++ c.flagFaults ++ (limitFault? c.written).toList ++
      (c.written.expressionText?.bind expressionFault?).toList = []) :
    c.toRule = .ok c.written := by
  have hfaults : c.faults = [] := by
    simpa [faults, blankFault?, ht, ha] using h
  rw [toRule_eq_accept, hfaults]
  rfl

theorem limit_of_faults_nil {c : RuleConfig} (h : c.faults = []) :
    ∃ limit, Limit.of c.written = .ok limit := by
  have hnone : limitFault? c.written = none := by
    simp only [faults, List.append_eq_nil_iff] at h
    exact Option.toList_eq_nil_iff.1 h.1.2
  unfold limitFault? at hnone
  split at hnone
  · next limit hl => exact ⟨limit, hl⟩
  · cases hnone

theorem flags_of_faults_nil {c : RuleConfig} (h : c.faults = []) :
    c.written.flags.map some = c.flags.map flagText? := by
  have hnone : ∀ e ∈ c.flags.entries, flagFault? e.1 e.2 = none := by
    have hflags : c.flagFaults = [] := by
      simp only [faults, List.append_eq_nil_iff] at h
      exact h.1.1.2
    exact List.filterMap_eq_nil_iff.1 hflags
  apply Dict.ext
  change (c.flags.entries.map _).map _ = c.flags.entries.map _
  rw [List.map_map]
  apply List.map_congr_left
  intro e he
  have hf := hnone e he
  unfold flagFault? at hf
  cases ht : flagText? e.2 with
  | none => simp [ht] at hf
  | some text => simp [ht]

end RuleConfig

namespace RuleSet

open RuleConfig

theorem rulesFrom_of_valid {cs : List RuleConfig} (h : ∀ c ∈ cs, c.faults = []) (index : Nat) :
    rulesFrom index cs = .ok (cs.map written) := by
  induction cs generalizing index with
  | nil => rfl
  | cons c cs ih =>
    have hc := h c List.mem_cons_self
    have hcs := ih (fun d hd => h d (List.mem_cons_of_mem c hd)) (index + 1)
    simp only [rulesFrom, toRule_eq_accept, hc, accept, hcs]
    rfl

theorem rulesFrom_of_fault {before : List RuleConfig} (h : ∀ b ∈ before, b.faults = [])
    {c : RuleConfig} {f : RuleFault} (hf : c.faults.head? = some f) (behind : List RuleConfig)
    (index : Nat) :
    rulesFrom index (before ++ c :: behind) = .error ⟨index + before.length, f⟩ := by
  induction before generalizing index with
  | nil =>
    obtain ⟨more, hmore⟩ := List.head?_eq_some_iff.1 hf
    simp only [List.nil_append, rulesFrom, toRule_eq_accept, hmore, accept]
    rfl
  | cons b before ih =>
    have hb := h b List.mem_cons_self
    have hrest := ih (fun d hd => h d (List.mem_cons_of_mem b hd)) (index + 1)
    have hindex : index + 1 + before.length = index + (b :: before).length := by
      rw [List.length_cons]
      omega
    simp only [List.cons_append, rulesFrom, toRule_eq_accept, hb, accept, hrest, hindex]
    rfl

end RuleSet

namespace Registry

open RuleConfig

/-- Loading is all or nothing. The first rule with a fault stops it with the first of its faults and
leaves the registry as it was; without faults all rules stand behind those of their targets, as they
are written, counted from zero. -/
theorem load_all_or_nothing {made : List Experiment} {r : Registry} (h : Reached made r)
    (s : RuleSet) :
    let reply := (r.perform (.load s)).1
    let after := (r.perform (.load s)).2
    let loaded := Experiment.numberedFrom r.next (s.rules.map written)
    (∀ before c behind f, s.rules = before ++ c :: behind → (∀ b ∈ before, b.faults = []) →
      c.faults.head? = some f → reply = .loaded (.error ⟨before.length, f⟩) ∧ after = r) ∧
    ((∀ c ∈ s.rules, c.faults = []) →
      reply = .loaded (.ok s.rules.length) ∧
      (∀ target, after.forTarget target =
        r.forTarget target ++ loaded.filter fun e => e.rule.target = target) ∧
      (∀ e ∈ loaded, after.count e = 0) ∧
      (∀ target, ∀ e ∈ r.forTarget target, after.count e = r.count e) ∧
      ∀ c ∈ s.rules, c.written.flags.map some = c.flags.map flagText?) := by
  intro reply after loaded
  constructor
  · intro before c behind f hs hbefore hf
    have herror : s.toRules = .error ⟨before.length, f⟩ := by
      rw [RuleSet.toRules, hs, RuleSet.rulesFrom_of_fault hbefore hf, Nat.zero_add]
    have hperform : r.perform (.load s) = (.loaded (.error ⟨before.length, f⟩), r) := by
      simp only [perform, load, herror]
      rfl
    exact ⟨congrArg Prod.fst hperform, congrArg Prod.snd hperform⟩
  · intro hvalid
    have hperform : r.perform (.load s) =
        (.loaded (.ok (s.rules.map written).length), r.registerAll (s.rules.map written)) := by
      simp only [perform, load, RuleSet.toRules, RuleSet.rulesFrom_of_valid hvalid]
      rfl
    have hafter : after = r.registerAll (s.rules.map written) := congrArg Prod.snd hperform
    refine ⟨?_, fun target => ?_, fun e he => ?_, fun target e he => ?_, fun c hc => ?_⟩
    · rw [List.length_map] at hperform
      exact congrArg Prod.fst hperform
    · rw [hafter]
      exact forTarget_registerAll r _ target
    · rw [hafter]
      exact count_registerAll_of_mem he
    · rw [hafter]
      exact count_registerAll_of_lt (h.serial_lt he) _
    · exact flags_of_faults_nil (hvalid c hc)

theorem load_all_or_nothing_behind :
    let old : Rule := { target := "t", action := "a" }
    let r := (Registry.empty.register old).2.setCount ⟨0, old⟩ 3
    let good : RuleConfig := {
      id := some "x", target := "t", action := "b", matcher := some Dict.empty
      paramExp := none, flags := Dict.ofList [("n", .int 5)] }
    let bad : RuleConfig := { good with flags := Dict.ofList [("n", .null)] }
    Reached [⟨0, old⟩] r ∧ good.faults = [] ∧ bad.faults.head? = some (.invalidFlag "n") ∧
      (r.perform (.load ⟨[good, bad]⟩)).1 = .loaded (.error ⟨1, .invalidFlag "n"⟩) ∧
      (r.perform (.load ⟨[good]⟩)).2.forTarget "t" = [⟨0, old⟩, ⟨1, good.written⟩] ∧
      (r.perform (.load ⟨[good]⟩)).2.count ⟨0, old⟩ = 3 := by
  intro old r good bad
  have h : Reached [⟨0, old⟩] r := (Reached.empty.register old).setCount ⟨0, old⟩ 3
  have htarget : Text.isBlank "t" = false := by decide
  have haction : Text.isBlank "b" = false := by decide
  have hgood : good.faults = [] := by
    simp only [faults, blankFault?, good, htarget, haction]
    rfl
  have hbad : bad.faults.head? = some (.invalidFlag "n") := by
    simp only [faults, blankFault?, bad, good, htarget, haction]
    rfl
  have hfault := (load_all_or_nothing h ⟨[good, bad]⟩).1 [good] bad [] _ rfl
    (fun b hb => List.mem_singleton.1 hb ▸ hgood) hbad
  have hvalid := (load_all_or_nothing h ⟨[good]⟩).2 fun b hb => List.mem_singleton.1 hb ▸ hgood
  have hold : ⟨0, old⟩ ∈ r.forTarget "t" := List.mem_cons_self
  exact ⟨h, hgood, hbad, hfault.1, hvalid.2.1 "t", hvalid.2.2.2.1 "t" _ hold⟩

end Registry
end FaultInjection
