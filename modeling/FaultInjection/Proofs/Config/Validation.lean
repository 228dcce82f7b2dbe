import FaultInjection.Config.RuleSet

namespace FaultInjection

section

variable {ε α β : Type}

theorem except_bind_eq_ok {x : Except ε α} {f : α → Except ε β} {b : β} (h : x.bind f = .ok b) :
    ∃ a, x = .ok a ∧ f a = .ok b := by
  cases x with
  | error e => cases h
  | ok a => exact ⟨a, rfl, h⟩

theorem except_map_eq_ok {x : Except ε α} {f : α → β} {b : β} (h : x.map f = .ok b) :
    ∃ a, x = .ok a ∧ f a = b := by
  cases x with
  | error e => cases h
  | ok a => exact ⟨a, rfl, Except.ok.inj h⟩

end

namespace RuleConfig

def checkNames (c : RuleConfig) : Except RuleFault Unit :=
  if Text.isBlank c.target then .error (.blankField "target")
  else if Text.isBlank c.action then .error (.blankField "action")
  else .ok ()

def matcherValues (c : RuleConfig) : Except RuleFault (Option (Dict Value)) :=
  match c.matcher with
  | some m => (conditions m.entries).map fun cs => some (Dict.ofList cs)
  | none => .ok none

def draft (c : RuleConfig) (conditions : Option (Dict Value)) (flags : List (String × String)) :
    Rule where
  id := c.id
  target := c.target
  action := c.action
  conditions := conditions
  expression := c.paramExp
  flags := Dict.ofList flags

def checkRule (r : Rule) : Except RuleFault Unit :=
  match Limit.of r with
  | .ok _ => checkExpression r.expressionText?
  | .error e => .error (.invalidLimit e)

theorem checked_eq (r : Rule) :
    (do
      match Limit.of r with
      | .ok _ => checkExpression r.expressionText?
      | .error e => throw (.invalidLimit e)
      pure r) = (checkRule r).map fun _ => r := by
  unfold checkRule
  cases Limit.of r with
  | error e => rfl
  | ok limit => cases checkExpression r.expressionText? <;> rfl

theorem toRule_eq (c : RuleConfig) :
    c.toRule = c.checkNames.bind fun _ =>
      c.matcherValues.bind fun conditions =>
        (flagTexts c.flags.entries).bind fun flags =>
          (checkRule (c.draft conditions flags)).map fun _ => c.draft conditions flags := by
  unfold toRule checkNames matcherValues
  by_cases ht : Text.isBlank c.target = true
  · simp only [if_pos ht]
    rfl
  · by_cases ha : Text.isBlank c.action = true
    · simp only [if_neg ht, if_pos ha]
      rfl
    · simp only [if_neg ht, if_neg ha]
      cases c.matcher with
      | none =>
        cases flagTexts c.flags.entries with
        | error e => rfl
        | ok flags => exact checked_eq (c.draft none flags)
      | some m =>
        dsimp only
        cases conditions m.entries with
        | error e => rfl
        | ok cs =>
          cases flagTexts c.flags.entries with
          | error e => rfl
          | ok flags => exact checked_eq (c.draft (some (Dict.ofList cs)) flags)

end RuleConfig
end FaultInjection
