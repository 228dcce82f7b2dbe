import FaultInjection.Matching.Strategy

namespace FaultInjection

structure Call where
  target : String
  attributes : Option (Dict Value) := none
  arguments : List Value := []
  matchers : Dict Matcher := Dict.empty
  flags : Dict String := Dict.empty

namespace Call

def attribute? (c : Call) (key : String) : Option Value :=
  c.attributes.bind (·.get? key)

def withAttribute (c : Call) (key : String) (v : Value) : Call :=
  { c with attributes := some ((c.attributes.getD Dict.empty).insert key v) }

def withEmptyAttributes (c : Call) : Call :=
  { c with attributes := some (c.attributes.getD Dict.empty) }

def withArgument (c : Call) (v : Value) : Call :=
  { c with arguments := c.arguments ++ [v] }

def withMatcher (c : Call) (key : String) (m : Matcher) : Call :=
  { c with matchers := c.matchers.insert key m }

def merge (c : Call) (r : Rule) : Call :=
  { c with flags := c.flags.merge r.flags }

@[simp] theorem attribute?_withAttribute (c : Call) (key : String) (v : Value) (key' : String) :
    (c.withAttribute key v).attribute? key' =
      if key' = key then some v else c.attribute? key' := by
  change (((c.attributes.getD Dict.empty).insert key v).get? key') = _
  have hread : (c.attributes.getD Dict.empty).get? key' = c.attribute? key' := by
    unfold attribute?
    cases c.attributes <;> rfl
  grind

@[simp] theorem matchers_withAttribute (c : Call) (key : String) (v : Value) :
    (c.withAttribute key v).matchers = c.matchers := rfl

@[simp] theorem target_merge (c : Call) (r : Rule) : (c.merge r).target = c.target := rfl

end Call
end FaultInjection
