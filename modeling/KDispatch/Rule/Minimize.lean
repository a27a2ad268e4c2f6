import KDispatch.Rule.Basic
import KDispatch.Term.Passes

/-!
Minimization of a rule to the part that changes something: trivial conditions and casts go, rewrites
sink, and variables that the rule never looks at become dots with the cells around them.
-/

namespace KDispatch.Rule

/-- A variable that occurs once in the body and in no condition. -/
def isUseless (body : Term) (requires ensures : Option Term) (name : String) : Bool :=
  body.occurrences name == 1 &&
    requires.all (·.occurrences name == 0) && ensures.all (·.occurrences name == 0)

def minimize (rule : Rule) : Rule :=
  let requires := rule.requires.bind Condition.simplify?
  let ensures := rule.ensures.bind Condition.simplify?
  let body := rule.body.removeCasts.pushDown
  { rule with
    body := (body.elide (isUseless body requires ensures)).collapseDots true
    requires
    ensures }

end KDispatch.Rule
