import KDispatch.Rule.Basic

/-!
Coverage logging: a rule compiled for coverage rewrites to a projection of the sequence of a logging
call and the right-hand side the user wrote. `Rule.stripCoverageLogger` recovers the latter.
-/

namespace KDispatch

namespace Term

def isProjectionLabel (label : String) : Bool := hasLabelStart "project:" label

/-- The second of exactly two items in the first argument of a projection. -/
def loggedTerm? : Term → Option Term
  | .apply label (.sequence [_, logged] :: _) =>
    if isProjectionLabel label then some logged else none
  | _ => none

/-- A top-level rewrite without the logging wrapper of its right-hand side. -/
def stripCoverageLogger : Term → Term
  | .rewrite lhs rhs => .rewrite lhs (rhs.loggedTerm?.getD rhs)
  | t => t

end Term

/-- The rule without its logging wrapper; conditions and attributes stay. -/
def Rule.stripCoverageLogger (rule : Rule) : Rule :=
  { rule with body := rule.body.stripCoverageLogger }

end KDispatch
