import KDispatch.Proofs.Rule.Stages
import KDispatch.Rule.CoverageLogger

/-!
Recovering a rule from its compiled form. A rule compiled for coverage rewrites the left side of what
the user wrote to the right side behind a logging call; stripped and minimized it is the minimized rule
of the user, wherever the user's rewrites stand.
-/

namespace KDispatch

namespace Term

theorem isProjectionLabel_append (sort : String) : isProjectionLabel ("project:" ++ sort) := by
  unfold isProjectionLabel hasLabelStart
  rw [String.toList_append, List.isPrefixOf_iff_prefix]
  exact List.prefix_append _ _

@[simp] theorem loggedTerm?_apply (sort : String) (log t : Term) :
    (apply ("project:" ++ sort) [.sequence [log, t]]).loggedTerm? = some t := by
  simp [loggedTerm?, isProjectionLabel_append]

/-- What is pushed down of a term with flat rewrites depends on its two sides only. -/
theorem pushDown_removeCasts {t : Term} (hflat : t.RewritesFlat) (halias : t.AliasesRewriteFree) :
    t.removeCasts.pushDown =
      pushRewrite (t.projection .left).removeCasts (t.projection .right).removeCasts := by
  rw [← projection_removeCasts, ← projection_removeCasts]
  exact (pushRewrite_projections hflat.removeCasts halias.removeCasts).symm

end Term

namespace Rule

/-- A rule whose body rewrites the left side of a term to its right side behind a logging call is
stripped and minimized to the rule with that term as its body; so are the rules with any other
placement of rewrites in which the two sides are the same. -/
theorem minimize_stripCoverageLogger_logged (body : Term) (hflat : body.RewritesFlat)
    (halias : body.AliasesRewriteFree) (requires ensures : Option Term) (attributes : Attributes)
    (sort : String) (log : Term) :
    (Rule.mk (.rewrite (body.projection .left)
        (.apply ("project:" ++ sort) [.sequence [log, body.projection .right]]))
      requires ensures attributes).stripCoverageLogger.minimize =
        (Rule.mk body requires ensures attributes).minimize ∧
    ∀ placed : Term, placed.RewritesFlat → placed.AliasesRewriteFree →
      (∀ side, placed.projection side = body.projection side) →
      (Rule.mk placed requires ensures attributes).minimize =
        (Rule.mk body requires ensures attributes).minimize := by
  have hpushed := Term.pushDown_removeCasts hflat halias
  refine ⟨minimize_congr ?_ rfl rfl rfl, fun placed hflat' halias' hsides =>
    minimize_congr ?_ rfl rfl rfl⟩
  · simp only [pushedBody, stripCoverageLogger, Term.stripCoverageLogger, Term.loggedTerm?_apply,
      Option.getD_some, Term.removeCasts_rewrite, Term.pushDown]
    exact hpushed.symm
  · simp only [pushedBody]
    rw [Term.pushDown_removeCasts hflat' halias', hsides, hsides]
    exact hpushed.symm

/-- In a cell, the rewrite of a casted variable followed by a computation that stays. -/
def loggedBody : Term :=
  .apply "<k>" [.sequence
    [.rewrite (.apply "#SemanticCastToInt" [.var "X"]) (.token "1" "Int"), .var "REST"]]

theorem minimize_stripCoverageLogger_loggedBody :
    loggedBody.RewritesFlat ∧ loggedBody.AliasesRewriteFree ∧
    (Rule.mk (.rewrite (loggedBody.projection .left)
        (.apply ("project:" ++ "KItem") [.sequence
          [.apply "#logToFile" [], loggedBody.projection .right]]))
      none none .empty).stripCoverageLogger.minimize =
        (Rule.mk loggedBody none none .empty).minimize ∧
    (Rule.mk (.rewrite (loggedBody.projection .left) (loggedBody.projection .right))
      none none .empty).minimize = (Rule.mk loggedBody none none .empty).minimize := by
  have h := minimize_stripCoverageLogger_logged loggedBody (by decide) (by decide) none none .empty
    "KItem" (.apply "#logToFile" [])
  refine ⟨by decide, by decide, h.1, h.2 _ (by decide) (by decide) ?_⟩
  rintro (_ | _) <;> decide

end Rule

end KDispatch
