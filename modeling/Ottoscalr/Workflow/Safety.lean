import Ottoscalr.Workflow.Execute

/-!
# What the workflow guarantees of the configurations it returns

`execute` raises the floor of the recommended configuration to the workflow's
least (`transformTargetRecoConfig`) before it reconciles it with a policy.
With any recommender whose proposals are well formed and policies that cut
between `0` and `100` percent, the least floor is a floor of both the target
and the next configuration of every run that returns normally, whenever the
cap allows it (`execute_min_ge_minRequiredReplicas`).

And a run of the CPU recommender's workflow panics only on a metric step under
one second or, when the recommendation applies, on an absent store
(`execute_panic_cases`).
-/

namespace Ottoscalr

variable {rw : RecommendationWorkflowImpl} {wm : WorkloadMeta}

/-! ## The least floor -/

/-- With policies that cut between `0` and `100` percent, the next
    configuration of a well-formed target has its cap, and a floor between the
    target's and the cap. -/
theorem generateNextRecoConfig_within {t : HPAConfiguration} {np : Option Policy}
    {next : Option HPAConfiguration} {applied : Option Policy}
    (hcut : ∀ pi ∈ rw.policyIterators, ∀ p, pi.nextPolicy wm = .ok (some p) →
      0 ≤ p.minReplicaPercentageCut ∧ p.minReplicaPercentageCut ≤ 100)
    (hnp : mergePolicies rw.policyIterators wm = .ok np) (hle : t.min ≤ t.max)
    (hgen : generateNextRecoConfig rw (some t) np = .ok (next, applied)) :
    ∃ n, next = some n ∧ t.min ≤ n.min ∧ n.min ≤ n.max ∧ n.max = t.max := by
  rcases generateNextRecoConfig_cases hgen with ⟨-, rfl⟩ | ⟨hshould, rfl, -⟩
  · exact ⟨t, rfl, le_rfl, hle, rfl⟩
  · cases np with
    | none => simp [shouldApplyReco] at hshould
    | some p =>
      obtain ⟨⟨pi, hpi, hp⟩, -⟩ := mergePolicies_least hnp
      obtain ⟨hc0, hc100⟩ := hcut pi hpi p hp
      obtain ⟨hlo, hhi⟩ := createRecoConfigFromPolicy_bounds hc0 hc100 hle
      rw [createRecoConfigFromPolicy_eq]
      exact ⟨_, rfl, hlo, hhi, rfl⟩

/-- With any recommender whose proposals have a floor at most their cap, and
    policies that cut between `0` and `100` percent: when the target's cap is
    at least the workflow's least floor, that floor is a floor of the target
    and of the next configuration, which keeps the target's cap. -/
theorem execute_min_ge_minRequiredReplicas
    (hwf : ∀ r config, rw.recommender = some r → r.recommend wm = .ok (some config) → config.min ≤ config.max)
    (hcut : ∀ pi ∈ rw.policyIterators, ∀ p, pi.nextPolicy wm = .ok (some p) →
      0 ≤ p.minReplicaPercentageCut ∧ p.minReplicaPercentageCut ≤ 100)
    {next : Option HPAConfiguration} {target : HPAConfiguration} {applied : Option Policy}
    (h : execute rw wm = .ok (next, some target, applied)) (hcap : rw.minRequiredReplicas ≤ target.max) :
    ∃ n, next = some n ∧ rw.minRequiredReplicas ≤ target.min ∧ target.min ≤ n.min ∧ n.min ≤ n.max ∧
      n.max = target.max := by
  obtain ⟨r, t₀, np, hr, ht₀, htarget, hnp, hgen⟩ := execute_ok h
  cases t₀ with
  | none => cases htarget
  | some config =>
    have hle := hwf r config hr ht₀
    simp only [transformTargetRecoConfig, Option.some.injEq] at htarget
    -- The raised floor is at least the least floor, and at most the cap.
    have hraised : rw.minRequiredReplicas ≤ target.min ∧ target.min ≤ target.max := by
      subst htarget
      dsimp only at hcap ⊢
      split_ifs <;> omega
    obtain ⟨n, rfl, hlo, hhi, hmax⟩ := generateNextRecoConfig_within hcut hnp hraised.2 hgen
    exact ⟨n, rfl, hraised.1, hlo, hhi, hmax⟩

theorem execute_min_ge_minRequiredReplicas_on_recommendation :
    (∀ r config, (⟨some (fixedRecommender ⟨1, 10, 50⟩), [], some emptyStore, 3⟩ :
      RecommendationWorkflowImpl).recommender = some r → r.recommend webWorkload = .ok (some config) →
        config.min ≤ config.max) ∧
    (∀ pi ∈ ([] : List PolicyIterator), ∀ p, pi.nextPolicy webWorkload = .ok (some p) →
      0 ≤ p.minReplicaPercentageCut ∧ p.minReplicaPercentageCut ≤ 100) ∧
    execute ⟨some (fixedRecommender ⟨1, 10, 50⟩), [], some emptyStore, 3⟩ webWorkload =
      .ok (some ⟨3, 10, 50⟩, some ⟨3, 10, 50⟩, some ⟨"", "", 0, 0⟩) ∧
    (3 : ℤ) ≤ 10 ∧
    ∃ n, some (⟨3, 10, 50⟩ : HPAConfiguration) = some n ∧ (3 : ℤ) ≤ 3 ∧ (3 : ℤ) ≤ n.min ∧ n.min ≤ n.max ∧
      n.max = 10 := by
  have hwf : ∀ r config, (⟨some (fixedRecommender ⟨1, 10, 50⟩), [], some emptyStore, 3⟩ :
      RecommendationWorkflowImpl).recommender = some r → r.recommend webWorkload = .ok (some config) →
        config.min ≤ config.max := by
    rintro r config ⟨⟩ ⟨⟩
    decide
  have hrun : execute ⟨some (fixedRecommender ⟨1, 10, 50⟩), [], some emptyStore, 3⟩ webWorkload =
      .ok (some ⟨3, 10, 50⟩, some ⟨3, 10, 50⟩, some ⟨"", "", 0, 0⟩) := by
    with_unfolding_all rfl
  exact ⟨hwf, fun _ h => (by cases h), hrun, by decide,
    execute_min_ge_minRequiredReplicas hwf (fun _ h => (by cases h)) hrun (by decide)⟩

/-! ## Panics -/

/-- With a target configuration, `generateNextRecoConfig` panics only on an
    absent store. -/
theorem generateNextRecoConfig_error_of_some {t : HPAConfiguration} {np : Option Policy} {f : Fault}
    (h : generateNextRecoConfig rw (some t) np = .error f) :
    rw.policyStore = none ∧ f = .nilDereference "rw.policyStore.GetSortedPolicies()" := by
  unfold generateNextRecoConfig at h
  split_ifs at h
  split at h
  · cases h; exact ⟨‹_›, rfl⟩
  · split at h
    · cases h
    · rw [findClosestSafePolicy, foldlM_closestSafeStep] at h
      cases h

/-- A workflow of the CPU recommender panics only on a metric step under one
    second, dividing by its whole seconds, or, when the recommendation applies,
    on an absent store. -/
theorem execute_panic_cases (c : CpuUtilizationBasedRecommender) (env : Collaborators)
    (hrec : rw.recommender = some (c.toRecommender env)) {f : Fault} (h : execute rw wm = .error f)
    (hf : ∀ e, f ≠ .error e) :
    (seconds c.metricStep = 0 ∧ f = .divideByZero "int(c.metricWindow.Seconds()) / int(c.metricStep.Seconds())") ∨
      (rw.policyStore = none ∧ f = .nilDereference "rw.policyStore.GetSortedPolicies()") := by
  unfold execute at h
  rw [hrec] at h
  dsimp only at h
  split at h
  · -- The recommender fails.
    cases h
    exact .inl ((recommend_error_cases (CpuUtilizationBasedRecommender.toRecommender_error ‹_›)).resolve_left
      fun ⟨e, he⟩ => hf e he)
  · rename_i t hrecommend
    obtain ⟨config, -, rfl⟩ := CpuUtilizationBasedRecommender.toRecommender_ok hrecommend
    split at h
    · cases h; exact absurd rfl (hf _)
    · split at h
      · cases h
        exact .inr (generateNextRecoConfig_error_of_some ‹_›)
      · cases h

/-- The workflow of the CPU recommender on a fresh workload, without a store. -/
def storelessWorkflow : RecommendationWorkflowImpl :=
  ⟨some (sampleRecommender.toRecommender (freshWorkload 4)), [], none, 3⟩

theorem execute_panic_cases_on_storeless :
    storelessWorkflow.recommender = some (sampleRecommender.toRecommender (freshWorkload 4)) ∧
    execute storelessWorkflow webWorkload = .error (.nilDereference "rw.policyStore.GetSortedPolicies()") ∧
    (∀ e, Fault.nilDereference "rw.policyStore.GetSortedPolicies()" ≠ .error e) ∧
    ((seconds sampleRecommender.metricStep = 0 ∧ Fault.nilDereference "rw.policyStore.GetSortedPolicies()" =
        .divideByZero "int(c.metricWindow.Seconds()) / int(c.metricStep.Seconds())") ∨
      (storelessWorkflow.policyStore = none ∧
        Fault.nilDereference "rw.policyStore.GetSortedPolicies()" =
          .nilDereference "rw.policyStore.GetSortedPolicies()")) := by
  have hrun : execute storelessWorkflow webWorkload =
      .error (.nilDereference "rw.policyStore.GetSortedPolicies()") := by
    with_unfolding_all rfl
  have hf : ∀ e, Fault.nilDereference "rw.policyStore.GetSortedPolicies()" ≠ .error e := fun _ h => by cases h
  exact ⟨rfl, hrun, hf, execute_panic_cases sampleRecommender (freshWorkload 4) rfl hrun hf⟩

end Ottoscalr
