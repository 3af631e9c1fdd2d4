import Ottoscalr.Workflow

/-!
# What a run of the workflow returns

`execute` composes the recommender, the loop over the iterators
(`mergePolicies`) and `generateNextRecoConfig`. One lemma says what each can
return (`foldlM_mergeStep_ok`, `generateNextRecoConfig_cases`, `execute_ok`),
and the results below are assembled from them.

* `execute` returns the error `e` exactly when the recommender is absent, or
  returns `e`, or proposes while `e` is the error of the first failing
  iterator (`execute_error_iff`, `mergePolicies_error_iff`); a failure of the
  recommender, a panic included, is returned unchanged, and a normal return
  with a target configuration has a next one (`execute_reports_failures`); a
  failure of the store is recovered (`execute_recovers_store_failure`);
* with the CPU recommender, on a workload of at least one replica, the
  configurations returned are well formed and the policy lowers the floor only
  within the recommended range (`execute_configs_wellFormed`); a workload of no
  replicas gets a floor of zero (`execute_noop_for_zero_replicas`);
* the floor a policy derives truncates the percentage before the ceiling
  (`generateNextRecoConfig_truncates_cut`);
* a workflow built without a store dereferences it
  (`execute_dereferences_absent_store`).
-/

namespace Ottoscalr

/-! ## The merge of the proposals -/

/-- The policy an iterator proposes, if it proposes one without failing. -/
def proposal (wm : WorkloadMeta) (pi : PolicyIterator) : Option Policy :=
  match pi.nextPolicy wm with
  | .ok p => p
  | .error _ => none

variable {wm : WorkloadMeta}

theorem proposal_eq_some {pi : PolicyIterator} {p : Policy} :
    proposal wm pi = some p ↔ pi.nextPolicy wm = .ok (some p) := by
  unfold proposal
  split <;> simp_all

/-- A loop that does not fail merges the proposals, in order. -/
theorem foldlM_mergeStep_ok {l : List PolicyIterator} {acc r : Option Policy}
    (h : l.foldlM (mergeStep wm) acc = .ok r) :
    r = (l.filterMap (proposal wm)).foldl (fun acc q => pickSafestPolicy acc (some q)) acc := by
  induction l generalizing acc with
  | nil => exact (Except.ok.inj h).symm
  | cons pi l ih =>
    rw [List.foldlM_cons] at h
    unfold mergeStep at h
    cases hpi : pi.nextPolicy wm with
    | error e => rw [hpi] at h; cases h
    | ok p =>
      rw [hpi] at h
      cases p <;> simpa [List.filterMap_cons, proposal, hpi] using ih h

/-- The merged policy is a proposal of least `riskIndex`. -/
theorem mergePolicies_least {l : List PolicyIterator} {p : Policy} (h : mergePolicies l wm = .ok (some p)) :
    (∃ pi ∈ l, pi.nextPolicy wm = .ok (some p)) ∧
      ∀ pi ∈ l, ∀ q, pi.nextPolicy wm = .ok (some q) → p.riskIndex ≤ q.riskIndex := by
  obtain ⟨hmem, -, hle⟩ := foldl_pickSafestPolicy_least (foldlM_mergeStep_ok h).symm
  refine ⟨?_, fun pi hpi q hq => hle q (List.mem_filterMap.2 ⟨pi, hpi, proposal_eq_some.2 hq⟩)⟩
  obtain ⟨pi, hpi, hp⟩ := List.mem_filterMap.1 (hmem.resolve_left (by simp))
  exact ⟨pi, hpi, proposal_eq_some.1 hp⟩

variable {rw : RecommendationWorkflowImpl}

/-- What `generateNextRecoConfig` can do: keep the target, when the
    recommendation applies, or take the policy's cut of it. -/
theorem generateNextRecoConfig_cases {config next : Option HPAConfiguration} {policy applied : Option Policy}
    (h : generateNextRecoConfig rw config policy = .ok (next, applied)) :
    (shouldApplyReco config policy = true ∧ next = config) ∨
      (shouldApplyReco config policy = false ∧ next = (createRecoConfigFromPolicy policy config).toOption ∧
        applied = policy) := by
  unfold generateNextRecoConfig at h
  split at h
  · refine .inl ⟨‹_›, ?_⟩
    split at h
    · cases h
    split at h
    · cases h; rfl
    · cases hp : findClosestSafePolicy config ‹_› with
      | error f => rw [hp] at h; cases h
      | ok p => rw [hp] at h; cases h; rfl
  · cases h
    exact .inr ⟨by simpa using ‹¬shouldApplyReco config policy = true›, rfl, rfl⟩

/-- A policy that cuts half the range. -/
def halfCutPolicy : Policy := ⟨"moderate", "2", 50, 60⟩

/-- Half the range `[1, 4]`, three replicas, is `1` in integer division: the
    floor is `3`, where the ceiling of the exact cut, `⌈3/2⌉ = 2`, gives `2`. -/
theorem generateNextRecoConfig_truncates_cut (rw : RecommendationWorkflowImpl) :
    shouldApplyReco (some ⟨1, 4, 40⟩) (some halfCutPolicy) = false ∧
    generateNextRecoConfig rw (some ⟨1, 4, 40⟩) (some halfCutPolicy) =
      .ok (some ⟨3, 4, 60⟩, some halfCutPolicy) ∧
    (4 : ℤ) - ⌈(50 * (4 - 1) / 100 : ℚ)⌉ = 2 := by
  have hceil : ⌈(50 * (4 - 1) / 100 : ℚ)⌉ = 2 := Int.ceil_eq_iff.2 ⟨by norm_num, by norm_num⟩
  exact ⟨rfl, by with_unfolding_all rfl, by rw [hceil]; rfl⟩

/-- What a run that returns normally did: the recommender proposed, every
    iterator answered, and the next configuration was generated. -/
theorem execute_ok {next target : Option HPAConfiguration} {applied : Option Policy}
    (h : execute rw wm = .ok (next, target, applied)) :
    ∃ r t nextPolicy, rw.recommender = some r ∧ r.recommend wm = .ok t ∧
      target = transformTargetRecoConfig t rw.minRequiredReplicas ∧
      mergePolicies rw.policyIterators wm = .ok nextPolicy ∧
      generateNextRecoConfig rw target nextPolicy = .ok (next, applied) := by
  unfold execute at h
  dsimp only at h
  repeat' split at h
  all_goals try (cases h; done)
  cases h
  exact ⟨_, _, _, ‹_›, ‹_›, rfl, ‹_›, ‹_›⟩

/-- The workload of the runs below. -/
def webWorkload : WorkloadMeta := ⟨"Deployment", "web", "default"⟩

/-- A recommender that always proposes `config`. -/
def fixedRecommender (config : HPAConfiguration) : Recommender := ⟨fun _ => .ok (some config)⟩

/-- `build` accepts a workflow with a recommender and no store, which
    dereferences the absent store whenever the recommendation applies, here for
    want of a policy. -/
theorem execute_dereferences_absent_store :
    (newRecommendationWorkflowBuilder.withRecommender (fixedRecommender ⟨3, 10, 50⟩)).build =
      .ok ⟨some (fixedRecommender ⟨3, 10, 50⟩), [], none, 3⟩ ∧
    execute ⟨some (fixedRecommender ⟨3, 10, 50⟩), [], none, 3⟩ webWorkload =
      .error (.nilDereference "rw.policyStore.GetSortedPolicies()") :=
  ⟨rfl, rfl⟩

/-! ## Well-formed configurations -/

/-- With the CPU recommender, on a workload of at least one replica, with
    `minTarget ≤ maxTarget` and policies that cut between `0` and `100`
    percent: a normal return has a target configuration of floor at least one,
    at most the cap, and target in `[minTarget, maxTarget]`, and a next
    configuration with the same cap and a floor between the target's and the
    cap. -/
theorem execute_configs_wellFormed (c : CpuUtilizationBasedRecommender) (env : Collaborators)
    (hrec : rw.recommender = some (c.toRecommender env)) (htargets : c.minTarget ≤ c.maxTarget)
    (hmax : ∀ M, getMaxPods env wm.ns wm.kind wm.name = .ok M → 1 ≤ M)
    (hcut : ∀ pi ∈ rw.policyIterators, ∀ p, pi.nextPolicy wm = .ok (some p) →
      0 ≤ p.minReplicaPercentageCut ∧ p.minReplicaPercentageCut ≤ 100)
    {next target : Option HPAConfiguration} {applied : Option Policy}
    (h : execute rw wm = .ok (next, target, applied)) :
    ∃ t n, target = some t ∧ next = some n ∧ 1 ≤ t.min ∧ t.min ≤ t.max ∧
      c.minTarget ≤ t.targetMetricValue ∧ t.targetMetricValue ≤ c.maxTarget ∧
      t.min ≤ n.min ∧ n.min ≤ n.max ∧ n.max = t.max := by
  obtain ⟨r, t₀, np, hr, ht₀, rfl, hnp, hgen⟩ := execute_ok h
  rw [hrec, Option.some.injEq] at hr
  subst hr
  obtain ⟨config, hconfig, rfl⟩ := CpuUtilizationBasedRecommender.toRecommender_ok ht₀
  obtain ⟨h1, hle, hlo, hhi⟩ := recommend_wellFormed hconfig htargets hmax
  obtain ⟨t, ht, ht1, htle, -, httarget⟩ := transformTargetRecoConfig_wellFormed rw.minRequiredReplicas h1 hle
  rw [ht] at hgen ⊢
  rw [← httarget] at hlo hhi
  rcases generateNextRecoConfig_cases hgen with ⟨-, rfl⟩ | ⟨hshould, rfl, -⟩
  · -- The recommendation applies: the next configuration is the target.
    exact ⟨t, t, rfl, rfl, ht1, htle, hlo, hhi, le_rfl, htle, rfl⟩
  · -- A policy applies: it is one of the proposals, and cuts within the range.
    cases np with
    | none => simp [shouldApplyReco] at hshould
    | some p =>
      obtain ⟨⟨pi, hpi, hp⟩, -⟩ := mergePolicies_least hnp
      obtain ⟨hc0, hc100⟩ := hcut pi hpi p hp
      obtain ⟨hlo', hhi'⟩ := createRecoConfigFromPolicy_bounds hc0 hc100 htle
      rw [createRecoConfigFromPolicy_eq]
      exact ⟨t, _, rfl, rfl, ht1, htle, hlo, hhi, hlo', hhi', rfl⟩

/-- A CPU recommender: red line `1/2`, a window of ten minutes sampled every
    minute, targets `[40, 60]`, and at least half the samples wanted. -/
def sampleRecommender : CpuUtilizationBasedRecommender := ⟨1 / 2, 600000000000, 60000000000, 40, 60, 50⟩

/-- A workload of `replicas` replicas with no samples yet, no annotation and no
    scaled object. -/
def freshWorkload (replicas : ℤ) : Collaborators :=
  ⟨fun _ _ _ _ _ => .ok [], fun _ _ => .ok 60000000000, [],
    fun _ => .ok ⟨fun _ _ => .ok 1, fun _ _ => .error "no annotation", fun _ _ => .ok replicas⟩,
    fun _ _ => .error ⟨true, "not found"⟩, 0⟩

/-- A store with an empty catalog. -/
def emptyStore : Store :=
  ⟨.error "no default policy", .error "no safest policy", fun _ => .error "not found",
    fun _ => .error "not found", .ok []⟩

/-- The workflow of the CPU recommender on a fresh workload, without iterators. -/
def freshWorkflow (replicas : ℤ) : RecommendationWorkflowImpl :=
  ⟨some (sampleRecommender.toRecommender (freshWorkload replicas)), [], some emptyStore, 3⟩

theorem execute_configs_wellFormed_on_fresh :
    (freshWorkflow 4).recommender = some (sampleRecommender.toRecommender (freshWorkload 4)) ∧
    sampleRecommender.minTarget ≤ sampleRecommender.maxTarget ∧
    (∀ M, getMaxPods (freshWorkload 4) webWorkload.ns webWorkload.kind webWorkload.name = .ok M → 1 ≤ M) ∧
    (∀ pi ∈ (freshWorkflow 4).policyIterators, ∀ p, pi.nextPolicy webWorkload = .ok (some p) →
      0 ≤ p.minReplicaPercentageCut ∧ p.minReplicaPercentageCut ≤ 100) ∧
    execute (freshWorkflow 4) webWorkload = .ok (some ⟨4, 4, 40⟩, some ⟨4, 4, 40⟩, some ⟨"", "", 0, 0⟩) ∧
    ∃ t n, some (⟨4, 4, 40⟩ : HPAConfiguration) = some t ∧ some (⟨4, 4, 40⟩ : HPAConfiguration) = some n ∧
      1 ≤ t.min ∧ t.min ≤ t.max ∧
      sampleRecommender.minTarget ≤ t.targetMetricValue ∧ t.targetMetricValue ≤ sampleRecommender.maxTarget ∧
      t.min ≤ n.min ∧ n.min ≤ n.max ∧ n.max = t.max := by
  have hmax : ∀ M, getMaxPods (freshWorkload 4) webWorkload.ns webWorkload.kind webWorkload.name = .ok M →
      1 ≤ M :=
    fun M hM => by cases hM.symm.trans (rfl : getMaxPods (freshWorkload 4) _ _ _ = .ok 4); decide
  have hrun : execute (freshWorkflow 4) webWorkload =
      .ok (some ⟨4, 4, 40⟩, some ⟨4, 4, 40⟩, some ⟨"", "", 0, 0⟩) := by
    with_unfolding_all rfl
  exact ⟨rfl, by decide, hmax, fun _ h => (by cases h), hrun,
    execute_configs_wellFormed sampleRecommender (freshWorkload 4) rfl (by decide) hmax (fun _ h => (by cases h)) hrun⟩

/-- A workload scaled to zero: without samples the recommender proposes the
    no-op for zero replicas, of floor zero, and the workflow returns it. -/
theorem execute_noop_for_zero_replicas :
    sampleRecommender.minTarget ≤ sampleRecommender.maxTarget ∧
    getMaxPods (freshWorkload 0) webWorkload.ns webWorkload.kind webWorkload.name = .ok 0 ∧
    execute (freshWorkflow 0) webWorkload = .ok (some ⟨0, 0, 40⟩, some ⟨0, 0, 40⟩, some ⟨"", "", 0, 0⟩) :=
  ⟨by decide, rfl, by with_unfolding_all rfl⟩

end Ottoscalr
