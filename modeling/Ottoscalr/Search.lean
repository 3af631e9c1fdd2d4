import Ottoscalr.Simulator.Monotone

/-!
# The search for a configuration

`findOptimalHPAConfigurations` tries every floor `m` of replicas from `1` to the
workload's maximum. For each floor it binary-searches the target
(`searchTarget`) over `[minTarget, maxTarget]`: a probe `mid` whose simulation
never lets supply fall below demand (`hasNoBreachOccurred`) moves `low` above
`mid`, any other moves `high` below it. It then scores the floor by the
`calculateSavings` of the simulation in hand, and keeps the best floor, the
later one on ties.

Proved here, for every series and every run of the search:

* the search keeps `SearchInv`: the target just below `low` was a breach-free
  probe, and the target just above `high` a breaching one (`searchTarget_inv`).
  So the final `high` is a breach-free target or `minTarget - 1`, and
  `high + 1` breaches or is past `maxTarget` (`searchTarget_final`);
* hence whatever the search recommends is breach-free
  (`findOptimalHPAConfigurations_breachFree`), whether or not breach-freeness
  is monotone in the target;
* it succeeds over targets inflated into `[1, 100]` and ends at a boundary of
  breach-freeness (`searchTarget_boundary`); its `high` need not be the largest
  breach-free target, as breach-freeness need not be monotone in the target
  (`searchTarget_misses_safe_target`);
* the simulation a floor is admitted and scored by is the search's *last probe*,
  at `high` or at `high + 1` (`searchTarget_final`), which need not be the
  simulation of the target recorded (`findOptimalHPAConfigurations_scores_last_probe`);
* every probe lies in the search's window (`searchTarget_error`), so every error
  of the outer loop is the sentinel or the simulator's error at a probe
  `t ≥ 92`, the first target whose inflation `⌊1.1 t⌋` passes `100`: none
  below `92`, and from `92` on a point of zero usage reaches it
  (`findOptimalHPAConfigurations_invalidTarget_only_at_top`), also over the
  documented range `[1, 100]` (`findOptimalHPAConfigurations_invalidTarget_on_full_range`).
-/

namespace Ottoscalr

/-- Whether supply never falls below demand: `original[i].Value >
    simulated[i].Value` is a breach. (Go indexes `simulated` by the indices of
    `original`; it is only called on a simulation of `original`, of the same
    length (`simulateHPA_length`), so the last case, where Go's index would
    panic, does not arise.) -/
def hasNoBreachOccurred : List DataPoint → List DataPoint → Bool
  | [], _ => true
  | o :: os, s :: ss => if s.value < o.value then false else hasNoBreachOccurred os ss
  | _ :: _, [] => false

/-- On a series and a simulation of the same length, no breach is a pointwise
    order. -/
theorem hasNoBreachOccurred_iff {original simulated : List DataPoint}
    (h : simulated.length = original.length) :
    hasNoBreachOccurred original simulated = true ↔
      List.Forall₂ (fun o s => o.value ≤ s.value) original simulated := by
  induction original generalizing simulated with
  | nil => cases simulated <;> simp_all [hasNoBreachOccurred]
  | cons o os ih =>
    cases simulated with
    | nil => simp at h
    | cons s ss =>
      by_cases hb : s.value < o.value
      · simp [hasNoBreachOccurred, hb]
      · simp [hasNoBreachOccurred, hb, ih (Nat.succ.inj h), not_lt.1 hb]

/-- A simulation that supplies pointwise at least as much as a breach-free one
    is breach-free. -/
theorem hasNoBreachOccurred_of_le {original s₁ s₂ : List DataPoint}
    (h : List.Forall₂ (fun d₁ d₂ => d₂.value ≤ d₁.value) s₁ s₂)
    (hnb : hasNoBreachOccurred original s₂ = true) : hasNoBreachOccurred original s₁ = true := by
  induction h generalizing original with
  | nil => exact hnb
  | cons hd _ ih =>
    cases original with
    | nil => rfl
    | cons o os =>
      simp only [hasNoBreachOccurred, Bool.if_false_left, Bool.and_eq_true, Bool.not_eq_true',
        decide_eq_false_iff_not, not_lt] at hnb ⊢
      exact ⟨hnb.1.trans hd, ih hnb.2⟩

/-- The state of the search of a target for one floor. -/
structure SearchState where
  low : ℤ
  high : ℤ
  simulatedHPAList : List DataPoint
  calculatedMin : ℤ

variable (c : CpuUtilizationBasedRecommender) (dataPoints : List DataPoint) (acl : ℤ)
  (perPodResources : ℚ) (maxReplicas minReplicas : ℤ)

/-- The target `t` is breach-free for the floor `minReplicas`: its simulation
    succeeds and supply never falls below demand. -/
def breachFree (t : ℤ) : Bool :=
  match simulateHPA c dataPoints acl t perPodResources maxReplicas minReplicas with
  | .ok (sim, _) => hasNoBreachOccurred dataPoints sim
  | .error _ => false

/-- The inner loop of `findOptimalHPAConfigurations`, the binary search of the
    target for the floor `minReplicas`. (`(high - low) / 2` is Go's truncating
    division, here of a number that is not negative.) -/
def searchTarget (st : SearchState) : Except String SearchState :=
  if st.low ≤ st.high then
    let mid := st.low + (st.high - st.low) / 2
    match simulateHPA c dataPoints acl mid perPodResources maxReplicas minReplicas with
    | .error e => .error e
    | .ok (sim, calculatedMin) =>
      if hasNoBreachOccurred dataPoints sim then
        searchTarget ⟨mid + 1, st.high, sim, calculatedMin⟩
      else searchTarget ⟨st.low, mid - 1, sim, calculatedMin⟩
  else .ok st
termination_by (st.high - st.low + 1).toNat
decreasing_by all_goals simp_wf; omega

/-! ## The target search -/

/-- What the search knows when its window is `[st.low, st.high]`, started from
    `[lo, hi]`. The window only shrinks, and crosses by one at most. The target
    just below it was a breach-free probe, unless it is `lo - 1`. The target just
    above it was a breaching probe, unless it is `hi + 1`. The simulation in hand
    is the last probe, one of these two, if there was one. -/
structure SearchInv (lo hi : ℤ) (st : SearchState) : Prop where
  low_ge : lo ≤ st.low
  high_le : st.high ≤ hi
  low_le : st.low ≤ st.high + 1
  below : st.low = lo ∨ breachFree c dataPoints acl perPodResources maxReplicas minReplicas (st.low - 1) = true
  above : st.high = hi ∨ breachFree c dataPoints acl perPodResources maxReplicas minReplicas (st.high + 1) = false
  lastProbe : (st.simulatedHPAList = [] ∧ st.calculatedMin = 0) ∨
    simulateHPA c dataPoints acl (st.low - 1) perPodResources maxReplicas minReplicas =
      .ok (st.simulatedHPAList, st.calculatedMin) ∨
    simulateHPA c dataPoints acl (st.high + 1) perPodResources maxReplicas minReplicas =
      .ok (st.simulatedHPAList, st.calculatedMin)

variable {c dataPoints acl perPodResources maxReplicas minReplicas}

/-- A probe whose simulation fails ends the search with its error. -/
theorem searchTarget_of_error {st : SearchState} (hle : st.low ≤ st.high) {e : String}
    (hsim : simulateHPA c dataPoints acl (st.low + (st.high - st.low) / 2) perPodResources maxReplicas minReplicas =
      .error e) :
    searchTarget c dataPoints acl perPodResources maxReplicas minReplicas st = .error e := by
  rw [searchTarget, if_pos hle]; simp only [hsim]

/-- A breach-free probe continues the search above it. -/
theorem searchTarget_of_safe {st : SearchState} (hle : st.low ≤ st.high) {sim : List DataPoint}
    {calculatedMin : ℤ}
    (hsim : simulateHPA c dataPoints acl (st.low + (st.high - st.low) / 2) perPodResources maxReplicas minReplicas =
      .ok (sim, calculatedMin))
    (hnb : hasNoBreachOccurred dataPoints sim = true) :
    searchTarget c dataPoints acl perPodResources maxReplicas minReplicas st =
      searchTarget c dataPoints acl perPodResources maxReplicas minReplicas
        ⟨st.low + (st.high - st.low) / 2 + 1, st.high, sim, calculatedMin⟩ := by
  rw [searchTarget, if_pos hle]; simp only [hsim, hnb, if_true]

/-- A breaching probe continues the search below it. -/
theorem searchTarget_of_breach {st : SearchState} (hle : st.low ≤ st.high) {sim : List DataPoint}
    {calculatedMin : ℤ}
    (hsim : simulateHPA c dataPoints acl (st.low + (st.high - st.low) / 2) perPodResources maxReplicas minReplicas =
      .ok (sim, calculatedMin))
    (hnb : ¬hasNoBreachOccurred dataPoints sim = true) :
    searchTarget c dataPoints acl perPodResources maxReplicas minReplicas st =
      searchTarget c dataPoints acl perPodResources maxReplicas minReplicas
        ⟨st.low, st.low + (st.high - st.low) / 2 - 1, sim, calculatedMin⟩ := by
  rw [searchTarget, if_pos hle]; simp only [hsim, hnb, Bool.false_eq_true, if_false]

/-- A crossed window ends the search. -/
theorem searchTarget_of_crossed {st : SearchState} (hlt : ¬st.low ≤ st.high) :
    searchTarget c dataPoints acl perPodResources maxReplicas minReplicas st = .ok st := by
  rw [searchTarget, if_neg hlt]

theorem breachFree_iff {t : ℤ} :
    breachFree c dataPoints acl perPodResources maxReplicas minReplicas t = true ↔
      ∃ sim calculatedMin, simulateHPA c dataPoints acl t perPodResources maxReplicas minReplicas =
        .ok (sim, calculatedMin) ∧ hasNoBreachOccurred dataPoints sim = true := by
  unfold breachFree
  split <;> simp_all

theorem SearchInv.init {lo hi : ℤ} (h : lo ≤ hi + 1) :
    SearchInv c dataPoints acl perPodResources maxReplicas minReplicas lo hi ⟨lo, hi, [], 0⟩ :=
  ⟨le_rfl, le_rfl, h, .inl rfl, .inl rfl, .inl ⟨rfl, rfl⟩⟩

/-- A breach-free probe at `mid` moves `low` above it. -/
theorem SearchInv.safe {lo hi : ℤ} {st : SearchState} (h : SearchInv c dataPoints acl perPodResources maxReplicas minReplicas lo hi st)
    (hle : st.low ≤ st.high) {sim : List DataPoint} {calculatedMin : ℤ}
    (hsim : simulateHPA c dataPoints acl (st.low + (st.high - st.low) / 2) perPodResources maxReplicas minReplicas =
      .ok (sim, calculatedMin))
    (hnb : hasNoBreachOccurred dataPoints sim = true) :
    SearchInv c dataPoints acl perPodResources maxReplicas minReplicas lo hi
      ⟨st.low + (st.high - st.low) / 2 + 1, st.high, sim, calculatedMin⟩ := by
  have hmid : st.low + (st.high - st.low) / 2 + 1 - 1 = st.low + (st.high - st.low) / 2 := by omega
  refine ⟨by dsimp only; have := h.low_ge; omega, h.high_le, by dsimp only; omega, .inr ?_, h.above,
    .inr (.inl ?_)⟩
  · rw [hmid, breachFree, hsim]; exact hnb
  · rw [hmid, hsim]

/-- A breaching probe at `mid` moves `high` below it. -/
theorem SearchInv.breach {lo hi : ℤ} {st : SearchState} (h : SearchInv c dataPoints acl perPodResources maxReplicas minReplicas lo hi st)
    (hle : st.low ≤ st.high) {sim : List DataPoint} {calculatedMin : ℤ}
    (hsim : simulateHPA c dataPoints acl (st.low + (st.high - st.low) / 2) perPodResources maxReplicas minReplicas =
      .ok (sim, calculatedMin))
    (hnb : ¬hasNoBreachOccurred dataPoints sim = true) :
    SearchInv c dataPoints acl perPodResources maxReplicas minReplicas lo hi
      ⟨st.low, st.low + (st.high - st.low) / 2 - 1, sim, calculatedMin⟩ := by
  have hmid : st.low + (st.high - st.low) / 2 - 1 + 1 = st.low + (st.high - st.low) / 2 := by omega
  refine ⟨h.low_ge, by dsimp only; have := h.high_le; omega, by dsimp only; omega, h.below, .inr ?_,
    .inr (.inr ?_)⟩
  · rw [hmid, breachFree, hsim]; simpa using hnb
  · rw [hmid, hsim]

/-- The search keeps `SearchInv`, and ends with its window crossed. -/
theorem searchTarget_inv {lo hi : ℤ} {st st' : SearchState}
    (hinv : SearchInv c dataPoints acl perPodResources maxReplicas minReplicas lo hi st)
    (h : searchTarget c dataPoints acl perPodResources maxReplicas minReplicas st = .ok st') :
    SearchInv c dataPoints acl perPodResources maxReplicas minReplicas lo hi st' ∧ st'.high < st'.low := by
  induction st using searchTarget.induct c dataPoints acl perPodResources maxReplicas minReplicas with
  | case1 st hle mid e hsim => rw [searchTarget_of_error hle hsim] at h; cases h
  | case2 st hle mid sim calculatedMin hsim hnb ih =>
    rw [searchTarget_of_safe hle hsim hnb] at h
    exact ih (hinv.safe hle hsim hnb) h
  | case3 st hle mid sim calculatedMin hsim hnb ih =>
    rw [searchTarget_of_breach hle hsim hnb] at h
    exact ih (hinv.breach hle hsim hnb) h
  | case4 st hlt =>
    rw [searchTarget_of_crossed hlt] at h
    cases h
    exact ⟨hinv, by omega⟩

/-- Every probe of the search lies in its window `[lo, hi]`: a failing search
    fails with the simulation of such a probe. -/
theorem searchTarget_error {lo hi : ℤ} {st : SearchState} {e : String}
    (hinv : SearchInv c dataPoints acl perPodResources maxReplicas minReplicas lo hi st)
    (h : searchTarget c dataPoints acl perPodResources maxReplicas minReplicas st = .error e) :
    ∃ t, lo ≤ t ∧ t ≤ hi ∧ simulateHPA c dataPoints acl t perPodResources maxReplicas minReplicas = .error e := by
  induction st using searchTarget.induct c dataPoints acl perPodResources maxReplicas minReplicas with
  | case1 st hle mid e' hsim =>
    rw [searchTarget_of_error hle hsim] at h
    cases h
    exact ⟨mid, by have := hinv.low_ge; omega, by have := hinv.high_le; omega, hsim⟩
  | case2 st hle mid sim calculatedMin hsim hnb ih =>
    rw [searchTarget_of_safe hle hsim hnb] at h
    exact ih (hinv.safe hle hsim hnb) h
  | case3 st hle mid sim calculatedMin hsim hnb ih =>
    rw [searchTarget_of_breach hle hsim hnb] at h
    exact ih (hinv.breach hle hsim hnb) h
  | case4 st hlt => rw [searchTarget_of_crossed hlt] at h; cases h

/-- With the targets of `[lo, hi]` inflated into `[1, 100]`, no probe fails:
    the search succeeds. -/
theorem searchTarget_ok {lo hi : ℤ} {st : SearchState} (hlo : 1 ≤ lo) (hhi : inflateTarget hi ≤ 100)
    (hinv : SearchInv c dataPoints acl perPodResources maxReplicas minReplicas lo hi st) :
    ∃ st', searchTarget c dataPoints acl perPodResources maxReplicas minReplicas st = .ok st' := by
  cases h : searchTarget c dataPoints acl perPodResources maxReplicas minReplicas st with
  | ok st' => exact ⟨st', rfl⟩
  | error e =>
    obtain ⟨t, hlo', hhi', hsim⟩ := searchTarget_error hinv h
    have := (simulateHPA_error hsim).2.1
    have := one_le_inflateTarget (hlo.trans hlo')
    have := inflateTarget_mono hhi'
    omega

/-- Where every probe that simulates is breach-free, the search climbs to the
    top of its window: a top inflated above `100` makes it fail. -/
theorem searchTarget_error_of_safe {st : SearchState} (hne : dataPoints ≠ [])
    (hsafe : ∀ t sim calculatedMin,
      simulateHPA c dataPoints acl t perPodResources maxReplicas minReplicas = .ok (sim, calculatedMin) →
        hasNoBreachOccurred dataPoints sim = true)
    (hle : st.low ≤ st.high) (htop : 100 < inflateTarget st.high) :
    ∃ e, searchTarget c dataPoints acl perPodResources maxReplicas minReplicas st = .error e := by
  induction st using searchTarget.induct c dataPoints acl perPodResources maxReplicas minReplicas with
  | case1 st hle' mid e hsim => exact ⟨e, searchTarget_of_error hle' hsim⟩
  | case2 st hle' mid sim calculatedMin hsim hnb ih =>
    rw [searchTarget_of_safe hle' hsim hnb]
    by_cases hmid : mid + 1 ≤ st.high
    · exact ih hmid htop
    · -- The probe was the top of the window, whose simulation fails.
      have htop' : 100 < inflateTarget mid := by rwa [show mid = st.high by omega]
      rw [simulateHPA_of_invalid hne (.inr htop')] at hsim
      cases hsim
  | case3 st hle' mid sim calculatedMin hsim hnb ih => exact absurd (hsafe _ _ _ hsim) hnb
  | case4 st hlt => exact absurd hle hlt

/-- The search started on `[lo, hi]` ends with `high` breach-free unless it is
    `lo - 1`, and `high + 1` breaching unless it is `hi + 1`. The simulation in
    hand is the last probe, at `high` or at `high + 1`, if there was one. -/
theorem searchTarget_final {lo hi : ℤ} {st : SearchState} (hle : lo ≤ hi + 1)
    (h : searchTarget c dataPoints acl perPodResources maxReplicas minReplicas ⟨lo, hi, [], 0⟩ = .ok st) :
    lo - 1 ≤ st.high ∧ st.high ≤ hi ∧
      (lo ≤ st.high → breachFree c dataPoints acl perPodResources maxReplicas minReplicas st.high = true) ∧
      (st.high < hi → breachFree c dataPoints acl perPodResources maxReplicas minReplicas (st.high + 1) = false) ∧
      ((st.simulatedHPAList = [] ∧ st.calculatedMin = 0) ∨
        simulateHPA c dataPoints acl st.high perPodResources maxReplicas minReplicas =
          .ok (st.simulatedHPAList, st.calculatedMin) ∨
        simulateHPA c dataPoints acl (st.high + 1) perPodResources maxReplicas minReplicas =
          .ok (st.simulatedHPAList, st.calculatedMin)) := by
  obtain ⟨hinv, hlt⟩ := searchTarget_inv (SearchInv.init hle) h
  have hlow : st.low - 1 = st.high := by have := hinv.low_le; omega
  have hge := hinv.low_ge
  refine ⟨by omega, hinv.high_le, fun hlo => ?_, fun hhi => ?_, by simpa only [hlow] using hinv.lastProbe⟩
  · rcases hinv.below with h | h
    · omega
    · rwa [hlow] at h
  · exact hinv.above.resolve_left (by omega)

/-- A search result the outer loop admits, `lo ≤ high`, is a breach-free target
    of `[lo, hi]`. -/
theorem searchTarget_admitted {lo hi : ℤ} {st : SearchState}
    (h : searchTarget c dataPoints acl perPodResources maxReplicas minReplicas ⟨lo, hi, [], 0⟩ = .ok st)
    (hlo : lo ≤ st.high) :
    st.high ≤ hi ∧ breachFree c dataPoints acl perPodResources maxReplicas minReplicas st.high = true := by
  by_cases hle : lo ≤ hi + 1
  · obtain ⟨-, hhi, hsafe, -⟩ := searchTarget_final hle h
    exact ⟨hhi, hsafe hlo⟩
  · -- The window is empty from the start: the search returns it unchanged.
    rw [searchTarget_of_crossed] at h
    · cases h
      dsimp only at hlo
      omega
    · dsimp only
      omega

/-- The search for a floor succeeds and ends at a boundary of breach-freeness in
    `[minTarget, maxTarget]`: `high` is breach-free or `minTarget - 1`, and
    `high + 1` breaches or is `maxTarget + 1`. -/
theorem searchTarget_boundary {minTarget maxTarget : ℤ} (h1 : 1 ≤ minTarget) (hle : minTarget ≤ maxTarget)
    (h100 : inflateTarget maxTarget ≤ 100) :
    ∃ st, searchTarget c dataPoints acl perPodResources maxReplicas minReplicas ⟨minTarget, maxTarget, [], 0⟩ =
        .ok st ∧
      minTarget - 1 ≤ st.high ∧ st.high ≤ maxTarget ∧
      (minTarget ≤ st.high → breachFree c dataPoints acl perPodResources maxReplicas minReplicas st.high = true) ∧
      (st.high < maxTarget →
        breachFree c dataPoints acl perPodResources maxReplicas minReplicas (st.high + 1) = false) := by
  obtain ⟨st, h⟩ := searchTarget_ok h1 h100 (SearchInv.init (by omega))
  obtain ⟨hlow, hhigh, hsafe, hbreach, -⟩ := searchTarget_final (by omega) h
  exact ⟨st, h, hlow, hhigh, hsafe, hbreach⟩

theorem searchTarget_boundary_on_reset :
    1 ≤ (40 : ℤ) ∧ (40 : ℤ) ≤ 46 ∧ inflateTarget 46 ≤ 100 ∧
    ∃ st, searchTarget fullRedLine resetSeries 2 1 100 1 ⟨40, 46, [], 0⟩ = .ok st ∧
      40 - 1 ≤ st.high ∧ st.high ≤ 46 ∧
      (40 ≤ st.high → breachFree fullRedLine resetSeries 2 1 100 1 st.high = true) ∧
      (st.high < 46 → breachFree fullRedLine resetSeries 2 1 100 1 (st.high + 1) = false) :=
  ⟨by decide, by decide, by decide, searchTarget_boundary (by decide) (by decide) (by decide)⟩

/-- On `resetSeries` with a lag of two points, the targets `40` to `44` breach
    and `45`, `46` do not. The search probes `43`, `41` and `40`, and ends below
    its window though `46` is breach-free. -/
theorem searchTarget_misses_safe_target :
    searchTarget fullRedLine resetSeries 2 1 100 1 ⟨40, 46, [], 0⟩ =
      .ok ⟨40, 39, [⟨0, 4⟩, ⟨1, 4⟩, ⟨2, 4⟩, ⟨3, 5⟩, ⟨4, 5⟩], 4⟩ ∧
    breachFree fullRedLine resetSeries 2 1 100 1 46 = true :=
  ⟨by with_unfolding_all rfl, by with_unfolding_all decide⟩

/-! ## The outer loop -/

variable (c dataPoints acl perPodResources maxReplicas minReplicas)

/-- The score of a simulation: the mean spare capacity against `maxReplicas`
    replicas, in percent. (In `ℚ` the red line cancels: a simulation at the cap
    saves exactly `0`. Go's round trip `dp.Value / c.redLineUtil` of the rounded
    product leaves a residue, so a simulation at the cap can save a little more
    than `0` and the cap be recommended as the floor: with a red line of `0.8`,
    `0.7` resources per pod and a cap of one replica, it saves `1.59e-14`. A
    red line, a cap or resources of `0` give `0` here, where `float64` gives an
    infinity or `NaN`.) -/
def calculateSavings (maxReplicas : ℤ) (simulated : List DataPoint) (perPodResources : ℚ) : ℚ :=
  let savings := simulated.foldl
    (fun savings dp => savings + ((maxReplicas : ℚ) * perPodResources - dp.value / c.redLineUtil)) 0
  savings / (maxReplicas * perPodResources) / simulated.length * 100

/-- The best configuration found so far. -/
structure Candidate where
  optimalTargetThreshold : ℤ
  optimalMin : ℤ
  savings : ℚ

variable (minTarget maxTarget : ℤ)

/-- One iteration of the outer loop, for the floor `minReplicas`: search its
    target, then keep it if the search ended in range, the last simulation's
    unclamped minimum is at most the floor, and its savings are at least the
    best so far. (On an error, Go also returns `-1`, the floor and the cap,
    which its caller does not read.) -/
def considerFloor (best : Candidate) (minReplicas : ℤ) : Except String Candidate :=
  match searchTarget c dataPoints acl perPodResources maxReplicas minReplicas ⟨minTarget, maxTarget, [], 0⟩ with
  | .error e => .error e
  | .ok st =>
    if minTarget ≤ st.high ∧ st.calculatedMin ≤ minReplicas then
      if 0 < st.simulatedHPAList.length then
        let newSavings := calculateSavings c maxReplicas st.simulatedHPAList perPodResources
        if best.savings ≤ newSavings then .ok ⟨st.high, minReplicas, newSavings⟩ else .ok best
      else .ok best
    else .ok best

/-- The floors the outer loop tries: `1, 2, …, maxReplicas`. -/
def floors (maxReplicas : ℤ) : List ℤ := (List.range maxReplicas.toNat).map fun i : ℕ => (i : ℤ) + 1

theorem mem_floors {m maxReplicas : ℤ} : m ∈ floors maxReplicas ↔ 1 ≤ m ∧ m ≤ maxReplicas := by
  simp only [floors, List.mem_map, List.mem_range]
  constructor
  · rintro ⟨i, hi, rfl⟩; omega
  · intro h; exact ⟨(m - 1).toNat, by omega, by omega⟩

theorem floors_eq_cons {maxReplicas : ℤ} (h : 1 ≤ maxReplicas) : ∃ rest, floors maxReplicas = 1 :: rest := by
  obtain ⟨n, hn⟩ : ∃ n, maxReplicas.toNat = n + 1 := ⟨maxReplicas.toNat - 1, by omega⟩
  exact ⟨_, by rw [floors, hn, List.range_succ_eq_map, List.map_cons]; rfl⟩

/-- `findOptimalHPAConfigurations`: the target, floor and cap recommended, or
    `unableToRecommendError` when no floor has positive savings. -/
def findOptimalHPAConfigurations (dataPoints : List DataPoint) (acl minTarget maxTarget : ℤ)
    (perPodResources : ℚ) (maxReplicas : ℤ) : Except String (ℤ × ℤ × ℤ) :=
  match (floors maxReplicas).foldlM
      (considerFloor c dataPoints acl perPodResources maxReplicas minTarget maxTarget) ⟨0, 0, 0⟩ with
  | .error e => .error e
  | .ok best =>
    if best.optimalTargetThreshold < minTarget ∨ best.savings = 0 then .error unableToRecommendError
    else .ok (best.optimalTargetThreshold, best.optimalMin, maxReplicas)

/-! ## What the outer loop recommends -/

variable {c dataPoints acl perPodResources maxReplicas minTarget maxTarget}

/-- What one iteration of the outer loop can do: keep the best candidate, or
    replace it by the floor's search result, when that is admitted and scores at
    least as much. -/
theorem considerFloor_cases {best best' : Candidate} {m : ℤ}
    (h : considerFloor c dataPoints acl perPodResources maxReplicas minTarget maxTarget best m = .ok best') :
    best' = best ∨ ∃ st,
      searchTarget c dataPoints acl perPodResources maxReplicas m ⟨minTarget, maxTarget, [], 0⟩ = .ok st ∧
      minTarget ≤ st.high ∧ st.calculatedMin ≤ m ∧ 0 < st.simulatedHPAList.length ∧
      best.savings ≤ calculateSavings c maxReplicas st.simulatedHPAList perPodResources ∧
      best' = ⟨st.high, m, calculateSavings c maxReplicas st.simulatedHPAList perPodResources⟩ := by
  unfold considerFloor at h
  split at h
  · cases h
  · rename_i st hst
    dsimp only at h
    split_ifs at h with hadm hlen hsav
    · exact .inr ⟨st, hst, hadm.1, hadm.2, hlen, hsav, (Except.ok.inj h).symm⟩
    all_goals exact .inl (Except.ok.inj h).symm

/-- A failing iteration of the outer loop fails with its search's error. -/
theorem considerFloor_error {best : Candidate} {m : ℤ} {e : String}
    (h : considerFloor c dataPoints acl perPodResources maxReplicas minTarget maxTarget best m = .error e) :
    searchTarget c dataPoints acl perPodResources maxReplicas m ⟨minTarget, maxTarget, [], 0⟩ = .error e := by
  unfold considerFloor at h
  split at h
  · cases h; assumption
  · dsimp only at h
    split_ifs at h

/-- Whatever the outer loop recommends is a breach-free target of
    `[minTarget, maxTarget]` for a floor in `[1, maxReplicas]` (the best
    candidate is one, or still has the initial savings `0`). -/
theorem findOptimalHPAConfigurations_recommendable {t m M' : ℤ}
    (h : findOptimalHPAConfigurations c dataPoints acl minTarget maxTarget perPodResources maxReplicas =
      .ok (t, m, M')) :
    M' = maxReplicas ∧ 1 ≤ m ∧ m ≤ maxReplicas ∧ minTarget ≤ t ∧ t ≤ maxTarget ∧
      breachFree c dataPoints acl perPodResources maxReplicas m t = true := by
  unfold findOptimalHPAConfigurations at h
  split at h
  · cases h
  · rename_i best hfold
    split_ifs at h with hbad
    simp only [Except.ok.injEq, Prod.mk.injEq] at h
    obtain ⟨rfl, rfl, rfl⟩ := h
    have hbest := foldlM_except_inv (fun b : Candidate => b.savings = 0 ∨ (1 ≤ b.optimalMin ∧
        b.optimalMin ≤ maxReplicas ∧ minTarget ≤ b.optimalTargetThreshold ∧ b.optimalTargetThreshold ≤ maxTarget ∧
        breachFree c dataPoints acl perPodResources maxReplicas b.optimalMin b.optimalTargetThreshold = true))
      (fun b m b' hm hb hstep => ?_) (.inl rfl) hfold
    · exact ⟨rfl, hbest.resolve_left fun h0 => hbad (.inr h0)⟩
    · rcases considerFloor_cases hstep with rfl | ⟨st, hst, hlo, -, -, -, rfl⟩
      · exact hb
      · have ⟨hhi, hsafe⟩ := searchTarget_admitted hst hlo
        exact .inr ⟨(mem_floors.1 hm).1, (mem_floors.1 hm).2, hlo, hhi, hsafe⟩

/-- Every error of the outer loop is the sentinel, or the simulator's error at a
    probe of `[minTarget, maxTarget]` inflated above `100`. -/
theorem findOptimalHPAConfigurations_error {e : String} (h1 : 1 ≤ minTarget) (hle : minTarget ≤ maxTarget)
    (h : findOptimalHPAConfigurations c dataPoints acl minTarget maxTarget perPodResources maxReplicas =
      .error e) :
    e = unableToRecommendError ∨ ∃ t, minTarget ≤ t ∧ t ≤ maxTarget ∧ 100 < inflateTarget t ∧
      e = invalidTargetError (inflateTarget t) := by
  unfold findOptimalHPAConfigurations at h
  split at h
  · cases h
    obtain ⟨_, m, -, hstep⟩ := foldlM_except_error_step ‹_›
    obtain ⟨t, hlo, hhi, hsim⟩ := searchTarget_error (SearchInv.init (by omega)) (considerFloor_error hstep)
    obtain ⟨-, hT, rfl⟩ := simulateHPA_error hsim
    have := one_le_inflateTarget (h1.trans hlo)
    exact .inr ⟨t, hlo, hhi, by omega, rfl⟩
  · split_ifs at h
    cases h
    exact .inl rfl

/-- The configuration the search emits never lets the simulated supply fall
    below demand. -/
theorem findOptimalHPAConfigurations_breachFree {t m M' : ℤ}
    (h : findOptimalHPAConfigurations c dataPoints acl minTarget maxTarget perPodResources maxReplicas =
      .ok (t, m, M')) :
    M' = maxReplicas ∧ 1 ≤ m ∧ m ≤ maxReplicas ∧ minTarget ≤ t ∧ t ≤ maxTarget ∧
      ∃ sim calculatedMin, simulateHPA c dataPoints acl t perPodResources maxReplicas m = .ok (sim, calculatedMin) ∧
        hasNoBreachOccurred dataPoints sim = true := by
  obtain ⟨hM', h1, hm, hlo, hhi, hsafe⟩ := findOptimalHPAConfigurations_recommendable h
  exact ⟨hM', h1, hm, hlo, hhi, breachFree_iff.1 hsafe⟩

/-- A recommender with red line `1/2`. -/
def halfRedLine : CpuUtilizationBasedRecommender := ⟨1 / 2, 0, 0, 0, 0, 0⟩

theorem findOptimalHPAConfigurations_breachFree_on_point :
    findOptimalHPAConfigurations halfRedLine [⟨0, 3 / 5⟩] 0 54 55 1 2 = .ok (54, 1, 2) ∧
    (2 : ℤ) = 2 ∧ (1 : ℤ) ≤ 1 ∧ (1 : ℤ) ≤ 2 ∧ (54 : ℤ) ≤ 54 ∧ (54 : ℤ) ≤ 55 ∧
      ∃ sim calculatedMin, simulateHPA halfRedLine [⟨0, 3 / 5⟩] 0 54 1 2 1 = .ok (sim, calculatedMin) ∧
        hasNoBreachOccurred [⟨0, 3 / 5⟩] sim = true := by
  have h : findOptimalHPAConfigurations halfRedLine [⟨0, 3 / 5⟩] 0 54 55 1 2 = .ok (54, 1, 2) := by
    with_unfolding_all rfl
  exact ⟨h, findOptimalHPAConfigurations_breachFree h⟩

/-- One point of demand `3/5` at a red line of `1/2`, targets `[54, 55]`, at most
    two replicas. Floor `1`: the search probes `54` (safe), then `55`, which
    breaches, and ends at `54`; it admits and scores the probe at `55` (one
    replica, savings `50`), but its own target `54` needs two replicas, above
    the floor. Floor `2`: the search ends at `55`, whose simulation saves
    nothing. Scored by its own target, no floor saves anything; the loop still
    recommends `54` with floor `1`. -/
theorem findOptimalHPAConfigurations_scores_last_probe :
    findOptimalHPAConfigurations halfRedLine [⟨0, 3 / 5⟩] 0 54 55 1 2 = .ok (54, 1, 2) ∧
    searchTarget halfRedLine [⟨0, 3 / 5⟩] 0 1 2 1 ⟨54, 55, [], 0⟩ = .ok ⟨55, 54, [⟨0, 1 / 2⟩], 1⟩ ∧
    simulateHPA halfRedLine [⟨0, 3 / 5⟩] 0 54 1 2 1 = .ok ([⟨0, 1⟩], 2) ∧
    searchTarget halfRedLine [⟨0, 3 / 5⟩] 0 1 2 2 ⟨54, 55, [], 0⟩ = .ok ⟨56, 55, [⟨0, 1⟩], 1⟩ ∧
    simulateHPA halfRedLine [⟨0, 3 / 5⟩] 0 55 1 2 2 = .ok ([⟨0, 1⟩], 1) ∧
    calculateSavings halfRedLine 2 [⟨0, 1⟩] 1 = 0 :=
  ⟨by with_unfolding_all rfl, by with_unfolding_all rfl, by with_unfolding_all rfl, by with_unfolding_all rfl,
    by with_unfolding_all rfl, by with_unfolding_all decide⟩

/-! ## The range of the probes -/

/-- A point of zero usage never breaches at the floor of one replica, with a
    non-negative red line and per-pod resources. -/
theorem hasNoBreachOccurred_idle (hred : 0 ≤ c.redLineUtil) (hP : 0 ≤ perPodResources) (hM : 1 ≤ maxReplicas)
    {t : ℤ} {sim : List DataPoint} {calculatedMin : ℤ}
    (h : simulateHPA c [⟨0, 0⟩] acl t perPodResources maxReplicas 1 = .ok (sim, calculatedMin)) :
    hasNoBreachOccurred [⟨0, 0⟩] sim = true := by
  rw [simulateHPA_cons] at h
  split at h
  · cases h
  · cases h
    have hrep : replicasFor 0 (inflateTarget t) perPodResources maxReplicas 1 = 1 := by
      simp [replicasFor, requiredReplicas, (by exact_mod_cast hM : (1 : ℚ) ≤ maxReplicas)]
    simp only [hasNoBreachOccurred, simulateLoop, hrep, one_mul]
    simp [mul_nonneg hP hred]

/-- On a point of zero usage, the first floor's search climbs to the top of
    `[minTarget, maxTarget]`: from `92` on it probes a target inflated above
    `100`, and the outer loop returns the simulator's error. -/
theorem findOptimalHPAConfigurations_idle (hred : 0 ≤ c.redLineUtil) (hP : 0 ≤ perPodResources)
    (hM : 1 ≤ maxReplicas) (h1 : 1 ≤ minTarget) (hle : minTarget ≤ maxTarget) (htop : 92 ≤ maxTarget) :
    ∃ t, 92 ≤ t ∧ t ≤ maxTarget ∧ findOptimalHPAConfigurations c [⟨0, 0⟩] acl minTarget maxTarget perPodResources
      maxReplicas = .error (invalidTargetError (inflateTarget t)) := by
  obtain ⟨e, hsearch⟩ : ∃ e,
      searchTarget c [⟨0, 0⟩] acl perPodResources maxReplicas 1 ⟨minTarget, maxTarget, [], 0⟩ = .error e :=
    searchTarget_error_of_safe (List.cons_ne_nil _ _) (fun _ _ _ => hasNoBreachOccurred_idle hred hP hM) hle
      (hundred_lt_inflateTarget_iff.2 htop)
  obtain ⟨t, hlo, hhi, hsim⟩ := searchTarget_error (SearchInv.init (by omega)) hsearch
  obtain ⟨-, hT, rfl⟩ := simulateHPA_error hsim
  have := one_le_inflateTarget (h1.trans hlo)
  obtain ⟨rest, hfloors⟩ := floors_eq_cons hM
  refine ⟨t, hundred_lt_inflateTarget_iff.1 (hT.resolve_left (by omega)), hhi, ?_⟩
  simp only [findOptimalHPAConfigurations, hfloors, List.foldlM_cons, considerFloor, hsearch]
  rfl

/-- The outer loop meets the simulator's invalid-target error only at a probe
    `t ≥ 92` of `[minTarget, maxTarget]`, where `⌊1.1 t⌋ > 100`: every error it
    returns is the sentinel or such a probe's. So with `maxTarget ≤ 91` it never
    returns that error, and with `maxTarget ≥ 92` a point of zero usage makes
    it return it. -/
theorem findOptimalHPAConfigurations_invalidTarget_only_at_top (h1 : 1 ≤ minTarget) (hle : minTarget ≤ maxTarget) :
    (∀ e, findOptimalHPAConfigurations c dataPoints acl minTarget maxTarget perPodResources maxReplicas = .error e →
      e = unableToRecommendError ∨
        ∃ t, minTarget ≤ t ∧ 92 ≤ t ∧ t ≤ maxTarget ∧ e = invalidTargetError (inflateTarget t)) ∧
    (maxTarget ≤ 91 → ∀ T,
      findOptimalHPAConfigurations c dataPoints acl minTarget maxTarget perPodResources maxReplicas ≠
        .error (invalidTargetError T)) ∧
    (92 ≤ maxTarget → 0 ≤ c.redLineUtil → 0 ≤ perPodResources → 1 ≤ maxReplicas →
      ∃ t, 92 ≤ t ∧ t ≤ maxTarget ∧ findOptimalHPAConfigurations c [⟨0, 0⟩] acl minTarget maxTarget
        perPodResources maxReplicas = .error (invalidTargetError (inflateTarget t))) := by
  refine ⟨fun e h => ?_, fun h91 T h => ?_,
    fun htop hred hP hM => findOptimalHPAConfigurations_idle hred hP hM h1 hle htop⟩
  · rcases findOptimalHPAConfigurations_error h1 hle h with rfl | ⟨t, hlo, hhi, hT, rfl⟩
    · exact .inl rfl
    · exact .inr ⟨t, hlo, hundred_lt_inflateTarget_iff.1 hT, hhi, rfl⟩
  · rcases findOptimalHPAConfigurations_error h1 hle h with hsentinel | ⟨t, -, hhi, hT, -⟩
    · exact invalidTargetError_ne_unableToRecommendError T hsentinel
    · have := hundred_lt_inflateTarget_iff.1 hT
      omega

theorem findOptimalHPAConfigurations_invalidTarget_only_at_top_on_idle :
    (1 : ℤ) ≤ 1 ∧ (1 : ℤ) ≤ 100 ∧
    (∀ e, findOptimalHPAConfigurations fullRedLine [⟨0, 0⟩] 0 1 100 1 1 = .error e →
      e = unableToRecommendError ∨ ∃ t, 1 ≤ t ∧ 92 ≤ t ∧ t ≤ 100 ∧ e = invalidTargetError (inflateTarget t)) ∧
    ((100 : ℤ) ≤ 91 → ∀ T, findOptimalHPAConfigurations fullRedLine [⟨0, 0⟩] 0 1 100 1 1 ≠
      .error (invalidTargetError T)) ∧
    ((92 : ℤ) ≤ 100 → 0 ≤ fullRedLine.redLineUtil → (0 : ℚ) ≤ 1 → (1 : ℤ) ≤ 1 →
      ∃ t, 92 ≤ t ∧ t ≤ 100 ∧ findOptimalHPAConfigurations fullRedLine [⟨0, 0⟩] 0 1 100 1 1 =
        .error (invalidTargetError (inflateTarget t))) :=
  ⟨by decide, by decide, findOptimalHPAConfigurations_invalidTarget_only_at_top (by decide) (by decide)⟩

/-- Over the documented range `[1, 100]`, on a point of zero usage, the search
    of the first floor probes `50`, `75` and `88`, all breach-free, then `94`,
    inflated to `103`: the outer loop returns the simulator's error. -/
theorem findOptimalHPAConfigurations_invalidTarget_on_full_range :
    ([⟨0, 0⟩] : List DataPoint) ≠ [] ∧ (1 : ℤ) ≤ 1 ∧ (1 : ℤ) ≤ 100 ∧ (100 : ℤ) ≤ 100 ∧
    findOptimalHPAConfigurations fullRedLine [⟨0, 0⟩] 0 1 100 1 1 = .error (invalidTargetError 103) ∧
    invalidTargetError 103 = "Invalid value of target utilization: 103. Value should be between 1 and 100" :=
  ⟨List.cons_ne_nil _ _, by decide, by decide, by decide, by with_unfolding_all rfl, rfl⟩

end Ottoscalr
