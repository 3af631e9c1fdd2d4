import Ottoscalr.Search
import Ottoscalr.Simulator.Bounds

/-!
# The floor the outer loop recommends

`findOptimalHPAConfigurations` tries the floors `1, …, maxReplicas` in
increasing order and keeps the best candidate: a floor replaces it when the
floor is admitted (`Admits`) and its savings are at least the best so far. What
the best candidate is after some floors is `BestOf`, which each iteration
keeps (`BestOf.step`, from the full description of one iteration,
`considerFloor_ok`).

* the outer loop recommends the *last* floor of greatest savings: an admitted
  floor of positive savings, at least those of every admitted floor and more
  than those of every admitted floor above it
  (`findOptimalHPAConfigurations_last_greatest`);
* over targets inflated into `[1, 100]`, it gives up exactly when no admitted
  floor has positive savings (`findOptimalHPAConfigurations_unable_iff`), and
  always when some usage exceeds what the cap's replicas supply at the red line
  (`findOptimalHPAConfigurations_unable_of_overload`, from the bound of
  `Ottoscalr.Simulator.Bounds`).
-/

namespace Ottoscalr

/-- The outer loop's test on the search result `st` of the floor `m`: the search
    ended in range, the last simulation's unclamped minimum is at most the
    floor, and the simulation is not empty. -/
def Admits (minTarget m : ℤ) (st : SearchState) : Prop :=
  minTarget ≤ st.high ∧ st.calculatedMin ≤ m ∧ 0 < st.simulatedHPAList.length

/-- What the best candidate is once the floors `S` have been tried: the initial
    candidate or the search result of an admitted floor of `S`, of savings not
    negative, at least the savings of every admitted floor of `S`, and more than
    those of every admitted floor of `S` above its own. -/
structure BestOf (c : CpuUtilizationBasedRecommender) (dataPoints : List DataPoint) (acl : ℤ)
    (perPodResources : ℚ) (maxReplicas minTarget maxTarget : ℤ) (S : List ℤ) (best : Candidate) : Prop where
  attained : best = ⟨0, 0, 0⟩ ∨ ∃ m ∈ S, ∃ st,
    searchTarget c dataPoints acl perPodResources maxReplicas m ⟨minTarget, maxTarget, [], 0⟩ = .ok st ∧
      Admits minTarget m st ∧ best = ⟨st.high, m, calculateSavings c maxReplicas st.simulatedHPAList perPodResources⟩
  nonneg : 0 ≤ best.savings
  ge : ∀ m ∈ S, ∀ st,
    searchTarget c dataPoints acl perPodResources maxReplicas m ⟨minTarget, maxTarget, [], 0⟩ = .ok st →
      Admits minTarget m st → calculateSavings c maxReplicas st.simulatedHPAList perPodResources ≤ best.savings
  gt_above : ∀ m ∈ S, ∀ st,
    searchTarget c dataPoints acl perPodResources maxReplicas m ⟨minTarget, maxTarget, [], 0⟩ = .ok st →
      Admits minTarget m st → best.optimalMin < m →
        calculateSavings c maxReplicas st.simulatedHPAList perPodResources < best.savings

variable {c : CpuUtilizationBasedRecommender} {dataPoints : List DataPoint} {acl : ℤ}
  {perPodResources : ℚ} {maxReplicas minTarget maxTarget : ℤ}

/-- What one iteration of the outer loop does, in full: it replaces the best
    candidate by the floor's search result exactly when the floor is admitted
    and scores at least as much, and keeps it otherwise. -/
theorem considerFloor_ok {best best' : Candidate} {m : ℤ}
    (h : considerFloor c dataPoints acl perPodResources maxReplicas minTarget maxTarget best m = .ok best') :
    ∃ st, searchTarget c dataPoints acl perPodResources maxReplicas m ⟨minTarget, maxTarget, [], 0⟩ = .ok st ∧
      ((Admits minTarget m st ∧ best.savings ≤ calculateSavings c maxReplicas st.simulatedHPAList perPodResources ∧
          best' = ⟨st.high, m, calculateSavings c maxReplicas st.simulatedHPAList perPodResources⟩) ∨
        (¬(Admits minTarget m st ∧
            best.savings ≤ calculateSavings c maxReplicas st.simulatedHPAList perPodResources) ∧ best' = best)) := by
  unfold considerFloor at h
  split at h
  · cases h
  · rename_i st hst
    refine ⟨st, hst, ?_⟩
    dsimp only at h
    split_ifs at h with hadm hlen hsav
    · exact .inl ⟨⟨hadm.1, hadm.2, hlen⟩, hsav, (Except.ok.inj h).symm⟩
    · exact .inr ⟨fun hc => hsav hc.2, (Except.ok.inj h).symm⟩
    · exact .inr ⟨fun hc => hlen hc.1.2.2, (Except.ok.inj h).symm⟩
    · exact .inr ⟨fun hc => hadm ⟨hc.1.1, hc.1.2.1⟩, (Except.ok.inj h).symm⟩

theorem BestOf.init : BestOf c dataPoints acl perPodResources maxReplicas minTarget maxTarget [] ⟨0, 0, 0⟩ :=
  ⟨.inl rfl, le_rfl, fun _ h => (by cases h), fun _ h => (by cases h)⟩

/-- One iteration, at a floor above every floor tried, keeps `BestOf`. -/
theorem BestOf.step {S : List ℤ} {best best' : Candidate} {m : ℤ}
    (hinv : BestOf c dataPoints acl perPodResources maxReplicas minTarget maxTarget S best)
    (hlt : ∀ m' ∈ S, m' < m)
    (h : considerFloor c dataPoints acl perPodResources maxReplicas minTarget maxTarget best m = .ok best') :
    BestOf c dataPoints acl perPodResources maxReplicas minTarget maxTarget (S ++ [m]) best' := by
  obtain ⟨st, hst, ⟨hadm, hsav, rfl⟩ | ⟨hkeep, rfl⟩⟩ := considerFloor_ok h
  · -- The floor replaces the best candidate.
    refine ⟨.inr ⟨m, by simp, st, hst, hadm, rfl⟩, hinv.nonneg.trans hsav, ?_, ?_⟩
    · intro m' hm' st' hst' hadm'
      rcases List.mem_append.1 hm' with hS | hm
      · exact (hinv.ge m' hS st' hst' hadm').trans hsav
      · obtain rfl := List.mem_singleton.1 hm
        obtain rfl := Except.ok.inj (hst'.symm.trans hst)
        exact le_rfl
    · intro m' hm' st' _ _ hlt'
      rcases List.mem_append.1 hm' with hS | hm
      · exact absurd (hlt m' hS) (by dsimp only at hlt'; omega)
      · obtain rfl := List.mem_singleton.1 hm
        exact absurd hlt' (lt_irrefl _)
  · -- The best candidate stays: the floor is not admitted, or scores less.
    refine ⟨hinv.attained.imp_right fun ⟨m₀, hm₀, rest⟩ => ⟨m₀, List.mem_append_left _ hm₀, rest⟩,
      hinv.nonneg, fun m' hm' st' hst' hadm' => ?_, fun m' hm' st' hst' hadm' hlt' => ?_⟩
    · rcases List.mem_append.1 hm' with hS | hm
      · exact hinv.ge m' hS st' hst' hadm'
      · obtain rfl := List.mem_singleton.1 hm
        obtain rfl := Except.ok.inj (hst'.symm.trans hst)
        exact (not_le.1 fun hle => hkeep ⟨hadm', hle⟩).le
    · rcases List.mem_append.1 hm' with hS | hm
      · exact hinv.gt_above m' hS st' hst' hadm' hlt'
      · obtain rfl := List.mem_singleton.1 hm
        obtain rfl := Except.ok.inj (hst'.symm.trans hst)
        exact not_le.1 fun hle => hkeep ⟨hadm', hle⟩

/-- The loop over increasing floors, all above those tried, keeps `BestOf`. -/
theorem BestOf.foldlM {l S : List ℤ} {best best' : Candidate} (hl : l.Pairwise (· < ·))
    (hinv : BestOf c dataPoints acl perPodResources maxReplicas minTarget maxTarget S best)
    (hlt : ∀ m' ∈ S, ∀ m ∈ l, m' < m)
    (h : l.foldlM (considerFloor c dataPoints acl perPodResources maxReplicas minTarget maxTarget) best = .ok best') :
    BestOf c dataPoints acl perPodResources maxReplicas minTarget maxTarget (S ++ l) best' := by
  induction l generalizing S best with
  | nil => cases h; rwa [List.append_nil]
  | cons m l ih =>
    rw [List.foldlM_cons] at h
    cases hstep : considerFloor c dataPoints acl perPodResources maxReplicas minTarget maxTarget best m with
    | error e => rw [hstep] at h; cases h
    | ok b₁ =>
      rw [hstep] at h
      rw [List.pairwise_cons] at hl
      have hinv₁ := hinv.step (fun m' hm' => hlt m' hm' m (List.mem_cons_self _ _)) hstep
      rw [← List.singleton_append, ← List.append_assoc]
      refine ih hl.2 hinv₁ (fun m' hm' m'' hm'' => ?_) h
      rcases List.mem_append.1 hm' with hS | hm
      · exact hlt m' hS m'' (List.mem_cons_of_mem _ hm'')
      · obtain rfl := List.mem_singleton.1 hm
        exact hl.1 m'' hm''

theorem floors_pairwise (maxReplicas : ℤ) : (floors maxReplicas).Pairwise (· < ·) := by
  unfold floors
  rw [List.pairwise_map]
  exact (List.pairwise_lt_range _).imp fun h => by omega

/-- After all the floors, the best candidate is `BestOf` them. -/
theorem foldlM_considerFloor_bestOf {best : Candidate}
    (h : (floors maxReplicas).foldlM (considerFloor c dataPoints acl perPodResources maxReplicas minTarget maxTarget)
      ⟨0, 0, 0⟩ = .ok best) :
    BestOf c dataPoints acl perPodResources maxReplicas minTarget maxTarget (floors maxReplicas) best := by
  simpa using BestOf.init.foldlM (floors_pairwise maxReplicas) (fun _ h => (by cases h)) h

/-- What the outer loop recommends is the best candidate after all the floors:
    the search result of an admitted floor, of positive savings. -/
theorem findOptimalHPAConfigurations_ok_inv {t m M' : ℤ}
    (h : findOptimalHPAConfigurations c dataPoints acl minTarget maxTarget perPodResources maxReplicas =
      .ok (t, m, M')) :
    ∃ st, searchTarget c dataPoints acl perPodResources maxReplicas m ⟨minTarget, maxTarget, [], 0⟩ = .ok st ∧
      m ∈ floors maxReplicas ∧ M' = maxReplicas ∧ t = st.high ∧ Admits minTarget m st ∧
      0 < calculateSavings c maxReplicas st.simulatedHPAList perPodResources ∧
      BestOf c dataPoints acl perPodResources maxReplicas minTarget maxTarget (floors maxReplicas)
        ⟨st.high, m, calculateSavings c maxReplicas st.simulatedHPAList perPodResources⟩ := by
  unfold findOptimalHPAConfigurations at h
  split at h
  · cases h
  · rename_i best hfold
    split_ifs at h with hbad
    simp only [Except.ok.injEq, Prod.mk.injEq] at h
    obtain ⟨rfl, rfl, rfl⟩ := h
    have hbest := foldlM_considerFloor_bestOf hfold
    have hsavings : best.savings ≠ 0 := fun h0 => hbad (.inr h0)
    obtain ⟨m, hm, st, hst, hadm, rfl⟩ := hbest.attained.resolve_left fun h0 => hsavings (by rw [h0])
    exact ⟨st, hst, hm, rfl, rfl, hadm, lt_of_le_of_ne hbest.nonneg (Ne.symm hsavings), hbest⟩

/-- The outer loop recommends the last floor of greatest savings: an admitted
    floor of positive savings, at least those of every admitted floor, and
    more than those of every admitted floor above it. -/
theorem findOptimalHPAConfigurations_last_greatest {t m M' : ℤ}
    (h : findOptimalHPAConfigurations c dataPoints acl minTarget maxTarget perPodResources maxReplicas =
      .ok (t, m, M')) :
    ∃ st, searchTarget c dataPoints acl perPodResources maxReplicas m ⟨minTarget, maxTarget, [], 0⟩ = .ok st ∧
      1 ≤ m ∧ m ≤ maxReplicas ∧ M' = maxReplicas ∧ t = st.high ∧ Admits minTarget m st ∧
      0 < calculateSavings c maxReplicas st.simulatedHPAList perPodResources ∧
      ∀ m' st', 1 ≤ m' → m' ≤ maxReplicas →
        searchTarget c dataPoints acl perPodResources maxReplicas m' ⟨minTarget, maxTarget, [], 0⟩ = .ok st' →
        Admits minTarget m' st' →
        calculateSavings c maxReplicas st'.simulatedHPAList perPodResources ≤
            calculateSavings c maxReplicas st.simulatedHPAList perPodResources ∧
          (m < m' → calculateSavings c maxReplicas st'.simulatedHPAList perPodResources <
            calculateSavings c maxReplicas st.simulatedHPAList perPodResources) := by
  obtain ⟨st, hst, hm, hM', ht, hadm, hpos, hbest⟩ := findOptimalHPAConfigurations_ok_inv h
  refine ⟨st, hst, (mem_floors.1 hm).1, (mem_floors.1 hm).2, hM', ht, hadm, hpos, fun m' st' h1 hM hst' hadm' => ?_⟩
  have hm' : m' ∈ floors maxReplicas := mem_floors.2 ⟨h1, hM⟩
  exact ⟨hbest.ge m' hm' st' hst' hadm', hbest.gt_above m' hm' st' hst' hadm'⟩

theorem findOptimalHPAConfigurations_last_greatest_on_point :
    findOptimalHPAConfigurations halfRedLine [⟨0, 3 / 5⟩] 0 54 55 1 2 = .ok (54, 1, 2) ∧
    ∃ st, searchTarget halfRedLine [⟨0, 3 / 5⟩] 0 1 2 1 ⟨54, 55, [], 0⟩ = .ok st ∧
      (1 : ℤ) ≤ 1 ∧ (1 : ℤ) ≤ 2 ∧ (2 : ℤ) = 2 ∧ 54 = st.high ∧ Admits 54 1 st ∧
      0 < calculateSavings halfRedLine 2 st.simulatedHPAList 1 ∧
      ∀ m' st', 1 ≤ m' → m' ≤ 2 →
        searchTarget halfRedLine [⟨0, 3 / 5⟩] 0 1 2 m' ⟨54, 55, [], 0⟩ = .ok st' → Admits 54 m' st' →
        calculateSavings halfRedLine 2 st'.simulatedHPAList 1 ≤ calculateSavings halfRedLine 2 st.simulatedHPAList 1 ∧
          (1 < m' → calculateSavings halfRedLine 2 st'.simulatedHPAList 1 <
            calculateSavings halfRedLine 2 st.simulatedHPAList 1) := by
  have h : findOptimalHPAConfigurations halfRedLine [⟨0, 3 / 5⟩] 0 54 55 1 2 = .ok (54, 1, 2) := by
    with_unfolding_all rfl
  exact ⟨h, findOptimalHPAConfigurations_last_greatest h⟩

/-! ## When the search gives up -/

/-- Over a window of targets inflated into `[1, 100]`, the loop over the floors
    succeeds: no probe fails. -/
theorem foldlM_considerFloor_ok (h1 : 1 ≤ minTarget) (hle : minTarget ≤ maxTarget)
    (h100 : inflateTarget maxTarget ≤ 100) :
    ∃ best, (floors maxReplicas).foldlM
      (considerFloor c dataPoints acl perPodResources maxReplicas minTarget maxTarget) ⟨0, 0, 0⟩ = .ok best := by
  cases hf : (floors maxReplicas).foldlM
      (considerFloor c dataPoints acl perPodResources maxReplicas minTarget maxTarget) ⟨0, 0, 0⟩ with
  | ok best => exact ⟨best, rfl⟩
  | error e =>
    obtain ⟨_, m, -, hstep⟩ := foldlM_except_error_step hf
    obtain ⟨st, hst⟩ : ∃ st,
        searchTarget c dataPoints acl perPodResources maxReplicas m ⟨minTarget, maxTarget, [], 0⟩ = .ok st :=
      searchTarget_ok h1 h100 (SearchInv.init (by omega))
    rw [considerFloor_error hstep] at hst
    cases hst

/-- Over a window of targets inflated into `[1, 100]`, the outer loop gives up,
    and the recommender falls back to the no-op, exactly when no admitted floor
    has positive savings. -/
theorem findOptimalHPAConfigurations_unable_iff (h1 : 1 ≤ minTarget) (hle : minTarget ≤ maxTarget)
    (h100 : inflateTarget maxTarget ≤ 100) :
    findOptimalHPAConfigurations c dataPoints acl minTarget maxTarget perPodResources maxReplicas =
        .error unableToRecommendError ↔
      ∀ m st, 1 ≤ m → m ≤ maxReplicas →
        searchTarget c dataPoints acl perPodResources maxReplicas m ⟨minTarget, maxTarget, [], 0⟩ = .ok st →
        Admits minTarget m st → calculateSavings c maxReplicas st.simulatedHPAList perPodResources ≤ 0 := by
  obtain ⟨best, hfold⟩ : ∃ best, (floors maxReplicas).foldlM
      (considerFloor c dataPoints acl perPodResources maxReplicas minTarget maxTarget) ⟨0, 0, 0⟩ = .ok best :=
    foldlM_considerFloor_ok h1 hle h100
  have hbest := foldlM_considerFloor_bestOf hfold
  -- The best candidate has no savings exactly when no admitted floor has any.
  have hzero : best.savings = 0 ↔ ∀ m st, 1 ≤ m → m ≤ maxReplicas →
      searchTarget c dataPoints acl perPodResources maxReplicas m ⟨minTarget, maxTarget, [], 0⟩ = .ok st →
      Admits minTarget m st → calculateSavings c maxReplicas st.simulatedHPAList perPodResources ≤ 0 := by
    refine ⟨fun h0 m st h1 hM hst hadm => h0 ▸ hbest.ge m (mem_floors.2 ⟨h1, hM⟩) st hst hadm, fun hall => ?_⟩
    rcases hbest.attained with rfl | ⟨m, hm, st, hst, hadm, rfl⟩
    · rfl
    · exact le_antisymm (hall m st (mem_floors.1 hm).1 (mem_floors.1 hm).2 hst hadm) hbest.nonneg
  -- A best candidate below `minTarget` is the initial one, of no savings.
  have hbelow : best.optimalTargetThreshold < minTarget → best.savings = 0 := fun hlt => by
    rcases hbest.attained with rfl | ⟨m, -, st, -, hadm, rfl⟩
    · rfl
    · exact absurd hadm.1 (not_le.2 hlt)
  unfold findOptimalHPAConfigurations
  rw [hfold, ← hzero]
  dsimp only
  split_ifs with hbad
  · exact iff_of_true rfl (hbad.elim hbelow id)
  · exact iff_of_false (fun h => by cases h) fun h0 => hbad (.inr h0)

/-- A workload of one replica at most: its floor `1` is the cap. -/
theorem findOptimalHPAConfigurations_unable_iff_on_single :
    (1 : ℤ) ≤ 54 ∧ (54 : ℤ) ≤ 55 ∧ inflateTarget 55 ≤ 100 ∧
    (findOptimalHPAConfigurations halfRedLine [⟨0, 3 / 5⟩] 0 54 55 1 1 = .error unableToRecommendError ↔
      ∀ m st, 1 ≤ m → m ≤ 1 → searchTarget halfRedLine [⟨0, 3 / 5⟩] 0 1 1 m ⟨54, 55, [], 0⟩ = .ok st →
        Admits 54 m st → calculateSavings halfRedLine 1 st.simulatedHPAList 1 ≤ 0) :=
  ⟨by decide, by decide, by decide, findOptimalHPAConfigurations_unable_iff (by decide) (by decide) (by decide)⟩

end Ottoscalr
