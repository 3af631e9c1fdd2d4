import Ottoscalr.Basic

/-!
# The HPA simulator

`simulateHPA` replays a utilization series under a candidate target, floor
and cap of replicas, as an autoscaler would have run it with an *autoscaling
cycle lag* `acl`: the capacity an upscale asks for is ready only `acl` later,
while a downscale is immediate and drops the upscales still pending.

The loop keeps the resources ready, a queue of `TimerEvent`s (the pending
upscales, each the part of the requested capacity not already queued) and the
smallest unclamped replica count seen. A step (`simulateStep`):

* drains the timers at the front of the queue that are due (`drainTimers`);
* computes the resources the point needs (`replicasFor`, times the resources
  per replica);
* upscales, queueing what is not already queued (`pendingDelta`), or
  downscales, making the resources ready at once and clearing the queue;
* emits the ready resources times the red-line utilization.

Proved here: the simulation keeps the length and the timestamps of the series
(`simulateHPA_timestamps`), and fails exactly on a non-empty series with an
inflated target out of `[1, 100]` (`simulateHPA_error`, `simulateHPA_of_invalid`).

The model computes in exact rationals, where Go rounds every `float64`
operation; `requiredReplicas` says where the two part at zero resources per pod.
-/

namespace Ottoscalr

/-- The target inflated by a headroom of 10%, Go's
    `int(math.Floor(float64(t) * 1.1))`. (For every `0 ≤ t < 10^14`, the
    `float64` product has this floor.) -/
def inflateTarget (targetUtilization : ℤ) : ℤ := 11 * targetUtilization / 10

/-- The replicas the usage `v` needs at the inflated target `T`, before
    clamping: `math.Ceil((v * 100) / float64(T) / perPodResources)`. (In `ℚ`,
    `x / 0 = 0`. In Go, `perPodResources = 0`, which `getContainerCPULimitsSum`
    returns for a workload without CPU limits, gives `+Inf` for a positive usage
    and `NaN` for a zero one: the clamp keeps a `NaN`, so a point of zero usage
    supplies `NaN`, and `int(calculatedMinReplicas)` of an infinity or a `NaN`
    is `MinInt64` on amd64. The model's simulated values and replica count are
    Go's only for `0 < perPodResources`.) -/
def requiredReplicas (v : ℚ) (T : ℤ) (perPodResources : ℚ) : ℤ :=
  ⌈v * 100 / T / perPodResources⌉

/-- The replicas the autoscaler runs for the usage `v`: the required replicas
    clamped to `[minReplicas, maxReplicas]`,
    `math.Min(max, math.Max(min, math.Ceil(...)))`. (The first point computes
    `v * 100`, the others `100 * v`: the same number.) -/
def replicasFor (v : ℚ) (T : ℤ) (perPodResources : ℚ) (maxReplicas minReplicas : ℤ) : ℚ :=
  min (maxReplicas : ℚ) (max (minReplicas : ℚ) (requiredReplicas v T perPodResources : ℚ))

/-- The state of the simulator's loop. -/
structure SimState where
  readyResources : ℚ
  timers : List TimerEvent
  calculatedMinReplicas : ℤ

/-- The inner loop: pop the timers at the front of the queue while the time
    `ts` is not before them, adding their deltas to the ready resources. (The
    source's comment says the timers "before the current time"; the code also
    pops a timer due at the point itself.) -/
def drainTimers (ts : ℤ) : ℚ → List TimerEvent → ℚ × List TimerEvent
  | ready, [] => (ready, [])
  | ready, e :: es => if ts < e.timestamp then (ready, e :: es) else drainTimers ts (ready + e.delta) es

/-- The part of an upscale to `newResources` that is not already queued:
    `newResources - readyResources`, minus every delta of the queue. -/
def pendingDelta (newResources readyResources : ℚ) (timers : List TimerEvent) : ℚ :=
  timers.foldl (fun delta timer => delta - timer.delta) (newResources - readyResources)

variable (c : CpuUtilizationBasedRecommender) (acl T : ℤ) (perPodResources : ℚ)
  (maxReplicas minReplicas : ℤ)

/-- One iteration of the loop over the points after the first, at the
    inflated target `T`: the next state and the simulated point. -/
def simulateStep (s : SimState) (dp : DataPoint) : SimState × DataPoint :=
  let drained := drainTimers dp.timestamp s.readyResources s.timers
  let newResources := replicasFor dp.value T perPodResources maxReplicas minReplicas * perPodResources
  let calculatedMinReplicas := min s.calculatedMinReplicas (requiredReplicas dp.value T perPodResources)
  if drained.1 < newResources then
    let delta := pendingDelta newResources drained.1 drained.2
    let timers := if 0 < delta then drained.2 ++ [⟨dp.timestamp + acl, delta⟩] else drained.2
    (⟨drained.1, timers, calculatedMinReplicas⟩, ⟨dp.timestamp, drained.1 * c.redLineUtil⟩)
  else
    (⟨newResources, [], calculatedMinReplicas⟩, ⟨dp.timestamp, newResources * c.redLineUtil⟩)

/-- The loop over the points after the first: the simulated points and the
    final state. -/
def simulateLoop : SimState → List DataPoint → List DataPoint × SimState
  | s, [] => ([], s)
  | s, dp :: dps =>
    let r := simulateStep c acl T perPodResources maxReplicas minReplicas s dp
    let rest := simulateLoop r.1 dps
    (r.2 :: rest.1, rest.2)

/-- The error for an inflated target out of `[1, 100]`. -/
def invalidTargetError (T : ℤ) : String :=
  "Invalid value of target utilization: " ++ toString T ++ ". Value should be between 1 and 100"

/-- `simulateHPA`: the simulated supply series and the smallest unclamped
    replica count, `int(calculatedMinReplicas)`; an empty series gives an empty
    one before the target is checked. -/
def simulateHPA (dataPoints : List DataPoint) (acl : ℤ) (targetUtilization : ℤ)
    (perPodResources : ℚ) (maxReplicas minReplicas : ℤ) : Except String (List DataPoint × ℤ) :=
  let T := inflateTarget targetUtilization
  match dataPoints with
  | [] => .ok ([], 0)
  | d :: dps =>
    if T < 1 ∨ 100 < T then .error (invalidTargetError T)
    else
      let currentResources := replicasFor d.value T perPodResources maxReplicas minReplicas * perPodResources
      let s : SimState := ⟨currentResources, [], requiredReplicas d.value T perPodResources⟩
      let r := simulateLoop c acl T perPodResources maxReplicas minReplicas s dps
      .ok (⟨d.timestamp, currentResources * c.redLineUtil⟩ :: r.1, r.2.calculatedMinReplicas)

/-! ## Shape of the simulation -/

@[simp] theorem simulateHPA_nil (acl t : ℤ) :
    simulateHPA c [] acl t perPodResources maxReplicas minReplicas = .ok ([], 0) := rfl

theorem simulateHPA_cons (d : DataPoint) (dps : List DataPoint) (acl t : ℤ) :
    simulateHPA c (d :: dps) acl t perPodResources maxReplicas minReplicas =
      if inflateTarget t < 1 ∨ 100 < inflateTarget t then .error (invalidTargetError (inflateTarget t))
      else
        let T := inflateTarget t
        let currentResources := replicasFor d.value T perPodResources maxReplicas minReplicas * perPodResources
        let r := simulateLoop c acl T perPodResources maxReplicas minReplicas
          ⟨currentResources, [], requiredReplicas d.value T perPodResources⟩ dps
        .ok (⟨d.timestamp, currentResources * c.redLineUtil⟩ :: r.1, r.2.calculatedMinReplicas) := rfl

@[simp] theorem simulateStep_timestamp (s : SimState) (dp : DataPoint) :
    (simulateStep c acl T perPodResources maxReplicas minReplicas s dp).2.timestamp = dp.timestamp := by
  dsimp only [simulateStep]; split <;> rfl

/-- The loop emits one point per point, at its time. -/
theorem simulateLoop_timestamps (s : SimState) (dps : List DataPoint) :
    (simulateLoop c acl T perPodResources maxReplicas minReplicas s dps).1.map DataPoint.timestamp =
      dps.map DataPoint.timestamp := by
  induction dps generalizing s with
  | nil => rfl
  | cons dp dps ih => simp [simulateLoop, ih]

variable {c perPodResources maxReplicas minReplicas}

/-- A simulation that succeeds has the timestamps, hence the length, of the
    series. -/
theorem simulateHPA_timestamps {dataPoints : List DataPoint} {acl t : ℤ} {sim : List DataPoint}
    {calculatedMin : ℤ}
    (h : simulateHPA c dataPoints acl t perPodResources maxReplicas minReplicas = .ok (sim, calculatedMin)) :
    sim.map DataPoint.timestamp = dataPoints.map DataPoint.timestamp := by
  cases dataPoints with
  | nil => cases h; rfl
  | cons d dps =>
    rw [simulateHPA_cons] at h
    split at h
    · cases h
    · cases h; simp [simulateLoop_timestamps]

theorem simulateHPA_length {dataPoints : List DataPoint} {acl t : ℤ} {sim : List DataPoint}
    {calculatedMin : ℤ}
    (h : simulateHPA c dataPoints acl t perPodResources maxReplicas minReplicas = .ok (sim, calculatedMin)) :
    sim.length = dataPoints.length := by
  simpa using congrArg List.length (simulateHPA_timestamps h)

/-- The simulation fails exactly on a non-empty series with an inflated target
    out of `[1, 100]`, and then with the message naming it. -/
theorem simulateHPA_error {dataPoints : List DataPoint} {acl t : ℤ} {e : String}
    (h : simulateHPA c dataPoints acl t perPodResources maxReplicas minReplicas = .error e) :
    dataPoints ≠ [] ∧ (inflateTarget t < 1 ∨ 100 < inflateTarget t) ∧
      e = invalidTargetError (inflateTarget t) := by
  cases dataPoints with
  | nil => cases h
  | cons d dps =>
    rw [simulateHPA_cons] at h
    split at h
    · cases h; exact ⟨List.cons_ne_nil _ _, ‹_›, rfl⟩
    · cases h

/-- On a non-empty series, an inflated target out of `[1, 100]` fails. -/
theorem simulateHPA_of_invalid {dataPoints : List DataPoint} {acl t : ℤ} (hne : dataPoints ≠ [])
    (hT : inflateTarget t < 1 ∨ 100 < inflateTarget t) :
    simulateHPA c dataPoints acl t perPodResources maxReplicas minReplicas =
      .error (invalidTargetError (inflateTarget t)) := by
  obtain ⟨d, dps, rfl⟩ := List.exists_cons_of_ne_nil hne
  rw [simulateHPA_cons, if_pos hT]

/-- The simulator's error is not the search's sentinel. -/
theorem invalidTargetError_ne_unableToRecommendError (T : ℤ) : invalidTargetError T ≠ unableToRecommendError := by
  intro h
  have hI : (invalidTargetError T).data.head? = some 'I' := rfl
  rw [h] at hI
  exact absurd hI (by decide)

end Ottoscalr
