import Ottoscalr.Simulator

/-!
# The lagged-capacity model

What the timer queue of `simulateHPA` is meant to compute, said without a
queue. Each step `k` *requests* the capacity `R k` at its time `t k`; a request
is ready at the first step at or after `t k + acl`, and a step whose request is
at most the capacity ready is a *reset*: the capacity drops to its request and
the requests before it are forgotten. With `r` the last reset before `j` (the
first point is one), the capacity ready at `j` before its own request is

  `pre j = max ({R r} ∪ {R k | r < k < j, t k + acl ≤ t j})`,

and the step supplies `R j` if it is a reset, `pre j` otherwise
(`laggedCapacity`).

The simulator refines this model on every series whose timestamps do not
decrease (`simulateHPA_eq_laggedCapacity`). The abstraction (`Tracks`) splits
the requests since the last reset into those already drained and those still
pending, and reads the queue as the timers of the pending requests that beat
every request before them (`timersOf`), each for the capacity it adds:

* the ready capacity plus the queued deltas is the largest request
  (`pendingDelta_timersOf`), so an upscale queues exactly what it adds
  (`timersOf_enqueue`);
* the requests of a non-decreasing series fall due in order, so draining the
  front of the queue drains every due timer (`drainTimers_timersOf`).
-/

namespace Ottoscalr

/-- The largest of `b` and the capacities of the requests `qs`. -/
def maxFrom (b : ℚ) (qs : List (ℤ × ℚ)) : ℚ := qs.foldl (fun a q => max a q.2) b

@[simp] theorem maxFrom_nil (b : ℚ) : maxFrom b [] = b := rfl

@[simp] theorem maxFrom_cons (b : ℚ) (q : ℤ × ℚ) (qs : List (ℤ × ℚ)) :
    maxFrom b (q :: qs) = maxFrom (max b q.2) qs := rfl

@[simp] theorem maxFrom_append (b : ℚ) (qs qs' : List (ℤ × ℚ)) :
    maxFrom b (qs ++ qs') = maxFrom (maxFrom b qs) qs' := List.foldl_append _ _ _ _

/-- What the lagged model remembers: the request `base` of the last reset and
    the requests made since. -/
structure Lagged where
  base : ℚ
  requests : List (ℤ × ℚ)

namespace Lagged

/-- The capacity ready at time `t`: the largest of the last reset's request and
    of the requests since that are due at `t`. -/
def pre (acl : ℤ) (s : Lagged) (t : ℤ) : ℚ :=
  maxFrom s.base (s.requests.filter fun q => q.1 + acl ≤ t)

/-- A step requesting `q.2` at time `q.1`: a reset if the request is at most
    the capacity ready; the next state and the capacity supplied. -/
def step (acl : ℤ) (s : Lagged) (q : ℤ × ℚ) : Lagged × ℚ :=
  if q.2 ≤ s.pre acl q.1 then (⟨q.2, []⟩, q.2) else (⟨s.base, s.requests ++ [q]⟩, s.pre acl q.1)

/-- The capacities supplied along the requests `qs`. -/
def run (acl : ℤ) : Lagged → List (ℤ × ℚ) → List ℚ
  | _, [] => []
  | s, q :: qs => (s.step acl q).2 :: run acl (s.step acl q).1 qs

end Lagged

/-- The lagged-capacity model of a series of requests: the first is a reset. -/
def laggedCapacity (acl : ℤ) : List (ℤ × ℚ) → List ℚ
  | [] => []
  | q :: qs => q.2 :: Lagged.run acl ⟨q.2, []⟩ qs

/-! ## The queue of a run -/

/-- The timers the simulator keeps for the pending requests `qs`, past the
    level `lvl`: one for each request above every request before it, due `acl`
    after it, for the capacity it adds. -/
def timersOf (acl : ℤ) : ℚ → List (ℤ × ℚ) → List TimerEvent
  | _, [] => []
  | lvl, q :: qs =>
    if lvl < q.2 then ⟨q.1 + acl, q.2 - lvl⟩ :: timersOf acl q.2 qs else timersOf acl lvl qs

variable {acl : ℤ}

theorem timersOf_append (lvl : ℚ) (qs qs' : List (ℤ × ℚ)) :
    timersOf acl lvl (qs ++ qs') = timersOf acl lvl qs ++ timersOf acl (maxFrom lvl qs) qs' := by
  induction qs generalizing lvl with
  | nil => rfl
  | cons q qs ih =>
    by_cases h : lvl < q.2
    · simp [timersOf, h, ih, max_eq_right h.le]
    · simp [timersOf, h, ih, max_eq_left (not_lt.1 h)]

/-- The queued deltas add up to what the pending requests add to `lvl`. -/
theorem pendingDelta_timersOf (x lvl : ℚ) (qs : List (ℤ × ℚ)) :
    (timersOf acl lvl qs).foldl (fun delta timer => delta - timer.delta) x = x - (maxFrom lvl qs - lvl) := by
  induction qs generalizing x lvl with
  | nil => simp [timersOf]
  | cons q qs ih =>
    by_cases h : lvl < q.2
    · simp only [timersOf, h, if_true, List.foldl_cons, ih, maxFrom_cons, max_eq_right h.le]; ring
    · simp only [timersOf, h, if_false, ih, maxFrom_cons, max_eq_left (not_lt.1 h)]

/-- An upscale to `R` past the level `lvl` queues, after the timers of the
    pending requests `P`, exactly the timer the request `(t, R)` adds to them. -/
theorem timersOf_enqueue (lvl R : ℚ) (P : List (ℤ × ℚ)) (t : ℤ) :
    (if 0 < pendingDelta R lvl (timersOf acl lvl P) then
        timersOf acl lvl P ++ [⟨t + acl, pendingDelta R lvl (timersOf acl lvl P)⟩]
      else timersOf acl lvl P) = timersOf acl lvl (P ++ [(t, R)]) := by
  rw [timersOf_append, pendingDelta, pendingDelta_timersOf]
  have hdelta : R - lvl - (maxFrom lvl P - lvl) = R - maxFrom lvl P := by ring
  by_cases hlvl : maxFrom lvl P < R
  · simp [timersOf, hdelta, hlvl]
  · simp [timersOf, hdelta, hlvl, not_lt.1 hlvl]

theorem timestamp_of_mem_timersOf {lvl : ℚ} {qs : List (ℤ × ℚ)} {e : TimerEvent}
    (he : e ∈ timersOf acl lvl qs) : ∃ q ∈ qs, e.timestamp = q.1 + acl := by
  induction qs generalizing lvl with
  | nil => cases he
  | cons q qs ih =>
    unfold timersOf at he
    split at he
    · rcases List.mem_cons.1 he with rfl | he
      · exact ⟨q, List.mem_cons_self _ _, rfl⟩
      · obtain ⟨q', hq', h⟩ := ih he; exact ⟨q', List.mem_cons_of_mem _ hq', h⟩
    · obtain ⟨q', hq', h⟩ := ih he; exact ⟨q', List.mem_cons_of_mem _ hq', h⟩

/-- Draining stops at once at a queue of timers none of which is due. -/
theorem drainTimers_of_not_due {ts : ℤ} (r : ℚ) {es : List TimerEvent}
    (h : ∀ e ∈ es, ts < e.timestamp) : drainTimers ts r es = (r, es) := by
  cases es with
  | nil => rfl
  | cons e es => simp [drainTimers, h e (List.mem_cons_self _ _)]

/-- Draining the timers of due requests raises the ready capacity to the
    largest of them. -/
theorem drainTimers_timersOf {ts : ℤ} (lvl : ℚ) {qs : List (ℤ × ℚ)} (rest : List TimerEvent)
    (hdue : ∀ q ∈ qs, q.1 + acl ≤ ts) :
    drainTimers ts lvl (timersOf acl lvl qs ++ rest) = drainTimers ts (maxFrom lvl qs) rest := by
  induction qs generalizing lvl with
  | nil => rfl
  | cons q qs ih =>
    have hq := hdue q (List.mem_cons_self _ _)
    have ih' := fun l => ih l fun q' hq' => hdue q' (List.mem_cons_of_mem _ hq')
    by_cases h : lvl < q.2
    · simp [timersOf, h, drainTimers, not_lt.2 hq, ih', max_eq_right h.le]
    · simp [timersOf, h, ih', max_eq_left (not_lt.1 h)]

/-- A list in which `p` holds of an element whenever it holds of a later one is
    the elements where `p` holds followed by the others. -/
theorem filter_append_filter_not {α : Type*} (p : α → Bool) {l : List α}
    (hl : l.Pairwise fun a b => p b → p a) : l.filter p ++ l.filter (fun a => !p a) = l := by
  induction l with
  | nil => rfl
  | cons a l ih =>
    rw [List.pairwise_cons] at hl
    by_cases ha : p a
    · rw [List.filter_cons_of_pos ha, List.filter_cons_of_neg (by simpa using ha), List.cons_append,
        ih hl.2]
    · have hnone : ∀ b ∈ l, ¬p b := fun b hb hpb => ha (hl.1 b hb hpb)
      rw [List.filter_cons_of_neg ha, List.filter_cons_of_pos (by simpa using ha),
        List.filter_eq_nil_iff.2 hnone, List.filter_eq_self.2 (by simpa using hnone), List.nil_append]

/-! ## Refinement -/

/-- The simulator's state `s` at time `τ` tracks the model's state `l`: the
    requests since the last reset are some drained ones `D`, all due at `τ`,
    followed by pending ones `P`; the ready capacity is the largest of the
    reset's request and of `D`, and the queue holds the timers of `P`. The
    requests are in time order, none after `τ`. -/
structure Tracks (acl τ : ℤ) (s : SimState) (l : Lagged) : Prop where
  split : ∃ D P, l.requests = D ++ P ∧ (∀ q ∈ D, q.1 + acl ≤ τ) ∧
    s.readyResources = maxFrom l.base D ∧ s.timers = timersOf acl (maxFrom l.base D) P
  sorted : l.requests.Pairwise fun a b => a.1 ≤ b.1
  past : ∀ q ∈ l.requests, q.1 ≤ τ

theorem tracks_reset (τ : ℤ) (R : ℚ) (m : ℤ) : Tracks acl τ ⟨R, [], m⟩ ⟨R, []⟩ :=
  ⟨⟨[], [], rfl, by simp, rfl, rfl⟩, List.Pairwise.nil, by simp⟩

/-- At a later time `t`, the front of the queue that is due is what the model
    counts as ready: draining gives `pre`, and leaves the timers of the
    requests not yet due. -/
theorem Tracks.drain {τ t : ℤ} {s : SimState} {l : Lagged} (h : Tracks acl τ s l) (ht : τ ≤ t) :
    ∃ P₂, (∀ q ∈ P₂, t < q.1 + acl) ∧ l.requests.filter (fun q => q.1 + acl ≤ t) ++ P₂ = l.requests ∧
      drainTimers t s.readyResources s.timers = (l.pre acl t, timersOf acl (l.pre acl t) P₂) := by
  obtain ⟨⟨D, P, hreq, hD, hready, htimers⟩, hsorted, -⟩ := h
  have hdueD : D.filter (fun q => q.1 + acl ≤ t) = D :=
    List.filter_eq_self.2 fun q hq => by simpa using (hD q hq).trans ht
  have hsortedP : P.Pairwise fun a b => decide (b.1 + acl ≤ t) → decide (a.1 + acl ≤ t) :=
    ((List.pairwise_append.1 (hreq ▸ hsorted)).2.1).imp fun hab hb => by simp at hb ⊢; omega
  have hsplitP : P.filter (fun q => decide (q.1 + acl ≤ t)) ++ P.filter (fun q => !decide (q.1 + acl ≤ t)) = P :=
    filter_append_filter_not _ hsortedP
  have hpre : l.pre acl t = maxFrom (maxFrom l.base D) (P.filter fun q => q.1 + acl ≤ t) := by
    rw [Lagged.pre, hreq, List.filter_append, hdueD, maxFrom_append]
  refine ⟨P.filter (fun q => !decide (q.1 + acl ≤ t)), fun q hq => by simpa using (List.mem_filter.1 hq).2,
    by rw [hreq, List.filter_append, hdueD, List.append_assoc, hsplitP], ?_⟩
  have hP := congrArg (timersOf acl (maxFrom l.base D)) hsplitP
  rw [timersOf_append] at hP
  rw [hready, htimers, ← hP, drainTimers_timersOf _ _ fun q hq => by simpa using (List.mem_filter.1 hq).2,
    ← hpre]
  refine drainTimers_of_not_due _ fun e he => ?_
  obtain ⟨q, hq, he⟩ := timestamp_of_mem_timersOf he
  have := (List.mem_filter.1 hq).2
  simp only [Bool.not_eq_true', decide_eq_false_iff_not, not_le] at this
  omega

variable (c : CpuUtilizationBasedRecommender) (T : ℤ) (perPodResources : ℚ) (maxReplicas minReplicas : ℤ)

/-- The request of a point at the inflated target `T`: its time, and the
    resources of the replicas it needs. -/
def requestOf (dp : DataPoint) : ℤ × ℚ :=
  (dp.timestamp, replicasFor dp.value T perPodResources maxReplicas minReplicas * perPodResources)

/-- One step of the simulator is one step of the model: it keeps `Tracks` and
    supplies the model's capacity times the red line. -/
theorem Tracks.step {τ : ℤ} {s : SimState} {l : Lagged} (h : Tracks acl τ s l) {dp : DataPoint}
    (ht : τ ≤ dp.timestamp) :
    Tracks acl dp.timestamp (simulateStep c acl T perPodResources maxReplicas minReplicas s dp).1
        (l.step acl (requestOf T perPodResources maxReplicas minReplicas dp)).1 ∧
      (simulateStep c acl T perPodResources maxReplicas minReplicas s dp).2.value =
        (l.step acl (requestOf T perPodResources maxReplicas minReplicas dp)).2 * c.redLineUtil := by
  obtain ⟨P₂, hP₂, hsplit, hdrain⟩ := h.drain ht
  simp only [simulateStep, hdrain, Lagged.step, requestOf]
  set R := replicasFor dp.value T perPodResources maxReplicas minReplicas * perPodResources
  by_cases hR : R ≤ l.pre acl dp.timestamp
  · -- A reset: the capacity drops to the request, and nothing is pending.
    simp only [not_lt.2 hR, hR, if_true, if_false, and_true]
    exact tracks_reset _ _ _
  · -- An upscale: what is ready stays, and the request joins the pending ones.
    have hlt := not_le.1 hR
    simp only [hlt, hR, if_true, if_false, and_true]
    refine ⟨⟨l.requests.filter (fun q => q.1 + acl ≤ dp.timestamp), P₂ ++ [(dp.timestamp, R)],
      by rw [← List.append_assoc, hsplit], fun q hq => by simpa using (List.mem_filter.1 hq).2, rfl, ?_⟩,
      ?_, ?_⟩
    · exact timersOf_enqueue _ _ _ _
    · exact List.pairwise_append.2 ⟨h.sorted, List.pairwise_singleton _ _,
        fun a ha b hb => by rw [List.mem_singleton.1 hb]; exact (h.past a ha).trans ht⟩
    · intro q hq
      rcases List.mem_append.1 hq with hq | hq
      · exact (h.past q hq).trans ht
      · rw [List.mem_singleton.1 hq]

/-- The loop refines the model's run, from tracked states, along a series whose
    timestamps do not decrease and are not before `τ`. -/
theorem Tracks.loop {τ : ℤ} {s : SimState} {l : Lagged} (h : Tracks acl τ s l) {dps : List DataPoint}
    (hsorted : dps.Pairwise fun a b => a.timestamp ≤ b.timestamp) (hτ : ∀ d ∈ dps, τ ≤ d.timestamp) :
    (simulateLoop c acl T perPodResources maxReplicas minReplicas s dps).1.map DataPoint.value =
      (l.run acl (dps.map (requestOf T perPodResources maxReplicas minReplicas))).map (· * c.redLineUtil) := by
  induction dps generalizing τ s l with
  | nil => rfl
  | cons dp dps ih =>
    rw [List.pairwise_cons] at hsorted
    obtain ⟨h', hv⟩ := h.step c T perPodResources maxReplicas minReplicas (hτ dp (List.mem_cons_self _ _))
    simp only [simulateLoop, List.map_cons, Lagged.run, hv, ih h' hsorted.2 hsorted.1]

/-- On a series whose timestamps do not decrease, at a target it accepts, the
    simulator supplies the red line times the model's capacity. -/
theorem simulateHPA_values (acl : ℤ) {dataPoints : List DataPoint} {t : ℤ}
    (hsorted : dataPoints.Pairwise fun a b => a.timestamp ≤ b.timestamp)
    (h1 : 1 ≤ inflateTarget t) (h100 : inflateTarget t ≤ 100) :
    ∃ sim calculatedMin,
      simulateHPA c dataPoints acl t perPodResources maxReplicas minReplicas = .ok (sim, calculatedMin) ∧
      sim.map DataPoint.value =
        (laggedCapacity acl (dataPoints.map (requestOf (inflateTarget t) perPodResources maxReplicas minReplicas))).map
          (· * c.redLineUtil) := by
  cases dataPoints with
  | nil => exact ⟨[], 0, rfl, rfl⟩
  | cons d dps =>
    rw [List.pairwise_cons] at hsorted
    refine ⟨_, _, by rw [simulateHPA_cons, if_neg (by omega)], ?_⟩
    simp only [List.map_cons, laggedCapacity]
    rw [(tracks_reset d.timestamp _ _).loop c _ perPodResources maxReplicas minReplicas hsorted.2 hsorted.1]
    rfl

/-- The timer-queue simulator computes the lagged-capacity model: on a series
    whose timestamps do not decrease, at a target it accepts, it supplies at
    every point, at the point's time, the red line times the model's capacity. -/
theorem simulateHPA_eq_laggedCapacity {dataPoints : List DataPoint} {acl t : ℤ}
    (hsorted : dataPoints.Pairwise fun a b => a.timestamp ≤ b.timestamp)
    (h1 : 1 ≤ inflateTarget t) (h100 : inflateTarget t ≤ 100) :
    ∃ sim calculatedMin,
      simulateHPA c dataPoints acl t perPodResources maxReplicas minReplicas = .ok (sim, calculatedMin) ∧
      sim.map DataPoint.timestamp = dataPoints.map DataPoint.timestamp ∧
      sim.map DataPoint.value =
        (laggedCapacity acl (dataPoints.map (requestOf (inflateTarget t) perPodResources maxReplicas minReplicas))).map
          (· * c.redLineUtil) := by
  obtain ⟨sim, calculatedMin, h, hv⟩ :=
    simulateHPA_values c perPodResources maxReplicas minReplicas acl hsorted h1 h100
  exact ⟨sim, calculatedMin, h, simulateHPA_timestamps h, hv⟩

/-- A recommender that counts all the capacity as usable: red line `1`. -/
def fullRedLine : CpuUtilizationBasedRecommender := ⟨1, 0, 0, 0, 0, 0⟩

/-- A rise at a lag of one: the requests are `3, 7, 5` replicas; the upscale to
    `7` asked at `1` is ready at `2`, where `5` is a downscale. -/
theorem simulateHPA_eq_laggedCapacity_on_rise :
    (([⟨0, 1⟩, ⟨1, 3⟩, ⟨2, 2⟩] : List DataPoint).Pairwise fun a b => a.timestamp ≤ b.timestamp) ∧
      1 ≤ inflateTarget 40 ∧ inflateTarget 40 ≤ 100 ∧
    ∃ sim calculatedMin,
      simulateHPA fullRedLine [⟨0, 1⟩, ⟨1, 3⟩, ⟨2, 2⟩] 1 40 1 10 1 = .ok (sim, calculatedMin) ∧
      sim.map DataPoint.timestamp = [0, 1, 2] ∧
      sim.map DataPoint.value =
        (laggedCapacity 1 (([⟨0, 1⟩, ⟨1, 3⟩, ⟨2, 2⟩] : List DataPoint).map (requestOf (inflateTarget 40) 1 10 1))).map
          (· * fullRedLine.redLineUtil) := by
  have hsorted : ([⟨0, 1⟩, ⟨1, 3⟩, ⟨2, 2⟩] : List DataPoint).Pairwise fun a b => a.timestamp ≤ b.timestamp := by
    decide
  have h1 : 1 ≤ inflateTarget 40 := by decide
  have h100 : inflateTarget 40 ≤ 100 := by decide
  exact ⟨hsorted, h1, h100, simulateHPA_eq_laggedCapacity fullRedLine 1 10 1 hsorted h1 h100⟩

end Ottoscalr
