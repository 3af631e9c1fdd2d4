import Ottoscalr.Search

/-!
# The CPU recommender

`recommend` is `CpuUtilizationBasedRecommender.Recommend`. It scrapes the
workload's utilization over the metric window and finds the workload's
maximum of replicas (`getMaxPods`: an annotation, else a scaled object's
maximum, else the current replica count). With too few samples
(`isMetricsAboveThreshold`) it proposes the no-op configuration: the maximum
as floor and as cap. Otherwise it transforms the series, reads the workload's
autoscaling lag and per-pod resources, and searches the configuration
(`findOptimalHPAConfigurations`), again falling back to the no-op when no
configuration is breach-free.

* whatever `recommend` proposes is the no-op for the workload's maximum, or a
  breach-free target of `[minTarget, maxTarget]` with a floor in
  `[1, maximum]` and the maximum as cap (`recommend_ok`);
* so, with a maximum of at least one replica and `minTarget ≤ maxTarget`, its
  configurations are well formed (`recommend_wellFormed`);
* it fails with a collaborator's error, or panics on a metric step under one
  second (`recommend_error_cases`).
-/

namespace Ottoscalr

/-- A metrics transformer (`metrics.MetricsTransformer`): `Transform(start, end,
    dataPoints)`. -/
structure MetricsTransformer where
  transform : ℤ → ℤ → List DataPoint → Except String (List DataPoint)

/-- The client of a kind of scaled workload (`registry.ObjectClient`), by the
    results of its calls on a namespace and a name. -/
structure ObjectClient where
  getContainerResourceLimits : String → String → Except String ℚ
  getMaxReplicaFromAnnotation : String → String → Except String ℤ
  getReplicaCount : String → String → Except String ℤ

/-- An error of the Kubernetes API: whether it is a not-found error, and its
    message. -/
structure ApiError where
  notFound : Bool
  message : String

/-- A KEDA scaled object, the field read: `spec.maxReplicaCount`. -/
structure ScaledObject where
  maxReplicaCount : Option ℤ

/-- The recommender's collaborators, by the results of the calls it makes: the
    scraper's two queries (on a namespace and a workload name), the
    transformers, the registry of object clients (by kind), the listing of the
    scaled objects of a namespace that target a name, and the clock. -/
structure Collaborators where
  getAverageCPUUtilizationByWorkload : String → String → ℤ → ℤ → ℤ → Except String (List DataPoint)
  getACLByWorkload : String → String → Except String ℤ
  metricsTransformer : List MetricsTransformer
  getObjectClient : String → Except String ObjectClient
  listScaledObjects : String → String → Except ApiError (List ScaledObject)
  now : ℤ

/-! ## Reading the workload -/

/-- The error for a kind of workload the registry has no client for. -/
def unsupportedObjectKindError (objectKind : String) : String := "unsupported objectKind: " ++ objectKind

/-- The sum of the CPU limits of a pod's containers. -/
def getContainerCPULimitsSum (env : Collaborators) (ns objectKind objectName : String) : Except String ℚ :=
  match env.getObjectClient objectKind with
  | .error _ => .error (unsupportedObjectKindError objectKind)
  | .ok deploymentClient => deploymentClient.getContainerResourceLimits ns objectName

/-- The workload's maximum of replicas: the annotation's, else the first scaled
    object's maximum, else the current replica count. A listing that finds
    nothing (not found) is no error. -/
def getMaxPods (env : Collaborators) (ns objectKind objectName : String) : Except String ℤ :=
  match env.getObjectClient objectKind with
  | .error _ => .error (unsupportedObjectKindError objectKind)
  | .ok deploymentClient =>
    match deploymentClient.getMaxReplicaFromAnnotation ns objectName with
    | .ok maxPods => .ok maxPods
    | .error _ =>
      let scaledObjects : Except String (List ScaledObject) :=
        match env.listScaledObjects ns objectName with
        | .ok items => .ok items
        | .error err => if err.notFound then .ok [] else .error ("unable to fetch scaledobjects: " ++ err.message)
      match scaledObjects with
      | .error e => .error e
      | .ok scaledObjects =>
        match scaledObjects.head? >>= ScaledObject.maxReplicaCount with
        | some maxReplicaCount => .ok maxReplicaCount
        | none => deploymentClient.getReplicaCount ns objectName

/-- Go's conversion of a `float64` to `int`, which truncates toward zero. -/
def truncate (q : ℚ) : ℤ := q.num.tdiv q.den

/-- `int(d.Seconds())` of a duration in nanoseconds: whole seconds, truncated. -/
def seconds (d : ℤ) : ℤ := d.tdiv 1000000000

/-- Whether the series holds at least `metricsPercentageThreshold` percent of the
    samples the window has room for. The number of samples is a division of
    `int`s, which panics on a step under one second. (The percentage is exact
    here, where Go truncates a rounded `float64`: `57` samples of `100` give
    `56.99…` in Go and `57` here, so a threshold of `57` passes here and fails
    in Go. In `ℚ`, `x / 0 = 0`, where `float64` gives an infinity or `NaN`,
    when the window is shorter than the step.) -/
def isMetricsAboveThreshold (c : CpuUtilizationBasedRecommender) (dataPoints : List DataPoint) :
    Except Fault Bool :=
  if seconds c.metricStep = 0 then
    .error (.divideByZero "int(c.metricWindow.Seconds()) / int(c.metricStep.Seconds())")
  else
    let totalDataPoints := (seconds c.metricWindow).tdiv (seconds c.metricStep)
    let percentageOfDataPointsFetched : ℚ := (dataPoints.length : ℚ) / totalDataPoints * 100
    if truncate percentageOfDataPointsFetched < c.metricsPercentageThreshold then .ok false else .ok true

/-! ## Recommending -/

/-- `Recommend`: the configuration proposed for the workload, at the time
    `env.now`. Every error of a collaborator is returned as it is; only the
    sentinel `unableToRecommendError` of the search becomes the no-op. -/
def recommend (c : CpuUtilizationBasedRecommender) (env : Collaborators) (workloadMeta : WorkloadMeta) :
    Except Fault HPAConfiguration :=
  let end_ := env.now
  let start := end_ - c.metricWindow
  match env.getAverageCPUUtilizationByWorkload workloadMeta.ns workloadMeta.name start end_ c.metricStep with
  | .error e => .error (.error e)
  | .ok dataPoints =>
  match getMaxPods env workloadMeta.ns workloadMeta.kind workloadMeta.name with
  | .error e => .error (.error e)
  | .ok workloadMaxReplicas =>
  match isMetricsAboveThreshold c dataPoints with
  | .error f => .error f
  | .ok false => .ok ⟨workloadMaxReplicas, workloadMaxReplicas, c.minTarget⟩
  | .ok true =>
  match env.metricsTransformer.foldlM (fun dataPoints t => t.transform start end_ dataPoints) dataPoints with
  | .error e => .error (.error e)
  | .ok dataPoints =>
  match env.getACLByWorkload workloadMeta.ns workloadMeta.name with
  | .error e => .error (.error e)
  | .ok acl =>
  match getContainerCPULimitsSum env workloadMeta.ns workloadMeta.kind workloadMeta.name with
  | .error e => .error (.error e)
  | .ok perPodResources =>
  match findOptimalHPAConfigurations c dataPoints acl c.minTarget c.maxTarget perPodResources workloadMaxReplicas with
  | .error e =>
    if e = unableToRecommendError then .ok ⟨workloadMaxReplicas, workloadMaxReplicas, c.minTarget⟩
    else .error (.error e)
  | .ok (optimalTargetUtil, minReplicas, maxReplicas) => .ok ⟨minReplicas, maxReplicas, optimalTargetUtil⟩

variable {c : CpuUtilizationBasedRecommender} {env : Collaborators} {workloadMeta : WorkloadMeta}

/-- What `recommend` proposes: the no-op for the workload's maximum `M`, or the
    search's breach-free target and floor for some series, lag and per-pod
    resources, with `M` as cap. -/
theorem recommend_ok {config : HPAConfiguration} (h : recommend c env workloadMeta = .ok config) :
    ∃ M, getMaxPods env workloadMeta.ns workloadMeta.kind workloadMeta.name = .ok M ∧
      (config = ⟨M, M, c.minTarget⟩ ∨
        ∃ dataPoints acl perPodResources,
          1 ≤ config.min ∧ config.min ≤ M ∧ config.max = M ∧
          c.minTarget ≤ config.targetMetricValue ∧ config.targetMetricValue ≤ c.maxTarget ∧
          breachFree c dataPoints acl perPodResources M config.min config.targetMetricValue = true) := by
  unfold recommend at h
  dsimp only at h
  repeat' split at h
  all_goals try (cases h; done)
  · -- Too few samples: the no-op.
    cases h
    exact ⟨_, ‹getMaxPods _ _ _ _ = _›, .inl rfl⟩
  · -- No breach-free configuration: the no-op.
    cases h
    exact ⟨_, ‹getMaxPods _ _ _ _ = _›, .inl rfl⟩
  · cases h
    obtain ⟨rfl, h1, hm, hlo, hhi, hsafe⟩ :=
      findOptimalHPAConfigurations_recommendable ‹findOptimalHPAConfigurations _ _ _ _ _ _ _ = _›
    exact ⟨_, ‹getMaxPods _ _ _ _ = _›, .inr ⟨_, _, _, h1, hm, rfl, hlo, hhi, hsafe⟩⟩

/-- With a maximum of at least one replica and `minTarget ≤ maxTarget`, a
    proposal has a floor of at least one replica, at most the cap, and a
    target in `[minTarget, maxTarget]`. -/
theorem recommend_wellFormed {config : HPAConfiguration} (h : recommend c env workloadMeta = .ok config)
    (htargets : c.minTarget ≤ c.maxTarget)
    (hmax : ∀ M, getMaxPods env workloadMeta.ns workloadMeta.kind workloadMeta.name = .ok M → 1 ≤ M) :
    1 ≤ config.min ∧ config.min ≤ config.max ∧
      c.minTarget ≤ config.targetMetricValue ∧ config.targetMetricValue ≤ c.maxTarget := by
  obtain ⟨M, hM, rfl | ⟨_, _, _, h1, hm, hmax', hlo, hhi, -⟩⟩ := recommend_ok h
  · exact ⟨hmax M hM, le_rfl, le_rfl, htargets⟩
  · exact ⟨h1, hmax' ▸ hm, hlo, hhi⟩

/-- `recommend` fails with a collaborator's error, or panics on the division by
    a metric step under one second. -/
theorem recommend_error_cases {f : Fault}
    (h : recommend c env workloadMeta = .error f) :
    (∃ e, f = .error e) ∨ (seconds c.metricStep = 0 ∧
      f = .divideByZero "int(c.metricWindow.Seconds()) / int(c.metricStep.Seconds())") := by
  unfold recommend at h
  dsimp only at h
  repeat' split at h
  all_goals cases h
  all_goals try exact .inl ⟨_, rfl⟩
  -- The threshold's division.
  rename_i hthreshold
  unfold isMetricsAboveThreshold at hthreshold
  dsimp only at hthreshold
  split_ifs at hthreshold with hstep
  cases hthreshold
  exact .inr ⟨hstep, rfl⟩

end Ottoscalr
