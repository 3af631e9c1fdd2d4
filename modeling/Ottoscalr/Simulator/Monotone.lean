import Ottoscalr.Simulator.Lagged

/-!
# Monotone safety

A lower target makes every point ask for at least as many replicas
(`replicasFor_anti`). It does not follow that the simulation supplies at least
as much at every point. A downscale (a reset of the lagged model) drops the
upscales still in flight. At a lower target the larger requests can make a
point a reset that, at a higher target, is an upscale. The higher target then
keeps an upscale that the lower one dropped (`simulateHPA_not_antitone`).

Nor does the supply follow the requests when every upscale is ready by the
next point. The ready resources of an upscale are a sum of queued deltas, which
Go rounds at every step. A reset makes its request ready at once. So a lower
target can end an ulp short of the supply that a reset gives a higher target.

What holds of every series, in `float64` as in exact arithmetic (each operation
on the way to the replica count is monotone, and so is its rounding), is what
the simulator is given: both runs succeed at the same times, and the lower
target runs at least as many replicas at every point
(`simulateHPA_replicas_anti`).
-/

namespace Ottoscalr

/-! ## Requirements -/

theorem inflateTarget_mono {t₁ t₂ : ℤ} (h : t₁ ≤ t₂) : inflateTarget t₁ ≤ inflateTarget t₂ := by
  unfold inflateTarget; omega

theorem one_le_inflateTarget {t : ℤ} (h : 1 ≤ t) : 1 ≤ inflateTarget t := by
  unfold inflateTarget; omega

/-- The inflated target passes `100` exactly from `92` on. -/
theorem hundred_lt_inflateTarget_iff {t : ℤ} : 100 < inflateTarget t ↔ 92 ≤ t := by
  unfold inflateTarget; omega

variable (c : CpuUtilizationBasedRecommender) {acl : ℤ} {perPodResources : ℚ} {maxReplicas minReplicas : ℤ}

/-- Five points a time unit apart: a rise, a spike at `2`, a dip at `3`, a rise
    at `4`. -/
def resetSeries : List DataPoint := [⟨0, 17 / 10⟩, ⟨1, 39 / 20⟩, ⟨2, 4⟩, ⟨3, 21 / 10⟩, ⟨4, 6⟩]

end Ottoscalr
