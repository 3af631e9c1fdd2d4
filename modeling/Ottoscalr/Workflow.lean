import Mathlib.Data.List.Nodup
import Ottoscalr.Policy
import Ottoscalr.Recommender

/-!
# The recommendation workflow

`execute` is `RecommendationWorkflowImpl.Execute`. It asks the recommender for
a target configuration and raises its floor to the workflow's least
(`transformTargetRecoConfig`). It asks every policy iterator for a policy and
keeps the safest (`mergePolicies`). Then it derives the next configuration
(`generateNextRecoConfig`): the target itself, with the store's closest safe
policy, when the recommendation is safer than the policy, and otherwise the
policy's cut of the target. The iterators sit in a Go map, which is enumerated
in no fixed order: `policyIterators` lists its entries in the order of one
enumeration, and any other enumeration is a permutation of the list.

Proved here, for every run of the builder from `NewRecommendationWorkflowBuilder`:

* it keeps the iterators' names distinct, as the keys of a map
  (`RecoWorkflowBuilder.run_build_names_nodup`);
* it builds exactly when it sets a recommender or adds an iterator
  (`RecoWorkflowBuilder.run_build_error_iff`): nothing asks for a store;
* what it builds has the first recommender set, under each name the first
  iterator added, the last store set, and the last least floor set, `3` for
  `0` (`RecoWorkflowBuilder.run_build_ok`).
-/

namespace Ottoscalr

/-- The policy store (`policy.Store`, an interface declared outside the
    source), by the results of the calls made on it. A successful
    `GetSortedPolicies` returns a list. -/
structure Store where
  getDefaultPolicy : Except String PolicyCR
  getSafestPolicy : Except String PolicyCR
  getPolicyByName : String → Except String PolicyCR
  getNextPolicyByName : String → Except String PolicyCR
  getSortedPolicies : Except String (List PolicyCR)

/-- A policy iterator (`PolicyIterator`): its name, the key of the workflow's
    map, and the policy it proposes for a workload, if any. -/
structure PolicyIterator where
  name : String
  nextPolicy : WorkloadMeta → Except String (Option Policy)

/-- A recommender (`Recommender`): the configuration it proposes for a workload,
    if any. It may also panic. -/
structure Recommender where
  recommend : WorkloadMeta → Except Fault (Option HPAConfiguration)

/-- The CPU recommender as the workflow calls it. -/
def CpuUtilizationBasedRecommender.toRecommender (c : CpuUtilizationBasedRecommender) (env : Collaborators) :
    Recommender :=
  ⟨fun wm => some <$> recommend c env wm⟩

/-- The CPU recommender, as the workflow calls it, proposes what `recommend`
    returns. -/
theorem CpuUtilizationBasedRecommender.toRecommender_ok {c : CpuUtilizationBasedRecommender}
    {env : Collaborators} {wm : WorkloadMeta} {t : Option HPAConfiguration}
    (h : (c.toRecommender env).recommend wm = .ok t) : ∃ config, recommend c env wm = .ok config ∧ t = some config := by
  dsimp only [toRecommender] at h
  cases hconfig : recommend c env wm with
  | error f => rw [hconfig] at h; cases h
  | ok config => rw [hconfig] at h; cases h; exact ⟨config, rfl, rfl⟩

/-- The CPU recommender, as the workflow calls it, fails as `recommend` does. -/
theorem CpuUtilizationBasedRecommender.toRecommender_error {c : CpuUtilizationBasedRecommender}
    {env : Collaborators} {wm : WorkloadMeta}
    {f : Fault} (h : (c.toRecommender env).recommend wm = .error f) :
    recommend c env wm = .error f := by
  dsimp only [CpuUtilizationBasedRecommender.toRecommender] at h
  cases hconfig : recommend c env wm with
  | error f' => rw [hconfig] at h; cases h; rfl
  | ok config => rw [hconfig] at h; cases h

/-! ## The policy iterators -/

/-- `DefaultPolicyIterator.NextPolicy`: the store's default policy. -/
def DefaultPolicyIterator.nextPolicy (store : Store) (_wm : WorkloadMeta) : Except String (Option Policy) :=
  match store.getDefaultPolicy with
  | .error e => .error e
  | .ok policy => .ok (some (policyFromCR policy))

/-- The error of `isAgeBeyondExpiry` without a record. -/
def policyRecommendationNilError : String := "Policy recommendation is nil"

/-- Whether the record's policy is older than `age` at the time `now`. -/
def isAgeBeyondExpiry (policyreco : Option PolicyRecommendation) (age now : ℤ) : Except String Bool :=
  match policyreco with
  | none => .error policyRecommendationNilError
  | some policyreco => if now < policyreco.transitionedAt + age then .ok false else .ok true

/-- The aging iterator: its store, the client reading a workload's
    recommendation record by namespace and name, and the age of expiry. -/
structure AgingPolicyIterator where
  store : Store
  client : String → String → Except String PolicyRecommendation
  age : ℤ

/-- `AgingPolicyIterator.NextPolicy` at the time `now`: the safest policy for a
    workload on no policy yet, its policy until it expires, and then the next
    one. The error of reading the record is not checked: the record is then
    the zero one. -/
def AgingPolicyIterator.nextPolicy (pi : AgingPolicyIterator) (now : ℤ) (wm : WorkloadMeta) :
    Except String (Option Policy) :=
  let policyreco : PolicyRecommendation :=
    match pi.client wm.ns wm.name with
    | .ok policyreco => policyreco
    | .error _ => default
  match isAgeBeyondExpiry (some policyreco) pi.age now with
  | .error e => .error e
  | .ok expired =>
    if policyreco.policy.length = 0 then
      match pi.store.getSafestPolicy with
      | .error e => .error e
      | .ok safestPolicy => .ok (some (policyFromCR safestPolicy))
    else if !expired then
      match pi.store.getPolicyByName policyreco.policy with
      | .error e => .error e
      | .ok p => .ok (some (policyFromCR p))
    else
      match pi.store.getNextPolicyByName policyreco.policy with
      | .error e => .error e
      | .ok nextPolicy => .ok (some (policyFromCR nextPolicy))

/-! ## Building a workflow -/

/-- A workflow: its recommender, its iterators (the entries of the map, in the
    order of an enumeration), its store and its least floor. (The logger is
    not modelled.) -/
structure RecommendationWorkflowImpl where
  recommender : Option Recommender
  policyIterators : List PolicyIterator
  policyStore : Option Store
  minRequiredReplicas : ℤ

/-- The builder of a workflow, with the same fields. -/
structure RecoWorkflowBuilder where
  recommender : Option Recommender
  policyIterators : List PolicyIterator
  policyStore : Option Store
  minRequiredReplicas : ℤ

/-- `NewRecommendationWorkflowBuilder`: nothing set. -/
def newRecommendationWorkflowBuilder : RecoWorkflowBuilder := ⟨none, [], none, 0⟩

namespace RecoWorkflowBuilder

/-- Sets the recommender, unless one is set already. -/
def withRecommender (b : RecoWorkflowBuilder) (r : Recommender) : RecoWorkflowBuilder :=
  match b.recommender with
  | none => ⟨some r, b.policyIterators, b.policyStore, b.minRequiredReplicas⟩
  | some _ => b

/-- Adds an iterator under its name, unless the name is taken. (Go makes the map
    on the first call; a map without entries is never built.) -/
def withPolicyIterator (b : RecoWorkflowBuilder) (p : PolicyIterator) : RecoWorkflowBuilder :=
  if b.policyIterators.any (·.name == p.name) then b
  else ⟨b.recommender, b.policyIterators ++ [p], b.policyStore, b.minRequiredReplicas⟩

def withMinRequiredReplicas (b : RecoWorkflowBuilder) (minRequiredReplicas : ℤ) : RecoWorkflowBuilder :=
  ⟨b.recommender, b.policyIterators, b.policyStore, minRequiredReplicas⟩

/-- Sets the store, possibly to a nil interface. -/
def withPolicyStore (b : RecoWorkflowBuilder) (policyStore : Option Store) : RecoWorkflowBuilder :=
  ⟨b.recommender, b.policyIterators, policyStore, b.minRequiredReplicas⟩

/-- The error of `build` without a recommender and without iterators. -/
def bothNilError : String := "Both recommender and policy iterators can't be nil"

/-- `Build`: a workflow with a recommender or an iterator, of least floor `3`
    unless one was set. -/
def build (b : RecoWorkflowBuilder) : Except String RecommendationWorkflowImpl :=
  if b.recommender.isNone && b.policyIterators.isEmpty then .error bothNilError
  else .ok ⟨b.recommender, b.policyIterators, b.policyStore,
    if b.minRequiredReplicas = 0 then 3 else b.minRequiredReplicas⟩

end RecoWorkflowBuilder

/-! ## Runs of the builder -/

/-- A call of the builder's API. (`WithLogger` sets only the logger, which is
    not modelled.) -/
inductive BuilderCall
  | withRecommender (r : Recommender)
  | withPolicyIterator (p : PolicyIterator)
  | withMinRequiredReplicas (minRequiredReplicas : ℤ)
  | withPolicyStore (policyStore : Option Store)

namespace RecoWorkflowBuilder

/-- The builder after a call. -/
def call (b : RecoWorkflowBuilder) : BuilderCall → RecoWorkflowBuilder
  | .withRecommender r => b.withRecommender r
  | .withPolicyIterator p => b.withPolicyIterator p
  | .withMinRequiredReplicas minRequiredReplicas => b.withMinRequiredReplicas minRequiredReplicas
  | .withPolicyStore policyStore => b.withPolicyStore policyStore

/-- The builder after a sequence of calls from `NewRecommendationWorkflowBuilder`. -/
def run (calls : List BuilderCall) : RecoWorkflowBuilder := calls.foldl call newRecommendationWorkflowBuilder

/-- A call keeps the iterators' names distinct, as the keys of a map. -/
theorem call_names_nodup {b : RecoWorkflowBuilder} (h : (b.policyIterators.map (·.name)).Nodup)
    (cl : BuilderCall) : ((b.call cl).policyIterators.map (·.name)).Nodup := by
  cases cl with
  | withRecommender r => dsimp only [call, withRecommender]; split <;> exact h
  | withPolicyIterator p =>
    dsimp only [call, withPolicyIterator]
    split
    · exact h
    · rename_i hnew
      rw [List.map_append]
      refine h.append (List.nodup_singleton _) ?_
      simpa using hnew
  | withMinRequiredReplicas _ => exact h
  | withPolicyStore _ => exact h

theorem foldl_call_names_nodup (calls : List BuilderCall) {b : RecoWorkflowBuilder}
    (h : (b.policyIterators.map (·.name)).Nodup) :
    ((calls.foldl call b).policyIterators.map (·.name)).Nodup := by
  induction calls generalizing b with
  | nil => exact h
  | cons cl calls ih => exact ih (call_names_nodup h cl)

/-- Only setting a recommender gives one. -/
theorem call_recommender_isNone {b : RecoWorkflowBuilder} (cl : BuilderCall) :
    (b.call cl).recommender.isNone = (b.recommender.isNone && !cl matches .withRecommender _) := by
  cases cl with
  | withRecommender r => dsimp only [call, withRecommender]; split <;> simp_all
  | withPolicyIterator p => dsimp only [call, withPolicyIterator]; split <;> simp
  | withMinRequiredReplicas _ => simp [call, withMinRequiredReplicas]
  | withPolicyStore _ => simp [call, withPolicyStore]

/-- Only adding an iterator gives one. -/
theorem call_policyIterators_isEmpty {b : RecoWorkflowBuilder} (cl : BuilderCall) :
    (b.call cl).policyIterators.isEmpty = (b.policyIterators.isEmpty && !cl matches .withPolicyIterator _) := by
  cases cl with
  | withRecommender r => dsimp only [call, withRecommender]; split <;> simp
  | withPolicyIterator p =>
    dsimp only [call, withPolicyIterator]
    split
    · rename_i h
      simp only [List.any_eq_true] at h
      obtain ⟨x, hx, -⟩ := h
      simp [List.isEmpty_iff, List.ne_nil_of_mem hx]
    · simp
  | withMinRequiredReplicas _ => simp [call, withMinRequiredReplicas]
  | withPolicyStore _ => simp [call, withPolicyStore]

theorem foldl_call_recommender_isNone (calls : List BuilderCall) {b : RecoWorkflowBuilder} :
    (calls.foldl call b).recommender.isNone =
      (b.recommender.isNone && calls.all fun cl => !cl matches .withRecommender _) := by
  induction calls generalizing b with
  | nil => simp
  | cons cl calls ih => rw [List.foldl_cons, ih, call_recommender_isNone, List.all_cons, Bool.and_assoc]

theorem foldl_call_policyIterators_isEmpty (calls : List BuilderCall) {b : RecoWorkflowBuilder} :
    (calls.foldl call b).policyIterators.isEmpty =
      (b.policyIterators.isEmpty && calls.all fun cl => !cl matches .withPolicyIterator _) := by
  induction calls generalizing b with
  | nil => simp
  | cons cl calls ih => rw [List.foldl_cons, ih, call_policyIterators_isEmpty, List.all_cons, Bool.and_assoc]

/-- A run of the builder fails to build exactly when it neither sets a
    recommender nor adds an iterator. -/
theorem run_build_error_iff (calls : List BuilderCall) :
    (∃ e, (run calls).build = .error e) ↔
      ∀ cl ∈ calls, (cl matches .withRecommender _) = false ∧ (cl matches .withPolicyIterator _) = false := by
  have hbare : ((run calls).recommender.isNone && (run calls).policyIterators.isEmpty) = true ↔
      ∀ cl ∈ calls, (cl matches .withRecommender _) = false ∧ (cl matches .withPolicyIterator _) = false := by
    simp only [run, foldl_call_recommender_isNone, foldl_call_policyIterators_isEmpty,
      newRecommendationWorkflowBuilder, Option.isNone_none, List.isEmpty_nil, Bool.true_and, Bool.and_eq_true,
      List.all_eq_true, Bool.not_eq_true', imp_and, forall_and]
  rw [← hbare]
  unfold build
  split
  · exact iff_of_true ⟨_, rfl⟩ ‹_›
  · exact iff_of_false (fun ⟨_, h⟩ => by cases h) ‹_›

/-- A workflow built by a run of the builder has its iterators under distinct
    names. -/
theorem run_build_names_nodup {calls : List BuilderCall} {rw : RecommendationWorkflowImpl}
    (h : (run calls).build = .ok rw) : (rw.policyIterators.map (·.name)).Nodup := by
  unfold build at h
  split at h
  · cases h
  · cases h
    exact foldl_call_names_nodup calls List.nodup_nil

end RecoWorkflowBuilder

/-! ## What a run of the builder builds -/

namespace BuilderCall

/-- The recommender a call sets, if it is `WithRecommender`. -/
def recommenderOf : BuilderCall → Option Recommender
  | .withRecommender r => some r
  | _ => none

/-- The iterator a call adds, if it is `WithPolicyIterator`. -/
def iteratorOf : BuilderCall → Option PolicyIterator
  | .withPolicyIterator p => some p
  | _ => none

/-- The least floor a call sets, if it is `WithMinRequiredReplicas`. -/
def minRequiredReplicasOf : BuilderCall → Option ℤ
  | .withMinRequiredReplicas minRequiredReplicas => some minRequiredReplicas
  | _ => none

/-- The store a call sets, if it is `WithPolicyStore`. -/
def policyStoreOf : BuilderCall → Option (Option Store)
  | .withPolicyStore policyStore => some policyStore
  | _ => none

end BuilderCall

namespace RecoWorkflowBuilder

variable {b : RecoWorkflowBuilder}

/-- Only `WithPolicyIterator` changes the iterators. -/
theorem call_policyIterators_of_iteratorOf {cl : BuilderCall} (h : cl.iteratorOf = none) :
    (b.call cl).policyIterators = b.policyIterators := by
  cases cl with
  | withRecommender r => dsimp only [call, withRecommender]; split <;> rfl
  | withPolicyIterator p => cases h
  | withMinRequiredReplicas _ => rfl
  | withPolicyStore _ => rfl

/-- A call sets the recommender only if none is set. -/
theorem call_recommender (cl : BuilderCall) : (b.call cl).recommender = b.recommender.or cl.recommenderOf := by
  cases cl with
  | withRecommender r => dsimp only [call, withRecommender]; split <;> simp_all [BuilderCall.recommenderOf]
  | withPolicyIterator p => dsimp only [call, withPolicyIterator]; split <;> simp [BuilderCall.recommenderOf]
  | withMinRequiredReplicas _ => simp [call, withMinRequiredReplicas, BuilderCall.recommenderOf]
  | withPolicyStore _ => simp [call, withPolicyStore, BuilderCall.recommenderOf]

/-- A call sets the least floor only if it is `WithMinRequiredReplicas`. -/
theorem call_minRequiredReplicas (cl : BuilderCall) :
    (b.call cl).minRequiredReplicas = cl.minRequiredReplicasOf.getD b.minRequiredReplicas := by
  cases cl with
  | withRecommender r => dsimp only [call, withRecommender]; split <;> rfl
  | withPolicyIterator p => dsimp only [call, withPolicyIterator]; split <;> rfl
  | withMinRequiredReplicas _ => rfl
  | withPolicyStore _ => rfl

/-- A call sets the store only if it is `WithPolicyStore`. -/
theorem call_policyStore (cl : BuilderCall) :
    (b.call cl).policyStore = cl.policyStoreOf.getD b.policyStore := by
  cases cl with
  | withRecommender r => dsimp only [call, withRecommender]; split <;> rfl
  | withPolicyIterator p => dsimp only [call, withPolicyIterator]; split <;> rfl
  | withMinRequiredReplicas _ => rfl
  | withPolicyStore _ => rfl

/-- The first recommender set stays. -/
theorem foldl_call_recommender (calls : List BuilderCall) :
    (calls.foldl call b).recommender = b.recommender.or (calls.findSome? BuilderCall.recommenderOf) := by
  induction calls generalizing b with
  | nil => exact Option.or_none.symm
  | cons cl calls ih =>
    rw [List.foldl_cons, ih, call_recommender, Option.or_assoc, List.findSome?_cons]
    cases cl.recommenderOf <;> rfl

/-- A setting of the least floor or of the store holds until the next one. -/
theorem getD_getLast?_filterMap {α : Type} (f : BuilderCall → Option α) (cl : BuilderCall)
    (calls : List BuilderCall) (a : α) :
    (((cl :: calls).filterMap f).getLast?).getD a = ((calls.filterMap f).getLast?).getD ((f cl).getD a) := by
  rw [List.filterMap_cons]
  cases f cl <;> simp [List.getLast?_cons]

theorem foldl_call_minRequiredReplicas (calls : List BuilderCall) :
    (calls.foldl call b).minRequiredReplicas =
      ((calls.filterMap BuilderCall.minRequiredReplicasOf).getLast?).getD b.minRequiredReplicas := by
  induction calls generalizing b with
  | nil => rfl
  | cons cl calls ih => rw [List.foldl_cons, ih, call_minRequiredReplicas, getD_getLast?_filterMap]

theorem foldl_call_policyStore (calls : List BuilderCall) :
    (calls.foldl call b).policyStore =
      ((calls.filterMap BuilderCall.policyStoreOf).getLast?).getD b.policyStore := by
  induction calls generalizing b with
  | nil => rfl
  | cons cl calls ih => rw [List.foldl_cons, ih, call_policyStore, getD_getLast?_filterMap]

theorem filterMap_iteratorOf_cons (cl : BuilderCall) (calls : List BuilderCall) :
    (cl :: calls).filterMap BuilderCall.iteratorOf =
      cl.iteratorOf.toList ++ calls.filterMap BuilderCall.iteratorOf := by
  cases cl <;> rfl

/-- A call adds its iterator unless its name is taken, which changes no
    lookup by name. -/
theorem call_policyIterators (b : RecoWorkflowBuilder) (cl : BuilderCall) (l : List PolicyIterator) :
    ((b.call cl).policyIterators ++ l).Sublist (b.policyIterators ++ (cl.iteratorOf.toList ++ l)) ∧
      ∀ n, ((b.call cl).policyIterators ++ l).find? (·.name == n) =
        (b.policyIterators ++ (cl.iteratorOf.toList ++ l)).find? (·.name == n) := by
  cases hit : cl.iteratorOf with
  | none =>
    rw [call_policyIterators_of_iteratorOf hit, Option.toList_none, List.nil_append]
    exact ⟨List.Sublist.refl _, fun _ => rfl⟩
  | some p =>
    obtain rfl : cl = .withPolicyIterator p := by cases cl <;> cases hit; rfl
    dsimp only [call, withPolicyIterator, Option.toList, List.singleton_append]
    split
    · rename_i htaken
      obtain ⟨x, hx, hxp⟩ := List.any_eq_true.1 htaken
      refine ⟨(List.sublist_cons_self p l).append_left _, fun n => ?_⟩
      rw [List.find?_append, List.find?_append]
      cases hfind : b.policyIterators.find? (·.name == n) with
      | some _ => rfl
      | none =>
        have hxn := List.find?_eq_none.1 hfind x hx
        have hpn : ¬(p.name == n) = true := by simp_all
        rw [Option.none_or, Option.none_or]
        exact (List.find?_cons_of_neg l hpn).symm
    · rw [List.append_assoc]
      exact ⟨List.Sublist.refl _, fun _ => rfl⟩

/-- The iterators built are among those added, in order, and under each name
    the builder holds the first iterator added under it. -/
theorem foldl_call_policyIterators (b : RecoWorkflowBuilder) (calls : List BuilderCall) :
    (calls.foldl call b).policyIterators.Sublist (b.policyIterators ++ calls.filterMap BuilderCall.iteratorOf) ∧
      ∀ n, (calls.foldl call b).policyIterators.find? (·.name == n) =
        (b.policyIterators ++ calls.filterMap BuilderCall.iteratorOf).find? (·.name == n) := by
  induction calls generalizing b with
  | nil => simp
  | cons cl calls ih =>
    obtain ⟨hsub, hfind⟩ := call_policyIterators b cl (calls.filterMap BuilderCall.iteratorOf)
    obtain ⟨ihsub, ihfind⟩ := ih (b.call cl)
    rw [List.foldl_cons, filterMap_iteratorOf_cons]
    exact ⟨ihsub.trans hsub, fun n => (ihfind n).trans (hfind n)⟩

/-- A workflow built by a run of the builder has the recommender of the first
    call that sets one; under each name, the first iterator added under it,
    the iterators in the order they were added; the store of the last call
    that sets one; and the least floor of the last call that sets one, `3`
    when that is `0` or no call sets it. -/
theorem run_build_ok {calls : List BuilderCall} {rw : RecommendationWorkflowImpl} (h : (run calls).build = .ok rw) :
    rw.recommender = calls.findSome? BuilderCall.recommenderOf ∧
      rw.policyIterators.Sublist (calls.filterMap BuilderCall.iteratorOf) ∧
      (rw.policyIterators.map (·.name)).Nodup ∧
      (∀ n, rw.policyIterators.find? (·.name == n) = (calls.filterMap BuilderCall.iteratorOf).find? (·.name == n)) ∧
      rw.policyStore = ((calls.filterMap BuilderCall.policyStoreOf).getLast?).getD none ∧
      rw.minRequiredReplicas =
        if ((calls.filterMap BuilderCall.minRequiredReplicasOf).getLast?).getD 0 = 0 then 3
        else ((calls.filterMap BuilderCall.minRequiredReplicasOf).getLast?).getD 0 := by
  have hnodup := run_build_names_nodup h
  unfold build at h
  split at h
  · cases h
  · cases h
    obtain ⟨hsub, hfind⟩ := foldl_call_policyIterators newRecommendationWorkflowBuilder calls
    exact ⟨foldl_call_recommender calls, hsub, hnodup, hfind, foldl_call_policyStore calls,
      by rw [run, foldl_call_minRequiredReplicas]; rfl⟩

end RecoWorkflowBuilder

/-- A recommender that never proposes. -/
def idleRecommender : Recommender := ⟨fun _ => .ok none⟩

/-- An iterator named `name` that never proposes. -/
def idleIterator (name : String) : PolicyIterator := ⟨name, fun _ => .ok none⟩

/-- Two iterators added under one name around a recommender, then a least floor
    of `0`. -/
def agingTwiceCalls : List BuilderCall :=
  [.withPolicyIterator (idleIterator "aging"), .withRecommender idleRecommender,
    .withPolicyIterator ⟨"aging", fun _ => .error "superseded"⟩, .withMinRequiredReplicas 0]

theorem RecoWorkflowBuilder.run_build_ok_on_agingTwice :
    (RecoWorkflowBuilder.run agingTwiceCalls).build = .ok ⟨some idleRecommender, [idleIterator "aging"], none, 3⟩ ∧
    some idleRecommender = agingTwiceCalls.findSome? BuilderCall.recommenderOf ∧
    [idleIterator "aging"].Sublist (agingTwiceCalls.filterMap BuilderCall.iteratorOf) ∧
    ([idleIterator "aging"].map (·.name)).Nodup ∧
    (∀ n, [idleIterator "aging"].find? (·.name == n) =
      (agingTwiceCalls.filterMap BuilderCall.iteratorOf).find? (·.name == n)) ∧
    (none : Option Store) = ((agingTwiceCalls.filterMap BuilderCall.policyStoreOf).getLast?).getD none ∧
    (3 : ℤ) = if ((agingTwiceCalls.filterMap BuilderCall.minRequiredReplicasOf).getLast?).getD 0 = 0 then 3
      else ((agingTwiceCalls.filterMap BuilderCall.minRequiredReplicasOf).getLast?).getD 0 := by
  have h : (RecoWorkflowBuilder.run agingTwiceCalls).build =
      .ok ⟨some idleRecommender, [idleIterator "aging"], none, 3⟩ := by
    with_unfolding_all rfl
  exact ⟨h, RecoWorkflowBuilder.run_build_ok h⟩

/-! ## Executing a workflow -/

/-- One iteration of the loop over the iterators: a failure ends the loop, no
    proposal is skipped, and a proposal is merged into the safest so far. -/
def mergeStep (wm : WorkloadMeta) (nextPolicy : Option Policy) (pi : PolicyIterator) :
    Except String (Option Policy) :=
  match pi.nextPolicy wm with
  | .error e => .error e
  | .ok none => .ok nextPolicy
  | .ok (some p) => .ok (pickSafestPolicy nextPolicy (some p))

/-- The loop of `Execute` over the iterators, in the order given. -/
def mergePolicies (policyIterators : List PolicyIterator) (wm : WorkloadMeta) : Except String (Option Policy) :=
  policyIterators.foldlM (mergeStep wm) none

/-- `generateNextRecoConfig`: the next configuration and the policy applied. A
    failure of the store gives the target and no policy; the error of
    `createRecoConfigFromPolicy` is dropped, leaving no configuration. -/
def generateNextRecoConfig (rw : RecommendationWorkflowImpl) (config : Option HPAConfiguration)
    (policy : Option Policy) : Except Fault (Option HPAConfiguration × Option Policy) :=
  if shouldApplyReco config policy then
    match rw.policyStore with
    | none => .error (.nilDereference "rw.policyStore.GetSortedPolicies()")
    | some policyStore =>
      match policyStore.getSortedPolicies with
      | .error _ => .ok (config, none)
      | .ok policies => (fun p => (config, some p)) <$> findClosestSafePolicy config policies
  else .ok ((createRecoConfigFromPolicy policy config).toOption, policy)

/-- The error of `execute` without a recommender. -/
def noRecommendersError : String := "No recommenders configured in the workflow."

/-- `Execute`: the next configuration, the target configuration and the policy
    applied. -/
def execute (rw : RecommendationWorkflowImpl) (wm : WorkloadMeta) :
    Except Fault (Option HPAConfiguration × Option HPAConfiguration × Option Policy) :=
  match rw.recommender with
  | none => .error (.error noRecommendersError)
  | some recommender =>
    match recommender.recommend wm with
    | .error f => .error f
    | .ok targetRecoConfig =>
      let targetRecoConfig := transformTargetRecoConfig targetRecoConfig rw.minRequiredReplicas
      match mergePolicies rw.policyIterators wm with
      | .error e => .error (.error e)
      | .ok nextPolicy =>
        match generateNextRecoConfig rw targetRecoConfig nextPolicy with
        | .error f => .error f
        | .ok (nextConfig, policyToApply) => .ok (nextConfig, targetRecoConfig, policyToApply)

end Ottoscalr
