/-
# Agent.Route — the Reconciler's plan is the applier's plan

A pass decides from its own plan whether there is work on the cgroup; the applier then
builds the plan it carries out. `hasCgroupWork_iff` says the two agree on the route the
pass takes, `reconcilePod_returns_iff` when a pass stops without calling the applier.
-/
import CpuIdle.Agent.Reconciler

namespace CpuIdle.Agent

open CpuIdle.Go CpuIdle.Kube CpuIdle.Node CpuIdle.Theory CpuIdle.Apply

set_option autoImplicit false

/-- Only the requested idle bit and the active burst bit of a state matter to a plan. -/
theorem buildPlan_congr {desired desired' : Tier.State} (actual : Snapshot) (weight : Nat)
    (idle : desired.idleRequested = desired'.idleRequested)
    (burst : desired.burstActive = desired'.burstActive) :
    buildPlan desired actual weight = buildPlan desired' actual weight := by
  have bursts : planBurst desired actual = planBurst desired' actual := by
    have target : burstTarget desired actual = burstTarget desired' actual := by
      unfold burstTarget
      rw [burst]
    unfold planBurst
    rw [target]
  have idles : planIdle desired actual = planIdle desired' actual := by
    unfold planIdle
    rw [idle]
  simp only [buildPlan, bursts, idles, idle]

/-- A plan for a pod that is to become idle and is not is never empty. -/
theorem buildPlan_idleOn {desired : Tier.State} {snapshot : Snapshot} {weight : Nat}
    (requested : desired.idleRequested = true) (inactive : snapshot.idleActive = false) :
    buildPlan desired snapshot weight ≠ [] := by
  simp [buildPlan, planIdle, requested, inactive]

section

variable [PrintTable] [Qos.ResourceHelper]

omit [PrintTable] in
theorem needsWeightRepair_active {pending : Pending} {pod : Pod} {snapshot : Snapshot}
    (active : snapshot.idleActive = true) :
    needsWeightRepair pending pod snapshot = (false, pending) := by
  simp [needsWeightRepair, active]

omit [PrintTable] in
/-- Forgetting a repair that is not needed makes no difference to the next look. -/
theorem needsWeightRepair_again (pending : Pending) (pod : Pod) (snapshot : Snapshot) :
    (needsWeightRepair (needsWeightRepair pending pod snapshot).2 pod snapshot).1 =
      (needsWeightRepair pending pod snapshot).1 := by
  unfold needsWeightRepair
  by_cases active : snapshot.idleActive = true
  · simp [active]
  · by_cases journaled : pod.uid ∈ pending
    · by_cases right : snapshot.weight = Qos.restoreWeight pod.spec
      · simp [active, journaled, right]
      · simp [active, journaled, right]
    · simp [active, journaled]

omit [PrintTable] in
theorem planFor_eq_nil {pending : Pending} {pod : Pod} {desired : Tier.State} {snapshot : Snapshot} :
    (planFor pending pod desired snapshot).1 = [] ↔
      buildPlan desired snapshot (Qos.restoreWeight pod.spec) = [] ∧
        (needsWeightRepair pending pod snapshot).1 = false := by
  unfold planFor
  cases repair : needsWeightRepair pending pod snapshot with
  | mk needed pending' => cases needed <;> simp

/-- A burst can only be active for a pod that requests it. -/
theorem desired_burst (pod : Pod) (active : (Tier.desired pod).1.burstActive = true) :
    (Tier.desired pod).1.burstRequested = true := by
  cases found : pod.annotations Annotations.burstKey with
  | none => simp [Tier.desired, Tier.burstRequest, found] at active
  | some value =>
      by_cases quota : Qos.hasCPUQuota pod.spec = true
      · simp [Tier.desired, Tier.burstRequest, found, quota]
      · simp [Tier.desired, Tier.burstRequest, found, quota] at active

/-- What the applier is asked for on the route of a pass: `Apply` with the desired state, or
`Revert` with the empty one. -/
def routeState (assessment : Assessment) (desired : Tier.State) : Tier.State :=
  if assessment.wantsActiveTier || assessment.hasNotice then desired else .zero

/-- The plan the applier builds on that route from the same snapshot. -/
def routePlan (pending : Pending) (pod : Pod) (snapshot : Snapshot) : List Write :=
  (planFor pending pod (routeState (assess pending pod snapshot) (Tier.desired pod).1) snapshot).1

/-- The collapsed target of the pass and the state of its route ask for the same plan. -/
theorem route_buildPlan (pending : Pending) (pod : Pod) (snapshot : Snapshot) :
    buildPlan (routeState (assess pending pod snapshot) (Tier.desired pod).1) snapshot
        (Qos.restoreWeight pod.spec) =
      buildPlan (if (Tier.desired pod).1.idleRequested || (Tier.desired pod).1.burstRequested then
          (Tier.desired pod).1 else .zero) snapshot (Qos.restoreWeight pod.spec) := by
  by_cases wants : ((Tier.desired pod).1.idleRequested || (Tier.desired pod).1.burstRequested) = true
  · simp [routeState, assess, wants]
  · have quiet : (Tier.desired pod).1.idleRequested = false ∧
        (Tier.desired pod).1.burstRequested = false := by simpa using wants
    have inactive : (Tier.desired pod).1.burstActive = false :=
      Bool.eq_false_iff.mpr fun active => by simp [desired_burst pod active] at quiet
    rw [if_neg wants, routeState]
    split
    · exact buildPlan_congr snapshot _ quiet.1 inactive
    · rfl

/-- Whether the repair is looked up only when idle is not requested makes no difference. -/
theorem hasCgroupWork_eq_false {pending : Pending} {pod : Pod} {snapshot : Snapshot} :
    (assess pending pod snapshot).hasCgroupWork = false ↔ routePlan pending pod snapshot = [] := by
  rw [routePlan, planFor_eq_nil, route_buildPlan]
  by_cases idle : (Tier.desired pod).1.idleRequested = true
  · have work : (assess pending pod snapshot).hasCgroupWork =
        !(buildPlan (Tier.desired pod).1 snapshot (Qos.restoreWeight pod.spec)).isEmpty := by
      simp [assess, idle]
    rw [work, idle, Bool.true_or, if_pos rfl]
    cases active : snapshot.idleActive with
    | true => simp [needsWeightRepair_active active]
    | false => simp [buildPlan_idleOn idle active]
  · rw [Bool.not_eq_true] at idle
    have work : (assess pending pod snapshot).hasCgroupWork =
        (!(buildPlan (if (Tier.desired pod).1.idleRequested || (Tier.desired pod).1.burstRequested then
            (Tier.desired pod).1 else .zero) snapshot (Qos.restoreWeight pod.spec)).isEmpty ||
          (needsWeightRepair pending pod snapshot).1) := by
      simp [assess, idle]
    rw [work, Bool.or_eq_false_iff, Bool.not_eq_false', List.isEmpty_iff]

theorem assess_pending_plan (pending : Pending) (pod : Pod) (snapshot : Snapshot) (desired : Tier.State) :
    (planFor (assess pending pod snapshot).pending pod desired snapshot).1 = [] ↔
      (planFor pending pod desired snapshot).1 = [] := by
  rw [planFor_eq_nil, planFor_eq_nil]
  by_cases idle : (Tier.desired pod).1.idleRequested = true
  · simp [assess, idle]
  · rw [Bool.not_eq_true] at idle
    have same : (assess pending pod snapshot).pending = (needsWeightRepair pending pod snapshot).2 := by
      simp [assess, idle]
    rw [same, needsWeightRepair_again]

/-- When a pass is over without a call of the applier. -/
def quietPass (state : State) (pod : Pod) (snapshot : Snapshot) : Prop :=
  routePlan state.pending pod snapshot = [] ∧
    ((assess state.pending pod snapshot).hasNotice = true →
      state.podNoticeNeedsReport pod.uid (assess state.pending pod snapshot).noticeSignature = false)

theorem callApplier_asks (cfg : Config) (resync : Bool) (pod : Pod) (snapshot : Snapshot)
    (assessment : Assessment) (changed : Bool) :
    ∃ r next, callApplier (.real cfg) cfg resync pod snapshot assessment changed = Program.ask r next := by
  have called : ∃ r next, (if assessment.wantsActiveTier || assessment.hasNotice then
      apply cfg assessment.pending pod (assessment.hasNotice && changed)
    else revert cfg assessment.pending pod snapshot : Node (Option GoError × Pending)) = Program.ask r next := by
    split
    · exact ⟨_, _, rfl⟩
    · exact ⟨_, _, rfl⟩
  have counted : (∃ next, countDrift cfg resync pod assessment.hasCgroupWork =
      Program.ask (Request.inc (.resyncDriftTotal cfg.node pod.ns (Qos.classOf pod.spec).name)) next) ∨
      countDrift cfg resync pod assessment.hasCgroupWork = pure () := by
    by_cases drift : (resync && assessment.hasCgroupWork) = true
    · exact .inl ⟨_, if_pos drift⟩
    · exact .inr (if_neg drift)
  unfold callApplier
  rcases counted with ⟨next, asked⟩ | silent
  · rw [asked]
    exact ⟨_, _, rfl⟩
  · rw [silent]
    exact called

/-- **No needed write is skipped, and nothing is called for work there is not.** -/
theorem hasCgroupWork_iff (cfg : Config) (state : State) (key : String) (resync : Bool) (pod : Pod)
    (dir : String) (snapshot : Snapshot) :
    ((assess state.pending pod snapshot).hasCgroupWork = false ↔
        (planFor state.pending pod
          (routeState (assess state.pending pod snapshot) (Tier.desired pod).1) snapshot).1 = []) ∧
      ((assess state.pending pod snapshot).hasCgroupWork = false ↔
        (planFor (assess state.pending pod snapshot).pending pod
          (routeState (assess state.pending pod snapshot) (Tier.desired pod).1) snapshot).1 = []) ∧
      ((∃ result, reconcilePod (.real cfg) cfg state key resync pod dir snapshot = pure result) ↔
        quietPass state pod snapshot) := by
  refine ⟨hasCgroupWork_eq_false, ?_, ?_⟩
  · rw [assess_pending_plan]
    exact hasCgroupWork_eq_false
  · rw [quietPass, ← hasCgroupWork_eq_false]
    have sameNotes : ∀ pending, State.podNoticeNeedsReport { state with pending } =
        state.podNoticeNeedsReport := fun _ => rfl
    unfold reconcilePod
    simp only [sameNotes]
    cases work : (assess state.pending pod snapshot).hasCgroupWork
    · cases notice : (assess state.pending pod snapshot).hasNotice
      · simp
      · cases changed : state.podNoticeNeedsReport pod.uid (assess state.pending pod snapshot).noticeSignature
        · simp
        · obtain ⟨r, next, called⟩ :=
            callApplier_asks cfg resync pod snapshot (assess state.pending pod snapshot) true
          simp [called]
    · obtain ⟨r, next, called⟩ := callApplier_asks cfg resync pod snapshot
        (assess state.pending pod snapshot)
        (state.podNoticeNeedsReport pod.uid (assess state.pending pod snapshot).noticeSignature)
      simp [called]

end

end CpuIdle.Agent
