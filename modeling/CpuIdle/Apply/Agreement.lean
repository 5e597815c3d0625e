/-
# Apply.Agreement — `Apply` and `Revert` of a pod without an active tier

The Reconciler takes the one or the other by whether there is a notice. On any
deterministic world that leaves the context alive, from the same snapshot and the same
journal, they ask for the same writes and reports and end in the same state.
-/
import CpuIdle.Apply.Journal
import CpuIdle.Theory.Run

namespace CpuIdle.Apply

open CpuIdle.Go CpuIdle.Kube CpuIdle.Node CpuIdle.Theory CpuIdle.Observe CpuIdle.Cgroup

set_option autoImplicit false

universe u

/-- Both nil, or both errors that wrap one cause. -/
inductive SameCause : Option GoError → Option GoError → Prop where
  | nil : SameCause none none
  | wrapped (context context' : String) (cause : GoError) :
      SameCause (some (cause.wrap context)) (some (cause.wrap context'))

/-- Two ends of the loop that differ in the context of their error at most. -/
inductive SameEnd : LoopEnd × Pending → LoopEnd × Pending → Prop where
  | completed (pending : Pending) : SameEnd (.completed, pending) (.completed, pending)
  | returned {err err' : Option GoError} (pending : Pending) (same : SameCause err err') :
      SameEnd (.returned err, pending) (.returned err', pending)

section

variable [PrintTable] {σ : Type u} {h : Handler nodeSignature σ}

/-- Everything a run asks for apart from the state of its context. -/
def effects {α : Type} (h : Handler nodeSignature σ) (p : Node α) (s : σ) :
    List (Program.Event nodeSignature) :=
  (p.events h s).filter fun event => event.1 ≠ .ctxErr

/-- The loop's report of success matters on the writes it makes, its context on errors only. -/
theorem runPlan_alike (live : ∀ s, h s .ctxErr = (false, s)) (cfg : Config) (context context' : String)
    (pod : Pod) (dir : String) {success success' : Write → Node Unit} (onEinval : Node Unit)
    {writes : List Write} (same : ∀ write ∈ writes, success write = success' write) (pending : Pending)
    (s : σ) : Alike SameEnd h (runPlan cfg context pod dir success onEinval pending writes)
      (runPlan cfg context' pod dir success' onEinval pending writes) s := by
  induction writes generalizing pending s with
  | nil => exact .pure (.completed pending)
  | cons write rest ih =>
      obtain ⟨first, later⟩ := List.forall_mem_cons.mp same
      unfold runPlan
      refine .after ?_
      have alive : ((ctxErr : Node Bool).run h s).1 = false := congrArg Prod.fst (live s)
      rw [alive]
      simp only [Bool.false_eq_true, if_false]
      refine .after ?_
      cases ((writeKnob cfg.layout.root cfg.layout.kubepodsName dir write.knob write.value).run h
          ((ctxErr : Node Bool).run h s).2).1 with
      | none =>
          simp only [first]
          exact .after (ih later _ _)
      | some writeErr =>
          dsimp only
          split
          · exact .pure (.returned _ .nil)
          · split
            · refine .after ?_
              split
              · exact .pure (.returned _ (.wrapped _ _ _))
              · exact .after (.pure (.returned _ .nil))
            · split
              · exact .after (.pure (.returned _ (.wrapped _ _ _)))
              · exact .after (.pure (.returned _ (.wrapped _ _ _)))

variable [Qos.ResourceHelper]

omit [PrintTable] in
/-- A plan for no active tier turns nothing on. -/
theorem planFor_reverts {pending : Pending} {pod : Pod} {desired : Tier.State} {snapshot : Snapshot}
    (idle : desired.idleRequested = false) (burst : desired.burstActive = false) :
    ∀ write ∈ (planFor pending pod desired snapshot).1, writeIsInstall write = false := by
  intro write member
  rcases mem_planFor member with rfl | rfl | rfl
  · have zero : burstTarget desired snapshot = 0 := by simp [burstTarget, burst]
    rw [zero]
    decide
  · simp [writeIsInstall, idle]
  · simp [writeIsInstall]

omit [PrintTable] in
theorem planFor_inactive (pending : Pending) (pod : Pod) {desired : Tier.State} (snapshot : Snapshot)
    (idle : desired.idleRequested = false) (burst : desired.burstActive = false) :
    planFor pending pod desired snapshot = planFor pending pod .zero snapshot := by
  have plans : buildPlan desired snapshot (Qos.restoreWeight pod.spec) =
      buildPlan .zero snapshot (Qos.restoreWeight pod.spec) := by
    have target : burstTarget desired snapshot = burstTarget .zero snapshot := by
      simp [burstTarget, burst, Tier.State.zero]
    have bursts : planBurst desired snapshot = planBurst .zero snapshot := by
      unfold planBurst
      rw [target]
    have idles : planIdle desired snapshot = planIdle .zero snapshot := by
      unfold planIdle
      rw [idle]
      rfl
    simp only [buildPlan, bursts, idles, idle]
    rfl
  simp only [planFor, plans]

/-- What both return for the way the loop ended. -/
def ending : LoopEnd × Pending → Option GoError × Pending
  | (.returned err, pending) => (err, pending)
  | (.completed, pending) => (none, pending)

/-- `Apply` is its reads and then the loop: its last look at the context changes nothing. -/
theorem apply_tail (cfg : Config) (pending : Pending) (pod : Pod) {dir : String} {snapshot : Snapshot}
    {s s' : σ} (live : ∀ s, h s .ctxErr = (false, s))
    (computed : cfg.layout.podDir (Qos.toCgroupClass (Qos.classOf pod.spec)) pod.uid = .ok dir)
    (read : (readSnapshot dir).run h s = (.ok snapshot, s'))
    {loop : Node (LoopEnd × Pending)}
    (loops : runPlan cfg "apply" pod dir (reportSuccess cfg pod) (return ())
      (planFor pending pod (Tier.desired pod).1 snapshot).2
      (planFor pending pod (Tier.desired pod).1 snapshot).1 = loop) :
    (apply cfg pending pod false).run h s = (ending (loop.run h s').1, (loop.run h s').2) ∧
      effects h (apply cfg pending pod false) s =
        effects h (readSnapshot dir) s ++ effects h loop s' := by
  have alive : ∀ s, (ctxErr : Node Bool).run h s = (false, s) := live
  have asked : ∀ s, (ctxErr : Node Bool).events h s = [⟨.ctxErr, false⟩] := by
    intro s
    have answered : (ctxErr : Node Bool).events h s = [⟨.ctxErr, (h s .ctxErr).1⟩] := rfl
    rw [answered, live]
  have dirOf : cfg.layout.podDir (Qos.toCgroupClass (Tier.desired pod).1.qosClass)
      (Tier.desired pod).1.uid = .ok dir := computed
  unfold apply effects
  simp only [Program.run_bind, Program.events_bind, alive, asked, Bool.false_eq_true, if_false, dirOf,
    read, loops]
  obtain ⟨⟨ended, after⟩, s''⟩ := loop.run h s'
  cases ended with
  | returned err => simp [ending]
  | completed => simp [ending, alive, asked]

theorem revert_tail (cfg : Config) (pending : Pending) (pod : Pod) {dir : String} (snapshot : Snapshot)
    (s : σ) (live : ∀ s, h s .ctxErr = (false, s))
    (computed : cfg.layout.podDir (Qos.toCgroupClass (Qos.classOf pod.spec)) pod.uid = .ok dir)
    {loop : Node (LoopEnd × Pending)}
    (loops : runPlan cfg "apply: revert" pod dir
      (fun write => reverted cfg.node pod write.knob TierApplyResult.reverted TierApplyReason.ok)
      (return ()) (planFor pending pod .zero snapshot).2 (planFor pending pod .zero snapshot).1 = loop) :
    (revert cfg pending pod snapshot).run h s = (ending (loop.run h s).1, (loop.run h s).2) ∧
      effects h (revert cfg pending pod snapshot) s = effects h loop s := by
  have alive : ∀ s, (ctxErr : Node Bool).run h s = (false, s) := live
  have asked : ∀ s, (ctxErr : Node Bool).events h s = [⟨.ctxErr, false⟩] := by
    intro s
    have answered : (ctxErr : Node Bool).events h s = [⟨.ctxErr, (h s .ctxErr).1⟩] := rfl
    rw [answered, live]
  unfold revert effects
  simp only [Program.run_bind, Program.events_bind, alive, asked, Bool.false_eq_true, if_false,
    computed, loops]
  obtain ⟨⟨ended, after⟩, s''⟩ := loop.run h s
  cases ended with
  | returned err => simp [ending]
  | completed => simp [ending]

omit [PrintTable] [Qos.ResourceHelper] in
theorem SameEnd.ending {left right : LoopEnd × Pending} (same : SameEnd left right) :
    SameCause (Apply.ending left).1 (Apply.ending right).1 ∧
      (Apply.ending left).2 = (Apply.ending right).2 := by
  cases same with
  | completed pending => exact ⟨.nil, rfl⟩
  | returned pending same => exact ⟨same, rfl⟩

/-- For a pod without an active tier `Apply`, once it has read the snapshot, is `Revert` on it. -/
theorem apply_agrees_revert {cfg : Config} {pending : Pending} {pod : Pod} {dir : String}
    {snapshot : Snapshot} {s s' : σ} (live : ∀ s, h s .ctxErr = (false, s))
    (idle : (Tier.desired pod).1.idleRequested = false)
    (burst : (Tier.desired pod).1.burstActive = false)
    (computed : cfg.layout.podDir (Qos.toCgroupClass (Qos.classOf pod.spec)) pod.uid = .ok dir)
    (read : (readSnapshot dir).run h s = (.ok snapshot, s')) :
    effects h (apply cfg pending pod false) s =
        effects h (readSnapshot dir) s ++ effects h (revert cfg pending pod snapshot) s' ∧
      ((apply cfg pending pod false).run h s).2 = ((revert cfg pending pod snapshot).run h s').2 ∧
      ((apply cfg pending pod false).run h s).1.2 = ((revert cfg pending pod snapshot).run h s').1.2 ∧
      SameCause ((apply cfg pending pod false).run h s).1.1
        ((revert cfg pending pod snapshot).run h s').1.1 := by
  have plan := planFor_inactive pending pod snapshot idle burst
  have success : ∀ write ∈ (planFor pending pod .zero snapshot).1, reportSuccess cfg pod write =
      reverted cfg.node pod write.knob TierApplyResult.reverted TierApplyReason.ok := by
    intro write member
    have off := planFor_reverts rfl rfl write member
    simp [reportSuccess, off]
  have loops := runPlan_alike live cfg "apply" "apply: revert" pod dir (return ()) success
    (planFor pending pod .zero snapshot).2 s'
  obtain ⟨applied, appliedEffects⟩ := apply_tail cfg pending pod live computed read rfl
  obtain ⟨reverted, revertedEffects⟩ := revert_tail cfg pending pod snapshot s' live computed rfl
  rw [plan] at applied appliedEffects
  obtain ⟨cause, journal⟩ := loops.value.ending
  refine ⟨?_, ?_, ?_, ?_⟩
  · rw [appliedEffects, revertedEffects]
    exact congrArg (_ ++ List.filter _ ·) loops.events
  · rw [applied, reverted]
    exact loops.state
  · rw [applied, reverted]
    exact journal
  · rw [applied, reverted]
    exact cause

end

/-! ## One failed restore -/

section

open Journal

attribute [local instance] asciiTable Qos.containerRequests

/-- Shows the files of the cgroup it keeps; of the writes only `cpu.idle` off succeeds. -/
def Journal.shown : Handler nodeSignature Kernel.Cgroup := fun c r =>
  match r with
  | .readFile _ name => (((c.content name).map ReadResult.data).getD .notExist, c)
  | r => interrupted c r

theorem apply_agrees_revert_failing :
    SameCause ((apply sampleConfig ∅ samplePod false).run shown idleCgroup).1.1
      ((revert sampleConfig ∅ samplePod idleCgroup.snapshot).run shown idleCgroup).1.1 :=
  (apply_agrees_revert (fun _ => rfl) (by decide +kernel) (by decide +kernel)
    (show sampleLayout.podDir (Qos.toCgroupClass (Qos.classOf samplePod.spec)) samplePod.uid =
      .ok "/sys/fs/cgroup/kubepods/burstable/pod5b0c-1" by rfl)
    (show (readSnapshot "/sys/fs/cgroup/kubepods/burstable/pod5b0c-1").run shown idleCgroup =
      (.ok idleCgroup.snapshot, idleCgroup) by rfl)).2.2.2

end

end CpuIdle.Apply
