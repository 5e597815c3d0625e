/-
# Apply.Journal — an interrupted weight restore is not forgotten

The world is one pod's cgroup under the kernel's rules. Every read shows it as it is
or fails, every write is taken or refused with the cgroup unchanged, the context may
be cancelled anywhere. A run is any sequence of complete `apply` and `revert` calls of
one applier on pods with this UID and this spec, annotations arbitrary.

* `Restorable`: idle, or at kubelet's weight, or journaled;
* `call_keeps`: each call keeps it;
* `weight_restore_journal`: so does every run, and a pod that is not idle and not at
  its weight gets the weight written first.
-/
import CpuIdle.Apply.Applier
import CpuIdle.Kernel.Files

namespace CpuIdle.Apply

open CpuIdle.Go CpuIdle.Kube CpuIdle.Node CpuIdle.Theory CpuIdle.Kernel CpuIdle.Cgroup

set_option autoImplicit false

section

variable [PrintTable] [Qos.ResourceHelper]

namespace Journal

/-- One step of the world of one directory. -/
def act (dir : Except GoError String) (c : Kernel.Cgroup) :
    (r : Request) → Answer r → Kernel.Cgroup → Prop
  | .readFile d name, answer, c' => c' = c ∧
      ∀ content, answer = ReadResult.data content → dir = .ok d ∧ c.content name = some content
  | .stat _, answer, c' => c' = c ∧ answer ≠ StatResult.notExist
  | .writeFile d name value, answer, c' =>
      (answer = WriteResult.written → dir = .ok d ∧ c.Takes name value c') ∧
        (answer ≠ WriteResult.written → c' = c)
  | _, _, c' => c' = c

/-- Nobody else writes the knobs. -/
def arena (dir : Except GoError String) : Arena nodeSignature Kernel.Cgroup :=
  { act := act dir, rely := fun _ _ => False }

/-- A call of the applier on the pod, by anyone, with whatever annotations. -/
inductive Call (cfg : Config) (uid : String) (spec : PodSpec) (c : Kernel.Cgroup) (pending : Pending) :
    Node (Option GoError × Pending) → Prop where
  | apply {pod : Pod} (sameUID : pod.uid = uid) (sameSpec : pod.spec = spec) (reportNotices : Bool) :
      Call cfg uid spec c pending (Apply.apply cfg pending pod reportNotices)
  | revert {pod : Pod} (sameUID : pod.uid = uid) (sameSpec : pod.spec = spec) :
      Call cfg uid spec c pending (Apply.revert cfg pending pod c.snapshot)

/-- Between calls: the cgroup and the journal. -/
inductive Step (cfg : Config) (uid : String) (spec : PodSpec) :
    Kernel.Cgroup × Pending → Kernel.Cgroup × Pending → Prop where
  | call {c c' : Kernel.Cgroup} {pending pending' : Pending} {p : Node (Option GoError × Pending)}
      {err : Option GoError} (calls : Call cfg uid spec c pending p)
      (run : Exec (arena (cfg.layout.podDir (Qos.toCgroupClass (Qos.classOf spec)) uid)) p c
        (err, pending') c') :
      Step cfg uid spec (c, pending) (c', pending')

/-- Idle, or at kubelet's weight, or journaled. -/
def Restorable (uid : String) (spec : PodSpec) (pending : Pending) (c : Kernel.Cgroup) : Prop :=
  c.idle = true ∨ c.weight = Qos.restoreWeight spec ∨ uid ∈ pending

/-! ## One write -/

/-- Every weight a plan writes is kubelet's. -/
def WeightsOnly (weight : Nat) (writes : List Write) : Prop :=
  ∀ write ∈ writes, write.knob = knobCPUWeight → write.value = formatUint weight

omit [PrintTable] [Qos.ResourceHelper] in
theorem buildPlan_weights (desired : Tier.State) (actual : Snapshot) (weight : Nat) :
    WeightsOnly weight (buildPlan desired actual weight) := by
  intro write member isWeight
  rcases mem_buildPlan member with rfl | rfl | rfl
  · exact absurd isWeight (show knobCPUMaxBurst ≠ knobCPUWeight by decide)
  · exact absurd isWeight (show knobCPUIdle ≠ knobCPUWeight by decide)
  · rfl

omit [PrintTable] in
theorem planFor_weights (pending : Pending) (pod : Pod) (desired : Tier.State) (actual : Snapshot) :
    WeightsOnly (Qos.restoreWeight pod.spec) (planFor pending pod desired actual).1 := by
  have plan := buildPlan_weights desired actual (Qos.restoreWeight pod.spec)
  unfold planFor
  split
  · exact plan
  · intro write member isWeight
    rcases List.mem_cons.mp member with rfl | member
    · rfl
    · exact plan write member isWeight

omit [PrintTable] in
/-- **One write.** Whatever an allowed write does, the journal follows it. -/
theorem Restorable.write {uid : String} {spec : PodSpec} {pending : Pending} {c c' : Kernel.Cgroup}
    {write : Write} (restorable : Restorable uid spec pending c)
    (weight : write.knob = knobCPUWeight → write.value = formatUint (Qos.restoreWeight spec))
    (takes : c.Takes write.knob write.value c') :
    Restorable uid spec (recordCompletedWrite pending uid write) c' := by
  obtain ⟨knob, value⟩ := write
  cases takes with
  | idleOn w after => exact .inl (by simp [after])
  | idleOff active after => exact .inr (.inr (by simp [recordCompletedWrite, knobCPUIdle]))
  | idleStaysOff inactive => exact .inr (.inr (by simp [recordCompletedWrite, knobCPUIdle]))
  | @weight _ n inactive after =>
      have range := c'.weight_range
      have target := Qos.restoreWeight_range spec
      have top : maxUint64 = 18446744073709551615 := rfl
      have atWeight : c'.weight = n := by simp [after]
      have same : n = Qos.restoreWeight spec :=
        formatUint_injective (by omega) (by omega) (weight rfl)
      exact .inr (.inl (by rw [atWeight, same]))
  | burst after => simpa [Restorable, recordCompletedWrite, knobCPUIdle, knobCPUWeight, after] using restorable
  | max after => simpa [Restorable, recordCompletedWrite, knobCPUIdle, knobCPUWeight, after] using restorable
  | freeze frozen after =>
      simpa [Restorable, recordCompletedWrite, knobCPUIdle, knobCPUWeight, after] using restorable

/-! ## One call -/

abbrev trivially : Guarantee nodeSignature Kernel.Cgroup := fun _ _ _ _ => True

section

omit [PrintTable] [Qos.ResourceHelper]

variable {dir : Except GoError String}

theorem stable (P : Kernel.Cgroup → Prop) : (arena dir).Stable P := fun _ _ move => move.elim

theorem silent (P : Kernel.Cgroup → Prop) : Observe.Silent (arena dir) trivially P where
  stable := stable P
  inc _ _ holds _ _ act := ⟨trivial, act ▸ holds⟩
  event _ _ holds _ _ act := ⟨trivial, act ▸ holds⟩

/-- The one directory of this world. -/
def cgroups (dir : Except GoError String) (c : Kernel.Cgroup) (d : String) : Option Kernel.Cgroup :=
  match dir with
  | .ok d' => if d = d' then some c else none
  | .error _ => none

theorem files : Files (arena dir) trivially (cgroups dir) where
  read_inert _ _ _ _ _ act := ⟨act.1, trivial⟩
  stat_inert _ _ _ _ act := ⟨act.1, trivial⟩
  read_data c d name content c' act := by
    obtain ⟨same, shown⟩ := act.2 content rfl
    exact ⟨c, by simp [cgroups, same], shown⟩
  stat_gone _ _ _ act := absurd rfl act.2

end

omit [PrintTable] in
theorem loopRule {uid : String} {spec : PodSpec} {dir : Except GoError String} {d : String} :
    LoopRule (arena dir) trivially uid d
      (fun writes pending c => Restorable uid spec pending c ∧
        WeightsOnly (Qos.restoreWeight spec) writes)
      (loopResult (fun writes pending c => Restorable uid spec pending c ∧
        WeightsOnly (Qos.restoreWeight spec) writes)
        fun result c => Restorable uid spec result.2 c) where
  silent _ _ := silent _
  ctx _ _ _ act := ⟨act, trivial⟩
  stat _ _ _ act := ⟨act.1, trivial⟩
  written write rest pending c known c' act := by
    obtain ⟨restorable, weights⟩ := known
    exact ⟨trivial, restorable.write (weights write (by simp)) (act.1 rfl).2,
      fun w member => weights w (by simp [member])⟩
  refused write rest pending c known answer c' act refused := ⟨trivial, act.2 refused ▸ known⟩
  completed _ _ known := known
  failed _ _ _ _ _ known := known.1
  gone _ _ _ _ _ act := absurd rfl act.2

omit [PrintTable] in
/-- A UID only leaves the journal at planning when its weight is already right. -/
theorem planFor_restorable {pending : Pending} {c : Kernel.Cgroup} {pod : Pod}
    (desired : Tier.State) (restorable : Restorable pod.uid pod.spec pending c) :
    Restorable pod.uid pod.spec (planFor pending pod desired c.snapshot).2 c := by
  unfold planFor needsWeightRepair
  by_cases idle : c.snapshot.idleActive = true
  · exact .inl idle
  rw [if_neg idle]
  by_cases journaled : pod.uid ∈ pending
  · rw [if_neg (by simpa using journaled)]
    by_cases atWeight : c.snapshot.weight = Qos.restoreWeight pod.spec
    · exact .inr (.inl atWeight)
    · rw [if_neg atWeight]
      exact restorable
  · rw [if_pos journaled]
    exact restorable

/-- **One call** of either kind keeps the journal sufficient. -/
theorem call_keeps {cfg : Config} {uid : String} {spec : PodSpec} {pending : Pending}
    {c : Kernel.Cgroup} {p : Node (Option GoError × Pending)} (call : Call cfg uid spec c pending p)
    (restorable : Restorable uid spec pending c) :
    Holds (arena (cfg.layout.podDir (Qos.toCgroupClass (Qos.classOf spec)) uid)) trivially (· = c) p
      fun result c' => Restorable uid spec result.2 c' := by
  cases call with
  | @apply pod sameUID sameSpec reportNotices =>
      subst sameUID sameSpec
      refine apply_holds (stable _) (fun _ _ _ act => ⟨act, trivial⟩) (fun _ _ same => same ▸ restorable)
        (fun dir computed => ?_) (fun dir s computed => loopRule) (fun s writes p _ => ?_)
        (fun _ _ _ _ known => known.1)
      · have settled : ∀ c', c' = c → Settled (cgroups (cfg.layout.podDir (Qos.toCgroupClass
            (Qos.classOf pod.spec)) pod.uid)) dir c c' := by
          rintro _ rfl c' present
          simp only [cgroups, computed, if_true, Option.some.injEq] at present
          exact present.symm
        refine (files.readSnapshot (stable _) settled).post fun result c' known => ?_
        obtain ⟨rfl, known⟩ := known
        cases result with
        | ok s =>
            obtain ⟨rfl, -⟩ := known
            exact ⟨planFor_restorable _ restorable, planFor_weights _ _ _ _⟩
        | error err =>
            refine ⟨fun gone => ?_, fun _ => restorable⟩
            simp [cgroups, computed] at known
            exact absurd gone (by simp [known])
      · exact (noticesOf_holds (silent _) _ _ _ _).post fun _ _ known => known.1
  | @revert pod sameUID sameSpec =>
      subst sameUID sameSpec
      refine revert_holds (stable _) (fun _ _ _ act => ⟨act, trivial⟩)
        (fun _ _ same => same ▸ restorable) (fun c' same => ?_) (fun dir _ => loopRule)
        (fun _ _ _ _ _ known => known.1) (fun _ _ known => known.1)
      exact ⟨by rw [same]; exact planFor_restorable _ restorable, planFor_weights _ _ _ _⟩

/-! ## Runs -/

theorem run_keeps {cfg : Config} {uid : String} {spec : PodSpec}
    {start state : Kernel.Cgroup × Pending}
    (run : Relation.ReflTransGen (Step cfg uid spec) start state)
    (restorable : Restorable uid spec start.2 start.1) : Restorable uid spec state.2 state.1 := by
  induction run with
  | refl => exact restorable
  | tail _ step ih =>
      obtain ⟨call, exec⟩ := step
      have kept := Safe.exec exec (call_keeps call ih _ rfl)
      exact kept

end Journal

open Journal in
/-- **The weight restore is never lost.** From a pod that is idle or at kubelet's
weight, after any calls, each cut anywhere, the pod is idle, or at its weight, or
journaled; and when it is neither idle nor at its weight, the next plan of either kind
starts by writing the weight. -/
theorem weight_restore_journal (cfg : Config) (uid : String) (spec : PodSpec) {c₀ c : Kernel.Cgroup}
    {pending₀ pending : Pending} (start : c₀.idle = true ∨ c₀.weight = Qos.restoreWeight spec)
    (run : Relation.ReflTransGen (Step cfg uid spec) (c₀, pending₀) (c, pending)) :
    (c.idle = true ∨ c.weight = Qos.restoreWeight spec ∨ uid ∈ pending) ∧
      (c.idle = false → c.weight ≠ Qos.restoreWeight spec →
        ∀ pod : Pod, pod.uid = uid → pod.spec = spec →
          (needsWeightRepair pending pod c.snapshot).1 = true ∧
          ∀ desired, (planFor pending pod desired c.snapshot).1 =
            ⟨knobCPUWeight, formatUint (Qos.restoreWeight spec)⟩ ::
              buildPlan desired c.snapshot (Qos.restoreWeight spec)) := by
  have restorable : Restorable uid spec pending c :=
    run_keeps run (start.elim .inl fun weight => .inr (.inl weight))
  refine ⟨restorable, ?_⟩
  rintro active wrong pod rfl rfl
  have journaled : pod.uid ∈ pending := by
    rcases restorable with idle | weight | journaled
    · simp [active] at idle
    · exact absurd weight wrong
    · exact journaled
  have repair : needsWeightRepair pending pod c.snapshot = (true, pending) := by
    simp [needsWeightRepair, Cgroup.snapshot, active, journaled, wrong]
  exact ⟨by rw [repair], fun desired => by simp [planFor, repair]⟩

end

/-! ## One interrupted restore -/

namespace Journal

section

attribute [local instance] asciiTable Qos.containerRequests

/-- Idle, with the weight the kernel shows then. -/
def idleCgroup : Kernel.Cgroup where
  idle := true
  weight := 0
  quota := none
  period := 100000
  burst := 0
  frozen := false
  weight_range := .inl ⟨rfl, rfl⟩
  quota_range := nofun
  period_range := by decide
  burst_range := by decide
  burst_below := nofun

/-- Not idle any more, and the weight not yet written. -/
def resetCgroup : Kernel.Cgroup :=
  { idleCgroup with
    idle := false
    weight := 100
    weight_range := .inr ⟨by decide, by decide⟩ }

/-- Turns `cpu.idle` off and refuses every other write. -/
def interrupted : Handler nodeSignature Kernel.Cgroup := fun c r =>
  match r with
  | .ctxErr => (false, c)
  | .readFile _ _ => (.notExist, c)
  | .stat _ => (.directory, c)
  | .writeFile dir name value =>
      if c = idleCgroup ∧ dir = "/sys/fs/cgroup/kubepods/burstable/pod5b0c-1" ∧ name = "cpu.idle" ∧
          value = "0" then
        (.written, resetCgroup)
      else (.writeFailed ⟨"input/output error", false⟩, c)
  | .getPod _ _ => (.notFound, c)
  | .patchPod _ _ _ => (.notFound, c)
  | .listCache => (.ok [], c)
  | .listNodePods _ => (.ok [], c)
  | .getCache _ _ => (.notFound, c)
  | .rangeKeys keys => (sortedWalk keys, c)
  | .rangeLabels keys => (sortedWalk keys, c)
  | .now => ((0 : Int), c)
  | .numCPU => ((1 : Int), c)
  | .gateCheck _ _ => (.ready .cgroupfs, c)
  | .flushTable _ => ((none : Option OsError), c)
  | .inc _ => ((), c)
  | .setPodsInTier _ _ _ => ((), c)
  | .deletePodsInTier _ _ => ((), c)
  | .event _ => ((), c)
  | .reportHealth _ => ((), c)

def sampleConfig : Config := ⟨sampleLayout, "node-a"⟩

def sampleDir : Except GoError String :=
  sampleLayout.podDir (Qos.toCgroupClass (Qos.classOf samplePod.spec)) samplePod.uid

theorem interrupted_act (c : Kernel.Cgroup) (r : Request) :
    act sampleDir c r (interrupted c r).1 (interrupted c r).2 := by
  cases r with
  | readFile dir name => exact ⟨rfl, nofun⟩
  | stat dir => exact ⟨rfl, nofun⟩
  | writeFile dir name value =>
      simp only [interrupted]
      split
      · rename_i here
        obtain ⟨rfl, rfl, rfl, rfl⟩ := here
        exact ⟨fun _ => ⟨rfl, .idleOff rfl rfl⟩, fun no => absurd rfl no⟩
      · exact ⟨nofun, fun _ => rfl⟩
  | _ => rfl

def interruptedRevert : Node (Option GoError × Pending) :=
  revert sampleConfig ∅ samplePod idleCgroup.snapshot

theorem interruptedRevert_ends :
    (interruptedRevert.run interrupted idleCgroup).2 = resetCgroup ∧
      (interruptedRevert.run interrupted idleCgroup).1.2 = {samplePod.uid} := by
  decide +kernel

end

end Journal

section

open Journal

attribute [local instance] asciiTable Qos.containerRequests

/-- A revert that turned `cpu.idle` off and could not write the weight: the next call begins
with the weight. -/
theorem weight_restore_journal_interrupted :
    (needsWeightRepair {samplePod.uid} samplePod resetCgroup.snapshot).1 = true := by
  have run : Exec (arena sampleDir) interruptedRevert idleCgroup
      ((interruptedRevert.run interrupted idleCgroup).1.1, (interruptedRevert.run interrupted idleCgroup).1.2)
      (interruptedRevert.run interrupted idleCgroup).2 := by
    rw [Prod.mk.eta]
    exact .of_handler interrupted_act interruptedRevert idleCgroup
  obtain ⟨ended, journaled⟩ := interruptedRevert_ends
  have call : Step sampleConfig samplePod.uid samplePod.spec (idleCgroup, ∅)
      (resetCgroup, {samplePod.uid}) := by
    rw [← ended, ← journaled]
    exact .call (.revert rfl rfl) run
  exact ((weight_restore_journal sampleConfig samplePod.uid samplePod.spec (.inl rfl)
    (.single call)).2 rfl (by decide +kernel) samplePod rfl rfl).1

end

end CpuIdle.Apply
