/-
# Agent.Shutdown — a cancelled context starts no further write

Every write of a control file needs a permit, which a passed `ctx.Err()` grants and the
write uses up. Each program of the agent asks for one before each of its writes, so once
no check passes any more at most one write can follow: `shutdown_stops_writes`.
-/
import CpuIdle.Agent.Rules
import CpuIdle.Guard.Discipline
import CpuIdle.Guard.Tick
import CpuIdle.Theory.Monitor

namespace CpuIdle.Agent

open CpuIdle.Go CpuIdle.Kube CpuIdle.Node CpuIdle.Theory CpuIdle.Observe CpuIdle.Cgroup

set_option autoImplicit false

/-- Starts the write of a control file. -/
def isWrite : Request → Bool
  | .writeFile _ _ _ => true
  | _ => false

/-- `ctx.Err()` returned nil. -/
def checkPassed : Program.Event nodeSignature → Bool
  | ⟨.ctxErr, cancelled⟩ => !cancelled
  | _ => false

/-- Once the context is cancelled at most one more write is started, and none if it was
cancelled before the first request. -/
def StopsWriting {α : Type} (p : Node α) : Prop :=
  ∀ before after p', Program.Path p (before ++ after) p' →
    (∀ event ∈ after, checkPassed event = false) →
      after.countP (isWrite ·.1) ≤ 1 ∧ (before = [] → after.countP (isWrite ·.1) = 0)

namespace Shutdown

abbrev arena : Arena nodeSignature Bool := .monitor (permit checkPassed isWrite)

abbrev needsPermit : Guarantee nodeSignature Bool := allowing (permitted isWrite)

/-- Each write of `p` has a permit of its own. -/
abbrev Orderly {α : Type} (p : Node α) : Prop :=
  Holds arena needsPermit (fun _ => True) p fun _ _ => True

theorem Orderly.stopsWriting {α : Type} {p : Node α} (orderly : Orderly p) : StopsWriting p := by
  intro before after p' path stopped
  have accepts := (orderly.accepts (m := false) trivial path).drop
  have bound := accepts.at_most_one stopped
  refine ⟨bound.trans (Bool.toNat_le _), ?_⟩
  rintro rfl
  exact Nat.le_zero.mp bound

/-! ## Requests -/

theorem stable (P : Bool → Prop) : arena.Stable P := Arena.monitor_stable P

/-- A request that is neither a check nor a write. -/
theorem inert {r : Request} (write : isWrite r = false) (check : r ≠ .ctxErr) :
    arena.Inert needsPermit r := by
  intro held answer held' act
  have same : permit checkPassed isWrite held ⟨r, answer⟩ = held := by
    have ungranted : checkPassed ⟨r, answer⟩ = false := by
      cases r with
      | ctxErr => exact absurd rfl check
      | _ => rfl
    simp [permit, write, ungranted]
  exact ⟨act.trans same, fun isGuarded => by simp [write] at isGuarded⟩

theorem asks {r : Request} (write : isWrite r = false) (check : r ≠ .ctxErr) : Orderly (ask r) :=
  .keeps (stable _) ((inert write check).keeps _)

theorem checks : Holds arena needsPermit (fun _ => True) ctxErr fun cancelled held =>
    if cancelled then True else held = true := by
  refine .request (stable _) fun held _ cancelled held' act => ⟨nofun, ?_⟩
  cases cancelled with
  | true => trivial
  | false =>
      have granted : held' = (held || true) := act
      simpa using granted

theorem silent : Silent arena needsPermit fun _ => True where
  stable := stable _
  inc counter := (inert (r := .inc counter) rfl nofun).keeps _
  event e := (inert (r := .event e) rfl nofun).keeps _

section

variable [PrintTable]

theorem readKnob (dir name : String) : Orderly (Cgroup.readKnob dir name) :=
  readKnob_keeps (stable _) ((inert (r := .stat dir) rfl nofun).keeps _)
    ((inert (r := .readFile dir name) rfl nofun).keeps _)

theorem readSnapshot (dir : String) : Orderly (Apply.readSnapshot dir) :=
  Apply.readSnapshot_keeps (stable _) ((inert (r := .stat dir) rfl nofun).keeps _) fun name =>
    (inert (r := .readFile dir name) rfl nofun).keeps _

/-- The permit is spent on the write, whatever comes of it. -/
theorem writeKnob (root kubepodsName dir name value : String) :
    Holds arena needsPermit (· = true) (Cgroup.writeKnob root kubepodsName dir name value)
      fun _ _ => True := by
  unfold Cgroup.writeKnob
  refine .ite (fun _ => .pure fun _ _ => trivial) fun _ => ?_
  split
  · exact .pure fun _ _ => trivial
  · refine .bind (.request (Q := fun _ _ => True) (stable _)
      fun held isHeld answer held' _ => ⟨fun _ => isHeld, trivial⟩) fun answer => ?_
    cases answer with
    | notExist =>
        exact .bind (missingPathError_holds (stable _) (inert rfl nofun)) fun _ =>
          .pure fun _ _ => trivial
    | _ => exact .pure fun _ _ => trivial

end

/-! ## The applier -/

section

variable [PrintTable]

theorem loop (cfg : Apply.Config) (pod : Pod) (dir : String) {success : Apply.Write → Node Unit}
    {onEinval : Node Unit} (successful : ∀ write, Orderly (success write)) (einval : Orderly onEinval) :
    Apply.LoopSteps arena needsPermit cfg pod dir success onEinval (fun _ _ _ => True)
      (fun _ _ held => held = true) (fun _ _ _ _ => True) (fun _ _ _ _ => True) (fun _ _ _ _ => True)
      fun _ _ => True where
  check _ _ _ := checks
  write _ _ _ := (writeKnob _ _ _ _ _).post fun result _ _ => by cases result <;> trivial
  traced write _ _ := successful write
  gone _ _ _ _ _ _ _ := trivial
  refused _ _ _ _ _ := silent.record _ _ _ _ _ _ _
  einval _ _ _ _ _ _ := einval
  failed _ _ _ _ _ _ _ _ := trivial
  completed _ _ _ := trivial

variable [Qos.ResourceHelper]

theorem apply (cfg : Apply.Config) (pending : Apply.Pending) (pod : Pod) (reportNotices : Bool) :
    Orderly (Apply.apply cfg pending pod reportNotices) := by
  have stop : ∀ result : Option GoError × Apply.Pending, Orderly (pure result) :=
    fun _ => .pure fun _ _ => trivial
  unfold Apply.apply
  refine .bind (checks.post fun _ _ _ => trivial) fun cancelled => .ite (fun _ => stop _) fun _ => ?_
  dsimp only
  cases cfg.layout.podDir (Qos.toCgroupClass (Tier.desired pod).1.qosClass) (Tier.desired pod).1.uid with
  | error err => exact stop _
  | ok dir =>
  refine .bind (readSnapshot dir) fun result => ?_
  cases result with
  | error err => exact .ite (fun _ => stop _) fun _ => stop _
  | ok snapshot =>
  have notices := Apply.noticesOf_holds silent cfg pod reportNotices snapshot
  refine .bind (Apply.runPlan_steps (loop cfg pod dir (fun write =>
    Apply.reportSuccess_holds silent cfg pod write) notices) _ _) fun ended => ?_
  rcases ended with ⟨ended, pending⟩
  cases ended with
  | returned err => exact stop _
  | completed =>
      refine .bind (checks.post fun _ _ _ => trivial) fun cancelled => ?_
      exact .ite (fun _ => stop _) fun _ => .bind notices fun _ => stop _

theorem revert (cfg : Apply.Config) (pending : Apply.Pending) (pod : Pod) (state : Apply.Snapshot) :
    Orderly (Apply.revert cfg pending pod state) := by
  have stop : ∀ result : Option GoError × Apply.Pending, Orderly (pure result) :=
    fun _ => .pure fun _ _ => trivial
  unfold Apply.revert
  refine .bind (checks.post fun _ _ _ => trivial) fun cancelled => .ite (fun _ => stop _) fun _ => ?_
  cases cfg.layout.podDir (Qos.toCgroupClass (Qos.classOf pod.spec)) pod.uid with
  | error err => exact stop _
  | ok dir =>
  refine .bind (Apply.runPlan_steps (loop cfg pod dir (fun write =>
    silent.record _ _ _ _ _ _ _) (.pure fun _ _ => trivial)) _ _) fun ended => ?_
  rcases ended with ⟨ended, pending⟩
  cases ended with
  | returned err => exact stop _
  | completed => exact stop _

end

/-! ## The guard -/

section

variable [PrintTable]

theorem patchMarker (pod : Pod) (value : String) (clear : Bool) (expected : Option Guard.PersistedState)
    (expectedRaw : String) : Orderly (Guard.patchMarker pod value clear expected expectedRaw) :=
  Guard.patchMarker_holds (F := fun _ _ => True) {
    stable := stable _
    stable_read := fun _ => stable _
    read_known := fun _ _ _ => trivial
    get := fun _ _ _ _ _ => ⟨nofun, trivial, fun _ _ => trivial, fun _ _ => trivial⟩
    send := fun _ _ _ _ _ _ _ _ =>
      ⟨nofun, fun _ => trivial, fun _ _ => trivial, fun _ _ => trivial⟩
    replaced := fun _ _ _ _ _ => trivial
    already := fun _ _ _ _ _ _ => trivial
    error := fun _ _ _ => trivial }

theorem suppressWrite (cfg : Guard.Config) (owned : Guard.Owned) (pod : Pod) (dir current : String)
    (state : Guard.PersistedState) : Orderly (Guard.suppressWrite cfg owned pod dir current state) :=
  Guard.suppressWrite_steps (C := (· = true)) (D := fun _ => True) (F := fun _ _ => True) {
    already := fun _ _ _ => trivial
    check := fun _ => checks
    write := (writeKnob _ _ _ _ _).post fun result _ _ => by cases result <;> trivial
    refused := fun _ => silent.record _ _ _ _ _ _ _
    traced := silent.record _ _ _ _ _ _ _ }

theorem suppressPod (cfg : Guard.Config) (owned : Guard.Owned) (pod : Pod) :
    Orderly (Guard.suppressPod cfg owned pod) :=
  Guard.suppressPod_steps (L := fun _ => True) (R := fun _ _ _ => True) (M := fun _ _ => True) {
    check := checks.post fun cancelled _ _ => by cases cancelled <;> trivial
    noDir := fun _ _ _ _ => trivial
    read := fun _ _ => (readKnob _ _).post fun result _ _ => by cases result <;> trivial
    undecoded := fun _ _ _ _ _ _ => trivial
    skipped := fun _ _ _ _ _ _ => trivial
    foreign := fun _ _ _ _ _ _ _ => trivial
    set := fun _ _ _ => (patchMarker _ _ _ _ _).post fun result _ _ => by cases result <;> trivial
    fresh := fun _ _ _ => suppressWrite _ _ _ _ _ _
    marked := fun _ _ _ _ _ _ _ => suppressWrite _ _ _ _ _ _ }

variable [Qos.ResourceHelper]

theorem restorePod (cfg : Guard.Config) (owned : Guard.Owned) (pod : Pod) (state : Guard.PersistedState) :
    Orderly (Guard.restorePod cfg owned pod state) :=
  Guard.restorePod_steps (L := fun _ => True) (N := fun _ _ => True) (S := fun _ _ => True)
    (C := fun _ held => held = true) (D := fun _ _ => True) (F := fun _ _ _ => True) {
    check := checks.post fun cancelled _ _ => by cases cancelled <;> trivial
    failed := fun _ _ _ => trivial
    read := fun _ _ _ => (readKnob _ _).post fun result _ _ => by
      cases result with
      | ok current => exact ⟨fun _ => trivial, fun _ => trivial⟩
      | error err => exact ⟨fun _ => trivial, fun _ => trivial⟩
    distrusted := fun _ _ _ _ => trivial
    recheck := fun _ _ => checks
    write := fun _ _ _ _ => (writeKnob _ _ _ _ _).post fun result _ _ => by cases result <;> trivial
    refused := fun _ _ _ => silent.record _ _ _ _ _ _ _
    traced := fun _ _ => silent.record _ _ _ _ _ _ _
    clear := fun _ _ => (patchMarker _ _ _ _ _).post fun result _ _ => by cases result <;> trivial }

theorem restoreLocal (cfg : Guard.Config) (seen : List String) (owned : Guard.Owned)
    (errs : List GoError) : Orderly (Guard.restoreLocal cfg seen owned errs) :=
  Guard.restoreLocal_holds (J := fun _ _ _ => True) (fun _ _ => stable _) (fun _ => inert rfl nofun)
    (fun _ own _ owned _ _ => restorePod cfg owned own.pod own.state) owned errs

theorem converge (cfg : Guard.Config) (owned : Guard.Owned) (hot : Bool) (allPods candidates : List Pod) :
    Orderly (Guard.converge cfg owned hot allPods candidates) := by
  have rule : Guard.ConvergeRule arena needsPermit cfg hot (candidates.map Pod.uid) allPods
      fun _ _ _ _ => True :=
    { stat := fun _ => inert rfl nofun
      stable := fun _ _ _ => stable _
      read := fun _ _ _ _ _ dir _ => (inert (r := .readFile dir "cgroup.freeze") rfl nofun).keeps _
      invalid := fun _ _ _ _ _ _ _ => patchMarker _ _ _ _ _
      eligible := fun _ _ _ _ _ _ _ _ _ _ _ => trivial
      restore := fun pod _ owned _ _ state _ => restorePod cfg owned pod state }
  unfold Guard.converge
  refine .bind (Guard.convergePods_holds rule _) fun pass => ?_
  have suppress : Orderly (if hot then
      Guard.suppressPods cfg pass.restoredThisPass pass.eligible pass.owned pass.errs
      else pure (pass.errs, pass.owned)) :=
    .ite (fun _ => Guard.suppressPods_holds (J := fun _ _ => True)
      (fun pod _ _ owned => suppressPod cfg owned pod) _ _) fun _ => .pure fun _ _ => trivial
  refine .bind suppress fun result => ?_
  exact .bind (restoreLocal cfg _ _ _) fun _ => .pure fun _ _ => trivial

theorem recover (cfg : Guard.Config) {lister : Node (Except GoError (List Pod))}
    (lists : Orderly lister) (owned : Guard.Owned) : Orderly (Guard.recover cfg lister owned) := by
  unfold Guard.recover
  refine .bind lists fun answer => ?_
  cases answer with
  | error err => exact .pure fun _ _ => trivial
  | ok pods =>
      refine .bind (Guard.recoverPods_holds (J := fun _ _ _ _ => True)
        (fun _ _ _ _ _ _ _ => patchMarker _ _ _ _ _) (fun _ _ _ _ _ _ _ _ => trivial)
        (fun pod _ _ _ owned state _ => restorePod cfg owned pod state) owned [] []) fun result => ?_
      exact .bind (restoreLocal cfg _ _ _) fun _ => .pure fun _ _ => trivial

omit [PrintTable] [Qos.ResourceHelper] in
theorem sampling : Guard.SampleRule arena needsPermit fun _ => True where
  stable := stable _
  stat _ := inert rfl nofun
  idle dir := (inert (r := .readFile dir "cpu.idle") rfl nofun).keeps _
  usage dir := (inert (r := .readFile dir "cpu.stat") rfl nofun).keeps _
  cpus := inert rfl nofun
  walk _ := inert rfl nofun

theorem tick (cfg : Guard.TickConfig) (s : Guard.Sampler) (owned : Guard.Owned) :
    Orderly (Guard.tick cfg s owned) := by
  have stop : ∀ result : Guard.Sampler × Guard.Owned, Orderly (pure result) :=
    fun _ => .pure fun _ _ => trivial
  have reports : ∀ (healthy : Bool) (result : Guard.Sampler × Guard.Owned), Orderly (do
      ask (.reportHealth healthy)
      return result) := fun healthy result =>
    .bind (asks (r := .reportHealth healthy) rfl nofun) fun _ => stop result
  unfold Guard.tick
  refine .bind (checks.post fun _ _ _ => trivial) fun cancelled => .ite (fun _ => stop _) fun _ => ?_
  refine .bind (asks (r := .listCache) rfl nofun) fun answer => ?_
  cases answer with
  | error err => exact reports false (s, owned)
  | ok pods =>
  refine .bind (Guard.idlePodsUsage_holds sampling _ _ _) fun idle => ?_
  refine .ite (fun _ => .bind (converge _ _ _ _ _) fun result => reports false _) fun _ => ?_
  refine .bind (Guard.readUsageUsec_holds sampling _) fun usage => ?_
  cases usage with
  | error err => exact .bind (converge _ _ _ _ _) fun result => reports false _
  | ok total =>
  refine .bind (asks (r := .now) rfl nofun) fun now => ?_
  refine .bind (Guard.decideHot_holds sampling cfg s total _ now) fun decided => ?_
  exact .bind (converge _ _ _ _ _) fun result => reports _ _

end

/-! ## The Reconciler -/

theorem series : SeriesRule arena needsPermit fun _ _ => True where
  stable _ := stable _
  walk _ := inert rfl nofun
  set _ _ _ _ _ _ _ _ _ := ⟨nofun, trivial⟩
  delete _ _ _ _ _ _ _ _ := ⟨nofun, trivial⟩

theorem removePod (node : String) (state : State) (uid : String) :
    Orderly (Agent.removePod node state uid) :=
  (removePod_holds series node state uid fun _ => none).post fun _ _ _ => trivial

theorem removePodByKey (node : String) (state : State) (key : String) :
    Orderly (Agent.removePodByKey node state key) := by
  unfold Agent.removePodByKey
  split
  · exact .pure fun _ _ => trivial
  · exact .bind (removePod _ _ _) fun _ => .pure fun _ _ => trivial

theorem observePodIdentity (node : String) (state : State) (key uid : String) :
    Orderly (Agent.observePodIdentity node state key uid) := by
  have drop : Orderly (dropReplaced node state key uid) := by
    unfold dropReplaced
    split
    · exact .pure fun _ _ => trivial
    · exact .ite (fun _ => .bind (removePod _ _ _) fun _ => .pure fun _ _ => trivial)
        fun _ => .pure fun _ _ => trivial
  exact .bind drop fun _ => .pure fun _ _ => trivial

theorem setPodActual (node : String) (state : State) (key : String) (pod : Pod)
    (snapshot : Apply.Snapshot) : Orderly (Agent.setPodActual node state key pod snapshot) :=
  .bind (observePodIdentity node state key pod.uid) fun state =>
    (replacePodMembership_holds series node state pod.uid _ fun _ => none).post fun _ _ _ => trivial

section

variable [PrintTable] [Qos.ResourceHelper]

omit [Qos.ResourceHelper] in
theorem refreshPodsInTier (cfg : Apply.Config) (state : State) :
    Orderly (Agent.refreshPodsInTier cfg state) := by
  refine refreshPodsInTier_holds (K := fun _ _ _ _ => True) (fun _ => none) (stable _)
    (fun _ => inert rfl nofun) (fun _ _ _ _ _ => ⟨nofun, fun _ _ _ => trivial, fun _ _ => trivial⟩)
    (fun pod rest acc => ?_) (fun _ => series) fun _ _ _ => trivial
  refine refreshPod_holds (R := fun _ _ => True) (fun _ _ _ => trivial) (fun _ _ _ _ => trivial)
    (fun _ dir _ => (readSnapshot dir).post fun result _ _ => ?_) fun _ _ _ _ _ => trivial
  cases result with
  | ok snapshot => trivial
  | error err =>
      dsimp only
      split
      · trivial
      · trivial

omit [Qos.ResourceHelper] in
theorem refreshPodActual (cfg : Apply.Config) (state : State) (key : String) (pod : Pod) (dir : String) :
    Orderly (Agent.refreshPodActual cfg state key pod dir) :=
  refreshPodActual_holds (R := fun _ _ => True) (readSnapshot dir) (fun _ _ _ _ _ => trivial)
    (fun _ _ _ => setPodActual _ _ _ _ _) fun _ => setPodActual _ _ _ _ _

omit [Qos.ResourceHelper] in
theorem locatePod (cfg : Apply.Config) (state : State) (key : String) (pod : Pod) :
    Orderly (Agent.locatePod cfg state key pod) :=
  locatePod_holds (T := fun _ _ => True) (R := fun _ _ _ _ => True) (observePodIdentity _ _ _ _)
    (fun _ _ _ _ => trivial) (fun dir _ _ => readSnapshot dir) (fun _ _ _ _ _ _ => trivial)
    (fun _ _ _ _ _ => setPodActual _ _ _ _ _) fun _ _ _ => setPodActual _ _ _ _ _

omit [Qos.ResourceHelper] in
theorem locate (cfg : Apply.Config) (state : State) (key : String) :
    Orderly (Agent.locate cfg state key) := by
  have stop : ∀ result : Lookup, Orderly (pure result) := fun _ => .pure fun _ _ => trivial
  have initialized : Orderly (ensureInitialized cfg state) :=
    .ite (fun _ => .pure fun _ _ => trivial) fun _ =>
      .bind (refreshPodsInTier cfg state) fun _ => .pure fun _ _ => trivial
  unfold Agent.locate
  refine .bind (checks.post fun _ _ _ => trivial) fun cancelled => .ite (fun _ => stop _) fun _ => ?_
  refine .bind initialized fun state => ?_
  split
  · exact stop _
  · rename_i ns name _
    refine .bind (asks (r := .getCache ns name) rfl nofun) fun answer => ?_
    cases answer with
    | notFound => exact .bind (removePodByKey _ _ _) fun _ => stop _
    | failed err => exact stop _
    | found pod =>
        exact .ite (fun _ => .bind (removePodByKey _ _ _) fun _ => stop _) fun _ => locatePod cfg state key pod

theorem callApplier (cfg : Apply.Config) (resync : Bool) (pod : Pod) (snapshot : Apply.Snapshot)
    (assessment : Assessment) (noticesChanged : Bool) :
    Orderly (Agent.callApplier (.real cfg) cfg resync pod snapshot assessment noticesChanged) := by
  have drift : Orderly (countDrift cfg resync pod assessment.hasCgroupWork) :=
    .ite (fun _ => asks (r := .inc _) rfl nofun) fun _ => .pure fun _ _ => trivial
  exact .bind drift fun _ => .ite (fun _ => apply cfg _ _ _) fun _ => revert cfg _ _ _

theorem reconcile (cfg : Apply.Config) (state : State) (key : String) (resync : Bool) :
    Orderly (Agent.reconcile (.real cfg) cfg state key resync) := by
  unfold Agent.reconcile
  refine .bind (locate cfg state key) fun lookup => ?_
  cases lookup with
  | ended err state => exact .pure fun _ _ => trivial
  | located pod dir snapshot state =>
  unfold reconcilePod
  refine .ite (fun _ => .pure fun _ _ => trivial) fun _ => .ite (fun _ => .pure fun _ _ => trivial) fun _ => ?_
  refine .bind (callApplier cfg _ _ _ _ _) fun result => ?_
  obtain ⟨err, pending⟩ := result
  cases err with
  | none => exact refreshPodActual cfg _ _ _ _
  | some err => exact .bind (refreshPodActual cfg _ _ _ _) fun _ => .pure fun _ _ => trivial

end

end Shutdown

variable [PrintTable] [Qos.ResourceHelper]

/-- **Shutdown starts no further write.** For each entry point, over any answers, whenever the
context becomes cancelled. -/
theorem shutdown_stops_writes (cfg : Apply.Config) (guard : Guard.TickConfig) :
    (∀ state key resync, StopsWriting (reconcile (.real cfg) cfg state key resync)) ∧
      (∀ pending pod reportNotices, StopsWriting (Apply.apply cfg pending pod reportNotices)) ∧
      (∀ pending pod snapshot, StopsWriting (Apply.revert cfg pending pod snapshot)) ∧
      (∀ s owned, StopsWriting (Guard.tick guard s owned)) ∧
      (∀ owned hot allPods candidates,
        StopsWriting (Guard.converge guard.toConfig owned hot allPods candidates)) ∧
      (∀ owned, StopsWriting (Guard.recover guard.toConfig Guard.cacheLister owned)) ∧
      ∀ pods owned, StopsWriting (Guard.recover guard.toConfig (pure (.ok pods)) owned) := by
  refine ⟨?_, ?_, ?_, ?_, ?_, ?_, ?_⟩
  · exact fun state key resync => (Shutdown.reconcile cfg state key resync).stopsWriting
  · exact fun pending pod reportNotices => (Shutdown.apply cfg pending pod reportNotices).stopsWriting
  · exact fun pending pod snapshot => (Shutdown.revert cfg pending pod snapshot).stopsWriting
  · exact fun s owned => (Shutdown.tick guard s owned).stopsWriting
  · exact fun owned hot allPods candidates =>
      (Shutdown.converge guard.toConfig owned hot allPods candidates).stopsWriting
  · have cached : Shutdown.Orderly Guard.cacheLister := Shutdown.asks (r := .listCache) rfl nofun
    exact fun owned => (Shutdown.recover guard.toConfig cached owned).stopsWriting
  · have listed : ∀ pods, Shutdown.Orderly (pure (.ok pods) : Node (Except GoError (List Pod))) :=
      fun _ => .pure fun _ _ => trivial
    exact fun pods owned => (Shutdown.recover guard.toConfig (listed pods) owned).stopsWriting

end CpuIdle.Agent
