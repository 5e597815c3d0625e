/-
# Agent.RevertAll — the one-shot mode before the operator is removed

One List, then the recovery of every durable guard marker, then one attempt on each pod, then
the table. Which tiers are active is read from the cgroup, not from the annotation.

* `revertPod` — read, revert, read again;
* `runRevertAll` — every pod is attempted, whatever became of the others;
* `runRevertAll_path` — the transcript of a run is one complete attempt after another.
-/
import CpuIdle.Agent.Membership
import CpuIdle.Guard.Ownership
import CpuIdle.Theory.Run
import Mathlib.Data.List.Sort

namespace CpuIdle.Agent

open CpuIdle.Go CpuIdle.Kube CpuIdle.Node CpuIdle.Theory CpuIdle.Apply CpuIdle.Cgroup

set_option autoImplicit false

/-- What this mode reads of `config.Config`; the driver is the gate's to tell. -/
structure RevertAllConfig where
  nodeName : String
  cgroupRoot : String
  kubepodsName : String
  rooted : Path.isAbs cgroupRoot = true
  component : PathComponent kubepodsName

namespace RevertAllConfig

variable (cfg : RevertAllConfig) (driver : Driver)

def layout : Layout := ⟨cfg.cgroupRoot, cfg.kubepodsName, driver, cfg.rooted, cfg.component⟩

def applier : Apply.Config := ⟨cfg.layout driver, cfg.nodeName⟩

def guard : Guard.Config := ⟨cfg.layout driver, cfg.nodeName⟩

end RevertAllConfig

/-- One row of the table. `err` is never the cgroup that is gone. -/
structure RevertResult where
  key : String
  cleared : String
  status : String
  err : Option GoError

/-! ## One pod -/

def describeActiveTiers (s : Snapshot) : String :=
  let tiers := (if s.idleActive then ["idle"] else []) ++ (if s.burst > 0 then ["burst"] else [])
  if tiers = [] then "none" else "+".intercalate tiers

def planContainsKnob (plan : List Write) (knob : String) : Bool := plan.any (·.knob = knob)

def planKnobs (plan : List Write) : String := ",".intercalate (plan.map Write.knob)

section

variable [PrintTable] [Qos.ResourceHelper]

/-- The applier's journal goes from pod to pod. -/
def revertPod (cfg : Apply.Config) (pending : Pending) (pod : Pod) : Node (RevertResult × Pending) := do
  let failed := fun (cleared : String) (err : GoError) => RevertResult.mk pod.path cleared "error" (some err)
  match cfg.layout.podDir (Qos.toCgroupClass (Qos.classOf pod.spec)) pod.uid with
  | .error err => return (failed "" (err.wrap "pod cgroup path"), pending)
  | .ok dir =>
  match ← readSnapshot dir with
  | .error err =>
      if err.is .cgroupGone then return (⟨pod.path, "", "gone", none⟩, pending)
      else return (failed "" (err.wrap "read snapshot"), pending)
  | .ok snapshot =>
  let plan := buildPlan .zero snapshot (Qos.restoreWeight pod.spec)
  let active := describeActiveTiers snapshot
  let cleared := if active = "none" ∧ planContainsKnob plan knobCPUWeight then "weight" else active
  if plan = [] then return (⟨pod.path, cleared, "none", none⟩, pending)
  else
    match ← revert cfg pending pod snapshot with
    | (some err, pending) =>
        if err.is .cgroupGone then return (⟨pod.path, cleared, "gone", none⟩, pending)
        else return (failed cleared err, pending)
    | (none, pending) =>
    match ← readSnapshot dir with
    | .error err =>
        if err.is .cgroupGone then return (⟨pod.path, cleared, "gone", none⟩, pending)
        else return (failed cleared (err.wrap "verify reverted snapshot"), pending)
    | .ok after =>
        let remaining := buildPlan .zero after (Qos.restoreWeight pod.spec)
        if remaining ≠ [] then
          return (failed cleared
            (.new s!"revert incomplete: cgroup still requires writes to {planKnobs remaining}"), pending)
        else return (⟨pod.path, cleared, "ok", none⟩, pending)

/-- The loop of `RunRevertAll`: it never stops early. -/
def revertPods (cfg : Apply.Config) :
    List Pod → Pending → List RevertResult → Node (List RevertResult × Pending)
  | [], pending, results => return (results, pending)
  | pod :: rest, pending, results => do
      let (result, pending) ← revertPod cfg pending pod
      revertPods cfg rest pending (results ++ [result])

/-! ## The guard's markers -/

/-- The cache that is built for `Recover`, by key. -/
def recoveryCache (pods : List Pod) : Finmap fun _ : String => Pod :=
  pods.foldl (fun indexer pod => indexer.insert (metaNamespaceKey pod) pod) ∅

/-- `List` over that cache, in the order Go happens to take. -/
def recoveryLister (pods : List Pod) : Node (Except GoError (List Pod)) := do
  let order ← ask (.rangeKeys (recoveryCache pods).keys)
  return .ok (order.val.filterMap (recoveryCache pods).lookup)

def recoverGuardState (cfg : Guard.Config) (pods : List Pod) : Node (Option GoError) := do
  let (err, _) ← Guard.recover cfg (recoveryLister pods) ∅
  return err

/-! ## The run -/

/-- By namespace, then by name. -/
def sortPods (pods : List Pod) : List Pod :=
  pods.insertionSort fun p q => toLex (p.ns, p.name) ≤ toLex (q.ns, q.name)

def listNodePods (nodeName : String) : Node (Except GoError (List Pod)) := do
  match ← ask (.listNodePods nodeName) with
  | .error err => return .error err.err
  | .ok pods => return .ok (sortPods pods)

def tableRow (result : RevertResult) : String :=
  let cleared := if result.cleared = "" then "-" else result.cleared
  let status := match result.err with
    | some err => s!"error: {err.text}"
    | none => result.status
  s!"{result.key}\t{cleared}\t{status}"

def printRevertTable (results : List RevertResult) : Node (Option GoError) := do
  match ← ask (.flushTable ("POD\tCLEARED\tRESULT" :: results.map tableRow)) with
  | some err => return some (err.err.wrap "flush result table")
  | none => return none

/-- What the run returns, from what became of its parts. -/
def revertAllErrors (pods : List Pod) (results : List RevertResult) (guardErr tableErr : Option GoError) :
    List GoError :=
  let failures := results.countP (·.err.isSome)
  (if failures > 0 then
    [.new s!"agent: revert-all: {failures} of {pods.length} pods failed to revert"] else []) ++
  (guardErr.map (·.wrap "agent: revert-all: recover guard state")).toList ++
  (tableErr.map (·.wrap "agent: revert-all")).toList

/-- Everything after the List. -/
def revertListed (cfg : RevertAllConfig) (driver : Driver) (pods : List Pod) : Node (Option GoError) := do
  let guardErr ← recoverGuardState (cfg.guard driver) pods
  let (results, _) ← revertPods (cfg.applier driver) pods ∅ []
  let tableErr ← printRevertTable results
  return GoError.join (revertAllErrors pods results guardErr tableErr)

/-- `RunRevertAll`, with its default applier. -/
def runRevertAll (cfg : RevertAllConfig) : Node (Option GoError) := do
  if cfg.nodeName = "" then
    return some (.new "agent: RunRevertAll: Config.NodeName must not be empty")
  else
    match ← ask (.gateCheck cfg.cgroupRoot cfg.kubepodsName) with
    | .failed err => return some (err.err.wrap "agent: revert-all: environment gate check")
    | .notReady reason =>
        return some (.new s!"agent: revert-all: environment gate not ready: {reason}")
    | .ready driver =>
    match ← listNodePods cfg.nodeName with
    | .error err => return some (err.wrap "agent: revert-all: list pods")
    | .ok pods => revertListed cfg driver pods

/-! ## Every pod is attempted -/

omit [PrintTable] [Qos.ResourceHelper] in
theorem mem_sortPods {pods : List Pod} {pod : Pod} : pod ∈ sortPods pods ↔ pod ∈ pods :=
  (List.perm_insertionSort _ _).mem_iff

/-- The loop is one complete attempt after another. -/
theorem revertPods_path {cfg : Apply.Config} {pods : List Pod} {pending : Pending}
    {results : List RevertResult} {events : List (Program.Event nodeSignature)}
    {out : List RevertResult × Pending}
    (path : Program.Path (revertPods cfg pods pending results) events (.done out)) :
    ∀ pod ∈ pods, ∃ before attempt after pending' result, events = before ++ attempt ++ after ∧
      Program.Path (revertPod cfg pending' pod) attempt (.done result) := by
  induction pods generalizing pending results events with
  | nil => simp
  | cons first rest ih =>
      obtain ⟨attempt, ⟨result, pending'⟩, later, rfl, attempted, onward⟩ := path.of_bind
      intro pod member
      rcases List.mem_cons.mp member with rfl | member
      · exact ⟨[], attempt, later, pending, _, by simp, attempted⟩
      · obtain ⟨before, attempt', after, pending'', result', rfl, attempted'⟩ := ih onward pod member
        exact ⟨attempt ++ before, attempt', after, pending'', result', by simp, attempted'⟩

/-- **A failure stops nothing.** Whatever the recovery of the guard's markers and the attempts on the
other pods came to, a run that got its list contains a complete attempt on each listed pod. -/
theorem runRevertAll_path {cfg : RevertAllConfig} {driver : Driver} {pods : List Pod}
    {events : List (Program.Event nodeSignature)} {result : Option GoError}
    (path : Program.Path (runRevertAll cfg) (⟨.gateCheck cfg.cgroupRoot cfg.kubepodsName, .ready driver⟩ ::
      ⟨.listNodePods cfg.nodeName, (.ok pods : Except ApiError (List Pod))⟩ :: events) (.done result)) :
    ∀ pod ∈ pods, ∃ before attempt after pending out, events = before ++ attempt ++ after ∧
      Program.Path (revertPod (cfg.applier driver) pending pod) attempt (.done out) := by
  unfold runRevertAll at path
  split at path
  · obtain ⟨never, -⟩ := path.of_done
    cases never
  obtain ⟨_, _, same, gated⟩ := path.of_request
  cases same
  obtain ⟨_, _, same, listed⟩ := gated.of_request
  cases same
  have runs : Program.Path (revertListed cfg driver (sortPods pods)) events (.done result) := listed
  obtain ⟨recovers, guardErr, rest, rfl, -, onward⟩ := runs.of_bind
  obtain ⟨loop, results, last, rfl, attempts, -⟩ := onward.of_bind
  intro pod member
  obtain ⟨before, attempt, after, pending, out, rfl, attempted⟩ :=
    revertPods_path attempts pod (mem_sortPods.mpr member)
  exact ⟨recovers ++ before, attempt, after ++ last, pending, out, by simp, attempted⟩

end

end CpuIdle.Agent
