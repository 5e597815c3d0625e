/-
# Agent.Reconciler — one pod from its key to its tier

`reconcile` looks the pod up, keeps the books, reads its cgroup and compares it with
what the pod asks for. `Applier` is the interface it calls; `Applier.real` is the one
of production.

* `noteSignature`, `recordPodNotice` — which notices were last reported for a UID;
* `Assessment` — what a pass decides from one snapshot, before it acts;
* `locate` — the part of a pass up to the snapshot, `reconcilePod` the part after it.
-/
import CpuIdle.Agent.Membership

namespace CpuIdle.Agent

open CpuIdle.Go CpuIdle.Kube CpuIdle.Node CpuIdle.Theory CpuIdle.Apply CpuIdle.Observe

set_option autoImplicit false

/-- `cache.SplitMetaNamespaceKey`. -/
def splitMetaNamespaceKey [PrintTable] (key : String) : Except GoError (String × String) :=
  match split key '/' with
  | [name] => .ok ("", name)
  | [ns, name] => .ok (ns, name)
  | _ => .error (.new s!"unexpected key format: {quote key}")

/-- The interface `Reconcile` calls; the journal of the applier goes through it. -/
structure Applier where
  apply : Pending → Pod → Bool → Node (Option GoError × Pending)
  revert : Pending → Pod → Snapshot → Node (Option GoError × Pending)

def Applier.real [PrintTable] [Qos.ResourceHelper] (cfg : Config) : Applier :=
  ⟨Apply.apply cfg, Apply.revert cfg⟩

/-! ## Notices -/

/-- One part of a signature, closed by a NUL. -/
def terminated (part : String) : String := part ++ "\x00"

/-- Notes as one comparable string; empty only without notes. -/
def noteSignature (notes : List Tier.Note) : String :=
  String.join (notes.map fun note => terminated note.code ++ terminated note.message)

def State.podNoticeNeedsReport (state : State) (uid signature : String) : Bool :=
  state.lastNotes.lookup uid ≠ some signature

def State.recordPodNotice (state : State) (uid signature : String) : State :=
  { state with
    lastNotes := if signature = "" then state.lastNotes.erase uid
      else state.lastNotes.insert uid signature }

section

variable [PrintTable] [Qos.ResourceHelper]

/-! ## The decision -/

/-- What a pass holds about a pod once it has read the cgroup. -/
structure Assessment where
  wantsActiveTier : Bool
  hasCgroupWork : Bool
  hasNotice : Bool
  noticeSignature : String
  pending : Pending

/-- A burst request the cgroup cannot serve. -/
def actualBurstUnavailable (desired : Tier.State) (snapshot : Snapshot) : Bool :=
  desired.burstRequested && desired.burstActive && !snapshot.hasQuota

/-- The signature of everything there is to tell about the pod. -/
def noticeSignature (pod : Pod) (snapshot : Snapshot) : String :=
  let (desired, notes) := Tier.desired pod
  noteSignature notes ++
    if actualBurstUnavailable desired snapshot then terminated TierApplyReason.cgroupQuotaMissing
    else ""

def assess (pending : Pending) (pod : Pod) (snapshot : Snapshot) : Assessment :=
  let (desired, notes) := Tier.desired pod
  let wantsActiveTier := desired.idleRequested || desired.burstRequested
  let target := if wantsActiveTier then desired else .zero
  let plan := buildPlan target snapshot (Qos.restoreWeight pod.spec)
  let (needsRepair, pending) :=
    if desired.idleRequested then (false, pending) else needsWeightRepair pending pod snapshot
  { wantsActiveTier
    hasCgroupWork := !plan.isEmpty || needsRepair
    hasNotice := !notes.isEmpty || actualBurstUnavailable desired snapshot
    noticeSignature := noticeSignature pod snapshot
    pending }

/-! ## One pass -/

/-- Counts drift that a resync uncovered. -/
def countDrift (cfg : Config) (resync : Bool) (pod : Pod) (hasCgroupWork : Bool) : Node Unit :=
  if resync && hasCgroupWork then
    ask (.inc (.resyncDriftTotal cfg.node pod.ns (Qos.classOf pod.spec).name))
  else return ()

def callApplier (applier : Applier) (cfg : Config) (resync : Bool) (pod : Pod) (snapshot : Snapshot)
    (assessment : Assessment) (noticesChanged : Bool) : Node (Option GoError × Pending) := do
  countDrift cfg resync pod assessment.hasCgroupWork
  if assessment.wantsActiveTier || assessment.hasNotice then
    applier.apply assessment.pending pod (assessment.hasNotice && noticesChanged)
  else applier.revert assessment.pending pod snapshot

/-- The last step of a pass, after the applier returned. -/
def settle (cfg : Config) (state : State) (key : String) (pod : Pod) (dir signature : String) :
    Option GoError → Node (Option GoError × State)
  | some err => do
      let (refreshErr, state) ← refreshPodActual cfg state key pod dir
      return (GoError.join (err :: refreshErr.toList), state)
  | none => refreshPodActual cfg (state.recordPodNotice pod.uid signature) key pod dir

/-- `Reconcile` after `setPodActual`. -/
def reconcilePod (applier : Applier) (cfg : Config) (state : State) (key : String) (resync : Bool)
    (pod : Pod) (dir : String) (snapshot : Snapshot) : Node (Option GoError × State) := do
  let assessment := assess state.pending pod snapshot
  let state := { state with pending := assessment.pending }
  let noticesChanged := state.podNoticeNeedsReport pod.uid assessment.noticeSignature
  if !assessment.hasCgroupWork && !assessment.hasNotice then
    return (none, state.recordPodNotice pod.uid "")
  else if !assessment.hasCgroupWork && !noticesChanged then return (none, state)
  else
    let (err, pending) ← callApplier applier cfg resync pod snapshot assessment noticesChanged
    settle cfg { state with pending } key pod dir assessment.noticeSignature err

/-- The first full scan, if it has not succeeded yet. Its error is only logged. -/
def ensureInitialized (cfg : Config) (state : State) : Node State := do
  if state.metricsInitialized then return state
  else
    let (_, state) ← refreshPodsInTier cfg state
    return state

/-- How `Reconcile` gets on up to `setPodActual`: it is over, or there is a snapshot. -/
inductive Lookup where
  | ended (err : Option GoError) (state : State)
  | located (pod : Pod) (dir : String) (snapshot : Snapshot) (state : State)

/-- The pod is in the cache and its cgroup is its own. -/
def locatePod (cfg : Config) (state : State) (key : String) (pod : Pod) : Node Lookup := do
  let state ← observePodIdentity cfg.node state key pod.uid
  match cfg.layout.podDir (Qos.toCgroupClass (Qos.classOf pod.spec)) pod.uid with
  | .error err => return .ended (some (err.wrap "agent: reconcile: pod cgroup path")) state
  | .ok dir =>
  match ← readSnapshot dir with
  | .error err =>
      if err.is .cgroupGone then
        if runningPodNeedsCgroup pod then
          return .ended (some (err.wrap s!"agent: reconcile: running pod {key} cgroup missing")) state
        else
          let state ← setPodActual cfg.node (state.forgetApplierPodState pod.uid) key pod .zero
          return .ended none state
      else return .ended (some (err.wrap "agent: reconcile: read snapshot")) state
  | .ok snapshot =>
      let state ← setPodActual cfg.node state key pod snapshot
      return .located pod dir snapshot state

def locate (cfg : Config) (state : State) (key : String) : Node Lookup := do
  if ← ctxErr then return .ended (some canceled) state
  else
    let state ← ensureInitialized cfg state
    match splitMetaNamespaceKey key with
    | .error err => return .ended (some (err.wrap s!"agent: reconcile: split key {quote key}")) state
    | .ok (ns, name) =>
    match ← ask (.getCache ns name) with
    | .notFound =>
        let state ← removePodByKey cfg.node state key
        return .ended none state
    | .failed err => return .ended (some (err.err.wrap s!"agent: reconcile: get pod {key}")) state
    | .found pod =>
        if isMirrorPod pod then
          let state ← removePodByKey cfg.node state key
          return .ended none state
        else locatePod cfg state key pod

def reconcile (applier : Applier) (cfg : Config) (state : State) (key : String) (resync : Bool) :
    Node (Option GoError × State) := do
  match ← locate cfg state key with
  | .ended err state => return (err, state)
  | .located pod dir snapshot state => reconcilePod applier cfg state key resync pod dir snapshot

end

end CpuIdle.Agent
