/-
# Guard.Ownership — freezing and thawing with a durable record

The operations of the node guard on one pod, and the two passes over all of them.
`Owned` is the in-process map: it closes the gap between persisting a record and
seeing it in the cache. Every operation takes the map and returns it changed.
-/
import CpuIdle.Cgroup.Knob
import CpuIdle.Guard.Marker
import CpuIdle.Observe.Recorder
import Mathlib.Data.Finmap

namespace CpuIdle.Guard

open CpuIdle.Go CpuIdle.Kube CpuIdle.Node CpuIdle.Theory CpuIdle.Cgroup CpuIdle.Observe

set_option autoImplicit false

structure Config where
  layout : Layout
  nodeName : String

structure OwnedState where
  pod : Pod
  state : PersistedState
  trusted : Bool

/-- `g.owned`. -/
abbrev Owned := Finmap fun _ : String => OwnedState

def errOwnershipMarkerChanged : GoError :=
  ⟨"guard: ownership marker changed", [.ownershipMarkerChanged]⟩

def suppressionKnob : String := "cgroup.freeze"

def suppressedValue : String := "1"

section

variable [PrintTable]

def podDir (cfg : Config) (pod : Pod) : Except GoError String :=
  match cfg.layout.podDir (Qos.toCgroupClass (Qos.classOf pod.spec)) pod.uid with
  | .ok dir => .ok dir
  | .error err => .error (err.wrap s!"guard: pod cgroup path for {pod.path}")

/-- What the guard holds about a pod: its own record first, the annotation second. The
text of a JSON error is left out. -/
def stateForPod (owned : Owned) (pod : Pod) : Except GoError (Option PersistedState) :=
  match owned.lookup pod.uid with
  | some own => .ok (some own.state)
  | none =>
      let raw := pod.annotationAt Annotations.guardStateKey
      if raw = "" then .ok none
      else
        match decode raw with
        | none => .error (.new s!"decode {Annotations.guardStateKey}")
        | some state =>
            match validateState state with
            | some err => .error err
            | none => .ok (some state)

/-! ## The marker on the API object -/

/-- Whether `patchMarker` may go on from the annotation it just read. -/
def markerMatches (currentRaw : String) (clear : Bool) (expected : Option PersistedState)
    (expectedRaw : String) : Bool :=
  if clear then
    match expected with
    | some state => readMarker currentRaw = some state
    | none => expectedRaw ≠ "" && currentRaw = expectedRaw
  else currentRaw = ""

/-- The patch `patchMarker` sends after it read `current`. -/
def markerPatch (current : Pod) (value : String) (clear : Bool) : MarkerPatch :=
  { uid := current.uid
    guardState := if clear then none else some value
    resourceVersion :=
      if current.resourceVersion ≠ "" then some current.resourceVersion else none }

/-- An optimistic compare-and-patch against the latest object. -/
def patchMarker (pod : Pod) (value : String) (clear : Bool) (expected : Option PersistedState)
    (expectedRaw : String) : Node (Option GoError) := do
  match ← ask (.getPod pod.ns pod.name) with
  | .notFound => return if clear then none else some errCgroupGone
  | .failed err => return some (err.err.wrap s!"guard: get pod before ownership patch on {pod.path}")
  | .found current =>
      if current.uid ≠ pod.uid then return if clear then none else some errCgroupGone
      else
        let currentRaw := current.annotationAt Annotations.guardStateKey
        if clear && currentRaw = "" then return none
        else if !markerMatches currentRaw clear expected expectedRaw then
          return some ⟨s!"{errOwnershipMarkerChanged.text} on {pod.path}", errOwnershipMarkerChanged.chain⟩
        else
          match ← ask (.patchPod pod.ns pod.name (markerPatch current value clear)) with
          | .patched => return none
          | .notFound => return if clear then none else some errCgroupGone
          | .failed err => return some (err.err.wrap s!"guard: patch ownership marker on {pod.path}")

def setMarker (pod : Pod) (state : PersistedState) : Node (Option GoError) :=
  patchMarker pod (encode state) false none ""

def clearMarker (pod : Pod) (expected : PersistedState) : Node (Option GoError) :=
  patchMarker pod "" true (some expected) ""

def clearInvalidMarker (pod : Pod) (expectedRaw : String) : Node (Option GoError) :=
  patchMarker pod "" true none expectedRaw

/-! ## One pod -/

def reportRejected (cfg : Config) (pod : Pod) (knob : String) (err : GoError) : Node Unit :=
  let reason :=
    if err.is .notPodCgroup then TierApplyReason.notPodCgroup
    else if err.is .einval then TierApplyReason.einval
    else TierApplyReason.other
  rejected cfg.nodeName pod knob TierApplyResult.rejected reason

def forgetConflictedOwnership (owned : Owned) (pod : Pod) (err : GoError) : Owned :=
  if err.is .ownershipMarkerChanged then owned.erase pod.uid else owned

/-- Thawed, or already frozen by the transition on record. -/
def actualFreezeAllowsSuppression (cfg : Config) (pod : Pod) (marked : Option PersistedState) :
    Node (Except GoError Bool) := do
  match podDir cfg pod with
  | .error err => return .error err
  | .ok dir =>
  match ← readKnob dir "cgroup.freeze" with
  | .error err => return .error err
  | .ok current =>
      if current ≠ "0" ∧ current ≠ "1" then
        return .error (.new s!"guard: invalid live cgroup.freeze {quote current} on {pod.path}")
      else
        match marked with
        | none => return .ok (current = "0")
        | some state =>
            if state.knob ≠ "cgroup.freeze" then return .ok false
            else return .ok (current = state.restore || current = state.suppressed)

/-- The last step of `suppressPod`. -/
def suppressWrite (cfg : Config) (owned : Owned) (pod : Pod) (dir current : String)
    (state : PersistedState) : Node (Option GoError × Owned) := do
  if current = state.suppressed then return (none, owned)
  else if ← ctxErr then return (some canceled, owned)
  else
    match ← writeKnob cfg.layout.root cfg.layout.kubepodsName dir state.knob state.suppressed with
    | some err =>
        reportRejected cfg pod state.knob err
        return (some (err.wrap s!"guard: suppress {pod.path}"), owned)
    | none =>
        idleSuppressed cfg.nodeName pod state.knob
        return (none, owned)

def suppressPod (cfg : Config) (owned : Owned) (pod : Pod) : Node (Option GoError × Owned) := do
  if ← ctxErr then return (some canceled, owned)
  else
    let knob := suppressionKnob
    let desired := suppressedValue
    match podDir cfg pod with
    | .error err => return (some err, owned)
    | .ok dir =>
    match ← readKnob dir knob with
    | .error err => return (some err, owned)
    | .ok current =>
    match stateForPod owned pod with
    | .error err => return (some err, owned)
    | .ok none =>
        if current ≠ "0" then return (none, owned)
        else if current = desired then return (none, owned)
        else
          let state : PersistedState := ⟨guardStateVersion, knob, current, desired⟩
          match validateState state with
          | some err => return (some (err.wrap "guard: refuse to persist unsafe state"), owned)
          | none =>
          match ← setMarker pod state with
          | some err => return (some err, owned)
          | none => suppressWrite cfg (owned.insert pod.uid ⟨pod, state, true⟩) pod dir current state
    | .ok (some state) =>
        if state.knob ≠ knob ∨ (current ≠ state.restore ∧ current ≠ state.suppressed) then
          return (none, owned)
        else suppressWrite cfg owned pod dir current state

/-- The end of `restorePod`: drop the marker and then the in-process record. -/
def relinquish (owned : Owned) (pod : Pod) (state : PersistedState) (changed : Bool) :
    Node (Bool × Option GoError × Owned) := do
  match ← clearMarker pod state with
  | some err => return (changed, some err, forgetConflictedOwnership owned pod err)
  | none => return (changed, none, owned.erase pod.uid)

variable [Qos.ResourceHelper]

def mayRestoreUnbounded (owned : Owned) (pod : Pod) (state : PersistedState) : Bool :=
  if !Qos.hasCPUQuota pod.spec then true
  else
    match owned.lookup pod.uid with
    | some own => own.trusted && own.state = state
    | none => false

/-- Writes the old value back only while the knob still has the recorded one. -/
def restorePod (cfg : Config) (owned : Owned) (pod : Pod) (state : PersistedState) :
    Node (Bool × Option GoError × Owned) := do
  if ← ctxErr then return (false, some canceled, owned)
  else
    match validateState state with
    | some err =>
        return (false, some (err.wrap s!"guard: invalid persisted state on {pod.path}"), owned)
    | none =>
    match podDir cfg pod with
    | .error err => return (false, some err, owned)
    | .ok dir =>
    match ← readKnob dir state.knob with
    | .error err =>
        if err.is .cgroupGone then relinquish owned pod state false
        else return (false, some err, owned)
    | .ok current =>
        if current ≠ state.suppressed then relinquish owned pod state false
        else if state.version = legacyGuardStateVersion ∧ !mayRestoreUnbounded owned pod state then
          return (false, some (.new
            s!"guard: refuse untrusted restore of {pod.path} {state.knob} from {quote current} to unbounded {quote state.restore}: pod spec expects a CPU quota"), owned)
        else if ← ctxErr then return (false, some canceled, owned)
        else
          match ← writeKnob cfg.layout.root cfg.layout.kubepodsName dir state.knob state.restore with
          | some err =>
              reportRejected cfg pod state.knob err
              return (false, some (err.wrap s!"guard: restore {pod.path}"), owned)
          | none =>
              idleRestored cfg.nodeName pod state.knob
              relinquish owned pod state true

/-! ## All pods -/

/-- The loop over `g.owned` at the end of both passes: records of pods not listed. -/
def restoreUnseen (cfg : Config) (seen : List String) :
    List String → Owned → List GoError → Node (List GoError × Owned)
  | [], owned, errs => return (errs, owned)
  | uid :: rest, owned, errs => do
      match owned.lookup uid with
      | none => restoreUnseen cfg seen rest owned errs
      | some own =>
          if uid ∈ seen then restoreUnseen cfg seen rest owned errs
          else
            let (_, err, owned) ← restorePod cfg owned own.pod own.state
            restoreUnseen cfg seen rest owned (errs ++ err.toList)

/-- Walks the map in the order Go happens to take. -/
def restoreLocal (cfg : Config) (seen : List String) (owned : Owned) (errs : List GoError) :
    Node (List GoError × Owned) := do
  let order ← ask (.rangeKeys owned.keys)
  restoreUnseen cfg seen order.val owned errs

def recoverPods (cfg : Config) : List Pod → Owned → List GoError → Node (List GoError × Owned)
  | [], owned, errs => return (errs, owned)
  | pod :: rest, owned, errs => do
      match stateForPod owned pod with
      | .error _ =>
          let err ← clearInvalidMarker pod (pod.annotationAt Annotations.guardStateKey)
          recoverPods cfg rest owned (errs ++ err.toList)
      | .ok none => recoverPods cfg rest owned errs
      | .ok (some state) =>
          let (_, err, owned) ← restorePod cfg owned pod state
          recoverPods cfg rest owned (errs ++ err.toList)

/-- `Recover`; `lister` is `g.lister.List(labels.Everything())`. -/
def recover (cfg : Config) (lister : Node (Except GoError (List Pod))) (owned : Owned) :
    Node (Option GoError × Owned) := do
  match ← lister with
  | .error err => return (some (err.wrap "guard: recover: list pods"), owned)
  | .ok pods =>
      let (errs, owned) ← recoverPods cfg pods owned []
      let (errs, owned) ← restoreLocal cfg (pods.map Pod.uid) owned errs
      return (GoError.join errs, owned)

/-- What the first loop of `converge` accumulates. -/
structure Pass where
  owned : Owned
  eligible : List Pod
  restoredThisPass : List String
  errs : List GoError

/-- Eligibility of one pod, and the error to report if it could not be told. -/
def eligibility (cfg : Config) (hot : Bool) (candidateUIDs : List String) (pod : Pod)
    (marked : Option PersistedState) : Node (Bool × List GoError) := do
  if hot ∧ pod.uid ∈ candidateUIDs ∧ (∀ state ∈ marked, state.knob = suppressionKnob) then
    match ← actualFreezeAllowsSuppression cfg pod marked with
    | .ok isEligible => return (isEligible, [])
    | .error err =>
        if marked.isNone ∧ !err.is .cgroupGone then return (false, [err]) else return (false, [])
  else return (false, [])

/-- One round of the first loop of `converge`. -/
def convergePod (cfg : Config) (hot : Bool) (candidateUIDs : List String) (pod : Pod) (pass : Pass) :
    Node Pass := do
  match stateForPod pass.owned pod with
  | .error _ =>
      let err ← clearInvalidMarker pod (pod.annotationAt Annotations.guardStateKey)
      return { pass with errs := pass.errs ++ err.toList }
  | .ok marked =>
      let (isEligible, errs) ← eligibility cfg hot candidateUIDs pod marked
      let pass := { pass with errs := pass.errs ++ errs }
      match marked with
      | none =>
          if isEligible then return { pass with eligible := pass.eligible ++ [pod] }
          else return pass
      | some state =>
          if !hot ∨ !isEligible ∨ state.knob ≠ suppressionKnob then
            let (_, err, owned) ← restorePod cfg pass.owned pod state
            return { pass with
              owned
              restoredThisPass := pod.uid :: pass.restoredThisPass
              errs := pass.errs ++ err.toList }
          else if isEligible then return { pass with eligible := pass.eligible ++ [pod] }
          else return pass

def convergePods (cfg : Config) (hot : Bool) (candidateUIDs : List String) :
    List Pod → Pass → Node Pass
  | [], pass => return pass
  | pod :: rest, pass => do
      let pass ← convergePod cfg hot candidateUIDs pod pass
      convergePods cfg hot candidateUIDs rest pass

/-- The second loop of `converge`. -/
def suppressPods (cfg : Config) (restoredThisPass : List String) :
    List Pod → Owned → List GoError → Node (List GoError × Owned)
  | [], owned, errs => return (errs, owned)
  | pod :: rest, owned, errs => do
      if pod.uid ∈ restoredThisPass then suppressPods cfg restoredThisPass rest owned errs
      else
        let (err, owned) ← suppressPod cfg owned pod
        suppressPods cfg restoredThisPass rest owned (errs ++ err.toList)

def converge (cfg : Config) (owned : Owned) (hot : Bool) (allPods candidates : List Pod) :
    Node (Option GoError × Owned) := do
  let pass ← convergePods cfg hot (candidates.map Pod.uid) allPods ⟨owned, [], [], []⟩
  let suppressed : Node (List GoError × Owned) :=
    if hot then suppressPods cfg pass.restoredThisPass pass.eligible pass.owned pass.errs
    else return (pass.errs, pass.owned)
  let (errs, owned) ← suppressed
  let (errs, owned) ← restoreLocal cfg (allPods.map Pod.uid) owned errs
  return (GoError.join errs, owned)

end

end CpuIdle.Guard
