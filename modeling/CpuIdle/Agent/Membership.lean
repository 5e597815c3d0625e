/-
# Agent.Membership — which pods are in which tier, and the gauge that shows it

The Reconciler's bookkeeping: memberships by UID, UIDs by key, counts by label, the
notices last reported and the applier's journal. Every edit of the counts ends in
`publishTierCounts`, which brings the exported series of the labels it touched in line.
-/
import CpuIdle.Apply.Applier
import Mathlib.Data.Finmap

namespace CpuIdle.Agent

open CpuIdle.Go CpuIdle.Kube CpuIdle.Node CpuIdle.Theory CpuIdle.Apply

set_option autoImplicit false

/-- `podTierMembership`. -/
structure Membership where
  key : String
  tiers : List TierLabel
  deriving DecidableEq

/-- `podsInTierCounts`; the source counts in floats. -/
abbrev Counts := Finmap fun _ : TierLabel => Int

/-- What the Reconciler remembers, with the journal of its applier. -/
structure State where
  metricsInitialized : Bool
  podMemberships : Finmap fun _ : String => Membership
  podUIDByKey : Finmap fun _ : String => String
  podsInTierCounts : Counts
  lastNotes : Finmap fun _ : String => String
  pending : Pending

/-- A new Reconciler with a new applier. -/
def State.new : State := ⟨false, ∅, ∅, ∅, ∅, ∅⟩

/-- `cache.MetaNamespaceKeyFunc`. -/
def metaNamespaceKey (pod : Pod) : String :=
  if pod.ns ≠ "" then pod.ns ++ "/" ++ pod.name else pod.name

/-- The labels of the tiers the cgroup is in. -/
def tiersOf (pod : Pod) (snapshot : Snapshot) : List TierLabel :=
  let qosClass := (Qos.classOf pod.spec).name
  (if snapshot.idleActive then [⟨pod.ns, qosClass, "idle"⟩] else []) ++
    if snapshot.hasQuota && decide (snapshot.burst > 0) then [⟨pod.ns, qosClass, "burst"⟩] else []

/-! ## The counts -/

def countLabel (delta : Int) (counts : Counts) (label : TierLabel) : Counts :=
  counts.insert label ((counts.lookup label).getD 0 + delta)

def countLabels (delta : Int) (labels : List TierLabel) (counts : Counts) : Counts :=
  labels.foldl (countLabel delta) counts

/-- The loop of `publishTierCounts`. -/
def publishLabels (node : String) : List TierLabel → Counts → Node Counts
  | [], counts => return counts
  | label :: rest, counts => do
      let count := (counts.lookup label).getD 0
      if count ≤ 0 then
        ask (.deletePodsInTier node label)
        publishLabels node rest (counts.erase label)
      else
        ask (.setPodsInTier node label count)
        publishLabels node rest counts

def publishTierCounts (node : String) (touched : Finset TierLabel) (counts : Counts) : Node Counts := do
  let order ← ask (.rangeLabels touched)
  publishLabels node order.val counts

/-! ## The edits -/

/-- `forgetApplierPodState`. -/
def State.forgetApplierPodState (state : State) (uid : String) : State :=
  { state with pending := state.pending.erase uid }

def State.forgetNotes (state : State) (uid : String) : State :=
  { state with lastNotes := state.lastNotes.erase uid }

def replacePodMembership (node : String) (state : State) (uid : String) (next : Membership) :
    Node State := do
  let previous := state.podMemberships.lookup uid
  let previousTiers := (previous.map Membership.tiers).getD []
  let podUIDByKey :=
    match previous with
    | some previous =>
        if previous.key ≠ next.key then state.podUIDByKey.erase previous.key else state.podUIDByKey
    | none => state.podUIDByKey
  let counts ← publishTierCounts node (previousTiers ++ next.tiers).toFinset
    (countLabels 1 next.tiers (countLabels (-1) previousTiers state.podsInTierCounts))
  return { state with
    podMemberships := state.podMemberships.insert uid next
    podUIDByKey := podUIDByKey.insert next.key uid
    podsInTierCounts := counts }

def removePod (node : String) (state : State) (uid : String) : Node State := do
  match state.podMemberships.lookup uid with
  | none => return state
  | some membership =>
      let counts ← publishTierCounts node membership.tiers.toFinset
        (countLabels (-1) membership.tiers state.podsInTierCounts)
      return { state with
        podMemberships := state.podMemberships.erase uid
        podUIDByKey := state.podUIDByKey.erase membership.key
        podsInTierCounts := counts }

def removePodByKey (node : String) (state : State) (key : String) : Node State := do
  match state.podUIDByKey.lookup key with
  | none => return state
  | some uid =>
      let state ← removePod node (state.forgetApplierPodState uid) uid
      return { state.forgetNotes uid with podUIDByKey := state.podUIDByKey.erase key }

/-- The part of `observePodIdentity` about a pod that was replaced under its name. -/
def dropReplaced (node : String) (state : State) (key uid : String) : Node State := do
  match state.podUIDByKey.lookup key with
  | none => return state
  | some previousUID =>
      if previousUID ≠ uid then
        let state ← removePod node (state.forgetApplierPodState previousUID) previousUID
        return state.forgetNotes previousUID
      else return state

def observePodIdentity (node : String) (state : State) (key uid : String) : Node State := do
  let state ← dropReplaced node state key uid
  return { state with
    podUIDByKey := state.podUIDByKey.insert key uid
    podMemberships :=
      if uid ∈ state.podMemberships then state.podMemberships
      else state.podMemberships.insert uid ⟨key, []⟩ }

def setPodActual (node : String) (state : State) (key : String) (pod : Pod) (snapshot : Snapshot) :
    Node State := do
  let state ← observePodIdentity node state key pod.uid
  replacePodMembership node state pod.uid ⟨key, tiersOf pod snapshot⟩

/-! ## The full refresh -/

def isMirrorPod (pod : Pod) : Bool := (pod.annotations Annotations.mirrorPodKey).isSome

def runningPodNeedsCgroup (pod : Pod) : Bool := pod.phase = podRunning && !pod.terminating

/-- What the loop of `refreshPodsInTier` accumulates. -/
structure Refresh where
  counts : Counts
  memberships : Finmap fun _ : String => Membership
  uidsByKey : Finmap fun _ : String => String
  refreshErrs : List GoError
  currentPodUIDs : List String

def Refresh.start : Refresh := ⟨∅, ∅, ∅, [], []⟩

/-- Stores the membership of `uid` and counts its labels. -/
def Refresh.store (acc : Refresh) (uid key : String) (tiers : List TierLabel) : Refresh :=
  { acc with
    counts := countLabels 1 tiers acc.counts
    memberships := acc.memberships.insert uid ⟨key, tiers⟩ }

/-- `preserveLastKnownMembership`: the tiers last confirmed for this UID. -/
def lastKnownTiers (state : State) (uid : String) : List TierLabel :=
  ((state.podMemberships.lookup uid).map Membership.tiers).getD []

section

variable [PrintTable]

def refreshPod (cfg : Config) (state : State) (pod : Pod) (acc : Refresh) : Node Refresh := do
  if isMirrorPod pod then return acc
  else
    let podKey := metaNamespaceKey pod
    let acc := { acc with
      currentPodUIDs := pod.uid :: acc.currentPodUIDs
      uidsByKey := acc.uidsByKey.insert podKey pod.uid }
    match cfg.layout.podDir (Qos.toCgroupClass (Qos.classOf pod.spec)) pod.uid with
    | .error err =>
        return { acc with refreshErrs := acc.refreshErrs ++ [err.wrap s!"pod {pod.path} path"] }.store
          pod.uid podKey (lastKnownTiers state pod.uid)
    | .ok dir =>
    match ← readSnapshot dir with
    | .error err =>
        if !err.is .cgroupGone || runningPodNeedsCgroup pod then
          return { acc with
            refreshErrs := acc.refreshErrs ++ [err.wrap s!"pod {pod.path} snapshot"] }.store
              pod.uid podKey (lastKnownTiers state pod.uid)
        else return acc.store pod.uid podKey []
    | .ok snapshot => return acc.store pod.uid podKey (tiersOf pod snapshot)

def refreshPods (cfg : Config) (state : State) : List Pod → Refresh → Node Refresh
  | [], acc => return acc
  | pod :: rest, acc => do
      let acc ← refreshPod cfg state pod acc
      refreshPods cfg state rest acc

end

def setAll (node : String) (counts : Counts) : List TierLabel → Node Unit
  | [] => return ()
  | label :: rest => do
      ask (.setPodsInTier node label ((counts.lookup label).getD 0))
      setAll node counts rest

def deleteStale (node : String) (counts : Counts) : List TierLabel → Node Unit
  | [] => return ()
  | label :: rest =>
      if label ∈ counts then deleteStale node counts rest
      else do
        ask (.deletePodsInTier node label)
        deleteStale node counts rest

/-- Drops the journal entries of pods that have left the cache. -/
def forgetGone (current : List String) : List String → Pending → Pending
  | [], pending => pending
  | uid :: rest, pending =>
      forgetGone current rest (if uid ∈ current then pending else pending.erase uid)

/-- `pruneNoteState`. -/
def pruneNoteState (current : List String) :
    List String → (Finmap fun _ : String => String) → Finmap fun _ : String => String
  | [], notes => notes
  | uid :: rest, notes =>
      pruneNoteState current rest (if uid ∈ current then notes else notes.erase uid)

section

variable [PrintTable]

def refreshPodsInTier (cfg : Config) (state : State) : Node (Option GoError × State) := do
  match ← ask .listCache with
  | .error err => return (some (err.wrap "agent: refresh pods-in-tier: list pods"), state)
  | .ok pods =>
      let acc ← refreshPods cfg state pods .start
      let current ← ask (.rangeLabels acc.counts.keys)
      setAll cfg.node acc.counts current.val
      let stale ← ask (.rangeLabels state.podsInTierCounts.keys)
      deleteStale cfg.node acc.counts stale.val
      let tracked ← ask (.rangeKeys state.podMemberships.keys)
      let noted ← ask (.rangeKeys state.lastNotes.keys)
      return (GoError.join acc.refreshErrs, {
        metricsInitialized := true
        podMemberships := acc.memberships
        podUIDByKey := acc.uidsByKey
        podsInTierCounts := acc.counts
        lastNotes := pruneNoteState acc.currentPodUIDs noted.val state.lastNotes
        pending := forgetGone acc.currentPodUIDs tracked.val state.pending })

def refreshPodActual (cfg : Config) (state : State) (key : String) (pod : Pod) (dir : String) :
    Node (Option GoError × State) := do
  match ← readSnapshot dir with
  | .error err =>
      if err.is .cgroupGone then
        if runningPodNeedsCgroup pod then
          return (some (err.wrap "agent: refresh pod tier metrics: running pod cgroup missing"), state)
        else
          let state ← setPodActual cfg.node (state.forgetApplierPodState pod.uid) key pod .zero
          return (none, state)
      else return (some (err.wrap "agent: refresh pod tier metrics"), state)
  | .ok snapshot =>
      let state ← setPodActual cfg.node state key pod snapshot
      return (none, state)

end

end CpuIdle.Agent
