/-
# Agent.Degraded — a node that cannot do what pods ask for

`runDegraded` drives a node whose environment gate failed. There is no applier on this
path: each pod that asks for a tier is told once that it cannot have one, and each
unknown tier value is reported.
-/
import CpuIdle.Agent.Reconciler

namespace CpuIdle.Agent

open CpuIdle.Go CpuIdle.Kube CpuIdle.Node CpuIdle.Theory CpuIdle.Observe

set_option autoImplicit false

/-- What `runDegraded` remembers: the signature last seen of a UID, and the UID of a key. -/
structure Degraded where
  notified : Finmap fun _ : String => String
  uidsByKey : Finmap fun _ : String => String

namespace Degraded

def new : Degraded := ⟨∅, ∅⟩

/-- The pod is gone from the cache. -/
def forget (state : Degraded) (key : String) : Degraded :=
  match state.uidsByKey.lookup key with
  | some uid => ⟨state.notified.erase uid, state.uidsByKey.erase key⟩
  | none => state

/-- The cache holds this UID under the key. -/
def identify (state : Degraded) (key uid : String) : Degraded :=
  let notified :=
    match state.uidsByKey.lookup key with
    | some previousUID => if previousUID ≠ uid then state.notified.erase previousUID else state.notified
    | none => state.notified
  ⟨notified, state.uidsByKey.insert key uid⟩

def notify (state : Degraded) (uid signature : String) : Degraded :=
  { state with
    notified := if signature = "" then state.notified.erase uid else state.notified.insert uid signature }

variable (state : Degraded) (key uid signature : String)

theorem forget_uidsByKey (key' : String) : (state.forget key).uidsByKey.lookup key' =
    if key = key' then none else state.uidsByKey.lookup key' := by
  unfold forget
  cases held : state.uidsByKey.lookup key with
  | none =>
      split_ifs with same
      · rw [← same, held]
      · rfl
  | some uid =>
      split_ifs with same
      · rw [← same, Finmap.lookup_erase]
      · exact Finmap.lookup_erase_ne (Ne.symm same)

theorem forget_notified : (state.forget key).notified.lookup uid =
    if state.uidsByKey.lookup key = some uid then none else state.notified.lookup uid := by
  unfold forget
  cases held : state.uidsByKey.lookup key with
  | none => simp
  | some previousUID =>
      split_ifs with same
      · rw [← Option.some.inj same, Finmap.lookup_erase]
      · refine Finmap.lookup_erase_ne fun same' => same ?_
        rw [same']

theorem identify_uidsByKey (key' : String) : (state.identify key uid).uidsByKey.lookup key' =
    if key = key' then some uid else state.uidsByKey.lookup key' := by
  show (state.uidsByKey.insert key uid).lookup key' = _
  split_ifs with same
  · rw [← same, Finmap.lookup_insert]
  · rw [Finmap.lookup_insert_of_ne _ (Ne.symm same)]

theorem identify_notified (uid' : String) : (state.identify key uid).notified.lookup uid' =
    if uid ≠ uid' ∧ state.uidsByKey.lookup key = some uid' then none else state.notified.lookup uid' := by
  unfold identify
  cases held : state.uidsByKey.lookup key with
  | none => simp
  | some previousUID =>
      simp only [Option.some.injEq]
      by_cases replaced : previousUID ≠ uid
      · rw [if_pos replaced]
        split_ifs with same
        · rw [same.2, Finmap.lookup_erase]
        · refine Finmap.lookup_erase_ne fun same' => same ⟨?_, same'.symm⟩
          rw [same']
          exact Ne.symm replaced
      · rw [if_neg replaced, if_neg]
        rintro ⟨other, rfl⟩
        exact replaced (Ne.symm other)

theorem notify_notified (uid' : String) : (state.notify uid signature).notified.lookup uid' =
    if uid = uid' then (if signature = "" then none else some signature)
    else state.notified.lookup uid' := by
  show Finmap.lookup uid' (if signature = "" then _ else _) = _
  split_ifs with empty same same
  · rw [← same, Finmap.lookup_erase]
  · exact Finmap.lookup_erase_ne (Ne.symm same)
  · rw [← same, Finmap.lookup_insert]
  · exact Finmap.lookup_insert_of_ne _ (Ne.symm same)

end Degraded

def unsupportedMessage (node : String) : String :=
  s!"node {node} does not support cpu-idle-operator cgroup controls; tier annotations on this pod cannot take effect"

/-- `EventRecorder.EnvironmentUnsupported`. -/
def environmentUnsupported (node : String) (pod : Pod) : Node Unit :=
  ask (.event (podEvent pod eventTypeWarning "EnvironmentUnsupported" (unsupportedMessage node)))

/-- The loop over the notes: only an unknown tier value is told. -/
def reportUnknown (pod : Pod) : List Tier.Note → Node Unit
  | [] => return ()
  | note :: rest => do
      if note.code = Tier.noteUnknownTierValue then
        tierValueUnknown pod note.message
        reportUnknown pod rest
      else reportUnknown pod rest

section

variable [PrintTable] [Qos.ResourceHelper]

/-- The pod asks for a tier. -/
def unsupported (pod : Pod) : Bool :=
  (Tier.desired pod).1.idleRequested || (Tier.desired pod).1.burstRequested

/-- The signature of everything this node has to tell about the pod. -/
def degradedSignature (pod : Pod) : String :=
  noteSignature (Tier.desired pod).2 ++
    if unsupported pod then terminated TierApplyReason.environmentUnsupported else ""

/-- What is told of a pod whose signature is new. -/
def reportDegraded (node : String) (pod : Pod) : Node Unit := do
  reportUnknown pod (Tier.desired pod).2
  if unsupported pod then environmentUnsupported node pod else return ()

/-- The `reconcile` of `runDegraded`. -/
def reconcileDegraded (node : String) (state : Degraded) (key : String) :
    Node (Option GoError × Degraded) := do
  match splitMetaNamespaceKey key with
  | .error err => return (some (err.wrap s!"agent: degraded: split key {quote key}"), state)
  | .ok (ns, name) =>
  match ← ask (.getCache ns name) with
  | .notFound => return (none, state.forget key)
  | .failed err => return (some (err.err.wrap s!"agent: degraded: get pod {key}"), state)
  | .found pod =>
      let state := state.identify key pod.uid
      let signature := degradedSignature pod
      let previous := state.notified.lookup pod.uid
      let state := state.notify pod.uid signature
      if signature = "" ∨ previous = some signature then return (none, state)
      else
        reportDegraded node pod
        return (none, state)

end

end CpuIdle.Agent
