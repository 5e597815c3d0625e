/-
# Observe.Recorder — one counter increment and one Event for every outcome

`record` is the single place both happen. The counter's labels are drawn from fixed
vocabularies; a value outside them becomes `other`, while the Event keeps it.
-/
import CpuIdle.Node.Signature
import CpuIdle.Qos.Class

namespace CpuIdle.Observe

open CpuIdle.Kube CpuIdle.Node CpuIdle.Theory

set_option autoImplicit false

/-! ## The vocabularies -/

namespace TierApplyResult

def applied : String := "applied"
def reverted : String := "reverted"
def inactive : String := "inactive"
def rejected : String := "rejected"
def other : String := "other"

end TierApplyResult

namespace TierApplyReason

def ok : String := "ok"
def valueUnknown : String := "value_unknown"
def limitsCPUMissing : String := "limits_cpu_missing"
def cgroupQuotaMissing : String := "cgroup_quota_missing"
def environmentUnsupported : String := "environment_unsupported"
def cgroupGone : String := "cgroup_gone"
def notPodCgroup : String := "not_pod_cgroup"
def einval : String := "einval"
def nodeGuard : String := "node_guard"
def other : String := "other"

end TierApplyReason

def normalizeTierApplyResult (result : String) : String :=
  if result ∈ [TierApplyResult.applied, TierApplyResult.reverted, TierApplyResult.inactive,
      TierApplyResult.rejected] then result
  else TierApplyResult.other

def normalizeTierApplyReason (reason : String) : String :=
  if reason ∈ [TierApplyReason.ok, TierApplyReason.valueUnknown, TierApplyReason.limitsCPUMissing,
      TierApplyReason.cgroupQuotaMissing, TierApplyReason.environmentUnsupported,
      TierApplyReason.cgroupGone, TierApplyReason.notPodCgroup, TierApplyReason.einval,
      TierApplyReason.nodeGuard] then reason
  else TierApplyReason.other

def eventTypeNormal : String := "Normal"

def eventTypeWarning : String := "Warning"

/-! ## Events -/

def podEvent (pod : Pod) (eventType reason message : String) : Event :=
  { ns := pod.ns, name := pod.name, uid := pod.uid, eventType, reason, message }

/-- `EventRecorder.TierValueUnknown`. -/
def tierValueUnknown (pod : Pod) (message : String) : Node Unit :=
  ask (.event (podEvent pod eventTypeNormal "TierValueUnknown" message))

/-- The message every recorded outcome carries. -/
def outcomeMessage (knob result reason : String) : String := s!"{knob}: result={result} reason={reason}"

/-- `Recorder.record`. -/
def record (node : String) (pod : Pod) (knob result reason eventType eventReason : String) :
    Node Unit := do
  ask (.inc (.tierApplyTotal node pod.ns (Qos.classOf pod.spec).name
    (normalizeTierApplyResult result) (normalizeTierApplyReason reason)))
  ask (.event (podEvent pod eventType eventReason (outcomeMessage knob result reason)))

/-! ## The outcomes -/

def applied (node : String) (pod : Pod) (knob result reason : String) : Node Unit :=
  record node pod knob result reason eventTypeNormal "TierApplied"

def reverted (node : String) (pod : Pod) (knob result reason : String) : Node Unit :=
  record node pod knob result reason eventTypeNormal "TierReverted"

def inactive (node : String) (pod : Pod) (knob result reason : String) : Node Unit :=
  record node pod knob result reason eventTypeNormal "TierInactive"

def rejected (node : String) (pod : Pod) (knob result reason : String) : Node Unit :=
  record node pod knob result reason eventTypeWarning "WriteRejected"

def idleSuppressed (node : String) (pod : Pod) (knob : String) : Node Unit :=
  record node pod knob TierApplyResult.applied TierApplyReason.nodeGuard eventTypeNormal
    "IdleSuppressed"

def idleRestored (node : String) (pod : Pod) (knob : String) : Node Unit :=
  record node pod knob TierApplyResult.reverted TierApplyReason.nodeGuard eventTypeNormal
    "IdleRestored"

/-! ## Reporting keeps what is known -/

section

universe u

variable {W : Type u} {A : Arena nodeSignature W} {G : Guarantee nodeSignature W} {P : W → Prop}

/-- Counters and Events keep `P`. -/
structure Silent (A : Arena nodeSignature W) (G : Guarantee nodeSignature W) (P : W → Prop) :
    Prop where
  stable : A.Stable P
  inc : ∀ counter, A.Keeps G P (.inc counter)
  event : ∀ e, A.Keeps G P (.event e)

theorem Silent.record (silent : Silent A G P) (node : String) (pod : Pod)
    (knob result reason eventType eventReason : String) :
    Holds A G P (record node pod knob result reason eventType eventReason) fun _ w => P w :=
  .bind (.keeps silent.stable (silent.inc _)) fun _ => .keeps silent.stable (silent.event _)

end

end CpuIdle.Observe
