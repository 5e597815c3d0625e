/-
# Qos.Class — the QoS class, the quota prediction and the weight of a pod

All three are functions of the spec alone. The two functions the agent takes from
`component-helpers` are the class `ResourceHelper`.

* `classOf`, `hasCPUQuota`: kubelet's QoS class and whether it sets a finite `cpu.max`;
* `restoreWeight`: kubelet's shares-to-weight formula, in 64-bit arithmetic;
* `restoreWeight_range`: the result is a weight the kernel takes.
-/
import CpuIdle.Go.Text
import CpuIdle.Kube.Pod
import CpuIdle.Cgroup.Path

namespace CpuIdle.Qos

open CpuIdle.Go CpuIdle.Kube

set_option autoImplicit false

/-- `resourcehelper` of the API machinery. -/
class ResourceHelper where
  /-- `PodRequests(pod, {}).Cpu().MilliValue()`. -/
  podRequestsMilliCPU : PodSpec → Int64
  isPodLevelResourcesSet : PodSpec → Bool

/-- What the helper computes of a pod that has regular containers only. -/
@[reducible] def containerRequests : ResourceHelper where
  podRequestsMilliCPU spec :=
    .ofInt ((spec.containers.foldl (fun total c => total + c.resources.requests.get .cpu) 0 + 999999) /
      1000000)
  isPodLevelResourcesSet spec :=
    match spec.resources with
    | none => false
    | some own => own.requests.cpu.isSome || own.requests.memory.isSome || own.limits.cpu.isSome ||
        own.limits.memory.isSome

inductive Class where
  | guaranteed
  | burstable
  | bestEffort
  deriving DecidableEq

def Class.name : Class → String
  | .guaranteed => "Guaranteed"
  | .burstable => "Burstable"
  | .bestEffort => "BestEffort"

def toCgroupClass : Class → Cgroup.QoSClass
  | .guaranteed => .guaranteed
  | .burstable => .burstable
  | .bestEffort => .bestEffort

def supportedResources : List ResourceName := [.cpu, .memory]

/-- The loop of `requirementsClass`; `none` is Go's empty class. -/
def requirementsLoop (resources : ResourceRequirements) :
    List ResourceName → Option Class → Option Class
  | [], «class» => «class»
  | name :: rest, «class» =>
      let request := resources.requests.get name
      let limit := resources.limits.get name
      let resourceClass :=
        if request ≠ limit then Class.burstable
        else if request = 0 then Class.bestEffort
        else Class.guaranteed
      if resourceClass = .burstable then some .burstable
      else
        match «class» with
        | none => requirementsLoop resources rest (some resourceClass)
        | some previous =>
            if previous ≠ resourceClass then some .burstable
            else requirementsLoop resources rest (some previous)

def requirementsClass (resources : ResourceRequirements) : Option Class :=
  requirementsLoop resources supportedResources none

/-- The loop of `classOf` over regular and init containers. -/
def containersLoop : List Container → Option Class → Option Class
  | [], «class» => «class»
  | container :: rest, «class» =>
      let containerClass := requirementsClass container.resources
      if containerClass = some .burstable then some .burstable
      else
        match «class» with
        | none => containersLoop rest containerClass
        | some previous =>
            if some previous ≠ containerClass then some .burstable
            else containersLoop rest (some previous)

def classOf (spec : PodSpec) : Class :=
  match spec.resources with
  | some resources => (requirementsClass resources).getD .bestEffort
  | none => (containersLoop (spec.containers ++ spec.initContainers) none).getD .bestEffort

section

variable [ResourceHelper]

/-- Does kubelet give the pod a finite `cpu.max`? -/
def hasCPUQuota (spec : PodSpec) : Bool :=
  if classOf spec = .bestEffort then false
  else if ResourceHelper.isPodLevelResourcesSet spec &&
      decide (0 < (spec.resources.map fun r => r.limits.get .cpu).getD 0) then true
  else
    spec.containers.all (fun c => decide (0 < c.resources.limits.get .cpu)) &&
      spec.initContainers.all (fun c => decide (0 < c.resources.limits.get .cpu))

def minShares : Int64 := 2

def maxShares : Int64 := 262144

def weightNumerator : Int64 := 9999

def weightDenominator : Int64 := 262142

/-- The `cpu.weight` kubelet assigns to the pod. -/
def restoreWeight (spec : PodSpec) : Nat :=
  if classOf spec = .bestEffort then 1
  else
    let milliCPU := ResourceHelper.podRequestsMilliCPU spec
    let shares := milliCPU * 1024 / 1000
    let shares := if shares < minShares then minShares else shares
    let shares := if shares > maxShares then maxShares else shares
    (1 + (shares - minShares) * weightNumerator / weightDenominator).toUInt64.toNat

omit [ResourceHelper] in
theorem weight_bounds {shares : Int64} (low : 2 ≤ shares.toInt) (high : shares.toInt ≤ 262144) :
    (1 + (shares - minShares) * weightNumerator / weightDenominator).toInt =
      1 + (shares.toInt - 2) * 9999 / 262142 := by
  have offset : (shares - minShares).toInt = shares.toInt - 2 := by
    rw [Int64.toInt_sub]
    exact Int.bmod_eq_of_le (by change _ ≤ shares.toInt - 2; omega) (by change shares.toInt - 2 < _; omega)
  have product : ((shares - minShares) * weightNumerator).toInt = (shares.toInt - 2) * 9999 := by
    rw [Int64.toInt_mul, offset]
    exact Int.bmod_eq_of_le (by change _ ≤ (shares.toInt - 2) * 9999; omega)
      (by change (shares.toInt - 2) * 9999 < _; omega)
  have quotient : ((shares - minShares) * weightNumerator / weightDenominator).toInt =
      (shares.toInt - 2) * 9999 / 262142 := by
    rw [Int64.toInt_div, product]
    have : weightDenominator.toInt = 262142 := by decide
    rw [this, Int.tdiv_eq_ediv_of_nonneg (by omega)]
    exact Int.bmod_eq_of_le (by omega) (by omega)
  rw [Int64.toInt_add, quotient]
  exact Int.bmod_eq_of_le (by change _ ≤ 1 + _; omega) (by change 1 + _ < _; omega)

/-- The restored weight is one the kernel accepts. -/
theorem restoreWeight_range (spec : PodSpec) : 1 ≤ restoreWeight spec ∧ restoreWeight spec ≤ 10000 := by
  unfold restoreWeight
  split
  · omega
  · dsimp only
    generalize ResourceHelper.podRequestsMilliCPU spec * 1024 / 1000 = shares
    have clamped : ∀ clamped : Int64, clamped =
        (if (if shares < minShares then minShares else shares) > maxShares then maxShares
          else if shares < minShares then minShares else shares) →
        2 ≤ clamped.toInt ∧ clamped.toInt ≤ 262144 := by
      rintro _ rfl
      have two : minShares.toInt = 2 := by decide
      have top : maxShares.toInt = 262144 := by decide
      simp only [GT.gt, Int64.lt_iff_toInt_lt]
      split <;> split <;> rename_i below above
      · rw [top]
        omega
      · rw [two]
        omega
      · rw [top]
        omega
      · rw [two] at below
        rw [top] at above
        omega
    obtain ⟨low, high⟩ := clamped _ rfl
    have value := weight_bounds low high
    rw [Int64.toNat_toUInt64_of_le, ← Int64.toNat_toInt, value]
    · omega
    · rw [Int64.le_iff_toInt_le, value]
      change (0 : Int) ≤ _
      omega

end

end CpuIdle.Qos
