/-
# Kube.Pod — the part of a Pod object the agent reads

A `Quantity` counts nano units, the finest grain `resource.Quantity` keeps. Of a
resource list only CPU and memory are ever looked up; of a container only what the
QoS class, the CPU quota prediction and the effective requests depend on.
-/
import Mathlib.Data.List.Basic
import Mathlib.Logic.Function.Basic

namespace CpuIdle.Kube

set_option autoImplicit false

/-- A `resource.Quantity`, in nano units. -/
abbrev Quantity := Int

inductive ResourceName where
  | cpu
  | memory
  deriving DecidableEq, Repr

structure ResourceList where
  cpu : Option Quantity
  memory : Option Quantity
  deriving DecidableEq, Repr

/-- Indexing the Go map: an absent resource is the zero quantity. -/
def ResourceList.get (list : ResourceList) : ResourceName → Quantity
  | .cpu => list.cpu.getD 0
  | .memory => list.memory.getD 0

structure ResourceRequirements where
  requests : ResourceList
  limits : ResourceList
  deriving DecidableEq, Repr

structure Container where
  resources : ResourceRequirements
  /-- Set on restartable init containers. -/
  restartPolicy : Option String
  deriving DecidableEq, Repr

structure PodSpec where
  containers : List Container
  initContainers : List Container
  /-- Pod-level resources; `some` also for an explicitly empty object. -/
  resources : Option ResourceRequirements
  overhead : ResourceList
  deriving DecidableEq, Repr

/-- `corev1.PodRunning`. -/
def podRunning : String := "Running"

structure Pod where
  ns : String
  name : String
  uid : String
  resourceVersion : String
  annotations : String → Option String
  spec : PodSpec
  phase : String
  /-- `DeletionTimestamp != nil`. -/
  terminating : Bool
  qosClass : String

/-- Indexing the annotation map: an absent key is the empty string. -/
def Pod.annotationAt (pod : Pod) (key : String) : String := (pod.annotations key).getD ""

/-- `namespace/name`, as in every message. -/
def Pod.path (pod : Pod) : String := s!"{pod.ns}/{pod.name}"

/-- A Running pod that requests a tenth of a CPU. -/
def samplePod : Pod where
  ns := "default"
  name := "web"
  uid := "5b0c-1"
  resourceVersion := ""
  annotations := fun _ => none
  spec := {
    containers := [{
      resources := { requests := ⟨some 100000000, none⟩, limits := ⟨none, none⟩ }
      restartPolicy := none }]
    initContainers := []
    resources := none
    overhead := ⟨none, none⟩ }
  phase := podRunning
  terminating := false
  qosClass := "Burstable"

end CpuIdle.Kube

namespace CpuIdle.Annotations

/-! ## The annotation keys -/

set_option autoImplicit false

def domainPrefix : String := "cpu.azalio.net/"

def tierKey : String := domainPrefix ++ "tier"

def tierValueIdle : String := "idle"

def burstKey : String := domainPrefix ++ "burst"

/-- The guard's ownership marker. -/
def guardStateKey : String := domainPrefix ++ "guard-state"

/-- `corev1.MirrorPodAnnotationKey`. -/
def mirrorPodKey : String := "kubernetes.io/config.mirror"

end CpuIdle.Annotations
