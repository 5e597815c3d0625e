/-
# Cgroup.Path — where a pod's cgroup v2 directory is

`podCgroupPath` and its two branches, translated as they compute: the systemd
branch builds a slice name, expands it and the kubepods slice with the same
progressive-prefix loop, and strips the outer part of the second from the first.
-/
import CpuIdle.Go.Path

namespace CpuIdle.Cgroup

open CpuIdle.Go

set_option autoImplicit false

/-- The cgroup driver kubelet names pod cgroups with. -/
inductive Driver where
  | systemd
  | cgroupfs
  deriving DecidableEq, Repr

inductive QoSClass where
  | guaranteed
  | burstable
  | bestEffort
  deriving DecidableEq, Repr

def QoSClass.name : QoSClass → String
  | .guaranteed => "guaranteed"
  | .burstable => "burstable"
  | .bestEffort => "besteffort"

def sliceSuffix : String := ".slice"

/-- The loop of `expandSystemdSlice`: each component is prefixed by all before it. -/
def expandComponents : List String → String → String → Option String
  | [], expanded, _ => some expanded
  | component :: rest, expanded, pre =>
      if component = "" then none
      else expandComponents rest (expanded ++ "/" ++ pre ++ component ++ sliceSuffix)
        (pre ++ component ++ "-")

section

variable [PrintTable]

/-- systemd's dash-separated slice hierarchy. -/
def expandSystemdSlice (slice : String) : Except GoError String :=
  let invalid := GoError.new s!"invalid slice name {quote slice}"
  if !hasSuffix slice sliceSuffix || contains slice '/' then .error invalid
  else
    let name := trimSuffix slice sliceSuffix
    if name = "-" then .ok "/"
    else
      match expandComponents (split name '-') "" "" with
      | none => .error invalid
      | some expanded => .ok expanded

def podSliceName (kubepodsName : String) (qos : QoSClass) (podUID : String) : String :=
  let podName := "pod" ++ replaceAll podUID '-' '_'
  if qos = .guaranteed then kubepodsName ++ "-" ++ podName ++ sliceSuffix
  else kubepodsName ++ "-" ++ qos.name ++ "-" ++ podName ++ sliceSuffix

/-- The nested slice path of a pod. `root` already names the directory the outer
slices of `kubepodsName` live under, so their expansion is stripped once. -/
def systemdPodCgroupPath (root kubepodsName : String) (qos : QoSClass) (podUID : String) :
    Except GoError String :=
  let sliceName := podSliceName kubepodsName qos podUID
  match expandSystemdSlice sliceName with
  | .error err => .error (err.wrap s!"cgroup: expand slice {quote sliceName}")
  | .ok expanded =>
  match expandSystemdSlice (kubepodsName ++ sliceSuffix) with
  | .error err => .error (err.wrap s!"cgroup: expand slice {quote (kubepodsName ++ sliceSuffix)}")
  | .ok kubepodsExpanded =>
  let outerPrefix := Path.dir kubepodsExpanded
  if outerPrefix ≠ "/" then
    let trimmed := trimPrefix expanded outerPrefix
    if trimmed = expanded then
      .error (.new
        s!"cgroup: expanded slice {quote expanded} does not share outer prefix {quote outerPrefix}")
    else .ok (Path.join [root, trimmed])
  else .ok (Path.join [root, expanded])

/-- The flat cgroupfs path; UID dashes are kept. -/
def cgroupfsPodCgroupPath (root kubepodsName : String) (qos : QoSClass) (podUID : String) : String :=
  let podDir := "pod" ++ podUID
  if qos = .guaranteed then Path.join [root, kubepodsName, podDir]
  else Path.join [root, kubepodsName, qos.name, podDir]

def podCgroupPath (root kubepodsName : String) (driver : Driver) (qos : QoSClass) (podUID : String) :
    Except GoError String :=
  if podUID = "" then .error (.new "cgroup: empty pod UID")
  else if kubepodsName = "" then .error (.new "cgroup: empty kubepods name")
  else
    match driver with
    | .systemd => systemdPodCgroupPath root kubepodsName qos podUID
    | .cgroupfs => .ok (cgroupfsPodCgroupPath root kubepodsName qos podUID)

end

end CpuIdle.Cgroup
