/-
# Node.Signature — everything the agent asks of the node, the API server and its caches

Each request is one atomic step of the outside world: one system call, one API
call, one read of an informer cache, one metric or Event. A write of a control file
is one step with five outcomes, because `open`, `write` and `close` of a cgroup knob
act on the kernel once. The order in which Go walks a map is also an answer: any
enumeration of the keys.
-/
import CpuIdle.Go.Text
import CpuIdle.Kube.Pod
import CpuIdle.Cgroup.Path
import CpuIdle.Theory.Program
import Mathlib.Data.Finset.Basic
import Mathlib.Data.Prod.Lex
import Mathlib.Data.List.Sort
import Mathlib.Data.String.Basic

namespace CpuIdle

set_option autoImplicit false

namespace Node

open CpuIdle.Go CpuIdle.Kube CpuIdle.Theory

/-- An error of the operating system other than "does not exist". -/
structure OsError where
  text : String
  einval : Bool
  deriving DecidableEq, Repr

def OsError.err (e : OsError) : GoError := ⟨e.text, if e.einval then [.einval] else []⟩

inductive ReadResult where
  | data (content : String)
  | notExist
  | failed (err : OsError)
  deriving DecidableEq, Repr

inductive StatResult where
  | directory
  | notDirectory
  | notExist
  | failed (err : OsError)
  deriving DecidableEq, Repr

/-- `closeFailed` also covers a failed write whose descriptor then fails to close. -/
inductive WriteResult where
  | written
  | notExist
  | openFailed (err : OsError)
  | closeFailed (err : OsError)
  | writeFailed (err : OsError)
  deriving DecidableEq, Repr

/-- An API error other than NotFound. -/
structure ApiError where
  text : String
  canceled : Bool
  deriving DecidableEq, Repr

def ApiError.err (e : ApiError) : GoError := ⟨e.text, if e.canceled then [.canceled] else []⟩

inductive GetResult where
  | found (pod : Pod)
  | notFound
  | failed (err : ApiError)

inductive PatchResult where
  | patched
  | notFound
  | failed (err : ApiError)
  deriving DecidableEq, Repr

/-- The merge patch of the guard: `guardState = none` is JSON `null`. -/
structure MarkerPatch where
  uid : String
  guardState : Option String
  resourceVersion : Option String
  deriving DecidableEq, Repr

/-- One `cpu_pods_in_tier` series of this node. -/
structure TierLabel where
  ns : String
  qosClass : String
  tier : String
  deriving DecidableEq, Repr

def TierLabel.fields (label : TierLabel) : String ×ₗ String ×ₗ String :=
  toLex (label.ns, toLex (label.qosClass, label.tier))

theorem TierLabel.fields_injective : Function.Injective TierLabel.fields := by
  rintro ⟨ns, qosClass, tier⟩ ⟨ns', qosClass', tier'⟩ same
  simpa [TierLabel.fields] using same

instance : LinearOrder TierLabel := .lift' TierLabel.fields TierLabel.fields_injective

inductive Counter where
  | tierApplyTotal (node ns qosClass result reason : String)
  | resyncDriftTotal (node ns qosClass : String)
  deriving DecidableEq, Repr

structure Event where
  ns : String
  name : String
  uid : String
  eventType : String
  reason : String
  message : String
  deriving DecidableEq, Repr

/-- What the environment gate reports. -/
inductive GateResult where
  | ready (driver : Cgroup.Driver)
  | notReady (reason : String)
  | failed (err : OsError)
  deriving DecidableEq, Repr

inductive Request where
  | ctxErr
  | readFile (dir name : String)
  | stat (path : String)
  | writeFile (dir name value : String)
  | getPod (ns name : String)
  | patchPod (ns name : String) (patch : MarkerPatch)
  | listNodePods (nodeName : String)
  | listCache
  | getCache (ns name : String)
  | rangeKeys (keys : Finset String)
  | rangeLabels (keys : Finset TierLabel)
  | inc (counter : Counter)
  | setPodsInTier (node : String) (label : TierLabel) (count : Int)
  | deletePodsInTier (node : String) (label : TierLabel)
  | event (e : Event)
  | now
  | numCPU
  | reportHealth (healthy : Bool)
  | gateCheck (root kubepodsName : String)
  | flushTable (lines : List String)
  deriving DecidableEq

/-- Walking a map: every key once, in any order. -/
abbrev Walk {κ : Type} [DecidableEq κ] (keys : Finset κ) : Type :=
  { order : List κ // order.Nodup ∧ order.toFinset = keys }

/-- Walks a map in increasing order of its keys. -/
def sortedWalk {κ : Type} [LinearOrder κ] [DecidableEq κ] (keys : Finset κ) : Walk keys :=
  ⟨Quot.lift (List.insertionSort (· ≤ ·)) (fun _ _ perm =>
      (List.perm_insertionSort _ _ |>.trans perm |>.trans (List.perm_insertionSort _ _).symm).eq_of_pairwise'
        (List.pairwise_insertionSort _ _) (List.pairwise_insertionSort _ _)) keys.val, by
    obtain ⟨⟨values⟩, nodup⟩ := keys
    have perm := List.perm_insertionSort (· ≤ ·) values
    refine ⟨perm.nodup_iff.mpr nodup, ?_⟩
    ext key
    simp [Finset.mem_def, perm.mem_iff]⟩

def Answer : Request → Type
  | .ctxErr => Bool
  | .readFile _ _ => ReadResult
  | .stat _ => StatResult
  | .writeFile _ _ _ => WriteResult
  | .getPod _ _ => GetResult
  | .patchPod _ _ _ => PatchResult
  | .listNodePods _ => Except ApiError (List Pod)
  | .listCache => Except GoError (List Pod)
  | .getCache _ _ => GetResult
  | .rangeKeys keys => Walk keys
  | .rangeLabels keys => Walk keys
  | .now => Int
  | .numCPU => Int
  | .gateCheck _ _ => GateResult
  | .flushTable _ => Option OsError
  | .inc _ => Unit
  | .setPodsInTier _ _ _ => Unit
  | .deletePodsInTier _ _ => Unit
  | .event _ => Unit
  | .reportHealth _ => Unit

end Node

/-- The signature the agent's programs are written over. -/
abbrev nodeSignature : Theory.Signature := ⟨Node.Request, Node.Answer⟩

/-- A program of the agent. -/
abbrev Node (α : Type) : Type := Theory.Program nodeSignature α

namespace Node

open CpuIdle.Go CpuIdle.Theory

def ask (r : Request) : Node (Answer r) := Program.request (S := nodeSignature) r

/-- `ctx.Err() != nil`. -/
def ctxErr : Node Bool := ask .ctxErr

/-- `ctx.Err()` of a cancelled context. -/
def canceled : GoError := ⟨"context canceled", [.canceled]⟩

/-- An operating-system error is never one of the agent's own sentinels. -/
@[simp] theorem osError_is (err : OsError) (sentinel : Sentinel) :
    err.err.is sentinel = (err.einval && decide (sentinel = .einval)) := by
  cases err with
  | mk text einval => cases einval <;> cases sentinel <;> rfl

/-- Nor is an API error. -/
@[simp] theorem apiError_is (err : ApiError) (sentinel : Sentinel) :
    err.err.is sentinel = (err.canceled && decide (sentinel = .canceled)) := by
  cases err with
  | mk text canceled => cases canceled <;> cases sentinel <;> rfl

end Node

end CpuIdle
