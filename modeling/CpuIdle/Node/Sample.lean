/-
# Node.Sample — a node on which nothing is to be found

The handler the sample runs start from: no file, no pod, no cancellation. A sample
overrides the answers it is about.
-/
import CpuIdle.Node.Signature
import CpuIdle.Theory.Run

namespace CpuIdle.Node

open CpuIdle.Theory

set_option autoImplicit false

def bareNode {σ : Type} : Handler nodeSignature σ := fun s r =>
  match r with
  | .ctxErr => (false, s)
  | .readFile _ _ => (.notExist, s)
  | .stat _ => (.directory, s)
  | .writeFile _ _ _ => (.notExist, s)
  | .getPod _ _ => (.notFound, s)
  | .patchPod _ _ _ => (.notFound, s)
  | .listCache => (.ok [], s)
  | .listNodePods _ => (.ok [], s)
  | .getCache _ _ => (.notFound, s)
  | .rangeKeys keys => (sortedWalk keys, s)
  | .rangeLabels keys => (sortedWalk keys, s)
  | .now => ((0 : Int), s)
  | .numCPU => ((1 : Int), s)
  | .gateCheck _ _ => (.ready .cgroupfs, s)
  | .flushTable _ => ((none : Option OsError), s)
  | .inc _ => ((), s)
  | .setPodsInTier _ _ _ => ((), s)
  | .deletePodsInTier _ _ => ((), s)
  | .event _ => ((), s)
  | .reportHealth _ => ((), s)

end CpuIdle.Node
