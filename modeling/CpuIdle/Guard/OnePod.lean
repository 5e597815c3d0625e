/-
# Guard.OnePod — an executable world of one Pod

A `OnePod` is a world small enough to run: the values the guard's annotation has had on one
Pod, latest first, and the freezer of its directory. `handler` answers each request the way
the API server and the kernel do when nothing fails; `refuses` says which values the knob
does not take. `Scene.world` shows such a state as a `World`, and `Scene.exec` says that a
program run by the handler is a run of the guard's arena.
-/
import CpuIdle.Guard.Discipline

namespace CpuIdle.Guard

open CpuIdle.Go CpuIdle.Kube CpuIdle.Node CpuIdle.Theory CpuIdle.Cgroup CpuIdle.Kernel.Cgroup

set_option autoImplicit false

theorem eq_empty_of_keys {owned : Owned} (nobody : owned.keys = ∅) : owned = ∅ := by
  refine Finmap.ext_lookup fun uid => ?_
  rw [Finmap.lookup_empty, Finmap.lookup_eq_none]
  intro member
  rw [← Finmap.mem_keys, nobody] at member
  exact absurd member (Finset.notMem_empty uid)

/-- The changing part: the annotation's values and the freezer. -/
structure OnePod where
  marker : Option String
  older : List (Option String)
  freezer : Freezer
  deriving DecidableEq

/-- The fixed part: the Pod but for the guard's annotation and its version, and its directory. -/
structure Scene [PrintTable] where
  cfg : Config
  pod : Pod
  dir : String
  computed : podDir cfg pod = .ok dir
  wellFormed : WellFormedUID pod.uid

namespace Scene

section

variable [PrintTable] (s : Scene)

/-- The version of the Pod after the annotation has had these values. -/
def version (marker : Option String) (older : List (Option String)) : Pod :=
  { s.pod with
    annotations := Function.update s.pod.annotations Annotations.guardStateKey marker
    resourceVersion := .ofList (List.replicate (older.length + 1) 'v') }

def latest (o : OnePod) : Pod := s.version o.marker o.older

def Version (o : OnePod) (p : Pod) : Prop :=
  ∃ marker older, marker :: older <:+ o.marker :: o.older ∧ p = s.version marker older

def absent : Freezer := ⟨none, false, 0, none, none⟩

variable {s}

theorem version_injective {o : OnePod} {p q : Pod} (hp : s.Version o p) (hq : s.Version o q)
    (same : p.resourceVersion = q.resourceVersion) : p = q := by
  obtain ⟨m, older, suffix, rfl⟩ := hp
  obtain ⟨m', older', suffix', rfl⟩ := hq
  have length : older.length = older'.length := by
    have := congrArg (fun v => v.toList.length) same
    simpa [version] using this
  have shared := List.suffix_of_suffix_length_le suffix suffix' (by simp [length])
  have equal := shared.eq_of_length (by simp [length])
  injection equal with marker older
  rw [marker, older]

variable (s)

def store (o : OnePod) : Store where
  pods ns name := if ns = s.pod.ns ∧ name = s.pod.name then some (s.latest o) else none
  seen := { p | s.Version o p }
  stored ns name p found := by
    split at found
    · rename_i named
      obtain rfl := Option.some.inj found
      exact ⟨⟨_, _, List.suffix_rfl, rfl⟩, named.1.symm, named.2.symm⟩
    · cases found
  versioned := by
    rintro _ ⟨m, older, -, rfl⟩ empty
    have := congrArg String.toList empty
    simp [version] at this
  unique p hp q hq _ same := version_injective hp hq same

def world (o : OnePod) : World where
  store := s.store o
  freezer := Function.update (fun _ => absent) s.dir o.freezer
  quota _ := ⟨none, none, false⟩
  uids := by
    rintro _ ⟨m, older, -, rfl⟩
    exact s.wellFormed
  identity := by
    rintro _ ⟨m, older, -, rfl⟩ _ ⟨m', older', -, rfl⟩ -
    exact ⟨rfl, rfl, rfl⟩

/-! ## The handler -/

/-- Whether a patch is for the latest version. -/
def Current (o : OnePod) (ns name : String) (patch : MarkerPatch) : Prop :=
  ns = s.pod.ns ∧ name = s.pod.name ∧ patch.uid = s.pod.uid ∧
    patch.resourceVersion = some (s.latest o).resourceVersion

instance (o : OnePod) (ns name : String) (patch : MarkerPatch) : Decidable (s.Current o ns name patch) :=
  inferInstanceAs (Decidable (_ ∧ _ ∧ _ ∧ _))

/-- What a patch that takes effect leaves. -/
def patched (o : OnePod) (patch : MarkerPatch) : OnePod :=
  { marker := patch.guardState
    older := o.marker :: o.older
    freezer := if patch.guardState.isSome then { o.freezer with recorded := o.freezer.looked }
      else o.freezer }

def looked (o : OnePod) (b : Bool) : OnePod :=
  { o with freezer := { o.freezer with
      looked := if b then o.freezer.looked else some o.freezer.changes } }

def set (o : OnePod) (b : Bool) (byGuard : Bool) : OnePod :=
  { o with freezer := { o.freezer with value := some b, byGuard, changes := o.freezer.changes + 1 } }

def handler (refuses : Bool → Bool) : Handler nodeSignature OnePod := fun o r =>
  match r with
  | .ctxErr => (false, o)
  | .readFile d name =>
      match o.freezer.value with
      | some b =>
          if d = s.dir ∧ name = "cgroup.freeze" then (.data (bit b ++ "\n"), looked o b)
          else (.notExist, o)
      | none => (.notExist, o)
  | .stat _ => (.directory, o)
  | .writeFile d name value =>
      if d = s.dir ∧ name = "cgroup.freeze" ∧ o.freezer.value.isSome then
        if value = "0" ∧ refuses false = false then (.written, set o false true)
        else if value = "1" ∧ refuses true = false then (.written, set o true true)
        else (.writeFailed ⟨"input/output error", false⟩, o)
      else (.writeFailed ⟨"input/output error", false⟩, o)
  | .getPod ns name =>
      (if ns = s.pod.ns ∧ name = s.pod.name then .found (s.latest o) else .notFound, o)
  | .patchPod ns name patch =>
      if s.Current o ns name patch then (.patched, patched o patch)
      else (.failed ⟨"conflict", false⟩, o)
  | .listCache => (.ok [s.latest o], o)
  | .listNodePods _ => (.ok [s.latest o], o)
  | .getCache _ _ => (.notFound, o)
  | .rangeKeys keys => (sortedWalk keys, o)
  | .rangeLabels keys => (sortedWalk keys, o)
  | .now => ((0 : Int), o)
  | .numCPU => ((1 : Int), o)
  | .gateCheck _ _ => (.ready .cgroupfs, o)
  | .flushTable _ => ((none : Option OsError), o)
  | .inc _ => ((), o)
  | .setPodsInTier _ _ _ => ((), o)
  | .deletePodsInTier _ _ => ((), o)
  | .event _ => ((), o)
  | .reportHealth _ => ((), o)

variable {s} {o : OnePod}

theorem world_setFreezer {f : Freezer} : (s.world o).setFreezer s.dir f = s.world { o with freezer := f } := by
  simp [World.setFreezer, world, store, latest, Version]

@[simp] theorem world_freezer : (s.world o).freezer s.dir = o.freezer :=
  Function.update_self (f := fun _ => absent) ..

theorem world_freezer_other {d : String} (other : d ≠ s.dir) : (s.world o).freezer d = absent :=
  Function.update_of_ne (f := fun _ => absent) other ..

theorem latest_annotationAt : (s.latest o).annotationAt Annotations.guardStateKey = o.marker.getD "" := by
  simp [latest, version, Pod.annotationAt]

theorem world_look {b : Bool} : (s.world o).look s.dir b = s.world (looked o b) := by
  simp only [World.look, world_freezer, world_setFreezer, looked]

theorem world_freeze {b : Bool} : (s.world o).freeze s.dir b = s.world (set o b true) := by
  simp only [World.freeze, world_freezer, world_setFreezer, set]

theorem world_patches {ns name : String} {patch : MarkerPatch} (current : s.Current o ns name patch) :
    ∃ p p', (s.world o).Patches s.cfg ns name patch p p' (s.world (patched o patch)) := by
  obtain ⟨rfl, rfl, uid, resourceVersion⟩ := current
  refine ⟨s.latest o, s.latest (patched o patch), ⟨?found, ?allows, ?result, ?put⟩, ?freezer, rfl⟩
  case found => exact if_pos ⟨rfl, rfl⟩
  case allows => exact ⟨uid, fun version member => by
    rw [resourceVersion] at member
    exact (Option.some.inj member).symm⟩
  case result =>
    refine ⟨(s.latest (patched o patch)).resourceVersion, ?_⟩
    simp [latest, version, Pod.patched, patched]
  case put =>
    refine ⟨?_, ?_, ?_⟩
    · funext ns name
      by_cases sameNs : ns = s.pod.ns
      · by_cases sameName : name = s.pod.name
        · simp [world, store, latest, version, sameNs, sameName]
        · simp [world, store, latest, version, sameNs, sameName]
      · simp [world, store, latest, version, sameNs]
    · ext p
      change s.Version _ p ↔ p = _ ∨ s.Version o p
      constructor
      · rintro ⟨m, older, suffix, rfl⟩
        rcases List.suffix_cons_iff.mp suffix with same | suffix
        · injection same with marker rest
          rw [marker, rest]
          exact .inl rfl
        · exact .inr ⟨m, older, suffix, rfl⟩
      · rintro (rfl | ⟨m, older, suffix, rfl⟩)
        · exact ⟨_, _, List.suffix_rfl, rfl⟩
        · exact ⟨m, older, List.suffix_cons_iff.mpr (.inr suffix), rfl⟩
    · rintro ⟨m, older, suffix, same⟩
      have := congrArg (fun p : Pod => p.resourceVersion.toList.length) same
      have short := suffix.length_le
      simp [latest, version, patched] at this short
      omega
  case freezer =>
    have computed : podDir s.cfg (s.latest o) = .ok s.dir := s.computed
    unfold World.noteRecord
    rw [computed]
    cases written : patch.guardState with
    | none => simp [world, patched, written]
    | some value => simp [world, patched, written]

/-- The arena allows what the handler does. -/
theorem handler_act (refuses : Bool → Bool) (o : OnePod) (r : Request) :
    World.act s.cfg (s.world o) r (s.handler refuses o r).1 (s.world (s.handler refuses o r).2) := by
  cases r with
  | readFile d name =>
      simp only [handler]
      cases shows : o.freezer.value with
      | none => exact ⟨nofun, fun _ => rfl⟩
      | some b =>
          by_cases here : d = s.dir ∧ name = "cgroup.freeze"
          · obtain ⟨rfl, rfl⟩ := here
            simp only [and_self, if_true]
            refine ⟨fun content same => ?_, fun no => absurd rfl (no _)⟩
            cases same
            rw [← world_look]
            exact .freeze (by rw [world_freezer, shows])
          · simp only [if_neg here]
            exact ⟨nofun, fun _ => rfl⟩
  | writeFile d name value =>
      simp only [handler]
      split
      · rename_i here
        obtain ⟨rfl, rfl, present⟩ := here
        have exists_value : ((s.world o).freezer s.dir).value.isSome = true := by rwa [world_freezer]
        split
        · rename_i zero
          obtain ⟨rfl, -⟩ := zero
          exact ⟨fun _ => world_freeze ▸ .freeze (b := false) exists_value, fun no => absurd rfl no⟩
        · split
          · rename_i one
            obtain ⟨rfl, -⟩ := one
            exact ⟨fun _ => world_freeze ▸ .freeze (b := true) exists_value, fun no => absurd rfl no⟩
          · exact ⟨nofun, fun _ => rfl⟩
      · exact ⟨nofun, fun _ => rfl⟩
  | getPod ns name =>
      refine ⟨rfl, fun p found => ?_⟩
      by_cases named : ns = s.pod.ns ∧ name = s.pod.name
      · have shown : GetResult.found (s.latest o) = .found p := (if_pos named).symm.trans found
        cases shown
        exact if_pos named
      · have shown : GetResult.notFound = .found p := (if_neg named).symm.trans found
        cases shown
  | patchPod ns name patch =>
      simp only [handler]
      split
      · rename_i current
        exact ⟨fun _ => world_patches current, nofun, nofun⟩
      · exact ⟨nofun, fun _ => rfl, fun _ _ => .inl rfl⟩
  | listCache =>
      refine ⟨rfl, fun pods listed p member => ?_⟩
      obtain rfl := Except.ok.inj listed
      rw [List.mem_singleton.mp member]
      exact ⟨_, _, List.suffix_rfl, rfl⟩
  | stat path => exact ⟨rfl, nofun⟩
  | _ => rfl

/-- What the handler runs is a run of the guard's arena. -/
theorem exec {α : Type} (rely : World → World → Prop) (refuses : Bool → Bool) (p : Node α) (o : OnePod) :
    Exec (arena s.cfg rely) p (s.world o) (p.run (s.handler refuses) o).1
      (s.world (p.run (s.handler refuses) o).2) :=
  .of_run s.world (handler_act refuses) p o

variable [Qos.ResourceHelper] {rely : World → World → Prop}
  {admits : World → Owned → Bool → List Pod → List Pod → Prop}

/-- One pass of the guard's process. -/
theorem pass (refuses : Bool → Bool) {o : OnePod} {owned : Owned} {p : Node Owned}
    (starts : (service s.cfg rely admits).start (s.world o) owned p) :
    Relation.ReflTransGen (service s.cfg rely admits).Step (.idle owned, s.world o)
      (.idle (p.run (s.handler refuses) o).1, s.world (p.run (s.handler refuses) o).2) :=
  .head (.start starts) (Service.steps_of_exec (exec rely refuses p o))

/-- A restart and its recovery. -/
theorem restart (refuses : Bool → Bool) {o : OnePod} {c : Process nodeSignature Owned} {p : Node Owned}
    (boots : (service s.cfg rely admits).boot (s.world o) p) :
    Relation.ReflTransGen (service s.cfg rely admits).Step (c, s.world o)
      (.idle (p.run (s.handler refuses) o).1, s.world (p.run (s.handler refuses) o).2) :=
  .head (.restart boots) (Service.steps_of_exec (exec rely refuses p o))

omit [Qos.ResourceHelper] in
/-- Versions of the Pod are seen. -/
theorem version_seen {o : OnePod} {marker : Option String} {older : List (Option String)}
    (suffix : marker :: older <:+ o.marker :: o.older) :
    s.version marker older ∈ (s.world o).store.seen :=
  ⟨marker, older, suffix, rfl⟩

omit [Qos.ResourceHelper] in
theorem seen_finite {o : OnePod} : (s.world o).store.seen.Finite := by
  let versions := (o.marker :: o.older).tails.map fun values => match values with
    | [] => s.pod
    | marker :: older => s.version marker older
  refine (List.finite_toSet versions).subset ?_
  rintro _ ⟨marker, older, suffix, rfl⟩
  exact List.mem_map.mpr ⟨marker :: older, (List.mem_tails _ _).mpr suffix, rfl⟩

omit [Qos.ResourceHelper] in
/-- The Pod the API server has. -/
theorem live_latest {o : OnePod} : (s.world o).store.pods s.pod.ns s.pod.name = some (s.latest o) :=
  if_pos ⟨rfl, rfl⟩

omit [Qos.ResourceHelper] in
theorem live_eq {o : OnePod} {ns name : String} {p : Pod}
    (live : (s.world o).store.pods ns name = some p) : p = s.latest o := by
  change (if ns = s.pod.ns ∧ name = s.pod.name then some (s.latest o) else none) = some p at live
  split at live
  · exact (Option.some.inj live).symm
  · cases live

end

end Scene

/-! ## A pod to run with -/

attribute [local instance] asciiTable

def sampleScene : Scene where
  cfg := ⟨sampleLayout, "node-a"⟩
  pod := samplePod
  dir := "/sys/fs/cgroup/kubepods/burstable/pod5b0c-1"
  computed := rfl
  wellFormed := ⟨by decide, by decide, by decide⟩

/-- Nobody has touched the pod. -/
def untouchedPod : OnePod := ⟨none, [], ⟨some false, false, 0, none, none⟩⟩

/-- Marked and held frozen by the guard. -/
def heldPod : OnePod := ⟨some (encode freezeState), [none], ⟨some true, true, 1, some 0, some 0⟩⟩

theorem heldPod_marked : readMarker (heldPod.marker.getD "") = some freezeState := by
  simp only [heldPod, Option.getD_some, readMarker_encode_freezeState]

end CpuIdle.Guard
