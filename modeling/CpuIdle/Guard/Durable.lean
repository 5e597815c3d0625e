/-
# Guard.Durable — a freeze of the guard always has its marker

The others edit, delete and recreate Pods and directories, but neither the guard's
annotation nor `cgroup.freeze`. The cache may lag behind by any amount.

* `durable_freezes`: every Pod the guard holds frozen carries its marker, in every run
  whose hot passes are given no candidate that only looks marked;
* `stale_marker_freezes`: a hot pass over a cache that still shows a cleared marker
  freezes a Pod without one.
-/
import CpuIdle.Guard.OnePod

namespace CpuIdle.Guard

open CpuIdle.Go CpuIdle.Kube CpuIdle.Node CpuIdle.Theory CpuIdle.Cgroup CpuIdle.Kernel.Cgroup

set_option autoImplicit false

/-- The knob was last set, to `1`, by the guard. -/
def Freezer.FrozenByGuard (f : Freezer) : Prop := f.value = some true ∧ f.byGuard = true

namespace Durable

section

variable [PrintTable] (cfg : Config)

/-- The API server's Pods of this directory carry a freeze record. -/
def Marked (dir : String) (w : World) : Prop :=
  ∀ ns name p, w.store.pods ns name = some p → podDir cfg p = .ok dir →
    readMarker (p.annotationAt Annotations.guardStateKey) = some freezeState

/-- The API server's Pod of this UID carries a freeze record. -/
def MarkedUID (uid : String) (w : World) : Prop :=
  ∀ ns name p, w.store.pods ns name = some p → p.uid = uid →
    readMarker (p.annotationAt Annotations.guardStateKey) = some freezeState

/-- Who the guard holds frozen is known and marked. -/
structure Inv (w : World) : Prop where
  marked : ∀ dir, (w.freezer dir).FrozenByGuard → Marked cfg dir w
  known : ∀ dir, (w.freezer dir).FrozenByGuard → ∃ p ∈ w.store.seen, podDir cfg p = .ok dir

/-- What the others may do. -/
structure Others (w w' : World) : Prop where
  seen : w.store.seen ⊆ w'.store.seen
  marker : ∀ ns name p', w'.store.pods ns name = some p' →
    (∃ p, w.store.pods ns name = some p ∧ p.uid = p'.uid ∧
      p.annotationAt Annotations.guardStateKey = p'.annotationAt Annotations.guardStateKey) ∨
    ∀ q ∈ w.store.seen, q.uid ≠ p'.uid
  freezer : ∀ dir, w'.freezer dir = w.freezer dir ∨ (w'.freezer dir).value ≠ some true

/-- The passes the result speaks about: a hot pass is given no candidate that counts as
marked while the API server's Pod has no marker. -/
def Fresh (w : World) (owned : Owned) (hot : Bool) (pods candidates : List Pod) : Prop :=
  hot = true → ∀ p ∈ pods, p.uid ∈ candidates.map Pod.uid →
    stateForPod owned p = .ok (some freezeState) → MarkedUID p.uid w

/-- A known UID whose Pod carries a freeze record. -/
structure InForce (uid : String) (w : World) : Prop where
  known : ∃ q ∈ w.store.seen, q.uid = uid
  marked : MarkedUID uid w

def predicates : Predicates where
  Known _ := True
  Inv := Inv cfg
  Ours _ _ := True
  InForce := InForce
  Looked _ _ := True
  Thawed dir w := ¬(w.freezer dir).FrozenByGuard
  Frozen _ _ := True
  Lift _ _ _ := True
  Write w dir name value := name = "cgroup.freeze" → value = "1" → Marked cfg dir w

variable {cfg}

omit [PrintTable] in
theorem frozen_others {w w' : World} (move : Others w w') {dir : String}
    (frozen : (w'.freezer dir).FrozenByGuard) : (w.freezer dir).FrozenByGuard := by
  rcases move.freezer dir with same | thawed
  · exact same ▸ frozen
  · exact absurd frozen.1 thawed

theorem markedUID_others {w w' : World} (move : Others w w') {uid : String}
    (seen : ∃ q ∈ w.store.seen, q.uid = uid) (marked : MarkedUID uid w) : MarkedUID uid w' := by
  intro ns name p' live same
  rcases move.marker ns name p' live with ⟨p, before, uidSame, unchanged⟩ | new
  · rw [← unchanged]
    exact marked ns name p before (uidSame.trans same)
  · obtain ⟨q, known, rfl⟩ := seen
    exact absurd same.symm (new q known)

theorem others_keep {w w' : World} (move : Others w w') (inv : Inv cfg w) :
    (predicates cfg).Carries [] w w' where
  inv := {
    marked := by
      intro dir frozen ns name p' live computed
      have before := frozen_others move frozen
      obtain ⟨q, known, where_q⟩ := inv.known dir before
      have uid : p'.uid = q.uid := by
        refine w'.uid_of_podDir (w'.store.stored _ _ _ live).1 (move.seen known) computed where_q
      refine markedUID_others move ⟨q, known, rfl⟩ (fun ns name p live same => ?_) ns name p' live uid
      exact inv.marked dir before ns name p live
        (w.podDir_of_uid known (w.store.stored _ _ _ live).1 same.symm where_q)
    known := by
      intro dir frozen
      obtain ⟨q, known, computed⟩ := inv.known dir (frozen_others move frozen)
      exact ⟨q, move.seen known, computed⟩ }
  seen := move.seen
  ours _ _ := trivial
  inForce := by
    rintro uid - ⟨⟨q, known, same⟩, marked⟩
    exact ⟨⟨q, move.seen known, same⟩, markedUID_others move ⟨q, known, same⟩ marked⟩

/-- An effect on the knobs that freezes at most a marked pod. -/
theorem knobs_keep {w w' : World} (inv : Inv cfg w) (store : w'.store = w.store)
    (frozen : ∀ dir, (w'.freezer dir).FrozenByGuard → (w.freezer dir).FrozenByGuard ∨
      (Marked cfg dir w ∧ ∃ p ∈ w.store.seen, podDir cfg p = .ok dir)) :
    (predicates cfg).Carries [] w w' where
  inv := {
    marked := by
      intro dir now
      have marked : Marked cfg dir w := (frozen dir now).elim (inv.marked dir) And.left
      unfold Marked at marked ⊢
      rwa [store]
    known := by
      intro dir now
      rw [store]
      exact (frozen dir now).elim (inv.known dir) And.right }
  seen := by rw [store]
  ours _ _ := trivial
  inForce := by
    rintro uid - ⟨known, marked⟩
    unfold MarkedUID at marked
    rw [← store] at known marked
    exact ⟨known, marked⟩

/-- A patch of the guard's annotation: `kept` says what becomes of the marker of the Pod
it takes effect on. -/
theorem patch_keeps {w w' : World} {ns name : String} {patch : MarkerPatch} {p p' : Pod}
    {cleared : List String} (inv : Inv cfg w) (patches : w.Patches cfg ns name patch p p' w')
    (kept : readMarker (p'.annotationAt Annotations.guardStateKey) = some freezeState ∨
      ((∀ dir, podDir cfg p = .ok dir → ¬(w.freezer dir).FrozenByGuard) ∧
        (p.uid ∉ cleared → ¬MarkedUID p.uid w))) :
    (predicates cfg).Carries cleared w w' := by
  have frozen : ∀ dir, (w'.freezer dir).FrozenByGuard → (w.freezer dir).FrozenByGuard := by
    intro dir now
    obtain ⟨recorded, same, -⟩ := patches.freezer_eq dir
    rw [same] at now
    exact now
  have seen : w.store.seen ⊆ w'.store.seen := patches.store.put.mono
  have sameDir : podDir cfg p' = podDir cfg p := by
    obtain ⟨resourceVersion, rfl⟩ := patches.store.result
    rfl
  refine ⟨⟨fun dir now ns' name' q live computed => ?_, fun dir now => ?_⟩, seen,
    fun _ _ => trivial, ?_⟩
  · rcases patches.store.live live with rfl | before
    · rcases kept with marked | ⟨thawed, -⟩
      · exact marked
      · exact absurd (frozen dir now) (thawed dir (sameDir ▸ computed))
    · exact inv.marked dir (frozen dir now) ns' name' q before computed
  · obtain ⟨q, known, computed⟩ := inv.known dir (frozen dir now)
    exact ⟨q, seen known, computed⟩
  · rintro uid others ⟨⟨q, known, same⟩, marked⟩
    refine ⟨⟨q, seen known, same⟩, fun ns' name' r live sameUID => ?_⟩
    rcases patches.store.live live with rfl | before
    · rcases kept with fresh | ⟨-, lost⟩
      · exact fresh
      · rw [patches.store.uid] at sameUID
        exact absurd (sameUID ▸ marked) (lost (sameUID ▸ others))
    · exact marked ns' name' r before sameUID

/-- **The discipline of durable freezes.** -/
def discipline [Qos.ResourceHelper] (cfg : Config) : Discipline cfg Others where
  toPredicates := predicates cfg
  others move inv := ⟨others_keep move inv, fun _ _ => trivial,
    fun _ thawed frozen => thawed (frozen_others move frozen), fun _ _ => trivial, fun _ _ _ => trivial⟩
  listed _ _ _ _ := trivial
  look {w dir b} inv shows := by
    have same : ∀ d, ((w.look dir b).freezer d).FrozenByGuard → (w.freezer d).FrozenByGuard := by
      intro d frozen
      simpa [Freezer.FrozenByGuard] using frozen
    refine ⟨knobs_keep inv rfl fun d frozen => .inl (same d frozen), ?_⟩
    rintro rfl
    refine ⟨trivial, fun frozen => ?_⟩
    have value := (same dir frozen).1
    rw [shows] at value
    cases value
  look_frozen _ _ _ _ _ := trivial
  gone {w dir} _ absent frozen := by
    have value := frozen.1
    rw [absent] at value
    cases value
  freeze {w p dir} inv seen computed _ inForce := by
    have marked : Marked cfg dir w := fun ns name q live where_q => inForce.2 ns name q live
      (w.uid_of_podDir (w.store.stored _ _ _ live).1 seen where_q computed)
    refine ⟨fun _ _ => marked, fun _ => knobs_keep inv rfl fun d frozen => ?_⟩
    by_cases same : d = dir
    · exact .inr (same ▸ ⟨marked, p, seen, computed⟩)
    · exact .inl (World.freeze_other same ▸ frozen)
  thaw {w p dir} inv seen computed _ _ := by
    refine ⟨fun _ one => absurd one (by decide), fun _ => ⟨knobs_keep inv rfl fun d frozen => ?_, ?_⟩⟩
    · by_cases same : d = dir
      · subst same
        rw [World.freeze_self] at frozen
        cases frozen.1
      · exact .inl (World.freeze_other same ▸ frozen)
    · intro frozen
      rw [World.freeze_self] at frozen
      cases frozen.1
  mark {w w' ns name patch p p' dir} inv patches computed _ _ written := by
    have marked : readMarker (p'.annotationAt Annotations.guardStateKey) = some freezeState := by
      rw [patches.store.annotationAt, written]
      exact readMarker_encode_freezeState
    have seen : p'.uid = p.uid := patches.store.uid
    refine ⟨patch_keeps inv patches (.inl marked), trivial, ⟨p', ?_, seen⟩, fun ns' name' q live same => ?_⟩
    · rw [patches.store.put.seen]
      exact Set.mem_insert _ _
    · rw [w'.live_unique live patches.store.latest (same.trans seen.symm)]
      exact marked
  clear inv patches thawed _ _ := patch_keeps inv patches (.inr ⟨thawed, fun kept => absurd (.head _) kept⟩)
  sweep {w w' ns name patch p p'} inv patches foreign _ := by
    have live := patches.store.found
    refine patch_keeps inv patches (.inr ⟨fun dir computed frozen => ?_, fun _ marked => ?_⟩)
    · exact foreign (inv.marked dir frozen _ _ p live computed)
    · exact foreign (marked _ _ p live rfl)
  quota _ _ inv := knobs_keep inv rfl fun _ frozen => .inl frozen
  lift_read _ _ _ := trivial
  lift _ _ _ _ _ _ _ _ freezes := absurd freezes (by decide)

theorem preserves [Qos.ResourceHelper] : Service.Preserves (service cfg Others Fresh)
    (discipline cfg).guarantee (Inv cfg) (discipline cfg).Rests :=
  Discipline.preserves (fun _ => trivial) fun _ _ _ _ _ _ listed fresh isHot p member candidate marked =>
    ⟨⟨p, listed p member, rfl⟩, fresh isHot p member candidate marked⟩

end

end Durable

section

variable [PrintTable] [Qos.ResourceHelper]

open Durable in
/-- **Freezes are durable.** In every run whose hot passes are given no candidate that
only looks marked, every Pod the guard holds frozen carries its marker, and the guard
freezes no Pod without one. -/
theorem durable_freezes (cfg : Config) {w₀ w : World} {process : Process nodeSignature Owned}
    (start : Inv cfg w₀)
    (run : Relation.ReflTransGen (service cfg Others Fresh).Step (.idle ∅, w₀) (process, w)) :
    (∀ dir, (w.freezer dir).FrozenByGuard → Marked cfg dir w) ∧
      ∀ dir next, process = .busy (.ask (.writeFile dir "cgroup.freeze" "1") next) →
        Marked cfg dir w := by
  have initially : ∀ c, c = (Process.idle ∅, w₀) → Inv cfg c.2 ∧ Service.Sound
      (service cfg Others Fresh) (discipline cfg).guarantee (discipline cfg).Rests c.1 c.2 := by
    rintro _ rfl
    exact ⟨start, Discipline.rests_empty start⟩
  have reachable : Service.Reachable (service cfg Others Fresh) (· = (Process.idle ∅, w₀)) (process, w) :=
    ⟨_, rfl, run⟩
  refine ⟨(Service.invariant preserves initially reachable).1.marked, ?_⟩
  rintro dir next rfl
  -- an attempt that fails at once shows what holds before the write
  have attempt : World.act cfg w (.writeFile dir "cgroup.freeze" "1") WriteResult.notExist w :=
    ⟨nofun, fun _ => rfl⟩
  exact (Service.guaranteed preserves initially reachable attempt).2 rfl rfl

end

/-! ## A run inside the condition, and one outside it -/

section

open Durable

attribute [local instance] asciiTable Qos.containerRequests

theorem inv_of_scene {s : Scene} {o : OnePod} (marked : o.freezer.FrozenByGuard →
    readMarker (o.marker.getD "") = some freezeState) : Inv s.cfg (s.world o) := by
  have only : ∀ dir, ((s.world o).freezer dir).FrozenByGuard → dir = s.dir := by
    intro dir frozen
    by_contra other
    rw [Scene.world_freezer_other other] at frozen
    cases frozen.1
  refine ⟨fun dir frozen ns name p live _ => ?_, fun dir frozen => ?_⟩
  · obtain rfl := only dir frozen
    rw [Scene.world_freezer] at frozen
    rw [Scene.live_eq live, Scene.latest_annotationAt]
    exact marked frozen
  · rw [only dir frozen]
    exact ⟨_, Scene.version_seen List.suffix_rfl, s.computed⟩

def hotPass (owned : Owned) (pods : List Pod) : Node Owned := do
  let (_, owned) ← converge sampleScene.cfg owned true pods pods
  return owned

theorem hotPass_freezes : ((hotPass ∅ [sampleScene.latest untouchedPod]).run
    (sampleScene.handler fun _ => false) untouchedPod).2 = heldPod := by
  decide +kernel

/-- A hot pass over a pod that nobody has touched marks and freezes it. -/
theorem durable_freezes_hot_pass :
    heldPod.freezer.FrozenByGuard ∧ Marked sampleScene.cfg sampleScene.dir (sampleScene.world heldPod) := by
  have start : Inv sampleScene.cfg (sampleScene.world untouchedPod) :=
    inv_of_scene fun frozen => nomatch frozen.1
  have begins : (service sampleScene.cfg Others Fresh).start (sampleScene.world untouchedPod) ∅
      (hotPass ∅ [sampleScene.latest untouchedPod]) := by
    refine .inl ⟨true, _, _, fun p member => ?_, fun _ p member _ marked => ?_, rfl⟩
    · rw [List.mem_singleton.mp member]
      exact Scene.version_seen List.suffix_rfl
    · rw [List.mem_singleton.mp member] at marked
      cases marked
  have run := Scene.pass (fun _ => false) begins
  rw [hotPass_freezes] at run
  have frozen : heldPod.freezer.FrozenByGuard := ⟨rfl, rfl⟩
  exact ⟨frozen, (durable_freezes sampleScene.cfg start run).1 _ (by rwa [Scene.world_freezer])⟩

def recovery : Node Owned := do
  let (_, owned) ← recover sampleScene.cfg cacheLister ∅
  return owned

/-- Thawed and cleared. -/
def recoveredPod : OnePod :=
  ⟨none, [some (encode freezeState), none], ⟨some false, true, 2, some 0, some 0⟩⟩

theorem recovery_ends :
    (recovery.run (sampleScene.handler fun _ => false) heldPod).2 = recoveredPod ∧
      (recovery.run (sampleScene.handler fun _ => false) heldPod).1.keys = ∅ := by
  decide +kernel

/-- Frozen once more, with no marker. -/
def unmarkedPod : OnePod :=
  ⟨none, [some (encode freezeState), none], ⟨some true, true, 3, some 2, some 0⟩⟩

theorem hotPass_stale : ((hotPass ∅ [sampleScene.latest heldPod]).run
    (sampleScene.handler fun _ => false) recoveredPod).2 = unmarkedPod := by
  decide +kernel

/-- **Outside the condition.** The guard restarts while it holds a pod frozen; its recovery
thaws the pod and clears the marker. The cache still shows the marker, so a hot pass freezes
the pod again without setting one. -/
theorem stale_marker_freezes : ∃ (w₀ w : World) (owned : Owned),
    Inv sampleScene.cfg w₀ ∧
    Relation.ReflTransGen (service sampleScene.cfg Others fun _ _ _ _ _ => True).Step (.idle ∅, w₀)
      (.idle owned, w) ∧
    (w.freezer sampleScene.dir).FrozenByGuard ∧ ¬Marked sampleScene.cfg sampleScene.dir w := by
  have boots : (service sampleScene.cfg Others fun _ _ _ _ _ => True).boot
      (sampleScene.world heldPod) recovery := rfl
  have restarted := Scene.restart (c := .idle ∅) (fun _ => false) boots
  rw [recovery_ends.1, eq_empty_of_keys recovery_ends.2] at restarted
  have begins : (service sampleScene.cfg Others fun _ _ _ _ _ => True).start
      (sampleScene.world recoveredPod) ∅ (hotPass ∅ [sampleScene.latest heldPod]) := by
    refine .inl ⟨true, _, _, fun p member => ?_, trivial, rfl⟩
    rw [List.mem_singleton.mp member]
    exact Scene.version_seen (List.suffix_cons _ _)
  have passed := Scene.pass (fun _ => false) begins
  rw [hotPass_stale] at passed
  refine ⟨_, _, _, inv_of_scene fun _ => heldPod_marked, restarted.trans passed, ?_,
    fun marked => ?_⟩
  · rw [Scene.world_freezer]
    exact ⟨rfl, rfl⟩
  · have record := marked _ _ _ Scene.live_latest sampleScene.computed
    rw [Scene.latest_annotationAt, show unmarkedPod.marker.getD "" = "" from rfl, readMarker_empty] at record
    cases record

end

end CpuIdle.Guard
