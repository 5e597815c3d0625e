/-
# Guard.Thaw — which freezes the guard lifts

The others set `cgroup.freeze` as they like, and edit, delete and recreate Pods, but add
no freeze record of their own. Each setting of a knob is counted (`changes`); `looked` is
the count at the guard's last read of `0`, `recorded` that of the last marker.

* `thaws_after_look`: what the guard lifts has been set since the read of `0` that
  preceded its last marker on that pod.
-/
import CpuIdle.Guard.OnePod

namespace CpuIdle.Guard

open CpuIdle.Go CpuIdle.Kube CpuIdle.Node CpuIdle.Theory CpuIdle.Cgroup CpuIdle.Kernel.Cgroup

set_option autoImplicit false

namespace Thaw

/-- The knob has been set since the read that preceded the guard's last marker. -/
def SetSinceLook (f : Freezer) : Prop := ∃ n, f.recorded = some n ∧ n < f.changes

/-- A mark `n` in the count of settings: the knob held no freeze then. -/
def Sighting (f : Freezer) (n : Nat) : Prop := n ≤ f.changes ∧ (f.changes = n → f.value ≠ some true)

section

variable [PrintTable] (cfg : Config)

/-- The guard has recorded a marker on the pod of this UID. -/
def Recorded (uid : String) (w : World) : Prop :=
  ∃ p ∈ w.store.seen, p.uid = uid ∧
    ∀ dir, podDir cfg p = .ok dir → (w.freezer dir).recorded.isSome = true

/-- Both marks are sightings, and all freeze records are the guard's. -/
structure Inv (w : World) : Prop where
  looked : ∀ dir, ∀ n ∈ (w.freezer dir).looked, Sighting (w.freezer dir) n
  recorded : ∀ dir, ∀ n ∈ (w.freezer dir).recorded, Sighting (w.freezer dir) n
  own : ∀ p ∈ w.store.seen, readMarker (p.annotationAt Annotations.guardStateKey) = some freezeState →
    Recorded cfg p.uid w

/-- What the others may do. -/
structure Others (w w' : World) : Prop where
  seen : w.store.seen ⊆ w'.store.seen
  marker : ∀ p' ∈ w'.store.seen,
    readMarker (p'.annotationAt Annotations.guardStateKey) = some freezeState →
      ∃ p ∈ w.store.seen, p.uid = p'.uid ∧
        readMarker (p.annotationAt Annotations.guardStateKey) = some freezeState
  freezer : ∀ dir, w'.freezer dir = w.freezer dir ∨
    ((w.freezer dir).changes < (w'.freezer dir).changes ∧
      (w'.freezer dir).looked = (w.freezer dir).looked ∧
      (w'.freezer dir).recorded = (w.freezer dir).recorded)

def predicates : Predicates where
  Known _ := True
  Inv := Inv cfg
  Ours := Recorded cfg
  InForce _ _ := True
  Looked dir w := (w.freezer dir).looked.isSome = true
  Thawed _ _ := True
  Frozen dir w := SetSinceLook (w.freezer dir)
  Lift _ _ _ := True
  Write w dir name value := name = "cgroup.freeze" → value = "0" → SetSinceLook (w.freezer dir)

/-- What an effect does to one freezer: the marks stay sightings and are not forgotten. -/
structure Advances (f f' : Freezer) : Prop where
  looked : (∀ n ∈ f.looked, Sighting f n) → ∀ n ∈ f'.looked, Sighting f' n
  recorded : (∀ n ∈ f.looked, Sighting f n) → (∀ n ∈ f.recorded, Sighting f n) →
    ∀ n ∈ f'.recorded, Sighting f' n
  keeps : f.recorded.isSome = true → f'.recorded.isSome = true

omit [PrintTable] in
theorem Advances.refl (f : Freezer) : Advances f f := ⟨fun h => h, fun _ h => h, fun h => h⟩

omit [PrintTable] in
/-- A setting by anybody. -/
theorem Advances.set {f f' : Freezer} (more : f.changes < f'.changes) (looked : f'.looked = f.looked)
    (recorded : f'.recorded = f.recorded) : Advances f f' := by
  have later : ∀ n, Sighting f n → Sighting f' n := fun n sighting =>
    ⟨by have := sighting.1; omega, fun same => by have := sighting.1; omega⟩
  exact ⟨fun h n member => later n (h n (looked ▸ member)),
    fun _ h n member => later n (h n (recorded ▸ member)), fun h => recorded ▸ h⟩

variable {cfg}

omit [PrintTable] in
variable [PrintTable] in
theorem Recorded.mono {w w' : World} (seen : w.store.seen ⊆ w'.store.seen)
    (freezers : ∀ dir, Advances (w.freezer dir) (w'.freezer dir)) {uid : String}
    (known : Recorded cfg uid w) : Recorded cfg uid w' := by
  obtain ⟨p, member, same, recorded⟩ := known
  exact ⟨p, seen member, same, fun dir computed => (freezers dir).keeps (recorded dir computed)⟩

/-- An effect that advances every freezer and records no marker that is not the guard's. -/
theorem carries {w w' : World} {cleared : List String} (inv : Inv cfg w)
    (seen : w.store.seen ⊆ w'.store.seen)
    (freezers : ∀ dir, Advances (w.freezer dir) (w'.freezer dir))
    (own : ∀ p' ∈ w'.store.seen,
      readMarker (p'.annotationAt Annotations.guardStateKey) = some freezeState →
        Recorded cfg p'.uid w' ∨ ∃ p ∈ w.store.seen, p.uid = p'.uid ∧
          readMarker (p.annotationAt Annotations.guardStateKey) = some freezeState) :
    (predicates cfg).Carries cleared w w' where
  inv := {
    looked := fun dir => (freezers dir).looked (inv.looked dir)
    recorded := fun dir => (freezers dir).recorded (inv.looked dir) (inv.recorded dir)
    own := by
      intro p' member marked
      rcases own p' member marked with known | ⟨p, before, same, marked⟩
      · exact known
      · exact same ▸ (inv.own p before marked).mono seen freezers }
  seen := seen
  ours _ known := known.mono seen freezers
  inForce _ _ _ := trivial

/-- An effect on the knobs alone. -/
theorem knobs_carry {w w' : World} (inv : Inv cfg w) (store : w'.store = w.store)
    (freezers : ∀ dir, Advances (w.freezer dir) (w'.freezer dir)) :
    (predicates cfg).Carries [] w w' :=
  carries inv (by rw [store]) freezers fun p' member marked =>
    .inr ⟨p', store ▸ member, rfl, marked⟩

omit [PrintTable] in
theorem look_advances (w : World) (dir : String) {b : Bool} (shows : (w.freezer dir).value = some b)
    (d : String) : Advances (w.freezer d) ((w.look dir b).freezer d) := by
  by_cases same : d = dir
  · subst same
    rw [World.look_self]
    refine ⟨fun looked n member => ?_, fun _ recorded => recorded, fun kept => kept⟩
    cases b with
    | true => exact looked n member
    | false =>
        obtain rfl : (w.freezer d).changes = n := by simpa using member
        exact ⟨le_rfl, fun _ frozen => by simp [shows] at frozen⟩
  · rw [World.look_other same]
    exact .refl _

omit [PrintTable] in
theorem freeze_advances (w : World) (dir : String) (b : Bool) (d : String) :
    Advances (w.freezer d) ((w.freeze dir b).freezer d) := by
  by_cases same : d = dir
  · subst same
    rw [World.freeze_self]
    exact .set (Nat.lt_succ_self _) rfl rfl
  · rw [World.freeze_other same]
    exact .refl _

theorem patch_advances {w w' : World} {ns name : String} {patch : MarkerPatch} {p p' : Pod}
    (patches : w.Patches cfg ns name patch p p' w')
    (looked : patch.guardState.isSome = true → ∀ dir, podDir cfg p = .ok dir →
      (w.freezer dir).looked.isSome = true) (dir : String) :
    Advances (w.freezer dir) (w'.freezer dir) := by
  obtain ⟨recorded, same, kept⟩ := patches.freezer_eq dir
  rw [same]
  rcases kept with rfl | ⟨computed, set, rfl⟩
  · exact .refl _
  · exact ⟨fun h => h, fun h _ => h, fun _ => looked set dir computed⟩

/-- A patch that takes the annotation away. -/
theorem clear_carries {w w' : World} {ns name : String} {patch : MarkerPatch} {p p' : Pod}
    {cleared : List String} (inv : Inv cfg w) (patches : w.Patches cfg ns name patch p p' w')
    (gone : patch.guardState = none) : (predicates cfg).Carries cleared w w' := by
  refine carries inv patches.store.put.mono (patch_advances patches (by simp [gone]))
    fun q member marked => ?_
  rw [patches.store.put.seen] at member
  rcases member with rfl | before
  · rw [patches.store.annotationAt, gone, Option.getD_none, readMarker_empty] at marked
    cases marked
  · exact .inr ⟨q, before, rfl, marked⟩

/-- **The discipline of thawing.** -/
def discipline [Qos.ResourceHelper] (cfg : Config) : Discipline cfg Others where
  toPredicates := predicates cfg
  others {w w'} move inv := by
    have freezers : ∀ dir, Advances (w.freezer dir) (w'.freezer dir) := by
      intro dir
      rcases move.freezer dir with same | ⟨more, looked, recorded⟩
      · exact same ▸ .refl _
      · exact .set more looked recorded
    refine ⟨carries inv move.seen freezers fun p' member marked => .inr (move.marker p' member marked),
      fun dir looked => ?_, fun _ _ => trivial, fun dir since => ?_, fun _ _ _ => trivial⟩
    · have looked : (w.freezer dir).looked.isSome = true := looked
      change (w'.freezer dir).looked.isSome = true
      rcases move.freezer dir with same | ⟨-, unchanged, -⟩
      · rwa [same]
      · rwa [unchanged]
    · change SetSinceLook (w'.freezer dir)
      obtain ⟨n, marked, before⟩ := since
      rcases move.freezer dir with same | ⟨more, -, recorded⟩
      · rw [same]
        exact ⟨n, marked, before⟩
      · exact ⟨n, recorded ▸ marked, by omega⟩
  listed inv _ seen marked := inv.own _ seen marked
  look {w dir b} inv shows := by
    refine ⟨knobs_carry inv rfl (look_advances w dir shows), ?_⟩
    rintro rfl
    exact ⟨by simp [predicates, World.look, World.setFreezer], trivial⟩
  look_frozen {w p dir} inv seen computed ours shows := by
    obtain ⟨q, known, same, recorded⟩ := ours
    have marked := recorded dir (w.podDir_of_uid seen known same.symm computed)
    obtain ⟨n, found⟩ := Option.isSome_iff_exists.mp marked
    obtain ⟨le, thawed⟩ := inv.recorded dir n found
    refine ⟨n, by simpa using found, ?_⟩
    rw [World.look_changes]
    exact lt_of_le_of_ne le fun same => thawed same.symm shows
  gone _ _ := trivial
  freeze {w p dir} inv _ _ _ _ := by
    exact ⟨fun _ zero => absurd zero (by decide),
      fun _ => knobs_carry inv rfl (freeze_advances w dir true)⟩
  thaw {w p dir} inv _ _ _ since := by
    exact ⟨fun _ _ => since, fun _ => ⟨knobs_carry inv rfl (freeze_advances w dir false), trivial⟩⟩
  mark {w w' ns name patch p p' dir} inv patches computed looked _ written := by
    have sameDir : podDir cfg p' = podDir cfg p := by
      obtain ⟨resourceVersion, rfl⟩ := patches.store.result
      rfl
    have freezers := patch_advances patches fun _ d where_p => by
      rw [computed] at where_p
      exact Except.ok.inj where_p ▸ looked
    have noted : (w'.freezer dir).recorded.isSome = true := by
      rw [patches.freezer]
      simp only [World.noteRecord, written, computed, Function.update_self]
      exact looked
    have recorded : Recorded cfg p.uid w' := by
      refine ⟨p', ?_, patches.store.uid, fun d where_p => ?_⟩
      · rw [patches.store.put.seen]
        exact Set.mem_insert _ _
      · rw [sameDir, computed] at where_p
        exact Except.ok.inj where_p ▸ noted
    refine ⟨carries inv patches.store.put.mono freezers fun q member marked => ?_, recorded, trivial⟩
    rw [patches.store.put.seen] at member
    rcases member with rfl | before
    · exact .inl (patches.store.uid ▸ recorded)
    · exact .inr ⟨q, before, rfl, marked⟩
  clear inv patches _ _ gone := clear_carries inv patches gone
  sweep inv patches _ gone := clear_carries inv patches gone
  quota _ _ inv := knobs_carry inv rfl fun _ => .refl _
  lift_read _ _ _ := trivial
  lift _ _ _ _ _ _ _ _ freezes := absurd freezes (by decide)

theorem preserves [Qos.ResourceHelper] : Service.Preserves
    (service cfg Others fun _ _ _ _ _ => True) (discipline cfg).guarantee (Inv cfg)
    (discipline cfg).Rests :=
  Discipline.preserves (fun _ => trivial) fun _ _ _ _ _ _ _ _ _ _ _ _ _ => trivial

end

end Thaw

section

variable [PrintTable] [Qos.ResourceHelper]

open Thaw in
/-- **What the guard thaws was set after its look.** In every run, whoever else sets the
knobs and whatever fails: when the guard writes `0` it has recorded a marker on that pod,
and the knob has been set since the read of `0` that preceded the marker. -/
theorem thaws_after_look (cfg : Config) {w₀ w : World} {dir : String}
    {next : WriteResult → Node Owned} (start : Inv cfg w₀)
    (run : Relation.ReflTransGen (service cfg Others fun _ _ _ _ _ => True).Step (.idle ∅, w₀)
      (.busy (.ask (.writeFile dir "cgroup.freeze" "0") next), w)) :
    ∃ n, (w.freezer dir).recorded = some n ∧ n < (w.freezer dir).changes := by
  have initially : ∀ c, c = (Process.idle ∅, w₀) → Inv cfg c.2 ∧ Service.Sound
      (service cfg Others fun _ _ _ _ _ => True) (discipline cfg).guarantee (discipline cfg).Rests
      c.1 c.2 := by
    rintro _ rfl
    exact ⟨start, Discipline.rests_empty start⟩
  -- an attempt that fails at once shows what holds before the write
  have attempt : World.act cfg w (.writeFile dir "cgroup.freeze" "0") WriteResult.notExist w :=
    ⟨nofun, fun _ => rfl⟩
  exact (Service.guaranteed preserves initially ⟨_, rfl, run⟩ attempt).2 rfl rfl

end

/-! ## A freeze that is not the guard's -/

section

open Thaw

attribute [local instance] asciiTable Qos.containerRequests

/-- Marked, but the freeze was refused. -/
def markedPod : OnePod := ⟨some (encode freezeState), [none], ⟨some false, false, 0, some 0, some 0⟩⟩

/-- Marked by the guard and then frozen by somebody else. -/
def foreignPod : OnePod := Scene.set markedPod true false

/-- A hot pass of the sample world. -/
def refusedPass : Node Owned := do
  let (_, owned) ← converge sampleScene.cfg ∅ true [sampleScene.latest untouchedPod]
    [sampleScene.latest untouchedPod]
  return owned

theorem refusedPass_marks :
    (refusedPass.run (sampleScene.handler fun b => b) untouchedPod).2 = markedPod := by
  decide +kernel

def coolPass (owned : Owned) : Node Owned := do
  let (_, owned) ← converge sampleScene.cfg owned false [sampleScene.latest foreignPod] []
  return owned

def isWrite : Request → Bool
  | .writeFile _ _ _ => true
  | _ => false

/-- The cool pass that follows, up to its first write. -/
def pausedPass : Node Owned × OnePod :=
  (coolPass (refusedPass.run (sampleScene.handler fun b => b) untouchedPod).1).pause
    (sampleScene.handler fun _ => false) isWrite foreignPod

theorem pausedPass_thaws : pausedPass.2 = foreignPod ∧
    pausedPass.1.pending = some (.writeFile sampleScene.dir "cgroup.freeze" "0") := by
  decide +kernel

/-- The marker is set, the freeze fails, somebody else freezes, a cool pass is about to thaw. -/
theorem foreign_run : ∃ next, Relation.ReflTransGen
    (service sampleScene.cfg Others fun _ _ _ _ _ => True).Step
    (.idle ∅, sampleScene.world untouchedPod)
    (.busy (.ask (.writeFile sampleScene.dir "cgroup.freeze" "0") next),
      sampleScene.world foreignPod) := by
  have hot : (service sampleScene.cfg Others fun _ _ _ _ _ => True).start
      (sampleScene.world untouchedPod) ∅ refusedPass := by
    refine .inl ⟨true, _, _, fun p member => ?_, trivial, rfl⟩
    rw [List.mem_singleton.mp member]
    exact Scene.version_seen List.suffix_rfl
  have marked := Scene.pass (fun b => b) hot
  rw [refusedPass_marks] at marked
  have frozen : Others (sampleScene.world markedPod) (sampleScene.world foreignPod) := by
    refine ⟨subset_rfl, fun p' member record => ⟨p', member, rfl, record⟩, fun dir => ?_⟩
    by_cases here : dir = sampleScene.dir
    · subst here
      rw [Scene.world_freezer, Scene.world_freezer]
      exact .inr ⟨Nat.zero_lt_one, rfl, rfl⟩
    · rw [Scene.world_freezer_other here, Scene.world_freezer_other here]
      exact .inl rfl
  have cool : (service sampleScene.cfg Others fun _ _ _ _ _ => True).start
      (sampleScene.world foreignPod) (refusedPass.run (sampleScene.handler fun b => b) untouchedPod).1
      (coolPass (refusedPass.run (sampleScene.handler fun b => b) untouchedPod).1) := by
    refine .inl ⟨false, _, _, fun p member => ?_, trivial, rfl⟩
    rw [List.mem_singleton.mp member]
    exact Scene.version_seen List.suffix_rfl
  have paused : Relation.ReflTransGen (service sampleScene.cfg Others fun _ _ _ _ _ => True).Step
      (.busy (coolPass (refusedPass.run (sampleScene.handler fun b => b) untouchedPod).1),
        sampleScene.world foreignPod)
      (.busy pausedPass.1, sampleScene.world pausedPass.2) :=
    Service.steps_of_pause (V := service sampleScene.cfg Others fun _ _ _ _ _ => True)
      (h := sampleScene.handler fun _ => false) sampleScene.world (Scene.handler_act _) isWrite
      (coolPass _) foreignPod
  obtain ⟨next, asks⟩ := Program.of_pending pausedPass_thaws.2
  rw [pausedPass_thaws.1, asks] at paused
  exact ⟨next, (marked.tail (.rely frozen)).trans (.head (.start cool) paused)⟩

theorem inv_untouched : Inv sampleScene.cfg (sampleScene.world untouchedPod) := by
  have nothing : ∀ dir, ((sampleScene.world untouchedPod).freezer dir).looked = none ∧
      ((sampleScene.world untouchedPod).freezer dir).recorded = none := by
    intro dir
    by_cases here : dir = sampleScene.dir
    · subst here
      rw [Scene.world_freezer]
      exact ⟨rfl, rfl⟩
    · rw [Scene.world_freezer_other here]
      exact ⟨rfl, rfl⟩
  refine ⟨fun dir n found => ?_, fun dir n found => ?_, fun p member record => ?_⟩
  · rw [(nothing dir).1] at found
    cases found
  · rw [(nothing dir).2] at found
    cases found
  · obtain ⟨m, older, suffix, rfl⟩ := member
    have latest := suffix.eq_of_length (by have := suffix.length_le; simp [untouchedPod] at this ⊢; omega)
    injection latest with unmarked
    have record : readMarker ((sampleScene.latest ⟨m, older, untouchedPod.freezer⟩).annotationAt
      Annotations.guardStateKey) = some freezeState := record
    rw [Scene.latest_annotationAt, unmarked, show untouchedPod.marker.getD "" = "" from rfl,
      readMarker_empty] at record
    cases record

/-- That thaw meets the condition: the marker was recorded after a look that showed `0`, and
the knob has been set since. -/
theorem thaws_after_look_foreign :
    ∃ n, foreignPod.freezer.recorded = some n ∧ n < foreignPod.freezer.changes := by
  obtain ⟨next, run⟩ := foreign_run
  have since := thaws_after_look sampleScene.cfg inv_untouched run
  rwa [Scene.world_freezer] at since

/-- **Not every freeze the guard lifts is its own**: here the one it is about to lift was set
by somebody else. -/
theorem thaws_foreign_freeze : ∃ (w₀ w : World) (next : WriteResult → Node Owned),
    Inv sampleScene.cfg w₀ ∧
    Relation.ReflTransGen (service sampleScene.cfg Others fun _ _ _ _ _ => True).Step (.idle ∅, w₀)
      (.busy (.ask (.writeFile sampleScene.dir "cgroup.freeze" "0") next), w) ∧
    (w.freezer sampleScene.dir).value = some true ∧ (w.freezer sampleScene.dir).byGuard = false := by
  obtain ⟨next, run⟩ := foreign_run
  refine ⟨_, _, next, inv_untouched, run, ?_⟩
  rw [Scene.world_freezer]
  exact ⟨rfl, rfl⟩

end

end CpuIdle.Guard
