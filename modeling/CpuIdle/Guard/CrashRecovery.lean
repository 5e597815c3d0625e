/-
# Guard.CrashRecovery — a pass killed anywhere, then one recovery

A converge pass runs over a cache equal to the API server, with nobody else writing; any
of its effects may fail. It is killed at any point. A fresh process whose cache equals the
API server then runs `Recover`, and everything that can succeed does.

* `Inv`: the pods nobody owned are as they were, every other is unmarked and thawed or
  marked, whatever its knob holds;
* `discipline`: every point of the pass keeps it;
* `recoverPods_cleans`: the recovery clears every marker and thaws its pod;
* `crash_recovery`: both together, and a second recovery does nothing.
-/
import CpuIdle.Guard.OnePod

namespace CpuIdle.Guard

open CpuIdle.Go CpuIdle.Kube CpuIdle.Node CpuIdle.Theory CpuIdle.Cgroup CpuIdle.Kernel.Cgroup

set_option autoImplicit false

/-- A cache that equals the API server. -/
structure Listing (s : Store) (pods : List Pod) : Prop where
  nodup : pods.Nodup
  mem : ∀ p, p ∈ pods ↔ s.pods p.ns p.name = some p

namespace CrashRecovery

section

variable [PrintTable] (cfg : Config)

/-- Every pod has its directory and is unmarked or carries a freeze record. -/
structure Initial (w : World) : Prop where
  finite : w.store.seen.Finite
  state : ∀ ns name p, w.store.pods ns name = some p →
    (∃ dir b, podDir cfg p = .ok dir ∧ (w.freezer dir).value = some b) ∧
      (p.annotationAt Annotations.guardStateKey = "" ∨
        readMarker (p.annotationAt Annotations.guardStateKey) = some freezeState)

/-- The map of a running guard is empty or agrees with the markers. -/
def Agrees (owned : Owned) (w : World) : Prop :=
  ∀ uid own, owned.lookup uid = some own →
    own.pod ∈ w.store.seen ∧ own.pod.uid = uid ∧ own.state = freezeState ∧
      ∃ ns name p, w.store.pods ns name = some p ∧ p.uid = uid ∧
        readMarker (p.annotationAt Annotations.guardStateKey) = some freezeState

/-- Frozen by somebody else at the start, and not marked. -/
def Foreign (w₀ : World) (p : Pod) : Prop :=
  ∃ q dir, w₀.store.pods p.ns p.name = some q ∧ q.uid = p.uid ∧ podDir cfg q = .ok dir ∧
    q.annotationAt Annotations.guardStateKey = "" ∧ (w₀.freezer dir).value = some true

/-- What each pod's annotation and knob may be, from the start to the end. -/
inductive PodState (w₀ w : World) (p : Pod) (dir : String) : Prop where
  | foreign (foreign : Foreign cfg w₀ p) (unmarked : p.annotationAt Annotations.guardStateKey = "")
      (frozen : (w.freezer dir).value = some true)
  | marked (ours : ¬Foreign cfg w₀ p)
      (marked : readMarker (p.annotationAt Annotations.guardStateKey) = some freezeState)
      (b : Bool) (shows : (w.freezer dir).value = some b)
  | clean (ours : ¬Foreign cfg w₀ p) (unmarked : p.annotationAt Annotations.guardStateKey = "")
      (thawed : (w.freezer dir).value = some false)

structure Inv (w₀ w : World) : Prop where
  finite : w.store.seen.Finite
  kept : w₀.store.seen ⊆ w.store.seen
  /-- The same pods under the same names. -/
  uids : ∀ ns name, (w.store.pods ns name).map Pod.uid = (w₀.store.pods ns name).map Pod.uid
  located : ∀ ns name p, w.store.pods ns name = some p → ∃ dir, podDir cfg p = .ok dir
  state : ∀ ns name p dir, w.store.pods ns name = some p → podDir cfg p = .ok dir →
    PodState cfg w₀ w p dir

/-- The Pod of this UID carries a freeze record. -/
def InForce (uid : String) (w : World) : Prop :=
  ∀ ns name p, w.store.pods ns name = some p → p.uid = uid →
    readMarker (p.annotationAt Annotations.guardStateKey) = some freezeState

def predicates (w₀ : World) : Predicates where
  Known p := w₀.store.pods p.ns p.name = some p
  Inv := Inv cfg w₀
  Ours uid w := ∀ ns name p, w.store.pods ns name = some p → p.uid = uid → ¬Foreign cfg w₀ p
  InForce := InForce
  Looked dir w := (w.freezer dir).value = some false
  Thawed dir w := (w.freezer dir).value ≠ some true
  Frozen _ _ := True
  Lift _ _ _ := True
  Write _ _ _ _ := True

variable {cfg}

theorem Initial.inv {w₀ : World} (initial : Initial cfg w₀) : Inv cfg w₀ w₀ where
  finite := initial.finite
  kept := subset_rfl
  uids _ _ := rfl
  located ns name p live := by
    obtain ⟨⟨dir, b, computed, -⟩, -⟩ := initial.state ns name p live
    exact ⟨dir, computed⟩
  state ns name p dir live computed := by
    obtain ⟨⟨dir', b, computed', shows⟩, marks⟩ := initial.state ns name p live
    obtain rfl : dir' = dir := Except.ok.inj (computed'.symm.trans computed)
    obtain ⟨-, rfl, rfl⟩ := w₀.store.stored _ _ _ live
    have foreign : Foreign cfg w₀ p → p.annotationAt Annotations.guardStateKey = "" ∧
        (w₀.freezer dir').value = some true := by
      rintro ⟨q, d, found, -, where_q, unmarked, frozen⟩
      obtain rfl := Option.some.inj (live.symm.trans found)
      obtain rfl := Except.ok.inj (computed.symm.trans where_q)
      exact ⟨unmarked, frozen⟩
    by_cases isForeign : Foreign cfg w₀ p
    · exact .foreign isForeign (foreign isForeign).1 (foreign isForeign).2
    · rcases marks with unmarked | marked
      · refine .clean isForeign unmarked ?_
        cases b with
        | false => exact shows
        | true => exact absurd ⟨p, dir', live, rfl, computed, unmarked, shows⟩ isForeign
      · exact .marked isForeign marked b shows

theorem PodState.congr {w₀ w w' : World} {p : Pod} {dir : String}
    (value : (w'.freezer dir).value = (w.freezer dir).value) (state : PodState cfg w₀ w p dir) :
    PodState cfg w₀ w' p dir := by
  cases state with
  | foreign foreign unmarked frozen => exact .foreign foreign unmarked (value ▸ frozen)
  | marked ours marked b shows => exact .marked ours marked b (value ▸ shows)
  | clean ours unmarked thawed => exact .clean ours unmarked (value ▸ thawed)

/-- An effect on the knobs alone. -/
theorem knobs_carry {w₀ w w' : World} (inv : Inv cfg w₀ w) (store : w'.store = w.store)
    (state : ∀ ns name p dir, w.store.pods ns name = some p → podDir cfg p = .ok dir →
      PodState cfg w₀ w' p dir) : (predicates cfg w₀).Carries [] w w' where
  inv := {
    finite := store ▸ inv.finite
    kept := store ▸ inv.kept
    uids := store ▸ inv.uids
    located := store ▸ inv.located
    state := by rw [store]; exact state }
  seen := by rw [store]
  ours uid ours := by
    intro ns name p live
    rw [store] at live
    exact ours ns name p live
  inForce uid _ marked := by
    intro ns name p live
    rw [store] at live
    exact marked ns name p live

/-- An effect that leaves every knob as it reads. -/
theorem same_carry {w₀ w w' : World} (inv : Inv cfg w₀ w) (store : w'.store = w.store)
    (value : ∀ dir, (w'.freezer dir).value = (w.freezer dir).value) :
    (predicates cfg w₀).Carries [] w w' :=
  knobs_carry inv store fun ns name p dir live computed =>
    (inv.state ns name p dir live computed).congr (value dir)

/-- Setting the knob of one pod, marked if it is frozen. -/
theorem freeze_carry {w₀ w : World} {p : Pod} {dir : String} {b : Bool} (inv : Inv cfg w₀ w)
    (seen : p ∈ w.store.seen) (computed : podDir cfg p = .ok dir)
    (ours : (predicates cfg w₀).Ours p.uid w) (marked : b = true → InForce p.uid w) :
    (predicates cfg w₀).Carries [] w (w.freeze dir b) := by
  refine knobs_carry inv rfl fun ns name q d live where_q => ?_
  by_cases same : d = dir
  · subst same
    have uid := w.uid_of_podDir (w.store.stored _ _ _ live).1 seen where_q computed
    have mine := ours ns name q live uid
    have shows : ((w.freeze d b).freezer d).value = some b := by rw [World.freeze_self]
    cases inv.state ns name q d live where_q with
    | foreign foreign => exact absurd foreign mine
    | marked _ marked => exact .marked mine marked b shows
    | clean _ unmarked =>
        cases b with
        | false => exact .clean mine unmarked shows
        | true => exact .marked mine (marked rfl ns name q live uid) true shows
  · exact (inv.state ns name q d live where_q).congr (by rw [World.freeze_other same])

theorem foreign_patched {w₀ w w' : World} {ns name : String} {patch : MarkerPatch} {p p' : Pod}
    (patches : w.Patches cfg ns name patch p p' w') : Foreign cfg w₀ p' ↔ Foreign cfg w₀ p := by
  obtain ⟨resourceVersion, rfl⟩ := patches.store.result
  exact Iff.rfl

/-- A patch, if the Pod it leaves is as it may be. -/
theorem patch_carry {w₀ w w' : World} {ns name : String} {patch : MarkerPatch} {p p' : Pod}
    {cleared : List String} (inv : Inv cfg w₀ w) (patches : w.Patches cfg ns name patch p p' w')
    (state : ∀ dir, podDir cfg p = .ok dir → PodState cfg w₀ w p dir → PodState cfg w₀ w p' dir)
    (marks : p.uid ∉ cleared → InForce p.uid w →
      readMarker (p'.annotationAt Annotations.guardStateKey) = some freezeState) :
    (predicates cfg w₀).Carries cleared w w' := by
  have found := patches.store.found
  have uid := patches.store.uid
  have seen : w.store.seen ⊆ w'.store.seen := patches.store.put.mono
  have sameDir : podDir cfg p' = podDir cfg p := by
    obtain ⟨resourceVersion, rfl⟩ := patches.store.result
    rfl
  have value : ∀ dir, (w'.freezer dir).value = (w.freezer dir).value := by
    intro dir
    obtain ⟨recorded, same, -⟩ := patches.freezer_eq dir
    rw [same]
  refine ⟨⟨?finite, inv.kept.trans seen, ?uids, ?located, ?state⟩, seen, ?ours, ?inForce⟩
  case finite =>
    rw [patches.store.put.seen]
    exact inv.finite.insert _
  case uids =>
    intro ns' name'
    rw [patches.store.pods_eq, ← inv.uids]
    split
    · rename_i same
      rw [same.1, same.2, found, Option.map_some, Option.map_some, uid]
    · rfl
  case located =>
    intro ns' name' q live
    rcases patches.store.live live with rfl | before
    · rw [sameDir]
      exact inv.located ns name p found
    · exact inv.located ns' name' q before
  case state =>
    intro ns' name' q dir live computed
    rcases patches.store.live live with rfl | before
    · rw [sameDir] at computed
      exact (state dir computed (inv.state ns name p dir found computed)).congr (value dir)
    · exact (inv.state ns' name' q dir before computed).congr (value dir)
  case ours =>
    intro u ours ns' name' q live same
    rcases patches.store.live live with rfl | before
    · rw [foreign_patched patches]
      exact ours ns name p found (uid.symm.trans same)
    · exact ours ns' name' q before same
  case inForce =>
    intro u kept marked ns' name' q live same
    rcases patches.store.live live with rfl | before
    · obtain rfl : p.uid = u := uid.symm.trans same
      exact marks kept marked
    · exact marked ns' name' q before same

/-- **The discipline of a pass that can be cleaned up after.** -/
def discipline [Qos.ResourceHelper] (cfg : Config) (w₀ : World) :
    Discipline cfg (fun _ _ => False) where
  toPredicates := predicates cfg w₀
  others move := move.elim
  listed {w p} inv known seen marked := by
    rintro ns name q live same ⟨q₀, dir, found, uid, computed, unmarked, frozen⟩
    -- the listed version is the one the store began with
    obtain rfl := w₀.live_unique found known (uid.trans same)
    rw [unmarked, readMarker_empty] at marked
    cases marked
  look {w dir b} inv shows := by
    refine ⟨same_carry inv rfl fun d => World.look_value, ?_⟩
    rintro rfl
    have value : ((w.look dir false).freezer dir).value = some false := by simpa using shows
    exact ⟨value, fun frozen => absurd (value.symm.trans frozen) (by decide)⟩
  look_frozen _ _ _ _ _ := trivial
  gone {w dir} _ absent frozen := by simp [absent] at frozen
  freeze {w p dir} inv seen computed ours inForce :=
    ⟨trivial, fun _ => freeze_carry inv seen computed ours fun _ => inForce⟩
  thaw {w p dir} inv seen computed ours _ := by
    refine ⟨trivial, fun _ => ⟨freeze_carry inv seen computed ours nofun, fun frozen => ?_⟩⟩
    rw [World.freeze_self] at frozen
    cases frozen
  mark {w w' ns name patch p p' dir} inv patches computed thawed unmarked written := by
    have found := patches.store.found
    have marked : readMarker (p'.annotationAt Annotations.guardStateKey) = some freezeState := by
      rw [patches.store.annotationAt, written]
      exact readMarker_encode_freezeState
    have ours : ¬Foreign cfg w₀ p := by
      intro foreign
      cases inv.state ns name p dir found computed with
      | foreign _ _ frozen => exact absurd (frozen.symm.trans thawed) (by decide)
      | marked ours => exact ours foreign
      | clean ours => exact ours foreign
    have carries : (predicates cfg w₀).Carries [] w w' := by
      refine patch_carry inv patches (fun d where_p _ => ?_) fun _ _ => marked
      obtain rfl := Except.ok.inj (computed.symm.trans where_p)
      exact .marked ((foreign_patched patches).not.mpr ours) marked false thawed
    refine ⟨carries, carries.ours p.uid fun ns' name' q live same => ?_, fun ns' name' q live same => ?_⟩
    · rwa [w.live_unique live found same]
    · rwa [w'.live_unique live patches.store.latest (same.trans patches.store.uid.symm)]
  clear {w w' ns name patch p p'} inv patches thawed marked gone := by
    have unmarked : p'.annotationAt Annotations.guardStateKey = "" := by
      rw [patches.store.annotationAt, gone, Option.getD_none]
    refine patch_carry inv patches (fun dir computed state => ?_) fun kept => absurd (.head _) kept
    cases state with
    | foreign _ unmarked => simp [unmarked, readMarker_empty] at marked
    | marked ours _ b shows =>
        refine .clean ((foreign_patched patches).not.mpr ours) unmarked ?_
        cases b with
        | false => exact shows
        | true => exact absurd shows (thawed dir computed)
    | clean _ unmarked => simp [unmarked, readMarker_empty] at marked
  sweep {w w' ns name patch p p'} inv patches foreign gone := by
    have unmarked : p'.annotationAt Annotations.guardStateKey = "" := by
      rw [patches.store.annotationAt, gone, Option.getD_none]
    refine patch_carry inv patches (fun dir computed state => ?_) fun _ inForce => ?_
    · cases state with
      | foreign isForeign _ frozen => exact .foreign ((foreign_patched patches).mpr isForeign) unmarked frozen
      | marked _ marked => exact absurd marked foreign
      | clean ours _ thawed => exact .clean ((foreign_patched patches).not.mpr ours) unmarked thawed
    · exact absurd (inForce ns name p patches.store.found rfl) foreign
  quota _ _ inv := same_carry inv rfl fun _ => rfl
  lift_read _ _ _ := trivial
  lift _ _ _ _ _ _ _ _ := trivial

/-! ## The recovery -/

/-- The answers that count as success. -/
def Succeeds : (r : Request) → Answer r → Prop
  | .ctxErr, answer => answer = false
  | .readFile _ _, answer => ∃ content, answer = ReadResult.data content
  | .writeFile _ _ _, answer => answer = WriteResult.written
  | .getPod _ _, answer => ∃ p, answer = GetResult.found p
  | .patchPod _ _ _, answer => answer = PatchResult.patched
  | _, _ => True

/-- Nobody else moves, and a request that can succeed does. -/
def smooth (cfg : Config) : Arena nodeSignature World :=
  { act := fun w r answer w' => World.act cfg w r answer w' ∧
      ((∃ answer' w'', Succeeds r answer' ∧ World.act cfg w r answer' w'') → Succeeds r answer)
    rely := fun _ _ => False }

abbrev anything : Guarantee nodeSignature World := fun _ _ _ _ => True

omit [PrintTable] in
theorem smooth_stable [PrintTable] (P : World → Prop) : (smooth cfg).Stable P := fun _ _ move => move.elim

theorem smooth_silent (P : World → Prop) : Observe.Silent (smooth cfg) anything P where
  stable := smooth_stable P
  inc _ _ holds _ _ act := ⟨trivial, (show _ = _ from act.1) ▸ holds⟩
  event _ _ holds _ _ act := ⟨trivial, (show _ = _ from act.1) ▸ holds⟩

/-- Every request has an answer. -/
theorem smooth_total (w : World) (r : Request) : ∃ answer w', (smooth cfg).act w r answer w' := by
  have total : ∃ answer w', World.act cfg w r answer w' := by
    cases r with
    | ctxErr => exact ⟨false, w, rfl⟩
    | readFile dir name => exact ⟨ReadResult.notExist, w, nofun, fun _ => rfl⟩
    | stat dir => exact ⟨StatResult.directory, w, rfl, nofun⟩
    | writeFile dir name value => exact ⟨WriteResult.notExist, w, nofun, fun _ => rfl⟩
    | getPod ns name => exact ⟨GetResult.notFound, w, rfl, fun _ same => by cases same⟩
    | patchPod ns name patch => exact ⟨PatchResult.notFound, w, nofun, fun _ => rfl, nofun⟩
    | listNodePods nodeName => exact ⟨Except.ok [], w, rfl⟩
    | listCache => exact ⟨Except.ok [], w, rfl, fun pods same => by cases same; simp⟩
    | getCache ns name => exact ⟨GetResult.notFound, w, rfl⟩
    | rangeKeys keys => exact ⟨⟨keys.toList, keys.nodup_toList, keys.toList_toFinset⟩, w, rfl⟩
    | rangeLabels keys => exact ⟨⟨keys.toList, keys.nodup_toList, keys.toList_toFinset⟩, w, rfl⟩
    | inc counter => exact ⟨(), w, rfl⟩
    | setPodsInTier node label count => exact ⟨(), w, rfl⟩
    | deletePodsInTier node label => exact ⟨(), w, rfl⟩
    | event e => exact ⟨(), w, rfl⟩
    | now => exact ⟨(0 : Int), w, rfl⟩
    | numCPU => exact ⟨(0 : Int), w, rfl⟩
    | reportHealth healthy => exact ⟨(), w, rfl⟩
    | gateCheck root kubepodsName => exact ⟨GateResult.notReady "", w, rfl⟩
    | flushTable lines => exact ⟨none, w, rfl⟩
  by_cases can : ∃ answer' w'', Succeeds r answer' ∧ World.act cfg w r answer' w''
  · obtain ⟨answer, w', success, act⟩ := can
    exact ⟨answer, w', act, fun _ => success⟩
  · obtain ⟨answer, w', act⟩ := total
    exact ⟨answer, w', act, fun possible => absurd possible can⟩

/-- `rest` are the listed pods still to deal with; no other pod is marked. -/
structure Remaining (cfg : Config) (w₀ : World) (rest : List Pod) (w : World) : Prop where
  inv : Inv cfg w₀ w
  live : ∀ p ∈ rest, w.store.pods p.ns p.name = some p
  cleaned : ∀ ns name q, w.store.pods ns name = some q →
    q ∈ rest ∨ q.annotationAt Annotations.guardStateKey = ""

variable {w₀ : World} {rest : List Pod} {pod : Pod} {dir : String}

theorem Remaining.knobs {w w' : World} (remaining : Remaining cfg w₀ rest w)
    (store : w'.store = w.store) (inv : Inv cfg w₀ w') : Remaining cfg w₀ rest w' where
  inv := inv
  live := store ▸ remaining.live
  cleaned := store ▸ remaining.cleaned

theorem Remaining.shows {w : World} (remaining : Remaining cfg w₀ (pod :: rest) w)
    (computed : podDir cfg pod = .ok dir) : ∃ b, (w.freezer dir).value = some b := by
  cases remaining.inv.state _ _ _ dir (remaining.live pod (.head _)) computed with
  | foreign _ _ frozen => exact ⟨true, frozen⟩
  | marked _ _ b shows => exact ⟨b, shows⟩
  | clean _ _ thawed => exact ⟨false, thawed⟩

variable [Qos.ResourceHelper]

omit [Qos.ResourceHelper] in
theorem clearMarker_smooth [Qos.ResourceHelper] (fresh : pod ∉ rest)
    (marked : readMarker (pod.annotationAt Annotations.guardStateKey) = some freezeState)
    (computed : podDir cfg pod = .ok dir) :
    Holds (smooth cfg) anything
      (fun w => Remaining cfg w₀ (pod :: rest) w ∧ (w.freezer dir).value ≠ some true)
      (clearMarker pod freezeState) fun result w => result = none ∧ Remaining cfg w₀ rest w := by
  have filled : pod.annotationAt Annotations.guardStateKey ≠ "" := by
    intro empty
    simp [empty, readMarker_empty] at marked
  let P : World → Prop := fun w =>
    Remaining cfg w₀ (pod :: rest) w ∧ (w.freezer dir).value ≠ some true
  refine .bind (.request (Q := fun answer w => answer = GetResult.found pod ∧ P w) (smooth_stable _)
    fun w known answer w' act => ?_) fun answer => ?_
  · obtain ⟨⟨rfl, found⟩, success⟩ := act
    have live := known.1.live pod (.head _)
    obtain ⟨p, rfl⟩ := success ⟨GetResult.found pod, w', ⟨pod, rfl⟩, rfl, fun p same => by
      cases same
      exact live⟩
    obtain rfl := Option.some.inj ((found p rfl).symm.trans live)
    exact ⟨trivial, rfl, known⟩
  refine .assume fun same => ?_
  subst same
  refine .ite (fun differs => absurd rfl differs) fun _ => ?_
  refine .ite (fun empty => by simp [filled] at empty) fun _ => ?_
  refine .ite (fun mismatch => by simp [markerMatches, marked] at mismatch) fun _ => ?_
  refine .bind (.request (Q := fun answer w => answer = PatchResult.patched ∧
    Remaining cfg w₀ rest w) (smooth_stable _) fun w known answer w' act => ⟨trivial, ?_⟩)
    fun answer => .assume fun same => same ▸ .pure fun w remaining => ⟨rfl, remaining⟩
  obtain ⟨remaining, thawed⟩ := known
  have live := remaining.live pod (.head _)
  have allows : MarkerPatch.Allows (markerPatch pod "" true) pod := by
    refine ⟨rfl, fun version found => ?_⟩
    simp only [markerPatch] at found
    split at found
    · exact (Option.some.inj found).symm
    · cases found
  obtain ⟨p', w'', can⟩ := w.exists_patches remaining.inv.finite live allows
  obtain rfl : answer = PatchResult.patched :=
    act.2 ⟨PatchResult.patched, w'', rfl, fun _ => ⟨_, _, can⟩,
      by simp, by simp⟩
  obtain ⟨p, p', patches⟩ := act.1.1 rfl
  obtain rfl := Option.some.inj (patches.store.found.symm.trans live)
  have unmarked : p'.annotationAt Annotations.guardStateKey = "" := patches.store.annotationAt
  have carries := (discipline cfg w₀).clear remaining.inv patches (fun d where_p => by
    obtain rfl := Except.ok.inj (computed.symm.trans where_p)
    exact thawed) marked rfl
  refine ⟨rfl, carries.inv, fun q member => ?_, fun ns name q now => ?_⟩
  · have before := remaining.live q (.tail _ member)
    rw [patches.store.pods_eq, if_neg]
    · exact before
    · rintro ⟨ns, name⟩
      rw [ns, name, live] at before
      exact fresh (Option.some.inj before ▸ member)
  · rw [patches.store.pods_eq] at now
    split at now
    · obtain rfl := Option.some.inj now
      exact .inr unmarked
    · rename_i elsewhere
      rcases remaining.cleaned ns name q now with member | clean
      · rcases List.mem_cons.mp member with rfl | member
        · obtain ⟨-, rfl, rfl⟩ := w.store.stored _ _ _ now
          exact absurd ⟨rfl, rfl⟩ elsewhere
        · exact .inl member
      · exact .inr clean

theorem relinquish_smooth (fresh : pod ∉ rest)
    (marked : readMarker (pod.annotationAt Annotations.guardStateKey) = some freezeState)
    (computed : podDir cfg pod = .ok dir) (changed : Bool) :
    Holds (smooth cfg) anything
      (fun w => Remaining cfg w₀ (pod :: rest) w ∧ (w.freezer dir).value ≠ some true)
      (relinquish ∅ pod freezeState changed)
      fun result w => result = (changed, none, ∅) ∧ Remaining cfg w₀ rest w := by
  refine .bind (clearMarker_smooth fresh marked computed) fun result => .assume fun same => ?_
  subst same
  exact .pure fun w remaining => ⟨by rw [erase_empty], remaining⟩

/-- One marked pod. -/
theorem restorePod_smooth (fresh : pod ∉ rest)
    (marked : readMarker (pod.annotationAt Annotations.guardStateKey) = some freezeState) :
    Holds (smooth cfg) anything (Remaining cfg w₀ (pod :: rest)) (restorePod cfg ∅ pod freezeState)
      fun result w => result.2 = (none, ∅) ∧ Remaining cfg w₀ rest w := by
  refine .of_forall fun w₁ remaining₁ => ?_
  have live₁ := remaining₁.live pod (.head _)
  have slashless := (w₁.uids pod (w₁.store.stored _ _ _ live₁).1).no_slash
  obtain ⟨dir, computed⟩ := remaining₁.inv.located _ _ _ live₁
  have target : guardWriteTarget dir cfg.layout.root cfg.layout.kubepodsName = none :=
    Layout.podDir_accepted slashless (World.ok_of_podDir.mp computed)
  refine Holds.pre (P := Remaining cfg w₀ (pod :: rest)) ?_ fun w same => same ▸ remaining₁
  have goes : Holds (smooth cfg) anything (Remaining cfg w₀ (pod :: rest)) ctxErr
      fun answer w => answer = false ∧ Remaining cfg w₀ (pod :: rest) w :=
    .request (smooth_stable _) fun w remaining answer w' act => by
      obtain ⟨rfl, success⟩ := act
      exact ⟨trivial, success ⟨false, w', rfl, rfl⟩, remaining⟩
  have valid : validateState freezeState = none := validateState_none.mpr (.inl rfl)
  unfold restorePod
  refine .bind goes fun cancelled => .assume fun live => ?_
  subst live
  refine .ite (fun cancelled => absurd cancelled Bool.false_ne_true) fun _ => ?_
  simp only [valid, computed]
  refine .bind (readKnob_succeeds (Q := fun result w => ∃ b, result = .ok (bit b) ∧
    Remaining cfg w₀ (pod :: rest) w ∧ (w.freezer dir).value = some b) (by decide) (smooth_stable _)
    fun w remaining answer w' act => ⟨trivial, ?read⟩)
    fun result => .exists fun b => .assume fun same => ?_
  case read =>
    obtain ⟨b, shows⟩ := remaining.shows computed
    obtain ⟨content, rfl⟩ := act.2 ⟨ReadResult.data (bit b ++ "\n"), w.look dir b, ⟨_, rfl⟩,
      fun content same => by cases same; exact .freeze shows, fun other => absurd rfl (other _)⟩
    obtain ⟨b', shows', rfl, rfl⟩ := (act.1.1 content rfl).of_freeze
    obtain rfl := Option.some.inj (shows.symm.trans shows')
    refine ⟨_, rfl, b, by rw [trimSpace_bit], ?_, by simpa using shows⟩
    exact remaining.knobs rfl ((discipline cfg w₀).look remaining.inv shows).1.inv
  subst same
  refine .ite (fun differs => ?_) fun _ => ?_
  · refine (relinquish_smooth fresh marked computed false).pre (fun w known => ⟨known.1, fun frozen => ?_⟩)
      |>.post fun result w known => ⟨by rw [known.1], known.2⟩
    obtain rfl := Option.some.inj (known.2.symm.trans frozen)
    exact differs rfl
  refine .ite (fun legacy => absurd legacy.1 (by decide)) fun _ => ?_
  refine .bind (.pre goes fun w known => known.1) fun cancelled => .assume fun live => ?_
  subst live
  refine .ite (fun cancelled => absurd cancelled Bool.false_ne_true) fun _ => ?_
  refine .bind (writeKnob_succeeds (Q := fun result w => result = none ∧
    Remaining cfg w₀ (pod :: rest) w ∧ (w.freezer dir).value ≠ some true) (by decide) target
    (smooth_stable _) fun w remaining answer w' act => ⟨trivial, ?write⟩)
    fun result => .assume fun same => ?_
  case write =>
    have live := remaining.live pod (.head _)
    have seen := (w.store.stored _ _ _ live).1
    obtain ⟨b, shows⟩ := remaining.shows computed
    have present : (w.freezer dir).value.isSome = true := by rw [shows]; rfl
    have ours : (predicates cfg w₀).Ours pod.uid w := by
      intro ns name q found same
      rw [w.live_unique found live same]
      cases remaining.inv.state _ _ _ dir live computed with
      | foreign _ unmarked => simp [unmarked, readMarker_empty] at marked
      | marked ours => exact ours
      | clean ours => exact ours
    obtain rfl : answer = WriteResult.written :=
      act.2 ⟨WriteResult.written, w.freeze dir false, rfl,
        fun _ => World.Writes.freeze (b := false) present, fun other => absurd rfl other⟩
    obtain ⟨-, rfl⟩ := World.Writes.of_freeze (b := false) (act.1.1 rfl)
    obtain ⟨carries, thawed⟩ := ((discipline cfg w₀).thaw remaining.inv seen computed ours trivial).2 present
    exact ⟨rfl, rfl, remaining.knobs rfl carries.inv, thawed⟩
  subst same
  refine .bind (Observe.Silent.record (smooth_silent _) _ _ _ _ _ _ _) fun _ => ?_
  exact (relinquish_smooth fresh marked computed true).post fun result w known =>
    ⟨by rw [known.1], known.2⟩

/-- The loop of `Recover`. -/
theorem recoverPods_cleans (nodup : rest.Nodup) (errs : List GoError) :
    Holds (smooth cfg) anything (Remaining cfg w₀ rest) (recoverPods cfg rest ∅ errs)
      fun result w => result = (errs, ∅) ∧ Remaining cfg w₀ [] w := by
  induction rest with
  | nil => exact .pure fun w remaining => ⟨rfl, remaining⟩
  | cons pod rest ih =>
      obtain ⟨fresh, nodup⟩ := List.nodup_cons.mp nodup
      have later := ih nodup
      refine .of_forall fun w remaining => ?_
      have live := remaining.live pod (.head _)
      obtain ⟨dir, computed⟩ := remaining.inv.located _ _ _ live
      have unmarks : pod.annotationAt Annotations.guardStateKey = "" ∨
          readMarker (pod.annotationAt Annotations.guardStateKey) = some freezeState := by
        cases remaining.inv.state _ _ _ dir live computed with
        | foreign _ unmarked => exact .inl unmarked
        | marked _ marked => exact .inr marked
        | clean _ unmarked => exact .inl unmarked
      unfold recoverPods
      rcases unmarks with unmarked | marked
      · have held : stateForPod ∅ pod = .ok none := by simp [stateForPod, unmarked]
        simp only [held]
        refine later.pre fun w' same => ?_
        subst same
        refine ⟨remaining.inv, fun p member => remaining.live p (.tail _ member), fun ns name q found => ?_⟩
        rcases remaining.cleaned ns name q found with member | clean
        · rcases List.mem_cons.mp member with rfl | member
          · exact .inr unmarked
          · exact .inl member
        · exact .inr clean
      · have filled : pod.annotationAt Annotations.guardStateKey ≠ "" := by
          intro empty
          simp [empty, readMarker_empty] at marked
        obtain ⟨decoded, valid⟩ := readMarker_eq_some.mp marked
        have held : stateForPod ∅ pod = .ok (some freezeState) := by
          simp [stateForPod, filled, decoded, valid]
        simp only [held]
        refine .bind ((restorePod_smooth fresh marked).pre fun w' same => same ▸ remaining) fun result => ?_
        obtain ⟨changed, err, owned⟩ := result
        refine .assume fun same => ?_
        obtain ⟨rfl, rfl⟩ := Prod.mk.inj same
        simpa using later

/-- With no records there is nothing to walk. -/
theorem restoreLocal_empty (seen : List String) (errs : List GoError) :
    restoreLocal cfg seen ∅ errs =
      ask (.rangeKeys (∅ : Owned).keys) >>= fun _ => pure (errs, ∅) := by
  have empty : ∀ walk : Walk (∅ : Owned).keys, walk.val = [] := by
    intro walk
    rw [← List.toFinset_eq_empty_iff, walk.property.2]
    rfl
  unfold restoreLocal
  congr 1
  funext order
  exact congrArg (restoreUnseen cfg seen · ∅ errs) (empty order)

theorem recover_cleans (nodup : rest.Nodup) :
    Holds (smooth cfg) anything (Remaining cfg w₀ rest) (recover cfg (pure (.ok rest)) ∅)
      fun result w => result = (none, ∅) ∧ Remaining cfg w₀ [] w := by
  have walk : ∀ seen errs, Holds (smooth cfg) anything (Remaining cfg w₀ [])
      (restoreLocal cfg seen ∅ errs)
      fun result w => result = (errs, ∅) ∧ Remaining cfg w₀ [] w := by
    intro seen errs
    rw [restoreLocal_empty]
    exact .bind (.request (Q := fun _ w => Remaining cfg w₀ [] w) (smooth_stable _)
      fun w remaining order w' act => ⟨trivial, (show w' = w from act.1) ▸ remaining⟩) fun order =>
        .pure fun w remaining => ⟨rfl, remaining⟩
  change Holds _ _ _ (recoverPods cfg rest ∅ [] >>= _) _
  refine .bind (recoverPods_cleans nodup []) fun result => .assume fun same => ?_
  subst same
  refine .bind (walk _ _) fun result => .assume fun same => ?_
  subst same
  exact .pure fun w remaining => ⟨rfl, remaining⟩

/-- An event that neither writes a knob nor patches a Pod. -/
def Harmless (event : Program.Event nodeSignature) : Prop :=
  (∀ dir name value, event.1 ≠ .writeFile dir name value) ∧
    ∀ ns name patch, event.1 ≠ .patchPod ns name patch

theorem recoverPods_idle (unmarked : ∀ p ∈ rest, p.annotationAt Annotations.guardStateKey = "")
    (errs : List GoError) : recoverPods cfg rest ∅ errs = pure (errs, ∅) := by
  induction rest with
  | nil => rfl
  | cons pod rest ih =>
      obtain ⟨here, later⟩ := List.forall_mem_cons.mp unmarked
      have held : stateForPod ∅ pod = .ok none := by simp [stateForPod, here]
      unfold recoverPods
      simp only [held]
      exact ih later

/-- With nothing marked `Recover` only looks. -/
theorem recover_idle (unmarked : ∀ p ∈ rest, p.annotationAt Annotations.guardStateKey = "")
    {events : List (Program.Event nodeSignature)} {p' : Node (Option GoError × Owned)}
    (path : Program.Path (recover cfg (pure (.ok rest)) ∅) events p') :
    ∀ event ∈ events, Harmless event := by
  refine Holds.events (P := fun _ => True) (Q := fun _ _ => True) ?_ trivial path
  change Holds _ _ _ (recoverPods cfg rest ∅ [] >>= _) _
  rw [recoverPods_idle unmarked]
  change Holds _ _ _ (restoreLocal cfg (rest.map Pod.uid) ∅ [] >>= _) _
  rw [restoreLocal_empty]
  have looks : Holds (Arena.free nodeSignature) (fun _ r answer _ => Harmless ⟨r, answer⟩)
      (fun _ => True) (ask (.rangeKeys (∅ : Owned).keys)) fun _ _ => True :=
    .request (Arena.free_stable _) fun _ _ _ _ _ => ⟨⟨nofun, nofun⟩, trivial⟩
  exact .bind (R := fun _ _ => True) (.bind looks fun _ => .pure fun _ _ => trivial)
    fun _ => .pure fun _ _ => trivial

/-! ## The pass before the crash -/

/-- One pass, which may be killed at any point. -/
def onePass (cfg : Config) : Service nodeSignature World (Option GoError × Owned) where
  arena := arena cfg fun _ _ => False
  start _ _ _ := False
  boot _ _ := False

theorem onePass_keeps {owned : Owned} {hot : Bool} {pods candidates : List Pod}
    {process : Process nodeSignature (Option GoError × Owned)} {w : World}
    (initial : Initial cfg w₀) (agrees : Agrees owned w₀)
    (cache : ∀ p ∈ pods, w₀.store.pods p.ns p.name = some p)
    (run : Relation.ReflTransGen (onePass cfg).Step
      (.busy (converge cfg owned hot pods candidates), w₀) (process, w)) : Inv cfg w₀ w := by
  let D := discipline cfg w₀
  have inv := initial.inv
  have obligations : Service.Preserves (onePass cfg) D.guarantee D.Inv fun result w => D.Rests result.2 w :=
    { world := fun _ _ move => move.elim
      memory := fun _ => D.held_stable
      keeps := fun _ _ _ _ inv _ kept => kept.1 inv
      starts := fun _ _ _ _ _ never => never.elim
      boots := fun _ _ _ never => never.elim }
  have owned_marked : ∀ uid own, owned.lookup uid = some own → InForce uid w₀ := by
    intro uid own found ns name p live same
    obtain ⟨-, -, -, ns', name', q, live', same', marked⟩ := agrees uid own found
    rwa [w₀.live_unique live live' (same.trans same'.symm)]
  have held : D.Held pods (fun uid => hot = true ∧ uid ∈ candidates.map Pod.uid) owned [] w₀ := by
    have owns : D.Owns owned w₀ := by
      intro uid own found
      obtain ⟨seen, same, fresh, -⟩ := agrees uid own found
      refine ⟨seen, same, fresh, fun ns name q live sameUID foreign => ?_⟩
      obtain ⟨r, dir, live', uid', computed, unmarked, -⟩ := foreign
      have marked := owned_marked uid own found _ _ r live' (uid'.trans sameUID)
      rw [unmarked, readMarker_empty] at marked
      cases marked
    refine ⟨inv, fun p member => ⟨(w₀.store.stored _ _ _ (cache p member)).1, cache p member⟩, owns,
      fun p member _ _ marked => ?_⟩
    · rcases owns.state marked with ⟨-, own, found⟩ | ⟨-, read⟩
      · exact owned_marked p.uid own found
      · intro ns name q live same
        rwa [w₀.live_unique live (cache p member) same]
  have initially : ∀ c, c = (Process.busy (converge cfg owned hot pods candidates), w₀) →
      D.Inv c.2 ∧ Service.Sound (onePass cfg) D.guarantee (fun result w => D.Rests result.2 w) c.1 c.2 := by
    rintro _ rfl
    exact ⟨inv, D.converge_keeps w₀ held⟩
  exact (Service.invariant obligations initially ⟨_, rfl, run⟩).1

end

end CrashRecovery

section

variable [PrintTable] [Qos.ResourceHelper]

/-- What the recovery leaves: the same pods, unmarked; frozen are those that were frozen and
unmarked at the start. -/
def Recovered (cfg : Config) (w₀ w : World) : Prop :=
  ∀ ns name p, w₀.store.pods ns name = some p → ∃ p', w.store.pods ns name = some p' ∧
    p'.uid = p.uid ∧ p'.annotationAt Annotations.guardStateKey = "" ∧
    ∀ dir, podDir cfg p = .ok dir → ((w.freezer dir).value = some true ∨
        (w.freezer dir).value = some false) ∧
      ((w.freezer dir).value = some true ↔
        p.annotationAt Annotations.guardStateKey = "" ∧ (w₀.freezer dir).value = some true)

open CrashRecovery in
/-- **Crash recovery.** Wherever the pass is killed, a recovery that meets no failure can
run to its end, returns nil, clears every marker, thaws exactly what was not frozen by
somebody else, and leaves nothing for a second recovery to write or patch. -/
theorem crash_recovery (cfg : Config) {w₀ w : World} {owned : Owned} {hot : Bool}
    {pods candidates pods' : List Pod} {process : Process nodeSignature (Option GoError × Owned)}
    (initial : Initial cfg w₀) (agrees : Agrees owned w₀) (cache : Listing w₀.store pods)
    (crash : Relation.ReflTransGen (onePass cfg).Step
      (.busy (converge cfg owned hot pods candidates), w₀) (process, w))
    (cache' : Listing w.store pods') :
    (∃ result w', Exec (smooth cfg) (recover cfg (pure (.ok pods')) ∅) w result w') ∧
      ∀ result w', Exec (smooth cfg) (recover cfg (pure (.ok pods')) ∅) w result w' →
        result = (none, ∅) ∧ Recovered cfg w₀ w' ∧
        ∀ pods'', Listing w'.store pods'' → ∀ events p',
          Program.Path (recover cfg (pure (.ok pods'')) ∅) events p' →
            ∀ event ∈ events, Harmless event := by
  have inv := onePass_keeps initial agrees (fun p member => (cache.mem p).mp member) crash
  refine ⟨Program.exec_exists smooth_total _ w, fun result w' run => ?_⟩
  have start : Remaining cfg w₀ pods' w := by
    refine ⟨inv, fun p member => (cache'.mem p).mp member, fun ns name q live => .inl ?_⟩
    obtain ⟨-, rfl, rfl⟩ := w.store.stored _ _ _ live
    exact (cache'.mem q).mpr live
  obtain ⟨rfl, done⟩ := Safe.exec run (recover_cleans cache'.nodup w start)
  have unmarked : ∀ ns name q, w'.store.pods ns name = some q →
      q.annotationAt Annotations.guardStateKey = "" := fun ns name q live =>
    (done.cleaned ns name q live).resolve_left (by simp)
  refine ⟨rfl, fun ns name p live => ?_, fun pods'' cache'' events p' path => ?_⟩
  · have uids := done.inv.uids ns name
    rw [live] at uids
    obtain ⟨p', live', same⟩ := Option.map_eq_some_iff.mp uids
    have clear := unmarked ns name p' live'
    obtain ⟨seenP, nsP, nameP⟩ := w₀.store.stored _ _ _ live
    obtain ⟨seenP', nsP', nameP'⟩ := w'.store.stored _ _ _ live'
    refine ⟨p', live', same, clear, fun dir computed => ?_⟩
    have computed' : podDir cfg p' = .ok dir :=
      w'.podDir_of_uid (done.inv.kept seenP) seenP' same.symm computed
    have foreign : Foreign cfg w₀ p' ↔
        p.annotationAt Annotations.guardStateKey = "" ∧ (w₀.freezer dir).value = some true := by
      constructor
      · rintro ⟨q, d, found, -, where_q, unmarked, frozen⟩
        rw [nsP', nameP', live] at found
        obtain rfl := Option.some.inj found
        obtain rfl := Except.ok.inj (computed.symm.trans where_q)
        exact ⟨unmarked, frozen⟩
      · rintro ⟨unmarked, frozen⟩
        exact ⟨p, dir, by rw [nsP', nameP', live], same.symm, computed, unmarked, frozen⟩
    cases done.inv.state ns name p' dir live' computed' with
    | foreign isForeign _ frozen => exact ⟨.inl frozen, fun _ => foreign.mp isForeign, fun _ => frozen⟩
    | marked _ marked => simp [clear, readMarker_empty] at marked
    | clean ours _ thawed =>
        refine ⟨.inr thawed, fun frozen => ?_, fun known => absurd (foreign.mpr known) ours⟩
        exact absurd (thawed.symm.trans frozen) (by decide)
  · exact recover_idle (fun p member => unmarked _ _ p ((cache''.mem p).mp member)) path

end

/-! ## One crash -/

section

open CrashRecovery

attribute [local instance] asciiTable Qos.containerRequests

theorem scene_listing (s : Scene) (o : OnePod) : Listing (s.world o).store [s.latest o] where
  nodup := List.nodup_singleton _
  mem p := by
    rw [List.mem_singleton]
    constructor
    · rintro rfl
      exact Scene.live_latest
    · exact Scene.live_eq

/-- The pass that is about to crash. -/
def crashedPass : Node (Option GoError × Owned) :=
  converge sampleScene.cfg ∅ true [sampleScene.latest untouchedPod] [sampleScene.latest untouchedPod]

theorem crashedPass_freezes :
    (crashedPass.run (sampleScene.handler fun _ => false) untouchedPod).2 = heldPod := by
  decide +kernel

/-- Killed after it froze a pod, the guard recovers. -/
theorem crash_recovery_after_freeze : ∃ result w',
    Exec (smooth sampleScene.cfg)
      (recover sampleScene.cfg (pure (.ok [sampleScene.latest heldPod])) ∅)
      (sampleScene.world heldPod) result w' ∧
    result = (none, ∅) ∧ Recovered sampleScene.cfg (sampleScene.world untouchedPod) w' := by
  have initial : Initial sampleScene.cfg (sampleScene.world untouchedPod) := by
    refine ⟨Scene.seen_finite, fun ns name p live => ?_⟩
    rw [Scene.live_eq live]
    refine ⟨⟨_, false, sampleScene.computed, ?_⟩, .inl ?_⟩
    · rw [Scene.world_freezer]
      rfl
    · rw [Scene.latest_annotationAt]
      rfl
  have run : Exec (onePass sampleScene.cfg).arena crashedPass (sampleScene.world untouchedPod) _ _ :=
    Scene.exec (s := sampleScene) (fun _ _ => False) (fun _ => false) crashedPass untouchedPod
  rw [crashedPass_freezes] at run
  have crash := Service.steps_of_exec run
  obtain ⟨⟨result, w', recovers⟩, outcome⟩ := crash_recovery sampleScene.cfg initial
    (fun uid own found => by simp at found) (scene_listing _ _) crash (scene_listing _ _)
  obtain ⟨done, recovered, -⟩ := outcome result w' recovers
  exact ⟨result, w', recovers, done, recovered⟩

end

end CpuIdle.Guard
