/-
# Guard.Settle — the state one pass establishes

A pass of `converge` with nobody else writing and every request that can succeed
succeeding. `PodView` is what can be seen of a pod: the marker on the API object and the live
`cgroup.freeze`.

* `Freezes`, `Thaws` — the pods the temperature calls on;
* `Picture` — the world shows these views; `picture_freeze` and `picture_patch` are its two
  moves, everything above them is calculation;
* `convergePods_picture`, `suppressPods_picture`, `restoreUnseen_picture` — the three loops;
* `converge_settles` — what a pass establishes, and that repeating it does nothing.
-/
import CpuIdle.Guard.CrashRecovery
import CpuIdle.Guard.Tick

namespace CpuIdle.Guard

open CpuIdle.Go CpuIdle.Kube CpuIdle.Node CpuIdle.Theory CpuIdle.Cgroup CpuIdle.Kernel.Cgroup

set_option autoImplicit false

/-- The marker on the API object and the live knob. -/
structure PodView where
  marker : String
  frozen : Bool
  deriving DecidableEq

/-- Frozen, with the marker it had or a new one. -/
def PodView.suppressed (s : PodView) : PodView := ⟨if s.marker = "" then encode freezeState else s.marker, true⟩

def PodView.released : PodView := ⟨"", false⟩

/-- The API server and the kernel show `s` of the pod. -/
structure Shows [PrintTable] (cfg : Config) (w : World) (p : Pod) (s : PodView) : Prop where
  object : ∃ q, w.store.pods p.ns p.name = some q ∧ q.uid = p.uid ∧
    q.annotationAt Annotations.guardStateKey = s.marker
  knob : ∃ dir, podDir cfg p = .ok dir ∧ (w.freezer dir).value = some s.frozen

/-! ## What the temperature calls for -/

section

variable (hot : Bool) (allPods candidates : List Pod) (owned : Owned) (before : String → PodView)

/-- A candidate while hot that is marked or thawed. -/
def Freezes (uid : String) : Prop :=
  hot = true ∧ uid ∈ allPods.map Pod.uid ∧ uid ∈ candidates.map Pod.uid ∧
    ((before uid).marker ≠ "" ∨ (before uid).frozen = false)

/-- Marked and no candidate of a hot pass, or owned and not listed any more. -/
def Thaws (uid : String) : Prop :=
  uid ∈ allPods.map Pod.uid ∧ ¬(hot = true ∧ uid ∈ candidates.map Pod.uid) ∧ (before uid).marker ≠ "" ∨
    uid ∉ allPods.map Pod.uid ∧ uid ∈ owned

instance (uid : String) : Decidable (Freezes hot allPods candidates before uid) :=
  inferInstanceAs (Decidable (_ ∧ _ ∧ _ ∧ _))

instance (uid : String) : Decidable (Thaws hot allPods candidates owned before uid) :=
  inferInstanceAs (Decidable (_ ∨ _))

/-- What the pass makes of each pod. -/
def settled (uid : String) : PodView :=
  if Freezes hot allPods candidates before uid then (before uid).suppressed
  else if Thaws hot allPods candidates owned before uid then .released
  else before uid

end

/-- Of the effects only these knob writes and marker patches. -/
def permits (writes : String → String → String → Prop) (patches : String → String → Prop) :
    Guarantee nodeSignature World := fun _ r _ _ =>
  match r with
  | .writeFile dir name value => writes dir name value
  | .patchPod ns name _ => patches ns name
  | _ => True

/-- Only pods that are called on are written or patched, each at most once and to one end. -/
def purposeful [PrintTable] (cfg : Config) (hot : Bool) (allPods candidates : List Pod) (owned : Owned)
    (pods : Set Pod) (before : String → PodView) : Guarantee nodeSignature World :=
  permits (fun dir name value => name = "cgroup.freeze" ∧ ∃ p ∈ pods, podDir cfg p = .ok dir ∧
      (value = "1" ∧ Freezes hot allPods candidates before p.uid ∧ (before p.uid).frozen = false ∨
        value = "0" ∧ Thaws hot allPods candidates owned before p.uid ∧ (before p.uid).frozen = true))
    fun ns name => ∃ p ∈ pods, p.ns = ns ∧ p.name = name ∧
      (Freezes hot allPods candidates before p.uid ∧ (before p.uid).marker = "" ∨
        Thaws hot allPods candidates owned before p.uid ∧ (before p.uid).marker ≠ "")

/-! ## Pictures of the world -/

namespace Settle

open CrashRecovery (smooth smooth_stable smooth_silent)

section

variable [PrintTable] {cfg : Config} {pods : Set Pod} {m : String → PodView} {w w' : World} {p : Pod}
  {dir : String}

/-- The world shows these views of the pods. -/
structure Picture (cfg : Config) (pods : Set Pod) (m : String → PodView) (w : World) : Prop where
  finite : w.store.seen.Finite
  seen : ∀ p ∈ pods, p ∈ w.store.seen
  shows : ∀ p ∈ pods, Shows cfg w p (m p.uid)

/-- The knob of a pod shows its view. -/
theorem Picture.knob (picture : Picture cfg pods m w) (member : p ∈ pods)
    (computed : podDir cfg p = .ok dir) : (w.freezer dir).value = some (m p.uid).frozen := by
  obtain ⟨dir', computed', shown⟩ := (picture.shows p member).knob
  obtain rfl := Except.ok.inj (computed.symm.trans computed')
  exact shown

theorem Picture.located (picture : Picture cfg pods m w) (member : p ∈ pods) :
    ∃ dir, podDir cfg p = .ok dir :=
  (picture.shows p member).knob.imp fun _ known => known.1

/-- Other pods keep their views, and this one gets a new one. -/
theorem Picture.update (picture : Picture cfg pods m w) (s : PodView) (finite : w'.store.seen.Finite)
    (seen : w.store.seen ⊆ w'.store.seen) (mine : ∀ q ∈ pods, q.uid = p.uid → Shows cfg w' q s)
    (others : ∀ q ∈ pods, q.uid ≠ p.uid → Shows cfg w q (m q.uid) → Shows cfg w' q (m q.uid)) :
    Picture cfg pods (Function.update m p.uid s) w' where
  finite := finite
  seen q member := seen (picture.seen q member)
  shows q member := by
    by_cases same : q.uid = p.uid
    · rw [same, Function.update_self]
      exact mine q member same
    · rw [Function.update_of_ne same]
      exact others q member same (picture.shows q member)

theorem picture_look (picture : Picture cfg pods m w) (dir : String) (b : Bool) :
    Picture cfg pods m (w.look dir b) where
  finite := picture.finite
  seen := picture.seen
  shows q member := by
    obtain ⟨object, d, computed, shown⟩ := picture.shows q member
    exact ⟨object, d, computed, by simpa using shown⟩

theorem picture_freeze (picture : Picture cfg pods m w) (member : p ∈ pods)
    (computed : podDir cfg p = .ok dir) (b : Bool) :
    Picture cfg pods (Function.update m p.uid { m p.uid with frozen := b }) (w.freeze dir b) := by
  refine picture.update _ picture.finite subset_rfl (fun q memberQ same => ?_) fun q memberQ other => ?_
  · obtain ⟨object, -⟩ := picture.shows q memberQ
    rw [same] at object
    refine ⟨same ▸ object, dir, ?_, by rw [World.freeze_self]⟩
    exact w.podDir_of_uid (picture.seen p member) (picture.seen q memberQ) same.symm computed
  · rintro ⟨object, d, where_q, shown⟩
    refine ⟨object, d, where_q, ?_⟩
    rw [World.freeze_other]
    · exact shown
    · rintro rfl
      exact other (w.uid_of_podDir (picture.seen q memberQ) (picture.seen p member) where_q computed)

theorem picture_patch {patch : MarkerPatch} {q q' : Pod} (picture : Picture cfg pods m w)
    (member : p ∈ pods) (patches : w.Patches cfg p.ns p.name patch q q' w') (uid : q.uid = p.uid) :
    Picture cfg pods
      (Function.update m p.uid { m p.uid with marker := patch.guardState.getD "" }) w' := by
  have value : ∀ dir, (w'.freezer dir).value = (w.freezer dir).value := by
    intro dir
    obtain ⟨recorded, same, -⟩ := patches.freezer_eq dir
    rw [same]
  refine picture.update _ ?_ patches.store.put.mono (fun r memberR same => ?_) fun r memberR other => ?_
  · rw [patches.store.put.seen]
    exact picture.finite.insert _
  · obtain ⟨-, d, computed, shown⟩ := picture.shows r memberR
    obtain ⟨ns, name, -⟩ := w.identity r (picture.seen r memberR) p (picture.seen p member) same
    refine ⟨⟨q', ?_, ?_, patches.store.annotationAt⟩, d, computed, ?_⟩
    · rw [ns, name]
      exact patches.store.latest
    · rw [patches.store.uid, uid, same]
    · rw [value, shown, same]
  · rintro ⟨⟨o, live, sameUID, marker⟩, d, computed, shown⟩
    refine ⟨⟨o, ?_, sameUID, marker⟩, d, computed, by rw [value, shown]⟩
    rw [patches.store.pods_eq, if_neg]
    · exact live
    · rintro ⟨ns, name⟩
      rw [ns, name, patches.store.found] at live
      exact other (by rw [← sameUID, ← Option.some.inj live, uid])

end

/-! ## The requests -/

section

variable [PrintTable] {cfg : Config} {pods : Set Pod} {m : String → PodView} {p : Pod} {dir : String}
  {writes : String → String → String → Prop} {patches : String → String → Prop}

theorem goes_smooth {P : World → Prop} :
    Holds (smooth cfg) (permits writes patches) P ctxErr fun cancelled w => cancelled = false ∧ P w :=
  .request (smooth_stable _) fun w holds answer w' act => by
    obtain ⟨rfl, success⟩ := act
    exact ⟨trivial, success ⟨false, w', rfl, rfl⟩, holds⟩

theorem record_smooth (P : World → Prop) : Observe.Silent (smooth cfg) (permits writes patches) P where
  stable := smooth_stable P
  inc _ _ holds _ _ act := ⟨trivial, (show _ = _ from act.1) ▸ holds⟩
  event _ _ holds _ _ act := ⟨trivial, (show _ = _ from act.1) ▸ holds⟩

theorem readKnob_picture (member : p ∈ pods) (computed : podDir cfg p = .ok dir) :
    Holds (smooth cfg) (permits writes patches) (Picture cfg pods m) (readKnob dir "cgroup.freeze")
      fun result w => result = .ok (bit (m p.uid).frozen) ∧ Picture cfg pods m w := by
  refine readKnob_succeeds (by decide) (smooth_stable _) fun w picture answer w' act => ⟨trivial, ?_⟩
  have shows := picture.knob member computed
  obtain ⟨content, rfl⟩ := act.2 ⟨ReadResult.data (bit (m p.uid).frozen ++ "\n"), w.look dir _, ⟨_, rfl⟩,
    fun content same => by cases same; exact .freeze shows, fun other => absurd rfl (other _)⟩
  obtain ⟨b, shows', rfl, rfl⟩ := (act.1.1 content rfl).of_freeze
  obtain rfl := Option.some.inj (shows.symm.trans shows')
  exact ⟨_, rfl, by rw [trimSpace_bit], picture_look picture dir _⟩

theorem Picture.target {w : World} (picture : Picture cfg pods m w) (member : p ∈ pods)
    (computed : podDir cfg p = .ok dir) : guardWriteTarget dir cfg.layout.root cfg.layout.kubepodsName = none :=
  Layout.podDir_accepted (w.uids p (picture.seen p member)).no_slash (World.ok_of_podDir.mp computed)

theorem writeKnob_picture (member : p ∈ pods) (computed : podDir cfg p = .ok dir) (b : Bool)
    (permitted : writes dir "cgroup.freeze" (bit b)) :
    Holds (smooth cfg) (permits writes patches) (Picture cfg pods m)
      (writeKnob cfg.layout.root cfg.layout.kubepodsName dir "cgroup.freeze" (bit b))
      fun result w => result = none ∧
        Picture cfg pods (Function.update m p.uid { m p.uid with frozen := b }) w := by
  refine .of_forall fun w₀ picture₀ => ?_
  refine Holds.pre (P := Picture cfg pods m) ?_ fun w same => same ▸ picture₀
  refine writeKnob_succeeds (by decide) (picture₀.target member computed) (smooth_stable _)
    fun w picture answer w' act => ⟨permitted, ?_⟩
  have present : (w.freezer dir).value.isSome = true := by rw [picture.knob member computed]; rfl
  obtain rfl : answer = WriteResult.written :=
    act.2 ⟨WriteResult.written, w.freeze dir b, rfl, fun _ => World.Writes.freeze present,
      fun other => absurd rfl other⟩
  obtain ⟨-, rfl⟩ := World.Writes.of_freeze (act.1.1 rfl)
  exact ⟨rfl, rfl, picture_freeze picture member computed b⟩

/-- A marker that is as it is expected to be is replaced. -/
theorem patchMarker_picture {value expectedRaw : String} {clear : Bool} {expected : Option PersistedState}
    (member : p ∈ pods) (filled : clear = true → (m p.uid).marker ≠ "")
    (agrees : markerMatches (m p.uid).marker clear expected expectedRaw = true)
    (permitted : patches p.ns p.name) :
    Holds (smooth cfg) (permits writes patches) (Picture cfg pods m)
      (patchMarker p value clear expected expectedRaw) fun result w => result = none ∧
        Picture cfg pods
          (Function.update m p.uid { m p.uid with marker := if clear then "" else value }) w := by
  refine .bind (.request (Q := fun answer w => ∃ q, answer = GetResult.found q ∧ Picture cfg pods m w ∧
    w.store.pods p.ns p.name = some q ∧ q.uid = p.uid ∧
      q.annotationAt Annotations.guardStateKey = (m p.uid).marker) (smooth_stable _)
    fun w picture answer w' act => ⟨trivial, ?_⟩) fun answer => .exists fun q => .assume fun same => ?_
  · obtain ⟨⟨rfl, found⟩, success⟩ := act
    obtain ⟨q, live, known⟩ := (picture.shows p member).object
    obtain ⟨q', rfl⟩ := success ⟨GetResult.found q, w', ⟨q, rfl⟩, rfl, fun q' same => by
      cases same
      exact live⟩
    obtain rfl := Option.some.inj ((found q' rfl).symm.trans live)
    exact ⟨q', rfl, picture, live, known⟩
  subst same
  refine .of_forall fun w₀ known₀ => ?_
  obtain ⟨picture₀, live₀, uid, marker⟩ := known₀
  refine Holds.pre (P := fun w => Picture cfg pods m w ∧ w.store.pods p.ns p.name = some q) ?_
    fun w same => same ▸ ⟨picture₀, live₀⟩
  refine .ite (fun differs => absurd uid differs) fun _ => ?_
  refine .ite (fun empty => ?_) fun _ => .ite (fun mismatch => ?_) fun _ => ?_
  · simp only [marker, Bool.and_eq_true, decide_eq_true_eq] at empty
    exact absurd empty.2 (filled empty.1)
  · simp [marker, agrees] at mismatch
  have allows : MarkerPatch.Allows (markerPatch q value clear) q := by
    refine ⟨rfl, fun version found => ?_⟩
    simp only [markerPatch] at found
    split at found
    · exact (Option.some.inj found).symm
    · cases found
  refine .bind (.request (Q := fun answer w => answer = PatchResult.patched ∧ Picture cfg pods
      (Function.update m p.uid { m p.uid with marker := if clear then "" else value }) w)
    (smooth_stable _) fun w known answer w' act => ⟨permitted, ?_⟩)
    fun answer => .assume fun same => same ▸ .pure fun w picture => ⟨rfl, picture⟩
  obtain ⟨picture, live⟩ := known
  obtain ⟨q', w'', can⟩ := w.exists_patches picture.finite live allows
  obtain rfl : answer = PatchResult.patched :=
    act.2 ⟨PatchResult.patched, w'', rfl, fun _ => ⟨_, _, can⟩, by simp, by simp⟩
  obtain ⟨r, r', patched⟩ := act.1.1 rfl
  obtain rfl := Option.some.inj (patched.store.found.symm.trans live)
  refine ⟨rfl, ?_⟩
  have written : (markerPatch r value clear).guardState.getD "" = if clear then "" else value := by
    cases clear <;> rfl
  rw [← written]
  exact picture_patch picture member patched uid

end

/-! ## One pod -/

section

variable [PrintTable] [Qos.ResourceHelper] {cfg : Config} {pods : Set Pod} {m : String → PodView} {p : Pod}
  {owned : Owned} {writes : String → String → String → Prop} {patches : String → String → Prop}

omit [Qos.ResourceHelper] in
theorem marker_filled {s : PodView} (marked : readMarker s.marker = some freezeState) :
    s.marker ≠ "" := by
  intro empty
  rw [empty, readMarker_empty] at marked
  cases marked

omit [PrintTable] [Qos.ResourceHelper] in
theorem cleared_thawed {s : PodView} (thawed : s.frozen = false) : { s with marker := "" } = PodView.released := by
  rw [PodView.released, ← thawed]

omit [Qos.ResourceHelper] in
theorem relinquish_picture (member : p ∈ pods) (marked : readMarker (m p.uid).marker = some freezeState)
    (permitted : patches p.ns p.name) (changed : Bool) :
    Holds (smooth cfg) (permits writes patches) (Picture cfg pods m) (relinquish owned p freezeState changed)
      fun result w => result = (changed, none, owned.erase p.uid) ∧
        Picture cfg pods (Function.update m p.uid { m p.uid with marker := "" }) w := by
  have agrees : markerMatches (m p.uid).marker true (some freezeState) "" = true := by
    simp [markerMatches, marked]
  refine .bind (patchMarker_picture member (fun _ => marker_filled marked) agrees permitted)
    fun result => .assume fun same => ?_
  subst same
  exact .pure fun w picture => ⟨rfl, picture⟩

/-- A marked pod is thawed and cleared. -/
theorem restorePod_picture (member : p ∈ pods) (marked : readMarker (m p.uid).marker = some freezeState)
    (thaws : ∀ dir, podDir cfg p = .ok dir → (m p.uid).frozen = true → writes dir "cgroup.freeze" "0")
    (permitted : patches p.ns p.name) :
    Holds (smooth cfg) (permits writes patches) (Picture cfg pods m) (restorePod cfg owned p freezeState)
      fun result w => result.2 = (none, owned.erase p.uid) ∧
        Picture cfg pods (Function.update m p.uid .released) w := by
  refine .of_forall fun w₀ picture₀ => ?_
  obtain ⟨dir, computed⟩ := picture₀.located member
  refine Holds.pre (P := Picture cfg pods m) ?_ fun w same => same ▸ picture₀
  have valid : validateState freezeState = none := validateState_none.mpr (.inl rfl)
  unfold restorePod
  refine .bind goes_smooth fun cancelled => .assume fun live => ?_
  subst live
  refine .ite (fun cancelled => absurd cancelled Bool.false_ne_true) fun _ => ?_
  simp only [valid, computed]
  refine .bind (readKnob_picture member computed) fun result => .assume fun same => ?_
  subst same
  refine .ite (fun differs => ?_) fun same => ?_
  · have thawed : (m p.uid).frozen = false := by
      cases frozen : (m p.uid).frozen with
      | false => rfl
      | true => exact absurd (congrArg bit frozen) differs
    refine (relinquish_picture member marked permitted false).post fun result w known => ?_
    obtain ⟨rfl, picture⟩ := known
    refine ⟨rfl, ?_⟩
    rwa [cleared_thawed thawed] at picture
  refine .ite (fun legacy => absurd legacy.1 (by decide)) fun _ => ?_
  refine .bind goes_smooth fun cancelled => .assume fun live => ?_
  subst live
  refine .ite (fun cancelled => absurd cancelled Bool.false_ne_true) fun _ => ?_
  have frozen : (m p.uid).frozen = true := bit_injective (not_not.mp same)
  refine .bind (writeKnob_picture member computed false (thaws dir computed frozen))
    fun result => .assume fun same => ?_
  subst same
  refine .bind (Observe.Silent.record (record_smooth _) _ _ _ _ _ _ _) fun _ => ?_
  refine (relinquish_picture member (by rwa [Function.update_self]) permitted true).post
    fun result w known => ?_
  obtain ⟨rfl, picture⟩ := known
  refine ⟨rfl, ?_⟩
  rwa [Function.update_self, Function.update_idem] at picture

omit [Qos.ResourceHelper] in
/-- The end of `suppressPod`, on a pod that is marked by then. -/
theorem suppressWrite_picture {dir : String} (member : p ∈ pods)
    (computed : podDir cfg p = .ok dir)
    (freezes : (m p.uid).frozen = false → writes dir "cgroup.freeze" "1") :
    Holds (smooth cfg) (permits writes patches) (Picture cfg pods m)
      (suppressWrite cfg owned p dir (bit (m p.uid).frozen) freezeState)
      fun result w => result = (none, owned) ∧
        Picture cfg pods (Function.update m p.uid { m p.uid with frozen := true }) w := by
  refine .ite (fun same => .pure fun w picture => ⟨rfl, ?_⟩) fun differs => ?_
  · have frozen : (m p.uid).frozen = true := bit_injective same
    rw [← frozen, Function.update_eq_self]
    exact picture
  refine .bind goes_smooth fun cancelled => .assume fun live => ?_
  subst live
  refine .ite (fun cancelled => absurd cancelled Bool.false_ne_true) fun _ => ?_
  have thawed : (m p.uid).frozen = false := by
    cases frozen : (m p.uid).frozen with
    | false => rfl
    | true => exact absurd (congrArg bit frozen) differs
  refine .bind (writeKnob_picture member computed true (freezes thawed)) fun result => .assume fun same => ?_
  subst same
  exact .bind (Observe.Silent.record (record_smooth _) _ _ _ _ _ _ _) fun _ =>
    .pure fun w picture => ⟨rfl, picture⟩

/-- What the guard holds about a pod whose marker it knows. -/
def recordOf (s : PodView) : Option PersistedState := if s.marker = "" then none else some freezeState

/-- The records once the pod is suppressed. -/
def suppressedOwned (owned : Owned) (p : Pod) (s : PodView) : Owned :=
  if s.marker = "" then owned.insert p.uid ⟨p, freezeState, true⟩ else owned

omit [Qos.ResourceHelper] in
/-- A pod that is marked or thawed is marked and frozen. -/
theorem suppressPod_picture (member : p ∈ pods)
    (held : stateForPod owned p = .ok (recordOf (m p.uid)))
    (ours : (m p.uid).marker ≠ "" ∨ (m p.uid).frozen = false)
    (freezes : ∀ dir, podDir cfg p = .ok dir → (m p.uid).frozen = false → writes dir "cgroup.freeze" "1")
    (permitted : (m p.uid).marker = "" → patches p.ns p.name) :
    Holds (smooth cfg) (permits writes patches) (Picture cfg pods m) (suppressPod cfg owned p)
      fun result w => result = (none, suppressedOwned owned p (m p.uid)) ∧
        Picture cfg pods (Function.update m p.uid (m p.uid).suppressed) w := by
  refine .of_forall fun w₀ picture₀ => ?_
  obtain ⟨dir, computed⟩ := picture₀.located member
  refine Holds.pre (P := Picture cfg pods m) ?_ fun w same => same ▸ picture₀
  have valid : validateState freezeState = none := validateState_none.mpr (.inl rfl)
  unfold suppressPod
  refine .bind goes_smooth fun cancelled => .assume fun live => ?_
  subst live
  refine .ite (fun cancelled => absurd cancelled Bool.false_ne_true) fun _ => ?_
  simp only [computed]
  refine .bind (readKnob_picture member computed) fun result => .assume fun same => ?_
  subst same
  simp only [held]
  by_cases unmarked : (m p.uid).marker = ""
  · have thawed : (m p.uid).frozen = false := ours.resolve_left fun marked => marked unmarked
    simp only [recordOf, suppressedOwned, unmarked, if_true]
    refine .ite (fun differs => absurd (congrArg bit thawed) differs) fun _ => ?_
    refine .ite (fun same => absurd (same.symm.trans (congrArg bit thawed)) (by decide)) fun _ => ?_
    have state : (⟨guardStateVersion, suppressionKnob, bit (m p.uid).frozen, suppressedValue⟩ :
        PersistedState) = freezeState := by
      rw [thawed]
      rfl
    simp only [state, valid]
    have agrees : markerMatches (m p.uid).marker false none "" = true := by
      simp [markerMatches, unmarked]
    refine .bind (patchMarker_picture member (by simp) agrees (permitted unmarked))
      fun result => .assume fun same => ?_
    subst same
    have kept : bit (m p.uid).frozen = bit (Function.update m p.uid
        { m p.uid with marker := if false then "" else encode freezeState } p.uid).frozen := by
      rw [Function.update_self]
    rw [kept]
    refine (suppressWrite_picture member computed fun _ => freezes dir computed thawed).post
      fun result w known => ?_
    obtain ⟨rfl, picture⟩ := known
    refine ⟨rfl, ?_⟩
    rw [Function.update_self, Function.update_idem] at picture
    simpa [PodView.suppressed, unmarked] using picture
  · simp only [recordOf, suppressedOwned, unmarked, if_false]
    refine .ite (fun foreign => ?_) fun _ => ?_
    · rcases foreign with other | ⟨thawed, frozen⟩
      · exact absurd rfl other
      · cases b : (m p.uid).frozen with
        | false => exact absurd (congrArg bit b) thawed
        | true => exact absurd (congrArg bit b) frozen
    refine (suppressWrite_picture member computed (freezes dir computed)).post fun result w known => ?_
    obtain ⟨rfl, picture⟩ := known
    refine ⟨rfl, ?_⟩
    simpa [PodView.suppressed, unmarked] using picture

omit [Qos.ResourceHelper] in
/-- A candidate of a hot pass is eligible if it is marked or thawed. -/
theorem eligibility_picture (member : p ∈ pods) (hot : Bool) (uids : List String) :
    Holds (smooth cfg) (permits writes patches) (Picture cfg pods m)
      (eligibility cfg hot uids p (recordOf (m p.uid))) fun result w =>
        (result.2 = [] ∧ (result.1 = true ↔ hot = true ∧ p.uid ∈ uids ∧
          ((m p.uid).marker ≠ "" ∨ (m p.uid).frozen = false))) ∧ Picture cfg pods m w := by
  refine .of_forall fun w₀ picture₀ => ?_
  obtain ⟨dir, computed⟩ := picture₀.located member
  refine Holds.pre (P := Picture cfg pods m) ?_ fun w same => same ▸ picture₀
  have knobs : ∀ state ∈ recordOf (m p.uid), state.knob = suppressionKnob := by
    unfold recordOf
    split <;> simp [freezeState, suppressionKnob]
  unfold eligibility
  refine .ite (fun called => ?_) fun other => .pure fun w picture => ⟨⟨rfl, ?_⟩, picture⟩
  case refine_2 =>
    refine ⟨nofun, fun candidate => absurd ⟨candidate.1, candidate.2.1, knobs⟩ other⟩
  unfold actualFreezeAllowsSuppression
  simp only [computed]
  refine .bind (R := fun result w => result = .ok (decide ((m p.uid).marker ≠ "" ∨
      (m p.uid).frozen = false)) ∧ Picture cfg pods m w)
    (.bind (readKnob_picture member computed) fun result => .assume fun same => ?_)
    fun result => .assume fun same => ?_
  · subst same
    have isBit : ¬(bit (m p.uid).frozen ≠ "0" ∧ bit (m p.uid).frozen ≠ "1") := by
      cases (m p.uid).frozen <;> simp [bit]
    refine .ite (fun odd => absurd odd isBit) fun _ => ?_
    by_cases unmarked : (m p.uid).marker = ""
    · simp only [recordOf, unmarked, if_true]
      refine .pure fun w picture => ⟨?_, picture⟩
      cases (m p.uid).frozen <;> simp [bit]
    · simp only [recordOf, unmarked, if_false]
      refine .ite (fun other => absurd rfl other) fun _ => .pure fun w picture => ⟨?_, picture⟩
      cases (m p.uid).frozen <;> simp [bit, freezeState, unmarked]
  · subst same
    exact .pure fun w picture => ⟨⟨rfl, by simp [called.1, called.2.1]⟩, picture⟩

end

/-! ## The first loop -/

/-- `m`, with `f` done to those of `done` that are called on. -/
def along {α : Type} (called : String → Prop) [DecidablePred called] (f : α → α) (m : String → α)
    (done : List String) : String → α :=
  fun uid => if uid ∈ done ∧ called uid then f (m uid) else m uid

section

variable {α : Type} {called : String → Prop} [DecidablePred called] {f : α → α} {m : String → α}
  {done : List String} {uid : String}

theorem along_nil : along called f m [] = m := by
  funext uid
  simp [along]

theorem along_fresh (fresh : uid ∉ done) : along called f m done uid = m uid :=
  if_neg fun known => fresh known.1

theorem along_called (calls : called uid) :
    along called f m (done ++ [uid]) = Function.update (along called f m done) uid (f (m uid)) := by
  funext other
  by_cases same : other = uid
  · subst same
    simp [along, calls]
  · simp [along, same]

theorem along_skipped (skips : ¬called uid) : along called f m (done ++ [uid]) = along called f m done := by
  funext other
  by_cases same : other = uid
  · subst same
    simp [along, skips]
  · simp [along, same]

end

section

variable (hot : Bool) (allPods candidates : List Pod) (owned : Owned) (before : String → PodView)

theorem thaws_not_freezes {uid : String} (thaws : Thaws hot allPods candidates owned before uid) :
    ¬Freezes hot allPods candidates before uid := by
  rintro ⟨isHot, listed, candidate, -⟩
  rcases thaws with ⟨-, other, -⟩ | ⟨unlisted, -⟩
  · exact other ⟨isHot, candidate⟩
  · exact unlisted listed

/-- The ways a round of the first loop can go, and what becomes of the views. -/
inductive Turn (m : String → PodView) (p : Pod) (pass : Pass) : Pass → (String → PodView) → Prop where
  | eligible (freezes : Freezes hot allPods candidates before p.uid) :
      Turn m p pass { pass with eligible := pass.eligible ++ [p] } m
  | restored (thaws : Thaws hot allPods candidates owned before p.uid) :
      Turn m p pass
        { pass with owned := pass.owned.erase p.uid, restoredThisPass := p.uid :: pass.restoredThisPass }
        (Function.update m p.uid .released)
  | left (stays : ¬Freezes hot allPods candidates before p.uid)
      (keeps : ¬Thaws hot allPods candidates owned before p.uid) : Turn m p pass pass m

end

section

variable [PrintTable] [Qos.ResourceHelper] {cfg : Config} {hot : Bool} {allPods candidates : List Pod}
  {owned : Owned} {pods : Set Pod} {before m : String → PodView} {p : Pod} {pass : Pass}

theorem convergePod_turns (listed : p ∈ allPods) (member : p ∈ pods) (same : m p.uid = before p.uid)
    (held : stateForPod pass.owned p = .ok (recordOf (before p.uid)))
    (valid : (before p.uid).marker = "" ∨ readMarker (before p.uid).marker = some freezeState) :
    Holds (smooth cfg) (purposeful cfg hot allPods candidates owned pods before) (Picture cfg pods m)
      (convergePod cfg hot (candidates.map Pod.uid) p pass) fun pass' w =>
        ∃ m', Turn hot allPods candidates owned before m p pass pass' m' ∧ Picture cfg pods m' w := by
  have uid : p.uid ∈ allPods.map Pod.uid := List.mem_map_of_mem listed
  rw [← same] at held
  unfold convergePod
  simp only [held]
  refine .bind (eligibility_picture member hot _) fun result => .assume fun known => ?_
  obtain ⟨isEligible, errs⟩ := result
  obtain ⟨rfl, eligible⟩ := known
  have freezes : isEligible = true ↔ Freezes hot allPods candidates before p.uid := by
    rw [eligible, same]
    simp only [Freezes, uid, true_and]
  simp only [List.append_nil]
  by_cases unmarked : (m p.uid).marker = ""
  · simp only [recordOf, unmarked, if_true]
    have keeps : ¬Thaws hot allPods candidates owned before p.uid := by
      rintro (⟨-, -, marked⟩ | ⟨unlisted, -⟩)
      · exact marked (same ▸ unmarked)
      · exact unlisted uid
    refine .ite (fun isEligible => ?_) fun not => ?_
    · exact .pure fun w picture => ⟨m, .eligible (freezes.mp isEligible), picture⟩
    · exact .pure fun w picture => ⟨m, .left (fun f => not (freezes.mpr f)) keeps, picture⟩
  · have marked : readMarker (m p.uid).marker = some freezeState := by
      rw [same] at unmarked ⊢
      exact valid.resolve_left unmarked
    simp only [recordOf, unmarked, if_false]
    refine .ite (fun released => ?_) fun called => ?_
    · have thaws : Thaws hot allPods candidates owned before p.uid := by
        refine .inl ⟨uid, fun ⟨isHot, candidate⟩ => ?_, same ▸ unmarked⟩
        rcases released with cool | ineligible | knob
        · exact absurd isHot (by simpa using cool)
        · exact absurd (eligible.mpr ⟨isHot, candidate, .inl unmarked⟩) (by simpa using ineligible)
        · exact knob rfl
      refine .bind (restorePod_picture member marked (fun dir computed frozen => ?_) ?_) fun result => ?_
      · exact ⟨rfl, p, member, computed, .inr ⟨rfl, thaws, same ▸ frozen⟩⟩
      · exact ⟨p, member, rfl, rfl, .inr ⟨thaws, same ▸ unmarked⟩⟩
      · obtain ⟨changed, err, owned'⟩ := result
        refine .assume fun same => ?_
        obtain ⟨rfl, rfl⟩ := Prod.mk.inj same
        have turn : Turn hot allPods candidates owned before m p pass _ _ := .restored thaws
        exact .pure fun w picture => ⟨_, by simpa using turn, picture⟩
    · have isEligible : isEligible = true := by
        by_contra not
        exact called (.inr (.inl (by simpa using not)))
      refine .ite (fun _ => ?_) fun not => absurd isEligible not
      exact .pure fun w picture => ⟨m, .eligible (freezes.mp isEligible), picture⟩

/-- The guard knows all its pods: what it holds of each is the marker the API object has. -/
structure Ready (cfg : Config) (allPods : List Pod) (owned : Owned) (pods : Set Pod)
    (before : String → PodView) : Prop where
  distinct : (allPods.map Pod.uid).Nodup
  listed : ∀ p ∈ allPods, p ∈ pods
  valid : ∀ p ∈ pods, (before p.uid).marker = "" ∨ readMarker (before p.uid).marker = some freezeState
  held : ∀ p ∈ allPods, stateForPod owned p = .ok (recordOf (before p.uid))
  records : ∀ uid own, owned.lookup uid = some own → own.pod ∈ pods ∧ own.pod.uid = uid ∧
    own.state = freezeState ∧ (before uid).marker ≠ ""

/-- The first loop after these rounds. -/
structure First (hot : Bool) (allPods candidates : List Pod) (owned : Owned) (before : String → PodView)
    (done : List Pod) (pass : Pass) : Prop where
  records : ∀ uid, pass.owned.lookup uid =
    if uid ∈ done.map Pod.uid ∧ Thaws hot allPods candidates owned before uid then none else owned.lookup uid
  eligible : pass.eligible = done.filter fun p => Freezes hot allPods candidates before p.uid
  restored : ∀ uid ∈ pass.restoredThisPass, Thaws hot allPods candidates owned before uid
  errs : pass.errs = []

/-- What the first loop has made of the views. -/
abbrev firstViews (hot : Bool) (allPods candidates : List Pod) (owned : Owned) (before : String → PodView)
    (done : List Pod) : String → PodView :=
  along (Thaws hot allPods candidates owned before) (fun _ => .released) before (done.map Pod.uid)

omit [PrintTable] [Qos.ResourceHelper] in
theorem Turn.first {done : List Pod} {pass' : Pass} {m' : String → PodView}
    (turn : Turn hot allPods candidates owned before
      (firstViews hot allPods candidates owned before done) p pass pass' m')
    (first : First hot allPods candidates owned before done pass) :
    First hot allPods candidates owned before (done ++ [p]) pass' ∧
      m' = firstViews hot allPods candidates owned before (done ++ [p]) := by
  have snoc : (done ++ [p]).map Pod.uid = done.map Pod.uid ++ [p.uid] := by simp
  rw [firstViews, snoc]
  cases turn with
  | eligible freezes =>
      have keeps : ¬Thaws hot allPods candidates owned before p.uid := fun thaws =>
        thaws_not_freezes _ _ _ _ _ thaws freezes
      refine ⟨⟨fun uid => ?_, ?_, first.restored, first.errs⟩, (along_skipped keeps).symm⟩
      · rw [first.records, snoc]
        by_cases same : uid = p.uid <;> simp [same, keeps]
      · simp [first.eligible, freezes]
  | restored thaws =>
      have other : ¬Freezes hot allPods candidates before p.uid := thaws_not_freezes _ _ _ _ _ thaws
      refine ⟨⟨fun uid => ?_, ?_, fun uid member => ?_, first.errs⟩, (along_called thaws).symm⟩
      · by_cases same : uid = p.uid
        · subst same
          simp [Finmap.lookup_erase, thaws]
        · rw [Finmap.lookup_erase_ne same, first.records, snoc]
          simp [same]
      · simp [first.eligible, other]
      · rcases List.mem_cons.mp member with rfl | earlier
        · exact thaws
        · exact first.restored uid earlier
  | left stays keeps =>
      refine ⟨⟨fun uid => ?_, ?_, first.restored, first.errs⟩, (along_skipped keeps).symm⟩
      · rw [first.records, snoc]
        by_cases same : uid = p.uid <;> simp [same, keeps]
      · simp [first.eligible, stays]

omit [Qos.ResourceHelper] in
theorem stateForPod_congr {owned' : Owned}
    (same : owned'.lookup p.uid = owned.lookup p.uid) : stateForPod owned' p = stateForPod owned p := by
  unfold stateForPod
  rw [same]

/-- The first loop. -/
theorem convergePods_picture (ready : Ready cfg allPods owned pods before) (rest done : List Pod)
    (split : done ++ rest = allPods) (pass : Pass)
    (first : First hot allPods candidates owned before done pass) :
    Holds (smooth cfg) (purposeful cfg hot allPods candidates owned pods before)
      (Picture cfg pods (firstViews hot allPods candidates owned before done))
      (convergePods cfg hot (candidates.map Pod.uid) rest pass) fun pass' w =>
        First hot allPods candidates owned before allPods pass' ∧
          Picture cfg pods (firstViews hot allPods candidates owned before allPods) w := by
  induction rest generalizing done pass with
  | nil =>
      rw [List.append_nil] at split
      subst split
      exact .pure fun w picture => ⟨first, picture⟩
  | cons p rest ih =>
      have listed : p ∈ allPods := split ▸ List.mem_append_right _ (.head _)
      have fresh : p.uid ∉ done.map Pod.uid := by
        have distinct := ready.distinct
        rw [← split, List.map_append, List.nodup_append] at distinct
        exact fun member => distinct.2.2 _ member _ (List.mem_map_of_mem (.head _)) rfl
      have held : stateForPod pass.owned p = .ok (recordOf (before p.uid)) := by
        rw [stateForPod_congr ((first.records p.uid).trans (if_neg fun known => fresh known.1))]
        exact ready.held p listed
      have member := ready.listed p listed
      refine .bind (convergePod_turns listed member (along_fresh fresh) held (ready.valid p member))
        fun pass' => .exists fun m' => .assume fun turn => ?_
      obtain ⟨next, rfl⟩ := turn.first first
      exact ih (done ++ [p]) (by simpa using split) pass' next

/-! ## The second loop -/

/-- What the second loop has made of the views. -/
abbrev secondViews (hot : Bool) (allPods candidates : List Pod) (owned : Owned)
    (before : String → PodView) (done : List Pod) : String → PodView :=
  along (Freezes hot allPods candidates before) PodView.suppressed
    (firstViews hot allPods candidates owned before allPods) (done.map Pod.uid)

/-- The records are the old ones, and new ones of pods that had no marker. -/
def Inserted (before : String → PodView) (owned : Owned) (done : List Pod) (owned' : Owned) : Prop :=
  ∀ uid, owned'.lookup uid = owned.lookup uid ∨ (before uid).marker = "" ∧
    ∃ p ∈ done, p.uid = uid ∧ owned'.lookup uid = some ⟨p, freezeState, true⟩

omit [PrintTable] [Qos.ResourceHelper] in
theorem Inserted.suppressed {owned' : Owned} {done : List Pod} (inserted : Inserted before owned done owned') :
    Inserted before owned (done ++ [p]) (suppressedOwned owned' p (before p.uid)) := by
  intro uid
  unfold suppressedOwned
  by_cases same : uid = p.uid
  · subst same
    split
    · rename_i unmarked
      exact .inr ⟨unmarked, p, by simp, rfl, Finmap.lookup_insert _⟩
    · exact (inserted p.uid).imp id fun known => ⟨known.1, known.2.imp fun q found =>
        ⟨List.mem_append_left _ found.1, found.2⟩⟩
  · have kept : (if (before p.uid).marker = "" then owned'.insert p.uid ⟨p, freezeState, true⟩
        else owned').lookup uid = owned'.lookup uid := by
      split
      · exact Finmap.lookup_insert_of_ne _ same
      · rfl
    rw [kept]
    exact (inserted uid).imp id fun known => ⟨known.1, known.2.imp fun q found =>
      ⟨List.mem_append_left _ found.1, found.2⟩⟩

omit [PrintTable] [Qos.ResourceHelper] in
theorem firstViews_freezes {uid : String} {done : List Pod}
    (freezes : Freezes hot allPods candidates before uid) :
    firstViews hot allPods candidates owned before done uid = before uid :=
  if_neg fun thawed => thaws_not_freezes _ _ _ _ _ thawed.2 freezes

omit [PrintTable] [Qos.ResourceHelper] in
/-- A pod to freeze is as it was at the start when its turn comes. -/
theorem secondViews_fresh {done : List Pod} (freezes : Freezes hot allPods candidates before p.uid)
    (fresh : p.uid ∉ done.map Pod.uid) :
    secondViews hot allPods candidates owned before done p.uid = before p.uid := by
  rw [secondViews, along_fresh fresh, firstViews_freezes freezes]

omit [Qos.ResourceHelper] in
/-- The second loop. -/
theorem suppressPods_picture {owned₁ : Owned} {restored : List String}
    (rest done : List Pod) (distinct : ((done ++ rest).map Pod.uid).Nodup)
    (freezes : ∀ p ∈ rest, p ∈ pods ∧ Freezes hot allPods candidates before p.uid)
    (held : ∀ p ∈ rest, stateForPod owned₁ p = .ok (recordOf (before p.uid)))
    (others : ∀ uid ∈ restored, Thaws hot allPods candidates owned before uid) (owned' : Owned)
    (inserted : Inserted before owned₁ done owned') :
    Holds (smooth cfg) (purposeful cfg hot allPods candidates owned pods before)
      (Picture cfg pods (secondViews hot allPods candidates owned before done))
      (suppressPods cfg restored rest owned' []) fun result w =>
        (result.1 = [] ∧ Inserted before owned₁ (done ++ rest) result.2) ∧
          Picture cfg pods (secondViews hot allPods candidates owned before (done ++ rest)) w := by
  induction rest generalizing done owned' with
  | nil =>
      rw [List.append_nil]
      exact .pure fun w picture => ⟨⟨rfl, inserted⟩, picture⟩
  | cons p rest ih =>
      obtain ⟨member, called⟩ := freezes p (.head _)
      have fresh : p.uid ∉ done.map Pod.uid := by
        rw [List.map_append, List.nodup_append] at distinct
        exact fun earlier => distinct.2.2 _ earlier _ (List.mem_map_of_mem (.head _)) rfl
      have view : secondViews hot allPods candidates owned before done p.uid = before p.uid :=
        secondViews_fresh called fresh
      have same : owned'.lookup p.uid = owned₁.lookup p.uid := by
        rcases inserted p.uid with same | ⟨-, q, earlier, uid, -⟩
        · exact same
        · exact absurd (uid ▸ List.mem_map_of_mem earlier) fresh
      have known : stateForPod owned' p =
          .ok (recordOf (secondViews hot allPods candidates owned before done p.uid)) := by
        rw [stateForPod_congr same, view]
        exact held p (.head _)
      refine .ite (fun justRestored => ?_) fun _ => ?_
      · exact absurd called (thaws_not_freezes _ _ _ _ _ (others _ justRestored))
      refine .bind (suppressPod_picture member known (view ▸ called.2.2.2) (fun dir computed thawed => ?_)
        fun unmarked => ?_) fun result => ?_
      · exact ⟨rfl, p, member, computed, .inl ⟨rfl, called, view ▸ thawed⟩⟩
      · exact ⟨p, member, rfl, rfl, .inl ⟨called, view ▸ unmarked⟩⟩
      obtain ⟨err, owned''⟩ := result
      refine .assume fun same => ?_
      obtain ⟨rfl, rfl⟩ := Prod.mk.inj same
      have next := ih (done ++ [p]) (by simpa using distinct)
        (fun q later => freezes q (.tail _ later)) (fun q later => held q (.tail _ later)) _
        (inserted.suppressed (p := p))
      have snoc : (done ++ [p]).map Pod.uid = done.map Pod.uid ++ [p.uid] := by simp
      rw [List.append_assoc, secondViews, snoc, along_called called, firstViews_freezes called] at next
      rw [view]
      exact next

/-! ## The loop over the map -/

/-- The records without those of the pods of `done` that are not listed. -/
def Dropped (seen : List String) (owned : Owned) (done : List String) (owned' : Owned) : Prop :=
  ∀ uid, owned'.lookup uid = if uid ∈ done ∧ uid ∉ seen then none else owned.lookup uid

omit [PrintTable] [Qos.ResourceHelper] in
theorem Dropped.listed {seen done : List String} {owned owned' : Owned} {uid : String}
    (dropped : Dropped seen owned done owned') (listed : uid ∈ seen) :
    Dropped seen owned (done ++ [uid]) owned' := by
  intro other
  rw [dropped]
  by_cases same : other = uid
  · simp [same, listed]
  · simp [same]

omit [PrintTable] [Qos.ResourceHelper] in
theorem Dropped.erase {seen done : List String} {owned owned' : Owned} {uid : String}
    (dropped : Dropped seen owned done owned') (unlisted : uid ∉ seen) :
    Dropped seen owned (done ++ [uid]) (owned'.erase uid) := by
  intro other
  by_cases same : other = uid
  · subst same
    simp [Finmap.lookup_erase, unlisted]
  · rw [Finmap.lookup_erase_ne same, dropped]
    simp [same]

/-- The loop over the map. -/
theorem restoreUnseen_picture {seen : List String} {owned₂ : Owned} (rest done : List String)
    (distinct : (done ++ rest).Nodup) (keys : ∀ uid ∈ rest, uid ∈ owned₂)
    (records : ∀ uid own, uid ∉ seen → owned₂.lookup uid = some own → own.pod ∈ pods ∧ own.pod.uid = uid ∧
      own.state = freezeState ∧ readMarker (before uid).marker = some freezeState ∧ m uid = before uid ∧
      Thaws hot allPods candidates owned before uid)
    (owned' : Owned) (dropped : Dropped seen owned₂ done owned') :
    Holds (smooth cfg) (purposeful cfg hot allPods candidates owned pods before)
      (Picture cfg pods (along (· ∉ seen) (fun _ => .released) m done))
      (restoreUnseen cfg seen rest owned' []) fun result w =>
        (result.1 = [] ∧ Dropped seen owned₂ (done ++ rest) result.2) ∧
          Picture cfg pods (along (· ∉ seen) (fun _ => .released) m (done ++ rest)) w := by
  induction rest generalizing done owned' with
  | nil =>
      rw [List.append_nil]
      exact .pure fun w picture => ⟨⟨rfl, dropped⟩, picture⟩
  | cons uid rest ih =>
      have fresh : uid ∉ done := by
        rw [List.nodup_append] at distinct
        exact fun earlier => distinct.2.2 _ earlier _ (.head _) rfl
      have distinct' : ((done ++ [uid]) ++ rest).Nodup := by simpa using distinct
      have keys' : ∀ uid ∈ rest, uid ∈ owned₂ := fun u later => keys u (.tail _ later)
      have next := fun owned' => ih (done ++ [uid]) distinct' keys' owned'
      rw [List.append_assoc] at next
      obtain ⟨own, found⟩ := Finmap.mem_iff.mp (keys uid (.head _))
      have here : owned'.lookup uid = some own := by
        rw [dropped, if_neg fun known => fresh known.1, found]
      unfold restoreUnseen
      simp only [here]
      refine .ite (fun listed => ?_) fun unlisted => ?_
      · have skipped := next owned' (dropped.listed listed)
        rwa [along_skipped (not_not.mpr listed)] at skipped
      obtain ⟨member, rfl, state, marked, same, thaws⟩ := records uid own unlisted found
      have view : along (· ∉ seen) (fun _ => PodView.released) m done own.pod.uid = before own.pod.uid :=
        (along_fresh fresh).trans same
      rw [state]
      refine .bind (restorePod_picture member (view ▸ marked) (fun dir computed frozen => ?_) ?_)
        fun result => ?_
      · exact ⟨rfl, own.pod, member, computed, .inr ⟨rfl, thaws, view ▸ frozen⟩⟩
      · exact ⟨own.pod, member, rfl, rfl, .inr ⟨thaws, marker_filled marked⟩⟩
      obtain ⟨changed, err, owned''⟩ := result
      refine .assume fun same => ?_
      obtain ⟨rfl, rfl⟩ := Prod.mk.inj same
      have restored := next _ (dropped.erase unlisted)
      rwa [along_called unlisted] at restored

/-! ## The pass -/

/-- The records after the pass: none of a pod that was thawed, new ones of pods that were frozen. -/
structure Recorded (hot : Bool) (allPods candidates : List Pod) (owned : Owned) (before : String → PodView)
    (owned' : Owned) : Prop where
  dropped : ∀ uid, Thaws hot allPods candidates owned before uid → owned'.lookup uid = none
  kept : ∀ uid, ¬Thaws hot allPods candidates owned before uid → owned'.lookup uid = owned.lookup uid ∨
    (before uid).marker = "" ∧ ∃ p ∈ allPods, p.uid = uid ∧ Freezes hot allPods candidates before uid ∧
      owned'.lookup uid = some ⟨p, freezeState, true⟩

/-- The pods the second loop goes over. -/
abbrev eligiblePods (hot : Bool) (allPods candidates : List Pod) (before : String → PodView) : List Pod :=
  allPods.filter fun p => Freezes hot allPods candidates before p.uid

omit [PrintTable] [Qos.ResourceHelper] in
theorem mem_eligiblePods {uid : String} :
    uid ∈ (eligiblePods hot allPods candidates before).map Pod.uid ↔
      Freezes hot allPods candidates before uid := by
  constructor
  · intro member
    obtain ⟨p, eligible, rfl⟩ := List.mem_map.mp member
    simpa using (List.mem_filter.mp eligible).2
  · intro freezes
    obtain ⟨p, listed, rfl⟩ := List.mem_map.mp freezes.2.1
    exact List.mem_map_of_mem (List.mem_filter.mpr ⟨listed, by simpa using freezes⟩)

omit [PrintTable] [Qos.ResourceHelper] in
/-- The three loops together. -/
theorem views_settled {order : List String}
    (walked : ∀ uid ∉ allPods.map Pod.uid, uid ∈ order ↔ uid ∈ owned) :
    along (· ∉ allPods.map Pod.uid) (fun _ => .released)
      (secondViews hot allPods candidates owned before (eligiblePods hot allPods candidates before)) order =
        settled hot allPods candidates owned before := by
  funext uid
  have second : secondViews hot allPods candidates owned before
      (eligiblePods hot allPods candidates before) uid = if Freezes hot allPods candidates before uid
        then (firstViews hot allPods candidates owned before allPods uid).suppressed
        else firstViews hot allPods candidates owned before allPods uid := by
    simp only [secondViews, along, mem_eligiblePods, and_self]
  unfold settled
  by_cases freezes : Freezes hot allPods candidates before uid
  · rw [if_pos freezes, along, if_neg fun known => known.2 freezes.2.1, second, if_pos freezes,
      firstViews_freezes freezes]
  rw [if_neg freezes, along, second, if_neg freezes]
  by_cases listed : uid ∈ allPods.map Pod.uid
  · rw [if_neg fun known => known.2 listed, firstViews, along]
    simp only [listed, true_and]
  · have thaws : Thaws hot allPods candidates owned before uid ↔ uid ∈ owned := by
      simp [Thaws, listed]
    rw [firstViews, along_fresh listed]
    simp only [walked uid listed, listed, thaws, not_false_eq_true, and_true]

omit [PrintTable] [Qos.ResourceHelper] in
/-- The loop over the map finds the records of unlisted pods as they were. -/
theorem Inserted.unlisted {owned₂ : Owned} {uid : String}
    (first : First hot allPods candidates owned before allPods pass)
    (inserted : Inserted before pass.owned (eligiblePods hot allPods candidates before) owned₂)
    (outside : uid ∉ allPods.map Pod.uid) : owned₂.lookup uid = owned.lookup uid := by
  rcases inserted uid with same | ⟨-, p, member, rfl, -⟩
  · rw [same, first.records, if_neg fun known => outside known.1]
  · exact absurd (List.mem_map_of_mem (List.mem_filter.mp member).1) outside

omit [PrintTable] [Qos.ResourceHelper] in
theorem Inserted.recorded {owned₂ owned₃ : Owned} {order : List String}
    (first : First hot allPods candidates owned before allPods pass)
    (inserted : Inserted before pass.owned (eligiblePods hot allPods candidates before) owned₂)
    (dropped : Dropped (allPods.map Pod.uid) owned₂ order owned₃)
    (walked : ∀ uid ∉ allPods.map Pod.uid, uid ∈ order ↔ uid ∈ owned) :
    Recorded hot allPods candidates owned before owned₃ where
  dropped uid thaws := by
    rw [dropped]
    by_cases listed : uid ∈ allPods.map Pod.uid
    · rw [if_neg fun known => known.2 listed]
      rcases inserted uid with same | ⟨-, p, member, rfl, -⟩
      · rw [same, first.records, if_pos ⟨listed, thaws⟩]
      · exact absurd (mem_eligiblePods.mp (List.mem_map_of_mem member)) (thaws_not_freezes _ _ _ _ _ thaws)
    · refine if_pos ⟨(walked uid listed).mpr ?_, listed⟩
      exact (thaws.resolve_left fun known => listed known.1).2
  kept uid stays := by
    rw [dropped]
    by_cases listed : uid ∈ allPods.map Pod.uid
    · rw [if_neg fun known => known.2 listed]
      rcases inserted uid with same | ⟨unmarked, p, member, rfl, found⟩
      · rw [same, first.records, if_neg fun known => stays known.2]
        exact .inl rfl
      · exact .inr ⟨unmarked, p, (List.mem_filter.mp member).1, rfl,
          mem_eligiblePods.mp (List.mem_map_of_mem member), found⟩
    · rw [if_neg fun known => stays (.inr ⟨listed, (walked uid listed).mp known.1⟩),
        inserted.unlisted first listed]
      exact .inl rfl

/-- The walk over the map, after the other two loops. -/
theorem restoreLocal_picture {owned₂ : Owned} (ready : Ready cfg allPods owned pods before)
    (first : First hot allPods candidates owned before allPods pass)
    (inserted : Inserted before pass.owned (eligiblePods hot allPods candidates before) owned₂) :
    Holds (smooth cfg) (purposeful cfg hot allPods candidates owned pods before)
      (Picture cfg pods (secondViews hot allPods candidates owned before
        (eligiblePods hot allPods candidates before)))
      (restoreLocal cfg (allPods.map Pod.uid) owned₂ []) fun result w =>
        (result.1 = [] ∧ Recorded hot allPods candidates owned before result.2) ∧
          Picture cfg pods (settled hot allPods candidates owned before) w := by
  refine .bind (.request (Q := fun _ w => Picture cfg pods (secondViews hot allPods candidates owned before
      (eligiblePods hot allPods candidates before)) w) (smooth_stable _)
    fun w picture order w' act => ⟨trivial, (show w' = w from act.1) ▸ picture⟩) fun order => ?_
  have keys : ∀ uid, uid ∈ order.val ↔ uid ∈ owned₂ := by
    intro uid
    rw [← List.mem_toFinset, order.property.2, Finmap.mem_keys]
  have walked : ∀ uid ∉ allPods.map Pod.uid, uid ∈ order.val ↔ uid ∈ owned := by
    intro uid outside
    rw [keys, Finmap.mem_iff, Finmap.mem_iff, inserted.unlisted first outside]
  have records : ∀ uid own, uid ∉ allPods.map Pod.uid → owned₂.lookup uid = some own →
      own.pod ∈ pods ∧ own.pod.uid = uid ∧ own.state = freezeState ∧
        readMarker (before uid).marker = some freezeState ∧
        secondViews hot allPods candidates owned before (eligiblePods hot allPods candidates before) uid =
          before uid ∧ Thaws hot allPods candidates owned before uid := by
    intro uid own outside found
    rw [inserted.unlisted first outside] at found
    obtain ⟨member, rfl, state, marked⟩ := ready.records uid own found
    refine ⟨member, rfl, state, (ready.valid _ member).resolve_left marked, ?_,
      .inr ⟨outside, Finmap.mem_of_lookup_eq_some found⟩⟩
    rw [secondViews, along_fresh, firstViews, along_fresh outside]
    rw [mem_eligiblePods]
    exact fun freezes => outside freezes.2.1
  refine ((restoreUnseen_picture order.val [] order.property.1 (fun uid member => (keys uid).mp member)
    records owned₂ fun uid => by simp).pre fun w picture => ?_).post fun result w known => ?_
  · rwa [along_nil]
  · obtain ⟨⟨errs, dropped⟩, picture⟩ := known
    rw [List.nil_append] at dropped picture
    rw [views_settled walked] at picture
    exact ⟨⟨errs, inserted.recorded first dropped walked⟩, picture⟩

/-- **One pass**, from views that the guard knows. -/
theorem converge_picture (ready : Ready cfg allPods owned pods before) :
    Holds (smooth cfg) (purposeful cfg hot allPods candidates owned pods before) (Picture cfg pods before)
      (converge cfg owned hot allPods candidates) fun result w =>
        (result.1 = none ∧ Recorded hot allPods candidates owned before result.2) ∧
          Picture cfg pods (settled hot allPods candidates owned before) w := by
  have start : First hot allPods candidates owned before [] ⟨owned, [], [], []⟩ :=
    ⟨fun uid => by simp, by simp, nofun, rfl⟩
  refine .bind ((convergePods_picture ready allPods [] rfl _ start).pre fun w picture => ?_)
    fun pass => .assume fun first => ?_
  · rwa [firstViews, List.map_nil, along_nil]
  have called : ∀ p ∈ eligiblePods hot allPods candidates before, p ∈ allPods ∧
      Freezes hot allPods candidates before p.uid := fun p member =>
    ⟨(List.mem_filter.mp member).1, of_decide_eq_true (List.mem_filter.mp member).2⟩
  have second : Holds (smooth cfg) (purposeful cfg hot allPods candidates owned pods before)
      (Picture cfg pods (firstViews hot allPods candidates owned before allPods))
      (if hot then suppressPods cfg pass.restoredThisPass pass.eligible pass.owned pass.errs
        else pure (pass.errs, pass.owned) : Node (List GoError × Owned)) fun result w =>
      (result.1 = [] ∧ Inserted before pass.owned (eligiblePods hot allPods candidates before) result.2) ∧
        Picture cfg pods (secondViews hot allPods candidates owned before
          (eligiblePods hot allPods candidates before)) w := by
    rw [first.errs, first.eligible]
    refine .ite (fun isHot => ?_) fun cool => .pure fun w picture => ?_
    · refine (suppressPods_picture (eligiblePods hot allPods candidates before) [] ?_ (fun p member => ?_)
        (fun p member => ?_) first.restored pass.owned fun uid => .inl rfl).pre fun w picture => ?_
      · exact ready.distinct.sublist (List.filter_sublist.map _)
      · obtain ⟨listed, freezes⟩ := called p member
        exact ⟨ready.listed p listed, freezes⟩
      · obtain ⟨listed, freezes⟩ := called p member
        have same : pass.owned.lookup p.uid = owned.lookup p.uid := by
          rw [first.records, if_neg]
          exact fun thawed => thaws_not_freezes _ _ _ _ _ thawed.2 freezes
        rw [stateForPod_congr same]
        exact ready.held p listed
      · rwa [secondViews, List.map_nil, along_nil]
    · have nothing : eligiblePods hot allPods candidates before = [] := by
        rw [List.eq_nil_iff_forall_not_mem]
        exact fun p member => cool (called p member).2.1
      rw [nothing, secondViews, List.map_nil, along_nil]
      exact ⟨⟨rfl, fun uid => .inl rfl⟩, picture⟩
  refine .bind second fun result => .assume fun known => ?_
  obtain ⟨errs, owned₂⟩ := result
  obtain ⟨rfl, inserted⟩ := known
  exact .bind (restoreLocal_picture ready first inserted) fun result => .assume fun known =>
    .pure fun w picture => ⟨⟨GoError.join_eq_none.mpr known.1, known.2⟩, picture⟩

end

end Settle

/-! ## What the guard is told -/

section

variable [PrintTable] {cfg : Config} {hot : Bool} {allPods candidates : List Pod} {owned : Owned}
  {before : String → PodView} {w : World}

/-- The pods a pass handles: those listed and those on record. -/
def handled (allPods : List Pod) (owned : Owned) : Set Pod :=
  { p | p ∈ allPods ∨ ∃ uid own, owned.lookup uid = some own ∧ own.pod = p }

/-- `before` is what the API server and the kernel show of the pods. The cache agrees where the guard
has no record, and a record agrees with the API server. -/
structure Informed (cfg : Config) (allPods : List Pod) (owned : Owned) (before : String → PodView)
    (w : World) : Prop where
  finite : w.store.seen.Finite
  distinct : (allPods.map Pod.uid).Nodup
  listed : ∀ p ∈ allPods, p ∈ w.store.seen ∧ Shows cfg w p (before p.uid)
  cached : ∀ p ∈ allPods, p.uid ∉ owned →
    p.annotationAt Annotations.guardStateKey = (before p.uid).marker ∧ ((before p.uid).marker = "" ∨
      ∃ state, readMarker (before p.uid).marker = some state ∧ state.version = guardStateVersion)
  records : ∀ uid own, owned.lookup uid = some own → own.pod.uid = uid ∧ own.pod ∈ w.store.seen ∧
    Shows cfg w own.pod (before uid) ∧ readMarker (before uid).marker = some own.state ∧
      own.state.version = guardStateVersion

namespace Settle

/-- A valid record of version 2 is the freeze record. -/
theorem eq_freezeState {raw : String} {state : PersistedState}
    (marked : readMarker raw = some state) (version : state.version = guardStateVersion) :
    state = freezeState := by
  rcases validateState_none.mp (readMarker_eq_some.mp marked).2 with rfl | legacy
  · rfl
  · rw [legacy.version] at version
    exact absurd version (by decide)

end Settle

open Settle

theorem Informed.record {uid : String} {own : OwnedState} (informed : Informed cfg allPods owned before w)
    (found : owned.lookup uid = some own) : own.state = freezeState ∧
      readMarker (before uid).marker = some freezeState := by
  obtain ⟨-, -, -, marked, version⟩ := informed.records uid own found
  have same := eq_freezeState marked version
  exact ⟨same, same ▸ marked⟩

theorem Informed.valid {p : Pod} (informed : Informed cfg allPods owned before w)
    (member : p ∈ handled allPods owned) :
    (before p.uid).marker = "" ∨ readMarker (before p.uid).marker = some freezeState := by
  rcases member with listed | ⟨uid, own, found, rfl⟩
  · cases found : owned.lookup p.uid with
    | some own => exact .inr (informed.record found).2
    | none =>
        obtain ⟨-, unmarked | ⟨state, marked, version⟩⟩ :=
          informed.cached p listed (Finmap.lookup_eq_none.mp found)
        · exact .inl unmarked
        · exact .inr (eq_freezeState marked version ▸ marked)
  · obtain ⟨rfl, -⟩ := informed.records uid own found
    exact .inr (informed.record found).2

/-- What the guard holds about a listed pod is what the API server shows. -/
theorem Informed.held {p : Pod} (informed : Informed cfg allPods owned before w) (listed : p ∈ allPods) :
    stateForPod owned p = .ok (recordOf (before p.uid)) := by
  unfold stateForPod recordOf
  cases found : owned.lookup p.uid with
  | some own =>
      obtain ⟨state, marked⟩ := informed.record found
      simp only [state, if_neg (marker_filled marked)]
  | none =>
      obtain ⟨same, -⟩ := informed.cached p listed (Finmap.lookup_eq_none.mp found)
      simp only [same]
      rcases informed.valid (.inl listed) with unmarked | marked
      · simp only [unmarked, if_true]
      · obtain ⟨decoded, valid⟩ := readMarker_eq_some.mp marked
        simp only [if_neg (marker_filled marked), decoded, valid]

theorem Informed.ready (informed : Informed cfg allPods owned before w) :
    Ready cfg allPods owned (handled allPods owned) before where
  distinct := informed.distinct
  listed _ listed := .inl listed
  valid _ member := informed.valid member
  held _ listed := informed.held listed
  records uid own found :=
    ⟨.inr ⟨uid, own, found, rfl⟩, (informed.records uid own found).1, (informed.record found).1,
      marker_filled (informed.record found).2⟩

theorem Informed.picture (informed : Informed cfg allPods owned before w) :
    Picture cfg (handled allPods owned) before w where
  finite := informed.finite
  seen := by
    rintro p (listed | ⟨uid, own, found, rfl⟩)
    · exact (informed.listed p listed).1
    · exact (informed.records uid own found).2.1
  shows := by
    rintro p (listed | ⟨uid, own, found, rfl⟩)
    · exact (informed.listed p listed).2
    · obtain ⟨rfl, -, shows, -⟩ := informed.records uid own found
      exact shows

/-- All versions of a pod show the same. -/
theorem Shows.congr {p q : Pod} {s : PodView} (seenP : p ∈ w.store.seen) (seenQ : q ∈ w.store.seen)
    (same : p.uid = q.uid) (shows : Shows cfg w p s) : Shows cfg w q s := by
  obtain ⟨ns, name, -⟩ := w.identity p seenP q seenQ same
  obtain ⟨⟨o, live, uid, marker⟩, dir, computed, value⟩ := shows
  exact ⟨⟨o, ns ▸ name ▸ live, uid.trans same, marker⟩, dir, w.podDir_of_uid seenP seenQ same computed, value⟩

end

/-! ## A second pass -/

section

variable {hot : Bool} {allPods allPods' candidates candidates' : List Pod} {owned owned' : Owned}
  {before : String → PodView} {uid : String}

namespace Settle

/-- The same pods and the same candidates, whatever versions are listed. -/
structure SamePods (allPods candidates allPods' candidates' : List Pod) : Prop where
  listed : (allPods'.map Pod.uid).Perm (allPods.map Pod.uid)
  candidates : ∀ uid, uid ∈ candidates'.map Pod.uid ↔ uid ∈ candidates.map Pod.uid

theorem settled_freezes (freezes : Freezes hot allPods candidates before uid) :
    settled hot allPods candidates owned before uid = (before uid).suppressed := if_pos freezes

theorem settled_thaws (thaws : Thaws hot allPods candidates owned before uid) :
    settled hot allPods candidates owned before uid = .released := by
  rw [settled, if_neg (thaws_not_freezes _ _ _ _ _ thaws), if_pos thaws]

theorem settled_else (stays : ¬Freezes hot allPods candidates before uid)
    (keeps : ¬Thaws hot allPods candidates owned before uid) :
    settled hot allPods candidates owned before uid = before uid := by
  rw [settled, if_neg stays, if_neg keeps]

/-- What a second pass would freeze is frozen and marked. -/
theorem again_frozen [PrintTable] (same : SamePods allPods candidates allPods' candidates')
    (again : Freezes hot allPods' candidates' (settled hot allPods candidates owned before) uid) :
    (settled hot allPods candidates owned before uid).marker ≠ "" ∧
      (settled hot allPods candidates owned before uid).frozen = true := by
  obtain ⟨isHot, listed, candidate, ours⟩ := again
  rw [same.listed.mem_iff] at listed
  rw [same.candidates] at candidate
  by_cases freezes : Freezes hot allPods candidates before uid
  · rw [settled_freezes freezes, PodView.suppressed]
    refine ⟨?_, rfl⟩
    dsimp only
    split
    · exact marker_filled (s := ⟨encode freezeState, true⟩) readMarker_encode_freezeState
    · assumption
  · have keeps : ¬Thaws hot allPods candidates owned before uid := by
      rintro (⟨-, other, -⟩ | ⟨unlisted, -⟩)
      · exact other ⟨isHot, candidate⟩
      · exact unlisted listed
    rw [settled_else freezes keeps] at ours
    exact absurd ⟨isHot, listed, candidate, ours⟩ freezes

/-- There is nothing left to thaw. -/
theorem again_not_thaws (same : SamePods allPods candidates allPods' candidates')
    (recorded : Recorded hot allPods candidates owned before owned') :
    ¬Thaws hot allPods' candidates' owned' (settled hot allPods candidates owned before) uid := by
  simp only [Thaws, same.listed.mem_iff, same.candidates]
  rintro (⟨listed, other, marked⟩ | ⟨unlisted, member⟩)
  · have stays : ¬Freezes hot allPods candidates before uid := fun freezes =>
      other ⟨freezes.1, freezes.2.2.1⟩
    by_cases unmarked : (before uid).marker = ""
    · have keeps : ¬Thaws hot allPods candidates owned before uid := by
        rintro (⟨-, -, marked⟩ | ⟨unlisted, -⟩)
        · exact marked unmarked
        · exact unlisted listed
      rw [settled_else stays keeps] at marked
      exact marked unmarked
    · rw [settled_thaws (.inl ⟨listed, other, unmarked⟩)] at marked
      exact marked rfl
  · obtain ⟨own, found⟩ := Finmap.mem_iff.mp member
    by_cases thaws : Thaws hot allPods candidates owned before uid
    · rw [recorded.dropped uid thaws] at found
      cases found
    rcases recorded.kept uid thaws with same | ⟨-, p, listed, rfl, -⟩
    · rw [same] at found
      exact thaws (.inr ⟨unlisted, Finmap.mem_of_lookup_eq_some found⟩)
    · exact unlisted (List.mem_map_of_mem listed)

/-- A second pass aims at what is there. -/
theorem again_settled [PrintTable] (same : SamePods allPods candidates allPods' candidates')
    (recorded : Recorded hot allPods candidates owned before owned') :
    settled hot allPods' candidates' owned' (settled hot allPods candidates owned before) =
      settled hot allPods candidates owned before := by
  funext uid
  by_cases again : Freezes hot allPods' candidates' (settled hot allPods candidates owned before) uid
  · obtain ⟨marked, frozen⟩ := again_frozen same again
    rw [settled_freezes again, PodView.suppressed, if_neg marked, ← frozen]
  · rw [settled_else again (again_not_thaws same recorded)]

/-- And keeps the records. -/
theorem again_records [PrintTable] {owned'' : Owned} (same : SamePods allPods candidates allPods' candidates')
    (recorded : Recorded hot allPods candidates owned before owned')
    (again : Recorded hot allPods' candidates' owned' (settled hot allPods candidates owned before) owned'') :
    owned'' = owned' := by
  refine Finmap.ext_lookup fun uid => ?_
  rcases again.kept uid (again_not_thaws same recorded) with kept | ⟨unmarked, p, -, -, freezes, -⟩
  · exact kept
  · exact absurd unmarked (again_frozen same freezes).1

end Settle

end

section

variable [PrintTable] {cfg : Config} {hot : Bool} {allPods allPods' candidates candidates' : List Pod}
  {owned owned' : Owned} {before : String → PodView} {w w' : World}

open Settle

open CrashRecovery (smooth)

/-- Every marker the pass leaves is valid. -/
theorem Informed.settled_valid {p : Pod} (informed : Informed cfg allPods owned before w)
    (member : p ∈ handled allPods owned) :
    (settled hot allPods candidates owned before p.uid).marker = "" ∨
      readMarker (settled hot allPods candidates owned before p.uid).marker = some freezeState := by
  by_cases freezes : Freezes hot allPods candidates before p.uid
  · rw [settled_freezes freezes, PodView.suppressed]
    dsimp only
    split
    · exact .inr readMarker_encode_freezeState
    · rename_i marked
      exact .inr ((informed.valid member).resolve_left marked)
  · by_cases thaws : Thaws hot allPods candidates owned before p.uid
    · rw [settled_thaws thaws]
      exact .inl rfl
    · rw [settled_else freezes thaws]
      exact informed.valid member

/-- A picture of `settled` and its records are what the guard is told of the second time. -/
theorem Informed.again (informed : Informed cfg allPods owned before w)
    (picture : Picture cfg (handled allPods owned) (settled hot allPods candidates owned before) w')
    (recorded : Recorded hot allPods candidates owned before owned')
    (same : SamePods allPods candidates allPods' candidates')
    (seen : ∀ p ∈ allPods', p ∈ w'.store.seen)
    (cached : ∀ p ∈ allPods', p.uid ∉ owned' → p.annotationAt Annotations.guardStateKey =
      (settled hot allPods candidates owned before p.uid).marker) :
    Informed cfg allPods' owned' (settled hot allPods candidates owned before) w' := by
  have versions : ∀ p ∈ allPods', ∃ q ∈ allPods, q.uid = p.uid := fun p member =>
    List.mem_map.mp (same.listed.mem_iff.mp (List.mem_map_of_mem member))
  refine ⟨picture.finite, same.listed.nodup_iff.mpr informed.distinct, fun p member => ⟨seen p member, ?_⟩,
    fun p member absent => ⟨cached p member absent, ?_⟩, fun uid own found => ?_⟩
  · obtain ⟨q, listed, uid⟩ := versions p member
    have shows := picture.shows q (.inl listed)
    rw [uid] at shows
    exact shows.congr (picture.seen q (.inl listed)) (seen p member) uid
  · obtain ⟨q, listed, uid⟩ := versions p member
    exact (uid ▸ informed.settled_valid (.inl listed)).imp id fun marked => ⟨_, marked, rfl⟩
  · have stays : ¬Thaws hot allPods candidates owned before uid := by
      intro thaws
      rw [recorded.dropped uid thaws] at found
      cases found
    rcases recorded.kept uid stays with kept | ⟨unmarked, p, listed, rfl, freezes, inserted⟩
    · rw [kept] at found
      obtain ⟨rfl, -⟩ := informed.records uid own found
      have member : own.pod ∈ handled allPods owned := .inr ⟨_, own, found, rfl⟩
      obtain ⟨state, marked⟩ := informed.record found
      refine ⟨rfl, picture.seen _ member, picture.shows _ member, ?_, state ▸ rfl⟩
      have filled : (settled hot allPods candidates owned before own.pod.uid).marker ≠ "" := by
        by_cases freezes : Freezes hot allPods candidates before own.pod.uid
        · rw [settled_freezes freezes, PodView.suppressed, if_neg (marker_filled marked)]
          exact marker_filled marked
        · rw [settled_else freezes stays]
          exact marker_filled marked
      rw [state]
      exact (informed.settled_valid member).resolve_left filled
    · rw [inserted] at found
      obtain rfl := Option.some.inj found
      have member : p ∈ handled allPods owned := .inl listed
      refine ⟨rfl, picture.seen _ member, picture.shows _ member, ?_, rfl⟩
      rw [settled_freezes freezes, PodView.suppressed, if_pos unmarked]
      exact readMarker_encode_freezeState

variable [Qos.ResourceHelper]

/-- The second pass. -/
theorem Informed.rests (informed : Informed cfg allPods owned before w)
    (picture : Picture cfg (handled allPods owned) (settled hot allPods candidates owned before) w')
    (recorded : Recorded hot allPods candidates owned before owned')
    (same : SamePods allPods candidates allPods' candidates')
    (again : Informed cfg allPods' owned' (settled hot allPods candidates owned before) w') :
    Safe (smooth cfg) (permits (fun _ _ _ => False) fun _ _ => False)
      (converge cfg owned' hot allPods' candidates') (fun result w'' => result = (none, owned') ∧
        ∀ p ∈ handled allPods owned,
          Shows cfg w'' p (settled hot allPods candidates owned before p.uid)) w' := by
  let pods := handled allPods owned ∪ handled allPods' owned'
  have ready : Ready cfg allPods' owned' pods (settled hot allPods candidates owned before) := {
    again.ready with
    listed := fun p listed => .inr (.inl listed)
    valid := fun p member => member.elim (fun known => informed.settled_valid known) fun known =>
      again.valid known
    records := fun uid own found => ⟨.inr (again.ready.records uid own found).1,
      (again.ready.records uid own found).2⟩ }
  have sees : Picture cfg pods (settled hot allPods candidates owned before) w' := {
    finite := picture.finite
    seen := fun p member => member.elim (picture.seen p) (again.picture.seen p)
    shows := fun p member => member.elim (picture.shows p) (again.picture.shows p) }
  have quiet : ∀ (w : World) r answer w'', purposeful cfg hot allPods' candidates' owned' pods
      (settled hot allPods candidates owned before) w r answer w'' →
      permits (fun _ _ _ => False) (fun _ _ => False) w r answer w'' := by
    intro w r answer w'' purpose
    cases r with
    | writeFile dir name value =>
        obtain ⟨-, p, -, -, ⟨-, freezes, thawed⟩ | ⟨-, thaws, -⟩⟩ := purpose
        · rw [(again_frozen same freezes).2] at thawed
          cases thawed
        · exact again_not_thaws same recorded thaws
    | patchPod ns name patch =>
        obtain ⟨p, -, -, -, ⟨freezes, unmarked⟩ | ⟨thaws, -⟩⟩ := purpose
        · exact (again_frozen same freezes).1 unmarked
        · exact again_not_thaws same recorded thaws
    | _ => trivial
  refine ((converge_picture ready w' sees).weaken quiet).mono fun result w'' known => ?_
  obtain ⟨⟨succeeded, kept⟩, pictured⟩ := known
  rw [again_settled same recorded] at pictured
  exact ⟨Prod.ext succeeded (again_records same recorded kept), fun p member => pictured.shows p (.inl member)⟩

/-- **What a pass establishes.** It succeeds, and writes and patches only what the temperature calls for:
candidates of a hot pass end frozen and marked, the other pods that were marked or on record end thawed,
unmarked and off record, the rest is left. A second pass over the same pods, with their annotations caught
up, neither writes nor patches. The candidates that come from `idlePodsUsage` are idle-tier pods that run
and whose `cpu.idle` is live. -/
theorem converge_settles (hot : Bool) (candidates : List Pod) (informed : Informed cfg allPods owned before w) :
    (∃ result w', Exec (smooth cfg) (converge cfg owned hot allPods candidates) w result w') ∧
    Safe (smooth cfg) (purposeful cfg hot allPods candidates owned (handled allPods owned) before)
      (converge cfg owned hot allPods candidates) (fun result w' => result.1 = none ∧
        (∀ uid, Thaws hot allPods candidates owned before uid → uid ∉ result.2) ∧
        (∀ p ∈ handled allPods owned, Shows cfg w' p (settled hot allPods candidates owned before p.uid)) ∧
        ∀ allPods' candidates', SamePods allPods candidates allPods' candidates' →
          (∀ p ∈ allPods', p ∈ w'.store.seen ∧ (p.uid ∉ result.2 →
            p.annotationAt Annotations.guardStateKey =
              (settled hot allPods candidates owned before p.uid).marker)) →
          Safe (smooth cfg) (permits (fun _ _ _ => False) fun _ _ => False)
            (converge cfg result.2 hot allPods' candidates') (fun result' w'' => result' = (none, result.2) ∧
              ∀ p ∈ handled allPods owned,
                Shows cfg w'' p (settled hot allPods candidates owned before p.uid)) w') w ∧
    (∀ uid, Thaws hot allPods candidates owned before uid → ¬Freezes hot allPods candidates before uid) ∧
    ∀ events acc, Program.Path (idlePodsUsage cfg allPods ⟨[], ∅, []⟩) events (.done acc) →
      ∀ p ∈ acc.candidates, p ∈ allPods ∧ Candidate cfg events p := by
  refine ⟨Program.exec_exists CrashRecovery.smooth_total _ w, ?_,
    fun uid => thaws_not_freezes hot allPods candidates owned before, fun events acc path p member => ?_⟩
  · refine (converge_picture informed.ready w informed.picture).mono fun result w' known => ?_
    obtain ⟨⟨succeeded, recorded⟩, picture⟩ := known
    refine ⟨succeeded, fun uid thaws => Finmap.lookup_eq_none.mp (recorded.dropped uid thaws), picture.shows,
      fun allPods' candidates' same fresh => ?_⟩
    exact informed.rests picture recorded same (informed.again picture recorded same
      (fun p member => (fresh p member).1) fun p member => (fresh p member).2)
  · exact (idlePodsUsage_candidates path p member).resolve_left (by simp)

end

/-! ## One pod -/

section

open CrashRecovery (smooth)

attribute [local instance] asciiTable Qos.containerRequests

/-- A thawed candidate of a hot pass is frozen and marked. -/
theorem converge_settles_candidate : ∃ result w',
    Exec (smooth sampleScene.cfg)
      (converge sampleScene.cfg ∅ true [sampleScene.latest untouchedPod] [sampleScene.latest untouchedPod])
      (sampleScene.world untouchedPod) result w' ∧
    result.1 = none ∧ Shows sampleScene.cfg w' (sampleScene.latest untouchedPod) ⟨encode freezeState, true⟩ := by
  have shows : Shows sampleScene.cfg (sampleScene.world untouchedPod) (sampleScene.latest untouchedPod)
      ⟨"", false⟩ :=
    ⟨⟨_, Scene.live_latest, rfl, Scene.latest_annotationAt⟩, sampleScene.dir, sampleScene.computed,
      congrArg Freezer.value Scene.world_freezer⟩
  have informed : Informed sampleScene.cfg [sampleScene.latest untouchedPod] ∅ (fun _ => ⟨"", false⟩)
      (sampleScene.world untouchedPod) := by
    refine ⟨Scene.seen_finite, by simp, fun p member => ?_, fun p member _ => ?_, fun uid own found => ?_⟩
    · obtain rfl := List.mem_singleton.mp member
      exact ⟨⟨_, _, List.suffix_rfl, rfl⟩, shows⟩
    · obtain rfl := List.mem_singleton.mp member
      exact ⟨Scene.latest_annotationAt, .inl rfl⟩
    · simp at found
  obtain ⟨⟨result, w', run⟩, safe, -⟩ :=
    converge_settles true [sampleScene.latest untouchedPod] informed
  obtain ⟨succeeded, -, shown, -⟩ := Safe.exec run safe
  refine ⟨result, w', run, succeeded, ?_⟩
  have final := shown (sampleScene.latest untouchedPod) (.inl (.head _))
  rwa [Settle.settled_freezes ⟨rfl, .head _, .head _, .inr rfl⟩] at final

end

end CpuIdle.Guard
