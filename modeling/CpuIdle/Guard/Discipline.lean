/-
# Guard.Discipline — from what each effect keeps to what every pass keeps

A `Discipline` is an invariant of the guard's world together with what the guard may
rely on at each point: that a record is its own (`Ours`), that a marker is in force
(`InForce`), that it read `0` before it marks (`Looked`), that a pod is not held frozen before
its marker goes (`Thawed`), that it read `1` before it thaws (`Frozen`). Its laws speak of
one effect each. `converge_keeps` and `recover_keeps` carry them through whole passes,
over any cache, with any failure, and `preserves` through runs killed anywhere.
-/
import CpuIdle.Guard.World
import CpuIdle.Theory.Service

namespace CpuIdle.Guard

open CpuIdle.Go CpuIdle.Kube CpuIdle.Node CpuIdle.Theory CpuIdle.Cgroup CpuIdle.Observe
  CpuIdle.Kernel.Cgroup

set_option autoImplicit false

/-- The predicates of a discipline: `Known` are the versions its lists may hold, `Write`
is what is shown of every knob write. -/
structure Predicates where
  Known : Pod → Prop
  Inv : World → Prop
  Ours : String → World → Prop
  InForce : String → World → Prop
  Looked : String → World → Prop
  Thawed : String → World → Prop
  Frozen : String → World → Prop
  Lift : String → PersistedState → World → Prop
  Write : World → String → String → String → Prop

namespace Predicates

variable (D : Predicates)

/-- What survives an effect; the markers of the UIDs in `cleared` may be gone. -/
structure Carries (cleared : List String) (w w' : World) : Prop where
  inv : D.Inv w'
  seen : w.store.seen ⊆ w'.store.seen
  ours : ∀ uid, D.Ours uid w → D.Ours uid w'
  inForce : ∀ uid, uid ∉ cleared → D.InForce uid w → D.InForce uid w'

/-- What each answered request has to meet. -/
def guarantee : Guarantee nodeSignature World := fun w r _ w' =>
  (D.Inv w → D.Inv w') ∧
    match r with
    | .writeFile dir name value => D.Write w dir name value
    | _ => True

end Predicates

section

variable [PrintTable] [Qos.ResourceHelper]

/-- One law for each effect and for the moves of the others. -/
structure Discipline (cfg : Config) (rely : World → World → Prop) extends Predicates where
  others : ∀ {w w'}, rely w w' → Inv w → toPredicates.Carries [] w w' ∧
    (∀ dir, Looked dir w → Looked dir w') ∧ (∀ dir, Thawed dir w → Thawed dir w') ∧
    (∀ dir, Frozen dir w → Frozen dir w') ∧ ∀ dir state, Lift dir state w → Lift dir state w'
  listed : ∀ {w p}, Inv w → Known p → p ∈ w.store.seen →
    readMarker (p.annotationAt Annotations.guardStateKey) = some freezeState → Ours p.uid w
  look : ∀ {w dir b}, Inv w → (w.freezer dir).value = some b →
    toPredicates.Carries [] w (w.look dir b) ∧
      (b = false → Looked dir (w.look dir b) ∧ Thawed dir (w.look dir b))
  look_frozen : ∀ {w p dir}, Inv w → p ∈ w.store.seen → podDir cfg p = .ok dir → Ours p.uid w →
    (w.freezer dir).value = some true → Frozen dir (w.look dir true)
  gone : ∀ {w dir}, Inv w → (w.freezer dir).value = none → Thawed dir w
  freeze : ∀ {w p dir}, Inv w → p ∈ w.store.seen → podDir cfg p = .ok dir → Ours p.uid w →
    InForce p.uid w → Write w dir "cgroup.freeze" "1" ∧
      ((w.freezer dir).value.isSome = true → toPredicates.Carries [] w (w.freeze dir true))
  thaw : ∀ {w p dir}, Inv w → p ∈ w.store.seen → podDir cfg p = .ok dir → Ours p.uid w →
    Frozen dir w → Write w dir "cgroup.freeze" "0" ∧
      ((w.freezer dir).value.isSome = true →
        toPredicates.Carries [] w (w.freeze dir false) ∧ Thawed dir (w.freeze dir false))
  mark : ∀ {w w' ns name patch p p' dir}, Inv w → w.Patches cfg ns name patch p p' w' →
    podDir cfg p = .ok dir → Looked dir w → p.annotationAt Annotations.guardStateKey = "" →
    patch.guardState = some (encode freezeState) →
      toPredicates.Carries [] w w' ∧ Ours p.uid w' ∧ InForce p.uid w'
  clear : ∀ {w w' ns name patch p p'}, Inv w → w.Patches cfg ns name patch p p' w' →
    (∀ dir, podDir cfg p = .ok dir → Thawed dir w) →
    readMarker (p.annotationAt Annotations.guardStateKey) = some freezeState →
    patch.guardState = none → toPredicates.Carries [p.uid] w w'
  sweep : ∀ {w w' ns name patch p p'}, Inv w → w.Patches cfg ns name patch p p' w' →
    readMarker (p.annotationAt Annotations.guardStateKey) ≠ some freezeState →
    patch.guardState = none → toPredicates.Carries [] w w'
  quota : ∀ {w} dir q, Inv w → toPredicates.Carries [] w (w.setQuota dir q)
  lift_read : ∀ {w dir content state}, Inv w → (w.quota dir).live = some content →
    trimSpace content = state.suppressed → Lift dir state
      (w.setQuota dir { live := some content, read := some content, moved := false })
  lift : ∀ {w p dir state}, Inv w → Known p → p ∈ w.store.seen → podDir cfg p = .ok dir → Legacy state →
    readMarker (p.annotationAt Annotations.guardStateKey) = some state →
    Qos.hasCPUQuota p.spec = false → Lift dir state w → Write w dir "cpu.max" state.restore

namespace Predicates

variable (D : Predicates)

/-- What the guard holds of its in-process records. -/
def Owns (owned : Owned) (w : World) : Prop :=
  ∀ uid own, owned.lookup uid = some own →
    own.pod ∈ w.store.seen ∧ own.pod.uid = uid ∧ own.state = freezeState ∧ D.Ours uid w

/-- What holds in the middle of a pass over `pods`. A `watched` pod that counts as marked
and has not been restored in this pass has its marker in force. -/
structure Held (pods : List Pod) (watched : String → Prop) (owned : Owned) (restored : List String)
    (w : World) : Prop where
  inv : D.Inv w
  listed : ∀ p ∈ pods, p ∈ w.store.seen ∧ D.Known p
  owns : D.Owns owned w
  ready : ∀ p ∈ pods, watched p.uid → p.uid ∉ restored →
    stateForPod owned p = .ok (some freezeState) → D.InForce p.uid w

variable {D} {pods : List Pod} {watched : String → Prop} {owned : Owned} {restored : List String}
  {w w' : World}

omit [Qos.ResourceHelper] [PrintTable] in
theorem Owns.carry {cleared : List String} (owns : D.Owns owned w) (carries : D.Carries cleared w w') :
    D.Owns owned w' := fun uid own found =>
  let ⟨seen, same, state, known⟩ := owns uid own found
  ⟨carries.seen seen, same, state, carries.ours uid known⟩

omit [Qos.ResourceHelper] [PrintTable] in
theorem Owns.erase (owns : D.Owns owned w) (uid : String) : D.Owns (owned.erase uid) w := by
  intro other own found
  by_cases same : other = uid
  · subst same
    simp at found
  · rw [Finmap.lookup_erase_ne same] at found
    exact owns other own found

omit [Qos.ResourceHelper] in
theorem Held.carry {cleared : List String} (held : D.Held pods watched owned restored w)
    (carries : D.Carries cleared w w') (gone : cleared ⊆ restored) :
    D.Held pods watched owned restored w' where
  inv := carries.inv
  listed p member := ⟨carries.seen (held.listed p member).1, (held.listed p member).2⟩
  owns := held.owns.carry carries
  ready p member watches fresh marked :=
    carries.inForce p.uid (fun cleared => fresh (gone cleared))
      (held.ready p member watches fresh marked)

omit [Qos.ResourceHelper] in
theorem Held.restore {uid : String} (held : D.Held pods watched owned restored w) :
    D.Held pods watched owned (uid :: restored) w where
  inv := held.inv
  listed := held.listed
  owns := held.owns
  ready p member watches fresh := held.ready p member watches fun old => fresh (.tail _ old)

omit [Qos.ResourceHelper] in
/-- A record of another UID does not matter. -/
theorem stateForPod_erase {p : Pod} {uid : String} (other : p.uid ≠ uid) :
    stateForPod (owned.erase uid) p = stateForPod owned p := by
  simp only [stateForPod, Finmap.lookup_erase_ne other]

omit [Qos.ResourceHelper] in
theorem Held.erase {uid : String} (held : D.Held pods watched owned restored w)
    (restores : uid ∈ restored) : D.Held pods watched (owned.erase uid) restored w where
  inv := held.inv
  listed := held.listed
  owns := held.owns.erase uid
  ready p member watches fresh marked := by
    have other : p.uid ≠ uid := fun same => fresh (same ▸ restores)
    exact held.ready p member watches fresh (stateForPod_erase other ▸ marked)

omit [Qos.ResourceHelper] in
theorem Held.forget {p : Pod} {err : GoError} (held : D.Held pods watched owned restored w)
    (restores : p.uid ∈ restored) :
    D.Held pods watched (forgetConflictedOwnership owned p err) restored w := by
  unfold forgetConflictedOwnership
  split
  · exact held.erase restores
  · exact held

omit [Qos.ResourceHelper] in
/-- A record of a marker that is in force. -/
theorem Held.insert {p : Pod} (held : D.Held pods watched owned restored w)
    (seen : p ∈ w.store.seen) (ours : D.Ours p.uid w) (inForce : D.InForce p.uid w) :
    D.Held pods watched (owned.insert p.uid ⟨p, freezeState, true⟩) restored w where
  inv := held.inv
  listed := held.listed
  owns uid own found := by
    by_cases same : uid = p.uid
    · subst same
      rw [Finmap.lookup_insert] at found
      cases found
      exact ⟨seen, rfl, rfl, ours⟩
    · rw [Finmap.lookup_insert_of_ne _ same] at found
      exact held.owns uid own found
  ready q member watches fresh marked := by
    by_cases same : q.uid = p.uid
    · exact same ▸ inForce
    · refine held.ready q member watches fresh ?_
      simpa only [stateForPod, Finmap.lookup_insert_of_ne _ same] using marked

omit [Qos.ResourceHelper] [PrintTable] in
variable [PrintTable] in
theorem Held.unwatched (held : D.Held pods watched owned restored w) (restored' : List String) :
    D.Held pods (fun _ => False) owned restored' w where
  inv := held.inv
  listed := held.listed
  owns := held.owns
  ready _ _ watches := watches.elim

omit [Qos.ResourceHelper] in
/-- What `stateForPod` reports is the guard's own record or one from the annotation. -/
theorem Owns.state {p : Pod} {state : PersistedState} (owns : D.Owns owned w)
    (held : stateForPod owned p = .ok (some state)) :
    (state = freezeState ∧ ∃ own, owned.lookup p.uid = some own) ∨
      (owned.lookup p.uid = none ∧
        readMarker (p.annotationAt Annotations.guardStateKey) = some state) := by
  unfold stateForPod at held
  cases found : owned.lookup p.uid with
  | some own =>
      simp only [found, Except.ok.injEq, Option.some.injEq] at held
      exact .inl ⟨held ▸ (owns p.uid own found).2.2.1, own, rfl⟩
  | none =>
      simp only [found] at held
      split at held
      · cases held
      · cases decoded : decode (p.annotationAt Annotations.guardStateKey) with
        | none => simp only [decoded, reduceCtorEq] at held
        | some marked =>
            cases valid : validateState marked with
            | some err => simp only [decoded, valid, reduceCtorEq] at held
            | none =>
                simp only [decoded, valid, Except.ok.injEq, Option.some.injEq] at held
                exact .inr ⟨rfl, readMarker_eq_some.mpr ⟨by rw [decoded, held], held ▸ valid⟩⟩

end Predicates

namespace Discipline

variable {cfg : Config} {rely : World → World → Prop} (D : Discipline cfg rely)
  {pods : List Pod} {watched : String → Prop} {owned : Owned} {restored : List String}

/-- Triples of the guard in its world. -/
abbrev Triple {α : Type} (P : World → Prop) (p : Node α) (Q : α → World → Prop) : Prop :=
  Holds (arena cfg rely) D.guarantee P p Q

/-- Requests that only tell something. -/
theorem inert {r : Request} (quiet : ∀ w answer w', World.act cfg w r answer w' → w' = w)
    (noWrite : ∀ dir name value, r ≠ .writeFile dir name value) :
    (arena cfg rely).Inert D.guarantee r := by
  intro w answer w' act
  refine ⟨quiet w answer w' act, fun inv => inv, ?_⟩
  cases r with
  | writeFile dir name value => exact absurd rfl (noWrite dir name value)
  | _ => trivial

theorem silent {P : World → Prop} (stable : (arena cfg rely).Stable P) :
    Silent (arena cfg rely) D.guarantee P where
  stable := stable
  inc counter := (D.inert (r := .inc counter) (fun _ _ _ act => act) nofun).keeps P
  event e := (D.inert (r := .event e) (fun _ _ _ act => act) nofun).keeps P

theorem held_stable : (arena cfg rely).Stable (D.Held pods watched owned restored) :=
  fun _ _ move held => held.carry (D.others move held.inv).1 (List.nil_subset _)

/-! ## The marker -/

omit [Qos.ResourceHelper] in
/-- A patch takes effect on the version its `uid` and `resourceVersion` were read from. -/
theorem patches_current {w w' : World} {pod current p p' : Pod} {value : String} {clear : Bool}
    (read : current ∈ w.store.seen)
    (patches : w.Patches cfg pod.ns pod.name (markerPatch current value clear) p p' w') :
    p = current := by
  have version : (markerPatch current value clear).resourceVersion = some current.resourceVersion :=
    if_pos (w.store.versioned current read)
  exact patches.store.store_version read rfl version

/-- One patch for `pod`: `P` until it is sent, `R` once it took effect. -/
theorem patch_holds {pod : Pod} {value : String} {clear : Bool} {expected : Option PersistedState}
    {expectedRaw : String} {P R : World → Prop} {Q : Option GoError → World → Prop}
    (stable : (arena cfg rely).Stable P) (inv : ∀ w, P w → D.Inv w)
    (effect : ∀ w p p' w', P w → p ∈ w.store.seen → p.uid = pod.uid →
      markerMatches (p.annotationAt Annotations.guardStateKey) clear expected expectedRaw = true →
      w.Patches cfg pod.ns pod.name (markerPatch p value clear) p p' w' → D.Inv w' ∧ R w')
    (done : ∀ w, R w → Q none w) (skip : clear = true → ∀ w, P w → Q none w)
    (failed : ∀ err w, P w ∨ R w → Q (some err) w) :
    D.Triple P (patchMarker pod value clear expected expectedRaw) Q := by
  refine patchMarker_holds (F := fun current w => P w ∧ current ∈ w.store.seen)
    { stable, stable_read := ?stable_read, read_known := ?read_known, get := ?get, send := ?send
      replaced := fun current w known _ cleared => skip cleared w known.1
      already := fun current w known _ cleared _ => skip cleared w known.1
      error := fun err w holds => failed err w (.inl holds) }
  case stable_read =>
    exact fun current w w' move known => ⟨stable w w' move known.1,
      (D.others move (inv w known.1)).1.seen known.2⟩
  case read_known => exact fun current w known => known.1
  case get =>
    rintro _ holds answer w ⟨rfl, found⟩
    exact ⟨⟨id, trivial⟩, holds, fun current read => ⟨holds, (w.store.stored _ _ _ (found current read)).1⟩,
      fun _ cleared => skip cleared w holds⟩
  case send =>
    intro current w known sameUID matching answer w' act
    obtain ⟨holds, read⟩ := known
    have took : (∃ p p', w.Patches cfg pod.ns pod.name (markerPatch current value clear) p p' w') →
        D.Inv w' ∧ R w' := by
      rintro ⟨p, p', patches⟩
      obtain rfl := patches_current read patches
      exact effect w p p' w' holds read sameUID matching patches
    obtain ⟨patched, missing, lost⟩ := act
    cases answer with
    | patched =>
        obtain ⟨inv', after⟩ := took (patched rfl)
        exact ⟨⟨fun _ => inv', trivial⟩, fun _ => done w' after, nofun, fun other => absurd rfl other⟩
    | notFound =>
        obtain rfl := missing rfl
        exact ⟨⟨id, trivial⟩, nofun, fun _ cleared => skip cleared w' holds,
          fun _ err => failed err w' (.inl holds)⟩
    | failed err =>
        rcases lost err rfl with rfl | effect
        · exact ⟨⟨id, trivial⟩, nofun, nofun, fun _ err => failed err w' (.inl holds)⟩
        · obtain ⟨inv', after⟩ := took effect
          exact ⟨⟨fun _ => inv', trivial⟩, nofun, nofun, fun _ err => failed err w' (.inr after)⟩

variable {D}

theorem held_and {P : World → Prop}
    (keeps : ∀ w w', rely w w' → D.Inv w → P w → P w') :
    (arena cfg rely).Stable fun w => D.Held pods watched owned restored w ∧ P w :=
  fun w w' move known => ⟨D.held_stable w w' move known.1, keeps w w' move known.1.inv known.2⟩

theorem seen_others {w w' : World} (move : rely w w') (inv : D.Inv w) {p : Pod}
    (seen : p ∈ w.store.seen) : p ∈ w'.store.seen :=
  (D.others move inv).1.seen seen

/-- Setting the marker of a pod whose knob read `0`. -/
theorem setMarker_holds {pod : Pod} {dir : String} (computed : podDir cfg pod = .ok dir) :
    D.Triple (fun w => D.Held pods watched owned restored w ∧ pod ∈ w.store.seen ∧ D.Looked dir w)
      (setMarker pod freezeState) fun result w => match result with
        | none => D.Held pods watched owned restored w ∧ pod ∈ w.store.seen ∧ D.Ours pod.uid w ∧
            D.InForce pod.uid w
        | some _ => D.Held pods watched owned restored w := by
  refine D.patch_holds (R := fun w => D.Held pods watched owned restored w ∧ pod ∈ w.store.seen ∧
      D.Ours pod.uid w ∧ D.InForce pod.uid w) (held_and fun w w' move inv known => ?_)
    (fun w known => known.1.inv) ?_ (fun w after => after) nofun ?_
  · exact ⟨seen_others move inv known.1, (D.others move inv).2.1 dir known.2⟩
  · rintro w p p' w' ⟨held, seen, looked⟩ read sameUID matching patches
    have unmarked : p.annotationAt Annotations.guardStateKey = "" := by
      simpa [markerMatches] using matching
    obtain ⟨carries, ours, inForce⟩ := D.mark held.inv patches
      (w.podDir_of_uid seen read sameUID.symm computed) looked unmarked rfl
    rw [sameUID] at ours inForce
    exact ⟨carries.inv, held.carry carries (List.nil_subset _), carries.seen seen, ours, inForce⟩
  · rintro err w (known | after)
    · exact known.1
    · exact after.1

/-- Clearing a record of the guard once the pod is not held frozen. -/
theorem clearMarker_holds {pod : Pod} (restores : pod.uid ∈ restored) :
    D.Triple (fun w => D.Held pods watched owned restored w ∧ pod ∈ w.store.seen ∧
        ∀ dir, podDir cfg pod = .ok dir → D.Thawed dir w)
      (clearMarker pod freezeState) fun _ w => D.Held pods watched owned restored w := by
  refine D.patch_holds (R := D.Held pods watched owned restored)
    (held_and fun w w' move inv known => ?_) (fun w known => known.1.inv) ?_ (fun w after => after)
    (fun _ w known => known.1) ?_
  · exact ⟨seen_others move inv known.1, fun dir computed =>
      (D.others move inv).2.2.1 dir (known.2 dir computed)⟩
  · rintro w p p' w' ⟨held, seen, thawed⟩ read sameUID matching patches
    have marked : readMarker (p.annotationAt Annotations.guardStateKey) = some freezeState := by
      simpa [markerMatches] using matching
    have carries := D.clear held.inv patches
      (fun dir computed => thawed dir (w.podDir_of_uid read seen sameUID computed)) marked rfl
    refine ⟨carries.inv, held.carry carries fun uid cleared => ?_⟩
    rw [List.mem_singleton.mp cleared, sameUID]
    exact restores
  · rintro err w (known | after)
    · exact known.1
    · exact after

/-- Clearing anything else. -/
theorem sweep_holds {pod : Pod} {expected : Option PersistedState} {expectedRaw : String}
    (foreign : ∀ raw, markerMatches raw true expected expectedRaw = true →
      readMarker raw ≠ some freezeState) :
    D.Triple (D.Held pods watched owned restored) (patchMarker pod "" true expected expectedRaw)
      fun _ w => D.Held pods watched owned restored w := by
  refine D.patch_holds (R := D.Held pods watched owned restored) D.held_stable
    (fun w held => held.inv) ?_ (fun w after => after) (fun _ w held => held) ?_
  · intro w p p' w' held read sameUID matching patches
    have carries := D.sweep held.inv patches (foreign _ matching) rfl
    exact ⟨carries.inv, held.carry carries (List.nil_subset _)⟩
  · rintro err w (known | after)
    · exact known
    · exact after

/-! ## One pod -/

theorem inert_ctx : (arena cfg rely).Inert D.guarantee .ctxErr :=
  D.inert (r := .ctxErr) (fun _ _ _ act => act) nofun

theorem inert_stat (dir : String) : (arena cfg rely).Inert D.guarantee (.stat dir) :=
  D.inert (r := .stat dir) (fun _ _ _ act => act.1) nofun

theorem unread {P : World → Prop} {name : String} (dir : String) (w : World) (holds : P w)
    (answer : Answer (.readFile dir name)) (w' : World)
    (act : (arena cfg rely).act w (.readFile dir name) answer w')
    (nothing : ∀ content, answer ≠ ReadResult.data content) :
    D.guarantee w (.readFile dir name) answer w' ∧ P w' := by
  obtain rfl := act.2 nothing
  exact ⟨⟨id, trivial⟩, holds⟩

/-- A refused write changes nothing. -/
theorem refused {dir name value : String} {w w' : World} (writes : D.Write w dir name value)
    {answer : Answer (.writeFile dir name value)}
    (act : (arena cfg rely).act w (.writeFile dir name value) answer w')
    (unwritten : answer ≠ WriteResult.written) :
    w' = w ∧ D.guarantee w (.writeFile dir name value) answer w' := by
  obtain rfl := act.2 unwritten
  exact ⟨rfl, id, writes⟩

/-- Restoring a freeze on record. -/
theorem restoreFreeze_holds {pod : Pod} (restores : pod.uid ∈ restored) :
    D.Triple (fun w => D.Held pods watched owned restored w ∧ pod ∈ w.store.seen ∧ D.Ours pod.uid w)
      (restorePod cfg owned pod freezeState)
      fun result w => D.Held pods watched result.2.2 restored w := by
  refine restorePod_holds
    (N := fun w => D.Held pods watched owned restored w ∧ pod ∈ w.store.seen ∧
      ∀ dir, podDir cfg pod = .ok dir → D.Thawed dir w)
    (S := fun dir w => D.Held pods watched owned restored w ∧ pod ∈ w.store.seen ∧
      D.Ours pod.uid w ∧ (podDir cfg pod = .ok dir → D.Frozen dir w))
    { ctx := inert_ctx, stat := inert_stat, silent := D.silent ?known, silent_cleared := D.silent ?thawed
      stable_read := ?frozen, read := ?read, unread := unread
      gone := ?gone, write := ?write, refused := ?refused
      read_known := fun dir w known => ⟨known.1, known.2.1, known.2.2.1⟩
      clear := ?clear, failed := fun err w holds => holds.1 }
  case known =>
    exact held_and fun w w' move inv known =>
      ⟨seen_others move inv known.1, (D.others move inv).1.ours _ known.2⟩
  case thawed =>
    exact held_and fun w w' move inv known => ⟨seen_others move inv known.1,
      fun dir computed => (D.others move inv).2.2.1 dir (known.2 dir computed)⟩
  case frozen =>
    exact fun dir => held_and fun w w' move inv known => ⟨seen_others move inv known.1,
      (D.others move inv).1.ours _ known.2.1,
      fun computed => (D.others move inv).2.2.2.1 dir (known.2.2 computed)⟩
  case read =>
    rintro - dir computed w ⟨held, seen, ours⟩ content w' act
    obtain ⟨b, shows, rfl, rfl⟩ := (act.1 content rfl).of_freeze
    obtain ⟨carries, zero⟩ := D.look held.inv shows
    have held' := held.carry carries (List.nil_subset _)
    rw [trimSpace_bit]
    refine ⟨⟨fun _ => carries.inv, trivial⟩, fun differs => ?_, fun same => ?_⟩
    · have thawed : b = false := by
        cases b with
        | false => rfl
        | true => exact absurd rfl differs
      refine ⟨held', carries.seen seen, fun dir' computed' => ?_⟩
      rw [computed] at computed'
      exact Except.ok.inj computed' ▸ (zero thawed).2
    · obtain rfl : b = true := bit_injective same
      exact ⟨held', carries.seen seen, carries.ours _ ours,
        fun _ => D.look_frozen held.inv seen computed ours shows⟩
  case gone =>
    rintro - dir computed w ⟨held, seen, -⟩ act
    refine ⟨held, seen, fun dir' computed' => ?_⟩
    rw [computed] at computed'
    exact Except.ok.inj computed' ▸ D.gone held.inv (act.2 rfl)
  case write =>
    rintro - - dir computed w ⟨held, seen, ours, frozen⟩ w' act
    obtain ⟨present, rfl⟩ := World.Writes.of_freeze (b := false) (act.1 rfl)
    obtain ⟨writes, after⟩ := D.thaw held.inv seen computed ours (frozen computed)
    obtain ⟨carries, thawed⟩ := after present
    refine ⟨⟨fun _ => carries.inv, writes⟩, held.carry carries (List.nil_subset _), carries.seen seen,
      fun dir' computed' => ?_⟩
    rw [computed] at computed'
    exact Except.ok.inj computed' ▸ thawed
  case refused =>
    rintro - - dir computed w known answer w' act unwritten
    obtain ⟨writes, -⟩ := D.thaw known.1.inv known.2.1 computed known.2.2.1 (known.2.2.2 computed)
    obtain ⟨rfl, kept⟩ := refused writes act unwritten
    exact ⟨kept, known⟩
  case clear =>
    rintro - changed
    refine (clearMarker_holds restores).post fun result w held => ?_
    cases result with
    | none => exact held.erase restores
    | some err => exact held.forget restores

/-- Restoring a legacy record that came with the annotation. -/
theorem restoreLegacy_holds {pod : Pod} {state : PersistedState} (restores : pod.uid ∈ restored)
    (known : D.Known pod) (legacy : Legacy state) (unowned : owned.lookup pod.uid = none)
    (marked : readMarker (pod.annotationAt Annotations.guardStateKey) = some state) :
    D.Triple (fun w => D.Held pods watched owned restored w ∧ pod ∈ w.store.seen)
      (restorePod cfg owned pod state) fun result w => D.Held pods watched result.2.2 restored w := by
  have knob : state.knob = "cpu.max" := legacy.knob
  have writes : ∀ dir w, podDir cfg pod = .ok dir →
      (state.version = legacyGuardStateVersion → mayRestoreUnbounded owned pod state = true) →
      D.Held pods watched owned restored w → pod ∈ w.store.seen → D.Lift dir state w →
        D.Write w dir state.knob state.restore := by
    intro dir w computed may held seen lifted
    have unlimited : Qos.hasCPUQuota pod.spec = false := by
      have := may legacy.version
      simpa [mayRestoreUnbounded, unowned] using this
    rw [knob]
    exact D.lift held.inv known seen computed legacy marked unlimited lifted
  have stable : (arena cfg rely).Stable fun w => D.Held pods watched owned restored w ∧ pod ∈ w.store.seen :=
    held_and fun w w' move inv seen => seen_others move inv seen
  refine restorePod_holds (N := D.Held pods watched owned restored)
    (S := fun dir w => D.Held pods watched owned restored w ∧ pod ∈ w.store.seen ∧ D.Lift dir state w)
    { ctx := inert_ctx, stat := inert_stat, silent := D.silent stable
      silent_cleared := D.silent D.held_stable, stable_read := ?lifted, read := ?read, unread := unread
      gone := fun _ _ _ _ holds _ => holds.1, write := ?write, refused := ?refused
      read_known := fun _ _ holds => ⟨holds.1, holds.2.1⟩, clear := ?clear, failed := fun _ _ holds => holds.1 }
  case lifted =>
    exact fun dir => held_and fun w w' move inv holds =>
      ⟨seen_others move inv holds.1, (D.others move inv).2.2.2.2 dir state holds.2⟩
  case read =>
    rw [knob]
    rintro - dir - w ⟨held, seen⟩ content w' act
    obtain ⟨shows, rfl⟩ := (act.1 content rfl).of_quota
    have carries := D.quota dir { live := some content, read := some content, moved := false } held.inv
    have held' := held.carry carries (List.nil_subset _)
    exact ⟨⟨fun _ => carries.inv, trivial⟩, fun _ => held',
      fun same => ⟨held', carries.seen seen, D.lift_read held.inv shows same⟩⟩
  case write =>
    rintro - may dir computed w ⟨held, seen, lifted⟩ w' act
    have written := writes dir w computed may held seen lifted
    rw [knob] at act written ⊢
    obtain ⟨q, rfl⟩ := (act.1 rfl).of_quota
    have carries := D.quota dir q held.inv
    exact ⟨⟨fun _ => carries.inv, written⟩, held.carry carries (List.nil_subset _)⟩
  case refused =>
    rintro - may dir computed w holds answer w' act unwritten
    obtain ⟨rfl, kept⟩ := refused (writes dir w computed may holds.1 holds.2.1 holds.2.2) act unwritten
    exact ⟨kept, holds⟩
  case clear =>
    rintro - changed
    have other : state ≠ freezeState := by
      rintro rfl
      exact absurd knob (by decide)
    refine (sweep_holds fun raw matching => ?_).post fun result w held => ?_
    · have read : readMarker raw = some state := by simpa [markerMatches] using matching
      rw [read]
      exact fun same => other (Option.some.inj same)
    · cases result with
      | none => exact held.erase restores
      | some err => exact held.forget restores

/-- Restoring whatever `stateForPod` reports of a listed pod. -/
theorem restorePod_keeps {pod : Pod} {state : PersistedState} (restores : pod.uid ∈ restored)
    (held : stateForPod owned pod = .ok (some state)) :
    D.Triple (fun w => D.Held pods watched owned restored w ∧ pod ∈ w.store.seen ∧ D.Known pod)
      (restorePod cfg owned pod state) fun result w => D.Held pods watched result.2.2 restored w := by
  refine .of_forall fun w known => ?_
  have freezes : state = freezeState → D.Ours pod.uid w → Holds (arena cfg rely) D.guarantee (· = w)
      (restorePod cfg owned pod state) fun result w => D.Held pods watched result.2.2 restored w := by
    rintro rfl ours
    exact (restoreFreeze_holds restores).pre fun w' same => same ▸ ⟨known.1, known.2.1, ours⟩
  rcases known.1.owns.state held with ⟨fresh, own, found⟩ | ⟨unowned, marked⟩
  · exact freezes fresh (known.1.owns pod.uid own found).2.2.2
  · rcases validateState_none.mp (readMarker_eq_some.mp marked).2 with fresh | legacy
    · exact freezes fresh (D.listed known.1.inv known.2.2 known.2.1 (fresh ▸ marked))
    · exact (restoreLegacy_holds restores known.2.2 legacy unowned marked).pre fun w' same =>
        same ▸ ⟨known.1, known.2.1⟩

/-- Freezing a watched pod that has not been restored in this pass. -/
theorem suppressPod_keeps {pod : Pod} (member : pod ∈ pods) (watches : watched pod.uid)
    (fresh : pod.uid ∉ restored) :
    D.Triple (D.Held pods watched owned restored) (suppressPod cfg owned pod)
      fun result w => D.Held pods watched result.2 restored w := by
  refine .of_forall fun w₀ held₀ => ?_
  have onRecord : ∀ state, stateForPod owned pod = .ok (some state) → state.knob = suppressionKnob →
      state = freezeState := by
    intro state marked ours
    rcases held₀.owns.state marked with known | ⟨-, read⟩
    · exact known.1
    · rcases validateState_none.mp (readMarker_eq_some.mp read).2 with same | legacy
      · exact same
      · exact absurd (legacy.knob.symm.trans ours) (by decide)
  have freezes : ∀ dir w, podDir cfg pod = .ok dir → pod ∈ w.store.seen →
      D.Held pods watched owned restored w → D.Ours pod.uid w → D.InForce pod.uid w →
        D.Write w dir "cgroup.freeze" "1" ∧ ((w.freezer dir).value.isSome = true →
          D.Carries [] w (w.freeze dir true)) :=
    fun dir w computed seen held ours inForce => D.freeze held.inv seen computed ours inForce
  refine (suppressPod_holds (P := D.Held pods watched owned restored)
    (L := fun dir w => D.Held pods watched owned restored w ∧ pod ∈ w.store.seen ∧ D.Looked dir w)
    (M := fun _ w => D.Held pods watched owned restored w ∧ pod ∈ w.store.seen ∧ D.Ours pod.uid w ∧
      D.InForce pod.uid w)
    { ctx := inert_ctx, stat := inert_stat, stable := D.held_stable, read := ?read, unread := unread
      set := ?set, fresh := ?fresh, marked := ?marked, ended := fun _ _ held => held }).pre
    fun w same => same ▸ held₀
  case read =>
    intro dir computed w held content w' act
    obtain ⟨b, shows, rfl, rfl⟩ := (act.1 content rfl).of_freeze
    obtain ⟨carries, zero⟩ := D.look held.inv shows
    have held' := held.carry carries (List.nil_subset _)
    refine ⟨⟨fun _ => carries.inv, trivial⟩, held', fun isZero _ => ?_⟩
    rw [trimSpace_bit] at isZero
    exact ⟨held', (held'.listed pod member).1, (zero (bit_injective (show bit b = bit false from isZero))).1⟩
  case set =>
    intro dir computed _
    refine (setMarker_holds computed).post fun result w known => ?_
    cases result with
    | none => exact known
    | some err => exact known
  case fresh =>
    intro dir computed _
    have stable : (arena cfg rely).Stable fun w => D.Held pods watched owned restored w ∧
        pod ∈ w.store.seen ∧ D.Ours pod.uid w ∧ D.InForce pod.uid w :=
      held_and fun w w' move inv known => ⟨seen_others move inv known.1,
        (D.others move inv).1.ours _ known.2.1, (D.others move inv).1.inForce _ (by simp) known.2.2⟩
    refine { ctx := inert_ctx, stat := inert_stat dir, silent := D.silent stable
             silent_done := D.silent D.held_stable, write := ?_, refused := ?_, ended := ?_ }
    · rintro w ⟨held, seen, ours, inForce⟩ w' act
      obtain ⟨present, rfl⟩ := World.Writes.of_freeze (b := true) (act.1 rfl)
      obtain ⟨writes, after⟩ := freezes dir w computed seen held ours inForce
      have carries := after present
      exact ⟨⟨fun _ => carries.inv, writes⟩, (held.carry carries (List.nil_subset _)).insert
        (carries.seen seen) (carries.ours _ ours) (carries.inForce _ (by simp) inForce)⟩
    · rintro w ⟨held, seen, ours, inForce⟩ answer w' act unwritten
      obtain ⟨rfl, kept⟩ := refused (freezes dir w computed seen held ours inForce).1 act unwritten
      exact ⟨kept, held, seen, ours, inForce⟩
    · rintro err w ⟨held, seen, ours, inForce⟩
      exact held.insert seen ours inForce
  case marked =>
    intro dir state computed marked knob
    obtain rfl := onRecord state marked knob
    have known : ∀ w, D.Held pods watched owned restored w →
        D.Ours pod.uid w ∧ D.InForce pod.uid w := by
      intro w held
      refine ⟨?_, held.ready pod member watches fresh marked⟩
      rcases held.owns.state marked with ⟨-, own, found⟩ | ⟨-, read⟩
      · exact (held.owns pod.uid own found).2.2.2
      · exact D.listed held.inv (held.listed pod member).2 (held.listed pod member).1 read
    refine { ctx := inert_ctx, stat := inert_stat dir, silent := D.silent D.held_stable
             silent_done := D.silent D.held_stable, write := ?_, refused := ?_
             ended := fun _ _ held => held }
    · intro w held w' act
      obtain ⟨present, rfl⟩ := World.Writes.of_freeze (b := true) (act.1 rfl)
      obtain ⟨ours, inForce⟩ := known w held
      obtain ⟨writes, after⟩ := freezes dir w computed (held.listed pod member).1 held ours inForce
      have carries := after present
      exact ⟨⟨fun _ => carries.inv, writes⟩, held.carry carries (List.nil_subset _)⟩
    · intro w held answer w' act unwritten
      obtain ⟨ours, inForce⟩ := known w held
      obtain ⟨rfl, kept⟩ := refused
        (freezes dir w computed (held.listed pod member).1 held ours inForce).1 act unwritten
      exact ⟨kept, held⟩

/-! ## The passes -/

/-- An annotation that is no record at all. -/
theorem clearInvalid_keeps {pod : Pod} {err : GoError} (invalid : stateForPod owned pod = .error err) :
    D.Triple (D.Held pods watched owned restored)
      (clearInvalidMarker pod (pod.annotationAt Annotations.guardStateKey))
      fun _ w => D.Held pods watched owned restored w := by
  refine sweep_holds fun raw matching => ?_
  have same : raw = pod.annotationAt Annotations.guardStateKey := by
    have both : pod.annotationAt Annotations.guardStateKey ≠ "" ∧
        raw = pod.annotationAt Annotations.guardStateKey := by
      simpa [markerMatches] using matching
    exact both.2
  rw [same]
  intro read
  obtain ⟨decoded, valid⟩ := readMarker_eq_some.mp read
  unfold stateForPod at invalid
  cases found : owned.lookup pod.uid with
  | some own => simp only [found, reduceCtorEq] at invalid
  | none =>
      simp only [found, decoded, valid] at invalid
      split at invalid <;> cases invalid

theorem look_keeps (dir : String) : (arena cfg rely).Keeps D.guarantee
    (D.Held pods watched owned restored) (.readFile dir "cgroup.freeze") := by
  intro w held answer w' act
  have nothing : (∀ content, answer ≠ ReadResult.data content) →
      D.guarantee w (.readFile dir "cgroup.freeze") answer w' ∧ D.Held pods watched owned restored w' :=
    unread dir w held answer w' act
  cases answer with
  | data content =>
      obtain ⟨b, shows, rfl, rfl⟩ := (act.1 content rfl).of_freeze
      have carries := (D.look held.inv shows).1
      exact ⟨⟨fun _ => carries.inv, trivial⟩, held.carry carries (List.nil_subset _)⟩
  | notExist => exact nothing nofun
  | failed err => exact nothing nofun

/-- The loop over the records of pods that are not listed. -/
theorem restoreLocal_keeps (seen : List String) (errs : List GoError) :
    D.Triple (D.Held pods (fun _ => False) owned []) (restoreLocal cfg seen owned errs)
      fun result w => D.Held pods (fun _ => False) result.2 [] w := by
  refine restoreLocal_holds (J := fun _ owned w => D.Held pods (fun _ => False) owned [] w)
    (fun _ _ => D.held_stable)
    (fun keys => D.inert (r := .rangeKeys keys) (fun _ _ _ act => act) nofun)
    (fun uid own errs owned found _ => ?_) owned errs
  refine .of_forall fun w held => ?_
  obtain ⟨seen, same, fresh, ours⟩ := held.owns uid own found
  rw [fresh]
  have triple : D.Triple (fun w => D.Held pods (fun _ => False) owned [own.pod.uid] w ∧
      own.pod ∈ w.store.seen ∧ D.Ours own.pod.uid w) (restorePod cfg owned own.pod freezeState)
      fun result w => D.Held pods (fun _ => False) result.2.2 [own.pod.uid] w :=
    restoreFreeze_holds (List.mem_singleton.mpr rfl)
  refine (triple.pre fun w' same' => ?_).post fun result w' after => after.unwatched []
  subst same'
  exact ⟨held.unwatched _, seen, same ▸ ours⟩

theorem recover_keeps {lister : Node (Except GoError (List Pod))} {P : World → Prop}
    (lists : D.Triple P lister fun result w => D.Held [] (fun _ => False) owned [] w ∧
      ∀ pods, result = .ok pods → ∀ p ∈ pods, p ∈ w.store.seen ∧ D.Known p) :
    D.Triple P (recover cfg lister owned) fun result w => D.Held [] (fun _ => False) result.2 [] w := by
  refine .bind lists fun result => ?_
  cases result with
  | error err => exact .pure fun w known => known.1
  | ok pods =>
      have start : ∀ w, D.Held [] (fun _ => False) owned [] w ∧
          (∀ pods', (.ok pods : Except GoError (List Pod)) = .ok pods' →
            ∀ p ∈ pods', p ∈ w.store.seen ∧ D.Known p) →
          D.Held pods (fun _ => False) owned [] w := fun w known =>
        ⟨known.1.inv, known.2 pods rfl, known.1.owns, fun _ _ watches => watches.elim⟩
      refine .bind (.pre (recoverPods_holds (J := fun _ _ owned w =>
        D.Held pods (fun _ => False) owned [] w) ?_ ?_ ?_ owned [] []) start) fun collected => ?_
      · exact fun pod _ _ _ owned err invalid => clearInvalid_keeps invalid
      · exact fun pod _ _ _ owned w _ held => held
      · intro pod member done errs owned state marked
        have once : pod.uid ∈ [pod.uid] := List.mem_singleton.mpr rfl
        exact ((restorePod_keeps once marked).pre fun w held =>
          ⟨held.unwatched _, held.listed pod member⟩).post fun result w after => after.unwatched []
      · refine .bind (restoreLocal_keeps _ _) fun result => .pure fun w held => ?_
        exact ⟨held.inv, by simp, held.owns, fun _ _ watches => watches.elim⟩

theorem converge_keeps {hot : Bool} {candidates : List Pod} :
    D.Triple (D.Held pods (fun uid => hot = true ∧ uid ∈ candidates.map Pod.uid) owned [])
      (converge cfg owned hot pods candidates)
      fun result w => D.Held [] (fun _ => False) result.2 [] w := by
  refine .bind (convergePods_holds (J := fun owned eligible restored w =>
      D.Held pods (fun uid => hot = true ∧ uid ∈ candidates.map Pod.uid) owned restored w ∧
        ∀ p ∈ eligible, p ∈ pods ∧ hot = true ∧ p.uid ∈ candidates.map Pod.uid)
    { stat := inert_stat, stable := ?stable, read := ?read, invalid := ?invalid
      eligible := ?eligible, restore := ?restore } ⟨owned, [], [], []⟩ |>.pre ?start) fun pass => ?_
  case stable => exact fun _ _ _ => held_and fun _ _ _ _ known => known
  case start => exact fun w held => ⟨held, by simp⟩
  case read =>
    rintro owned eligible restored pod member dir computed w ⟨held, known⟩ answer w' act
    obtain ⟨kept, held'⟩ := look_keeps dir w held answer w' act
    exact ⟨kept, held', known⟩
  case invalid =>
    exact fun pod member owned eligible restored err invalid => .frame (clearInvalid_keeps invalid)
  case eligible =>
    rintro pod member owned eligible restored marked w isHot candidate - ⟨held, known⟩
    refine ⟨held, fun p among => ?_⟩
    rcases List.mem_append.mp among with old | new
    · exact known p old
    · rw [List.mem_singleton.mp new]
      exact ⟨member, isHot, candidate⟩
  case restore =>
    intro pod member owned eligible restored state marked
    exact .frame ((restorePod_keeps (.head _) marked).pre fun w held =>
      ⟨held.restore, held.listed pod member⟩)
  have froze : D.Triple (fun w => D.Held pods (fun uid => hot = true ∧ uid ∈ candidates.map Pod.uid)
        pass.owned pass.restoredThisPass w ∧
        ∀ p ∈ pass.eligible, p ∈ pods ∧ hot = true ∧ p.uid ∈ candidates.map Pod.uid)
      (if hot then suppressPods cfg pass.restoredThisPass pass.eligible pass.owned pass.errs
        else return (pass.errs, pass.owned))
      fun result w => D.Held pods (fun _ => False) result.2 [] w := by
    refine .ite (fun _ => ?_) fun _ => .pure fun w known => known.1.unwatched []
    refine .of_forall fun w known => ?_
    have loop := suppressPods_holds (A := arena cfg rely) (G := D.guarantee)
      (J := fun owned w => D.Held pods (fun uid => hot = true ∧ uid ∈ candidates.map Pod.uid) owned
        pass.restoredThisPass w)
      (fun pod among fresh owned =>
        suppressPod_keeps (known.2 pod among).1 (known.2 pod among).2 fresh) pass.owned pass.errs
    exact (loop.pre fun w' (same : w' = w) => same ▸ known.1).post fun _ _ held => held.unwatched []
  refine .bind froze fun suppressed => .bind (restoreLocal_keeps _ _) fun result => .pure fun w held => ?_
  exact ⟨held.inv, by simp, held.owns, fun _ _ watches => watches.elim⟩

end Discipline

/-! ## Runs -/

/-- `g.lister.List(labels.Everything())`. -/
def cacheLister : Node (Except GoError (List Pod)) := ask .listCache

/-- The guard's process: any passes over versions the API server has held, and a restart
at any point, which loses the map and begins with `Recover`. `admits` is what a result
asks of the passes it speaks about. -/
def service (cfg : Config) (rely : World → World → Prop)
    (admits : World → Owned → Bool → List Pod → List Pod → Prop) :
    Service nodeSignature World Owned where
  arena := arena cfg rely
  start w owned p :=
    (∃ hot pods candidates, (∀ p ∈ pods, p ∈ w.store.seen) ∧
      admits w owned hot pods candidates ∧
      p = (do
        let (_, owned) ← converge cfg owned hot pods candidates
        return owned)) ∨
    p = (do
      let (_, owned) ← recover cfg cacheLister owned
      return owned)
  boot _ p := p = (do
    let (_, owned) ← recover cfg cacheLister ∅
    return owned)

namespace Discipline

variable {cfg : Config} {rely : World → World → Prop} {D : Discipline cfg rely} {owned : Owned}
  {admits : World → Owned → Bool → List Pod → List Pod → Prop}

/-- What the process knows between passes. -/
def Rests (D : Discipline cfg rely) (owned : Owned) (w : World) : Prop :=
  D.Held [] (fun _ => False) owned [] w

theorem rests_empty {w : World} (inv : D.Inv w) : D.Rests ∅ w :=
  ⟨inv, by simp, fun _ _ found => by simp at found, fun _ _ watches => watches.elim⟩

theorem converge_rests {hot : Bool} {pods candidates : List Pod} :
    D.Triple (D.Held pods (fun uid => hot = true ∧ uid ∈ candidates.map Pod.uid) owned [])
      (do
        let (_, owned) ← converge cfg owned hot pods candidates
        return owned) D.Rests :=
  .bind D.converge_keeps fun _ => .pure fun _ held => held

theorem cacheLister_lists (known : ∀ p, D.Known p) (P : World → Prop)
    (stable : (arena cfg rely).Stable P) : D.Triple P cacheLister fun result w => P w ∧
      ∀ pods, result = .ok pods → ∀ p ∈ pods, p ∈ w.store.seen ∧ D.Known p := by
  refine Holds.request stable fun w holds answer w' act => ?_
  obtain ⟨rfl, listed⟩ := act
  exact ⟨⟨id, trivial⟩, holds, fun pods found p member => ⟨listed pods found p member, known p⟩⟩

theorem recover_rests (known : ∀ p, D.Known p) :
    D.Triple (D.Rests owned)
      (do
        let (_, owned) ← recover cfg cacheLister owned
        return owned) D.Rests :=
  .bind (D.recover_keeps (cacheLister_lists known _ D.held_stable)) fun _ => .pure fun _ held => held

/-- A discipline holds along every run. `ready` says which passes it covers. -/
theorem preserves (known : ∀ p, D.Known p) (ready : ∀ w owned hot pods candidates, D.Rests owned w →
      (∀ p ∈ pods, p ∈ w.store.seen) → admits w owned hot pods candidates → hot = true →
      ∀ p ∈ pods, p.uid ∈ candidates.map Pod.uid →
        stateForPod owned p = .ok (some freezeState) → D.InForce p.uid w) :
    Service.Preserves (service cfg rely admits) D.guarantee D.Inv D.Rests where
  world w w' move inv := (D.others move inv).1.inv
  memory owned := D.held_stable
  keeps _ _ _ _ inv _ kept := kept.1 inv
  starts := by
    rintro w owned p inv rests (⟨hot, pods, candidates, listed, admitted, rfl⟩ | rfl)
    · refine converge_rests w ⟨inv, fun p member => ⟨listed p member, known p⟩, rests.owns,
        fun p member watches _ marked => ?_⟩
      exact ready w owned hot pods candidates rests listed admitted watches.1 p member watches.2 marked
    · exact recover_rests known w rests
  boots := by
    rintro w p inv rfl
    exact recover_rests known w (rests_empty inv)

end Discipline

end

end CpuIdle.Guard
