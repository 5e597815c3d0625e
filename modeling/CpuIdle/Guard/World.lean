/-
# Guard.World — the API server and the freezers the guard works on

A `World` is the store of Pods, the `cgroup.freeze` knob of every directory and what
the guard has seen of `cpu.max`. The ghost fields of a `Freezer` tell who set it last,
how often it has been set, and how often when the guard last read `0` from it and when
it last recorded a marker for the pod.

`act` is what each request of the guard may do. A patch that fails may have taken effect
all the same; a knob write that fails has not. Who else moves is left to each result.
-/
import CpuIdle.Guard.Rules
import CpuIdle.Kernel.Cgroup
import CpuIdle.Kube.Store

namespace CpuIdle.Guard

open CpuIdle.Go CpuIdle.Kube CpuIdle.Node CpuIdle.Theory CpuIdle.Cgroup CpuIdle.Kernel.Cgroup

set_option autoImplicit false

/-- `cgroup.freeze` of one directory; no `value` when the directory is absent. -/
structure Freezer where
  value : Option Bool
  byGuard : Bool
  changes : Nat
  looked : Option Nat
  recorded : Option Nat
  deriving DecidableEq

/-- `cpu.max` of one directory, what the guard last read there, and whether anybody
else has changed it since. -/
structure QuotaView where
  live : Option String
  read : Option String
  moved : Bool

/-- A UID belongs to one object, whose name and QoS class never change. -/
structure World where
  store : Store
  freezer : String → Freezer
  quota : String → QuotaView
  uids : ∀ p ∈ store.seen, WellFormedUID p.uid
  identity : ∀ p ∈ store.seen, ∀ q ∈ store.seen, p.uid = q.uid →
    p.ns = q.ns ∧ p.name = q.name ∧ Qos.classOf p.spec = Qos.classOf q.spec

namespace World

/-! ## The transitions -/

def setFreezer (w : World) (dir : String) (f : Freezer) : World :=
  { w with freezer := Function.update w.freezer dir f }

def setQuota (w : World) (dir : String) (q : QuotaView) : World :=
  { w with quota := Function.update w.quota dir q }

/-- The guard read `b`. -/
def look (w : World) (dir : String) (b : Bool) : World :=
  let f := w.freezer dir
  w.setFreezer dir { f with looked := if b then f.looked else some f.changes }

/-- The guard set the knob to `b`. -/
def freeze (w : World) (dir : String) (b : Bool) : World :=
  let f := w.freezer dir
  w.setFreezer dir { f with value := some b, byGuard := true, changes := f.changes + 1 }

/-- Data read from a control file. -/
inductive Reads (w : World) (dir : String) : String → String → World → Prop where
  | freeze {b : Bool} (shows : (w.freezer dir).value = some b) :
      Reads w dir "cgroup.freeze" (bit b ++ "\n") (w.look dir b)
  | quota {content : String} (shows : (w.quota dir).live = some content) :
      Reads w dir "cpu.max" content
        (w.setQuota dir { live := some content, read := some content, moved := false })
  | other {name content : String} (freeze : name ≠ "cgroup.freeze") (quota : name ≠ "cpu.max") :
      Reads w dir name content w

/-- A write that was taken. -/
inductive Writes (w : World) (dir : String) : String → String → World → Prop where
  | freeze {b : Bool} (present : (w.freezer dir).value.isSome = true) :
      Writes w dir "cgroup.freeze" (bit b) (w.freeze dir b)
  | quota {value content : String} :
      Writes w dir "cpu.max" value (w.setQuota dir { w.quota dir with live := some content })
  | other {name value : String} (freeze : name ≠ "cgroup.freeze") (quota : name ≠ "cpu.max") :
      Writes w dir name value w

variable [PrintTable]

/-- The freezers once a marker patch on `p` took effect. -/
def noteRecord (freezer : String → Freezer) (cfg : Config) (p : Pod) (patch : MarkerPatch) :
    String → Freezer :=
  match patch.guardState, podDir cfg p with
  | some _, .ok dir =>
      Function.update freezer dir { freezer dir with recorded := (freezer dir).looked }
  | _, _ => freezer

/-- A patch that took effect on `p` and left `p'`. -/
structure Patches (w : World) (cfg : Config) (ns name : String) (patch : MarkerPatch) (p p' : Pod)
    (w' : World) : Prop where
  store : w.store.Patched ns name patch p p' w'.store
  freezer : w'.freezer = noteRecord w.freezer cfg p patch
  quota : w'.quota = w.quota

def act (cfg : Config) (w : World) : (r : Request) → Answer r → World → Prop
  | .readFile dir name, answer, w' =>
      (∀ content, answer = ReadResult.data content → w.Reads dir name content w') ∧
        ((∀ content, answer ≠ ReadResult.data content) → w' = w)
  | .stat dir, answer, w' =>
      w' = w ∧ (answer = StatResult.notExist → (w.freezer dir).value = none)
  | .writeFile dir name value, answer, w' =>
      (answer = WriteResult.written → w.Writes dir name value w') ∧
        (answer ≠ WriteResult.written → w' = w)
  | .getPod ns name, answer, w' =>
      w' = w ∧ ∀ p, answer = GetResult.found p → w.store.pods ns name = some p
  | .patchPod ns name patch, answer, w' =>
      (answer = PatchResult.patched → ∃ p p', w.Patches cfg ns name patch p p' w') ∧
        (answer = PatchResult.notFound → w' = w) ∧
        ∀ err, answer = PatchResult.failed err →
          w' = w ∨ ∃ p p', w.Patches cfg ns name patch p p' w'
  | .listCache, answer, w' =>
      w' = w ∧ ∀ pods, answer = (.ok pods : Except GoError (List Pod)) → ∀ p ∈ pods, p ∈ w.store.seen
  | _, _, w' => w' = w

end World

/-- The guard's world, with the moves of the others as a parameter. -/
def arena [PrintTable] (cfg : Config) (rely : World → World → Prop) : Arena nodeSignature World :=
  { act := World.act cfg, rely }

/-! ## What one request may change -/

namespace World

variable {w w' : World}

theorem Reads.of_freeze {dir content : String} (reads : w.Reads dir "cgroup.freeze" content w') :
    ∃ b, (w.freezer dir).value = some b ∧ content = bit b ++ "\n" ∧ w' = w.look dir b := by
  generalize knob : "cgroup.freeze" = name at reads
  cases reads with
  | freeze shows => exact ⟨_, shows, rfl, rfl⟩
  | quota => exact absurd knob (by decide)
  | other freeze => exact absurd knob.symm freeze

theorem Reads.of_quota {dir content : String} (reads : w.Reads dir "cpu.max" content w') :
    (w.quota dir).live = some content ∧
      w' = w.setQuota dir { live := some content, read := some content, moved := false } := by
  generalize knob : "cpu.max" = name at reads
  cases reads with
  | freeze => exact absurd knob (by decide)
  | quota shows => exact ⟨shows, rfl⟩
  | other _ quota => exact absurd knob.symm quota

theorem Reads.of_other {dir name content : String} (reads : w.Reads dir name content w')
    (freeze : name ≠ "cgroup.freeze") (quota : name ≠ "cpu.max") : w' = w := by
  cases reads with
  | freeze => exact absurd rfl freeze
  | quota => exact absurd rfl quota
  | other => rfl

theorem Writes.of_freeze {dir : String} {b : Bool} (writes : w.Writes dir "cgroup.freeze" (bit b) w') :
    (w.freezer dir).value.isSome = true ∧ w' = w.freeze dir b := by
  generalize knob : "cgroup.freeze" = name at writes
  generalize written : bit b = value at writes
  cases writes with
  | freeze present =>
      rw [bit_injective written]
      exact ⟨present, rfl⟩
  | quota => exact absurd knob (by decide)
  | other freeze => exact absurd knob.symm freeze

theorem Writes.of_quota {dir value : String} (writes : w.Writes dir "cpu.max" value w') :
    ∃ q, w' = w.setQuota dir q := by
  generalize knob : "cpu.max" = name at writes
  cases writes with
  | freeze => exact absurd knob (by decide)
  | quota => exact ⟨_, rfl⟩
  | other _ quota => exact absurd knob.symm quota

/-! What reading and writing the knob leave of a freezer. -/

theorem look_self {dir : String} {b : Bool} : (w.look dir b).freezer dir =
    { w.freezer dir with
      looked := if b then (w.freezer dir).looked else some (w.freezer dir).changes } :=
  Function.update_self ..

theorem look_other {dir d : String} {b : Bool} (other : d ≠ dir) :
    (w.look dir b).freezer d = w.freezer d := Function.update_of_ne other ..

/-- Reading changes the note of the look at most. -/
theorem look_eq (dir d : String) (b : Bool) :
    ∃ looked, (w.look dir b).freezer d = { w.freezer d with looked } := by
  by_cases same : d = dir
  · subst same
    exact ⟨_, look_self⟩
  · exact ⟨_, look_other same⟩

@[simp] theorem look_value {dir d : String} {b : Bool} :
    ((w.look dir b).freezer d).value = (w.freezer d).value := by
  obtain ⟨looked, same⟩ := w.look_eq dir d b
  rw [same]

@[simp] theorem look_byGuard {dir d : String} {b : Bool} :
    ((w.look dir b).freezer d).byGuard = (w.freezer d).byGuard := by
  obtain ⟨looked, same⟩ := w.look_eq dir d b
  rw [same]

@[simp] theorem look_changes {dir d : String} {b : Bool} :
    ((w.look dir b).freezer d).changes = (w.freezer d).changes := by
  obtain ⟨looked, same⟩ := w.look_eq dir d b
  rw [same]

@[simp] theorem look_recorded {dir d : String} {b : Bool} :
    ((w.look dir b).freezer d).recorded = (w.freezer d).recorded := by
  obtain ⟨looked, same⟩ := w.look_eq dir d b
  rw [same]

@[simp] theorem look_store {dir : String} {b : Bool} : (w.look dir b).store = w.store := rfl

@[simp] theorem freeze_store {dir : String} {b : Bool} : (w.freeze dir b).store = w.store := rfl

theorem freeze_self {dir : String} {b : Bool} : (w.freeze dir b).freezer dir =
    { w.freezer dir with value := some b, byGuard := true, changes := (w.freezer dir).changes + 1 } :=
  Function.update_self ..

theorem freeze_other {dir d : String} {b : Bool} (other : d ≠ dir) :
    (w.freeze dir b).freezer d = w.freezer d := Function.update_of_ne other ..

@[simp] theorem setQuota_store {dir : String} {q : QuotaView} : (w.setQuota dir q).store = w.store := rfl

@[simp] theorem setQuota_freezer {dir : String} {q : QuotaView} :
    (w.setQuota dir q).freezer = w.freezer := rfl

variable [PrintTable] {cfg : Config}

omit [PrintTable] in
theorem ok_of_podDir [PrintTable] {p : Pod} {dir : String} : podDir cfg p = .ok dir ↔
    cfg.layout.podDir (Qos.toCgroupClass (Qos.classOf p.spec)) p.uid = .ok dir := by
  unfold podDir
  cases cfg.layout.podDir (Qos.toCgroupClass (Qos.classOf p.spec)) p.uid <;> simp

/-- Two pods of one directory are the same pod. -/
theorem uid_of_podDir (w : World) {p q : Pod} {dir : String} (hp : p ∈ w.store.seen)
    (hq : q ∈ w.store.seen) (dirP : podDir cfg p = .ok dir) (dirQ : podDir cfg q = .ok dir) :
    p.uid = q.uid :=
  (Layout.podDir_injective (w.uids p hp) (w.uids q hq) (ok_of_podDir.mp dirP)
    (ok_of_podDir.mp dirQ)).2

/-- Versions of one pod share their directory. -/
theorem podDir_of_uid (w : World) {p q : Pod} {dir : String} (hp : p ∈ w.store.seen)
    (hq : q ∈ w.store.seen) (same : p.uid = q.uid) (dirP : podDir cfg p = .ok dir) :
    podDir cfg q = .ok dir := by
  rw [ok_of_podDir] at dirP ⊢
  rwa [← same, ← (w.identity p hp q hq same).2.2]

omit [PrintTable] in
/-- A live version of a UID is the only one. -/
theorem live_unique (w : World) {ns ns' name name' : String} {p q : Pod}
    (hp : w.store.pods ns name = some p) (hq : w.store.pods ns' name' = some q)
    (same : p.uid = q.uid) : p = q := by
  obtain ⟨seenP, rfl, rfl⟩ := w.store.stored _ _ _ hp
  obtain ⟨seenQ, rfl, rfl⟩ := w.store.stored _ _ _ hq
  obtain ⟨ns, name, -⟩ := w.identity p seenP q seenQ same
  rw [← ns, ← name, hp] at hq
  exact Option.some.inj hq

/-- A marker patch leaves all of a freezer but the note of the marker. -/
theorem Patches.freezer_eq {ns name : String} {patch : MarkerPatch} {p p' : Pod}
    (patches : w.Patches cfg ns name patch p p' w') (dir : String) :
    ∃ recorded, w'.freezer dir = { w.freezer dir with recorded } ∧
      (recorded = (w.freezer dir).recorded ∨
        podDir cfg p = .ok dir ∧ patch.guardState.isSome = true ∧ recorded = (w.freezer dir).looked) := by
  rw [patches.freezer]
  unfold noteRecord
  cases patch.guardState with
  | none => exact ⟨_, rfl, .inl rfl⟩
  | some value =>
      cases podDir cfg p with
      | error err => exact ⟨_, rfl, .inl rfl⟩
      | ok d =>
          by_cases same : dir = d
          · subst same
            exact ⟨_, Function.update_self .., .inr ⟨rfl, rfl, rfl⟩⟩
          · exact ⟨_, Function.update_of_ne same .., .inl rfl⟩

/-- A patch whose preconditions hold can take effect. -/
theorem exists_patches (finite : w.store.seen.Finite) {ns name : String} {patch : MarkerPatch}
    {p : Pod} (live : w.store.pods ns name = some p) (allows : MarkerPatch.Allows patch p) :
    ∃ p' w', w.Patches cfg ns name patch p p' w' := by
  obtain ⟨p', s', patched⟩ := w.store.exists_patched finite live allows
  have seen := (w.store.stored _ _ _ live).1
  obtain ⟨version, rfl⟩ := patched.result
  have like : ∀ q ∈ s'.seen, ∃ r ∈ w.store.seen, q.uid = r.uid ∧ q.ns = r.ns ∧ q.name = r.name ∧
      q.spec = r.spec := by
    intro q member
    rw [patched.put.seen] at member
    rcases member with rfl | member
    · exact ⟨p, seen, rfl, rfl, rfl, rfl⟩
    · exact ⟨q, member, rfl, rfl, rfl, rfl⟩
  refine ⟨_, ⟨s', noteRecord w.freezer cfg p patch, w.quota, fun q member => ?_,
    fun q hq r hr same => ?_⟩, patched, rfl, rfl⟩
  · obtain ⟨r, known, uid, -⟩ := like q member
    exact uid ▸ w.uids r known
  · obtain ⟨q₀, hq₀, uidQ, nsQ, nameQ, specQ⟩ := like q hq
    obtain ⟨r₀, hr₀, uidR, nsR, nameR, specR⟩ := like r hr
    rw [nsQ, nameQ, specQ, nsR, nameR, specR]
    exact w.identity q₀ hq₀ r₀ hr₀ (uidQ.symm.trans (same.trans uidR))

end World

end CpuIdle.Guard
