/-
# Agent.Uninstall — a clean exit means a clean node

The world of a `--revert-all` run: the API server's Pods, the cgroups under the kernel's rules,
and what the List returned. Reads, writes and patches fail as they like. Nobody else writes a
knob or a marker; a directory may go, and a Pod may go, be replaced or be edited.

* `Touches` — what an operation on one pod does to the world, and that it spares the others;
* `restorePod_releases`, `revertPod_reverts` — one marker, one pod;
* `revert_all` — what a run that returned nil leaves behind.
-/
import CpuIdle.Agent.RevertAll
import CpuIdle.Apply.Journal
import CpuIdle.Guard.QuotaLift
import CpuIdle.Kernel.Execution
import CpuIdle.Kernel.Files
import CpuIdle.Node.Sample

namespace CpuIdle.Agent

open CpuIdle.Go CpuIdle.Kube CpuIdle.Node CpuIdle.Theory CpuIdle.Apply CpuIdle.Cgroup CpuIdle.Guard
  CpuIdle.Observe

set_option autoImplicit false

namespace Uninstall

structure World where
  pods : String → String → Option Pod
  cgroups : String → Option Kernel.Cgroup
  /-- What the List returned. -/
  listing : Option (List Pod)

/-- What the API server promises of a List. -/
structure Listed (pods : List Pod) : Prop where
  uids : ∀ p ∈ pods, WellFormedUID p.uid
  distinct : (pods.map Pod.uid).Nodup
  keys : (pods.map metaNamespaceKey).Nodup

/-! ## The transitions -/

/-- A write that was taken. -/
inductive Writes (w : World) (dir name value : String) : World → Prop where
  | taken {c c' : Kernel.Cgroup} (shows : w.cgroups dir = some c) (takes : c.Takes name value c') :
      Writes w dir name value { w with cgroups := Function.update w.cgroups dir (some c') }

/-- A patch that took effect. -/
inductive Patches (w : World) (ns name : String) (patch : MarkerPatch) : World → Prop where
  | patched {p : Pod} (version : String) (found : w.pods ns name = some p)
      (allows : MarkerPatch.Allows patch p) :
      Patches w ns name patch
        { w with
          pods := Function.update w.pods ns
            (Function.update (w.pods ns) name (some (p.patched patch version))) }

/-- A patch that fails may have taken effect all the same. -/
def act (driver : Driver) (w : World) : (r : Request) → Answer r → World → Prop
  | .readFile dir name, answer, w' => w' = w ∧
      ∀ content, answer = ReadResult.data content →
        ∃ c, w.cgroups dir = some c ∧ c.content name = some content
  | .stat dir, answer, w' => w' = w ∧ (answer = StatResult.notExist → w.cgroups dir = none)
  | .writeFile dir name value, answer, w' =>
      (answer = WriteResult.written → Writes w dir name value w') ∧
        (answer ≠ WriteResult.written → w' = w)
  | .getPod ns name, answer, w' => w' = w ∧
      (∀ p, answer = GetResult.found p → w.pods ns name = some p) ∧
        (answer = GetResult.notFound → w.pods ns name = none)
  | .patchPod ns name patch, answer, w' =>
      (answer = PatchResult.patched → Patches w ns name patch w') ∧
        (answer = PatchResult.notFound → w' = w ∧ w.pods ns name = none) ∧
        ∀ err, answer = PatchResult.failed err → w' = w ∨ Patches w ns name patch w'
  | .listNodePods _, answer, w' =>
      (∀ pods, answer = (.ok pods : Except ApiError (List Pod)) →
        Listed pods ∧ w' = { w with listing := some pods }) ∧
        ∀ err, answer = (.error err : Except ApiError (List Pod)) → w' = w
  | .gateCheck _ _, answer, w' => w' = w ∧ ∀ d, answer = GateResult.ready d → d = driver
  | _, _, w' => w' = w

/-- The others write no knob and no marker: a directory goes, and an object goes, is edited, or is
another one of its name. -/
structure Others (w w' : World) : Prop where
  listing : w'.listing = w.listing
  cgroups : ∀ dir c, w'.cgroups dir = some c → w.cgroups dir = some c
  pods : ∀ listed, w.listing = some listed → ∀ ns name q, w'.pods ns name = some q →
    (∀ p ∈ listed, q.uid ≠ p.uid) ∨ ∃ p, w.pods ns name = some p ∧ p.uid = q.uid ∧
      p.annotationAt Annotations.guardStateKey = q.annotationAt Annotations.guardStateKey

def arena (driver : Driver) : Arena nodeSignature World := { act := act driver, rely := Others }

section

variable [PrintTable]

/-! ## What becomes of a pod -/

/-- The directory the layout computes for a pod, if it computes one. -/
def target (l : Layout) (pod : Pod) : Except GoError String :=
  l.podDir (Qos.toCgroupClass (Qos.classOf pod.spec)) pod.uid

/-- Its marker is gone, or the Pod is. -/
def Unmarked (p : Pod) (w : World) : Prop :=
  ∀ q, w.pods p.ns p.name = some q → q.uid = p.uid → q.annotationAt Annotations.guardStateKey = ""

/-- The knob does not have the suppressed value, or the cgroup is gone. -/
def Thawed (l : Layout) (p : Pod) (state : PersistedState) (w : World) : Prop :=
  ∀ dir, target l p = .ok dir → ∀ c, w.cgroups dir = some c → c.value state.knob ≠ some state.suppressed

/-- Its tiers are off, and its weight is the pod's own where it was idle, or the cgroup is gone. -/
def Reverted [Qos.ResourceHelper] (l : Layout) (w₀ : World) (p : Pod) (w : World) : Prop :=
  ∃ dir, target l p = .ok dir ∧ ∀ c, w.cgroups dir = some c → c.idle = false ∧ c.burst = 0 ∧
    ∀ c₀, w₀.cgroups dir = some c₀ → c₀.idle = true → c.weight = Qos.restoreWeight p.spec

/-- These knobs of every directory that is left are what they were. -/
def Keeps (knobs : List String) (w w' : World) : Prop :=
  ∀ dir c', w'.cgroups dir = some c' → ∃ c, w.cgroups dir = some c ∧
    ∀ knob ∈ knobs, c'.value knob = c.value knob

/-- The pod is what it was, as far as it is left. -/
structure Spares (l : Layout) (p : Pod) (w w' : World) : Prop where
  cgroup : ∀ dir, target l p = .ok dir → ∀ c, w'.cgroups dir = some c → w.cgroups dir = some c
  entry : ∀ q, w'.pods p.ns p.name = some q → q.uid = p.uid → ∃ q₀, w.pods p.ns p.name = some q₀ ∧
    q₀.uid = p.uid ∧
      q₀.annotationAt Annotations.guardStateKey = q.annotationAt Annotations.guardStateKey

/-- An operation on `p`, one of `pods`, that leaves these knobs. -/
structure Touches (l : Layout) (pods : List Pod) (p : Pod) (knobs : List String) (w w' : World) :
    Prop where
  listing : w'.listing = w.listing
  others : ∀ q ∈ pods, q.uid ≠ p.uid → Spares l q w w'
  knobs : Keeps knobs w w'

abbrev touching (l : Layout) (pods : List Pod) (p : Pod) (knobs : List String) :
    Guarantee nodeSignature World := fun w _ _ w' => Touches l pods p knobs w w'

/-- A revert leaves the guard's knobs and every object. -/
abbrev reverting (l : Layout) (pods : List Pod) (p : Pod) : Guarantee nodeSignature World :=
  fun w _ _ w' => Touches l pods p ["cgroup.freeze", "cpu.max"] w w' ∧ w'.pods = w.pods

abbrev anything : Guarantee nodeSignature World := fun _ _ _ _ => True

variable {l : Layout} {pods : List Pod} {p : Pod} {knobs : List String} {w w' w'' : World}

omit [PrintTable] in
theorem Keeps.trans (first : Keeps knobs w w') (second : Keeps knobs w' w'') : Keeps knobs w w'' := by
  intro dir c'' present
  obtain ⟨c', present', same'⟩ := second dir c'' present
  obtain ⟨c, present, same⟩ := first dir c' present'
  exact ⟨c, present, fun knob member => (same' knob member).trans (same knob member)⟩

omit [PrintTable] in
theorem Keeps.of_subset {fewer : List String} (keeps : Keeps knobs w w') (subset : fewer ⊆ knobs) :
    Keeps fewer w w' := by
  intro dir c' present
  obtain ⟨c, present, same⟩ := keeps dir c' present
  exact ⟨c, present, fun knob member => same knob (subset member)⟩

omit [PrintTable] in
theorem Others.keeps (move : Others w w') : Keeps knobs w w' :=
  fun dir c' present => ⟨c', move.cgroups dir c' present, fun _ _ => rfl⟩

theorem Others.spares (move : Others w w') (listing : w.listing = some pods) (member : p ∈ pods) :
    Spares l p w w' where
  cgroup dir _ := move.cgroups dir
  entry q found same := by
    rcases move.pods pods listing p.ns p.name q found with fresh | ⟨q₀, before, uid, marker⟩
    · exact absurd same (fresh p member)
    · exact ⟨q₀, before, uid.trans same, marker⟩

theorem Touches.refl : Touches l pods p knobs w w where
  listing := rfl
  others _ _ _ := ⟨fun _ _ _ present => present, fun q found same => ⟨q, found, same, rfl⟩⟩
  knobs _ c present := ⟨c, present, fun _ _ => rfl⟩

/-- A write to the pod's directory spares the others, and the knobs it does not move. -/
theorem Writes.touches {dir name value : String} (listed : Listed pods) (member : p ∈ pods)
    (computed : target l p = .ok dir) (elsewhere : ∀ knob ∈ knobs, knob ≠ name ∧ knob ≠ "cpu.weight")
    (writes : Writes w dir name value w') : Touches l pods p knobs w w' := by
  obtain ⟨shows, takes⟩ := writes
  refine ⟨rfl, fun q other differs => ⟨fun d computed' c present => ?_,
    fun q' found same => ⟨q', found, same, rfl⟩⟩, fun d c present => ?_⟩
  · have foreign : d ≠ dir := by
      rintro rfl
      exact differs (Layout.podDir_injective (listed.uids q other) (listed.uids p member) computed' computed).2
    simpa [Function.update_of_ne foreign] using present
  · by_cases same : d = dir
    · subst same
      simp only [Function.update_self, Option.some.injEq] at present
      subst present
      exact ⟨_, shows, fun knob kept => takes.leaves (elsewhere knob kept).1 (elsewhere knob kept).2⟩
    · simp only [Function.update_of_ne same] at present
      exact ⟨c, present, fun _ _ => rfl⟩

/-- So does a patch of the pod's object. -/
theorem Patches.touches {patch : MarkerPatch} (listed : Listed pods) (member : p ∈ pods)
    (patches : Patches w p.ns p.name patch w') : Touches l pods p knobs w w' := by
  obtain ⟨version, found, allows⟩ := patches
  refine ⟨rfl, fun q other differs => ⟨fun _ _ _ present => present, fun q' found' same => ?_⟩,
    fun _ c present => ⟨c, present, fun _ _ => rfl⟩⟩
  refine ⟨q', ?_, same, rfl⟩
  have apart : ¬(q.ns = p.ns ∧ q.name = p.name) := by
    rintro ⟨ns, name⟩
    have key : metaNamespaceKey q = metaNamespaceKey p := by simp [metaNamespaceKey, ns, name]
    exact differs (congrArg Pod.uid (List.inj_on_of_nodup_map listed.keys other member key))
  by_cases ns : q.ns = p.ns
  · have named : q.name ≠ p.name := fun name => apart ⟨ns, name⟩
    simpa [ns, Function.update_of_ne named] using found'
  · simpa [Function.update_of_ne ns] using found'

/-! ## Requests -/

variable {driver : Driver}

omit [PrintTable] in
theorem stable_listing : (arena driver).Stable fun w => w.listing = some pods :=
  fun _ _ move listing => move.listing.trans listing

/-- What only depends on what is left of a listed pod is stable. -/
theorem stable_spared {P : World → Prop} (member : p ∈ pods)
    (steady : ∀ w w', Spares l p w w' → P w → P w') :
    (arena driver).Stable fun w => w.listing = some pods ∧ P w :=
  fun w w' move known => ⟨move.listing.trans known.1, steady w w' (move.spares known.1 member) known.2⟩

section

variable {G : Guarantee nodeSignature World}

omit [PrintTable] in
theorem inert (still : ∀ w r answer, G w r answer w) {r : Request}
    (unmoved : ∀ w answer w', act driver w r answer w' → w' = w) :
    (arena driver).Inert G r := by
  intro w answer w' answered
  obtain rfl := unmoved w answer w' answered
  exact ⟨rfl, still _ r answer⟩

omit [PrintTable] in
theorem silent (still : ∀ w r answer, G w r answer w) {P : World → Prop}
    (stable : (arena driver).Stable P) : Silent (arena driver) G P where
  stable := stable
  inc counter := (inert still (r := .inc counter) fun _ _ _ answered => answered).keeps P
  event e := (inert still (r := .event e) fun _ _ _ answered => answered).keeps P

omit [PrintTable] in
theorem files (still : ∀ w r answer, G w r answer w) :
    Kernel.Files (arena driver) G World.cgroups where
  read_inert dir name := inert still (r := .readFile dir name) fun _ _ _ answered => answered.1
  stat_inert dir := inert still (r := .stat dir) fun _ _ _ answered => answered.1
  read_data w dir name content w' answered := by
    obtain ⟨rfl, shown⟩ := answered
    exact shown content rfl
  stat_gone _ _ _ answered := answered.2 rfl

end

/-! ## One marker -/

omit [PrintTable] in
/-- After a patch that removes the annotation nobody has it. -/
theorem Patches.unmarked {current : Pod} {value : String}
    (patches : Patches w p.ns p.name (markerPatch current value true) w') : Unmarked p w' := by
  obtain ⟨version, found, allows⟩ := patches
  intro q latest _
  simp only [Function.update_self, Option.some.injEq] at latest
  subst latest
  simp [Pod.annotationAt, Pod.patched, markerPatch]

/-- What was read of the object still tells its UID and its marker. -/
def StillRead (p current : Pod) (w : World) : Prop :=
  ∀ q, w.pods p.ns p.name = some q → q.uid = p.uid → current.uid = p.uid ∧
    q.annotationAt Annotations.guardStateKey = current.annotationAt Annotations.guardStateKey

theorem StillRead.spared {current : Pod} (spares : Spares l p w w') (read : StillRead p current w) :
    StillRead p current w' := by
  intro q found same
  obtain ⟨q₀, before, uid, marker⟩ := spares.entry q found same
  obtain ⟨known, shown⟩ := read q₀ before uid
  exact ⟨known, marker.symm.trans shown⟩

/-- Clearing a marker of any kind: no error means that none is left. -/
theorem patchMarker_unmarks (listed : Listed pods) (member : p ∈ pods) (value : String)
    (expected : Option PersistedState) (expectedRaw : String) :
    Holds (arena driver) (touching l pods p knobs) (fun w => w.listing = some pods)
      (patchMarker p value true expected expectedRaw)
      fun result w => w.listing = some pods ∧ (result = none → Unmarked p w) := by
  have noObject : ∀ w, w.pods p.ns p.name = none → Unmarked p w := by
    intro w gone q found
    rw [gone] at found
    cases found
  refine patchMarker_holds (F := fun current w => w.listing = some pods ∧ StillRead p current w) {
    stable := stable_listing
    stable_read := fun current => stable_spared (l := l) member fun _ _ => StillRead.spared
    read_known := fun current w known => known.1
    get := fun w listing answer w' answered => ?_
    send := fun current w known sameUID _ answer w' answered => ?_
    replaced := fun current w known other _ => ⟨known.1, fun _ q found same =>
      absurd (known.2 q found same).1 other⟩
    already := fun current w known _ _ cleared => ⟨known.1, fun _ q found same =>
      (known.2 q found same).2.trans cleared⟩
    error := fun err w listing => ⟨listing, by simp⟩ }
  · obtain ⟨rfl, found, absent⟩ := answered
    refine ⟨.refl, listing, fun current isFound => ⟨listing, fun q live same => ?_⟩, fun isAbsent _ =>
      ⟨listing, fun _ => noObject w' (absent isAbsent)⟩⟩
    obtain rfl : current = q := Option.some.inj ((found current isFound).symm.trans live)
    exact ⟨same, rfl⟩
  · obtain ⟨patched, absent, failed⟩ := answered
    have effect : w' = w ∨ Patches w p.ns p.name (markerPatch current value true) w' := by
      cases answer with
      | patched => exact .inr (patched rfl)
      | notFound => exact .inl (absent rfl).1
      | failed err => exact failed err rfl
    have touches : Touches l pods p knobs w w' := by
      rcases effect with rfl | patches
      · exact .refl
      · exact patches.touches listed member
    have listing : w'.listing = some pods := touches.listing.trans known.1
    refine ⟨touches, fun done => ⟨listing, fun _ => (patched done).unmarked⟩, fun gone _ =>
      ⟨listing, fun _ => ?_⟩, fun _ err => ⟨listing, by simp⟩⟩
    obtain ⟨rfl, gone⟩ := absent gone
    exact noObject w' gone

/-- A valid record changes its knob, and that is not `cpu.idle`. -/
theorem valid_moves {state : PersistedState} (valid : validateState state = none) :
    state.restore ≠ state.suppressed ∧ "cpu.idle" ≠ state.knob := by
  rcases validateState_none.mp valid with rfl | legacy
  · exact ⟨by decide, by decide⟩
  · obtain ⟨quota, period, period', suppressed, restore, -⟩ := legacy.values
    refine ⟨fun same => ?_, by rw [legacy.knob]; decide⟩
    have fields := congrArg fields (restore.symm.trans (same.trans suppressed))
    rw [Kernel.Cgroup.fields_cpuMax, Kernel.Cgroup.fields_cpuMax, List.cons.injEq] at fields
    exact formatUint_ne_max quota fields.1.symm

omit [PrintTable] in
theorem Thawed.kept [PrintTable] {state : PersistedState} (keeps : Keeps knobs w w')
    (kept : state.knob ∈ knobs) (thawed : Thawed l p state w) : Thawed l p state w' := by
  intro dir computed c' present
  obtain ⟨c, before, same⟩ := keeps dir c' present
  rw [same _ kept]
  exact thawed dir computed c before

theorem Thawed.spared {state : PersistedState} (spares : Spares l p w w') (thawed : Thawed l p state w) :
    Thawed l p state w' :=
  fun dir computed c present => thawed dir computed c (spares.cgroup dir computed c present)

theorem Unmarked.spared (spares : Spares l p w w') (unmarked : Unmarked p w) : Unmarked p w' := by
  intro q found same
  obtain ⟨q₀, before, uid, marker⟩ := spares.entry q found same
  exact marker.symm.trans (unmarked q₀ before uid)

/-- What a valid marker of the listing must come to. -/
def Released (l : Layout) (p : Pod) (w : World) : Prop :=
  ∀ state, readMarker (p.annotationAt Annotations.guardStateKey) = some state →
    Thawed l p state w ∧ Unmarked p w

theorem Released.spared (spares : Spares l p w w') (released : Released l p w) : Released l p w' :=
  fun state marked => ⟨(released state marked).1.spared spares, (released state marked).2.spared spares⟩

/-- The patch leaves the knob, which stays let go. -/
theorem clearMarker_releases (listed : Listed pods) (member : p ∈ pods) (state : PersistedState) :
    Holds (arena driver) (touching l pods p ["cpu.idle"])
      (fun w => w.listing = some pods ∧ Thawed l p state w) (clearMarker p state)
      fun result w => result = none → Thawed l p state w ∧ Unmarked p w := by
  have stable : (arena driver).Stable (Thawed l p state) :=
    fun _ _ move => Thawed.kept move.keeps (List.mem_singleton_self state.knob)
  have cleared : Holds (arena driver) (touching l pods p ["cpu.idle", state.knob]) _ _ _ :=
    patchMarker_unmarks listed member "" (some state) ""
  have along := cleared.along stable fun w _ _ w' touches => Thawed.kept touches.knobs (by simp)
  refine (along.weaken fun w _ _ w' touches => ?_).post fun result w ended clean =>
    ⟨ended.2, ended.1.2 clean⟩
  exact { touches with knobs := touches.knobs.of_subset (by simp) }

variable [Qos.ResourceHelper]

/-- **One marker.** No error means that the knob was let go and the marker removed. -/
theorem restorePod_releases {cfg : Guard.Config} (listed : Listed pods) (member : p ∈ pods)
    (state : PersistedState) :
    Holds (arena driver) (touching cfg.layout pods p ["cpu.idle"]) (fun w => w.listing = some pods)
      (restorePod cfg ∅ p state)
      fun result w => result.2.2 = ∅ ∧
        (result.2.1 = none → Thawed cfg.layout p state w ∧ Unmarked p w) := by
  have thaw : (arena driver).Stable fun w => w.listing = some pods ∧ Thawed cfg.layout p state w :=
    stable_spared member fun _ _ => Thawed.spared
  have still : ∀ w r answer, touching cfg.layout pods p ["cpu.idle"] w r answer w := fun _ _ _ => .refl
  refine restorePod_holds (P := fun w => w.listing = some pods) (S := fun _ w => w.listing = some pods)
    (N := fun w => w.listing = some pods ∧ Thawed cfg.layout p state w) {
    ctx := inert still (r := .ctxErr) fun _ _ _ answered => answered
    stat := fun dir => inert still (r := .stat dir) fun _ _ _ answered => answered.1
    silent := silent still stable_listing
    silent_cleared := silent still thaw
    stable_read := fun _ => stable_listing
    read := fun valid dir computed w listing content w' answered => ?_
    unread := fun dir w listing answer w' answered _ => ?_
    gone := fun valid dir computed w listing answered => ?_
    write := fun valid _ dir computed w listing w' answered => ?_
    refused := fun valid _ dir computed w listing answer w' answered refused => ?_
    read_known := fun _ _ listing => listing
    clear := fun valid changed => ?_
    failed := fun _ _ _ => ?_ }
  · obtain ⟨rfl, shown⟩ := answered
    obtain ⟨c, present, reads⟩ := shown content rfl
    refine ⟨.refl, fun other => ⟨listing, fun dir' computed' c' present' suppressed => ?_⟩, fun _ => listing⟩
    obtain rfl : dir = dir' := Except.ok.inj ((World.ok_of_podDir.mp computed).symm.trans computed')
    obtain rfl : c = c' := Option.some.inj (present.symm.trans present')
    rw [Kernel.Cgroup.content, suppressed, Option.map_some, Option.some.injEq] at reads
    exact other (reads ▸ Kernel.Cgroup.trimSpace_value suppressed)
  · obtain ⟨rfl, -⟩ := answered
    exact ⟨.refl, listing⟩
  · refine ⟨listing, fun dir' computed' c present => ?_⟩
    obtain rfl : dir = dir' := Except.ok.inj ((World.ok_of_podDir.mp computed).symm.trans computed')
    rw [answered.2 rfl] at present
    cases present
  · obtain ⟨moves, elsewhere⟩ := valid_moves valid
    have inside := World.ok_of_podDir.mp computed
    have writes := answered.1 rfl
    refine ⟨writes.touches listed member inside (by simpa using elsewhere), ?_, fun dir' computed' c' present => ?_⟩
    · obtain ⟨shows, takes⟩ := writes
      exact listing
    obtain rfl : dir = dir' := Except.ok.inj (inside.symm.trans computed')
    obtain ⟨shows, takes⟩ := writes
    simp only [Function.update_self, Option.some.injEq] at present
    subst present
    rw [takes.shows]
    exact fun same => moves (Option.some.inj same)
  · obtain rfl := answered.2 refused
    exact ⟨.refl, listing⟩
  · refine (clearMarker_releases listed member state).post fun result w ended => ?_
    cases result with
    | none => exact ⟨erase_empty _, fun _ => ended rfl⟩
    | some err => exact ⟨forget_empty _ _, by simp⟩
  · exact ⟨rfl, by simp⟩

/-! ## Every marker of the listing -/

omit [PrintTable] [Qos.ResourceHelper] in
theorem lookup_foldl_insert {listed : List Pod} (keys : (listed.map metaNamespaceKey).Nodup)
    (cache : Finmap fun _ : String => Pod) (key : String) :
    (listed.foldl (fun indexer pod => indexer.insert (metaNamespaceKey pod) pod) cache).lookup key =
      (listed.find? fun pod => metaNamespaceKey pod = key).or (cache.lookup key) := by
  induction listed generalizing cache with
  | nil => rfl
  | cons pod rest ih =>
      obtain ⟨fresh, nodup⟩ := List.nodup_cons.mp keys
      rw [List.foldl_cons, ih nodup]
      by_cases same : metaNamespaceKey pod = key
      · subst same
        have later : rest.find? (fun q => metaNamespaceKey q = metaNamespaceKey pod) = none := by
          refine List.find?_eq_none.mpr fun q member => ?_
          have apart : metaNamespaceKey q ≠ metaNamespaceKey pod := fun equal =>
            fresh (equal ▸ List.mem_map_of_mem member)
          simpa using apart
        simp [later, Finmap.lookup_insert]
      · have other : key ≠ metaNamespaceKey pod := fun equal => same equal.symm
        simp [same, Finmap.lookup_insert_of_ne _ other]

omit [PrintTable] [Qos.ResourceHelper] in
theorem lookup_recoveryCache {listed : List Pod} (keys : (listed.map metaNamespaceKey).Nodup)
    (key : String) (pod : Pod) :
    (recoveryCache listed).lookup key = some pod ↔ pod ∈ listed ∧ metaNamespaceKey pod = key := by
  rw [recoveryCache, lookup_foldl_insert keys, Finmap.lookup_empty, Option.or_none]
  constructor
  · intro found
    exact ⟨List.mem_of_find?_eq_some found, by simpa using List.find?_some found⟩
  · rintro ⟨member, rfl⟩
    cases found : listed.find? fun q => metaNamespaceKey q = metaNamespaceKey pod with
    | none => simpa using List.find?_eq_none.mp found pod member
    | some q =>
        have same : metaNamespaceKey q = metaNamespaceKey pod := by simpa using List.find?_some found
        rw [List.inj_on_of_nodup_map keys (List.mem_of_find?_eq_some found) member same]

omit [PrintTable] [Qos.ResourceHelper] in
/-- The cache lists every pod of the listing and no other, whatever the order. -/
theorem mem_recoveryCache {listed : List Pod} (keys : (listed.map metaNamespaceKey).Nodup)
    (order : Walk (recoveryCache listed).keys) (pod : Pod) :
    pod ∈ order.val.filterMap (recoveryCache listed).lookup ↔ pod ∈ listed := by
  rw [List.mem_filterMap]
  constructor
  · rintro ⟨key, -, found⟩
    exact ((lookup_recoveryCache keys key pod).mp found).1
  · intro member
    have found := (lookup_recoveryCache keys (metaNamespaceKey pod) pod).mpr ⟨member, rfl⟩
    refine ⟨metaNamespaceKey pod, ?_, found⟩
    rw [← List.mem_toFinset, order.property.2, Finmap.mem_keys, ← Finmap.lookup_isSome, found]
    rfl

/-- `P` of every listed pod but this one. -/
def Elsewhere (pods : List Pod) (p : Pod) (P : Pod → World → Prop) (w : World) : Prop :=
  w.listing = some pods ∧ ∀ q ∈ pods, q.uid ≠ p.uid → P q w

omit [Qos.ResourceHelper] in
/-- An operation on one pod leaves what is known of the others, and the knobs it does not move. -/
theorem holds_elsewhere {α : Type} {P : Pod → World → Prop} {G : Guarantee nodeSignature World}
    {S : World → Prop} {Q : α → World → Prop} {program : Node α} (w₀ : World)
    (triple : Holds (arena driver) G S program Q)
    (touches : ∀ w r answer w', G w r answer w' → Touches l pods p knobs w w')
    (steady : ∀ q w w', Spares l q w w' → P q w → P q w') :
    Holds (arena driver) G (fun w => S w ∧ Elsewhere pods p P w ∧ Keeps knobs w₀ w) program
      fun a w => Q a w ∧ Elsewhere pods p P w ∧ Keeps knobs w₀ w := by
  refine triple.along (fun w w' move known => ?_) fun w r answer w' step known => ?_
  · obtain ⟨⟨listing, elsewhere⟩, kept⟩ := known
    exact ⟨⟨move.listing.trans listing, fun q member other =>
      steady q w w' (move.spares listing member) (elsewhere q member other)⟩, kept.trans move.keeps⟩
  · obtain ⟨⟨listing, elsewhere⟩, kept⟩ := known
    have touched := touches w r answer w' step
    exact ⟨⟨touched.listing.trans listing, fun q member other =>
      steady q w w' (touched.others q member other) (elsewhere q member other)⟩, kept.trans touched.knobs⟩

/-- Around each round of the recovery; `done` is what it has dealt with. -/
structure Recovering (l : Layout) (pods : List Pod) (w₀ : World) (done : List Pod)
    (errs : List GoError) (owned : Owned) (w : World) : Prop where
  listing : w.listing = some pods
  idle : Keeps ["cpu.idle"] w₀ w
  nothing : owned = ∅
  released : errs = [] → ∀ q ∈ done, q ∈ pods → Released l q w

omit [Qos.ResourceHelper] in
/-- **One round.** -/
theorem Recovering.round {cfg : Guard.Config} {w₀ : World} {done : List Pod} {errs : List GoError}
    {owned : Owned} (listed : Listed pods) (member : p ∈ pods) {α : Type} {program : Node α}
    (err : α → Option GoError) (rest : α → Owned)
    (triple : owned = ∅ → Holds (arena driver) (touching cfg.layout pods p ["cpu.idle"])
      (fun w => w.listing = some pods) program
      fun result w => rest result = ∅ ∧ (err result = none → Released cfg.layout p w)) :
    Holds (arena driver) anything (Recovering cfg.layout pods w₀ done errs owned) program
      fun result w => Recovering cfg.layout pods w₀ (done ++ [p]) (errs ++ (err result).toList)
        (rest result) w := by
  intro w recovering
  let Earlier : Pod → World → Prop := fun q w => errs = [] → q ∈ done → Released cfg.layout q w
  have round := holds_elsewhere (P := Earlier) w₀ (triple recovering.nothing)
    (fun _ _ _ _ touches => touches)
    (fun q w w' spares earlier clean dealt => (earlier clean dealt).spared spares) w
    ⟨recovering.listing, ⟨recovering.listing, fun q inside _ clean dealt =>
      recovering.released clean q dealt inside⟩, recovering.idle⟩
  refine (round.weaken fun _ _ _ _ _ => trivial).mono fun result w' ended => ?_
  obtain ⟨⟨nothing, released⟩, ⟨listing, earlier⟩, idle⟩ := ended
  refine ⟨listing, idle, nothing, fun clean q dealt inside => ?_⟩
  obtain ⟨before, now⟩ := List.append_eq_nil_iff.mp clean
  by_cases same : q.uid = p.uid
  · rw [List.inj_on_of_nodup_map listed.distinct inside member same]
    exact released (by simpa using now)
  · rcases List.mem_append.mp dealt with before' | last
    · exact earlier q inside same before before'
    · exact absurd (congrArg Pod.uid (List.mem_singleton.mp last)) same

omit [Qos.ResourceHelper] in
/-- The record of a pod that the process knows nothing of is its marker. -/
theorem released_of_state {state : PersistedState} (held : stateForPod ∅ p = .ok (some state))
    (released : Thawed l p state w ∧ Unmarked p w) : Released l p w := by
  intro state' marked
  obtain ⟨decoded, -⟩ := readMarker_eq_some.mp marked
  unfold stateForPod at held
  simp only [Finmap.lookup_empty, decoded] at held
  split at held
  · cases held
  · split at held
    · cases held
    · obtain rfl := Option.some.inj (Except.ok.inj held)
      exact released

omit [Qos.ResourceHelper] in
/-- Without a record there is no valid marker. -/
theorem released_of_unmarked (unmarked : ∀ state, stateForPod ∅ p ≠ .ok (some state)) :
    Released l p w := by
  intro state marked
  obtain ⟨decoded, valid⟩ := readMarker_eq_some.mp marked
  have filled : p.annotationAt Annotations.guardStateKey ≠ "" := by
    intro empty
    rw [empty, readMarker_empty] at marked
    cases marked
  refine absurd ?_ (unmarked state)
  simp [stateForPod, decoded, valid, filled]

/-- **Every marker.** -/
theorem recover_releases {cfg : Guard.Config} (listed : Listed pods) {order : List Pod}
    (same : ∀ p, p ∈ order ↔ p ∈ pods) (w₀ : World) :
    Holds (arena driver) anything (fun w => w.listing = some pods ∧ Keeps ["cpu.idle"] w₀ w)
      (recoverPods cfg order ∅ [])
      fun result w => Recovering cfg.layout pods w₀ order result.1 result.2 w := by
  refine (recoverPods_holds (J := Recovering cfg.layout pods w₀) (fun p inside done errs owned err held => ?_)
    (fun p inside done errs owned w held known => ?_) (fun p inside done errs owned state held => ?_)
    ∅ [] []).pre fun w known => ⟨known.1, known.2, rfl, by simp⟩
  · have member := (same p).mp inside
    refine Recovering.round listed member id (fun _ => owned) fun nothing => ?_
    subst nothing
    refine (patchMarker_unmarks listed member _ _ _).post fun result w _ => ⟨rfl, fun _ => ?_⟩
    exact released_of_unmarked fun state found => by simp [held] at found
  · obtain rfl := known.nothing
    refine ⟨known.listing, known.idle, rfl, fun clean q dealt inside' => ?_⟩
    rcases List.mem_append.mp dealt with earlier | last
    · exact known.released clean q earlier inside'
    · rw [List.mem_singleton.mp last]
      exact released_of_unmarked fun state found => by simp [held] at found
  · have member := (same p).mp inside
    refine Recovering.round listed member (fun r : Bool × Option GoError × Owned => r.2.1)
      (fun r => r.2.2) fun nothing => ?_
    subst nothing
    exact (restorePod_releases listed member state).post fun result w ended =>
      ⟨ended.1, fun clean => released_of_state held (ended.2 clean)⟩

omit [Qos.ResourceHelper] in
theorem Recovering.stable {w₀ : World} {done : List Pod} (errs : List GoError) (owned : Owned) :
    (arena driver).Stable (Recovering l pods w₀ done errs owned) := by
  intro w w' move known
  refine ⟨move.listing.trans known.listing, known.idle.trans move.keeps, known.nothing,
    fun clean q dealt member => ?_⟩
  exact (known.released clean q dealt member).spared (move.spares known.listing member)

theorem recoverGuardState_releases {cfg : Guard.Config} (listed : Listed pods) {order : List Pod}
    (perm : order.Perm pods) (w₀ : World) :
    Holds (arena driver) anything (fun w => w.listing = some pods ∧ Keeps ["cpu.idle"] w₀ w)
      (recoverGuardState cfg order)
      fun err w => w.listing = some pods ∧ Keeps ["cpu.idle"] w₀ w ∧
        (err = none → ∀ q ∈ pods, Released cfg.layout q w) := by
  have keys : (order.map metaNamespaceKey).Nodup := (perm.map _).nodup_iff.mpr listed.keys
  have stable : (arena driver).Stable fun w => w.listing = some pods ∧ Keeps ["cpu.idle"] w₀ w :=
    fun w w' move known => ⟨move.listing.trans known.1, known.2.trans move.keeps⟩
  have walk : ∀ found, (arena driver).Inert anything (.rangeKeys found) := fun found _ _ _ answered =>
    ⟨answered, trivial⟩
  unfold recoverGuardState recover recoveryLister
  simp only [bind_assoc, pure_bind]
  refine .bind (.keeps stable ((walk _).keeps _)) fun walked => ?_
  have same : ∀ p, p ∈ walked.val.filterMap (recoveryCache order).lookup ↔ p ∈ pods := fun p =>
    (mem_recoveryCache keys walked p).trans perm.mem_iff
  refine .bind (recover_releases listed same w₀) fun result => ?_
  -- the process holds no record, so the second loop finds none
  refine .bind (restoreLocal_holds Recovering.stable walk
    (fun uid own errs owned recorded _ => .absurd fun w known => ?_) _ _) fun result => .pure fun w known => ?_
  · rw [known.nothing, Finmap.lookup_empty] at recorded
    cases recorded
  · exact ⟨known.listing, known.idle, fun clean q member =>
      known.released (GoError.join_eq_none.mp clean) q ((same q).mpr member) member⟩

/-! ## One pod -/

/-- Where the writes of a revert of an idle cgroup have got to. -/
inductive Stage (weight : Nat) : List Write → Kernel.Cgroup → Prop where
  | before {c : Kernel.Cgroup} {tail : List Write} (idle : c.idle = true)
      (bursts : ∀ write ∈ tail, write.knob = knobCPUMaxBurst) :
      Stage weight (⟨knobCPUIdle, "0"⟩ :: ⟨knobCPUWeight, formatUint weight⟩ :: tail) c
  | between {c : Kernel.Cgroup} {tail : List Write}
      (bursts : ∀ write ∈ tail, write.knob = knobCPUMaxBurst) :
      Stage weight (⟨knobCPUWeight, formatUint weight⟩ :: tail) c
  | after {c : Kernel.Cgroup} {tail : List Write} (restored : c.idle = false → c.weight = weight)
      (bursts : ∀ write ∈ tail, write.knob = knobCPUMaxBurst) : Stage weight tail c

omit [PrintTable] [Qos.ResourceHelper] in
theorem Stage.write {weight : Nat} {write : Write} {rest : List Write} {c c' : Kernel.Cgroup}
    (range : 1 ≤ weight ∧ weight ≤ 10000) (stage : Stage weight (write :: rest) c)
    (takes : c.Takes write.knob write.value c') : Stage weight rest c' := by
  cases stage with
  | before idle bursts => exact .between bursts
  | between bursts =>
      refine .after (fun _ => ?_) bursts
      have shown : formatUint c'.weight = formatUint weight := Option.some.inj takes.shows
      have top : maxUint64 = 18446744073709551615 := rfl
      have low := c'.weight_range
      exact formatUint_injective (by omega) (by omega) shown
  | after restored bursts =>
      obtain ⟨burst, later⟩ := List.forall_mem_cons.mp bursts
      refine .after (fun active => ?_) later
      have same : c'.idle = c.idle ∧ c'.weight = c.weight := takes.of_burst burst
      rw [same.2]
      exact restored (same.1.symm.trans active)

omit [PrintTable] [Qos.ResourceHelper] in
/-- Off an idle cgroup the loop ends nil only with the weight restored. -/
theorem Stage.restored {weight : Nat} {writes : List Write} {c : Kernel.Cgroup} (stage : Stage weight writes c)
    (stopped : ∀ write ∈ writes.head?, write.knob ≠ knobCPUWeight) (active : c.idle = false) :
    c.weight = weight := by
  cases stage with
  | before idle => simp [active] at idle
  | between => exact absurd rfl (stopped _ rfl)
  | after restored => exact restored active

omit [PrintTable] in
/-- The plan of a revert. -/
theorem planFor_zero (pending : Pending) (pod : Pod) {c : Kernel.Cgroup} (idle : c.idle = true) :
    Stage (Qos.restoreWeight pod.spec) (planFor pending pod .zero c.snapshot).1 c := by
  have plan : (planFor pending pod .zero c.snapshot).1 =
      buildPlan .zero c.snapshot (Qos.restoreWeight pod.spec) := by
    simp [planFor, needsWeightRepair, Kernel.Cgroup.snapshot, idle]
  have parts : buildPlan .zero c.snapshot (Qos.restoreWeight pod.spec) =
      ⟨knobCPUIdle, "0"⟩ :: ⟨knobCPUWeight, formatUint (Qos.restoreWeight pod.spec)⟩ ::
        Kernel.burstWrites 0 c.burst false := by
    rw [Kernel.buildPlan_parts]
    simp [Kernel.burstWrites, burstTarget, Tier.State.zero, Kernel.Cgroup.snapshot, Kernel.idleWrites, idle]
  rw [plan, parts]
  refine .before idle fun write member => ?_
  unfold Kernel.burstWrites at member
  split at member
  · cases member
  · rw [List.mem_singleton.mp member]

/-- While the writes of a revert run: what the cgroup was says how far they have got. -/
structure Reverting (pods : List Pod) (dir : String) (weight : Nat) (c : Kernel.Cgroup)
    (writes : List Write) (w : World) : Prop where
  listing : w.listing = some pods
  knobs : ∀ write ∈ writes, write.knob ≠ "cgroup.freeze" ∧ write.knob ≠ "cpu.max"
  stage : c.idle = true → ∀ c', w.cgroups dir = some c' → Stage weight writes c'

variable {dir : String} {c : Kernel.Cgroup}

/-- What a revert that returned nil has done about the weight. -/
def WeightBack (dir : String) (weight : Nat) (c : Kernel.Cgroup) (w : World) : Prop :=
  c.idle = true → ∀ c', w.cgroups dir = some c' → c'.idle = false → c'.weight = weight

omit [PrintTable] in
theorem planFor_knobs {pending : Pending} {pod : Pod} {s : Snapshot} :
    ∀ write ∈ (planFor pending pod .zero s).1, write.knob ≠ "cgroup.freeze" ∧ write.knob ≠ "cpu.max" := by
  intro write member
  rcases mem_planFor member with rfl | rfl | rfl
  · simp [knobCPUMaxBurst]
  · simp [knobCPUIdle]
  · simp [knobCPUWeight]

theorem revert_loop (listed : Listed pods) (member : p ∈ pods) (computed : target l p = .ok dir) :
    LoopRule (arena driver) (reverting l pods p) p.uid dir
      (fun writes _ => Reverting pods dir (Qos.restoreWeight p.spec) c writes)
      (loopResult (fun writes _ => Reverting pods dir (Qos.restoreWeight p.spec) c writes)
        fun result w => w.listing = some pods ∧
          (result.1 = none → WeightBack dir (Qos.restoreWeight p.spec) c w)) where
  silent writes pending := silent (fun _ _ _ => ⟨.refl, rfl⟩) fun w w' move known =>
    ⟨move.listing.trans known.listing, known.knobs, fun idle c' present =>
      known.stage idle c' (move.cgroups dir c' present)⟩
  ctx := inert (fun _ _ _ => ⟨.refl, rfl⟩) (r := .ctxErr) fun _ _ _ answered => answered
  stat := inert (fun _ _ _ => ⟨.refl, rfl⟩) (r := .stat dir) fun _ _ _ answered => answered.1
  written write rest pending w known w' answered := by
    obtain ⟨foreign, later⟩ := List.forall_mem_cons.mp known.knobs
    have writes := answered.1 rfl
    have touches : Touches l pods p ["cgroup.freeze", "cpu.max"] w w' :=
      writes.touches listed member computed (by simpa using ⟨foreign.1.symm, foreign.2.symm⟩)
    obtain ⟨shows, takes⟩ := writes
    refine ⟨⟨touches, rfl⟩, known.listing, later, fun idle c' present => ?_⟩
    simp only [Function.update_self, Option.some.injEq] at present
    subst present
    exact (known.stage idle _ shows).write (Qos.restoreWeight_range p.spec) takes
  refused write rest pending w known answer w' answered refused := by
    obtain rfl := answered.2 refused
    exact ⟨⟨.refl, rfl⟩, known⟩
  completed _ _ known := known
  failed _ _ _ _ _ known := ⟨known.listing, by simp⟩
  gone _ _ _ w known answered := by
    refine ⟨known.listing, fun _ _ c' present => ?_⟩
    rw [answered.2 rfl] at present
    cases present

theorem revert_weightBack {cfg : Apply.Config} (listed : Listed pods) (member : p ∈ pods)
    (computed : target cfg.layout p = .ok dir) (pending : Pending) :
    Holds (arena driver) (reverting cfg.layout pods p)
      (fun w => w.listing = some pods ∧ Kernel.Settled World.cgroups dir c w)
      (revert cfg pending p c.snapshot)
      fun result w => w.listing = some pods ∧
        (result.1 = none → WeightBack dir (Qos.restoreWeight p.spec) c w) := by
  have stable : (arena driver).Stable fun w => w.listing = some pods ∧ Kernel.Settled World.cgroups dir c w :=
    fun w w' move known => ⟨move.listing.trans known.1, fun c' present =>
      known.2 c' (move.cgroups dir c' present)⟩
  refine revert_holds (J := fun writes _ => Reverting pods dir (Qos.restoreWeight p.spec) c writes) stable
    (inert (fun _ _ _ => ⟨.refl, rfl⟩) (r := .ctxErr) fun _ _ _ answered => answered)
    (fun err w known => ⟨known.1, by simp⟩) (fun w known => ?_) (fun dir' computed' => ?_)
    (fun write rest pending w tier known => ?_) fun pending w known => ?_
  · refine ⟨known.1, planFor_knobs, fun idle c' present => ?_⟩
    rw [known.2 c' present]
    exact planFor_zero pending p idle
  · obtain rfl : dir = dir' := Except.ok.inj (computed.symm.trans computed')
    exact revert_loop listed member computed
  · exact ⟨known.listing, fun _ idle c' present =>
      (known.stage idle c' present).restored (by simpa using tier)⟩
  · exact ⟨known.listing, fun _ idle c' present => (known.stage idle c' present).restored (by simp)⟩

omit [PrintTable] [Qos.ResourceHelper] in
/-- Nothing to do means clean. -/
theorem clean_of_buildPlan {weight : Nat} (nothing : buildPlan .zero c.snapshot weight = []) :
    c.idle = false ∧ c.burst = 0 := by
  rw [Kernel.buildPlan_parts, List.append_eq_nil_iff, List.append_eq_nil_iff] at nothing
  obtain ⟨⟨-, idle⟩, burst⟩ := nothing
  constructor
  · cases active : c.idle with
    | false => rfl
    | true => simp [Kernel.idleWrites, Tier.State.zero, Kernel.Cgroup.snapshot, active] at idle
  · by_contra some
    have apart : 0 ≠ c.burst := fun same => some same.symm
    simp [Kernel.burstWrites, burstTarget, Tier.State.zero, Kernel.Cgroup.snapshot, apart] at burst

/-- Since `w₁` the directory was left alone, unless it is gone. -/
def Left (pods : List Pod) (dir : String) (w₁ w : World) : Prop :=
  w.listing = some pods ∧ ∀ c, w.cgroups dir = some c → w₁.cgroups dir = some c

/-- What a snapshot read since `w₁` tells. -/
def Sees (dir : String) (w₁ w : World) : Except GoError Snapshot → Prop
  | .ok s => ∃ c : Kernel.Cgroup, s = c.snapshot ∧ w₁.cgroups dir = some c
  | .error err => err.is .cgroupGone = true → w.cgroups dir = none

omit [PrintTable] [Qos.ResourceHelper] in
theorem stable_left {w₁ : World} : (arena driver).Stable (Left pods dir w₁) :=
  fun _ _ move known => ⟨move.listing.trans known.1, fun c present =>
    known.2 c (move.cgroups dir c present)⟩

omit [Qos.ResourceHelper] in
theorem readSnapshot_sees {G : Guarantee nodeSignature World} (still : ∀ w r answer, G w r answer w)
    (w₁ : World) : Holds (arena driver) G (Left pods dir w₁) (readSnapshot dir)
      fun result w => Left pods dir w₁ w ∧ Sees dir w₁ w result := by
  have settled : ∀ w, Left pods dir w₁ w →
      Kernel.Settled World.cgroups dir ((w₁.cgroups dir).getD Journal.idleCgroup) w := by
    intro w left c present
    rw [left.2 c present]
    rfl
  refine ((files still).readSnapshot stable_left settled).post fun result w known => ⟨known.1, ?_⟩
  cases result with
  | error err => exact known.2
  | ok s => exact ⟨_, known.2.1, known.1.2 _ known.2.2⟩

/-- The pod is idle exactly if it was on entry, or its cgroup is gone. -/
def EntryIdle (l : Layout) (w₀ : World) (p : Pod) (w : World) : Prop :=
  ∀ dir, target l p = .ok dir → ∀ c, w.cgroups dir = some c →
    ∃ c₀, w₀.cgroups dir = some c₀ ∧ c₀.idle = c.idle

/-- **One pod.** No error means that the cgroup is gone or clean. -/
theorem revertPod_reverts {cfg : Apply.Config} (listed : Listed pods) (member : p ∈ pods)
    (pending : Pending) (w₀ : World) :
    Holds (arena driver) (reverting cfg.layout pods p)
      (fun w => w.listing = some pods ∧ EntryIdle cfg.layout w₀ p w) (revertPod cfg pending p)
      fun result w => result.1.err = none → Reverted cfg.layout w₀ p w := by
  refine .of_forall fun w₁ start => ?_
  have still : ∀ w r answer, reverting cfg.layout pods p w r answer w := fun _ _ _ => ⟨.refl, rfl⟩
  unfold revertPod
  cases computed : cfg.layout.podDir (Qos.toCgroupClass (Qos.classOf p.spec)) p.uid with
  | error err => exact .pure fun w _ => by simp
  | ok dir =>
  have vanished : ∀ w : World, w.cgroups dir = none → Reverted cfg.layout w₀ p w := fun w gone =>
    ⟨dir, computed, fun c present => by simp [gone] at present⟩
  have read : ∀ w : World, w.listing = some pods → Holds (arena driver) (reverting cfg.layout pods p)
      (· = w) (readSnapshot dir) fun result w' => Left pods dir w w' ∧ Sees dir w w' result :=
    fun w listing => (readSnapshot_sees still w).pre fun w' same => by
      subst same
      exact ⟨listing, fun _ present => present⟩
  refine .bind (read w₁ start.1) fun result => ?_
  cases result with
  | error err =>
      refine .ite (fun gone => .pure fun w known _ => vanished w (known.2 gone)) fun _ => ?_
      exact .pure fun w _ => by simp
  | ok s =>
  refine Holds.pre (P := fun w => ∃ c : Kernel.Cgroup, (s = c.snapshot ∧ w₁.cgroups dir = some c) ∧
    Left pods dir w₁ w) (.exists fun c => .assume fun seen => ?_) fun w known => ?_
  swap
  · obtain ⟨left, c, same, before⟩ := known
    exact ⟨c, ⟨same, before⟩, left⟩
  obtain ⟨rfl, before⟩ := seen
  obtain ⟨c₀, entry, idle⟩ := start.2 dir computed c before
  have only : ∀ w, Left pods dir w₁ w → Kernel.Settled World.cgroups dir c w := fun w left c' present =>
    Option.some.inj ((left.2 c' present).symm.trans before)
  refine .ite (fun nothing => .pure fun w left _ => ?_) fun _ => ?_
  · obtain ⟨active, burst⟩ := clean_of_buildPlan nothing
    refine ⟨dir, computed, fun c' present => ?_⟩
    rw [only w left c' present]
    refine ⟨active, burst, fun c₀' entry' was => ?_⟩
    obtain rfl := Option.some.inj (entry.symm.trans entry')
    simp [idle, active] at was
  have reverts : Holds (arena driver) _ _ (revert cfg pending p c.snapshot) _ :=
    revert_weightBack listed member computed pending
  refine .bind (fun w left => ((reverts w ⟨left.1, only w left⟩).returns (revert_returns computed)))
    fun result => ?_
  obtain ⟨err, pending'⟩ := result
  cases err with
  | some err =>
      refine .ite (fun gone => .absurd fun w known => ?_) fun _ => .pure fun w _ => by simp
      simp [known.2 err rfl] at gone
  | none =>
  refine .of_forall fun w₂ known => ?_
  obtain ⟨⟨listing, weight⟩, -⟩ := known
  refine .bind (read w₂ listing) fun result => ?_
  cases result with
  | error err =>
      refine .ite (fun gone => .pure fun w known _ => vanished w (known.2 gone)) fun _ => ?_
      exact .pure fun w _ => by simp
  | ok after =>
      refine .ite (fun _ => .pure fun w _ => by simp) fun nothing => .pure fun w known _ => ?_
      obtain ⟨left, c', rfl, now⟩ := known
      obtain ⟨active, burst⟩ := clean_of_buildPlan (not_not.mp nothing)
      refine ⟨dir, computed, fun c'' present => ?_⟩
      obtain rfl : c'' = c' := Option.some.inj ((left.2 c'' present).symm.trans now)
      refine ⟨active, burst, fun c₀' entry' was => ?_⟩
      obtain rfl := Option.some.inj (entry.symm.trans entry')
      exact weight rfl (idle.symm.trans was) c'' now active

/-! ## Every pod -/

omit [Qos.ResourceHelper] in
theorem EntryIdle.spared {w₀ : World} (spares : Spares l p w w') (entry : EntryIdle l w₀ p w) :
    EntryIdle l w₀ p w' :=
  fun dir computed c present => entry dir computed c (spares.cgroup dir computed c present)

theorem Reverted.spared {w₀ : World} (spares : Spares l p w w') (reverted : Reverted l w₀ p w) :
    Reverted l w₀ p w' := by
  obtain ⟨dir, computed, clean⟩ := reverted
  exact ⟨dir, computed, fun c present => clean c (spares.cgroup dir computed c present)⟩

omit [Qos.ResourceHelper] in
/-- A revert takes no marker back. -/
theorem Released.reverting {r : Request} {answer : Answer r} (step : reverting l pods p w r answer w')
    {q : Pod} (released : Released l q w) : Released l q w' := by
  intro state marked
  obtain ⟨thawed, unmarked⟩ := released state marked
  have guards : state.knob ∈ ["cgroup.freeze", "cpu.max"] := by
    rcases validateState_none.mp (readMarker_eq_some.mp marked).2 with rfl | legacy
    · decide
    · simp [legacy.knob]
  exact ⟨thawed.kept step.1.knobs guards, fun q' found => unmarked q' (step.2 ▸ found)⟩

/-- Around each attempt; `done` is what was attempted, `φ` that the recovery reported nothing. -/
structure Cleaning (l : Layout) (pods : List Pod) (w₀ : World) (φ : Prop) (done : List Pod)
    (results : List RevertResult) (w : World) : Prop where
  listing : w.listing = some pods
  released : φ → ∀ q ∈ pods, Released l q w
  entry : ∀ q ∈ pods, q ∉ done → EntryIdle l w₀ q w
  reverted : (∀ r ∈ results, r.err = none) → ∀ q ∈ done, q ∈ pods → Reverted l w₀ q w

theorem Cleaning.stable {w₀ : World} {φ : Prop} {done : List Pod} {results : List RevertResult} :
    (arena driver).Stable (Cleaning l pods w₀ φ done results) := by
  intro w w' move known
  have spares : ∀ q ∈ pods, Spares l q w w' := fun q member => move.spares known.listing member
  exact ⟨move.listing.trans known.listing,
    fun clean q member => (known.released clean q member).spared (spares q member),
    fun q member fresh => (known.entry q member fresh).spared (spares q member),
    fun clean q dealt member => (known.reverted clean q dealt member).spared (spares q member)⟩

/-- **One attempt.** -/
theorem revertPod_cleans {cfg : Apply.Config} (listed : Listed pods) (member : p ∈ pods) {w₀ : World}
    {φ : Prop} {done : List Pod} (fresh : p ∉ done) (results : List RevertResult) (pending : Pending) :
    Holds (arena driver) anything (Cleaning cfg.layout pods w₀ φ done results)
      (revertPod cfg pending p)
      fun result w => Cleaning cfg.layout pods w₀ φ (done ++ [p]) (results ++ [result.1]) w := by
  intro w known
  let Aside : Pod → World → Prop := fun q w => (q ∉ done → EntryIdle cfg.layout w₀ q w) ∧
    ((∀ r ∈ results, r.err = none) → q ∈ done → Reverted cfg.layout w₀ q w)
  have attempt : Holds (arena driver) _ _ (revertPod cfg pending p) _ :=
    revertPod_reverts listed member pending w₀
  have aside := holds_elsewhere (P := Aside) w attempt
    (fun _ _ _ _ step => step.1) fun q w w' spares known =>
      ⟨fun fresh => (known.1 fresh).spared spares, fun clean dealt => (known.2 clean dealt).spared spares⟩
  have stable : (arena driver).Stable fun w => w.listing = some pods ∧
      (φ → ∀ q ∈ pods, Released cfg.layout q w) := fun w w' move known =>
    ⟨move.listing.trans known.1, fun clean q inside =>
      (known.2 clean q inside).spared (move.spares known.1 inside)⟩
  have released := aside.along stable fun w r answer w' step known =>
    ⟨step.1.listing.trans known.1, fun clean q inside => (known.2 clean q inside).reverting step⟩
  refine ((released w ⟨⟨⟨known.listing, known.entry p member fresh⟩, ⟨known.listing,
    fun q inside _ => ⟨known.entry q inside, fun clean dealt => known.reverted clean q dealt inside⟩⟩,
    fun _ c present => ⟨c, present, fun _ _ => rfl⟩⟩, known.listing, known.released⟩).weaken
    fun _ _ _ _ _ => trivial).mono fun result w' ended => ?_
  obtain ⟨⟨own, ⟨listing, others⟩, -⟩, -, released⟩ := ended
  refine ⟨listing, released, fun q inside undealt => ?_, fun clean q dealt inside => ?_⟩
  · rw [List.mem_append, not_or, List.mem_singleton] at undealt
    have other : q.uid ≠ p.uid := fun same =>
      undealt.2 (List.inj_on_of_nodup_map listed.distinct inside member same)
    exact (others q inside other).1 undealt.1
  · obtain ⟨before, now⟩ := List.forall_mem_append.mp clean
    by_cases same : q.uid = p.uid
    · rw [List.inj_on_of_nodup_map listed.distinct inside member same]
      exact own (by simpa using now)
    · rcases List.mem_append.mp dealt with earlier | last
      · exact (others q inside same).2 before earlier
      · exact absurd (congrArg Pod.uid (List.mem_singleton.mp last)) same

theorem revertPods_cleans {cfg : Apply.Config} (listed : Listed pods) {w₀ : World} {φ : Prop}
    {order done : List Pod} (inside : ∀ p ∈ order, p ∈ pods) (nodup : (done ++ order).Nodup)
    (results : List RevertResult) (pending : Pending) :
    Holds (arena driver) anything (Cleaning cfg.layout pods w₀ φ done results)
      (revertPods cfg order pending results)
      fun result w => Cleaning cfg.layout pods w₀ φ (done ++ order) result.1 w := by
  induction order generalizing done results pending with
  | nil => exact .pure fun w known => by simpa using known
  | cons p rest ih =>
      obtain ⟨member, later⟩ := List.forall_mem_cons.mp inside
      have fresh : p ∉ done := fun dealt =>
        (List.nodup_append.mp nodup).2.2 p dealt p (by simp) rfl
      have onward := ih later (show ((done ++ [p]) ++ rest).Nodup by simpa using nodup)
      simp only [List.append_assoc, List.singleton_append] at onward
      exact .bind (revertPod_cleans listed member fresh results pending) fun result => onward _ _

omit [PrintTable] [Qos.ResourceHelper] in
/-- Printing the table changes nothing. -/
theorem printRevertTable_keeps {P : World → Prop} (stable : (arena driver).Stable P)
    (results : List RevertResult) :
    Holds (arena driver) anything P (printRevertTable results) fun _ w => P w := by
  have flush : ∀ lines, (arena driver).Inert anything (.flushTable lines) := fun lines _ _ _ answered =>
    ⟨answered, trivial⟩
  refine .bind (.keeps stable ((flush _).keeps P)) fun answer => ?_
  cases answer with
  | some err => exact .pure fun w known => known
  | none => exact .pure fun w known => known

omit [PrintTable] [Qos.ResourceHelper] in
/-- Nothing to report means that nothing was reported. -/
theorem revertAllErrors_nil {listed : List Pod} {results : List RevertResult}
    {guardErr tableErr : Option GoError}
    (nothing : GoError.join (revertAllErrors listed results guardErr tableErr) = none) :
    guardErr = none ∧ ∀ r ∈ results, r.err = none := by
  rw [GoError.join_eq_none, revertAllErrors, List.append_eq_nil_iff, List.append_eq_nil_iff] at nothing
  obtain ⟨⟨failures, guard⟩, -⟩ := nothing
  refine ⟨by simpa using guard, fun r member => ?_⟩
  have none_failed : results.countP (·.err.isSome) = 0 := by
    by_contra some
    have positive : 0 < results.countP (·.err.isSome) := by omega
    simp [positive] at failures
  simpa using List.countP_eq_zero.mp none_failed r member

/-- **After the List.** -/
theorem revertListed_cleans {cfg : RevertAllConfig} {listed : List Pod} (promised : Listed listed)
    (w₀ : World) :
    Holds (arena driver) anything (fun w => w.listing = some listed ∧ Keeps ["cpu.idle"] w₀ w)
      (revertListed cfg driver (sortPods listed))
      fun result w => result = none → w.listing = some listed ∧ ∀ p ∈ listed,
        Reverted (cfg.layout driver) w₀ p w ∧ Released (cfg.layout driver) p w := by
  have perm : (sortPods listed).Perm listed := List.perm_insertionSort _ _
  have nodup : (sortPods listed).Nodup := perm.nodup_iff.mpr (.of_map _ promised.distinct)
  unfold revertListed
  refine .bind (recoverGuardState_releases promised perm w₀) fun guardErr => ?_
  have loop : Holds (arena driver) anything
      (Cleaning (cfg.applier driver).layout listed w₀ (guardErr = none) [] [])
      (revertPods (cfg.applier driver) (sortPods listed) ∅ []) _ :=
    revertPods_cleans promised (fun p member => mem_sortPods.mp member)
      (show ([] ++ sortPods listed).Nodup from nodup) [] ∅
  refine .bind (.pre loop fun w known => ?_) fun result => ?_
  · refine ⟨known.1, known.2.2, fun q _ _ dir _ c present => ?_, by simp⟩
    obtain ⟨c₀, entry, same⟩ := known.2.1 dir c present
    have shown : some (Kernel.Cgroup.bit c.idle) = some (Kernel.Cgroup.bit c₀.idle) := same "cpu.idle" (by simp)
    exact ⟨c₀, entry, (Kernel.Cgroup.bit_injective (Option.some.inj shown)).symm⟩
  refine .bind (printRevertTable_keeps Cleaning.stable _) fun tableErr => .pure fun w known clean => ?_
  obtain ⟨recovered, attempted⟩ := revertAllErrors_nil clean
  exact ⟨known.listing, fun p member => ⟨known.reverted attempted p
    (List.mem_append_right _ (mem_sortPods.mpr member)) member, known.released recovered p member⟩⟩

/-- What the List tells, in the order of the table. -/
def Shows (w₀ w : World) : Except GoError (List Pod) → Prop
  | .ok order => ∃ listed, order = sortPods listed ∧ Listed listed ∧
      w.listing = some listed ∧ Keeps ["cpu.idle"] w₀ w
  | .error _ => True

omit [PrintTable] [Qos.ResourceHelper] in
theorem listNodePods_shows {w₀ : World} (nodeName : String)
    (kept : (arena driver).Stable (Keeps ["cpu.idle"] w₀)) :
    Holds (arena driver) anything (Keeps ["cpu.idle"] w₀) (listNodePods nodeName)
      fun result w => Shows w₀ w result := by
  refine .bind (R := fun answer w => ∀ listed, answer = (.ok listed : Except ApiError (List Pod)) →
    Listed listed ∧ w.listing = some listed ∧ Keeps ["cpu.idle"] w₀ w)
    (.request kept fun w known answer w' answered => ⟨trivial, fun listed found => ?_⟩) fun answer => ?_
  · obtain ⟨promised, rfl⟩ := answered.1 listed found
    exact ⟨promised, rfl, known⟩
  · cases answer with
    | error err => exact .pure fun w _ => trivial
    | ok listed => exact .pure fun w known => ⟨listed, rfl, known listed rfl⟩

/-- **The run.** -/
theorem runRevertAll_cleans (cfg : RevertAllConfig) (w₀ : World) :
    Holds (arena driver) anything (· = w₀) (runRevertAll cfg) fun result w => result = none →
      ∃ listed, w.listing = some listed ∧ ∀ p ∈ listed,
        Reverted (cfg.layout driver) w₀ p w ∧ Released (cfg.layout driver) p w := by
  have kept : (arena driver).Stable (Keeps ["cpu.idle"] w₀) := fun _ _ move known =>
    known.trans move.keeps
  refine .pre (P := Keeps ["cpu.idle"] w₀) ?_ fun w same dir c present =>
    ⟨c, same ▸ present, fun _ _ => rfl⟩
  unfold runRevertAll
  refine .ite (fun _ => .pure fun w _ => by simp) fun _ => ?_
  have gated : (arena driver).Inert anything (.gateCheck cfg.cgroupRoot cfg.kubepodsName) :=
    fun _ _ _ answered => ⟨answered.1, trivial⟩
  refine .bind (.inert kept gated) fun answer => ?_
  cases answer with
  | failed err => exact .pure fun w _ => by simp
  | notReady reason => exact .pure fun w _ => by simp
  | ready found =>
  refine .pre (P := fun w => found = driver ∧ Keeps ["cpu.idle"] w₀ w) (.assume fun same => ?_)
    fun w known => ⟨known.2.2 found rfl, known.1⟩
  subst same
  refine .bind (listNodePods_shows _ kept) fun result => ?_
  cases result with
  | error err => exact .pure fun w _ => by simp
  | ok order =>
  refine .exists fun listed => ?_
  rintro w ⟨rfl, promised, listing, idle⟩
  exact (revertListed_cleans promised w₀ w ⟨listing, idle⟩).mono fun result w' clean nothing =>
    ⟨listed, clean nothing⟩

end

end Uninstall

section

variable [PrintTable] [Qos.ResourceHelper]

open Uninstall in
/-- **A clean exit means a clean node.** When a run returns nil, each listed pod's cgroup is gone, or
its tiers are off and its weight is the pod's own where it was idle on entry; and each valid marker of
the listing has its knob let go and is removed. Whatever became of the recovery and of the other
pods, each listed pod was attempted. -/
theorem revert_all (cfg : RevertAllConfig) (driver : Driver) :
    (∀ {w₀ w : Uninstall.World}, Exec (arena driver) (runRevertAll cfg) w₀ none w →
      ∃ listed, w.listing = some listed ∧ ∀ p ∈ listed, Reverted (cfg.layout driver) w₀ p w ∧
        ∀ state, readMarker (p.annotationAt Annotations.guardStateKey) = some state →
          Thawed (cfg.layout driver) p state w ∧ Unmarked p w) ∧
    ∀ {listed : List Pod} {events : List (Program.Event nodeSignature)} {result : Option GoError},
      Program.Path (runRevertAll cfg)
        (⟨.gateCheck cfg.cgroupRoot cfg.kubepodsName, .ready driver⟩ ::
          ⟨.listNodePods cfg.nodeName, (.ok listed : Except ApiError (List Pod))⟩ :: events)
        (.done result) →
      ∀ pod ∈ listed, ∃ before attempt after pending out, events = before ++ attempt ++ after ∧
        Program.Path (revertPod (cfg.applier driver) pending pod) attempt (.done out) :=
  ⟨fun run => Safe.exec run (runRevertAll_cleans cfg _ _ rfl) rfl, runRevertAll_path⟩

end

/-! ## One pod that is idle and frozen -/

section

open Uninstall

attribute [local instance] asciiTable Qos.containerRequests

namespace Uninstall

/-- The sample pod, held frozen by the guard. -/
def frozenPod : Pod :=
  { samplePod with
    resourceVersion := "1"
    annotations := fun key =>
      if key = Annotations.guardStateKey then some (encode freezeState) else none }

def frozenDir : String := "/sys/fs/cgroup/kubepods/burstable/pod5b0c-1"

/-- How far a run has come with it. -/
inductive Leg where
  | unlisted
  | listed
  | thawed
  | released
  | reset
  | restored
  deriving DecidableEq

namespace Leg

def pod : Leg → Pod
  | .unlisted | .listed | .thawed => frozenPod
  | .released | .reset | .restored => frozenPod.patched (markerPatch frozenPod "" true) "2"

/-- Its own weight is 4. -/
def cgroup : Leg → Kernel.Cgroup
  | .unlisted | .listed => { Journal.idleCgroup with frozen := true }
  | .thawed | .released => Journal.idleCgroup
  | .reset => Journal.resetCgroup
  | .restored =>
      { Journal.resetCgroup with
        weight := 4
        weight_range := .inr ⟨by decide, by decide⟩ }

def world (s : Leg) : World where
  pods ns name := if ns = frozenPod.ns ∧ name = frozenPod.name then some s.pod else none
  cgroups dir := if dir = frozenDir then some s.cgroup else none
  listing := if s = .unlisted then none else some [frozenPod]

/-- The write that is taken next. -/
def write (name value : String) : Leg → Option Leg
  | .listed => if name = "cgroup.freeze" ∧ value = "0" then some .thawed else none
  | .released => if name = "cpu.idle" ∧ value = "0" then some .reset else none
  | .reset => if name = "cpu.weight" ∧ value = "4" then some .restored else none
  | _ => none

end Leg

/-- A node with this pod, on which every request of the run succeeds. -/
def leaving : Handler nodeSignature Leg := fun s r =>
  match r with
  | .readFile dir name =>
      (match if dir = frozenDir then s.cgroup.content name else none with
      | some text => .data text
      | none => .failed ⟨"no such file", false⟩, s)
  | .writeFile dir name value =>
      match if dir = frozenDir then s.write name value else none with
      | some s' => (.written, s')
      | none => (.writeFailed ⟨"input/output error", false⟩, s)
  | .getPod ns name => (if ns = frozenPod.ns ∧ name = frozenPod.name then .found s.pod else .notFound, s)
  | .patchPod ns name patch =>
      match s with
      | .thawed =>
          if ns = frozenPod.ns ∧ name = frozenPod.name ∧ patch = markerPatch frozenPod "" true then
            (.patched, .released)
          else (.failed ⟨"conflict", false⟩, .thawed)
      | s => (.failed ⟨"conflict", false⟩, s)
  | .listNodePods _ =>
      match s with
      | .unlisted => (.ok [frozenPod], .listed)
      | s => (.ok [frozenPod], s)
  | r => bareNode s r

theorem frozenPod_listed : Listed [frozenPod] where
  uids _ member := List.mem_singleton.mp member ▸ sampleScene.wellFormed
  distinct := List.nodup_singleton _
  keys := List.nodup_singleton _

/-- A step that only writes to the cgroup. -/
theorem Leg.stepped {s t : Leg} (pod : t.pod = s.pod) (listing : t.world.listing = s.world.listing) :
    { s.world with cgroups := Function.update s.world.cgroups frozenDir (some t.cgroup) } = t.world := by
  have pods : s.world.pods = t.world.pods := by simp [world, pod]
  have cgroups : Function.update s.world.cgroups frozenDir (some t.cgroup) = t.world.cgroups := by
    funext dir
    by_cases here : dir = frozenDir
    · simp [here, world]
    · simp [here, world]
  dsimp only
  rw [cgroups, pods, ← listing]

theorem Leg.writes {s s' : Leg} {name value : String} (taken : s.write name value = some s') :
    Writes s.world frozenDir name value s'.world := by
  have shows : s.world.cgroups frozenDir = some s.cgroup := by simp [world]
  cases s with
  | listed =>
      obtain ⟨⟨rfl, rfl⟩, same⟩ := Option.ite_none_right_eq_some.mp taken
      obtain rfl := Option.some.inj same
      exact stepped (s := .listed) (t := .thawed) rfl rfl ▸ .taken shows (.freeze false rfl)
  | released =>
      obtain ⟨⟨rfl, rfl⟩, same⟩ := Option.ite_none_right_eq_some.mp taken
      obtain rfl := Option.some.inj same
      exact stepped (s := .released) (t := .reset) rfl rfl ▸ .taken shows (.idleOff rfl rfl)
  | reset =>
      obtain ⟨⟨rfl, rfl⟩, same⟩ := Option.ite_none_right_eq_some.mp taken
      obtain rfl := Option.some.inj same
      exact stepped (s := .reset) (t := .restored) rfl rfl ▸ .taken shows (.weight (n := 4) rfl rfl)
  | _ => cases taken

theorem Leg.patches :
    Patches Leg.thawed.world frozenPod.ns frozenPod.name (markerPatch frozenPod "" true)
      Leg.released.world := by
  have pods : Function.update Leg.thawed.world.pods frozenPod.ns
      (Function.update (Leg.thawed.world.pods frozenPod.ns) frozenPod.name (some Leg.released.pod)) =
        Leg.released.world.pods := by
    funext ns name
    by_cases sameNs : ns = frozenPod.ns
    · by_cases sameName : name = frozenPod.name
      · simp [sameNs, sameName, world]
      · simp [sameNs, sameName, world]
    · simp [sameNs, world]
  have found : Leg.thawed.world.pods frozenPod.ns frozenPod.name = some frozenPod := by
    simp [world, pod]
  have allows : MarkerPatch.Allows (markerPatch frozenPod "" true) frozenPod :=
    ⟨rfl, fun version same => (Option.some.inj same).symm⟩
  have patched := Patches.patched "2" found allows
  have rest : Leg.released.world = { Leg.thawed.world with pods := Leg.released.world.pods } := rfl
  rw [rest, ← pods]
  exact patched

theorem leaving_act (s : Leg) (r : Request) :
    act .cgroupfs s.world r (leaving s r).1 (leaving s r).2.world := by
  cases r with
  | readFile dir name =>
      refine ⟨rfl, fun content read => ?_⟩
      simp only [leaving] at read
      split at read
      · rename_i text shown
        obtain ⟨here, shows⟩ := Option.ite_none_right_eq_some.mp shown
        exact ⟨s.cgroup, if_pos here, ReadResult.data.inj read ▸ shows⟩
      · cases read
  | stat dir => exact ⟨rfl, fun gone => by cases gone⟩
  | writeFile dir name value =>
      simp only [leaving]
      split
      · rename_i s' taken
        obtain ⟨rfl, taken⟩ := Option.ite_none_right_eq_some.mp taken
        exact ⟨fun _ => Leg.writes taken, fun no => absurd rfl no⟩
      · exact ⟨by simp, fun _ => rfl⟩
  | getPod ns name =>
      by_cases here : ns = frozenPod.ns ∧ name = frozenPod.name
      · have found : (leaving s (.getPod ns name)).1 = GetResult.found s.pod := if_pos here
        rw [found]
        exact ⟨rfl, fun p same => GetResult.found.inj same ▸ if_pos here, nofun⟩
      · have absent : (leaving s (.getPod ns name)).1 = GetResult.notFound := if_neg here
        rw [absent]
        refine ⟨rfl, fun p same => ?_, fun _ => if_neg here⟩
        cases same
  | patchPod ns name patch =>
      simp only [leaving]
      split
      · split
        · rename_i here
          obtain ⟨rfl, rfl, rfl⟩ := here
          exact ⟨fun _ => Leg.patches, by simp, by simp⟩
        · exact ⟨by simp, by simp, fun _ _ => .inl rfl⟩
      · exact ⟨by simp, by simp, fun _ _ => .inl rfl⟩
  | listNodePods node =>
      have listing : ∀ s' : Leg, s'.pod = s.pod → s'.cgroup = s.cgroup → s' ≠ .unlisted →
          s'.world = { s.world with listing := some [frozenPod] } := by
        intro s' pod cgroup listed
        simp [Leg.world, pod, cgroup, listed]
      simp only [leaving]
      split
      · refine ⟨fun pods shown => ?_, fun err refused => by cases refused⟩
        obtain rfl := Except.ok.inj shown
        exact ⟨frozenPod_listed, listing .listed rfl rfl (by decide)⟩
      · rename_i started
        refine ⟨fun pods shown => ?_, fun err refused => by cases refused⟩
        obtain rfl := Except.ok.inj shown
        exact ⟨frozenPod_listed, listing s rfl rfl started⟩
  | gateCheck root name => exact ⟨rfl, fun d same => (GateResult.ready.inj same).symm⟩
  | _ => rfl

def leavingConfig : RevertAllConfig :=
  ⟨"node-a", "/sys/fs/cgroup", "kubepods", sampleLayout.rooted, sampleLayout.component⟩

def leavingRun : Option GoError × Leg := (runRevertAll leavingConfig).run leaving .unlisted

theorem leavingRun_exec :
    Exec (arena .cgroupfs) (runRevertAll leavingConfig) Leg.unlisted.world leavingRun.1 leavingRun.2.world :=
  .of_run Leg.world leaving_act _ _

end Uninstall

/-- The run returns nil, and leaves the pod thawed, unmarked and at its own weight. -/
theorem revert_all_frozen :
    leavingRun = (none, .restored) ∧
      Reverted (leavingConfig.layout .cgroupfs) Leg.unlisted.world frozenPod Leg.restored.world ∧
      Thawed (leavingConfig.layout .cgroupfs) frozenPod freezeState Leg.restored.world ∧
      Unmarked frozenPod Leg.restored.world := by
  have ended : leavingRun = (none, .restored) := by decide +kernel
  have run := leavingRun_exec
  rw [ended] at run
  obtain ⟨listed, returned, cleans⟩ := (revert_all leavingConfig .cgroupfs).1 run
  obtain rfl : [frozenPod] = listed := Option.some.inj returned
  obtain ⟨reverted, releases⟩ := cleans frozenPod (List.mem_singleton_self _)
  obtain ⟨thawed, unmarked⟩ := releases freezeState readMarker_encode_freezeState
  exact ⟨ended, reverted, thawed, unmarked⟩

end

end CpuIdle.Agent
