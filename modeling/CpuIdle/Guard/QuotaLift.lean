/-
# Guard.QuotaLift — no annotation lifts a CPU limit

Everybody may write anything anywhere: annotations of any content, any knob, at any
moment. The process ticks, converges, recovers and restarts.

* `Legacy.values`: what a valid legacy record holds is a finite `cpu.max` and an
  unbounded one, both in canonical form;
* `quota_lift`: every knob write of the guard freezes, thaws, or lifts a quota that the
  pod's spec does not ask for; no call of the applier writes `cpu.max`.
-/
import CpuIdle.Apply.Applier
import CpuIdle.Guard.OnePod
import CpuIdle.Guard.Tick

namespace CpuIdle.Guard

open CpuIdle.Go CpuIdle.Kube CpuIdle.Node CpuIdle.Theory CpuIdle.Cgroup CpuIdle.Kernel.Cgroup

set_option autoImplicit false

/-! ## The values of a legacy record -/

/-- A canonical `cpu.max` is one the kernel prints. -/
theorem canonicalQuota_values {raw field : String} {allowMax : Bool}
    (accepted : canonicalQuota raw allowMax = some field) :
    ∃ quota, field = quotaText quota ∧ (∀ q ∈ quota, 1000 ≤ q) ∧ (quota = none → allowMax = true) := by
  unfold canonicalQuota at accepted
  split at accepted
  · rename_i isMax
    split at accepted
    · rename_i allowed
      obtain rfl := Option.some.inj accepted
      exact ⟨none, isMax, by simp, fun _ => allowed⟩
    · cases accepted
  · split at accepted
    · cases accepted
    · rename_i q _
      split at accepted
      · cases accepted
      · rename_i large
        exact ⟨some q, (Option.some.inj accepted).symm, by simpa using large, by simp⟩

theorem canonicalCPUMax_values {value canonical : String} {allowMax : Bool}
    (found : canonicalCPUMax value allowMax = some canonical) :
    ∃ quota period, canonical = cpuMax quota period ∧ 1000 ≤ period ∧ period ≤ 1000000 ∧
      (∀ q ∈ quota, 1000 ≤ q) ∧ (quota = none → allowMax = true) := by
  unfold canonicalCPUMax at found
  split at found
  · split at found
    · cases found
    · rename_i field accepted
      obtain ⟨quota, rfl, large, allowed⟩ := canonicalQuota_values accepted
      split at found
      · cases found
      · rename_i n _
        split at found
        · cases found
        · rename_i inside
          exact ⟨quota, n, (Option.some.inj found).symm, by omega, by omega, large, allowed⟩
  · cases found

theorem Legacy.values {state : PersistedState} (legacy : Legacy state) :
    ∃ quota period period', state.suppressed = cpuMax (some quota) period ∧
      state.restore = cpuMax none period' ∧ 1000 ≤ quota ∧ 1000 ≤ period' ∧ period' ≤ 1000000 := by
  obtain ⟨quota, period, suppressed, -, -, large, finite⟩ := canonicalCPUMax_values legacy.suppressed
  obtain ⟨unbounded, period', restore, low, high, -, -⟩ := canonicalCPUMax_values legacy.restore
  cases quota with
  | none => exact absurd (finite rfl) (by decide)
  | some q =>
      cases unbounded with
      | none => exact ⟨q, period, period', suppressed, restore, large q rfl, low, high⟩
      | some q' =>
          -- a number does not begin with the letter of `max`
          have front := legacy.unbounded
          rw [restore] at front
          cases digits : (formatUint q').toList with
          | nil => exact absurd (String.toList_eq_nil_iff.mp digits) (formatUint_ne_empty q')
          | cons c rest =>
              obtain ⟨d, small, rfl⟩ := formatUint_digits q' c (by simp [digits])
              have letter : ∀ d < 10, 'm' ≠ Nat.digitChar d := by decide
              simp [hasPrefix, cpuMax, quotaText, digits, List.isPrefixOf, letter d small] at front

namespace QuotaLift

/-- The guard's last read of `cpu.max` was the recorded value, and it is the live one
unless somebody has written the knob since. -/
def Confirmed (dir : String) (state : PersistedState) (w : World) : Prop :=
  ∃ content, (w.quota dir).read = some content ∧ trimSpace content = state.suppressed ∧
    ((w.quota dir).live = some content ∨ (w.quota dir).moved = true)

/-- The others may do anything; a write of `cpu.max` is noted. -/
structure Others (w w' : World) : Prop where
  seen : w.store.seen ⊆ w'.store.seen
  read : ∀ dir, (w'.quota dir).read = (w.quota dir).read
  moved : ∀ dir, (w'.quota dir).moved = true ∨
    (w'.quota dir).live = (w.quota dir).live ∧ (w'.quota dir).moved = (w.quota dir).moved

/-- Only these Pods are listed. -/
def Lists (listed : Pod → Prop) : (r : Request) → Answer r → Prop
  | .listCache, answer => ∀ pods, answer = (.ok pods : Except GoError (List Pod)) → ∀ p ∈ pods, listed p
  | _, _ => True

theorem lists_all : Lists (fun _ => True) = fun _ _ => True := by
  funext r answer
  cases r <;> simp [Lists]

section

variable [PrintTable] [Qos.ResourceHelper] (cfg : Config) (listed : Pod → Prop)

/-- A write of `restore` to `cpu.max` of `dir` that lifts no limit of the spec. -/
def Lifts (dir value : String) (w : World) : Prop :=
  ∃ pod state, listed pod ∧ pod ∈ w.store.seen ∧ podDir cfg pod = .ok dir ∧ Legacy state ∧
    readMarker (pod.annotationAt Annotations.guardStateKey) = some state ∧
    Qos.hasCPUQuota pod.spec = false ∧ value = state.restore ∧ Confirmed dir state w

def predicates : Predicates where
  Known := listed
  Inv _ := True
  Ours _ _ := True
  InForce _ _ := True
  Looked _ _ := True
  Thawed _ _ := True
  Frozen _ _ := True
  Lift := Confirmed
  Write w dir name value := (name = "cgroup.freeze" ∧ (value = "0" ∨ value = "1")) ∨
    (name = "cpu.max" ∧ Lifts cfg listed dir value w)

variable {cfg listed}

theorem carries {w w' : World} {cleared : List String} (seen : w.store.seen ⊆ w'.store.seen) :
    (predicates cfg listed).Carries cleared w w' :=
  ⟨trivial, seen, fun _ _ => trivial, fun _ _ _ => trivial⟩

/-- **The discipline of lifting.** -/
def discipline (cfg : Config) (listed : Pod → Prop) : Discipline cfg Others where
  toPredicates := predicates cfg listed
  others {w w'} move _ := by
    refine ⟨carries move.seen, fun _ _ => trivial, fun _ _ => trivial, fun _ _ => trivial, ?_⟩
    rintro dir state ⟨content, read, same, live⟩
    refine ⟨content, by rw [move.read dir, read], same, ?_⟩
    rcases move.moved dir with moved | ⟨unchanged, moved⟩
    · exact .inr moved
    · rwa [unchanged, moved]
  listed _ _ _ _ := trivial
  look _ _ := ⟨carries subset_rfl, fun _ => ⟨trivial, trivial⟩⟩
  look_frozen _ _ _ _ _ := trivial
  gone _ _ := trivial
  freeze _ _ _ _ _ := ⟨.inl ⟨rfl, .inr rfl⟩, fun _ => carries subset_rfl⟩
  thaw _ _ _ _ _ := ⟨.inl ⟨rfl, .inl rfl⟩, fun _ => ⟨carries subset_rfl, trivial⟩⟩
  mark _ patches _ _ _ _ := ⟨carries patches.store.put.mono, trivial, trivial⟩
  clear _ patches _ _ _ := carries patches.store.put.mono
  sweep _ patches _ _ := carries patches.store.put.mono
  quota _ _ _ := carries subset_rfl
  lift_read {w dir content state} _ _ same := by
    refine ⟨content, ?_, same, .inl ?_⟩ <;> simp [World.setQuota]
  lift {w p dir state} _ known seen computed legacy marked unlimited confirmed :=
    .inr ⟨rfl, p, state, known, seen, computed, legacy, marked, unlimited, rfl, confirmed⟩

/-- What rests does so whatever is listed next. -/
theorem rests_any {other : Pod → Prop} {owned : Owned} {w : World}
    (rests : (discipline cfg other).Rests owned w) : (discipline cfg listed).Rests owned w :=
  ⟨trivial, by simp, rests.owns, fun _ _ watches => watches.elim⟩

end

end QuotaLift

section

variable [PrintTable] [Qos.ResourceHelper]

/-- A call of the guard on what it holds in memory, and the Pods it is handed. -/
inductive Call (cfg : TickConfig) (w : World) :
    Sampler × Owned → List Pod → Node (Sampler × Owned) → Prop where
  | tick (s : Sampler) (owned : Owned) : Call cfg w (s, owned) [] (tick cfg s owned)
  | converge (s : Sampler) (owned : Owned) (hot : Bool) (pods candidates : List Pod)
      (cached : ∀ p ∈ pods, p ∈ w.store.seen) : Call cfg w (s, owned) pods (do
        let (_, owned) ← converge cfg.toConfig owned hot pods candidates
        return (s, owned))
  | recover (s : Sampler) (owned : Owned) : Call cfg w (s, owned) [] (do
      let (_, owned) ← recover cfg.toConfig cacheLister owned
      return (s, owned))

/-- The process with its sampler: ticks, passes over anything the cache has shown,
`Recover`, restarts. -/
def tickService (cfg : TickConfig) (rely : World → World → Prop) :
    Service nodeSignature World (Sampler × Owned) where
  arena := arena cfg.toConfig rely
  start w memory p := ∃ handed, Call cfg w memory handed p
  boot _ p := p = do
    let (_, owned) ← recover cfg.toConfig cacheLister ∅
    return (Sampler.new, owned)

namespace QuotaLift

variable {cfg : TickConfig} {listed : Pod → Prop}

/-- The guard's world with these lists. -/
abbrev listing (cfg : Config) (listed : Pod → Prop) : Arena nodeSignature World :=
  (arena cfg Others).restrict (Lists listed)

abbrev Rests (cfg : TickConfig) (listed : Pod → Prop) (memory : Sampler × Owned) : World → Prop :=
  (discipline cfg.toConfig listed).Rests memory.2

/-- Sampling changes nothing a discipline holds. -/
theorem sample_keeps {cfg : Config} {rely : World → World → Prop} {D : Discipline cfg rely}
    {pods : List Pod} {watched : String → Prop} {owned : Owned} {restored : List String}
    (allowed : (r : Request) → Answer r → Prop) :
    SampleRule ((arena cfg rely).restrict allowed) D.guarantee (D.Held pods watched owned restored) := by
  have reads : ∀ dir name, name ≠ "cgroup.freeze" → name ≠ "cpu.max" →
      (arena cfg rely).Inert D.guarantee (.readFile dir name) := by
    intro dir name freeze quota
    refine D.inert (fun w answer w' act => ?_) nofun
    by_cases nothing : ∀ content, answer ≠ ReadResult.data content
    · exact act.2 nothing
    · push Not at nothing
      obtain ⟨content, data⟩ := nothing
      exact (act.1 content data).of_other freeze quota
  exact {
    stable := D.held_stable.restrict allowed
    stat := fun dir => (Discipline.inert_stat dir).restrict allowed
    idle := fun dir => ((reads dir _ (by decide) (by decide)).keeps _).restrict allowed
    usage := fun dir => ((reads dir _ (by decide) (by decide)).keeps _).restrict allowed
    cpus := (D.inert (r := .numCPU) (fun _ _ _ act => act) nofun).restrict allowed
    walk := fun keys => (D.inert (r := .rangeKeys keys) (fun _ _ _ act => act) nofun).restrict allowed }

theorem tick_keeps (s : Sampler) (owned : Owned) :
    Holds (listing cfg.toConfig listed) (discipline cfg.toConfig listed).guarantee (Rests cfg listed (s, owned))
      (tick cfg s owned) (Rests cfg listed) := by
  let D := discipline cfg.toConfig listed
  refine tick_holds (A := listing cfg.toConfig listed) (G := D.guarantee) (J := D.Rests)
    (L := fun pods owned w => D.Held pods (fun _ => False) owned [] w)
    { stable := fun owned => D.held_stable.restrict _
      ctx := Discipline.inert_ctx.restrict _
      now := (D.inert (r := .now) (fun _ _ _ act => act) nofun).restrict _
      health := fun healthy =>
        (D.inert (r := .reportHealth healthy) (fun _ _ _ act => act) nofun).restrict _
      list := ?list, sample := fun _ _ => sample_keeps _, passes := ?passes } s owned
  case list =>
    intro owned w rests answer w' act
    obtain ⟨⟨rfl, shown⟩, only⟩ := act
    exact ⟨⟨id, trivial⟩, rests, fun pods found => ⟨rests.inv, fun p member =>
      ⟨shown pods found p member, only pods found p member⟩, rests.owns, fun _ _ watches => watches.elim⟩⟩
  case passes =>
    intro pods owned hot candidates
    exact ((Discipline.converge_keeps (D := D)).pre fun w held =>
      ⟨held.inv, held.listed, held.owns, fun _ _ _ _ _ => trivial⟩).restrict _

theorem recovers (owned : Owned) :
    Holds (listing cfg.toConfig listed) (discipline cfg.toConfig listed).guarantee
      ((discipline cfg.toConfig listed).Rests owned) (recover cfg.toConfig cacheLister owned)
      fun result w => (discipline cfg.toConfig listed).Rests result.2 w := by
  let D := discipline cfg.toConfig listed
  have staged : recover cfg.toConfig cacheLister owned =
      cacheLister >>= fun result => recover cfg.toConfig (pure result) owned := rfl
  rw [staged]
  refine .bind (R := fun result w => D.Rests owned w ∧
    ∀ pods, result = .ok pods → ∀ p ∈ pods, p ∈ w.store.seen ∧ D.Known p) ?_ fun result =>
      (D.recover_keeps (.pure fun w known => known)).restrict _
  refine .request (D.held_stable.restrict _) fun w rests answer w' act => ?_
  obtain ⟨⟨rfl, shown⟩, only⟩ := act
  exact ⟨⟨id, trivial⟩, rests, fun pods found p member =>
    ⟨shown pods found p member, only pods found p member⟩⟩

/-- **Each call** writes what the discipline allows, of the Pods that are listed to it. -/
theorem call_keeps {w : World} {memory : Sampler × Owned} {handed : List Pod} {p : Node (Sampler × Owned)}
    (call : Call cfg w memory handed p) (all : ∀ pod ∈ handed, listed pod) (rests : Rests cfg listed memory w) :
    Safe (listing cfg.toConfig listed) (discipline cfg.toConfig listed).guarantee p (Rests cfg listed) w := by
  cases call with
  | tick s owned => exact tick_keeps s owned w rests
  | converge s owned hot pods candidates cached =>
      have held : (discipline cfg.toConfig listed).Held handed
          (fun uid => hot = true ∧ uid ∈ candidates.map Pod.uid) owned [] w :=
        ⟨rests.inv, fun pod member => ⟨cached pod member, all pod member⟩, rests.owns,
          fun _ _ _ _ _ => trivial⟩
      exact Safe.bind ((((discipline cfg.toConfig listed).converge_keeps w held).restrict _).mono
        fun _ _ held => held)
  | recover s owned => exact Safe.bind ((recovers owned w rests).mono fun _ _ held => held)

theorem preserves : Service.Preserves (tickService cfg Others)
    (discipline cfg.toConfig fun _ => True).guarantee (fun _ => True) (Rests cfg fun _ => True) where
  world _ _ _ _ := trivial
  memory _ := (discipline cfg.toConfig fun _ => True).held_stable
  keeps _ _ _ _ _ _ _ := trivial
  starts := by
    rintro w memory p - rests ⟨handed, call⟩
    have safe := call_keeps call (fun _ _ => trivial) rests
    rwa [listing, lists_all, Arena.restrict_all] at safe
  boots := by
    rintro w p - rfl
    have safe := call_keeps (.recover Sampler.new ∅) (fun _ _ => trivial)
      (Discipline.rests_empty (D := discipline cfg.toConfig fun _ => True) (w := w) trivial)
    rwa [listing, lists_all, Arena.restrict_all] at safe

end QuotaLift

/-- A Pod the call was handed, or has listed. -/
def Listed (handed : List Pod) (events : List (Program.Event nodeSignature)) (pod : Pod) : Prop :=
  pod ∈ handed ∨ ∃ pods,
    (⟨.listCache, (.ok pods : Except GoError (List Pod))⟩ : Program.Event nodeSignature) ∈ events ∧
    pod ∈ pods

open QuotaLift in
/-- **No annotation lifts a CPU limit.** Whatever call a run has come to, and however far it has
come, whatever the annotations hold at any moment: each knob write of the guard freezes or thaws, or
writes a valid legacy record's unbounded `cpu.max` over the record's finite one, on a Pod that
the call works on, whose spec has no CPU quota. A process that starts calls `Recover` with nothing in
memory. No call of the applier writes `cpu.max`. -/
theorem quota_lift (cfg : TickConfig) :
    (∀ {w₀ w₁ w : World} {memory : Sampler × Owned} {handed : List Pod} {p : Node (Sampler × Owned)}
      {events : List (Program.Event nodeSignature)} {dir name value : String}
      {next : WriteResult → Node (Sampler × Owned)},
      Relation.ReflTransGen (tickService cfg Others).Step (.idle (Sampler.new, ∅), w₀) (.idle memory, w₁) →
      Call cfg w₁ memory handed p →
      Underway (arena cfg.toConfig Others) p w₁ events (.ask (.writeFile dir name value) next) w →
      (name = "cgroup.freeze" ∧ (value = "0" ∨ value = "1")) ∨
        (name = "cpu.max" ∧ ∃ pod state, Listed handed events pod ∧ pod ∈ w.store.seen ∧
          podDir cfg.toConfig pod = .ok dir ∧
          readMarker (pod.annotationAt Annotations.guardStateKey) = some state ∧
          state.version = legacyGuardStateVersion ∧ Qos.hasCPUQuota pod.spec = false ∧
          (∃ quota period period', state.suppressed = cpuMax (some quota) period ∧
            value = cpuMax none period' ∧ value = state.restore) ∧
          Confirmed dir state w)) ∧
    (∀ {applier : Apply.Config} {pending : Apply.Pending} {pod : Pod} {reportNotices : Bool} {events p'},
      Program.Path (Apply.apply applier pending pod reportNotices) events p' →
        ∀ event ∈ events, Apply.SparesMax event) ∧
    ∀ {applier : Apply.Config} {pending : Apply.Pending} {pod : Pod} {state : Apply.Snapshot}
      {events p'},
      Program.Path (Apply.revert applier pending pod state) events p' →
        ∀ event ∈ events, Apply.SparesMax event := by
  refine ⟨?guard, Apply.apply_spares_max, Apply.revert_spares_max⟩
  case guard =>
    intro w₀ w₁ w memory handed p events dir name value next run call underway
    have initially : ∀ c, c = (Process.idle (Sampler.new, ∅), w₀) → True ∧ Service.Sound
        (tickService cfg Others) (discipline cfg.toConfig fun _ => True).guarantee
        (Rests cfg fun _ => True) c.1 c.2 := by
      rintro _ rfl
      exact ⟨trivial, Discipline.rests_empty trivial⟩
    have rests : Rests cfg (fun _ => True) memory w₁ :=
      (Service.invariant preserves initially ⟨_, rfl, run⟩).2
    have listed : ∀ pod ∈ handed, Listed handed events pod := fun _ member => .inl member
    have safe := call_keeps call listed (rests_any rests)
    have lists : ∀ event ∈ events, Lists (Listed handed events) event.1 event.2 := by
      rintro ⟨r, answer⟩ member
      cases r with
      | listCache => exact fun pods listed pod among => .inr ⟨pods, listed ▸ member, among⟩
      | _ => trivial
    have rest := (underway.restrict lists).safe
      (fun memory => (discipline cfg.toConfig (Listed handed events)).held_stable.restrict _) safe
    -- an attempt that fails at once shows what holds before the write
    have attempt : World.act cfg.toConfig w (.writeFile dir name value) WriteResult.notExist w :=
      ⟨nofun, fun _ => rfl⟩
    rcases (rest w .refl _ w ⟨attempt, trivial⟩).1.2 with freeze | ⟨max, lifts⟩
    · exact .inl freeze
    · obtain ⟨pod, state, listed, seen, computed, legacy, marked, unlimited, rfl, confirmed⟩ := lifts
      obtain ⟨quota, period, period', suppressed, restore, -⟩ := legacy.values
      exact .inr ⟨max, pod, state, listed, seen, computed, marked, legacy.version, unlimited,
        ⟨quota, period, period', suppressed, restore, rfl⟩, confirmed⟩

end

/-! ## A limit that is lifted -/

section

attribute [local instance] asciiTable Qos.containerRequests

namespace QuotaLift

/-- A record of the first version. -/
def legacyState : PersistedState := ⟨legacyGuardStateVersion, "cpu.max", "max 100000", "50000 100000"⟩

def legacyMarker : OnePod := ⟨some (encode legacyState), [], untouchedPod.freezer⟩

/-- The sample pod with the record; it has no CPU limit, and its directory is limited. -/
def legacyWorld : World :=
  { sampleScene.world legacyMarker with quota := fun _ => ⟨some "50000 100000\n", none, false⟩ }

/-- Only `cpu.max` can be read. -/
def limited : Handler nodeSignature Unit := fun _ r =>
  (match r with
    | .ctxErr => false
    | .readFile _ name => if name = "cpu.max" then .data "50000 100000\n" else .notExist
    | .stat _ => .directory
    | .writeFile _ _ _ => .notExist
    | .getPod _ _ => .notFound
    | .patchPod _ _ _ => .notFound
    | .listCache => .ok []
    | .listNodePods _ => .ok []
    | .getCache _ _ => .notFound
    | .rangeKeys keys => sortedWalk keys
    | .rangeLabels keys => sortedWalk keys
    | .now => (0 : Int)
    | .numCPU => (1 : Int)
    | .gateCheck _ _ => .ready .cgroupfs
    | .flushTable _ => (none : Option OsError)
    | .inc _ => ()
    | .setPodsInTier _ _ _ => ()
    | .deletePodsInTier _ _ => ()
    | .event _ => ()
    | .reportHealth _ => (), ())

/-- Every `cpu.max` stays limited. -/
def Limited (_ : Unit) (w : World) : Prop := ∀ dir, (w.quota dir).live = some "50000 100000\n"

theorem limited_act (w : World) (r : Request) (limits : Limited () w) :
    ∃ w', World.act sampleScene.cfg w r (limited () r).1 w' ∧ Limited () w' := by
  cases r with
  | readFile dir name =>
      by_cases quota : name = "cpu.max"
      · subst quota
        refine ⟨w.setQuota dir ⟨some "50000 100000\n", some "50000 100000\n", false⟩,
          ⟨fun content same => ?_, fun no => absurd rfl (no "50000 100000\n")⟩, ?_⟩
        · exact ReadResult.data.inj same ▸ .quota (limits dir)
        · intro d
          by_cases here : d = dir
          · simp [World.setQuota, here]
          · simpa [World.setQuota, Function.update_of_ne here] using limits d
      · exact ⟨w, by simp [World.act, limited, quota], limits⟩
  | stat dir => exact ⟨w, ⟨rfl, nofun⟩, limits⟩
  | writeFile dir name value => exact ⟨w, ⟨nofun, fun _ => rfl⟩, limits⟩
  | getPod ns name => exact ⟨w, by simp [World.act, limited], limits⟩
  | patchPod ns name patch => exact ⟨w, by simp [World.act, limited], limits⟩
  | listCache =>
      refine ⟨w, ⟨rfl, fun pods listed p member => ?_⟩, limits⟩
      obtain rfl := Except.ok.inj listed
      simp at member
  | _ => exact ⟨w, rfl, limits⟩

/-- A cool pass over the pod. -/
def lifting : Node (Sampler × Owned) := do
  let (_, owned) ← converge sampleScene.cfg ∅ false [sampleScene.latest legacyMarker] []
  return (Sampler.new, owned)

def isWrite : Request → Bool
  | .writeFile _ _ _ => true
  | _ => false

end QuotaLift

open QuotaLift in
/-- The pass is about to lift the limit, and may. -/
theorem quota_lift_legacy : ∃ events next w,
    Underway (arena sampleScene.cfg Others) lifting legacyWorld events
      (.ask (.writeFile sampleScene.dir "cpu.max" "max 100000") next) w ∧
    ∃ pod state, Listed [sampleScene.latest legacyMarker] events pod ∧ Qos.hasCPUQuota pod.spec = false ∧
      Confirmed sampleScene.dir state w := by
  obtain ⟨events, w, underway, -⟩ := Underway.of_pause (A := arena sampleScene.cfg Others) (h := limited)
    isWrite (R := Limited) (fun _ w r limits => limited_act w r limits) (s := ())
    (fun _ => rfl : Limited () legacyWorld) (Underway.begins (p := lifting))
  have pending : (lifting.pause limited isWrite ()).1.pending =
      some (.writeFile sampleScene.dir "cpu.max" "max 100000") := by decide +kernel
  obtain ⟨next, writes⟩ := Program.of_pending pending
  rw [writes] at underway
  have cached : ∀ p ∈ [sampleScene.latest legacyMarker], p ∈ legacyWorld.store.seen := by
    intro p member
    rw [List.mem_singleton.mp member]
    exact ⟨_, _, List.suffix_rfl, rfl⟩
  let cfg : TickConfig := ⟨sampleScene.cfg, 0.9, 0.7⟩
  have started : Relation.ReflTransGen (tickService cfg Others).Step (.idle (Sampler.new, ∅), legacyWorld)
    (.idle (Sampler.new, ∅), legacyWorld) := .refl
  have lifts := (quota_lift cfg).1 started (.converge Sampler.new ∅ false _ [] cached) underway
  obtain ⟨-, pod, state, listed, -, -, -, -, unlimited, -, confirmed⟩ := lifts.resolve_left (by decide)
  exact ⟨events, next, w, underway, pod, state, listed, unlimited, confirmed⟩

end

end CpuIdle.Guard
