/-
# Agent.Convergence — a pass that returns nil has left its pod where it asks to be

The world of one pod: the cgroups under the kernel's rules, the exported gauge, and whether a
`WriteRejected` Event was published. Reads, writes and the listing fail as they like. Nobody else
writes the pod's CPU knobs, but its freezer may move and its directory may go at any time.

* `Leads` — the writes still to do end in a goal, whatever the kernel makes of those it takes;
* `planFor_leads` — a plan leads to what the pod asks for;
* `Rests` — what the Reconciler holds about a pod with nothing left to do;
* `reconcile_rests`, `reconcile_converges` — so ends every pass without an error and without a
  refused write.
-/
import CpuIdle.Agent.Bookkeeping
import CpuIdle.Agent.Reported
import CpuIdle.Agent.Route
import CpuIdle.Kernel.Execution
import CpuIdle.Kernel.Files

namespace CpuIdle.Agent

open CpuIdle.Go CpuIdle.Kube CpuIdle.Node CpuIdle.Theory CpuIdle.Apply CpuIdle.Observe

set_option autoImplicit false

namespace Convergence

structure World where
  cgroups : String → Option Kernel.Cgroup
  gauge : Gauge
  /-- A `WriteRejected` Event was published. -/
  refused : Bool

/-! ## The transitions -/

/-- A write that was taken. -/
inductive Writes (w : World) (dir name value : String) : World → Prop where
  | taken {c c' : Kernel.Cgroup} (shows : w.cgroups dir = some c) (takes : c.Takes name value c') :
      Writes w dir name value { w with cgroups := Function.update w.cgroups dir (some c') }

/-- The cache shows `pod` under its name and in every listing; what else it shows is consistent. -/
def act (home : Books.Home) (pod : Pod) (w : World) : (r : Request) → Answer r → World → Prop
  | .readFile dir name, answer, w' => w' = w ∧
      ∀ content, answer = ReadResult.data content →
        ∃ c, w.cgroups dir = some c ∧ c.content name = some content
  | .stat dir, answer, w' => w' = w ∧ (answer = StatResult.notExist → w.cgroups dir = none)
  | .writeFile dir name value, answer, w' =>
      (answer = WriteResult.written → Writes w dir name value w') ∧
        (answer ≠ WriteResult.written → w' = w)
  | .getCache ns name, answer, w' => w' = w ∧
      (∀ p, answer = GetResult.found p → p.ns = ns ∧ p.name = name ∧ Books.AtHome home p) ∧
        (ns = pod.ns → name = pod.name → answer ≠ GetResult.notFound ∧
          ∀ p, answer = GetResult.found p → p = pod)
  | .listCache, answer, w' => w' = w ∧
      ∀ pods, answer = (.ok pods : Except GoError (List Pod)) →
        pod ∈ pods ∧ (∀ p ∈ pods, Books.AtHome home p) ∧ (pods.map metaNamespaceKey).Nodup
  | .setPodsInTier _ label count, _, w' =>
      w' = { w with gauge := Function.update w.gauge label (some count) }
  | .deletePodsInTier _ label, _, w' => w' = { w with gauge := Function.update w.gauge label none }
  | .event e, _, w' => w' = { w with refused := w.refused || e.reason = "WriteRejected" }
  | _, _, w' => w' = w

/-- The others leave what a snapshot of `dir` shows, as long as the directory is there. -/
structure Others (dir : String) (w w' : World) : Prop where
  cgroup : ∀ c', w'.cgroups dir = some c' → ∃ c, w.cgroups dir = some c ∧ c'.snapshot = c.snapshot
  gauge : w'.gauge = w.gauge
  refused : w'.refused = w.refused

def arena (home : Books.Home) (pod : Pod) (dir : String) : Arena nodeSignature World :=
  { act := act home pod, rely := Others dir }

abbrev anything : Guarantee nodeSignature World := fun _ _ _ _ => True

/-! ## What is known of the directory -/

/-- The directory shows this snapshot, or it is gone. -/
def Shows (dir : String) (s : Snapshot) (w : World) : Prop :=
  ∀ c, w.cgroups dir = some c → c.snapshot = s

section

variable {home : Books.Home} {pod : Pod} {dir : String} {s : Snapshot} {w w' : World}
  {G : Guarantee nodeSignature World}

theorem Others.shows (move : Others dir w w') (shows : Shows dir s w) : Shows dir s w' := by
  intro c' present
  obtain ⟨c, before, same⟩ := move.cgroup c' present
  exact same.trans (shows c before)

theorem Others.gone (move : Others dir w w') (gone : w.cgroups dir = none) : w'.cgroups dir = none := by
  refine Option.eq_none_iff_forall_ne_some.mpr fun c' present => ?_
  obtain ⟨c, before, -⟩ := move.cgroup c' present
  rw [gone] at before
  cases before

theorem exists_shows (dir : String) (w : World) : ∃ s, Shows dir s w := by
  cases present : w.cgroups dir with
  | none => exact ⟨.zero, fun c shown => by simp [present] at shown⟩
  | some c => exact ⟨c.snapshot, fun c' shown => by rw [Option.some.inj (present.symm.trans shown)]⟩

theorem inert {r : Request} (still : ∀ w answer, G w r answer w)
    (unmoved : ∀ w answer w', act home pod w r answer w' → w' = w) :
    (arena home pod dir).Inert G r := by
  intro w answer w' answered
  obtain rfl := unmoved w answer w' answered
  exact ⟨rfl, still _ answer⟩

theorem files (read : ∀ dir name w answer, G w (.readFile dir name) answer w)
    (stat : ∀ dir w answer, G w (.stat dir) answer w) :
    Kernel.Files (arena home pod dir) G World.cgroups where
  read_inert dir name := inert (read dir name) fun _ _ _ answered => answered.1
  stat_inert dir := inert (stat dir) fun _ _ _ answered => answered.1
  read_data w dir name content w' answered := by
    obtain ⟨rfl, shown⟩ := answered
    exact shown content rfl
  stat_gone _ _ _ answered := answered.2 rfl

/-- The gauge of this world is the world of the books. -/
theorem shows_books : (arena home pod dir).Shows (Books.arena home) World.gauge where
  act w r answer w' answered := by
    cases r with
    | getCache ns name => exact ⟨congrArg World.gauge answered.1, answered.2.1⟩
    | listCache => exact ⟨congrArg World.gauge answered.1, fun pods listed => (answered.2 pods listed).2⟩
    | setPodsInTier node label count => exact congrArg World.gauge answered
    | deletePodsInTier node label => exact congrArg World.gauge answered
    | readFile dir name => exact congrArg World.gauge answered.1
    | stat dir => exact congrArg World.gauge answered.1
    | writeFile dir name value =>
        by_cases written : answer = WriteResult.written
        · obtain ⟨shows, takes⟩ := answered.1 written
          rfl
        · exact congrArg World.gauge (answered.2 written)
    | event e =>
        have told : w' = { w with refused := w.refused || e.reason = "WriteRejected" } := answered
        show w'.gauge = w.gauge
        rw [told]
    | _ => exact congrArg World.gauge answered
  rely w w' move := by rw [move.gauge]

/-- Counters and Events leave the cgroups and the gauge. -/
theorem silent {P : World → Prop} (stable : (arena home pod dir).Stable P)
    (told : ∀ w refused, P w → P { w with refused := w.refused || refused }) :
    Silent (arena home pod dir) anything P where
  stable := stable
  inc _ _ holds _ _ answered := ⟨trivial, answered ▸ holds⟩
  event _ w holds _ _ answered := ⟨trivial, answered ▸ told w _ holds⟩

end

/-! ## The writes still to do -/

/-- However the kernel takes the writes, they end in the goal. -/
def Leads (uid : String) (goal : Snapshot → Pending → Prop) : List Write → Snapshot → Pending → Prop
  | [], s, pending => goal s pending
  | write :: rest, s, pending => ∀ c c' : Kernel.Cgroup, c.snapshot = s →
      c.Takes write.knob write.value c' →
        Leads uid goal rest c'.snapshot (recordCompletedWrite pending uid write)

section

variable {uid : String} {goal : Snapshot → Pending → Prop} {s : Snapshot} {pending : Pending}

theorem leads_burstWrites {target : Nat} (below : target = s.quota.getD 0 ∨ target = 0) (on : Bool)
    {rest : List Write}
    (later : Leads uid goal rest { s with burst := if decide (target > 0) = on then target else s.burst }
      pending) : Leads uid goal (Kernel.burstWrites target s.burst on ++ rest) s pending := by
  unfold Kernel.burstWrites
  by_cases same : target = s.burst
  · simpa [same] using later
  by_cases side : decide (target > 0) = on
  · rw [if_neg (by simp [same, side])]
    rw [if_pos side] at later
    rintro c c' rfl takes
    have fits : target ≤ maxUint64 := by
      rcases below with rfl | rfl
      · cases quota : c.quota with
        | none => simp [Kernel.Cgroup.snapshot, quota]
        | some q => simpa [Kernel.Cgroup.snapshot, quota] using (c.quota_range q quota).2
      · exact Nat.zero_le _
    rw [takes.of_maxBurst fits]
    exact later
  · rw [if_pos (.inr side)]
    rwa [if_neg side] at later

/-- What the idle part does to the weight and to the journal. -/
theorem leads_idleWrites {weight : Nat} (range : 1 ≤ weight ∧ weight ≤ 10000) (requested : Bool)
    {rest : List Write}
    (later : ∀ w pending',
      (requested = false → s.idleActive = true → w = weight ∧ uid ∉ pending') →
      (requested = false → s.idleActive = false → w = s.weight ∧ pending' = pending) →
        Leads uid goal rest { s with idleActive := requested, weight := w } pending') :
    Leads uid goal (Kernel.idleWrites requested s.idleActive weight ++ rest) s pending := by
  have top : maxUint64 = 18446744073709551615 := rfl
  have stays : requested = s.idleActive → Leads uid goal rest s pending := by
    rintro rfl
    exact later s.weight pending (fun off on => by simp [off] at on) fun _ _ => ⟨rfl, rfl⟩
  cases requested with
  | false =>
      cases active : s.idleActive with
      | false => exact stays active.symm
      | true =>
          rintro c c' rfl off
          rintro c₁ c₂ reset restored
          have restore : c₂.snapshot = { c.snapshot with idleActive := false, weight } := by
            rw [restored.of_weight (by omega), reset, off.of_idleOff active]
          rw [restore]
          refine later weight _ (fun _ _ => ⟨rfl, ?_⟩) fun _ inactive => by simp [active] at inactive
          simp [recordCompletedWrite, knobCPUWeight, knobCPUIdle]
  | true =>
      cases active : s.idleActive with
      | true => exact stays active.symm
      | false =>
          rintro c c' rfl on
          obtain ⟨weight', after⟩ := on.of_idleOn
          rw [after]
          exact later weight' _ (by simp) (by simp)

/-- **A plan leads to its target**, on a cgroup it was built from. -/
theorem buildPlan_leads {desired : Tier.State} {weight : Nat} (range : 1 ≤ weight ∧ weight ≤ 10000)
    (ends : ∀ w pending',
      (desired.idleRequested = false → s.idleActive = true → w = weight ∧ uid ∉ pending') →
      (desired.idleRequested = false → s.idleActive = false → w = s.weight ∧ pending' = pending) →
        goal { s with
          idleActive := desired.idleRequested
          weight := w
          burst := burstTarget desired s } pending') :
    Leads uid goal (buildPlan desired s weight) s pending := by
  have below : burstTarget desired s = s.quota.getD 0 ∨ burstTarget desired s = 0 := by
    unfold burstTarget
    split
    · exact .inl rfl
    · exact .inr rfl
  rw [Kernel.buildPlan_parts, List.append_assoc]
  refine leads_burstWrites below true ?_
  refine leads_idleWrites (s := { s with
    burst := if decide (burstTarget desired s > 0) = true then burstTarget desired s else s.burst })
    range desired.idleRequested fun w pending' turned kept => ?_
  have ended := ends w pending' turned kept
  by_cases on : 0 < burstTarget desired s
  · simpa [Kernel.burstWrites, on, Leads] using ended
  · have zero : burstTarget desired s = 0 := by omega
    have last : Leads uid goal (Kernel.burstWrites (burstTarget desired s) s.burst false ++ [])
        { s with idleActive := desired.idleRequested, weight := w } pending' :=
      leads_burstWrites (s := { s with idleActive := desired.idleRequested, weight := w }) below false
        (by simpa [zero, Leads] using ended)
    rw [List.append_nil] at last
    simpa [on] using last

end

/-! ## What the pod asks for -/

section

variable [PrintTable] [Qos.ResourceHelper]

/-- Where a cgroup that showed `s₀` is to end. `owed` says that a weight restore was outstanding. -/
structure Goal (pod : Pod) (s₀ : Snapshot) (owed : Prop) (s : Snapshot) (pending : Pending) : Prop where
  idle : s.idleActive = (Tier.desired pod).1.idleRequested
  burst : s.burst = burstTarget (Tier.desired pod).1 s₀
  quota : s.quota = s₀.quota
  restored : s.idleActive = false → s₀.idleActive = true ∨ owed → s.weight = Qos.restoreWeight pod.spec
  untouched : s.idleActive = false → ¬(s₀.idleActive = true ∨ owed) → s.weight = s₀.weight
  settled : s.idleActive = false → pod.uid ∉ pending

/-- **The applier's plan leads there**, on either route. -/
theorem planFor_leads {pod : Pod} {desired : Tier.State} (s₀ : Snapshot) (pending : Pending)
    (idle : desired.idleRequested = (Tier.desired pod).1.idleRequested)
    (burst : desired.burstActive = (Tier.desired pod).1.burstActive) :
    Leads pod.uid (Goal pod s₀ (pod.uid ∈ pending)) (planFor pending pod desired s₀).1 s₀
      (planFor pending pod desired s₀).2 := by
  have range := Qos.restoreWeight_range pod.spec
  have target : burstTarget desired s₀ = burstTarget (Tier.desired pod).1 s₀ := by
    unfold burstTarget
    rw [burst]
  unfold planFor needsWeightRepair
  by_cases active : s₀.idleActive = true
  · rw [if_pos active]
    refine buildPlan_leads range fun w pending' turned _ => ?_
    exact {
      idle, burst := target, quota := rfl
      restored := fun off _ => (turned off active).1
      untouched := fun _ never => absurd (.inl active) never
      settled := fun off => (turned off active).2 }
  have inactive : s₀.idleActive = false := by simpa using active
  rw [if_neg active]
  by_cases journaled : pod.uid ∈ pending
  · rw [if_neg (not_not.mpr journaled)]
    by_cases right : s₀.weight = Qos.restoreWeight pod.spec
    · rw [if_pos right]
      refine buildPlan_leads range fun w pending' _ kept => ?_
      exact {
        idle, burst := target, quota := rfl
        restored := fun off _ => (kept off inactive).1.trans right
        untouched := fun _ never => absurd (.inr journaled) never
        settled := fun off => by simp [(kept off inactive).2] }
    · rw [if_neg right]
      rintro c c' rfl takes
      have top : maxUint64 = 18446744073709551615 := rfl
      rw [takes.of_weight (by omega)]
      refine buildPlan_leads (s := { c.snapshot with weight := Qos.restoreWeight pod.spec }) range
        fun w pending' _ kept => ?_
      exact {
        idle, burst := target, quota := rfl
        restored := fun off _ => (kept off inactive).1
        untouched := fun _ never => absurd (.inr journaled) never
        settled := fun off => by
          rw [(kept off inactive).2]
          simp [recordCompletedWrite, knobCPUWeight, knobCPUIdle] }
  · rw [if_pos journaled]
    refine buildPlan_leads range fun w pending' _ kept => ?_
    exact {
      idle, burst := target, quota := rfl
      restored := fun _ due => (due.elim active journaled).elim
      untouched := fun off _ => (kept off inactive).1
      settled := fun off => by rwa [(kept off inactive).2] }

end

/-! ## The applier's calls -/

section

variable [PrintTable] {home : Books.Home} {pod : Pod} {dir : String}
  {goal : Snapshot → Pending → Prop}

/-- The writes still to do lead the directory to the goal, if it is there. -/
def Leading (uid dir : String) (goal : Snapshot → Pending → Prop) (writes : List Write) (pending : Pending)
    (w : World) : Prop :=
  ∀ c, w.cgroups dir = some c → Leads uid goal writes c.snapshot pending

/-- A nil result without a refused write is at the goal. -/
def Reached (dir : String) (goal : Snapshot → Pending → Prop) (result : Option GoError × Pending)
    (w : World) : Prop :=
  result.1 = none → w.refused = false → ∀ c, w.cgroups dir = some c → goal c.snapshot result.2

omit [PrintTable] in
theorem Leading.stable {writes : List Write} {pending : Pending} :
    (arena home pod dir).Stable (Leading pod.uid dir goal writes pending) := by
  intro w w' move leading c' present
  obtain ⟨c, before, same⟩ := move.cgroup c' present
  rw [same]
  exact leading c before

omit [PrintTable] in
theorem Leading.silent (writes : List Write) (pending : Pending) :
    Silent (arena home pod dir) anything (Leading pod.uid dir goal writes pending) :=
  Convergence.silent Leading.stable fun _ _ leading => leading

omit [PrintTable] in
/-- A refused write is published. -/
theorem rejected_refuses {P : World → Prop} (steady : (arena home pod dir).Stable P) (node : String)
    (knob result reason : String) :
    Holds (arena home pod dir) anything P (rejected node pod knob result reason)
      fun _ w => w.refused = true := by
  refine .bind (.keeps steady fun w holds _ _ answered => ⟨trivial, answered ▸ holds⟩) fun _ => ?_
  refine .request steady fun w _ _ w' answered => ⟨trivial, ?_⟩
  have told : w' = { w with refused := w.refused || decide ("WriteRejected" = "WriteRejected") } := answered
  simp [told]

theorem loop {cfg : Config} {context : String} {success : Write → Node Unit} {onEinval : Node Unit}
    (successful : ∀ write writes pending, Holds (arena home pod dir) anything
      (Leading pod.uid dir goal writes pending) (success write)
      fun _ w => Leading pod.uid dir goal writes pending w)
    (einval : Holds (arena home pod dir) anything (fun w => w.refused = true) onEinval
      fun _ w => w.refused = true) (pending : Pending) (writes : List Write) :
    Holds (arena home pod dir) anything (Leading pod.uid dir goal writes pending)
      (runPlan cfg context pod dir success onEinval pending writes)
      (loopResult (Leading pod.uid dir goal) (Reached dir goal)) := by
  refine runPlan_steps (C := Leading pod.uid dir goal)
    (D := fun write rest pending => Leading pod.uid dir goal rest
      (recordCompletedWrite pending pod.uid write))
    (F := fun err writes pending w => Leading pod.uid dir goal writes pending w ∧
      (err.is .cgroupGone = true → w.cgroups dir = none))
    (E := fun _ _ _ w => w.refused = true) {
      check := fun write rest pending => ?_
      write := fun write rest pending => ?_
      traced := fun write rest pending => successful write rest _
      gone := fun err write rest pending w isGone known _ _ c present => ?_
      refused := fun err write rest pending _ => ?_
      einval := fun err write rest pending _ _ => einval.post fun _ w refused _ live => ?_
      failed := fun err err' write rest pending w _ _ isNone => by simp at isNone
      completed := fun pending w leading => leading } pending writes
  · refine (Holds.keeps Leading.stable ((inert (fun _ _ => trivial) (r := .ctxErr)
      fun _ _ _ answered => answered).keeps _)).post fun cancelled w leading => ?_
    split
    · intro isNone
      simp at isNone
    · exact leading
  · refine Cgroup.writeKnob_holds Leading.stable (inert (fun _ _ => trivial) (r := .stat dir)
      fun _ _ _ answered => answered.1) (fun w leading w' answered => ⟨trivial, ?_⟩)
      (fun w leading answer w' answered failed => ⟨trivial, answered.2 failed ▸ leading⟩)
      fun w err leading isGone => ⟨leading, fun isErr => (isGone isErr).2 rfl⟩
    obtain ⟨shows, takes⟩ := answered.1 rfl
    intro c' present
    simp only [Function.update_self, Option.some.injEq] at present
    subst present
    exact leading _ shows _ _ rfl takes
  · rw [known.2 isGone] at present
    cases present
  · exact rejected_refuses (fun w w' move known => ⟨Leading.stable w w' move known.1, fun isGone =>
      move.gone (known.2 isGone)⟩) cfg.node _ _ _
  · rw [show w.refused = true from refused] at live
    cases live

variable [Qos.ResourceHelper]

/-- The pod's own directory. -/
abbrev Own (cfg : Config) (pod : Pod) (dir : String) : Prop :=
  cfg.layout.podDir (Qos.toCgroupClass (Qos.classOf pod.spec)) pod.uid = .ok dir

omit [Qos.ResourceHelper] in
theorem readSnapshot_told {P : World → Prop} (stable : (arena home pod dir).Stable P) {s : Snapshot}
    (steady : ∀ w, P w → Shows dir s w) :
    Holds (arena home pod dir) anything P (readSnapshot dir) fun result w =>
      P w ∧ Kernel.Told World.cgroups dir s w result :=
  (files (fun _ _ _ _ => trivial) fun _ _ _ => trivial).readSnapshot_steady stable steady

/-- `Apply` on a directory that showed `s₀`. -/
theorem apply_reaches {cfg : Config} (own : Own cfg pod dir) (pending : Pending) (report : Bool)
    (s₀ : Snapshot) :
    Holds (arena home pod dir) anything (Shows dir s₀) (Apply.apply cfg pending pod report)
      (Reached dir (Goal pod s₀ (pod.uid ∈ pending))) := by
  have stable : (arena home pod dir).Stable (Shows dir s₀) := fun _ _ move => move.shows
  have fails : ∀ (err : GoError) (pending' : Pending) (w : World),
      Reached dir (Goal pod s₀ (pod.uid ∈ pending)) (some err, pending') w := by
    intro err pending' w isNone
    simp at isNone
  refine apply_around (J := fun _ => Leading pod.uid dir (Goal pod s₀ (pod.uid ∈ pending))) stable
    (inert (fun _ _ => trivial) (r := .ctxErr) fun _ _ _ answered => answered)
    (fun err w _ => fails err _ w) (fun dir' computed => ?_) (fun dir' s computed => ?_)
    (fun _ _ _ _ => Leading.stable) (fun s pending' => ?_) fun s pending' err w _ => fails err _ w
  · obtain rfl : dir = dir' := Except.ok.inj (own.symm.trans computed)
    refine (readSnapshot_told stable fun _ shows => shows).post fun result w known => ?_
    obtain ⟨shows, told⟩ := known
    cases result with
    | error err =>
        refine ⟨fun isGone _ _ c present => ?_, fun err' => fails err' _ w⟩
        rw [told isGone] at present
        cases present
    | ok s =>
        obtain ⟨rfl, -⟩ := told
        intro c present
        rw [shows c present]
        exact planFor_leads _ pending rfl rfl
  · obtain rfl : dir = dir' := Except.ok.inj (own.symm.trans computed)
    refine loop (fun write writes pending' => reportSuccess_holds (Leading.silent writes pending') cfg pod
      write) (noticesOf_holds (Convergence.silent (fun w w' move refused => ?_) fun w _ refused => ?_) cfg pod
        report s)
    · exact move.refused.trans refused
    · simp [show w.refused = true from refused]
  · exact (noticesOf_holds (Leading.silent [] pending') cfg pod report s).post
      fun _ w leading _ _ c present => leading c present

/-- `Revert` of a pod that asks for nothing. -/
theorem revert_reaches {cfg : Config} (own : Own cfg pod dir) (pending : Pending) (s₀ : Snapshot)
    (idle : (Tier.desired pod).1.idleRequested = false) (burst : (Tier.desired pod).1.burstActive = false) :
    Holds (arena home pod dir) anything (Shows dir s₀) (Apply.revert cfg pending pod s₀)
      (Reached dir (Goal pod s₀ (pod.uid ∈ pending))) := by
  refine revert_around (J := Leading pod.uid dir (Goal pod s₀ (pod.uid ∈ pending)))
    (fun _ _ move => move.shows)
    (inert (fun _ _ => trivial) (r := .ctxErr) fun _ _ _ answered => answered)
    (fun err w _ isNone => by simp at isNone) (fun w shows c present => ?_) (fun dir' computed => ?_)
    fun pending' w leading _ _ c present => leading c present
  · rw [shows c present]
    exact planFor_leads s₀ pending idle.symm burst.symm
  · obtain rfl : dir = dir' := Except.ok.inj (own.symm.trans computed)
    exact loop (fun write writes pending' => (Leading.silent writes pending').record _ _ _ _ _ _ _)
      (.pure fun w refused => refused)

end

/-! ## The bookkeeper -/

/-- Two states that remember the same of a pod's notes and journal. -/
structure Alike (uid : String) (state state' : State) : Prop where
  notes : state'.lastNotes.lookup uid = state.lastNotes.lookup uid
  journal : uid ∈ state'.pending ↔ uid ∈ state.pending
  initialized : state'.metricsInitialized = state.metricsInitialized

theorem Alike.refl (uid : String) (state : State) : Alike uid state state := ⟨rfl, Iff.rfl, rfl⟩

theorem removePod_alike (node : String) (state : State) (uid : String) {other : String} :
    (removePod node state other).Returns (Alike uid state) := by
  unfold removePod
  cases state.podMemberships.lookup other with
  | none => exact .refl _ _
  | some membership => exact .after fun counts => ⟨rfl, Iff.rfl, rfl⟩

theorem observePodIdentity_alike (node : String) (state : State) (key uid : String) :
    (observePodIdentity node state key uid).Returns fun state' =>
      Alike uid state state' ∧ state'.podUIDByKey.lookup key = some uid := by
  have dropped : (dropReplaced node state key uid).Returns (Alike uid state) := by
    unfold dropReplaced
    cases state.podUIDByKey.lookup key with
    | none => exact .refl _ _
    | some previous =>
        refine .ite (fun other => ?_) fun _ => .refl _ _
        refine (removePod_alike node (state.forgetApplierPodState previous) uid).bind fun state' alike => ?_
        exact {
          notes := (Finmap.lookup_erase_ne (Ne.symm other)).trans alike.notes
          journal := alike.journal.trans (by
            simp [State.forgetApplierPodState, Ne.symm other])
          initialized := alike.initialized }
  exact dropped.bind fun state' alike => ⟨⟨alike.notes, alike.journal, alike.initialized⟩,
    Finmap.lookup_insert _⟩

/-- The pod is on the books under `key`, with the tiers of this snapshot. -/
structure Entered (key : String) (pod : Pod) (s : Snapshot) (state : State) : Prop where
  tracked : state.podUIDByKey.lookup key = some pod.uid
  member : state.podMemberships.lookup pod.uid = some ⟨key, tiersOf pod s⟩

theorem setPodActual_enters (node : String) (state : State) (key : String) (pod : Pod) (s : Snapshot) :
    (setPodActual node state key pod s).Returns fun state' =>
      Alike pod.uid state state' ∧ Entered key pod s state' :=
  (observePodIdentity_alike node state key pod.uid).bind fun _ known => .after fun _ =>
    ⟨⟨known.1.notes, known.1.journal, known.1.initialized⟩, Finmap.lookup_insert _, Finmap.lookup_insert _⟩

section

variable {home : Books.Home} {pod : Pod} {dir : String}

/-- The bookkeeper moves nothing but the gauge. -/
theorem keeping_holds {α : Type} {p : Node α} {P : World → Prop} {E : α → Prop} (asks : p.Asks Keeping)
    (returns : p.Returns E) (stable : (arena home pod dir).Stable P)
    (regauged : ∀ w gauge, P w → P { w with gauge }) :
    Holds (arena home pod dir) anything P p fun a w => P w ∧ E a := by
  intro w holds
  have meets : Safe (arena home pod dir) (fun w _ _ w' => ∃ gauge, w' = { w with gauge }) p
      (fun _ _ => True) w := by
    refine Safe.asks asks fun w r answer w' keeps answered => ?_
    cases r with
    | setPodsInTier node label count => exact ⟨_, answered⟩
    | deletePodsInTier node label => exact ⟨_, answered⟩
    | rangeKeys keys => exact ⟨w.gauge, answered⟩
    | rangeLabels labels => exact ⟨w.gauge, answered⟩
    | _ => exact keeps.elim
  have along := meets.along stable (fun w _ _ w' moved holds => by
    obtain ⟨gauge, rfl⟩ := moved
    exact regauged w gauge holds) holds
  exact ((along.returns returns).mono fun a w known => ⟨known.1.2, known.2⟩).weaken
    fun _ _ _ _ _ => trivial

end

/-! ## The first scan -/

section

variable [PrintTable] {home : Books.Home} {pod : Pod} {dir : String} {s : Snapshot}

/-- The pod is still to be scanned, or was seen. -/
def Listed (pod : Pod) (pods : List Pod) (acc : Refresh) : Prop :=
  pod ∈ pods ∨ pod.uid ∈ acc.currentPodUIDs

theorem ensureInitialized_shows {cfg : Config} (real : isMirrorPod pod = false) (state : State) :
    Holds (arena home pod dir) anything (Shows dir s) (ensureInitialized cfg state) fun state' w =>
      (pod.uid ∈ state'.pending ↔ pod.uid ∈ state.pending) ∧ Shows dir s w := by
  have steady : ∀ φ : Prop, (arena home pod dir).Stable fun w => φ ∧ Shows dir s w :=
    fun φ w w' move known => ⟨known.1, move.shows known.2⟩
  have quiet : ∀ (P : World → Prop) (r : Request),
      (∀ w answer w', act home pod w r answer w' → w' = w) →
        (arena home pod dir).Keeps anything P r := fun P r unmoved =>
    (inert (fun _ _ => trivial) unmoved).keeps P
  unfold ensureInitialized
  refine .ite (fun _ => .pure fun w shows => ⟨Iff.rfl, shows⟩) fun _ => ?_
  have scanned : Holds (arena home pod dir) anything (Shows dir s) (refreshPodsInTier cfg state)
      fun result w => (pod.uid ∈ result.2.pending ↔ pod.uid ∈ state.pending) ∧ Shows dir s w := by
    refine refreshPodsInTier_holds (fun _ => none)
      (K := fun pods acc _ w => Listed pod pods acc ∧ Shows dir s w) (fun _ _ move => move.shows)
      (fun keys => inert (fun _ _ => trivial) (r := .rangeKeys keys) fun _ _ _ answered => answered)
      (fun w shows answer w' answered => ?_) (fun q rest acc => ?_) (fun acc => ?_) fun acc w known => ?_
    · obtain ⟨rfl, listing⟩ := answered
      exact ⟨trivial, fun _ _ _ => ⟨Iff.rfl, shows⟩, fun pods listed =>
        ⟨.inl (listing pods listed).1, shows⟩⟩
    · refine refreshPod_holds (R := fun _ w => Listed pod (q :: rest) acc ∧ Shows dir s w)
        (fun mirror w known => ⟨?_, known.2⟩) (fun _ _ w known => known) (fun _ d _ => ?_)
        fun _ tiers errs w known => ⟨?_, known.2⟩
      · rcases known.1 with member | seen
        · rcases List.mem_cons.mp member with rfl | member
          · rw [real] at mirror
            cases mirror
          · exact .inl member
        · exact .inr seen
      · refine (readSnapshot_keeps (steady _) (quiet _ (.stat d) fun _ _ _ answered => answered.1)
          fun name => quiet _ (.readFile d name) fun _ _ _ answered => answered.1).post
            fun result w known => ?_
        cases result with
        | ok snapshot => exact known
        | error err =>
            dsimp only
            split
            · exact known
            · exact known
      · rcases known.1 with member | seen
        · rcases List.mem_cons.mp member with rfl | member
          · exact .inr (by simp [Refresh.take])
          · exact .inl member
        · exact .inr (by simp [Refresh.take, seen])
    · exact {
        stable := fun _ => steady _
        walk := fun labels => inert (fun _ _ => trivial) (r := .rangeLabels labels)
          fun _ _ _ answered => answered
        set := fun _ w known _ _ _ _ w' answered => ⟨trivial, answered ▸ known⟩
        delete := fun _ w known _ _ _ w' answered => ⟨trivial, answered ▸ known⟩ }
    · refine ⟨?_, known.2⟩
      have seen : pod.uid ∈ acc.currentPodUIDs := known.1.resolve_left (by simp)
      rw [State.rescanned, mem_forgetGone, and_iff_left fun _ => seen]
  exact .bind scanned fun result => .pure fun w known => known

end

/-! ## Up to the snapshot -/

section

variable [PrintTable] [Qos.ResourceHelper] {home : Books.Home} {pod : Pod} {dir key : String} {s : Snapshot}

/-- How `locate` ends on a directory that shows `s`: nil only if it is gone. The journal of a pod
whose directory is there stays. -/
def Looked (key : String) (pod : Pod) (dir : String) (s : Snapshot) (owed : Prop) : Lookup → World → Prop
  | .ended err state, w => (err = none → w.cgroups dir = none) ∧ Shows dir s w ∧
      (w.cgroups dir ≠ none → (pod.uid ∈ state.pending ↔ owed))
  | .located pod' dir' snapshot state, w => pod' = pod ∧ dir' = dir ∧ snapshot = s ∧
      (pod.uid ∈ state.pending ↔ owed) ∧ Entered key pod s state ∧ Shows dir s w

omit [PrintTable] [Qos.ResourceHelper] in
/-- An error ends it with the journal as it was. -/
theorem looked_failed {owed : Prop} (err : GoError) (state : State) (w : World)
    (known : (pod.uid ∈ state.pending ↔ owed) ∧ Shows dir s w) :
    Looked key pod dir s owed (.ended (some err) state) w :=
  ⟨fun isNone => by simp at isNone, known.2, fun _ => known.1⟩

omit [Qos.ResourceHelper] in
theorem locatePod_looked {cfg : Config} (own : Own cfg pod dir) (owed : Prop) (state : State) :
    Holds (arena home pod dir) anything
      (fun w => (pod.uid ∈ state.pending ↔ owed) ∧ Shows dir s w) (locatePod cfg state key pod)
      (Looked key pod dir s owed) := by
  refine locatePod_holds (T := fun state w => (pod.uid ∈ state.pending ↔ owed) ∧ Shows dir s w)
    (R := fun d result state w => d = dir ∧ ((pod.uid ∈ state.pending ↔ owed) ∧ Shows dir s w) ∧
      Kernel.Told World.cgroups dir s w result) ?_ looked_failed (fun d computed state => ?_)
      (fun d err state w known _ => known.2.1) (fun d err state isGone _ => ?_)
    fun d snapshot state => ?_
  · refine (keeping_holds (observePodIdentity_asks _ _ _ _) (observePodIdentity_alike _ _ _ _)
      (fun _ _ move known => ⟨known.1, move.shows known.2⟩) fun w gauge known => known).post
        fun state' w known => ⟨known.2.1.journal.trans known.1.1, known.1.2⟩
  · obtain rfl : dir = d := Except.ok.inj (own.symm.trans computed)
    exact (readSnapshot_told (fun _ _ move known => ⟨known.1, move.shows known.2⟩)
      fun _ known => known.2).post fun result w known => ⟨rfl, known⟩
  · refine .pre (P := fun w => w.cgroups dir = none) ?_ fun w known => known.2.2 isGone
    refine (keeping_holds (setPodActual_asks _ _ _ _ _) .any (fun _ _ move => move.gone)
      fun w gauge gone => gone).post fun state' w known => ⟨fun _ => known.1, fun c present => ?_,
        fun there => absurd known.1 there⟩
    rw [known.1] at present
    cases present
  · refine .pre (P := fun w => (d = dir ∧ snapshot = s ∧ (pod.uid ∈ state.pending ↔ owed)) ∧ Shows dir s w)
      (.assume fun known => ?_) fun w known => ⟨⟨known.1, known.2.2.1, known.2.1.1⟩, known.2.1.2⟩
    obtain ⟨rfl, rfl, journal⟩ := known
    exact (keeping_holds (setPodActual_asks _ _ _ _ _) (setPodActual_enters _ _ _ _ _)
      (fun _ _ move => move.shows) fun w gauge shows => shows).post fun state' w known =>
        ⟨rfl, rfl, rfl, known.2.1.journal.trans journal, known.2.2, known.1⟩

/-- `key` is the pod's. -/
abbrev Named (key : String) (pod : Pod) : Prop := splitMetaNamespaceKey key = .ok (pod.ns, pod.name)

omit [Qos.ResourceHelper] in
theorem locate_looked {cfg : Config} (real : isMirrorPod pod = false) (own : Own cfg pod dir)
    (named : Named key pod) (state : State) :
    Holds (arena home pod dir) anything (Shows dir s) (locate cfg state key)
      (Looked key pod dir s (pod.uid ∈ state.pending)) := by
  refine locate_holds
    (J := fun state' w => (pod.uid ∈ state'.pending ↔ pod.uid ∈ state.pending) ∧ Shows dir s w)
    (R := fun answer state' w => (answer ≠ .notFound ∧ ∀ p, answer = .found p → p = pod) ∧
      (pod.uid ∈ state'.pending ↔ pod.uid ∈ state.pending) ∧ Shows dir s w)
    (fun _ _ move => move.shows)
    (inert (fun _ _ => trivial) (r := .ctxErr) fun _ _ _ answered => answered)
    (fun w shows _ => looked_failed _ _ w ⟨Iff.rfl, shows⟩) (ensureInitialized_shows real state)
    (fun _ _ _ move known => ⟨known.1, move.shows known.2⟩) (fun err bad => by simp [named] at bad)
    (fun state' ns name split w known answer w' answered => ?_)
    (fun err err' state' w known => looked_failed _ _ w known.2) (fun state' => .absurd fun w known => known.1.1 rfl)
    (fun p state' mirror => .absurd fun w known => ?_) fun p state' _ => ?_
  · obtain ⟨rfl, rfl⟩ : ns = pod.ns ∧ name = pod.name := by
      rw [named] at split
      simpa [eq_comm] using split
    obtain ⟨rfl, -, shown⟩ := answered
    exact ⟨trivial, shown rfl rfl, known⟩
  · rw [known.1.2 p rfl, real] at mirror
    cases mirror
  · refine .pre (P := fun w => p = pod ∧ (pod.uid ∈ state'.pending ↔ pod.uid ∈ state.pending) ∧
      Shows dir s w) (.assume fun same => ?_) fun w known => ⟨known.1.2 p rfl, known.2⟩
    subst same
    exact locatePod_looked own _ state'

end

/-! ## Nothing left to do -/

section

variable [PrintTable] [Qos.ResourceHelper] {pod : Pod}

/-- What is remembered of the notices of a pod. -/
def Noted (pod : Pod) (s : Snapshot) (state : State) : Prop :=
  state.lastNotes.lookup pod.uid =
    if noticeSignature pod s = "" then none else some (noticeSignature pod s)

/-- A pod whose cgroup shows `s` has nothing left to do and nothing left to be told. -/
structure Rests (key : String) (pod : Pod) (s : Snapshot) (state : State) : Prop
    extends Entered key pod s state where
  plan : routePlan state.pending pod s = []
  settled : s.idleActive = false → pod.uid ∉ state.pending
  noted : Noted pod s state

theorem routeState_asks (pending : Pending) (pod : Pod) (s : Snapshot) :
    (routeState (assess pending pod s) (Tier.desired pod).1).idleRequested =
        (Tier.desired pod).1.idleRequested ∧
      (routeState (assess pending pod s) (Tier.desired pod).1).burstActive =
        (Tier.desired pod).1.burstActive := by
  unfold routeState
  split
  · exact ⟨rfl, rfl⟩
  · rename_i neither
    have quiet : (Tier.desired pod).1.idleRequested = false ∧
        (Tier.desired pod).1.burstRequested = false := by
      simp only [assess, Bool.or_eq_true, not_or, Bool.not_eq_true] at neither
      exact neither.1
    have inactive : (Tier.desired pod).1.burstActive = false :=
      Bool.eq_false_iff.mpr fun active => by simp [desired_burst pod active] at quiet
    exact ⟨quiet.1.symm, inactive.symm⟩

omit [PrintTable] in
theorem planFor_journal (pending : Pending) (pod : Pod) (desired : Tier.State) (s : Snapshot) :
    (planFor pending pod desired s).2 = (needsWeightRepair pending pod s).2 := by
  unfold planFor
  cases repair : needsWeightRepair pending pod s with
  | mk needed pending' => cases needed <;> rfl

theorem noticeSignature_congr {s s' : Snapshot} (quota : s'.quota = s.quota) :
    noticeSignature pod s' = noticeSignature pod s := by
  simp [noticeSignature, actualBurstUnavailable, Snapshot.hasQuota, quota]

variable {s₀ s : Snapshot} {owed : Prop} {pending : Pending}

/-- At the goal there is no plan. -/
theorem Goal.plan (goal : Goal pod s₀ owed s pending) : routePlan pending pod s = [] := by
  obtain ⟨idle, burst⟩ := routeState_asks pending pod s
  have target : burstTarget (routeState (assess pending pod s) (Tier.desired pod).1) s = s.burst := by
    rw [goal.burst, burstTarget, burstTarget, burst, goal.quota]
  have repaired : (needsWeightRepair pending pod s).1 = false := by
    cases active : s.idleActive with
    | true => rw [needsWeightRepair_active active]
    | false => simp [needsWeightRepair, active, goal.settled active]
  refine planFor_eq_nil.mpr ⟨?_, repaired⟩
  rw [Kernel.buildPlan_parts, target, idle, ← goal.idle]
  cases s.idleActive <;> simp [Kernel.burstWrites, Kernel.idleWrites]

/-- A pass that finds no work is at the goal. -/
theorem goal_of_quiet (quiet : (assess pending pod s).hasCgroupWork = false) :
    Goal pod s (pod.uid ∈ pending) s (assess pending pod s).pending := by
  obtain ⟨idle, burst⟩ := routeState_asks pending pod s
  have empty : routePlan pending pod s = [] := hasCgroupWork_eq_false.mp quiet
  have leads := planFor_leads s pending idle burst
  rw [show (planFor pending pod (routeState (assess pending pod s) (Tier.desired pod).1) s).1 = [] from empty,
    planFor_journal] at leads
  have goal : Goal pod s (pod.uid ∈ pending) s (needsWeightRepair pending pod s).2 := leads
  refine { goal with settled := fun off => ?_ }
  have unasked : (Tier.desired pod).1.idleRequested = false := goal.idle.symm.trans off
  have same : (assess pending pod s).pending = (needsWeightRepair pending pod s).2 := by
    simp [assess, unasked]
  rw [same]
  exact goal.settled off

/-- A look that forgets a restore found the weight right. -/
theorem assess_forgets (journaled : pod.uid ∈ pending)
    (forgotten : pod.uid ∉ (assess pending pod s).pending) : s.weight = Qos.restoreWeight pod.spec := by
  by_contra wrong
  have kept : (needsWeightRepair pending pod s).2 = pending := by
    unfold needsWeightRepair
    rw [if_neg (not_not.mpr journaled), if_neg wrong]
    split <;> rfl
  refine forgotten ?_
  unfold assess
  dsimp only
  split
  · exact journaled
  · rwa [kept]

/-- The applier's goal, from the journal as the pass found it. -/
theorem Goal.assessed {journal : Pending}
    (goal : Goal pod s₀ (pod.uid ∈ (assess journal pod s₀).pending) s pending) :
    Goal pod s₀ (pod.uid ∈ journal) s pending where
  idle := goal.idle
  burst := goal.burst
  quota := goal.quota
  restored off due := by
    by_cases still : s₀.idleActive = true ∨ pod.uid ∈ (assess journal pod s₀).pending
    · exact goal.restored off still
    · rw [goal.untouched off still]
      rw [not_or] at still
      exact assess_forgets (due.resolve_left still.1) still.2
  untouched off never := goal.untouched off fun due =>
    never (due.imp_right fun journaled => Books.assess_subset journal pod s₀ journaled)
  settled := goal.settled

end

/-! ## The pass -/

section

variable [PrintTable] [Qos.ResourceHelper] {home : Books.Home} {pod : Pod} {dir key : String}
  {s₀ : Snapshot} {owed : Prop}

/-- What a pass that returned nil without a refused write leaves of a directory that showed `s₀`. -/
def Ended (key : String) (pod : Pod) (dir : String) (s₀ : Snapshot) (owed : Prop)
    (result : Option GoError × State) (w : World) : Prop :=
  result.1 = none → w.refused = false → ∀ c, w.cgroups dir = some c →
    Goal pod s₀ owed c.snapshot result.2.pending ∧ Rests key pod c.snapshot result.2

/-- The directory shows `s`, and that is the goal unless a write was refused. -/
def Standing (pod : Pod) (dir : String) (s₀ : Snapshot) (owed : Prop) (pending : Pending) (s : Snapshot)
    (w : World) : Prop :=
  Shows dir s w ∧ (w.refused = false → w.cgroups dir ≠ none → Goal pod s₀ owed s pending)

theorem Standing.stable {pending : Pending} {s : Snapshot} :
    (arena home pod dir).Stable (Standing pod dir s₀ owed pending s) := by
  refine fun w w' move known => ⟨move.shows known.1, fun live present => ?_⟩
  obtain ⟨c', present⟩ := Option.ne_none_iff_exists'.mp present
  obtain ⟨c, before, -⟩ := move.cgroup c' present
  exact known.2 (move.refused.symm.trans live) (by simp [before])

theorem refreshPodActual_ends {cfg : Config} (state : State) (noted : Noted pod s₀ state) :
    Holds (arena home pod dir) anything
      (fun w => w.refused = false → ∀ c, w.cgroups dir = some c → Goal pod s₀ owed c.snapshot state.pending)
      (refreshPodActual cfg state key pod dir) (Ended key pod dir s₀ owed) := by
  refine .pre (P := fun w => ∃ s, Standing pod dir s₀ owed state.pending s w) (.exists fun s => ?_)
    fun w known => ?_
  · refine refreshPodActual_holds
      (readSnapshot_told Standing.stable fun _ known => known.1)
      (fun err err' w _ _ isNone => by simp at isNone) (fun err isGone _ => ?_) fun snapshot => ?_
    · refine .pre (P := fun w => w.cgroups dir = none) ?_ fun w known => known.2 isGone
      refine (keeping_holds (setPodActual_asks _ _ _ _ _) .any (fun _ _ move => move.gone)
        fun w gauge gone => gone).post fun state' w known _ _ c present => ?_
      rw [known.1] at present
      cases present
    · refine .pre (P := fun w => snapshot = s ∧ Standing pod dir s₀ owed state.pending s w)
        (.assume fun same => ?_) fun w known => ⟨known.2.1, known.1⟩
      subst same
      refine (keeping_holds (setPodActual_asks _ _ _ _ _) (setPodActual_enters _ _ _ _ _)
        Standing.stable fun w gauge known => known).post fun state' w known _ live c present => ?_
      obtain ⟨⟨shows, stands⟩, alike, entered⟩ := known
      rw [shows c present]
      have goal := stands live (by simp [present])
      have goal' : Goal pod s₀ owed snapshot state'.pending :=
        { goal with settled := fun off journaled => goal.settled off (alike.journal.mp journaled) }
      refine ⟨goal', { entered with plan := goal'.plan, settled := goal'.settled, noted := ?_ }⟩
      rw [Noted, alike.notes, noted, noticeSignature_congr goal.quota]
  · obtain ⟨s, shows⟩ := exists_shows dir w
    refine ⟨s, shows, fun live there => ?_⟩
    obtain ⟨c, present⟩ := Option.ne_none_iff_exists'.mp there
    exact shows c present ▸ known live c present

theorem callApplier_reaches {cfg : Config} (own : Own cfg pod dir) (resync changed : Bool)
    (journal : Pending) :
    Holds (arena home pod dir) anything (Shows dir s₀)
      (callApplier (.real cfg) cfg resync pod s₀ (assess journal pod s₀) changed)
      (Reached dir (Goal pod s₀ (pod.uid ∈ (assess journal pod s₀).pending))) := by
  have quiet : Silent (arena home pod dir) anything (Shows dir s₀) :=
    silent (fun _ _ move => move.shows) fun _ _ shows => shows
  unfold callApplier
  refine .bind (R := fun _ => Shows dir s₀) ?_ fun _ => .ite (fun _ => ?_) fun neither => ?_
  · exact .ite (fun _ => .keeps quiet.stable (quiet.inc _)) fun _ => .pure fun _ shows => shows
  · exact apply_reaches own _ _ s₀
  · simp only [assess, Bool.or_eq_true, not_or, Bool.not_eq_true] at neither
    refine revert_reaches own _ s₀ neither.1.1 (Bool.eq_false_iff.mpr fun active => ?_)
    simp [desired_burst pod active] at neither

omit [PrintTable] [Qos.ResourceHelper] in
theorem Entered.journal {state : State} (entered : Entered key pod s₀ state) (pending : Pending)
    (signature : String) :
    Entered key pod s₀ ({ state with pending }.recordPodNotice pod.uid signature) :=
  ⟨entered.tracked, entered.member⟩

/-- **From the snapshot on.** -/
theorem reconcilePod_ends {cfg : Config} (own : Own cfg pod dir) {state : State} (resync : Bool)
    (entered : Entered key pod s₀ state) :
    Holds (arena home pod dir) anything (Shows dir s₀)
      (reconcilePod (.real cfg) cfg state key resync pod dir s₀)
      (Ended key pod dir s₀ (pod.uid ∈ state.pending)) := by
  have unsigned := (Passes.hasNotice_eq state.pending pod s₀).trans noticesFor_eq_nil.not
  have recorded : ∀ (state' : State) (signature : String), signature = noticeSignature pod s₀ →
      Noted pod s₀ (state'.recordPodNotice pod.uid signature) := by
    intro state' signature same
    rw [Noted, lookup_recordPodNotice, if_pos rfl, same]
  unfold reconcilePod
  refine .ite (fun nothing => .pure fun w shows _ _ c present => ?_) fun something =>
    .ite (fun told => .pure fun w shows _ _ c present => ?_) fun _ => ?_
  · simp only [Bool.and_eq_true, Bool.not_eq_true'] at nothing
    have unsaid : noticeSignature pod s₀ = "" := by
      by_contra some
      simp [unsigned.mpr some] at nothing
    have goal := goal_of_quiet nothing.1
    rw [shows c present]
    exact ⟨goal, { entered.journal _ _ with
      plan := goal.plan, settled := goal.settled, noted := recorded _ _ unsaid.symm }⟩
  · simp only [Bool.and_eq_true, Bool.not_eq_true'] at told
    have goal := goal_of_quiet told.1
    have known : state.lastNotes.lookup pod.uid = some (noticeSignature pod s₀) := by
      simpa [State.podNoticeNeedsReport, assess] using told.2
    rw [shows c present]
    have signed : noticeSignature pod s₀ ≠ "" := unsigned.mp (by simpa [told.1] using something)
    refine ⟨goal, { entered with plan := goal.plan, settled := goal.settled, noted := ?_ }⟩
    exact known.trans (if_neg signed).symm
  · refine .bind (callApplier_reaches own resync _ state.pending) fun result => ?_
    obtain ⟨err, pending⟩ := result
    cases err with
    | some err =>
        have fails : (settle cfg { state with pending } key pod dir (noticeSignature pod s₀)
            (some err)).Returns fun result => result.1 ≠ none :=
          .after fun result => by simp [Program.Returns]
        exact fun w _ => fails.safe.mono fun result w failed isNone => absurd isNone failed
    | none =>
        refine (refreshPodActual_ends _ (recorded _ _ rfl)).pre fun w reached live c present => ?_
        exact (reached rfl live c present).assessed

end

section

variable [PrintTable] [Qos.ResourceHelper] {home : Books.Home} {pod : Pod} {dir key : String}

/-- **A whole pass.** -/
theorem reconcile_rests {cfg : Config} (real : isMirrorPod pod = false) (own : Own cfg pod dir)
    (named : Named key pod) (state : State) (resync : Bool) (s₀ : Snapshot) :
    Holds (arena home pod dir) anything (Shows dir s₀) (reconcile (.real cfg) cfg state key resync)
      (Ended key pod dir s₀ (pod.uid ∈ state.pending)) := by
  refine .bind (locate_looked real own named state) fun found => ?_
  cases found with
  | ended err state' =>
      refine .pure fun w looked isNone _ c present => ?_
      rw [looked.1 isNone] at present
      cases present
  | located pod' dir' snapshot state' =>
      refine .of_forall fun w known => ?_
      obtain ⟨rfl, rfl, rfl, journal, entered, shows⟩ := known
      rw [← propext journal]
      exact (reconcilePod_ends own resync entered).pre fun w' same => same ▸ shows

end

end Convergence

section

variable [PrintTable] [Qos.ResourceHelper]

open Convergence in
/-- **A pass without an error has done its work.** The pod is no mirror pod, and the cache has it under
the key. When a pass on the key returns nil and published no `WriteRejected` Event, the cgroup is gone or
in the tiers the pod asks for: idle and burst as the annotations say. Where it ends not idle, its weight
is kubelet's if it was idle before or a restore was outstanding, and what it was if not. Nobody hides a
failed write. -/
theorem reconcile_converges (cfg : Config) (home : Books.Home) {pod : Pod} {dir key : String}
    (real : isMirrorPod pod = false) (own : Own cfg pod dir) (named : Named key pod) (state : State)
    (resync : Bool) {w w' : Convergence.World} {state' : State}
    (run : Exec (arena home pod dir) (reconcile (.real cfg) cfg state key resync) w (none, state') w') :
    w'.refused = true ∨ ∀ c', w'.cgroups dir = some c' → ∃ c, w.cgroups dir = some c ∧
      c'.idle = (Tier.desired pod).1.idleRequested ∧
      c'.quota = c.quota ∧
      c'.burst = (if (Tier.desired pod).1.burstActive then c.quota.getD 0 else 0) ∧
      (c'.idle = false → c'.weight =
        if c.idle = true ∨ pod.uid ∈ state.pending then Qos.restoreWeight pod.spec else c.weight) := by
  have ended : ∀ s₀, Shows dir s₀ w → Ended key pod dir s₀ (pod.uid ∈ state.pending) (none, state') w' :=
    fun s₀ shows => Safe.exec run (reconcile_rests real own named state resync s₀ w shows)
  refine or_iff_not_imp_left.mpr fun live c' present => ?_
  rw [Bool.not_eq_true] at live
  cases before : w.cgroups dir with
  | none =>
      -- a directory that was not there showed anything, and so the quota would be any
      have absent : ∀ s₀, Shows dir s₀ w := fun s₀ c shown => by simp [before] at shown
      have unbounded := ((ended ⟨false, 0, none, 0⟩ (absent _)) rfl live c' present).1.quota
      have bounded := ((ended ⟨false, 0, some 0, 0⟩ (absent _)) rfl live c' present).1.quota
      simp [unbounded] at bounded
  | some c =>
      have shows : Shows dir c.snapshot w := fun c₁ shown => by rw [Option.some.inj (before.symm.trans shown)]
      obtain ⟨goal, -⟩ := ended c.snapshot shows rfl live c' present
      refine ⟨c, rfl, goal.idle, goal.quota, goal.burst, fun off => ?_⟩
      split
      · exact goal.restored off ‹_›
      · exact goal.untouched off ‹_›

end

/-! ## One pass on a sample node -/

section

open Convergence

attribute [local instance] asciiTable Qos.containerRequests

namespace Convergence

/-- A cache that holds the idle pod. -/
def idleCached (ns name : String) : GetResult :=
  if idlePod.ns = ns ∧ idlePod.name = name then .found idlePod else .notFound

/-- A node with the idle pod, where `cpu.idle` may be turned on once. -/
def idlingNode : Handler nodeSignature World := fun w r =>
  match r with
  | .ctxErr => (false, w)
  | .readFile dir name => (match (w.cgroups dir).bind (·.content name) with
      | some text => .data text
      | none => .failed ⟨"no such file", false⟩, w)
  | .stat _ => (.directory, w)
  | .writeFile dir name value =>
      if w.cgroups dir = some Journal.resetCgroup ∧ name = "cpu.idle" ∧ value = "1" then
        (.written, { w with cgroups := Function.update w.cgroups dir (some Journal.idleCgroup) })
      else (.writeFailed ⟨"input/output error", false⟩, w)
  | .getPod _ _ => (.notFound, w)
  | .patchPod _ _ _ => (.notFound, w)
  | .listCache => (.ok [idlePod], w)
  | .listNodePods _ => (.ok [], w)
  | .getCache ns name => (idleCached ns name, w)
  | .rangeKeys keys => (sortedWalk keys, w)
  | .rangeLabels keys => (sortedWalk keys, w)
  | .now => ((0 : Int), w)
  | .numCPU => ((1 : Int), w)
  | .gateCheck _ _ => (.ready .cgroupfs, w)
  | .flushTable _ => ((none : Option OsError), w)
  | .inc _ => ((), w)
  | .setPodsInTier _ label count => ((), { w with gauge := Function.update w.gauge label (some count) })
  | .deletePodsInTier _ label => ((), { w with gauge := Function.update w.gauge label none })
  | .event e => ((), { w with refused := w.refused || e.reason = "WriteRejected" })
  | .reportHealth _ => ((), w)

theorem idlingNode_act (w : World) (r : Request) :
    act sampleHome idlePod w r (idlingNode w r).1 (idlingNode w r).2 := by
  cases r with
  | readFile dir name =>
      refine ⟨rfl, fun content read => ?_⟩
      simp only [idlingNode] at read
      split at read
      · rename_i text shown
        obtain ⟨c, present, shows⟩ := Option.bind_eq_some_iff.mp shown
        exact ⟨c, present, ReadResult.data.inj read ▸ shows⟩
      · cases read
  | stat dir => exact ⟨rfl, fun gone => by cases gone⟩
  | writeFile dir name value =>
      simp only [idlingNode]
      split
      · rename_i here
        obtain ⟨shows, rfl, rfl⟩ := here
        exact ⟨fun _ => .taken shows (.idleOn 0 rfl), fun no => absurd rfl no⟩
      · exact ⟨by simp, fun _ => rfl⟩
  | getCache ns name =>
      have answer : (idlingNode w (.getCache ns name)).1 = idleCached ns name := rfl
      rw [answer]
      refine ⟨rfl, fun p shown => ?_, ?_⟩
      · unfold idleCached at shown
        split at shown
        · rename_i here
          obtain rfl := GetResult.found.inj shown
          exact ⟨here.1, here.2, idlePod_atHome⟩
        · cases shown
      · rintro rfl rfl
        rw [idleCached, if_pos ⟨rfl, rfl⟩]
        exact ⟨fun no => (by cases no), fun p shown => (GetResult.found.inj shown).symm⟩
  | listCache =>
      refine ⟨rfl, fun pods listed => ?_⟩
      obtain rfl := Except.ok.inj listed
      exact ⟨List.mem_singleton_self _, idleNode_own, idleNode_distinct⟩
  | _ => rfl

def idleDir : String := "/sys/fs/cgroup/kubepods/burstable/pod5b0c-1"

/-- Not idle yet. -/
def idlingStart : World := ⟨fun _ => some Journal.resetCgroup, fun _ => none, false⟩

/-- One pass on the idle pod by a new Reconciler. -/
def idlingPass : (Option GoError × State) × World :=
  (reconcile (.real Journal.sampleConfig) Journal.sampleConfig .new "default/web" false).run idlingNode
    idlingStart

theorem idlePod_own : Own Journal.sampleConfig idlePod idleDir := by decide +kernel

/-- It goes through, and the pod is idle. -/
theorem idlingPass_ends : (idlingPass.1.1 = none ∧ idlingPass.1.2.metricsInitialized = true) ∧
    idlingPass.2.refused = false ∧ idlingPass.2.cgroups idleDir = some Journal.idleCgroup := by
  decide +kernel

theorem idlingPass_exec : Exec (arena sampleHome idlePod idleDir)
    (reconcile (.real Journal.sampleConfig) Journal.sampleConfig .new "default/web" false) idlingStart
      (none, idlingPass.1.2) idlingPass.2 := by
  have nothing : idlingPass.1 = (none, idlingPass.1.2) := by
    rw [← idlingPass_ends.1.1, Prod.mk.eta]
  rw [← nothing]
  unfold idlingPass
  exact .of_handler idlingNode_act _ _

end Convergence

/-- The pass goes through, and the pod is idle. -/
theorem reconcile_converges_idling :
    idlingPass.1.1 = none ∧ idlingPass.2.refused = false ∧
      ∃ c, idlingPass.2.cgroups idleDir = some c ∧ c.idle = true := by
  obtain ⟨⟨nothing, -⟩, live, present⟩ := idlingPass_ends
  have converges := reconcile_converges Journal.sampleConfig sampleHome (by decide) idlePod_own
    (by decide) State.new false idlingPass_exec
  obtain ⟨c, -, idle, -⟩ := (converges.resolve_left (by simp [live])) _ present
  exact ⟨nothing, live, _, present, idle.trans (by decide)⟩

end

end CpuIdle.Agent
