/-
# Agent.Idempotence — a second pass does nothing

The world of `Agent.Convergence`. After a pass that returned nil without a refused write, the
following passes on the same key, by any applier, write nothing, publish nothing and count nothing;
and while the directory is there they leave the maps, the journal and the gauge as they are.

* `setPodActual_still`, `reconcilePod_still` — each stage of a pass on a pod at rest;
* `reconcile_quiet` — one such pass;
* `reconcile_idempotent` — all of them.
-/
import CpuIdle.Agent.Convergence

namespace CpuIdle.Agent

open CpuIdle.Go CpuIdle.Kube CpuIdle.Node CpuIdle.Theory CpuIdle.Apply CpuIdle.Observe

set_option autoImplicit false

namespace Convergence

section

variable [PrintTable] [Qos.ResourceHelper]

/-- Passes on one key, one after another. -/
def again (applier : Applier) (cfg : Config) (key : String) : List Bool → State → Node State
  | [], state => return state
  | resync :: rest, state => do
      let (_, state) ← reconcile applier cfg state key resync
      again applier cfg key rest state

end

/-- Writes no knob, publishes no Event, moves no counter. -/
def Quiet : Request → Prop
  | .writeFile _ _ _ => False
  | .event _ => False
  | .inc _ => False
  | _ => True

abbrev quietly : Guarantee nodeSignature World := fun _ r _ _ => Quiet r

theorem Keeping.quiet {r : Request} (keeps : Keeping r) : Quiet r := by
  cases r with
  | writeFile | event | inc => exact keeps.elim
  | _ => trivial

/-! ## The books behind the world -/

section

variable {home : Books.Home} {pod : Pod} {dir : String}

/-- A call of the bookkeeper: what the books say, what it returns, and that nothing else moves. -/
theorem keeping_quiet {α : Type} {p : Node α} {P : World → Prop} {E : α → Prop} {B : Gauge → Prop}
    {C : α → Gauge → Prop} (asks : p.Asks Keeping) (returns : p.Returns E)
    (books : Holds (Books.arena home) Books.trivially B p C) (stable : (arena home pod dir).Stable P)
    (regauged : ∀ w gauge, P w → P { w with gauge }) :
    Holds (arena home pod dir) quietly (fun w => B w.gauge ∧ P w) p fun a w =>
      C a w.gauge ∧ P w ∧ E a := by
  rintro w ⟨balanced, holds⟩
  have quiet : Safe (arena home pod dir) quietly p (fun _ _ => True) w :=
    .asks asks fun _ _ _ _ keeps _ => Keeping.quiet keeps
  have kept := keeping_holds asks returns stable regauged w holds
  have shown : Safe (arena home pod dir) _ p (fun a w => C a w.gauge) w :=
    shows_books.safe (books w.gauge balanced)
  exact ((quiet.and (kept.and shown)).mono fun a w known => ⟨known.2.2, known.2.1⟩).weaken
    fun _ _ _ _ kept => kept.1

theorem counts_unique {state state' : State} (books : Books home state) (books' : Books home state')
    (same : state'.podMemberships = state.podMemberships) :
    state'.podsInTierCounts = state.podsInTierCounts := by
  refine Finmap.ext_lookup fun label => ?_
  rw [books.counted label, books'.counted label, same]

end

/-! ## A pod at rest -/

theorem insert_same {β : Type} {m : Finmap fun _ : String => β} {k : String} {v : β}
    (found : m.lookup k = some v) : m.insert k v = m := by
  refine Finmap.ext_lookup fun k' => ?_
  by_cases same : k' = k
  · rw [same, Finmap.lookup_insert, found]
  · rw [Finmap.lookup_insert_of_ne _ same]

section

variable {key : String} {pod : Pod} {s : Snapshot} {state₁ : State}

theorem observePodIdentity_still (node : String) (entered : Entered key pod s state₁) :
    observePodIdentity node state₁ key pod.uid = pure state₁ := by
  have member : pod.uid ∈ state₁.podMemberships := Finmap.mem_of_lookup_eq_some entered.member
  have kept : dropReplaced node state₁ key pod.uid = pure state₁ := by
    simp [dropReplaced, entered.tracked]
  unfold observePodIdentity
  rw [kept, pure_bind, if_pos member, insert_same entered.tracked]

/-- The tiers on the books are written again: only the counts are computed anew. -/
theorem setPodActual_still (node : String) (entered : Entered key pod s state₁) :
    (setPodActual node state₁ key pod s).Returns fun state' =>
      state' = { state₁ with podsInTierCounts := state'.podsInTierCounts } := by
  unfold setPodActual
  rw [observePodIdentity_still node entered, pure_bind]
  refine .after fun counts => ?_
  simp [Program.Returns, entered.member, insert_same entered.member, insert_same entered.tracked]

variable [PrintTable] [Qos.ResourceHelper]

/-- A look at a pod at rest forgets nothing. -/
theorem assess_still (rests : Rests key pod s state₁) :
    (assess state₁.pending pod s).pending = state₁.pending := by
  have unrepaired : (needsWeightRepair state₁.pending pod s).2 = state₁.pending := by
    unfold needsWeightRepair
    cases active : s.idleActive with
    | true => rfl
    | false => simp [rests.settled active]
  unfold assess
  dsimp only
  split
  · rfl
  · exact unrepaired

theorem reconcilePod_still (rests : Rests key pod s state₁) (applier : Applier) (cfg : Config)
    (resync : Bool) (dir : String) :
    reconcilePod applier cfg state₁ key resync pod dir s = pure (none, state₁) := by
  have idle : (assess state₁.pending pod s).hasCgroupWork = false := hasCgroupWork_eq_false.mpr rests.plan
  have unsigned := (Passes.hasNotice_eq state₁.pending pod s).trans noticesFor_eq_nil.not
  have signature : (assess state₁.pending pod s).noticeSignature = noticeSignature pod s := rfl
  have noted : state₁.lastNotes.lookup pod.uid = _ := rests.noted
  unfold reconcilePod
  dsimp only
  rw [assess_still rests]
  cases notice : (assess state₁.pending pod s).hasNotice with
  | false =>
      have unsaid : noticeSignature pod s = "" := by
        by_contra some
        simp [unsigned.mpr some] at notice
      rw [if_pos unsaid] at noted
      have erased : state₁.recordPodNotice pod.uid "" = state₁ := by
        unfold State.recordPodNotice
        rw [if_pos rfl, erase_absent noted]
      simp only [idle, Bool.not_false, Bool.and_self, if_true]
      rw [erased]
  | true =>
      rw [if_neg (unsigned.mp notice)] at noted
      have told : state₁.podNoticeNeedsReport pod.uid (noticeSignature pod s) = false := by
        simp [State.podNoticeNeedsReport, noted]
      simp [idle, signature, told]

end

/-! ## One more pass -/

section

variable [PrintTable] [Qos.ResourceHelper] {home : Books.Home} {pod : Pod} {dir key : String}
  {s : Snapshot} {state₁ : State}

/-- What is kept between the passes: as long as the directory is there, it shows `s`, the state is
`state₁`, and there the pod rests. -/
structure AtRest (home : Books.Home) (key : String) (pod : Pod) (dir : String) (s : Snapshot)
    (state₁ state : State) (w : World) : Prop where
  kept : Books.Kept home state w.gauge
  initialized : state.metricsInitialized = true
  still : ∀ c, w.cgroups dir = some c → c.snapshot = s ∧ state = state₁ ∧ Rests key pod s state₁

/-- The last part of it, which the bookkeeper does not move. -/
abbrev Still (key : String) (pod : Pod) (dir : String) (s : Snapshot) (state₁ state : State) (w : World) :
    Prop :=
  ∀ c, w.cgroups dir = some c → c.snapshot = s ∧ state = state₁ ∧ Rests key pod s state₁

theorem Still.stable {state : State} :
    (arena home pod dir).Stable (Still key pod dir s state₁ state) := by
  intro w w' move still c' present
  obtain ⟨c, before, same⟩ := move.cgroup c' present
  exact ⟨same.trans (still c before).1, (still c before).2⟩

theorem AtRest.stable {state : State} :
    (arena home pod dir).Stable (AtRest home key pod dir s state₁ state) := fun w w' move rest =>
  ⟨move.gauge.symm ▸ rest.kept, rest.initialized, Still.stable w w' move rest.still⟩

/-- And after the pod's identity was looked at. -/
structure Observed (home : Books.Home) (key : String) (pod : Pod) (dir : String) (s : Snapshot)
    (state₁ state : State) (w : World) : Prop where
  held : Books.Held home key pod.uid state w.gauge
  initialized : state.metricsInitialized = true
  still : Still key pod dir s state₁ state w

theorem Observed.stable {state : State} :
    (arena home pod dir).Stable (Observed home key pod dir s state₁ state) := fun w w' move known =>
  ⟨move.gauge.symm ▸ known.held, known.initialized, Still.stable w w' move known.still⟩

theorem Observed.rest {state : State} {w : World} (known : Observed home key pod dir s state₁ state w) :
    AtRest home key pod dir s state₁ state w :=
  ⟨known.held.toKept, known.initialized, known.still⟩

/-- How `locate` ends: over and at rest, or with what was known. -/
def Found (home : Books.Home) (key : String) (pod : Pod) (dir : String) (s : Snapshot) (state₁ : State) :
    Lookup → World → Prop
  | .ended _ state, w => AtRest home key pod dir s state₁ state w
  | .located pod' dir' snapshot state, w => pod' = pod ∧ dir' = dir ∧ snapshot = s ∧
      state = state₁ ∧ Rests key pod s state₁ ∧ AtRest home key pod dir s state₁ state w

theorem observePodIdentity_quiet (node : String) (named : key = Books.keyOf (home pod.uid)) (state : State) :
    Holds (arena home pod dir) quietly (AtRest home key pod dir s state₁ state)
      (observePodIdentity node state key pod.uid) fun state' w =>
        Observed home key pod dir s state₁ state' w := by
  have same : (observePodIdentity node state key pod.uid).Returns fun state' =>
      state'.metricsInitialized = state.metricsInitialized ∧
        (state = state₁ → Rests key pod s state₁ → state' = state₁) := by
    by_cases here : state = state₁ ∧ Rests key pod s state₁
    · obtain ⟨rfl, rests⟩ := here
      rw [observePodIdentity_still node rests.toEntered]
      exact ⟨rfl, fun _ _ => rfl⟩
    · refine (observePodIdentity_alike node state key pod.uid).mono fun state' known =>
        ⟨known.1.initialized, fun same rests => absurd ⟨same, rests⟩ here⟩
  refine (keeping_quiet (P := fun w => state.metricsInitialized = true ∧ Still key pod dir s state₁ state w)
    (observePodIdentity_asks node state key pod.uid) same (Books.observePodIdentity_books node named state)
    (fun w w' move known => ⟨known.1, Still.stable w w' move known.2⟩) fun w gauge known => known).conseq
      (fun w rest => ⟨rest.kept, rest.initialized, rest.still⟩) fun state' w known => ?_
  obtain ⟨held, ⟨initialized, still⟩, initialized', same⟩ := known
  refine ⟨held, initialized'.trans initialized, fun c present => ?_⟩
  obtain ⟨shows, isSame, rests⟩ := still c present
  exact ⟨shows, same isSame rests, rests⟩

/-- A directory that went away is forgotten without a word. -/
theorem forgotten_quiet (cfg : Config) (state : State) :
    Holds (arena home pod dir) quietly
      (fun w => Observed home key pod dir s state₁ state w ∧ w.cgroups dir = none)
      (forgotten cfg state key pod) fun state' w => AtRest home key pod dir s state₁ state' w := by
  refine (keeping_quiet (P := fun w => state.metricsInitialized = true ∧ w.cgroups dir = none)
    (setPodActual_asks _ _ _ _ _) (setPodActual_enters _ _ _ _ _) (Books.forgotten_books cfg state)
    (fun w w' move known => ⟨known.1, move.gone known.2⟩) fun w gauge known => known).conseq
      (fun w known => ⟨known.1.held, known.1.initialized, known.2⟩) fun state' w known => ?_
  obtain ⟨held, ⟨initialized, gone⟩, alike, -⟩ := known
  exact ⟨held.toKept, alike.initialized.trans initialized, fun c present => by simp [gone] at present⟩

theorem setPodActual_quiet (node : String) (rests : Rests key pod s state₁) :
    Holds (arena home pod dir) quietly (Observed home key pod dir s state₁ state₁)
      (setPodActual node state₁ key pod s) fun state' w =>
        state' = state₁ ∧ AtRest home key pod dir s state₁ state' w := by
  refine .of_forall fun w₀ before => ?_
  refine (keeping_quiet (P := Still key pod dir s state₁ state₁) (setPodActual_asks _ _ _ _ _)
    (setPodActual_still node rests.toEntered) (Books.setPodActual_books node s state₁) Still.stable
    fun w gauge known => known).conseq (fun w same => same ▸ ⟨before.held, before.still⟩)
      fun state' w known => ?_
  obtain ⟨⟨held, -⟩, still, same⟩ := known
  have memberships : state'.podMemberships = state₁.podMemberships := by rw [same]
  have counts := counts_unique before.held.books held.books memberships
  rw [counts] at same
  subst same
  exact ⟨rfl, held.toKept, before.initialized, still⟩

omit [Qos.ResourceHelper] in
/-- Reading is quiet. -/
theorem readSnapshot_quiet {P : World → Prop} (stable : (arena home pod dir).Stable P)
    (steady : ∀ w, P w → Shows dir s w) :
    Holds (arena home pod dir) quietly P (readSnapshot dir) fun result w =>
      P w ∧ Kernel.Told World.cgroups dir s w result :=
  (files (fun _ _ _ _ => trivial) fun _ _ _ => trivial).readSnapshot_steady stable steady

theorem locatePod_quiet {cfg : Config} (own : Own cfg pod dir) (named : key = Books.keyOf (home pod.uid))
    (state : State) :
    Holds (arena home pod dir) quietly (AtRest home key pod dir s state₁ state)
      (locatePod cfg state key pod) (Found home key pod dir s state₁) := by
  refine locatePod_holds (T := fun state w => Observed home key pod dir s state₁ state w)
    (R := fun d result state w => d = dir ∧ Observed home key pod dir s state₁ state w ∧
      Kernel.Told World.cgroups dir s w result) (observePodIdentity_quiet cfg.node named state)
    (fun err state w known => known.rest) (fun d computed state => ?_)
    (fun d err state w known _ => known.2.1) (fun d err state isGone _ => ?_) fun d snapshot state => ?_
  · obtain rfl : dir = d := Except.ok.inj (own.symm.trans computed)
    exact (readSnapshot_quiet Observed.stable fun w known c present => (known.still c present).1).post
      fun result w known => ⟨rfl, known⟩
  · exact (forgotten_quiet cfg state).pre fun w known => ⟨known.2.1, known.2.2 isGone⟩
  · refine .of_forall fun w known => ?_
    obtain ⟨rfl, observed, rfl, c, present, -⟩ := known
    obtain ⟨-, rfl, rests⟩ := observed.still c present
    exact (setPodActual_quiet cfg.node rests).conseq (fun w' same => same ▸ observed)
      fun state' w' ended => ⟨rfl, rfl, rfl, ended.1, rests, ended.2⟩

theorem locate_quiet {cfg : Config} (real : isMirrorPod pod = false) (own : Own cfg pod dir)
    (named : Named key pod) (state : State) :
    Holds (arena home pod dir) quietly (AtRest home key pod dir s state₁ state) (locate cfg state key)
      (Found home key pod dir s state₁) := by
  have ctx : (arena home pod dir).Inert quietly .ctxErr :=
    inert (fun _ _ => trivial) fun _ _ _ answered => answered
  refine locate_holds (J := fun state' w => AtRest home key pod dir s state₁ state' w)
    (R := fun answer state' w => (answer ≠ .notFound ∧
      ∀ p, answer = .found p → p = pod ∧ Books.AtHome home p) ∧ AtRest home key pod dir s state₁ state' w)
    AtRest.stable ctx (fun w rest _ => rest) ?_ (fun _ => AtRest.stable) (fun err bad => by simp [named] at bad)
    (fun state' ns name split w rest answer w' answered => ?_) (fun err err' state' w known => known.2)
    (fun state' => .absurd fun w known => known.1.1 rfl) (fun p state' mirror => .absurd fun w known => ?_)
    fun p state' _ => ?_
  · unfold ensureInitialized
    refine .ite (fun _ => .pure fun w rest => rest) fun first => .absurd fun w rest => first rest.initialized
  · obtain ⟨rfl, rfl⟩ : ns = pod.ns ∧ name = pod.name := by
      rw [named] at split
      simpa [eq_comm] using split
    obtain ⟨rfl, homes, shown⟩ := answered
    obtain ⟨there, mine⟩ := shown rfl rfl
    exact ⟨trivial, ⟨there, fun p found => ⟨mine p found, (homes p found).2.2⟩⟩, rest⟩
  · rw [(known.1.2 p rfl).1, real] at mirror
    cases mirror
  · refine .of_forall fun w known => ?_
    obtain ⟨rfl, atHome⟩ := known.1.2 p rfl
    have keyed : key = Books.keyOf (home p.uid) := by
      rcases Books.splitMetaNamespaceKey_ok named with ⟨empty, -⟩ | same
      · exact absurd empty atHome.namespaced
      · rw [same, atHome.place]
    exact (locatePod_quiet own keyed state').pre fun w' same => same ▸ known.2

/-- **One more pass** by any applier. -/
theorem reconcile_quiet {cfg : Config} (real : isMirrorPod pod = false) (own : Own cfg pod dir)
    (named : Named key pod) (applier : Applier) (state : State) (resync : Bool) :
    Holds (arena home pod dir) quietly (AtRest home key pod dir s state₁ state)
      (reconcile applier cfg state key resync) fun result w =>
        AtRest home key pod dir s state₁ result.2 w := by
  refine .bind (locate_quiet real own named state) fun found => ?_
  cases found with
  | ended err state' => exact .pure fun w rest => rest
  | located pod' dir' snapshot state' =>
      refine .of_forall fun w known => ?_
      obtain ⟨rfl, rfl, rfl, rfl, rests, rest⟩ := known
      dsimp only
      rw [reconcilePod_still rests]
      exact .pure fun w' same => same ▸ rest

theorem again_quiet {cfg : Config} (real : isMirrorPod pod = false) (own : Own cfg pod dir)
    (named : Named key pod) (applier : Applier) (resyncs : List Bool) (state : State) :
    Holds (arena home pod dir) quietly (AtRest home key pod dir s state₁ state)
      (again applier cfg key resyncs state) fun state' w => AtRest home key pod dir s state₁ state' w := by
  induction resyncs generalizing state with
  | nil => exact .pure fun w rest => rest
  | cons resync rest ih => exact .bind (reconcile_quiet real own named applier state resync) fun _ => ih _

end

end Convergence

section

variable [PrintTable] [Qos.ResourceHelper]

open Convergence in
/-- **Reconciliation is idempotent.** After a pass from a reachable state that returned nil, published
no `WriteRejected` Event and has the first full scan behind it, any further passes on the key, with
any resync flags and cut anywhere, write nothing, publish nothing, count nothing and ask nothing of
the applier; and unless the directory went away, state and gauge are at the end what they were. All of
them find the same version of the pod in the cache, and it is no mirror pod. -/
theorem reconcile_idempotent (cfg : Config) (home : Books.Home) {pod : Pod} {dir key : String}
    (real : isMirrorPod pod = false) (own : Own cfg pod dir) (named : Named key pod)
    {state state' : State} {w w' : Convergence.World} {resync : Bool}
    (reached : Books.Reaches cfg home (state, w.gauge))
    (run : Exec (arena home pod dir) (reconcile (.real cfg) cfg state key resync) w (none, state') w')
    (live : w'.refused = false) (scanned : state'.metricsInitialized = true)
    (applier : Applier) (resyncs : List Bool) :
    Safe (arena home pod dir) quietly (again applier cfg key resyncs state') (fun state'' w'' =>
      w''.cgroups dir ≠ none → state'' = state' ∧ w''.gauge = w'.gauge) w' := by
  have balanced : Safe (arena home pod dir) _ (reconcile (.real cfg) cfg state key resync)
      (fun result w => Books.Kept home result.2 w.gauge) w :=
    shows_books.safe (Books.reconcile_books cfg state key resync _ (Books.run_books reached))
  have kept := Safe.exec run balanced
  obtain ⟨s₀, shows⟩ := exists_shows dir w
  have ended := Safe.exec run (reconcile_rests real own named state resync s₀ w shows) rfl live
  obtain ⟨s, shows'⟩ := exists_shows dir w'
  have rest : AtRest home key pod dir s state' state' w' :=
    ⟨kept, scanned, fun c present => ⟨shows' c present, rfl, shows' c present ▸ (ended c present).2⟩⟩
  refine (again_quiet real own named applier resyncs state' w' rest).mono fun state'' w'' ended present => ?_
  obtain ⟨c, present⟩ := Option.ne_none_iff_exists'.mp present
  obtain ⟨-, rfl, -⟩ := ended.still c present
  exact ⟨rfl, ended.kept.gauge.trans kept.gauge.symm⟩

end

section

open Convergence

attribute [local instance] asciiTable Qos.containerRequests

/-- The idle pod is at rest after its first pass. -/
theorem reconcile_idempotent_idling :
    Safe (arena sampleHome idlePod idleDir) quietly
      (again (.real Journal.sampleConfig) Journal.sampleConfig "default/web" [true, false] idlingPass.1.2)
      (fun state w => w.cgroups idleDir ≠ none → state = idlingPass.1.2 ∧ w.gauge = idlingPass.2.gauge)
      idlingPass.2 := by
  obtain ⟨⟨-, scanned⟩, live, -⟩ := idlingPass_ends
  exact reconcile_idempotent Journal.sampleConfig sampleHome (by decide) idlePod_own (by decide)
    .refl idlingPass_exec live scanned _ _

end

end CpuIdle.Agent
