/-
# Agent.Bookkeeping — the gauge equals the memberships, and nothing is left behind

Runs of `Reconcile` and `refreshPodsInTier` calls over the world of `Agent.Books`.

* `reconcile_books` — a pass keeps the books, whatever its reads and writes come to;
* `run_books` — so does every run;
* `run_seen` — along a recorded run the books are what was last seen of each pod;
* `gauge_tracks_memberships` — the gauge at any moment, and that a full scan which sees
  what was last seen changes nothing;
* `bookkeeping_consistent` — the four maps at any moment, and after a call on a pod that
  is not there.
-/
import CpuIdle.Agent.Sightings
import CpuIdle.Apply.Journal
import CpuIdle.Theory.Monitor

namespace CpuIdle.Agent

open CpuIdle.Go CpuIdle.Kube CpuIdle.Node CpuIdle.Theory CpuIdle.Apply

set_option autoImplicit false

namespace Books

variable {home : Home} {state : State}

/-! ## The applier's journal -/

section

variable [PrintTable] [Qos.ResourceHelper]

omit [PrintTable] in
theorem needsWeightRepair_subset (pending : Pending) (pod : Pod) (snapshot : Snapshot) :
    (needsWeightRepair pending pod snapshot).2 ⊆ pending := by
  unfold needsWeightRepair
  split
  · exact Finset.Subset.refl _
  · split
    · exact Finset.Subset.refl _
    · split
      · exact Finset.erase_subset _ _
      · exact Finset.Subset.refl _

omit [PrintTable] in
theorem planFor_subset (pending : Pending) (pod : Pod) (desired : Tier.State) (snapshot : Snapshot) :
    (planFor pending pod desired snapshot).2 ⊆ pending := by
  have subset := needsWeightRepair_subset pending pod snapshot
  unfold planFor
  split
  · rename_i outcome
    simpa [outcome] using subset
  · rename_i outcome
    simpa [outcome] using subset

theorem assess_subset (pending : Pending) (pod : Pod) (snapshot : Snapshot) :
    (assess pending pod snapshot).pending ⊆ pending := by
  unfold assess
  dsimp only
  split
  · exact Finset.Subset.refl _
  · exact needsWeightRepair_subset pending pod snapshot

omit [PrintTable] [Qos.ResourceHelper] in
theorem recordCompletedWrite_subset {pending within : Pending} {uid : String}
    (subset : pending ⊆ insert uid within) (write : Write) :
    recordCompletedWrite pending uid write ⊆ insert uid within := by
  unfold recordCompletedWrite
  split_ifs
  · exact Finset.insert_subset (Finset.mem_insert_self _ _) subset
  · exact (Finset.erase_subset _ _).trans subset
  · exact subset

/-- The journal after a call on `uid` that left the gauge alone. -/
def Touches (uid : String) (within : Pending) (gauge : Gauge) (pending : Pending) (w : Gauge) : Prop :=
  w = gauge ∧ pending ⊆ insert uid within

omit [PrintTable] [Qos.ResourceHelper] in
theorem touches_loop (uid dir : String) (within : Pending) (gauge : Gauge) :
    LoopRule (arena home) trivially uid dir (fun _ pending w => Touches uid within gauge pending w)
      (loopResult (fun _ pending w => Touches uid within gauge pending w)
        fun result w => Touches uid within gauge result.2 w) where
  silent _ _ := silent _
  ctx _ _ _ act := ⟨act, trivial⟩
  stat _ _ _ act := ⟨act, trivial⟩
  written write _ _ _ touches _ act :=
    ⟨trivial, act.trans touches.1, recordCompletedWrite_subset touches.2 write⟩
  refused _ _ _ _ touches _ _ act _ := ⟨trivial, act.trans touches.1, touches.2⟩
  completed _ _ touches := touches
  failed _ _ _ _ _ touches := touches
  gone _ _ _ _ touches _ := ⟨touches.1, (Finset.erase_subset _ _).trans touches.2⟩

theorem apply_touches (cfg : Config) (pending : Pending) (pod : Pod) (reportNotices : Bool)
    (gauge : Gauge) :
    Holds (arena home) trivially (fun w => w = gauge) (Apply.apply cfg pending pod reportNotices)
      fun result w => Touches pod.uid pending gauge result.2 w := by
  have within : pending ⊆ insert pod.uid pending := Finset.subset_insert _ _
  refine apply_holds (J := fun _ _ p w => Touches pod.uid pending gauge p w) (stable _)
    (fun _ _ _ act => ⟨act, trivial⟩) (fun _ w same => ⟨same, within⟩) (fun dir _ => ?_)
    (fun dir s _ => touches_loop pod.uid dir pending gauge) (fun s writes p _ => ?_)
    fun _ _ _ _ touches => touches
  · refine (reading _ dir).post fun result w same => ?_
    cases result with
    | ok snapshot => exact ⟨same, (planFor_subset _ _ _ _).trans within⟩
    | error err => exact ⟨fun _ => ⟨same, (Finset.erase_subset _ _).trans within⟩, fun _ => ⟨same, within⟩⟩
  · exact noticesOf_holds (silent _) cfg pod reportNotices s

theorem revert_touches (cfg : Config) (pending : Pending) (pod : Pod) (snapshot : Snapshot)
    (gauge : Gauge) :
    Holds (arena home) trivially (fun w => w = gauge) (Apply.revert cfg pending pod snapshot)
      fun result w => Touches pod.uid pending gauge result.2 w := by
  have within : pending ⊆ insert pod.uid pending := Finset.subset_insert _ _
  exact revert_holds (J := fun _ p w => Touches pod.uid pending gauge p w) (stable _)
    (fun _ _ _ act => ⟨act, trivial⟩) (fun _ w same => ⟨same, within⟩)
    (fun w same => ⟨same, (planFor_subset _ _ _ _).trans within⟩)
    (fun dir _ => touches_loop pod.uid dir pending gauge) (fun _ _ _ _ _ touches => touches)
    fun _ _ touches => touches

/-! ## A call of `Reconcile` -/

omit [PrintTable] [Qos.ResourceHelper] in
theorem forgotten_books (cfg : Config) {key : String} {pod : Pod} (state : State) :
    Holds (arena home) trivially (Held home key pod.uid state) (forgotten cfg state key pod)
      fun state' gauge => Held home key pod.uid state' gauge := by
  refine ((setPodActual_books cfg.node .zero (state.forgetApplierPodState pod.uid)).pre
    fun gauge held => ?_).post fun state' gauge known => known.1
  exact ⟨⟨held.books.journal held.present
    ((Finset.erase_subset _ _).trans (Finset.subset_insert _ _)), held.gauge⟩, held.tracked⟩

omit [Qos.ResourceHelper] in
theorem refreshPodActual_books (cfg : Config) {key dir : String} {pod : Pod} (state : State) :
    Holds (arena home) trivially (Held home key pod.uid state) (refreshPodActual cfg state key pod dir)
      fun result gauge => Held home key pod.uid result.2 gauge :=
  refreshPodActual_holds (reading _ dir) (fun _ _ _ held _ => held)
    (fun _ _ _ => forgotten_books cfg state)
    fun snapshot => (setPodActual_books cfg.node snapshot state).post fun _ _ known => known.1

/-- What `locate` ends with. -/
def Located (home : Home) (key : String) : Lookup → Gauge → Prop
  | .ended _ state, gauge => Kept home state gauge
  | .located pod _ _ state, gauge => Held home key pod.uid state gauge

omit [Qos.ResourceHelper] in
theorem locatePod_books (cfg : Config) {key : String} {pod : Pod} (own : key = keyOf (home pod.uid))
    (state : State) : Holds (arena home) trivially (Kept home state) (locatePod cfg state key pod)
      (Located home key) :=
  locatePod_holds (T := fun state gauge => Held home key pod.uid state gauge)
    (R := fun _ _ state gauge => Held home key pod.uid state gauge)
    (observePodIdentity_books cfg.node own state) (fun _ _ _ held => held.toKept)
    (fun dir _ _ => reading _ dir) (fun _ _ _ _ held _ => held)
    (fun _ _ state _ _ => (forgotten_books cfg state).post fun _ _ held => held.toKept)
    fun _ snapshot state => (setPodActual_books cfg.node snapshot state).post fun _ _ known => known.1

omit [PrintTable] [Qos.ResourceHelper] in
theorem split_slash {key a b : String} (parts : split key '/' = [a, b]) : key = a ++ "/" ++ b := by
  have joined := join_split key (show "/".toList = ['/'] from rfl)
  rw [parts] at joined
  simp only [List.map_cons, List.map_nil, join_eq_foldr, List.foldr_cons, List.foldr_nil] at joined
  have chars := congrArg String.toList joined
  simp only [String.toList_append, String.toList_empty, List.append_nil] at chars
  refine String.toList_inj.mp ?_
  rw [String.toList_append, String.toList_append]
  exact List.append_cancel_right (by rw [← chars, List.append_assoc, List.append_assoc, List.append_assoc])

omit [Qos.ResourceHelper] in
theorem splitMetaNamespaceKey_ok {key ns name : String}
    (parts : splitMetaNamespaceKey key = .ok (ns, name)) :
    (ns = "" ∧ key = name) ∨ key = keyOf (ns, name) := by
  unfold splitMetaNamespaceKey at parts
  split at parts
  · rename_i one
    simp only [Except.ok.injEq, Prod.mk.injEq] at parts
    obtain ⟨rfl, rfl⟩ := parts
    refine .inl ⟨rfl, ?_⟩
    have joined := join_split key (show "/".toList = ['/'] from rfl)
    rw [one] at joined
    simpa [join_eq_foldr] using joined.symm
  · rename_i two
    simp only [Except.ok.injEq, Prod.mk.injEq] at parts
    obtain ⟨rfl, rfl⟩ := parts
    exact .inr (split_slash two)
  · cases parts

omit [Qos.ResourceHelper] in
theorem ensureInitialized_books (cfg : Config) (state : State) :
    Holds (arena home) trivially (Kept home state) (ensureInitialized cfg state)
      fun state' gauge => Kept home state' gauge :=
  .ite (fun _ => .pure fun _ kept => kept) fun _ =>
    .bind (refreshPodsInTier_books cfg state) fun _ => .pure fun _ kept => kept

/-- What a cache answer tells: a pod is found under its own key. -/
def Answered (home : Home) (key : String) : GetResult → State → Gauge → Prop
  | .found pod, state, gauge => key = keyOf (home pod.uid) ∧ Kept home state gauge
  | _, state, gauge => Kept home state gauge

omit [Qos.ResourceHelper] in
theorem answered {key ns name : String} (named : splitMetaNamespaceKey key = .ok (ns, name))
    {state : State} {gauge gauge' : Gauge} (kept : Kept home state gauge) {answer : GetResult}
    (act : act home gauge (.getCache ns name) answer gauge') : Answered home key answer state gauge' := by
  obtain ⟨rfl, shows⟩ := act
  cases answer with
  | notFound => exact kept
  | failed err => exact kept
  | found pod =>
      obtain ⟨sameNs, sameName, atHome⟩ := shows pod rfl
      refine ⟨?_, kept⟩
      rcases splitMetaNamespaceKey_ok named with ⟨empty, -⟩ | same
      · exact absurd (sameNs.trans empty) atHome.namespaced
      · rw [same, atHome.place, sameNs, sameName]

omit [Qos.ResourceHelper] in
theorem locate_books (cfg : Config) (state : State) (key : String) :
    Holds (arena home) trivially (Kept home state) (locate cfg state key) (Located home key) := by
  have remove : ∀ state : State, Holds (arena home) trivially (Kept home state)
      (removePodByKey cfg.node state key) fun state gauge => Located home key (.ended none state) gauge :=
    fun state => (removePodByKey_books cfg.node key state).post fun _ _ known => known.1
  refine locate_holds (J := fun state gauge => Kept home state gauge) (R := Answered home key) (stable _)
    (fun _ _ _ act => ⟨act, trivial⟩) (fun _ kept _ => kept) (ensureInitialized_books cfg state)
    (fun _ => stable _) (fun _ _ _ _ _ kept => kept)
    (fun state ns name named w kept answer w' act => ⟨trivial, answered named kept act⟩)
    (fun _ _ _ _ kept => kept) remove (fun pod state _ => ?_) fun pod state _ => ?_
  · exact (remove state).pre fun w known => known.2
  · exact .assume fun own => locatePod_books cfg own state

theorem callApplier_books (cfg : Config) (resync : Bool) {pod : Pod} (snapshot : Snapshot)
    (assessment : Assessment) (noticesChanged : Bool) (gauge : Gauge) :
    Holds (arena home) trivially (fun w => w = gauge)
      (callApplier (.real cfg) cfg resync pod snapshot assessment noticesChanged)
      fun result w => Touches pod.uid assessment.pending gauge result.2 w := by
  unfold callApplier
  refine .bind (R := fun _ w => w = gauge) ?_ fun _ => ?_
  · exact .ite (fun _ => .keeps (stable _) ((silent _).inc _)) fun _ => .pure fun _ same => same
  · exact .ite (fun _ => apply_touches cfg _ pod _ gauge) fun _ => revert_touches cfg _ pod snapshot gauge

theorem reconcilePod_books (cfg : Config) {key dir : String} (resync : Bool) {pod : Pod}
    (snapshot : Snapshot) (state : State) :
    Holds (arena home) trivially (Held home key pod.uid state)
      (reconcilePod (.real cfg) cfg state key resync pod dir snapshot)
      fun result gauge => Held home key pod.uid result.2 gauge := by
  refine .of_forall fun gauge held => ?_
  have assessed := assess_subset state.pending pod snapshot
  have journal : ∀ pending, pending ⊆ insert pod.uid state.pending →
      Held home key pod.uid { state with pending } gauge := fun pending within =>
    ⟨⟨held.books.journal held.present within, held.gauge⟩, held.tracked⟩
  have quiet := journal _ (assessed.trans (Finset.subset_insert _ _))
  unfold reconcilePod
  refine .ite (fun _ => .pure fun w same => ?_) fun _ => .ite (fun _ => .pure fun w same => ?_) fun _ => ?_
  · exact ⟨⟨quiet.books.note quiet.present "", same ▸ quiet.gauge⟩, quiet.tracked⟩
  · exact same ▸ quiet
  refine .bind (callApplier_books cfg resync snapshot _ _ gauge) fun result => ?_
  obtain ⟨err, pending⟩ := result
  rintro w ⟨same, within⟩
  have after := journal pending (within.trans (Finset.insert_subset_insert _ assessed))
  rw [← same] at after
  cases err with
  | some err =>
      exact Safe.bind ((refreshPodActual_books cfg _ w after).mono fun _ _ known => known)
  | none =>
      exact refreshPodActual_books cfg _ w
        ⟨⟨after.books.note after.present _, after.gauge⟩, after.tracked⟩

theorem reconcile_books (cfg : Config) (state : State) (key : String) (resync : Bool) :
    Holds (arena home) trivially (Kept home state) (reconcile (.real cfg) cfg state key resync)
      fun result gauge => Kept home result.2 gauge := by
  refine .bind (locate_books cfg state key) fun found => ?_
  cases found with
  | ended err state => exact .pure fun _ kept => kept
  | located pod dir snapshot state =>
      exact (reconcilePod_books cfg resync snapshot state).post fun _ _ held => held.toKept

/-! ## What a call sees -/

omit [PrintTable] [Qos.ResourceHelper] in
/-- Nobody else moves the gauge. -/
theorem recorded_request {r : Request} {answer : Answer r} {w w' : Gauge × Events}
    (run : Exec (arena home).recorded (ask r) w answer w') :
    act home w.1 r answer w'.1 ∧ w'.2 = w.2 ++ [⟨r, answer⟩] := by
  obtain ⟨w₁, moves, acts, logged⟩ := run.of_request
  obtain ⟨still, same⟩ := Arena.recorded_moves moves
  have unmoved : w.1 = w₁.1 := by
    rcases still.cases_head with same | ⟨_, move, _⟩
    · exact same
    · exact move.elim
  rw [unmoved, ← same]
  exact ⟨acts, logged⟩

theorem reconcile_seen (cfg : Config) {state state' : State} {key : String} {resync : Bool}
    {seen : Ledger} {gauge gauge' : Gauge} {events : Events} {err : Option GoError}
    (kept : Kept home state gauge) (accords : Accords seen state)
    (run : Exec (arena home).recorded (reconcile (.real cfg) cfg state key resync) (gauge, []) (err, state')
      (gauge', events)) : Accords (afterPass cfg home key events seen) state' := by
  obtain ⟨found, ⟨gauge₁, log₁⟩, locates, onward⟩ := run.of_bind
  obtain ⟨after₂, rfl, path₂⟩ := onward.transcript
  unfold locate at locates
  obtain ⟨cancelled, ⟨gauge₂, log₂⟩, asked, locates⟩ := locates.of_bind
  obtain ⟨same, rfl⟩ := recorded_request asked
  obtain rfl : gauge₂ = gauge := same
  cases cancelled with
  | true =>
      obtain ⟨rfl, ⟨⟩⟩ := locates.of_done
      obtain ⟨rfl, ⟨⟩⟩ := path₂.of_pure
      exact accords
  | false =>
  obtain ⟨state₁, ⟨gauge₃, log₃⟩, scans, locates⟩ := locates.of_bind
  obtain ⟨before, rfl, scanning⟩ := scans.transcript
  have kept₁ := Safe.exec scans.forget (ensureInitialized_books cfg state _ kept)
  have accords₁ := ensureInitialized_seen cfg accords scanning
  have others : ∀ event ∈ (⟨.ctxErr, false⟩ :: before : Events), ¬Fetch event.1 :=
    List.forall_mem_cons.mpr ⟨nofun, scanning.asks (ensureInitialized_asks cfg state)⟩
  cases named : splitMetaNamespaceKey key with
  | error failed =>
      simp only [named] at locates
      obtain ⟨rfl, ⟨⟩⟩ := locates.of_done
      obtain ⟨rfl, ⟨⟩⟩ := path₂.of_pure
      rw [List.append_nil, afterPass, List.nil_append, List.singleton_append, fetched_none others]
      exact accords₁
  | ok place =>
  obtain ⟨ns, name⟩ := place
  simp only [named] at locates
  obtain ⟨answer, ⟨gauge₄, log₄⟩, fetched, locates⟩ := locates.of_bind
  obtain ⟨-, rfl⟩ := recorded_request fetched
  obtain ⟨after₁, rfl, path₁⟩ := locates.transcript
  have transcript : [] ++ [⟨.ctxErr, false⟩] ++ before ++ [⟨.getCache ns name, answer⟩] ++ after₁ ++ after₂ =
      (⟨.ctxErr, false⟩ :: before) ++ (⟨.getCache ns name, answer⟩ : Program.Event nodeSignature) ::
        (after₁ ++ after₂) := by simp
  rw [transcript]
  refine Accords.fetched others ?_
  cases answer with
  | notFound =>
      obtain ⟨state₂, rfl, vacated⟩ := removed_seen accords₁ kept₁.books path₁
      obtain ⟨-, ⟨⟩⟩ := path₂.of_pure
      exact vacated
  | failed failed =>
      obtain ⟨-, ⟨⟩⟩ := path₁.of_pure
      obtain ⟨-, ⟨⟩⟩ := path₂.of_pure
      exact accords₁
  | found pod =>
  dsimp only [afterAnswer] at path₁ ⊢
  split at path₁
  · rename_i mirror
    obtain ⟨state₂, rfl, vacated⟩ := removed_seen accords₁ kept₁.books path₁
    obtain ⟨-, ⟨⟩⟩ := path₂.of_pure
    rw [if_pos mirror]
    exact vacated
  · rename_i real
    rw [if_neg real]
    have sighted := locatePod_seen cfg accords₁ kept₁.books path₁
    cases found with
    | ended err state₂ =>
        obtain ⟨rfl, ⟨⟩⟩ := path₂.of_pure
        rw [List.append_nil]
        exact sighted
    | located pod' dir snapshot state₂ =>
        obtain rfl := sighted.1
        exact located_seen _ cfg sighted path₂

/-! ## Runs -/

/-- One call. -/
inductive Step (cfg : Config) (home : Home) : State × Gauge → State × Gauge → Prop where
  | reconcile {state state' : State} {gauge gauge' : Gauge} {err : Option GoError} (key : String)
      (resync : Bool)
      (run : Exec (arena home) (reconcile (.real cfg) cfg state key resync) gauge (err, state') gauge') :
      Step cfg home (state, gauge) (state', gauge')
  | refresh {state state' : State} {gauge gauge' : Gauge} {err : Option GoError}
      (run : Exec (arena home) (refreshPodsInTier cfg state) gauge (err, state') gauge') :
      Step cfg home (state, gauge) (state', gauge')

/-- A new Reconciler, and no series yet. -/
def start : State × Gauge := (.new, fun _ => none)

/-- What a run of calls reaches. -/
abbrev Reaches (cfg : Config) (home : Home) (c : State × Gauge) : Prop :=
  Relation.ReflTransGen (Step cfg home) start c

theorem run_books {cfg : Config} {c : State × Gauge} (run : Reaches cfg home c) :
    Kept home c.1 c.2 := by
  induction run with
  | refl => exact ⟨.new, rfl⟩
  | tail _ step ih =>
      cases step with
      | @reconcile state _ _ _ _ key resync run =>
          have ended := Safe.exec run (reconcile_books cfg state key resync _ ih)
          exact ended
      | @refresh state _ _ _ _ run =>
          have ended := Safe.exec run (refreshPodsInTier_books cfg state _ ih)
          exact ended

/-- One call, and what it adds to the ledger. -/
inductive Recorded (cfg : Config) (home : Home) :
    (State × Gauge) × Ledger → (State × Gauge) × Ledger → Prop where
  | reconcile {state state' : State} {gauge gauge' : Gauge} {err : Option GoError} {events : Events}
      {seen : Ledger} (key : String) (resync : Bool)
      (run : Exec (arena home).recorded (reconcile (.real cfg) cfg state key resync) (gauge, []) (err, state')
        (gauge', events)) :
      Recorded cfg home ((state, gauge), seen) ((state', gauge'), afterPass cfg home key events seen)
  | refresh {state state' : State} {gauge gauge' : Gauge} {err : Option GoError} {events : Events}
      {seen : Ledger}
      (run : Exec (arena home).recorded (refreshPodsInTier cfg state) (gauge, []) (err, state')
        (gauge', events)) :
      Recorded cfg home ((state, gauge), seen) ((state', gauge'), afterScan cfg events seen)

/-- A run of calls with its ledger, which is empty at first. -/
abbrev Observes (cfg : Config) (home : Home) (c : (State × Gauge) × Ledger) : Prop :=
  Relation.ReflTransGen (Recorded cfg home) (start, fun _ => none) c

/-- Every run can be recorded. -/
theorem Reaches.observes {cfg : Config} {c : State × Gauge} (run : Reaches cfg home c) :
    ∃ seen, Observes cfg home (c, seen) := by
  induction run with
  | refl => exact ⟨_, .refl⟩
  | tail _ step ih =>
      obtain ⟨seen, earlier⟩ := ih
      cases step with
      | reconcile key resync run =>
          obtain ⟨events, recorded⟩ := run.record []
          exact ⟨_, earlier.tail (.reconcile key resync recorded)⟩
      | refresh run =>
          obtain ⟨events, recorded⟩ := run.record []
          exact ⟨_, earlier.tail (.refresh recorded)⟩

/-- **The books are what was last seen**, along every recorded run. -/
theorem run_seen {cfg : Config} {c : (State × Gauge) × Ledger} (run : Observes cfg home c) :
    Kept home c.1.1 c.1.2 ∧ Accords c.2 c.1.1 := by
  induction run with
  | refl => exact ⟨⟨.new, rfl⟩, fun uid => rfl⟩
  | tail _ step ih =>
      obtain ⟨kept, accords⟩ := ih
      cases step with
      | @reconcile state _ _ _ _ _ _ key resync run =>
          have ended := Safe.exec run.forget (reconcile_books cfg state key resync _ kept)
          exact ⟨ended, reconcile_seen cfg kept accords run⟩
      | @refresh state _ _ _ _ _ _ run =>
          have ended := Safe.exec run.forget (refreshPodsInTier_books cfg state _ kept)
          obtain ⟨scanning, rfl, path⟩ := run.transcript
          exact ⟨ended, refreshPodsInTier_seen cfg accords path⟩

/-! ## A scan that sees nothing new -/

/-- The cache lists these pods, and the control files are those of these cgroups. -/
def shows (pods : List Pod) (cgroups : String → Option Kernel.Cgroup) : (r : Request) → Answer r → Prop
  | .listCache, answer => answer = (.ok pods : Except GoError (List Pod))
  | .readFile dir name, answer => ∀ content, answer = ReadResult.data content →
      ∃ c, cgroups dir = some c ∧ c.content name = some content
  | .stat dir, answer => answer = StatResult.notExist → cgroups dir = none
  | _, _ => True

omit [PrintTable] [Qos.ResourceHelper] in
theorem shows_files (pods : List Pod) (cgroups : String → Option Kernel.Cgroup) :
    Kernel.Files ((arena home).restrict (shows pods cgroups)) trivially fun _ => cgroups where
  read_inert _ _ _ _ _ act := ⟨act.1, trivial⟩
  stat_inert _ _ _ _ act := ⟨act.1, trivial⟩
  read_data _ _ _ content _ act := act.2 content rfl
  stat_gone _ _ _ act := act.2 rfl

/-- This snapshot is the last that was seen of the pod, under the same spec. -/
def LastSeen (seen : Ledger) (pod : Pod) (snapshot : Snapshot) : Prop :=
  ∃ earlier : Pod, seen pod.uid = some (earlier, snapshot) ∧ earlier.ns = pod.ns ∧ earlier.spec = pod.spec

/-- The pod's namespace and spec, and what its cgroup shows, are as last seen. -/
structure AsObserved (cfg : Config) (cgroups : String → Option Kernel.Cgroup) (seen : Ledger) (pod : Pod) :
    Prop where
  present : ∀ dir, cfg.layout.podDir (Qos.toCgroupClass (Qos.classOf pod.spec)) pod.uid = .ok dir →
    ∀ c, cgroups dir = some c → LastSeen seen pod c.snapshot
  gone : ∀ dir, cfg.layout.podDir (Qos.toCgroupClass (Qos.classOf pod.spec)) pod.uid = .ok dir →
    cgroups dir = none → runningPodNeedsCgroup pod = false → LastSeen seen pod .zero

omit [Qos.ResourceHelper] [PrintTable] in
theorem LastSeen.tiers {seen : Ledger} {pod : Pod} {snapshot : Snapshot}
    (observed : LastSeen seen pod snapshot) (accords : Accords seen state) :
    tiersOf pod snapshot = lastKnownTiers state pod.uid := by
  obtain ⟨earlier, found, sameNs, sameSpec⟩ := observed
  rw [accords pod.uid, found]
  simp [seenTiers, tiersOf, sameNs, sameSpec]

/-- The accumulator agrees with the books while these pods are still to do. -/
structure Agrees (cfg : Config) (cgroups : String → Option Kernel.Cgroup) (seen : Ledger) (state : State)
    (pods : List Pod) (acc : Refresh) : Prop where
  same : ∀ uid ∈ acc.memberships, acc.memberships.lookup uid = state.podMemberships.lookup uid
  domain : ∀ uid, uid ∈ state.podMemberships ↔
    uid ∈ acc.memberships ∨ ∃ pod ∈ pods, isMirrorPod pod = false ∧ pod.uid = uid
  observed : ∀ pod ∈ pods, isMirrorPod pod = false → AsObserved cfg cgroups seen pod

omit [Qos.ResourceHelper] in
theorem Agrees.skip {cfg : Config} {cgroups : String → Option Kernel.Cgroup} {seen : Ledger} {pod : Pod}
    {pods : List Pod} {acc : Refresh} (agrees : Agrees cfg cgroups seen state (pod :: pods) acc)
    (mirror : isMirrorPod pod = true) : Agrees cfg cgroups seen state pods acc where
  same := agrees.same
  domain uid := by simp [agrees.domain uid, mirror]
  observed p member := agrees.observed p (by simp [member])

omit [Qos.ResourceHelper] in
theorem Agrees.take {cfg : Config} {cgroups : String → Option Kernel.Cgroup} {seen : Ledger} {pod : Pod}
    {pods : List Pod} {acc : Refresh} (agrees : Agrees cfg cgroups seen state (pod :: pods) acc)
    (books : Books home state) (own : AtHome home pod) (real : isMirrorPod pod = false)
    (errs : List GoError) :
    Agrees cfg cgroups seen state pods (acc.take pod (lastKnownTiers state pod.uid) errs) where
  same uid member := by
    by_cases here : uid = pod.uid
    · have tracked : pod.uid ∈ state.podMemberships :=
        (agrees.domain pod.uid).mpr (.inr ⟨pod, by simp, real, rfl⟩)
      obtain ⟨membership, found⟩ := Finmap.mem_iff.mp tracked
      have named : metaNamespaceKey pod = membership.key := by
        rw [own.key, books.homes pod.uid membership found]
      rw [here, found]
      simp [Refresh.take, found, lastKnownTiers, named]
    · rw [Refresh.take, Finmap.lookup_insert_of_ne _ here]
      refine agrees.same uid ?_
      rcases Finmap.mem_insert.mp member with same | member
      · exact absurd same here
      · exact member
  domain uid := by
    simp only [agrees.domain uid, Refresh.take, Finmap.mem_insert, List.mem_cons, exists_eq_or_imp, real,
      true_and]
    tauto
  observed p member := agrees.observed p (by simp [member])

omit [PrintTable] [Qos.ResourceHelper] in
/-- Books are determined by their memberships. -/
theorem rescanned_same {acc : Refresh} (books : Books home state) (scan : Scan home [] acc)
    (same : acc.memberships = state.podMemberships) :
    state.rescanned acc = { state with metricsInitialized := true } := by
  have keys : acc.uidsByKey = state.podUIDByKey := by
    refine Finmap.ext_lookup fun key => Option.ext fun uid => ?_
    rw [books.keyed key uid, ← same]
    exact scan.books.keyed key uid
  have counts : acc.counts = state.podsInTierCounts := by
    refine Finmap.ext_lookup fun label => ?_
    rw [books.counted label, ← same]
    exact scan.books.counted label
  have notes : (state.rescanned acc).lastNotes = state.lastNotes := by
    refine Finmap.ext_lookup fun uid => ?_
    rw [State.rescanned, lookup_pruneNoteState, if_neg]
    rintro ⟨noted, unlisted⟩
    refine unlisted ((scan.current uid).mpr ?_)
    rw [same]
    exact books.noted uid (Finmap.mem_keys.mp ((mem_walk _ uid).mp noted))
  have pending : (state.rescanned acc).pending = state.pending := by
    ext uid
    rw [State.rescanned, mem_forgetGone, and_iff_left_iff_imp]
    rintro journaled -
    rw [scan.current uid, same]
    exact books.journaled uid journaled
  calc state.rescanned acc
      = ⟨true, acc.memberships, acc.uidsByKey, acc.counts, (state.rescanned acc).lastNotes,
          (state.rescanned acc).pending⟩ := rfl
    _ = { state with metricsInitialized := true } := by rw [same, keys, counts, notes, pending]

omit [Qos.ResourceHelper] in
theorem refreshPodsInTier_still (cfg : Config) (state : State) {seen : Ledger} (accords : Accords seen state)
    {pods : List Pod} {cgroups : String → Option Kernel.Cgroup}
    (listed : ∀ uid, uid ∈ state.podMemberships ↔ ∃ pod ∈ pods, isMirrorPod pod = false ∧ pod.uid = uid)
    (observed : ∀ pod ∈ pods, isMirrorPod pod = false → AsObserved cfg cgroups seen pod) :
    Holds ((arena home).restrict (shows pods cgroups)) trivially (Kept home state)
      (refreshPodsInTier cfg state) fun result gauge =>
        result.2 = { state with metricsInitialized := true } ∧ gauge = exported state := by
  rintro gauge ⟨books, rfl⟩
  have still : ∀ P : Gauge → Prop, ((arena home).restrict (shows pods cgroups)).Stable P :=
    fun P => (stable P).restrict _
  refine refreshPodsInTier_holds (exported state) (P := fun w => w = exported state)
    (K := fun pods acc gauge w => (Scan home pods acc ∧ Agrees cfg cgroups seen state pods acc) ∧ w = gauge)
    (still _) (fun _ _ _ _ act => ⟨act.1, trivial⟩) (fun w same answer w' act => ?_)
    (fun pod rest acc => ?_) (fun acc => ?_) (fun acc w known => ?_) _ rfl
  · obtain ⟨⟨rfl, shown⟩, rfl⟩ := act
    refine ⟨trivial, ⟨fun err refused => ?_, fun pods' listed' => ?_⟩⟩
    · cases refused
    obtain rfl := Except.ok.inj listed'
    obtain ⟨homes, distinct⟩ := shown pods rfl
    refine ⟨⟨.start homes distinct, fun uid member => absurd member Finmap.notMem_empty,
      fun uid => ?_, observed⟩, same⟩
    rw [listed uid, or_iff_right (show uid ∉ Refresh.start.memberships from Finmap.notMem_empty)]
  · refine .assume fun ⟨scan, agrees⟩ => ?_
    have own := scan.homes pod (by simp)
    refine refreshPod_holds (R := fun tiers w => tiers = lastKnownTiers state pod.uid ∧ w = exported state)
      (fun mirror w same => ⟨⟨scan.skip, agrees.skip mirror⟩, same⟩) (fun _ _ w same => ⟨rfl, same⟩)
      (fun real dir computed => ?_) fun real tiers errs w known => ?_
    · have settled : ∀ w : Gauge, w = exported state →
          Kernel.Settled (fun _ => cgroups) dir ((cgroups dir).getD Journal.idleCgroup) w :=
        fun w _ c present => by simp [show cgroups dir = some c from present]
      refine ((shows_files pods cgroups).readSnapshot (still _) settled).post fun result w known => ?_
      obtain ⟨same, shown⟩ := known
      have observed := agrees.observed pod (by simp) real
      cases result with
      | ok snapshot =>
          obtain ⟨rfl, present⟩ := shown
          exact ⟨(observed.present dir computed _ present).tiers accords, same⟩
      | error err =>
          dsimp only
          split
          · exact ⟨rfl, same⟩
          · rename_i isGone
            simp only [Bool.or_eq_true, Bool.not_eq_true', not_or, Bool.not_eq_false,
              Bool.not_eq_true] at isGone
            exact ⟨(observed.gone dir computed (shown isGone.1) isGone.2).tiers accords, same⟩
    · obtain ⟨rfl, same⟩ := known
      exact ⟨⟨scan.take _ errs, agrees.take books own real errs⟩, same⟩
  · exact {
      stable := fun gauge => still _
      walk := fun labels w answer w' act => (series home).walk labels w answer w' act.1
      set := fun gauge w known node label count answer w' act =>
        ⟨trivial, known.1, ((series home).set gauge w known.2 node label count answer w' act.1).2⟩
      delete := fun gauge w known node label answer w' act =>
        ⟨trivial, known.1, ((series home).delete gauge w known.2 node label answer w' act.1).2⟩ }
  · obtain ⟨⟨scan, agrees⟩, same⟩ := known
    have memberships : acc.memberships = state.podMemberships := by
      refine Finmap.ext_lookup fun uid => ?_
      by_cases member : uid ∈ acc.memberships
      · exact agrees.same uid member
      · have absent : uid ∉ state.podMemberships := by simpa [member] using (agrees.domain uid).not
        rw [Finmap.lookup_eq_none.mpr member, Finmap.lookup_eq_none.mpr absent]
    have unchanged := rescanned_same books scan memberships
    refine ⟨unchanged, same.trans ?_⟩
    rw [swept_rescanned, unchanged]
    rfl

/-! ## A pod that is not there -/

/-- A live context, and a cache that shows no pod, or a mirror pod. -/
def unlisted : (r : Request) → Answer r → Prop
  | .ctxErr, answer => answer = false
  | .getCache _ _, answer =>
      answer = GetResult.notFound ∨ ∃ pod, answer = GetResult.found pod ∧ isMirrorPod pod = true
  | _, _ => True

/-- How `locate` ends then. -/
def Missing (home : Home) (key : String) : Lookup → Gauge → Prop
  | .ended err state, gauge => err = none ∧ Kept home state gauge ∧ key ∉ state.podUIDByKey
  | .located _ _ _ _, _ => False

theorem reconcile_unlisted (applier : Applier) (cfg : Config) (state : State) {key : String}
    (resync : Bool) {place : String × String} (named : splitMetaNamespaceKey key = .ok place) :
    Holds ((arena home).restrict unlisted) trivially (Kept home state)
      (reconcile applier cfg state key resync)
      fun result gauge => result.1 = none ∧ Kept home result.2 gauge ∧ key ∉ result.2.podUIDByKey := by
  have still : ∀ P : Gauge → Prop, ((arena home).restrict unlisted).Stable P :=
    fun P => (stable P).restrict _
  have remove : ∀ state : State, Holds ((arena home).restrict unlisted) trivially (Kept home state)
      (removePodByKey cfg.node state key) fun state gauge => Missing home key (.ended none state) gauge :=
    fun state => ((removePodByKey_books cfg.node key state).restrict _).post fun _ _ known => ⟨rfl, known⟩
  have located : Holds ((arena home).restrict unlisted) trivially (Kept home state)
      (locate cfg state key) (Missing home key) := by
    refine locate_holds (J := fun state gauge => Kept home state gauge)
      (R := fun answer state gauge => unlisted (.getCache place.1 place.2) answer ∧ Kept home state gauge)
      (still _) (fun _ _ _ act => ⟨act.1, trivial⟩) (fun _ _ act => absurd act.2 (by simp [unlisted]))
      ((ensureInitialized_books cfg state).restrict _) (fun _ => still _)
      (fun err bad => by simp [named] at bad) (fun state ns name split w kept answer w' act => ?_)
      (fun err _ state w known => ?_) (fun state => (remove state).pre fun w known => known.2)
      (fun pod state _ => (remove state).pre fun w known => known.2) fun pod state real => .absurd ?_
    · exact ⟨trivial, act.2, act.1.1 ▸ kept⟩
    · exact absurd known.1 (by simp [unlisted])
    · rintro w ⟨missing | ⟨pod', found, mirror⟩, -⟩
      · cases missing
      · obtain rfl := GetResult.found.inj found
        simp [real] at mirror
  refine .bind located fun found => ?_
  cases found with
  | ended err state => exact .pure fun _ known => known
  | located pod dir snapshot state => exact .absurd fun _ never => never

end

end Books

section

variable [PrintTable] [Qos.ResourceHelper]

open Books in
/-- **The gauge is the memberships.** After any calls, each label is counted as often as
it occurs over the memberships, no count is below one, and the exported series are those
counts. Every run has a ledger of what its calls saw last of each pod, and the books are
what the ledger tells. When the cache lists the tracked pods, each with the spec and the
snapshot of the ledger, a full scan computes the very same state. -/
theorem gauge_tracks_memberships (cfg : Config) (home : Books.Home) {state : State} {gauge : Gauge}
    (run : Reaches cfg home (state, gauge)) :
    (∀ label, (state.podsInTierCounts.lookup label =
        if tally Membership.tiers state.podMemberships label = 0 then none
        else some (tally Membership.tiers state.podMemberships label : Int)) ∧
      gauge label = state.podsInTierCounts.lookup label) ∧
    (∃ seen, Observes cfg home ((state, gauge), seen)) ∧
    ∀ seen, Observes cfg home ((state, gauge), seen) →
      (∀ uid, lastKnownTiers state uid = seenTiers (seen uid)) ∧
      ∀ (pods : List Pod) (cgroups : String → Option Kernel.Cgroup),
        (∀ uid, uid ∈ state.podMemberships ↔ ∃ pod ∈ pods, isMirrorPod pod = false ∧ pod.uid = uid) →
        (∀ pod ∈ pods, isMirrorPod pod = false → AsObserved cfg cgroups seen pod) →
        ∀ result gauge', Exec ((arena home).restrict (shows pods cgroups)) (refreshPodsInTier cfg state) gauge
            result gauge' →
          result.2 = { state with metricsInitialized := true } ∧ gauge' = gauge := by
  obtain ⟨books, same⟩ := run_books run
  refine ⟨fun label => ⟨?_, congrFun same label⟩, run.observes, fun seen observes => ?_⟩
  · rw [books.counted label, shown_natCast]
  · obtain ⟨-, accords⟩ := run_seen observes
    refine ⟨accords, fun pods cgroups listed observed result gauge' scan => ?_⟩
    obtain ⟨unchanged, exports⟩ :=
      Safe.exec scan (refreshPodsInTier_still cfg state accords listed observed _ ⟨books, same⟩)
    exact ⟨unchanged, exports.trans same.symm⟩

open Books in
/-- **Nothing is left behind.** After any calls the two directions of the identity maps
agree and every UID with a note or a journal entry is tracked; and a call on a key whose
pod the cache does not show, or shows as a mirror pod, returns nil and leaves neither the
key nor any UID that was ever tracked under it. -/
theorem bookkeeping_consistent (cfg : Config) (home : Books.Home) {state : State} {gauge : Gauge}
    (run : Reaches cfg home (state, gauge)) :
    (∀ key uid, state.podUIDByKey.lookup key = some uid ↔
      (state.podMemberships.lookup uid).map Membership.key = some key) ∧
    (∀ uid ∈ state.lastNotes, uid ∈ state.podMemberships) ∧
    (∀ uid ∈ state.pending, uid ∈ state.podMemberships) ∧
    ∀ key place, splitMetaNamespaceKey key = .ok place → ∀ resync err state' gauge',
      Exec ((arena home).restrict unlisted) (reconcile (.real cfg) cfg state key resync) gauge
        (err, state') gauge' →
      err = none ∧ key ∉ state'.podUIDByKey ∧
      (∀ uid, (state'.podMemberships.lookup uid).map Membership.key ≠ some key) ∧
      ∀ state₀ gauge₀, Reaches cfg home (state₀, gauge₀) → ∀ uid membership,
        state₀.podMemberships.lookup uid = some membership → membership.key = key →
        uid ∉ state'.podMemberships ∧ uid ∉ state'.lastNotes ∧ uid ∉ state'.pending ∧
          ∀ key', state'.podUIDByKey.lookup key' ≠ some uid := by
  have kept := run_books run
  refine ⟨kept.books.keyed, kept.books.noted, kept.books.journaled,
    fun key place named resync err state' gauge' call => ?_⟩
  obtain ⟨isNone, ⟨books, -⟩, absent⟩ :=
    Safe.exec call (reconcile_unlisted _ cfg state resync named _ kept)
  have unheld : ∀ uid, (state'.podMemberships.lookup uid).map Membership.key ≠ some key := by
    intro uid held
    exact absent (Finmap.mem_of_lookup_eq_some ((books.keyed key uid).mpr held))
  refine ⟨isNone, absent, unheld, fun state₀ gauge₀ earlier uid membership₀ found₀ named₀ => ?_⟩
  have untracked : uid ∉ state'.podMemberships := by
    intro member
    obtain ⟨membership, found⟩ := Finmap.mem_iff.mp member
    refine unheld uid ?_
    rw [found, Option.map_some, books.homes uid membership found,
      ← (run_books earlier).books.homes uid membership₀ found₀, named₀]
  refine ⟨untracked, fun noted => untracked (books.noted uid noted),
    fun journaled => untracked (books.journaled uid journaled), fun key' held => ?_⟩
  obtain ⟨membership, found, -⟩ := Tracked.membership books held
  exact untracked (Finmap.mem_of_lookup_eq_some found)

end

/-! ## One pass on a sample node -/

section

open Books

attribute [local instance] asciiTable Qos.containerRequests

/-- Every file is that of this cgroup, and no write succeeds. -/
def quietNode (pods : List Pod) (c : Kernel.Cgroup) : Handler nodeSignature Gauge := fun gauge r =>
  match r with
  | .ctxErr => (false, gauge)
  | .readFile _ name => (match c.content name with
      | some text => .data text
      | none => .notExist, gauge)
  | .stat _ => (.directory, gauge)
  | .writeFile _ _ _ => (.writeFailed ⟨"input/output error", false⟩, gauge)
  | .getPod _ _ => (.notFound, gauge)
  | .patchPod _ _ _ => (.notFound, gauge)
  | .listCache => (.ok pods, gauge)
  | .listNodePods _ => (.ok [], gauge)
  | .getCache ns name => (match pods.find? fun pod => pod.ns = ns ∧ pod.name = name with
      | some pod => .found pod
      | none => .notFound, gauge)
  | .rangeKeys keys => (sortedWalk keys, gauge)
  | .rangeLabels keys => (sortedWalk keys, gauge)
  | .now => ((0 : Int), gauge)
  | .numCPU => ((1 : Int), gauge)
  | .gateCheck _ _ => (.ready .cgroupfs, gauge)
  | .flushTable _ => ((none : Option OsError), gauge)
  | .inc _ => ((), gauge)
  | .setPodsInTier _ label count => ((), Function.update gauge label (some count))
  | .deletePodsInTier _ label => ((), Function.update gauge label none)
  | .event _ => ((), gauge)
  | .reportHealth _ => ((), gauge)

/-- The sample pod never moves. -/
def sampleHome : Home := fun _ => (samplePod.ns, samplePod.name)

/-- The sample pod, annotated idle. -/
def idlePod : Pod :=
  { samplePod with
    annotations := fun key =>
      if key = Annotations.tierKey then some Annotations.tierValueIdle else none }

theorem idlePod_atHome : AtHome sampleHome idlePod := ⟨by decide, rfl⟩

theorem quietNode_act {pods : List Pod} (own : ∀ pod ∈ pods, AtHome sampleHome pod)
    (distinct : (pods.map metaNamespaceKey).Nodup) (c : Kernel.Cgroup) (gauge : Gauge) (r : Request) :
    (arena sampleHome).act gauge r (quietNode pods c gauge r).1 (quietNode pods c gauge r).2 := by
  cases r with
  | listCache => exact ⟨rfl, fun pods' listed => Except.ok.inj listed ▸ ⟨own, distinct⟩⟩
  | getCache ns name =>
      refine ⟨rfl, fun pod shown => ?_⟩
      simp only [quietNode] at shown
      split at shown
      · rename_i pod' found
        obtain rfl := GetResult.found.inj shown
        have named := List.find?_some found
        simp only [decide_eq_true_eq] at named
        exact ⟨named.1, named.2, own pod' (List.mem_of_find?_eq_some found)⟩
      · cases shown
  | _ => rfl

theorem quietNode_shows {pods : List Pod} (c : Kernel.Cgroup) (gauge : Gauge) (r : Request) :
    shows pods (fun _ => some c) r (quietNode pods c gauge r).1 := by
  cases r with
  | listCache => rfl
  | readFile dir name =>
      intro content read
      simp only [quietNode] at read
      split at read
      · rename_i text shown
        exact ⟨c, rfl, ReadResult.data.inj read ▸ shown⟩
      · cases read
  | stat dir => exact fun gone => by cases gone
  | _ => trivial

/-- One pass on the idle pod by a new Reconciler. -/
def idlePass : (Option GoError × State) × Gauge :=
  (reconcile (.real Journal.sampleConfig) Journal.sampleConfig .new "default/web" false).run
    (quietNode [idlePod] Journal.idleCgroup) fun _ => none

/-- A full scan after it. -/
def idleScan : (Option GoError × State) × Gauge :=
  (refreshPodsInTier Journal.sampleConfig idlePass.1.2).run (quietNode [idlePod] Journal.idleCgroup)
    idlePass.2

theorem idleNode_own : ∀ pod ∈ [idlePod], AtHome sampleHome pod := by
  rintro pod member
  rw [List.mem_singleton.mp member]
  exact idlePod_atHome

theorem idleNode_distinct : ([idlePod].map metaNamespaceKey).Nodup := by
  rw [List.map_singleton]
  exact List.nodup_singleton _

theorem idlePass_reached : Reaches Journal.sampleConfig sampleHome (idlePass.1.2, idlePass.2) :=
  .single (.reconcile "default/web" false
    (.of_handler (quietNode_act idleNode_own idleNode_distinct Journal.idleCgroup) _ _))

/-- What it saw. -/
def idleSeen : Ledger :=
  afterPass Journal.sampleConfig sampleHome "default/web"
    ((reconcile (.real Journal.sampleConfig) Journal.sampleConfig .new "default/web" false).events
      (quietNode [idlePod] Journal.idleCgroup) fun _ => none) fun _ => none

theorem idlePass_observed :
    Observes Journal.sampleConfig sampleHome ((idlePass.1.2, idlePass.2), idleSeen) :=
  .single (.reconcile "default/web" false
    (Exec.recorded_run id (quietNode_act idleNode_own idleNode_distinct Journal.idleCgroup) _ _ []))

theorem idleSeen_pod : idleSeen idlePod.uid = some (idlePod, Journal.idleCgroup.snapshot) := rfl

/-- The pod is in the idle series, and a scan finds nothing to change. -/
theorem gauge_tracks_memberships_idle :
    idlePass.2 ⟨"default", "Burstable", "idle"⟩ = some 1 ∧
      idleScan.1.2 = { idlePass.1.2 with metricsInitialized := true } ∧ idleScan.2 = idlePass.2 := by
  have tracks := gauge_tracks_memberships Journal.sampleConfig sampleHome idlePass_reached
  have counted : tally Membership.tiers idlePass.1.2.podMemberships ⟨"default", "Burstable", "idle"⟩ = 1 := by
    decide +kernel
  obtain ⟨stored, exports⟩ := tracks.1 ⟨"default", "Burstable", "idle"⟩
  have allowed : ∀ gauge r, ((arena sampleHome).restrict
      (shows [idlePod] fun _ => some Journal.idleCgroup)).act gauge r
        (quietNode [idlePod] Journal.idleCgroup gauge r).1
        (quietNode [idlePod] Journal.idleCgroup gauge r).2 := fun gauge r =>
    ⟨quietNode_act idleNode_own idleNode_distinct _ gauge r, quietNode_shows Journal.idleCgroup gauge r⟩
  have scan : Exec ((arena sampleHome).restrict (shows [idlePod] fun _ => some Journal.idleCgroup))
      (refreshPodsInTier Journal.sampleConfig idlePass.1.2) idlePass.2 idleScan.1 idleScan.2 :=
    .of_handler allowed _ _
  rw [exports, stored, counted]
  refine ⟨rfl, (tracks.2.2 idleSeen idlePass_observed).2 [idlePod] (fun _ => some Journal.idleCgroup)
    (fun uid => ?_) (fun pod member _ => ?_) idleScan.1 idleScan.2 scan⟩
  · have keys : idlePass.1.2.podMemberships.keys = {idlePod.uid} := by decide +kernel
    rw [← Finmap.mem_keys, keys, Finset.mem_singleton]
    constructor
    · rintro rfl
      exact ⟨idlePod, List.mem_singleton_self _, by decide +kernel, rfl⟩
    · rintro ⟨pod, member, -, rfl⟩
      rw [List.mem_singleton.mp member]
  · obtain rfl := List.mem_singleton.mp member
    have lastSeen : LastSeen idleSeen idlePod Journal.idleCgroup.snapshot := ⟨idlePod, idleSeen_pod, rfl, rfl⟩
    exact ⟨fun dir _ c same => Option.some.inj same ▸ lastSeen, fun dir _ none => by cases none⟩

/-- The next pass, after the pod was deleted. -/
def deletedPass : (Option GoError × State) × Gauge :=
  (reconcile (.real Journal.sampleConfig) Journal.sampleConfig idlePass.1.2 "default/web" false).run
    (quietNode [] Journal.idleCgroup) idlePass.2

/-- The pod was tracked, and nothing of it is left. -/
theorem bookkeeping_consistent_deleted :
    "default/web" ∈ idlePass.1.2.podUIDByKey ∧ deletedPass.1.1 = none ∧
      "default/web" ∉ deletedPass.1.2.podUIDByKey ∧ idlePod.uid ∉ deletedPass.1.2.podMemberships := by
  have consistent := bookkeeping_consistent Journal.sampleConfig sampleHome idlePass_reached
  have held : idlePass.1.2.podUIDByKey.lookup "default/web" = some idlePod.uid := by decide +kernel
  obtain ⟨membership, found, named⟩ := Option.map_eq_some_iff.mp ((consistent.1 _ _).mp held)
  have allowed : ∀ gauge r, ((arena sampleHome).restrict unlisted).act gauge r
      (quietNode [] Journal.idleCgroup gauge r).1 (quietNode [] Journal.idleCgroup gauge r).2 := by
    refine fun gauge r => ⟨quietNode_act (List.forall_mem_nil _) (by simp) _ gauge r, ?_⟩
    cases r with
    | ctxErr => rfl
    | getCache ns name => exact .inl rfl
    | _ => trivial
  have call : Exec ((arena sampleHome).restrict unlisted)
      (reconcile (.real Journal.sampleConfig) Journal.sampleConfig idlePass.1.2 "default/web" false)
      idlePass.2 (deletedPass.1.1, deletedPass.1.2) deletedPass.2 :=
    .of_handler allowed _ _
  obtain ⟨isNone, gone, -, forgotten⟩ := consistent.2.2.2 "default/web" ("default", "web")
    (by decide +kernel) false _ _ _ call
  exact ⟨Finmap.mem_of_lookup_eq_some held, isNone, gone,
    (forgotten _ _ idlePass_reached _ membership found named).1⟩

end

end CpuIdle.Agent
