/-
# Agent.Restoration — no pass forgets a weight it owes

One process from its start: passes on any keys, on this pod under any annotations and on the
others, each cut anywhere. The journal of the applier is the only record of an outstanding weight
restore, and the bookkeeper edits it as well: a pod that leaves, is replaced or loses its cgroup
takes its entry along. This pod does not leave: the cache has it under its key throughout, with its
UID and its spec, and not as a mirror pod. The others come and go.

* `Recoverable` — idle, or at kubelet's weight, or journaled;
* `locate_keeps`, `callApplier_restores`, `reconcile_restores` — a pass on any key keeps it;
* `weight_restored` — so does every run, and the first clean pass after the idle tier was given up
  ends at kubelet's weight.
-/
import CpuIdle.Agent.Convergence

namespace CpuIdle.Agent

open CpuIdle.Go CpuIdle.Kube CpuIdle.Node CpuIdle.Theory CpuIdle.Apply CpuIdle.Observe CpuIdle.Cgroup

set_option autoImplicit false

namespace Restoration

open Convergence

/-- Every pod the cache serves has a UID of the API server's form. -/
def served : (r : Request) → Answer r → Prop
  | .getCache _ _, answer => ∀ p, answer = GetResult.found p → WellFormedUID p.uid
  | _, _ => True

def serving (home : Books.Home) (pod : Pod) (dir : String) : Arena nodeSignature World :=
  (arena home pod dir).restrict served

/-! ## What a pass is about -/

/-- A pass works on this pod in its directory, or on another one in another. -/
def Concerns (pod : Pod) (dir : String) (q : Pod) (d : String) : Prop :=
  (q = pod ∧ d = dir) ∨ (q.uid ≠ pod.uid ∧ d ≠ dir)

section

variable [Qos.ResourceHelper]

/-- What a snapshot of the pod's cgroup and the journal still tell of its weight. -/
def Recoverable (uid : String) (spec : PodSpec) (s : Snapshot) (pending : Pending) : Prop :=
  s.idleActive = true ∨ s.weight = Qos.restoreWeight spec ∨ uid ∈ pending

/-- The same of the cgroup as it is, or the cgroup is gone. -/
def Restoring (dir uid : String) (spec : PodSpec) (pending : Pending) (w : World) : Prop :=
  ∀ c, w.cgroups dir = some c → Recoverable uid spec c.snapshot pending

variable {home : Books.Home} {pod q : Pod} {dir d key uid : String} {spec : PodSpec} {s : Snapshot}
  {pending pending' : Pending} {w : World}

theorem Recoverable.journal (same : uid ∈ pending' ↔ uid ∈ pending)
    (recoverable : Recoverable uid spec s pending) : Recoverable uid spec s pending' :=
  recoverable.imp_right (.imp_right same.mpr)

theorem Restoring.journal (same : uid ∈ pending' ↔ uid ∈ pending)
    (restoring : Restoring dir uid spec pending w) : Restoring dir uid spec pending' w :=
  fun c present => (restoring c present).journal same

theorem Restoring.of_shows (shows : Shows dir s w)
    (recoverable : w.cgroups dir ≠ none → Recoverable uid spec s pending) :
    Restoring dir uid spec pending w := by
  intro c present
  rw [shows c present]
  exact recoverable (by simp [present])

theorem Restoring.stable : (arena home pod dir).Stable (Restoring dir uid spec pending) := by
  intro w w' move restoring c' present
  obtain ⟨c, before, same⟩ := move.cgroup c' present
  rw [same]
  exact restoring c before

/-- A cgroup that is there shows a snapshot from which its weight can be recovered; one that is not
shows any. -/
theorem Restoring.exists_shows (restoring : Restoring dir uid spec pending w) :
    ∃ s, Shows dir s w ∧ Recoverable uid spec s pending := by
  cases present : w.cgroups dir with
  | none => exact ⟨⟨true, 0, none, 0⟩, fun c shown => by simp [present] at shown, .inl rfl⟩
  | some c =>
      refine ⟨c.snapshot, fun c' shown => ?_, restoring c present⟩
      rw [Option.some.inj (present.symm.trans shown)]

/-- Dropping the entry of a pod whose cgroup is gone, or of another pod. -/
theorem Restoring.forget (concerns : Concerns pod dir q d) (gone : q = pod → w.cgroups dir = none)
    (restoring : Restoring dir pod.uid spec pending w) :
    Restoring dir pod.uid spec (pending.erase q.uid) w := by
  rcases concerns with ⟨rfl, -⟩ | ⟨other, -⟩
  · intro c present
    rw [gone rfl] at present
    cases present
  · exact restoring.journal (by simp [Ne.symm other])

/-! ## The applier -/

/-- The applier's look at the journal. -/
theorem needsWeightRepair_recovers (concerns : Concerns pod dir q d) (mine : q = pod → Shows dir s w)
    (restoring : Restoring dir pod.uid pod.spec pending w) :
    Restoring dir pod.uid pod.spec (needsWeightRepair pending q s).2 w := by
  rcases concerns with ⟨rfl, -⟩ | ⟨other, -⟩
  · intro c present
    rw [← mine rfl c present, ← planFor_journal pending q .zero]
    exact Journal.planFor_restorable .zero (restoring c present)
  · have erased : pod.uid ∈ pending.erase q.uid ↔ pod.uid ∈ pending := by simp [Ne.symm other]
    unfold needsWeightRepair
    split_ifs
    · exact restoring
    · exact restoring.journal erased
    · exact restoring
    · exact restoring

theorem assess_recovers [PrintTable] (concerns : Concerns pod dir q d) (mine : q = pod → Shows dir s w)
    (restoring : Restoring dir pod.uid pod.spec pending w) :
    Restoring dir pod.uid pod.spec (assess pending q s).pending w := by
  unfold assess
  dsimp only
  split
  · exact restoring
  · exact needsWeightRepair_recovers concerns mine restoring

/-- What holds of the writes still to do: the pod's own write kubelet's weight. -/
def Writing (dir : String) (pod q : Pod) (writes : List Write) (pending : Pending) (w : World) : Prop :=
  Restoring dir pod.uid pod.spec pending w ∧
    (q = pod → Journal.WeightsOnly (Qos.restoreWeight pod.spec) writes)

theorem planFor_recovers (concerns : Concerns pod dir q d) (desired : Tier.State)
    (mine : q = pod → Shows dir s w) (restoring : Restoring dir pod.uid pod.spec pending w) :
    Writing dir pod q (planFor pending q desired s).1 (planFor pending q desired s).2 w := by
  refine ⟨?_, fun same => same ▸ Journal.planFor_weights _ _ _ _⟩
  rw [planFor_journal]
  exact needsWeightRepair_recovers concerns mine restoring

omit [Qos.ResourceHelper] in
theorem mem_recordCompletedWrite_other (other : q.uid ≠ pod.uid) (write : Write) :
    pod.uid ∈ recordCompletedWrite pending q.uid write ↔ pod.uid ∈ pending := by
  unfold recordCompletedWrite
  split_ifs
  · simp [Ne.symm other]
  · simp [Ne.symm other]
  · rfl

/-- **One write** of a pass on any pod. -/
theorem loopRule (concerns : Concerns pod dir q d) :
    LoopRule (arena home pod dir) anything q.uid d (Writing dir pod q)
      (loopResult (Writing dir pod q) fun result w => Restoring dir pod.uid pod.spec result.2 w) where
  silent writes pending := Convergence.silent
    (fun w w' move known => ⟨Restoring.stable w w' move known.1, known.2⟩) fun _ _ known => known
  ctx := inert (fun _ _ => trivial) fun _ _ _ answered => answered
  stat := inert (fun _ _ => trivial) fun _ _ _ answered => answered.1
  written write rest pending w known w' answered := by
    obtain ⟨restoring, weights⟩ := known
    obtain ⟨shows, takes⟩ := answered.1 rfl
    refine ⟨trivial, fun c' present => ?_, fun same write' member =>
      weights same write' (List.mem_cons_of_mem _ member)⟩
    rcases concerns with ⟨rfl, rfl⟩ | ⟨other, foreign⟩
    · simp only [Function.update_self, Option.some.injEq] at present
      subst present
      exact Journal.Restorable.write (restoring _ shows) (weights rfl write (by simp)) takes
    · simp only [Function.update_of_ne (Ne.symm foreign)] at present
      exact (restoring c' present).journal (mem_recordCompletedWrite_other other write)
  refused write rest pending w known answer w' answered refused :=
    ⟨trivial, answered.2 refused ▸ known⟩
  completed _ _ known := known
  failed _ _ _ _ _ known := known.1
  gone write rest pending w known answered := by
    refine known.1.forget concerns fun same => ?_
    rcases concerns with ⟨-, rfl⟩ | ⟨other, -⟩
    · exact answered.2 rfl
    · exact absurd (congrArg Pod.uid same) other

section

variable [PrintTable]

omit [Qos.ResourceHelper] in
/-- Of its own directory a pass learns the snapshot. -/
theorem readSnapshot_tells (concerns : Concerns pod dir q d) {P : World → Prop}
    (stable : (arena home pod dir).Stable P) (steady : ∀ w, P w → Shows dir s w) :
    Holds (arena home pod dir) anything P (readSnapshot d) fun result w =>
      P w ∧ (q = pod → Kernel.Told World.cgroups dir s w result) := by
  rcases concerns with ⟨-, rfl⟩ | ⟨other, -⟩
  · exact (readSnapshot_told stable steady).post fun result w known => ⟨known.1, fun _ => known.2⟩
  · refine (readSnapshot_keeps stable ?_ fun name => ?_).post fun result w holds =>
      ⟨holds, fun same => absurd (congrArg Pod.uid same) other⟩
    · exact (inert (fun _ _ => trivial) (r := .stat d) fun _ _ _ answered => answered.1).keeps P
    · exact (inert (fun _ _ => trivial) (r := .readFile d name) fun _ _ _ answered => answered.1).keeps P

/-- What is known before the applier is called on `q`. -/
def Ready (dir : String) (pod : Pod) (s : Snapshot) (pending : Pending) (w : World) : Prop :=
  Restoring dir pod.uid pod.spec pending w ∧ Shows dir s w

omit [PrintTable] in
theorem Ready.stable : (arena home pod dir).Stable (Ready dir pod s pending) :=
  fun w w' move ready => ⟨Restoring.stable w w' move ready.1, move.shows ready.2⟩

theorem apply_restores {cfg : Config} (concerns : Concerns pod dir q d) (own : Own cfg q d)
    (pending : Pending) (report : Bool) :
    Holds (arena home pod dir) anything (Ready dir pod s pending) (Apply.apply cfg pending q report)
      fun result w => Restoring dir pod.uid pod.spec result.2 w := by
  refine apply_holds (J := fun _ => Writing dir pod q) Ready.stable
    (inert (fun _ _ => trivial) (r := .ctxErr) fun _ _ _ answered => answered)
    (fun err w ready => ready.1) (fun d' computed => ?_) (fun d' s' computed => ?_)
    (fun s' writes pending' _ => ?_) fun s' pending' err w known => known.1
  · obtain rfl : d = d' := Except.ok.inj (own.symm.trans computed)
    refine (readSnapshot_tells concerns Ready.stable fun w ready => ready.2).post fun result w known => ?_
    obtain ⟨ready, told⟩ := known
    cases result with
    | error err =>
        exact ⟨fun isGone => ready.1.forget concerns fun same => told same isGone, fun _ => ready.1⟩
    | ok s' =>
        refine planFor_recovers concerns _ (fun same => ?_) ready.1
        obtain ⟨rfl, -⟩ := told same
        exact ready.2
  · obtain rfl : d = d' := Except.ok.inj (own.symm.trans computed)
    exact loopRule concerns
  · exact (noticesOf_holds ((loopRule concerns).silent writes pending') cfg q report s').post
      fun _ w known => known.1

theorem revert_restores {cfg : Config} (concerns : Concerns pod dir q d) (own : Own cfg q d)
    (pending : Pending) (snapshot : Snapshot) (mine : q = pod → snapshot = s) :
    Holds (arena home pod dir) anything (Ready dir pod s pending) (Apply.revert cfg pending q snapshot)
      fun result w => Restoring dir pod.uid pod.spec result.2 w := by
  refine revert_holds (J := Writing dir pod q) Ready.stable
    (inert (fun _ _ => trivial) (r := .ctxErr) fun _ _ _ answered => answered)
    (fun err w ready => ready.1) (fun w ready => ?_) (fun d' computed => ?_)
    (fun _ _ _ w _ known => known.1) fun _ w known => known.1
  · exact planFor_recovers concerns _ (fun same => mine same ▸ ready.2) ready.1
  · obtain rfl : d = d' := Except.ok.inj (own.symm.trans computed)
    exact loopRule concerns

theorem callApplier_restores {cfg : Config} (concerns : Concerns pod dir q d) (own : Own cfg q d)
    (resync changed : Bool) (snapshot : Snapshot) (mine : q = pod → snapshot = s)
    (assessment : Assessment) :
    Holds (arena home pod dir) anything (Ready dir pod s assessment.pending)
      (callApplier (.real cfg) cfg resync q snapshot assessment changed)
      fun result w => Restoring dir pod.uid pod.spec result.2 w := by
  have quiet : Silent (arena home pod dir) anything (Ready dir pod s assessment.pending) :=
    Convergence.silent Ready.stable fun _ _ ready => ready
  unfold callApplier
  refine .bind (R := fun _ => Ready dir pod s assessment.pending) ?_ fun _ => .ite (fun _ => ?_) fun _ => ?_
  · exact .ite (fun _ => .keeps quiet.stable (quiet.inc _)) fun _ => .pure fun _ ready => ready
  · exact apply_restores concerns own _ _
  · exact revert_restores concerns own _ snapshot mine

/-! ## The bookkeeper -/

omit [PrintTable] [Qos.ResourceHelper] in
/-- A pod that holds the key keeps the journal as it is. -/
theorem setPodActual_journal (node : String) {state : State}
    (tracked : state.podUIDByKey.lookup key = some q.uid) (snapshot : Snapshot) :
    (setPodActual node state key q snapshot).Returns fun state' =>
      state'.pending = state.pending ∧ state'.podUIDByKey.lookup key = some q.uid := by
  have still : dropReplaced node state key q.uid = pure state := by
    simp [dropReplaced, tracked]
  have observed : (observePodIdentity node state key q.uid).Returns fun state' =>
      state'.pending = state.pending := by
    unfold observePodIdentity
    rw [still]
    rfl
  exact observed.bind fun _ same => .after fun _ => ⟨same, Finmap.lookup_insert _⟩

/-- **The last look at the cgroup** forgets an entry only with it. -/
theorem refreshPodActual_restores {cfg : Config} (concerns : Concerns pod dir q d) {state : State}
    (tracked : state.podUIDByKey.lookup key = some q.uid) :
    Holds (arena home pod dir) anything (Ready dir pod s state.pending)
      (refreshPodActual cfg state key q d)
      fun result w => Restoring dir pod.uid pod.spec result.2.pending w := by
  have entered : ∀ (state' : State) (snapshot : Snapshot),
      state'.podUIDByKey.lookup key = some q.uid → Holds (arena home pod dir) anything
        (Restoring dir pod.uid pod.spec state'.pending) (setPodActual cfg.node state' key q snapshot)
        fun state'' w => Restoring dir pod.uid pod.spec state''.pending w := by
    intro state' snapshot tracked'
    refine (keeping_holds (setPodActual_asks _ _ _ _ _) (setPodActual_journal _ tracked' snapshot)
      Restoring.stable fun w gauge restoring => restoring).post fun state'' w known => ?_
    rw [known.2.1]
    exact known.1
  refine refreshPodActual_holds (readSnapshot_tells concerns Ready.stable fun w ready => ready.2)
    (fun _ _ w known _ => known.1.1) (fun err isGone _ => ?_) fun snapshot => ?_
  · refine (entered (state.forgetApplierPodState q.uid) .zero tracked).pre fun w known => ?_
    exact known.1.1.forget concerns fun same => known.2 same isGone
  · exact (entered state snapshot tracked).pre fun w known => known.1.1

/-- **From the snapshot on.** -/
theorem reconcilePod_restores {cfg : Config} (concerns : Concerns pod dir q d) (own : Own cfg q d)
    {state : State} (tracked : state.podUIDByKey.lookup key = some q.uid) (resync : Bool)
    (snapshot : Snapshot) (mine : q = pod → snapshot = s) :
    Holds (arena home pod dir) anything (Ready dir pod s state.pending)
      (reconcilePod (.real cfg) cfg state key resync q d snapshot)
      fun result w => Restoring dir pod.uid pod.spec result.2.pending w := by
  have assessed : ∀ w, Ready dir pod s state.pending w →
      Ready dir pod s (assess state.pending q snapshot).pending w := fun w ready =>
    ⟨assess_recovers concerns (fun same => mine same ▸ ready.2) ready.1, ready.2⟩
  unfold reconcilePod
  refine .ite (fun _ => .pure fun w ready => (assessed w ready).1) fun _ =>
    .ite (fun _ => .pure fun w ready => (assessed w ready).1) fun _ => ?_
  refine .bind (.pre (callApplier_restores concerns own resync _ snapshot mine _) assessed) fun result => ?_
  obtain ⟨err, pending⟩ := result
  have last : ∀ state' : State, state'.podUIDByKey.lookup key = some q.uid →
      Holds (arena home pod dir) anything (Restoring dir pod.uid pod.spec state'.pending)
        (refreshPodActual cfg state' key q d)
        fun result w => Restoring dir pod.uid pod.spec result.2.pending w := by
    intro state' tracked' w restoring
    obtain ⟨s', shows, -⟩ := restoring.exists_shows
    exact refreshPodActual_restores concerns tracked' w ⟨restoring, shows⟩
  cases err with
  | some err => exact .bind (last { state with pending } tracked) fun _ => .pure fun w known => known
  | none => exact last ({ state with pending }.recordPodNotice q.uid (noticeSignature q snapshot)) tracked

/-! ## The lookup -/

omit [PrintTable] [Qos.ResourceHelper] in
/-- Who does not hold the key keeps its entry when the key changes hands. -/
theorem observePodIdentity_spares (node : String) {state : State}
    (elsewhere : state.podUIDByKey.lookup key ≠ some uid) :
    (observePodIdentity node state key q.uid).Returns fun state' =>
      (uid ∈ state'.pending ↔ uid ∈ state.pending) ∧ state'.podUIDByKey.lookup key = some q.uid := by
  have dropped : (dropReplaced node state key q.uid).Returns fun state' =>
      (uid ∈ state'.pending ↔ uid ∈ state.pending) := by
    unfold dropReplaced
    cases held : state.podUIDByKey.lookup key with
    | none => exact Iff.rfl
    | some previous =>
        have other : uid ≠ previous := by
          rintro rfl
          exact elsewhere held
        refine .ite (fun _ => ?_) fun _ => Iff.rfl
        refine (removePod_alike node (state.forgetApplierPodState previous) uid).bind fun state' alike => ?_
        exact alike.journal.trans (by simp [State.forgetApplierPodState, other])
  exact dropped.bind fun state' same => ⟨same, Finmap.lookup_insert _⟩

omit [PrintTable] [Qos.ResourceHelper] in
theorem removePodByKey_spares (node : String) {state : State}
    (elsewhere : state.podUIDByKey.lookup key ≠ some uid) :
    (removePodByKey node state key).Returns fun state' =>
      (uid ∈ state'.pending ↔ uid ∈ state.pending) := by
  unfold removePodByKey
  cases held : state.podUIDByKey.lookup key with
  | none => exact Iff.rfl
  | some holder =>
      have other : uid ≠ holder := by
        rintro rfl
        exact elsewhere held
      refine (removePod_alike node (state.forgetApplierPodState holder) uid).bind fun state' alike => ?_
      exact alike.journal.trans (by simp [State.forgetApplierPodState, other])

/-- The entry is as it was, and the directory too. -/
def Unmoved (dir : String) (pod : Pod) (s : Snapshot) (owed : Prop) (state : State) (w : World) : Prop :=
  (pod.uid ∈ state.pending ↔ owed) ∧ Shows dir s w

omit [PrintTable] [Qos.ResourceHelper] in
theorem Unmoved.stable {owed : Prop} {state : State} :
    (arena home pod dir).Stable (Unmoved dir pod s owed state) :=
  fun _ _ move known => ⟨known.1, move.shows known.2⟩

/-- How `locate` ends, whatever the key. -/
def Passed (cfg : Config) (key : String) (pod : Pod) (dir : String) (s : Snapshot) (owed : Prop) :
    Lookup → World → Prop
  | .ended _ state, w => Shows dir s w ∧ (w.cgroups dir ≠ none → (pod.uid ∈ state.pending ↔ owed))
  | .located q d snapshot state, w => (Concerns pod dir q d ∧ Own cfg q d ∧ (q = pod → snapshot = s) ∧
      state.podUIDByKey.lookup key = some q.uid) ∧ Unmoved dir pod s owed state w

omit [Qos.ResourceHelper] in
/-- Another pod under the key. -/
theorem locatePod_spares {cfg : Config} (own : Own cfg pod dir) (known : WellFormedUID pod.uid)
    (other : q.uid ≠ pod.uid) (known' : WellFormedUID q.uid) (owed : Prop) {state : State}
    (elsewhere : state.podUIDByKey.lookup key ≠ some pod.uid) :
    Holds (arena home pod dir) anything (Unmoved dir pod s owed state) (locatePod cfg state key q)
      (Passed cfg key pod dir s owed) := by
  have keeps : ∀ {state' : State} {p : Node State}, p.Asks Keeping →
      p.Returns (fun state'' => (pod.uid ∈ state''.pending ↔ pod.uid ∈ state'.pending) ∧
        state''.podUIDByKey.lookup key = some q.uid) →
      Holds (arena home pod dir) anything (Unmoved dir pod s owed state') p fun state'' w =>
        state''.podUIDByKey.lookup key = some q.uid ∧ Unmoved dir pod s owed state'' w :=
    fun asks returns => (keeping_holds asks returns Unmoved.stable fun _ _ unmoved => unmoved).post
      fun state'' w ended => ⟨ended.2.2, ended.2.1.trans ended.1.1, ended.1.2⟩
  have entered : ∀ (state' : State) (snapshot : Snapshot), state'.podUIDByKey.lookup key = some q.uid →
      Holds (arena home pod dir) anything (Unmoved dir pod s owed state')
        (setPodActual cfg.node state' key q snapshot) fun state'' w =>
          state''.podUIDByKey.lookup key = some q.uid ∧ Unmoved dir pod s owed state'' w :=
    fun _ snapshot tracked => keeps (setPodActual_asks _ _ _ _ _)
      ((setPodActual_journal _ tracked snapshot).mono fun _ same => ⟨by rw [same.1], same.2⟩)
  have steady : ∀ φ : Prop, ∀ state', (arena home pod dir).Stable
      fun w => φ ∧ Unmoved dir pod s owed state' w :=
    fun φ state' w w' move known => ⟨known.1, Unmoved.stable w w' move known.2⟩
  refine locatePod_holds
    (T := fun state' w => state'.podUIDByKey.lookup key = some q.uid ∧ Unmoved dir pod s owed state' w)
    (R := fun d _ state' w => (Own cfg q d ∧ state'.podUIDByKey.lookup key = some q.uid) ∧
      Unmoved dir pod s owed state' w)
    (keeps (observePodIdentity_asks _ _ _ _) (observePodIdentity_spares _ elsewhere))
    (fun _ _ _ unmoved => ⟨unmoved.2.2, fun _ => unmoved.2.1⟩) (fun d computed state' => ?_)
    (fun d err state' w known _ => ⟨known.1.2, known.2⟩) (fun d err state' _ _ => ?_)
    fun d snapshot state' => ?_
  · refine (readSnapshot_keeps (steady _ _) ?_ fun name => ?_).post fun result w known =>
      ⟨⟨computed, known.1⟩, known.2⟩
    · exact (inert (fun _ _ => trivial) (r := .stat d) fun _ _ _ answered => answered.1).keeps _
    · exact (inert (fun _ _ => trivial) (r := .readFile d name) fun _ _ _ answered => answered.1).keeps _
  · refine .assume fun known => ?_
    refine ((entered (state'.forgetApplierPodState q.uid) .zero known.2).pre
      fun w unmoved => ?_).post fun _ w ended => ⟨ended.2.2, fun _ => ended.2.1⟩
    exact ⟨Iff.trans (by simp [State.forgetApplierPodState, Ne.symm other]) unmoved.1, unmoved.2⟩
  · refine .assume fun found => (entered state' snapshot found.2).post fun state'' w ended => ?_
    have computed := found.1
    have foreign : d ≠ dir := by
      rintro rfl
      exact other (Layout.podDir_injective known' known computed own).2
    have notMine : q = pod → snapshot = s := fun same => absurd (congrArg Pod.uid same) other
    exact ⟨⟨.inr ⟨other, foreign⟩, computed, notMine, ended.1⟩, ended.2⟩

/-- What this pod is to a pass. -/
structure Subject (cfg : Config) (home : Books.Home) (pod : Pod) (dir : String) : Prop where
  real : isMirrorPod pod = false
  atHome : Books.AtHome home pod
  known : WellFormedUID pod.uid
  own : Own cfg pod dir
  named : Named (metaNamespaceKey pod) pod

omit [Qos.ResourceHelper] in
/-- Its entry is under no other key. -/
theorem Subject.elsewhere {cfg : Config} (subject : Subject cfg home pod dir) {state : State}
    (books : Books home state) (foreign : ¬Named key pod) :
    state.podUIDByKey.lookup key ≠ some pod.uid := by
  intro held
  have own : key = metaNamespaceKey pod := by
    rw [subject.atHome.key]
    exact Books.Tracked.key_eq books held
  exact foreign (own ▸ subject.named)

omit [Qos.ResourceHelper] in
/-- A key of another pod. -/
theorem locate_spares {cfg : Config} (subject : Subject cfg home pod dir) (foreign : ¬Named key pod)
    (state : State) (owed : Prop) :
    Holds (serving home pod dir) anything
      (fun w => Books.Kept home state w.gauge ∧ Unmoved dir pod s owed state w) (locate cfg state key)
      (Passed cfg key pod dir s owed) := by
  have steady : ∀ state', (serving home pod dir).Stable
      fun w => Books.Kept home state' w.gauge ∧ Unmoved dir pod s owed state' w := by
    intro state' w w' move known
    have still : w'.gauge = w.gauge := Others.gauge move
    exact ⟨still ▸ known.1, known.2.1, Others.shows move known.2.2⟩
  have removed : ∀ {P : World → Prop} (state' : State), (∀ w, P w →
      state'.podUIDByKey.lookup key ≠ some pod.uid ∧ Unmoved dir pod s owed state' w) →
      Holds (serving home pod dir) anything P (removePodByKey cfg.node state' key)
        fun state'' w => Passed cfg key pod dir s owed (.ended none state'') w := by
    refine fun state' known => .pre (.assume fun elsewhere => ?_) known
    exact ((keeping_holds (removePodByKey_asks _ _ _) (removePodByKey_spares _ elsewhere) Unmoved.stable
      fun _ _ unmoved => unmoved).restrict served).post fun state'' w ended =>
        ⟨ended.1.2, fun _ => ended.2.trans ended.1.1⟩
  refine locate_holds
    (J := fun state' w => Books.Kept home state' w.gauge ∧ Unmoved dir pod s owed state' w)
    (R := fun answer state' w => (∀ q, answer = .found q → q.uid ≠ pod.uid ∧ WellFormedUID q.uid) ∧
      state'.podUIDByKey.lookup key ≠ some pod.uid ∧ Unmoved dir pod s owed state' w)
    (steady state) (fun w answer w' answered => ⟨answered.1, trivial⟩)
    (fun w known _ => ⟨known.2.2, fun _ => known.2.1⟩) ?_ steady
    (fun err _ _ state' w known => ⟨known.2.2, fun _ => known.2.1⟩)
    (fun state' ns name split w known answer w' answered => ?_)
    (fun _ _ state' w known => ⟨known.2.2.2, fun _ => known.2.2.1⟩)
    (fun state' => removed state' fun w known => known.2)
    (fun q state' _ => removed state' fun w known => known.2) fun q state' _ => ?_
  · intro w known
    have shown : Safe (arena home pod dir) _ (ensureInitialized cfg state)
        (fun state' w => Books.Kept home state' w.gauge) w :=
      shows_books.safe (Books.ensureInitialized_books cfg state w.gauge known.1)
    have scanned : Safe (arena home pod dir) anything (ensureInitialized cfg state)
        (fun state' w => (pod.uid ∈ state'.pending ↔ pod.uid ∈ state.pending) ∧ Shows dir s w) w :=
      ensureInitialized_shows subject.real state w known.2.2
    refine (((shown.and scanned).restrict served).mono fun state' w' ended => ?_).weaken
      fun _ _ _ _ _ => trivial
    exact ⟨ended.1, ended.2.1.trans known.2.1, ended.2.2⟩
  · obtain ⟨⟨rfl, home', shown⟩, uids⟩ := answered
    refine ⟨trivial, fun q found => ⟨fun same => foreign ?_, uids q found⟩,
      subject.elsewhere known.1.books foreign, known.2⟩
    obtain ⟨ns', name', atHome⟩ := home' q found
    have place : (q.ns, q.name) = (pod.ns, pod.name) :=
      atHome.place.symm.trans (same ▸ subject.atHome.place)
    rw [Named, split, ← place, ns', name']
  · refine .pre (P := fun w => ((q.uid ≠ pod.uid ∧ WellFormedUID q.uid) ∧
      state'.podUIDByKey.lookup key ≠ some pod.uid) ∧ Unmoved dir pod s owed state' w)
      (.assume fun known => ?_) fun w known => ⟨⟨known.1 q rfl, known.2.1⟩, known.2.2⟩
    exact (locatePod_spares subject.own subject.known known.1.1 known.1.2 owed known.2).restrict served

omit [Qos.ResourceHelper] in
/-- **Any key.** -/
theorem locate_keeps {cfg : Config} (subject : Subject cfg home pod dir) (state : State) (key : String) :
    Holds (serving home pod dir) anything
      (fun w => Books.Kept home state w.gauge ∧ Shows dir s w) (locate cfg state key)
      (Passed cfg key pod dir s (pod.uid ∈ state.pending)) := by
  by_cases named : Named key pod
  · refine ((locate_looked subject.real subject.own named state).restrict served).conseq
      (fun w known => known.2) fun found w looked => ?_
    cases found with
    | ended err state' => exact ⟨looked.2.1, looked.2.2⟩
    | located q d snapshot state' =>
        obtain ⟨rfl, rfl, rfl, journal, entered, shows⟩ := looked
        exact ⟨⟨.inl ⟨rfl, rfl⟩, subject.own, fun _ => rfl, entered.tracked⟩, journal, shows⟩
  · exact (locate_spares subject named state _).pre fun w known => ⟨known.1, Iff.rfl, known.2⟩

/-! ## The pass -/

/-- **A whole pass**, on any key. -/
theorem reconcile_restores {cfg : Config} (subject : Subject cfg home pod dir) (state : State)
    (key : String) (resync : Bool) :
    Holds (serving home pod dir) anything
      (fun w => Books.Kept home state w.gauge ∧ Restoring dir pod.uid pod.spec state.pending w)
      (reconcile (.real cfg) cfg state key resync)
      fun result w => Restoring dir pod.uid pod.spec result.2.pending w := by
  rintro w ⟨kept, restoring⟩
  obtain ⟨s, shows, recoverable⟩ := restoring.exists_shows
  have pass : Holds (serving home pod dir) anything
      (fun w => Books.Kept home state w.gauge ∧ Shows dir s w) (reconcile (.real cfg) cfg state key resync)
      fun result w => Restoring dir pod.uid pod.spec result.2.pending w := by
    refine .bind (locate_keeps subject state key) fun found => ?_
    cases found with
    | ended err state' =>
        exact .pure fun w passed => .of_shows passed.1 fun there => recoverable.journal (passed.2 there)
    | located q d snapshot state' =>
        refine .assume fun found => ?_
        obtain ⟨concerns, own, mine, tracked⟩ := found
        refine ((reconcilePod_restores concerns own tracked resync snapshot mine).restrict served).pre
          fun w unmoved => ⟨.of_shows unmoved.2 fun _ => recoverable.journal unmoved.1, unmoved.2⟩
  exact pass w ⟨kept, shows⟩

/-- The books, as in any world. -/
theorem reconcile_kept (cfg : Config) (state : State) (key : String) (resync : Bool) :
    Holds (serving home pod dir) anything (fun w => Books.Kept home state w.gauge)
      (reconcile (.real cfg) cfg state key resync) fun result w => Books.Kept home result.2 w.gauge := by
  intro w kept
  have shown : Safe (arena home pod dir) _ (reconcile (.real cfg) cfg state key resync)
      (fun result w => Books.Kept home result.2 w.gauge) w :=
    shows_books.safe (Books.reconcile_books cfg state key resync w.gauge kept)
  exact (shown.restrict served).weaken fun _ _ _ _ _ => trivial

/-! ## Runs -/

/-- Another version of the same object: its annotations and its phase may differ. -/
structure Version (pod p : Pod) : Prop where
  uid : p.uid = pod.uid
  spec : p.spec = pod.spec
  ns : p.ns = pod.ns
  name : p.name = pod.name
  real : isMirrorPod p = false

omit [Qos.ResourceHelper] in
theorem Subject.version {cfg : Config} {p : Pod} (subject : Subject cfg home pod dir)
    (version : Version pod p) : Subject cfg home p dir where
  real := version.real
  atHome := {
    namespaced := version.ns ▸ subject.atHome.namespaced
    place := by rw [version.uid, version.ns, version.name, subject.atHome.place] }
  known := version.uid ▸ subject.known
  own := by
    rw [Own, version.spec, version.uid]
    exact subject.own
  named := by
    have key : metaNamespaceKey p = metaNamespaceKey pod := by
      simp [metaNamespaceKey, version.ns, version.name]
    rw [Named, key, version.ns, version.name]
    exact subject.named

/-- A pass of the Reconciler on any key, judged by its own refused writes, and what the others do
between two passes. -/
inductive Step (cfg : Config) (home : Books.Home) (pod : Pod) (dir : String) :
    State × World → State × World → Prop where
  | pass {p : Pod} {state state' : State} {w w' : World} {err : Option GoError} (version : Version pod p)
      (key : String) (resync : Bool)
      (run : Exec (serving home p dir) (reconcile (.real cfg) cfg state key resync)
        { w with refused := false } (err, state') w') :
      Step cfg home pod dir (state, w) (state', w')
  | others {state : State} {w w' : World} (move : Others dir w w') :
      Step cfg home pod dir (state, w) (state, w')

/-- From a new Reconciler on. -/
abbrev Run (cfg : Config) (home : Books.Home) (pod : Pod) (dir : String) (w₀ : World)
    (c : State × World) : Prop :=
  Relation.ReflTransGen (Step cfg home pod dir) (.new, w₀) c

/-- **One step.** -/
theorem step_restores {cfg : Config} (subject : Subject cfg home pod dir) {c c' : State × World}
    (step : Step cfg home pod dir c c')
    (known : Books.Kept home c.1 c.2.gauge ∧ Restoring dir pod.uid pod.spec c.1.pending c.2) :
    Books.Kept home c'.1 c'.2.gauge ∧ Restoring dir pod.uid pod.spec c'.1.pending c'.2 := by
  cases step with
  | @pass p state state' w w' err version key resync run =>
      obtain ⟨kept, restoring⟩ := known
      have kept' := Safe.exec run (reconcile_kept cfg state key resync _ kept)
      refine ⟨kept', ?_⟩
      rw [← version.uid, ← version.spec] at restoring ⊢
      have restored := Safe.exec run
        (reconcile_restores (subject.version version) state key resync _ ⟨kept, restoring⟩)
      exact restored
  | @others state w w' move =>
      have stable : (arena home pod dir).Stable (Restoring dir pod.uid pod.spec state.pending) :=
        Restoring.stable
      exact ⟨move.gauge ▸ known.1, stable w w' move known.2⟩

theorem run_restores {cfg : Config} (subject : Subject cfg home pod dir) {w₀ : World} {c : State × World}
    (empty : w₀.gauge = fun _ => none)
    (start : ∀ c, w₀.cgroups dir = some c → c.idle = true ∨ c.weight = Qos.restoreWeight pod.spec)
    (run : Run cfg home pod dir w₀ c) :
    Books.Kept home c.1 c.2.gauge ∧ Restoring dir pod.uid pod.spec c.1.pending c.2 := by
  induction run with
  | refl => exact ⟨⟨.new, empty⟩, fun c present => (start c present).imp_right .inl⟩
  | tail _ step ih => exact step_restores subject step ih

end

end

end Restoration

section

variable [PrintTable] [Qos.ResourceHelper]

open Convergence Restoration in
/-- **A restore that is owed is made up for.** A new process starts where no tier is exported and the
cgroup of a pod is gone, idle or at kubelet's weight. After any run of passes in which the pod stays in
the cache, the cgroup is idle, or at kubelet's weight, or the journal still has the pod. And the first
pass on a version that does not ask for the idle tier, if it ends without an error and without a refused
write, leaves the cgroup at kubelet's weight and not idle, whatever was cut or refused before. -/
theorem weight_restored (cfg : Config) (home : Books.Home) {pod : Pod} {dir : String}
    (subject : Subject cfg home pod dir) {w₀ w : Convergence.World} {state : State}
    (empty : w₀.gauge = fun _ => none)
    (start : ∀ c, w₀.cgroups dir = some c → c.idle = true ∨ c.weight = Qos.restoreWeight pod.spec)
    (run : Run cfg home pod dir w₀ (state, w)) :
    (∀ c, w.cgroups dir = some c →
      c.idle = true ∨ c.weight = Qos.restoreWeight pod.spec ∨ pod.uid ∈ state.pending) ∧
    ∀ p, Version pod p → (Tier.desired p).1.idleRequested = false →
      ∀ resync state' w', Exec (serving home p dir)
        (reconcile (.real cfg) cfg state (metaNamespaceKey p) resync) { w with refused := false }
        (none, state') w' →
      w'.refused = false → ∀ c', w'.cgroups dir = some c' →
        c'.idle = false ∧ c'.weight = Qos.restoreWeight pod.spec := by
  have restoring := (run_restores subject empty start run).2
  refine ⟨restoring, fun p version unasked resync state' w' pass live c' present => ?_⟩
  rw [← version.uid, ← version.spec] at restoring
  have mine := subject.version version
  obtain ⟨s₀, shows, recoverable⟩ := restoring.exists_shows
  have rests : Holds (serving home p dir) anything (Shows dir s₀)
      (reconcile (.real cfg) cfg state (metaNamespaceKey p) resync)
      (Ended (metaNamespaceKey p) p dir s₀ (p.uid ∈ state.pending)) :=
    (reconcile_rests mine.real mine.own mine.named state resync s₀).restrict served
  have ended := Safe.exec pass (rests _ shows)
  obtain ⟨goal, -⟩ := ended rfl live c' present
  have inactive : c'.idle = false := goal.idle.trans unasked
  refine ⟨inactive, ?_⟩
  rw [← version.spec]
  by_cases due : s₀.idleActive = true ∨ p.uid ∈ state.pending
  · exact goal.restored inactive due
  · rw [not_or] at due
    have weight : s₀.weight = Qos.restoreWeight p.spec :=
      (recoverable.resolve_left due.1).resolve_right due.2
    exact (goal.untouched inactive (not_or.mpr due)).trans weight

end

/-! ## A restore that was interrupted -/

section

open Convergence Restoration

attribute [local instance] asciiTable Qos.containerRequests

namespace Restoration

/-- A cache that holds the sample pod. -/
def restCached (ns name : String) : GetResult :=
  if samplePod.ns = ns ∧ samplePod.name = name then .found samplePod else .notFound

/-- At kubelet's weight. -/
def restoredCgroup : Kernel.Cgroup :=
  { Journal.resetCgroup with
    weight := Qos.restoreWeight samplePod.spec
    weight_range := .inr (Qos.restoreWeight_range samplePod.spec) }

/-- A node where `cpu.idle` may be turned off, and the weight be written where it `restores`. -/
def leavingNode (restores : Bool) : Handler nodeSignature World := fun w r =>
  match r with
  | .writeFile dir name value =>
      if w.cgroups dir = some Journal.idleCgroup ∧ name = "cpu.idle" ∧ value = "0" then
        (.written, { w with cgroups := Function.update w.cgroups dir (some Journal.resetCgroup) })
      else if restores = true ∧ w.cgroups dir = some Journal.resetCgroup ∧ name = "cpu.weight" ∧
          value = formatUint (Qos.restoreWeight samplePod.spec) then
        (.written, { w with cgroups := Function.update w.cgroups dir (some restoredCgroup) })
      else (.writeFailed ⟨"input/output error", false⟩, w)
  | .getCache ns name => (restCached ns name, w)
  | .listCache => (.ok [samplePod], w)
  | r => idlingNode w r

theorem samplePod_atHome : Books.AtHome sampleHome samplePod := ⟨by decide, rfl⟩

theorem leavingNode_act (restores : Bool) (w : World) (r : Request) :
    (serving sampleHome samplePod idleDir).act w r (leavingNode restores w r).1
      (leavingNode restores w r).2 := by
  cases r with
  | readFile dir name => exact ⟨idlingNode_act w (.readFile dir name), trivial⟩
  | stat dir => exact ⟨idlingNode_act w (.stat dir), trivial⟩
  | writeFile dir name value =>
      refine ⟨?_, trivial⟩
      simp only [leavingNode]
      split
      · rename_i here
        obtain ⟨shows, rfl, rfl⟩ := here
        exact ⟨fun _ => .taken shows (.idleOff rfl rfl), fun no => absurd rfl no⟩
      · split
        · rename_i here
          obtain ⟨-, shows, rfl, rfl⟩ := here
          exact ⟨fun _ => .taken shows (.weight rfl rfl), fun no => absurd rfl no⟩
        · exact ⟨by simp, fun _ => rfl⟩
  | getCache ns name =>
      have answer : (leavingNode restores w (.getCache ns name)).1 = restCached ns name := rfl
      have found : ∀ p, restCached ns name = .found p →
          p = samplePod ∧ samplePod.ns = ns ∧ samplePod.name = name := by
        intro p shown
        unfold restCached at shown
        split at shown
        · exact ⟨(GetResult.found.inj shown).symm, ‹_›⟩
        · cases shown
      rw [answer]
      refine ⟨⟨rfl, fun p shown => ?_, ?_⟩, fun p shown => ?_⟩
      · obtain ⟨rfl, ns', name'⟩ := found p shown
        exact ⟨ns', name', samplePod_atHome⟩
      · rintro rfl rfl
        rw [restCached, if_pos ⟨rfl, rfl⟩]
        exact ⟨fun no => (by cases no), fun p shown => (GetResult.found.inj shown).symm⟩
      · obtain ⟨rfl, -⟩ := found p shown
        exact ⟨by decide, by decide, by decide⟩
  | listCache =>
      refine ⟨⟨rfl, fun pods listed => ?_⟩, trivial⟩
      obtain rfl := Except.ok.inj listed
      refine ⟨List.mem_singleton_self _, fun p member => ?_, by decide⟩
      rw [List.mem_singleton.mp member]
      exact samplePod_atHome
  | _ => exact ⟨rfl, trivial⟩

/-- Idle, for a pod that does not ask for it. -/
def leavingStart : World := ⟨fun _ => some Journal.idleCgroup, fun _ => none, false⟩

/-- One pass on the sample pod. -/
def leavingPass (restores : Bool) (state : State) (w : World) : (Option GoError × State) × World :=
  (reconcile (.real Journal.sampleConfig) Journal.sampleConfig state (metaNamespaceKey samplePod) false).run
    (leavingNode restores) w

theorem leavingPass_exec (restores : Bool) (state : State) (w : World) :
    Exec (serving sampleHome samplePod idleDir)
      (reconcile (.real Journal.sampleConfig) Journal.sampleConfig state (metaNamespaceKey samplePod) false) w
      (leavingPass restores state w).1 (leavingPass restores state w).2 :=
  .of_handler (leavingNode_act restores) _ _

theorem sample_subject : Subject Journal.sampleConfig sampleHome samplePod idleDir where
  real := by decide
  atHome := samplePod_atHome
  known := ⟨by decide, by decide, by decide⟩
  own := by decide +kernel
  named := by decide +kernel

theorem samplePod_version : Version samplePod samplePod := ⟨rfl, rfl, rfl, rfl, by decide⟩

/-- `cpu.idle` is turned off and the weight refused. -/
def interruptedPass : (Option GoError × State) × World := leavingPass false .new leavingStart

/-- The pass after it. -/
def resumedPass : (Option GoError × State) × World :=
  leavingPass true interruptedPass.1.2 { interruptedPass.2 with refused := false }

theorem passes_end : interruptedPass.2.cgroups idleDir = some Journal.resetCgroup ∧
    resumedPass.1.1 = none ∧ resumedPass.2.refused = false ∧
    resumedPass.2.cgroups idleDir = some restoredCgroup := by
  decide +kernel

theorem interruptedPass_exec : Exec (serving sampleHome samplePod idleDir)
    (reconcile (.real Journal.sampleConfig) Journal.sampleConfig .new (metaNamespaceKey samplePod) false)
      leavingStart (interruptedPass.1.1, interruptedPass.1.2) interruptedPass.2 := by
  rw [Prod.mk.eta]
  exact leavingPass_exec false .new leavingStart

theorem resumedPass_exec : Exec (serving sampleHome samplePod idleDir)
    (reconcile (.real Journal.sampleConfig) Journal.sampleConfig interruptedPass.1.2
      (metaNamespaceKey samplePod) false) { interruptedPass.2 with refused := false }
      (none, resumedPass.1.2) resumedPass.2 := by
  have nothing : resumedPass.1 = (none, resumedPass.1.2) := by
    rw [← passes_end.2.1, Prod.mk.eta]
  rw [← nothing]
  exact leavingPass_exec true interruptedPass.1.2 { interruptedPass.2 with refused := false }

end Restoration

/-- The entry of an interrupted restore is there, and the next pass ends at kubelet's weight. -/
theorem weight_restored_interrupted :
    samplePod.uid ∈ interruptedPass.1.2.pending ∧
      ∃ c, resumedPass.2.cgroups idleDir = some c ∧ c.idle = false ∧ c.weight = 4 := by
  have run : Run Journal.sampleConfig sampleHome samplePod idleDir leavingStart
      (interruptedPass.1.2, interruptedPass.2) :=
    .single (.pass samplePod_version _ false interruptedPass_exec)
  have started : ∀ c, leavingStart.cgroups idleDir = some c →
      c.idle = true ∨ c.weight = Qos.restoreWeight samplePod.spec := by
    intro c present
    obtain rfl := Option.some.inj present
    exact .inl rfl
  obtain ⟨owes, restores⟩ := weight_restored Journal.sampleConfig sampleHome sample_subject rfl started run
  obtain ⟨interrupted, -, live, present⟩ := passes_end
  refine ⟨?_, restoredCgroup, present, ?_⟩
  · exact ((owes _ interrupted).resolve_left (by decide)).resolve_left (by decide +kernel)
  · obtain ⟨inactive, weight⟩ :=
      restores samplePod samplePod_version (by decide +kernel) false _ _ resumedPass_exec live _ present
    exact ⟨inactive, weight.trans (by decide +kernel)⟩

end

end CpuIdle.Agent
