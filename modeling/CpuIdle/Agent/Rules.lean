/-
# Agent.Rules — what a pass of the Reconciler does, once

One rule for each stage, over any arena. `refreshPodsInTier_holds` walks the full scan;
`locate_holds`, `locatePod_holds` and `settle_holds` walk a pass up to its snapshot and
after the applier, with the assertion between two stages left to the caller.
-/
import CpuIdle.Agent.Series

namespace CpuIdle.Agent

open CpuIdle.Go CpuIdle.Kube CpuIdle.Node CpuIdle.Theory CpuIdle.Apply

set_option autoImplicit false

universe u

variable {W : Type u} {A : Arena nodeSignature W} {G : Guarantee nodeSignature W}

theorem mem_walk {κ : Type} [DecidableEq κ] {keys : Finset κ} (order : Walk keys) (key : κ) :
    key ∈ order.val ↔ key ∈ keys := by
  have listed : key ∈ order.val.toFinset ↔ key ∈ keys := by rw [order.property.2]
  rwa [List.mem_toFinset] at listed

/-! ## The full scan -/

/-- The accumulator after one listed pod. -/
def Refresh.take (acc : Refresh) (pod : Pod) (tiers : List TierLabel) (errs : List GoError) : Refresh where
  counts := countLabels 1 tiers acc.counts
  memberships := acc.memberships.insert pod.uid ⟨metaNamespaceKey pod, tiers⟩
  uidsByKey := acc.uidsByKey.insert (metaNamespaceKey pod) pod.uid
  refreshErrs := acc.refreshErrs ++ errs
  currentPodUIDs := pod.uid :: acc.currentPodUIDs

/-- The gauge after a full scan set the new counts and deleted the stale series. -/
def swept (counts stale : Counts) (gauge : Gauge) : Gauge := fun label =>
  match counts.lookup label with
  | some count => some count
  | none => if label ∈ stale then none else gauge label

/-- What the Reconciler remembers after a full scan. -/
def State.rescanned (state : State) (acc : Refresh) : State where
  metricsInitialized := true
  podMemberships := acc.memberships
  podUIDByKey := acc.uidsByKey
  podsInTierCounts := acc.counts
  lastNotes := pruneNoteState acc.currentPodUIDs (sortedWalk state.lastNotes.keys).val state.lastNotes
  pending := forgetGone acc.currentPodUIDs (sortedWalk state.podMemberships.keys).val state.pending

theorem mem_forgetGone {current uids : List String} {pending : Pending} {uid : String} :
    uid ∈ forgetGone current uids pending ↔ uid ∈ pending ∧ (uid ∈ uids → uid ∈ current) := by
  induction uids generalizing pending with
  | nil => simp [forgetGone]
  | cons head rest ih =>
      rw [forgetGone, ih]
      split
      · rename_i listed
        by_cases same : uid = head
        · simp [same, listed]
        · simp [same]
      · rename_i unlisted
        by_cases same : uid = head
        · subst same
          simp [unlisted]
        · simp [same]

theorem lookup_pruneNoteState {current uids : List String} {notes : Finmap fun _ : String => String}
    {uid : String} : (pruneNoteState current uids notes).lookup uid =
      if uid ∈ uids ∧ uid ∉ current then none else notes.lookup uid := by
  induction uids generalizing notes with
  | nil => simp [pruneNoteState]
  | cons head rest ih =>
      rw [pruneNoteState, ih]
      by_cases same : uid = head
      · subst same
        by_cases listed : uid ∈ current
        · simp [listed]
        · simp [listed]
      · have other : (if head ∈ current then notes else notes.erase head).lookup uid =
            notes.lookup uid := by
          split
          · rfl
          · exact Finmap.lookup_erase_ne same
        simp [same, other]

/-- The order of the walks makes no difference. -/
theorem forgetGone_walk {current walk walk' : List String} (same : walk.toFinset = walk'.toFinset)
    (pending : Pending) : forgetGone current walk pending = forgetGone current walk' pending := by
  ext uid
  have iff : uid ∈ walk ↔ uid ∈ walk' := by rw [← List.mem_toFinset, same, List.mem_toFinset]
  rw [mem_forgetGone, mem_forgetGone, iff]

theorem pruneNoteState_walk {current walk walk' : List String}
    (same : walk.toFinset = walk'.toFinset) (notes : Finmap fun _ : String => String) :
    pruneNoteState current walk notes = pruneNoteState current walk' notes := by
  refine Finmap.ext_lookup fun uid => ?_
  have iff : uid ∈ walk ↔ uid ∈ walk' := by rw [← List.mem_toFinset, same, List.mem_toFinset]
  simp only [lookup_pruneNoteState, iff]

section

variable {J : Gauge → W → Prop}

theorem setAll_holds (rule : SeriesRule A G J) (node : String) (counts : Counts)
    (labels : List TierLabel) (gauge : Gauge) :
    Holds A G (J gauge) (setAll node counts labels) fun _ w => J (fun label =>
      if label ∈ labels then some ((counts.lookup label).getD 0) else gauge label) w := by
  induction labels generalizing gauge with
  | nil => exact .pure fun w holds => by simpa using holds
  | cons head rest ih =>
      unfold setAll
      refine .bind (.request (rule.stable gauge) fun w holds answer w' act =>
        rule.set gauge w holds node head _ answer w' act) fun _ => (ih _).post fun _ w known => ?_
      have same : (fun label => if label ∈ rest then some ((counts.lookup label).getD 0)
            else Function.update gauge head (some ((counts.lookup head).getD 0)) label) =
          fun label => if label ∈ head :: rest then some ((counts.lookup label).getD 0)
            else gauge label := by
        funext label
        by_cases here : label = head
        · subst here
          simp
        · simp [here]
      exact same ▸ known

theorem deleteStale_holds (rule : SeriesRule A G J) (node : String) (counts : Counts)
    (labels : List TierLabel) (gauge : Gauge) :
    Holds A G (J gauge) (deleteStale node counts labels) fun _ w => J (fun label =>
      if label ∈ labels ∧ label ∉ counts then none else gauge label) w := by
  induction labels generalizing gauge with
  | nil => exact .pure fun w holds => by simpa using holds
  | cons head rest ih =>
      unfold deleteStale
      refine .ite (fun current => (ih gauge).post fun _ w known => ?_) fun stale => ?_
      · have same : (fun label => if label ∈ rest ∧ label ∉ counts then none else gauge label) =
            fun label => if label ∈ head :: rest ∧ label ∉ counts then none else gauge label := by
          funext label
          by_cases here : label = head
          · simp [here, current]
          · simp [here]
        exact same ▸ known
      · refine .bind (.request (rule.stable gauge) fun w holds answer w' act =>
          rule.delete gauge w holds node head answer w' act) fun _ => (ih _).post fun _ w known => ?_
        have same : (fun label => if label ∈ rest ∧ label ∉ counts then none
              else Function.update gauge head none label) =
            fun label => if label ∈ head :: rest ∧ label ∉ counts then none else gauge label := by
          funext label
          by_cases here : label = head
          · subst here
            simp [stale]
          · simp [here]
        exact same ▸ known

end

section

variable [PrintTable]

/-- One listed pod. `R` is what is known once its tiers are. -/
theorem refreshPod_holds {cfg : Config} {state : State} {pod : Pod} {acc : Refresh} {P : W → Prop}
    {R : List TierLabel → W → Prop} {Q : Refresh → W → Prop}
    (mirror : isMirrorPod pod = true → ∀ w, P w → Q acc w)
    (path : ∀ err, cfg.layout.podDir (Qos.toCgroupClass (Qos.classOf pod.spec)) pod.uid = .error err →
      ∀ w, P w → R (lastKnownTiers state pod.uid) w)
    (read : isMirrorPod pod = false → ∀ dir,
      cfg.layout.podDir (Qos.toCgroupClass (Qos.classOf pod.spec)) pod.uid = .ok dir →
      Holds A G P (readSnapshot dir) fun result w =>
        match result with
        | .ok snapshot => R (tiersOf pod snapshot) w
        | .error err =>
            if !err.is .cgroupGone || runningPodNeedsCgroup pod then
              R (lastKnownTiers state pod.uid) w
            else R [] w)
    (taken : isMirrorPod pod = false → ∀ tiers errs w, R tiers w → Q (acc.take pod tiers errs) w) :
    Holds A G P (refreshPod cfg state pod acc) Q := by
  unfold refreshPod
  refine .ite (fun isMirror => .pure (mirror isMirror)) fun notMirror => ?_
  have real : isMirrorPod pod = false := by simpa using notMirror
  have taken := taken real
  cases computed : cfg.layout.podDir (Qos.toCgroupClass (Qos.classOf pod.spec)) pod.uid with
  | error err => exact .pure fun w holds => taken _ [_] w (path err computed w holds)
  | ok dir =>
  refine .bind (read real dir computed) fun result => ?_
  have keep : ∀ tiers w, R tiers w → Q ((acc.take pod tiers [])) w := fun tiers => taken tiers []
  simp only [Refresh.take, List.append_nil] at keep
  cases result with
  | ok snapshot => exact .pure fun w known => keep _ w known
  | error err =>
      refine .ite (fun unknown => .pure fun w known => ?_) fun gone => .pure fun w known => ?_
      · exact taken _ [_] w (by simpa only [if_pos unknown] using known)
      · exact keep _ w (by simpa only [if_neg gone] using known)

theorem refreshPods_holds {cfg : Config} {state : State} {K : List Pod → Refresh → W → Prop}
    (each : ∀ pod rest acc,
      Holds A G (K (pod :: rest) acc) (refreshPod cfg state pod acc) fun acc w => K rest acc w)
    (pods : List Pod) (acc : Refresh) :
    Holds A G (K pods acc) (refreshPods cfg state pods acc) fun acc w => K [] acc w := by
  induction pods generalizing acc with
  | nil => exact .pure fun _ known => known
  | cons pod rest ih => exact .bind (each pod rest acc) fun acc => ih acc

/-- **The rule of the full scan.** `K pods acc gauge` while `pods` are still to do. -/
theorem refreshPodsInTier_holds {cfg : Config} {state : State} (gauge : Gauge) {P : W → Prop}
    {K : List Pod → Refresh → Gauge → W → Prop} {Q : Option GoError × State → W → Prop}
    (stable : A.Stable P) (walk : ∀ keys, A.Inert G (.rangeKeys keys))
    (list : ∀ w, P w → ∀ answer w', A.act w .listCache answer w' → G w .listCache answer w' ∧
      (∀ err, answer = (.error err : Except GoError (List Pod)) → ∀ err, Q (some err, state) w') ∧
      ∀ pods, answer = (.ok pods : Except GoError (List Pod)) → K pods .start gauge w')
    (each : ∀ pod rest acc, Holds A G (fun w => K (pod :: rest) acc gauge w)
      (refreshPod cfg state pod acc) fun acc w => K rest acc gauge w)
    (series : ∀ acc, SeriesRule A G (K [] acc))
    (finish : ∀ acc w, K [] acc (swept acc.counts state.podsInTierCounts gauge) w →
      Q (GoError.join acc.refreshErrs, state.rescanned acc) w) :
    Holds A G P (refreshPodsInTier cfg state) Q := by
  unfold refreshPodsInTier
  let R : Except GoError (List Pod) → W → Prop := fun answer w =>
    (∀ err, answer = .error err → ∀ err, Q (some err, state) w) ∧
      ∀ pods, answer = .ok pods → K pods .start gauge w
  refine Holds.bind (R := R) (.request stable list) fun answer => ?_
  cases answer with
  | error err => exact .pure fun w known => known.1 err rfl _
  | ok pods =>
  refine .bind (.pre (refreshPods_holds (K := fun pods acc w => K pods acc gauge w) each pods .start)
    fun w known => known.2 pods rfl) fun acc => ?_
  have rule := series acc
  refine .bind (.keeps (rule.stable _) ((rule.walk _).keeps _)) fun current => ?_
  refine .bind (setAll_holds rule cfg.node acc.counts current.val gauge) fun _ => ?_
  refine .bind (.keeps (rule.stable _) ((rule.walk _).keeps _)) fun stale => ?_
  refine .bind (deleteStale_holds rule cfg.node acc.counts stale.val _) fun _ => ?_
  refine .bind (.keeps (rule.stable _) ((walk _).keeps _)) fun tracked => ?_
  refine .bind (.keeps (rule.stable _) ((walk _).keeps _)) fun noted => ?_
  have isSwept : (fun label => if label ∈ stale.val ∧ label ∉ acc.counts then none
      else if label ∈ current.val then some ((acc.counts.lookup label).getD 0) else gauge label) =
      swept acc.counts state.podsInTierCounts gauge := by
    funext label
    have isStale := (mem_walk stale label).trans Finmap.mem_keys
    have isCurrent := (mem_walk current label).trans Finmap.mem_keys
    simp only [isStale, isCurrent, swept]
    cases counted : acc.counts.lookup label with
    | none =>
        have absent : label ∉ acc.counts := Finmap.lookup_eq_none.mp counted
        simp [absent]
    | some count =>
        have present : label ∈ acc.counts := Finmap.mem_of_lookup_eq_some counted
        simp [present]
  rw [isSwept]
  have notes : pruneNoteState acc.currentPodUIDs (sortedWalk state.lastNotes.keys).val state.lastNotes =
      pruneNoteState acc.currentPodUIDs noted.val state.lastNotes :=
    pruneNoteState_walk ((sortedWalk _).property.2.trans noted.property.2.symm) _
  have pending : forgetGone acc.currentPodUIDs (sortedWalk state.podMemberships.keys).val state.pending =
      forgetGone acc.currentPodUIDs tracked.val state.pending :=
    forgetGone_walk ((sortedWalk _).property.2.trans tracked.property.2.symm) _
  refine .pure fun w known => ?_
  have ended := finish acc w known
  rw [State.rescanned, notes, pending] at ended
  exact ended

/-! ## One pass -/

/-- The pod whose cgroup turned out to be gone and need not be there. -/
def forgotten (cfg : Config) (state : State) (key : String) (pod : Pod) : Node State :=
  setPodActual cfg.node (state.forgetApplierPodState pod.uid) key pod .zero

theorem locatePod_holds {cfg : Config} {state : State} {key : String} {pod : Pod}
    {P : W → Prop} {T : State → W → Prop} {R : String → Except GoError Snapshot → State → W → Prop}
    {Q : Lookup → W → Prop}
    (observe : Holds A G P (observePodIdentity cfg.node state key pod.uid) fun state w => T state w)
    (failed : ∀ err state w, T state w → Q (.ended (some err) state) w)
    (read : ∀ dir, cfg.layout.podDir (Qos.toCgroupClass (Qos.classOf pod.spec)) pod.uid = .ok dir →
      ∀ state, Holds A G (T state) (readSnapshot dir) fun result w => R dir result state w)
    (unread : ∀ dir err state w, R dir (.error err) state w →
      (err.is .cgroupGone = true → runningPodNeedsCgroup pod = true) → T state w)
    (gone : ∀ dir err state, err.is .cgroupGone = true → runningPodNeedsCgroup pod = false →
      Holds A G (R dir (.error err) state) (forgotten cfg state key pod)
        fun state w => Q (.ended none state) w)
    (present : ∀ dir snapshot state, Holds A G (R dir (.ok snapshot) state)
      (setPodActual cfg.node state key pod snapshot)
      fun state w => Q (.located pod dir snapshot state) w) :
    Holds A G P (locatePod cfg state key pod) Q := by
  unfold locatePod
  refine .bind observe fun state => ?_
  cases computed : cfg.layout.podDir (Qos.toCgroupClass (Qos.classOf pod.spec)) pod.uid with
  | error err => exact .pure fun w known => failed _ state w known
  | ok dir =>
  refine .bind (read dir computed state) fun result => ?_
  cases result with
  | ok snapshot => exact .bind (present dir snapshot state) fun _ => .pure fun _ known => known
  | error err =>
      refine .ite (fun isGone => .ite (fun running => ?_) fun idle => ?_) fun other => ?_
      · exact .pure fun w known => failed _ state w (unread dir err state w known fun _ => running)
      · exact .bind (gone dir err state isGone (by simpa using idle)) fun _ => .pure fun _ known => known
      · exact .pure fun w known =>
          failed _ state w (unread dir err state w known fun isGone => absurd isGone other)

/-- `R answer` is what is known once the cache has answered. -/
theorem locate_holds {cfg : Config} {state : State} {key : String} {P : W → Prop} {J : State → W → Prop}
    {R : GetResult → State → W → Prop} {Q : Lookup → W → Prop} (stable : A.Stable P)
    (ctx : A.Inert G .ctxErr)
    (cut : ∀ w, P w → A.act w .ctxErr true w → Q (.ended (some canceled) state) w)
    (initialized : Holds A G P (ensureInitialized cfg state) fun state w => J state w)
    (steady : ∀ state, A.Stable (J state))
    (malformed : ∀ err, splitMetaNamespaceKey key = .error err → ∀ err state w, J state w →
      Q (.ended (some err) state) w)
    (get : ∀ state ns name, splitMetaNamespaceKey key = .ok (ns, name) → ∀ w, J state w →
      ∀ answer w', A.act w (.getCache ns name) answer w' →
        G w (.getCache ns name) answer w' ∧ R answer state w')
    (failed : ∀ err err' state w, R (.failed err) state w → Q (.ended (some err') state) w)
    (absent : ∀ state, Holds A G (R .notFound state) (removePodByKey cfg.node state key)
      fun state w => Q (.ended none state) w)
    (mirror : ∀ pod state, isMirrorPod pod = true → Holds A G (R (.found pod) state)
      (removePodByKey cfg.node state key) fun state w => Q (.ended none state) w)
    (found : ∀ pod state, isMirrorPod pod = false → Holds A G (R (.found pod) state)
      (locatePod cfg state key pod) Q) :
    Holds A G P (locate cfg state key) Q := by
  unfold locate
  refine .bind (.inert stable ctx) fun cancelled => ?_
  refine .ite (fun isCancelled => .pure fun w known => cut w known.1 ?_) fun _ => ?_
  · subst isCancelled
    exact known.2
  refine .bind (.pre initialized fun w known => known.1) fun state => ?_
  cases named : splitMetaNamespaceKey key with
  | error err => exact .pure fun w known => malformed err named _ state w known
  | ok parts =>
  obtain ⟨ns, name⟩ := parts
  refine Holds.bind (R := fun answer w => R answer state w)
    (.request (steady state) (get state ns name named)) fun answer => ?_
  cases answer with
  | notFound => exact .bind (absent state) fun _ => .pure fun _ known => known
  | failed err => exact .pure fun w known => failed err _ state w known
  | found pod =>
      refine .ite (fun isMirror => ?_) fun notMirror => found pod state (by simpa using notMirror)
      exact .bind (mirror pod state isMirror) fun _ => .pure fun _ known => known

theorem refreshPodActual_holds {cfg : Config} {state : State} {key : String} {pod : Pod} {dir : String}
    {P : W → Prop} {R : Except GoError Snapshot → W → Prop} {Q : Option GoError × State → W → Prop}
    (read : Holds A G P (readSnapshot dir) R)
    (unread : ∀ err err' w, R (.error err) w →
      (err.is .cgroupGone = true → runningPodNeedsCgroup pod = true) → Q (some err', state) w)
    (gone : ∀ err, err.is .cgroupGone = true → runningPodNeedsCgroup pod = false →
      Holds A G (R (.error err)) (forgotten cfg state key pod) fun state w => Q (none, state) w)
    (present : ∀ snapshot, Holds A G (R (.ok snapshot)) (setPodActual cfg.node state key pod snapshot)
      fun state w => Q (none, state) w) :
    Holds A G P (refreshPodActual cfg state key pod dir) Q := by
  unfold refreshPodActual
  refine .bind read fun result => ?_
  cases result with
  | ok snapshot => exact .bind (present snapshot) fun _ => .pure fun _ known => known
  | error err =>
      refine .ite (fun isGone => .ite (fun running => ?_) fun idle => ?_) fun other => ?_
      · exact .pure fun w known => unread err _ w known fun _ => running
      · exact .bind (gone err isGone (by simpa using idle)) fun _ => .pure fun _ known => known
      · exact .pure fun w known => unread err _ w known fun isGone => absurd isGone other

end

end CpuIdle.Agent
