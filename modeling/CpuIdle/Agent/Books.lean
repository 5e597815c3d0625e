/-
# Agent.Books — what the Reconciler's maps owe each other

The world is the exported gauge. The cache shows any pods at any time, but a UID stays
under one namespace and name (`home`), and a listing shows no key twice. Every read
and every write has any outcome.

* `Books` — the maps agree with one another;
* `Books.observe`, `Books.replace`, `Books.drop`, `Scan.take` — each edit keeps it;
* `Kept`, `Held` — consistent books with the gauge they export, and a pod that is on them;
* `removePodByKey_books` … `refreshPodsInTier_books` — so does each call of the bookkeeper.
-/
import CpuIdle.Agent.Rules

namespace CpuIdle.Agent

open CpuIdle.Go CpuIdle.Kube CpuIdle.Node CpuIdle.Theory CpuIdle.Apply

set_option autoImplicit false

namespace Books

/-- The key of a namespace and a name. -/
def keyOf (place : String × String) : String := place.1 ++ "/" ++ place.2

/-- The namespace and name of each UID, for ever. -/
abbrev Home := String → String × String

/-- A pod under its own name. -/
structure AtHome (home : Home) (pod : Pod) : Prop where
  namespaced : pod.ns ≠ ""
  place : home pod.uid = (pod.ns, pod.name)

theorem AtHome.key {home : Home} {pod : Pod} (atHome : AtHome home pod) :
    metaNamespaceKey pod = keyOf (home pod.uid) := by
  rw [metaNamespaceKey, if_pos atHome.namespaced, atHome.place, keyOf]

def act (home : Home) (gauge : Gauge) : (r : Request) → Answer r → Gauge → Prop
  | .getCache ns name, answer, gauge' => gauge' = gauge ∧
      ∀ pod, answer = GetResult.found pod → pod.ns = ns ∧ pod.name = name ∧ AtHome home pod
  | .listCache, answer, gauge' => gauge' = gauge ∧
      ∀ pods, answer = (.ok pods : Except GoError (List Pod)) →
        (∀ pod ∈ pods, AtHome home pod) ∧ (pods.map metaNamespaceKey).Nodup
  | .setPodsInTier _ label count, _, gauge' => gauge' = Function.update gauge label (some count)
  | .deletePodsInTier _ label, _, gauge' => gauge' = Function.update gauge label none
  | _, _, gauge' => gauge' = gauge

def arena (home : Home) : Arena nodeSignature Gauge := { act := act home, rely := fun _ _ => False }

end Books

open Books

/-- The maps agree with one another. -/
structure Books (home : Books.Home) (state : State) : Prop where
  keyed : ∀ key uid, state.podUIDByKey.lookup key = some uid ↔
    (state.podMemberships.lookup uid).map Membership.key = some key
  homes : ∀ uid membership, state.podMemberships.lookup uid = some membership →
    membership.key = keyOf (home uid)
  counted : ∀ label, state.podsInTierCounts.lookup label =
    shown (tally Membership.tiers state.podMemberships label)
  noted : ∀ uid ∈ state.lastNotes, uid ∈ state.podMemberships
  journaled : ∀ uid ∈ state.pending, uid ∈ state.podMemberships

namespace Books

variable {home : Home} {state : State}

/-- The gauge these books export. -/
def exported (state : State) : Gauge := (state.podsInTierCounts.lookup ·)

theorem new : Books home .new where
  keyed key uid := by simp [State.new]
  homes uid membership found := by simp [State.new] at found
  counted label := by simp [State.new, shown]
  noted uid member := absurd member Finmap.notMem_empty
  journaled uid member := by simp [State.new] at member

/-! ## The edits -/

/-- The counts and the gauge after a pod's labels changed are those of the new memberships. -/
theorem recounted_shown (books : Books home state) {uid : String} {new : List TierLabel}
    {memberships : Finmap fun _ : String => Membership}
    (moved : ∀ label, tally Membership.tiers memberships label +
      (lastKnownTiers state uid).count label =
        tally Membership.tiers state.podMemberships label + new.count label) (label : TierLabel) :
    recounted (lastKnownTiers state uid) new state.podsInTierCounts (exported state) label =
      shown (tally Membership.tiers memberships label) := by
  have balance := moved label
  have below : (lastKnownTiers state uid).count label ≤
      tally Membership.tiers state.podMemberships label :=
    count_le_tally Membership.tiers state.podMemberships uid label
  have value : ((state.podsInTierCounts.lookup label).getD 0 : Int) =
      tally Membership.tiers state.podMemberships label := by
    rw [books.counted label, shown_natCast]
    split
    · simp_all
    · rfl
  unfold recounted
  split
  · congr 1
    rw [value]
    omega
  · rename_i untouched
    rw [List.mem_append, not_or] at untouched
    rw [List.count_eq_zero.mpr untouched.1, List.count_eq_zero.mpr untouched.2] at balance
    rw [exported, books.counted label]
    congr 2
    omega

/-- `uid` is on the books under `key`. -/
def Tracked (state : State) (key uid : String) : Prop := state.podUIDByKey.lookup key = some uid

theorem Tracked.membership (books : Books home state) {key uid : String}
    (tracked : Tracked state key uid) :
    ∃ membership, state.podMemberships.lookup uid = some membership ∧ membership.key = key :=
  Option.map_eq_some_iff.mp ((books.keyed key uid).mp tracked)

theorem Tracked.key_eq (books : Books home state) {key uid : String}
    (tracked : Tracked state key uid) : key = keyOf (home uid) := by
  obtain ⟨membership, found, rfl⟩ := tracked.membership books
  exact books.homes uid membership found

/-- Rewriting the labels of a tracked pod. -/
theorem replace (books : Books home state) {key uid : String} (tracked : Tracked state key uid)
    {tiers : List TierLabel} {counts : Counts}
    (recount : ∀ label, counts.lookup label = recounted (lastKnownTiers state uid) tiers
      state.podsInTierCounts (state.podsInTierCounts.lookup ·) label) :
    Books home { state with
      podMemberships := state.podMemberships.insert uid ⟨key, tiers⟩
      podUIDByKey := (state.rekeyed uid key).insert key uid
      podsInTierCounts := counts } := by
  obtain ⟨membership, found, named⟩ := tracked.membership books
  have rekeyed : (state.rekeyed uid key).insert key uid = state.podUIDByKey := by
    have same : state.rekeyed uid key = state.podUIDByKey := by simp [State.rekeyed, found, named]
    rw [same]
    refine Finmap.ext_lookup fun key' => ?_
    by_cases here : key' = key
    · rw [here, Finmap.lookup_insert, tracked]
    · rw [Finmap.lookup_insert_of_ne _ here]
  have lookup : ∀ uid', (Finmap.lookup uid' (state.podMemberships.insert uid ⟨key, tiers⟩)).map
      Membership.key = (state.podMemberships.lookup uid').map Membership.key := by
    intro uid'
    by_cases here : uid' = uid
    · rw [here, Finmap.lookup_insert, found]
      simp [named]
    · rw [Finmap.lookup_insert_of_ne _ here]
  have kept : ∀ uid', uid' ∈ state.podMemberships →
      uid' ∈ state.podMemberships.insert uid ⟨key, tiers⟩ :=
    fun uid' member => Finmap.mem_insert.mpr (.inr member)
  rw [rekeyed]
  exact {
    keyed := fun key' uid' => by rw [lookup, books.keyed]
    homes := fun uid' membership' found' => by
      by_cases here : uid' = uid
      · subst here
        rw [Finmap.lookup_insert, Option.some.injEq] at found'
        rw [← found']
        exact tracked.key_eq books
      · rw [Finmap.lookup_insert_of_ne _ here] at found'
        exact books.homes uid' membership' found'
    counted := fun label => (recount label).trans (books.recounted_shown
      (fun label => tally_insert Membership.tiers state.podMemberships uid ⟨key, tiers⟩ label) label)
    noted := fun uid' member => kept uid' (books.noted uid' member)
    journaled := fun uid' member => kept uid' (books.journaled uid' member) }

/-- A pod that leaves takes its note and its journal entry along. -/
theorem drop (books : Books home state) {key uid : String} (tracked : Tracked state key uid)
    {counts : Counts}
    (recount : ∀ label, counts.lookup label = recounted (lastKnownTiers state uid) []
      state.podsInTierCounts (state.podsInTierCounts.lookup ·) label) :
    Books home { state with
      podMemberships := state.podMemberships.erase uid
      podUIDByKey := state.podUIDByKey.erase key
      podsInTierCounts := counts
      lastNotes := state.lastNotes.erase uid
      pending := state.pending.erase uid } where
  keyed key' uid' := by
    by_cases here : key' = key
    · subst here
      rw [Finmap.lookup_erase]
      by_cases same : uid' = uid
      · rw [same, Finmap.lookup_erase]
        simp
      · rw [Finmap.lookup_erase_ne same, ← books.keyed, show state.podUIDByKey.lookup key' = some uid from tracked]
        simp [Ne.symm same]
    · rw [Finmap.lookup_erase_ne here, books.keyed]
      by_cases same : uid' = uid
      · obtain ⟨membership, found, named⟩ := tracked.membership books
        rw [same, Finmap.lookup_erase, found]
        simp [named, Ne.symm here]
      · rw [Finmap.lookup_erase_ne same]
  homes uid' membership found := by
    by_cases same : uid' = uid
    · rw [same, Finmap.lookup_erase] at found
      cases found
    · rw [Finmap.lookup_erase_ne same] at found
      exact books.homes uid' membership found
  counted label := (recount label).trans (books.recounted_shown (fun label => by
    rw [List.count_nil, Nat.add_zero]
    exact tally_erase Membership.tiers _ _ _) label)
  noted uid' member := by
    rw [Finmap.mem_erase] at member ⊢
    exact ⟨member.1, books.noted uid' member.2⟩
  journaled uid' member := by
    rw [Finset.mem_erase] at member
    exact Finmap.mem_erase.mpr ⟨member.1, books.journaled uid' member.2⟩

/-- A UID nobody holds yet enters under its own key, with no labels. -/
theorem observe (books : Books home state) {key uid : String} (own : key = keyOf (home uid))
    (free : ∀ uid', state.podUIDByKey.lookup key = some uid' → uid' = uid) :
    Books home { state with
      podUIDByKey := state.podUIDByKey.insert key uid
      podMemberships := if uid ∈ state.podMemberships then state.podMemberships
        else state.podMemberships.insert uid ⟨key, []⟩ } := by
  by_cases present : uid ∈ state.podMemberships
  · obtain ⟨membership, found⟩ := Finmap.mem_iff.mp present
    have tracked : state.podUIDByKey.lookup key = some uid := by
      rw [books.keyed, found, own, Option.map_some, books.homes uid membership found]
    have same : state.podUIDByKey.insert key uid = state.podUIDByKey := by
      refine Finmap.ext_lookup fun key' => ?_
      by_cases here : key' = key
      · rw [here, Finmap.lookup_insert, tracked]
      · rw [Finmap.lookup_insert_of_ne _ here]
    rw [if_pos present, same]
    exact books
  · have unheld : ∀ key', state.podUIDByKey.lookup key' ≠ some uid := by
      intro key' held
      obtain ⟨membership, found, -⟩ := Tracked.membership books held
      exact present (Finmap.mem_of_lookup_eq_some found)
    have vacant : state.podUIDByKey.lookup key = none := by
      cases held : state.podUIDByKey.lookup key with
      | none => rfl
      | some uid' => exact absurd (free uid' held ▸ held) (unheld key)
    have kept : ∀ uid', uid' ∈ state.podMemberships →
        uid' ∈ state.podMemberships.insert uid ⟨key, []⟩ :=
      fun uid' member => Finmap.mem_insert.mpr (.inr member)
    rw [if_neg present]
    exact {
      keyed := fun key' uid' => by
        by_cases same : uid' = uid
        · subst same
          rw [Finmap.lookup_insert]
          by_cases here : key' = key
          · rw [here, Finmap.lookup_insert]
            simp
          · rw [Finmap.lookup_insert_of_ne _ here]
            simp [unheld, Ne.symm here]
        · rw [Finmap.lookup_insert_of_ne _ same, ← books.keyed]
          by_cases here : key' = key
          · rw [here, Finmap.lookup_insert, vacant]
            simp [Ne.symm same]
          · rw [Finmap.lookup_insert_of_ne _ here]
      homes := fun uid' membership found => by
        by_cases same : uid' = uid
        · subst same
          rw [Finmap.lookup_insert, Option.some.injEq] at found
          rw [← found]
          exact own
        · rw [Finmap.lookup_insert_of_ne _ same] at found
          exact books.homes uid' membership found
      counted := fun label => by
        have moved := tally_insert Membership.tiers state.podMemberships uid ⟨key, []⟩ label
        rw [labelsAt_absent Membership.tiers present, List.count_nil] at moved
        dsimp only
        rw [books.counted label]
        congr 2
        omega
      noted := fun uid' member => kept uid' (books.noted uid' member)
      journaled := fun uid' member => kept uid' (books.journaled uid' member) }

/-- Reporting the notices of a tracked pod. -/
theorem note (books : Books home state) {uid : String} (present : uid ∈ state.podMemberships)
    (signature : String) : Books home (state.recordPodNotice uid signature) where
  keyed := books.keyed
  homes := books.homes
  counted := books.counted
  noted uid' member := by
    simp only [State.recordPodNotice] at member ⊢
    split at member
    · exact books.noted uid' (Finmap.mem_erase.mp member).2
    · rcases Finmap.mem_insert.mp member with rfl | member
      · exact present
      · exact books.noted uid' member
  journaled := books.journaled

/-- The journal of a tracked pod. -/
theorem journal (books : Books home state) {uid : String} (present : uid ∈ state.podMemberships)
    {pending : Pending} (within : pending ⊆ insert uid state.pending) :
    Books home { state with pending } where
  keyed := books.keyed
  homes := books.homes
  counted := books.counted
  noted := books.noted
  journaled uid' member := by
    rcases Finset.mem_insert.mp (within member) with rfl | member
    · exact present
    · exact books.journaled uid' member

/-! ## The arena -/

abbrev trivially : Guarantee nodeSignature Gauge := fun _ _ _ _ => True

theorem stable (P : Gauge → Prop) : (arena home).Stable P := fun _ _ move => move.elim

theorem series (home : Home) : SeriesRule (arena home) trivially fun gauge w => w = gauge where
  stable gauge := stable _
  walk _ _ _ _ act := ⟨act, trivial⟩
  set gauge w holds node label count answer w' act := ⟨trivial, by rw [act, holds]⟩
  delete gauge w holds node label answer w' act := ⟨trivial, by rw [act, holds]⟩

theorem silent (P : Gauge → Prop) : Observe.Silent (arena home) trivially P where
  stable := stable P
  inc _ _ holds _ _ act := ⟨trivial, act ▸ holds⟩
  event _ _ holds _ _ act := ⟨trivial, act ▸ holds⟩

section

variable [PrintTable]

theorem reading (P : Gauge → Prop) (dir : String) :
    Holds (arena home) trivially P (readSnapshot dir) fun _ w => P w :=
  readSnapshot_keeps (stable P) (fun _ holds _ _ act => ⟨trivial, act ▸ holds⟩)
    fun _ _ holds _ _ act => ⟨trivial, act ▸ holds⟩

end

/-! ## The calls of the bookkeeper -/

/-- Consistent books, and the gauge they export. -/
structure Kept (home : Home) (state : State) (gauge : Gauge) : Prop where
  books : Books home state
  gauge : gauge = exported state

/-- `uid` is on them under `key` as well. -/
structure Held (home : Home) (key uid : String) (state : State) (gauge : Gauge) : Prop
    extends Kept home state gauge where
  tracked : Tracked state key uid

theorem Held.present {key uid : String} {gauge : Gauge} (held : Held home key uid state gauge) :
    uid ∈ state.podMemberships := by
  obtain ⟨membership, found, -⟩ := held.tracked.membership held.books
  exact Finmap.mem_of_lookup_eq_some found

/-- Rewriting a gauge the counts describe. -/
theorem exported_of {counts : Counts} {gauge : Gauge} {state : State}
    (lookup : ∀ label, counts.lookup label = gauge label) (own : state.podsInTierCounts = counts) :
    gauge = exported state := by
  funext label
  rw [exported, own, lookup]

theorem removePodByKey_books (node key : String) (state : State) :
    Holds (arena home) trivially (Kept home state) (removePodByKey node state key)
      fun state' gauge => Kept home state' gauge ∧ key ∉ state'.podUIDByKey := by
  unfold removePodByKey
  cases held : state.podUIDByKey.lookup key with
  | none => exact .pure fun gauge kept => ⟨kept, Finmap.lookup_eq_none.mp held⟩
  | some uid =>
  rintro gauge ⟨books, rfl⟩
  obtain ⟨membership, found, named⟩ := Tracked.membership books held
  have removal := removePod_holds (series home) node (state.forgetApplierPodState uid) uid (exported state)
  refine Safe.bind ((removal _ rfl).mono fun state' gauge known => ?_)
  obtain ⟨counts, rfl, recount, rfl⟩ := known
  have unkeyed : (state.forgetApplierPodState uid).unkeyed uid = state.podUIDByKey.erase key := by
    simp [State.unkeyed, State.forgetApplierPodState, found, named]
  have twice : (state.podUIDByKey.erase key).erase key = state.podUIDByKey.erase key :=
    erase_absent (Finmap.lookup_erase _ _)
  rw [unkeyed]
  refine ⟨⟨?_, exported_of recount rfl⟩, Finmap.notMem_erase_self⟩
  have dropped := drop books held recount
  rw [← twice] at dropped
  exact dropped

theorem observePodIdentity_books (node : String) {key uid : String} (own : key = keyOf (home uid))
    (state : State) : Holds (arena home) trivially (Kept home state)
      (observePodIdentity node state key uid) fun state' gauge => Held home key uid state' gauge := by
  have enter : ∀ state' : State, (∀ uid', state'.podUIDByKey.lookup key = some uid' → uid' = uid) →
      Holds (arena home) trivially (Kept home state') (pure { state' with
        podUIDByKey := state'.podUIDByKey.insert key uid
        podMemberships := if uid ∈ state'.podMemberships then state'.podMemberships
          else state'.podMemberships.insert uid ⟨key, []⟩ } : Node State)
        fun state' gauge => Held home key uid state' gauge := fun state' free =>
    .pure fun gauge kept => ⟨⟨kept.books.observe own free, kept.gauge⟩, Finmap.lookup_insert _⟩
  unfold observePodIdentity dropReplaced
  cases held : state.podUIDByKey.lookup key with
  | none => exact enter state (by simp [held])
  | some previous =>
      dsimp only
      by_cases same : previous = uid
      · rw [if_neg (not_not.mpr same)]
        exact enter state (by simp [held, same])
      rw [if_pos same]
      rintro gauge ⟨books, rfl⟩
      obtain ⟨membership, found, named⟩ := Tracked.membership books held
      have removal := removePod_holds (series home) node (state.forgetApplierPodState previous) previous
        (exported state)
      rw [bind_assoc]
      refine Safe.bind ((removal _ rfl).mono fun state' gauge known => ?_)
      obtain ⟨counts, rfl, recount, rfl⟩ := known
      have unkeyed : (state.forgetApplierPodState previous).unkeyed previous =
          state.podUIDByKey.erase key := by
        simp [State.unkeyed, State.forgetApplierPodState, found, named]
      rw [unkeyed]
      have dropped := drop books held recount
      exact enter _ (by simp [State.forgetNotes, Finmap.lookup_erase]) _
        ⟨dropped, exported_of recount rfl⟩

theorem setPodActual_books (node : String) {key : String} {pod : Pod} (snapshot : Snapshot)
    (state : State) : Holds (arena home) trivially (Held home key pod.uid state)
      (setPodActual node state key pod snapshot)
      fun state' gauge => Held home key pod.uid state' gauge ∧
        state'.podMemberships.lookup pod.uid = some ⟨key, tiersOf pod snapshot⟩ := by
  refine .of_forall fun gauge held => ?_
  refine .bind (.pre (observePodIdentity_books node (held.tracked.key_eq held.books) state)
    fun w same => same ▸ held.toKept) fun state' => ?_
  rintro gauge' ⟨⟨books, rfl⟩, tracked⟩
  refine (replacePodMembership_holds (series home) node state' pod.uid ⟨key, tiersOf pod snapshot⟩
    (exported state') _ rfl).mono fun state'' gauge known => ?_
  obtain ⟨counts, rfl, recount, rfl⟩ := known
  exact ⟨⟨⟨books.replace tracked recount, exported_of recount rfl⟩, Finmap.lookup_insert _⟩,
    Finmap.lookup_insert _⟩

/-! ## The full scan -/

/-- The accumulator as books of its own. -/
def scanned (acc : Refresh) : State := ⟨true, acc.memberships, acc.uidsByKey, acc.counts, ∅, ∅⟩

/-- What holds of the accumulator while these pods are still to do. -/
structure Scan (home : Home) (pods : List Pod) (acc : Refresh) : Prop where
  homes : ∀ pod ∈ pods, AtHome home pod
  distinct : (pods.map metaNamespaceKey).Nodup
  fresh : ∀ pod ∈ pods, metaNamespaceKey pod ∉ acc.uidsByKey
  books : Books home (scanned acc)
  current : ∀ uid, uid ∈ acc.currentPodUIDs ↔ uid ∈ acc.memberships

theorem Scan.start {pods : List Pod} (homes : ∀ pod ∈ pods, AtHome home pod)
    (distinct : (pods.map metaNamespaceKey).Nodup) : Scan home pods .start where
  homes := homes
  distinct := distinct
  fresh _ _ := Finmap.notMem_empty
  books := { (new : Books home .new) with }
  current uid := by simp [Refresh.start, Finmap.notMem_empty]

theorem Scan.skip {pod : Pod} {pods : List Pod} {acc : Refresh} (scan : Scan home (pod :: pods) acc) :
    Scan home pods acc where
  homes p member := scan.homes p (by simp [member])
  distinct := (List.nodup_cons.mp scan.distinct).2
  fresh p member := scan.fresh p (by simp [member])
  books := scan.books
  current := scan.current

/-- Labels of a pod that is new to nonnegative counts. -/
theorem lookup_countLabels_new (books : Books home state) (tiers : List TierLabel) (label : TierLabel) :
    (countLabels 1 tiers state.podsInTierCounts).lookup label =
      recounted [] tiers state.podsInTierCounts (state.podsInTierCounts.lookup ·) label := by
  rw [lookup_countLabels, recounted, List.nil_append, List.count_nil]
  split
  · rename_i member
    have positive := List.count_pos_iff.mpr member
    have value : 0 ≤ (state.podsInTierCounts.lookup label).getD 0 := by
      rw [books.counted label, shown]
      split
      · simp
      · simp
    rw [shown, if_neg (by omega)]
    congr 1
    ring
  · rfl

theorem Scan.unseen {pod : Pod} {pods : List Pod} {acc : Refresh} (scan : Scan home (pod :: pods) acc) :
    pod.uid ∉ acc.memberships := by
  intro member
  obtain ⟨membership, found⟩ := Finmap.mem_iff.mp member
  have own := scan.homes pod (by simp)
  have held : acc.uidsByKey.lookup membership.key = some pod.uid :=
    (scan.books.keyed membership.key pod.uid).mpr (by simp [scanned, found])
  refine scan.fresh pod (by simp) ?_
  rw [own.key, ← scan.books.homes pod.uid membership found]
  exact Finmap.mem_of_lookup_eq_some held

/-- The same once the next pod is on them, still without labels. -/
def entered (acc : Refresh) (pod : Pod) : State where
  metricsInitialized := true
  podMemberships := acc.memberships.insert pod.uid ⟨metaNamespaceKey pod, []⟩
  podUIDByKey := acc.uidsByKey.insert (metaNamespaceKey pod) pod.uid
  podsInTierCounts := acc.counts
  lastNotes := ∅
  pending := ∅

theorem Scan.take {pod : Pod} {pods : List Pod} {acc : Refresh} (scan : Scan home (pod :: pods) acc)
    (tiers : List TierLabel) (errs : List GoError) : Scan home pods (acc.take pod tiers errs) := by
  have own := scan.homes pod (by simp)
  have unseen := scan.unseen
  have vacant : acc.uidsByKey.lookup (metaNamespaceKey pod) = none :=
    Finmap.lookup_eq_none.mpr (scan.fresh pod (by simp))
  have observed : Books home (entered acc pod) := by
    have observed := scan.books.observe own.key (by simp [scanned, vacant])
    rwa [if_neg (show pod.uid ∉ (scanned acc).podMemberships from unseen)] at observed
  have blank : lastKnownTiers (entered acc pod) pod.uid = [] := by
    simp [lastKnownTiers, entered, Finmap.lookup_insert]
  have recount : ∀ label, (countLabels 1 tiers acc.counts).lookup label =
      recounted (lastKnownTiers (entered acc pod) pod.uid) tiers (entered acc pod).podsInTierCounts
        ((entered acc pod).podsInTierCounts.lookup ·) label := by
    intro label
    rw [blank]
    exact lookup_countLabels_new scan.books tiers label
  have tracked : Tracked (entered acc pod) (metaNamespaceKey pod) pod.uid := Finmap.lookup_insert _
  have replaced := observed.replace tracked recount
  exact {
    homes := scan.skip.homes
    distinct := scan.skip.distinct
    fresh := fun p member present => by
      rcases Finmap.mem_insert.mp present with same | present
      · refine (List.nodup_cons.mp scan.distinct).1 ?_
        rw [← same]
        exact List.mem_map_of_mem member
      · exact scan.skip.fresh p member present
    books := by
      simpa [scanned, entered, Refresh.take, State.rekeyed, Finmap.lookup_insert,
        Finmap.insert_insert] using replaced
    current := fun uid => by simp [Refresh.take, Finmap.mem_insert, scan.current uid] }

/-- The old notes and journal entries of pods that are gone go with them. -/
theorem Scan.rescanned {acc : Refresh} (books : Books home state) (scan : Scan home [] acc) :
    Books home (state.rescanned acc) where
  keyed := scan.books.keyed
  homes := scan.books.homes
  counted := scan.books.counted
  noted uid member := by
    obtain ⟨signature, noted⟩ := Finmap.mem_iff.mp member
    simp only [State.rescanned, lookup_pruneNoteState] at noted
    split at noted
    · cases noted
    · rename_i kept
      have known : uid ∈ (sortedWalk state.lastNotes.keys).val :=
        (mem_walk _ uid).mpr (Finmap.mem_keys.mpr (Finmap.mem_of_lookup_eq_some noted))
      rw [not_and, not_not] at kept
      exact (scan.current uid).mp (kept known)
  journaled uid member := by
    obtain ⟨journaled, kept⟩ := mem_forgetGone.mp member
    exact (scan.current uid).mp
      (kept ((mem_walk _ uid).mpr (Finmap.mem_keys.mpr (books.journaled uid journaled))))

theorem swept_rescanned (state : State) (acc : Refresh) :
    Agent.swept acc.counts state.podsInTierCounts (exported state) = exported (state.rescanned acc) := by
  funext label
  simp only [Agent.swept, exported, State.rescanned]
  cases counted : acc.counts.lookup label with
  | some count => rfl
  | none =>
      by_cases stale : label ∈ state.podsInTierCounts
      · simp [stale]
      · simp [stale, Finmap.lookup_eq_none.mpr stale]

section

variable [PrintTable]

theorem refreshPodsInTier_books (cfg : Config) (state : State) :
    Holds (arena home) trivially (Kept home state) (refreshPodsInTier cfg state)
      fun result gauge => Kept home result.2 gauge := by
  rintro gauge ⟨books, rfl⟩
  refine refreshPodsInTier_holds (exported state) (P := fun w => w = exported state)
    (K := fun pods acc gauge w => Scan home pods acc ∧ w = gauge) (stable _)
    (fun _ _ _ _ act => ⟨act, trivial⟩) (fun w same answer w' act => ?_) (fun pod rest acc => ?_)
    (fun acc => ?_) (fun acc w known => ?_) _ rfl
  · obtain ⟨rfl, shows⟩ := act
    refine ⟨trivial, fun _ _ _ => ⟨books, same⟩, fun pods listed => ⟨?_, same⟩⟩
    exact .start (shows pods listed).1 (shows pods listed).2
  · refine refreshPod_holds (R := fun _ w => Scan home (pod :: rest) acc ∧ w = exported state)
      (fun _ w known => ⟨known.1.skip, known.2⟩) (fun _ _ w known => known) (fun _ dir _ => ?_)
      fun _ tiers errs w known => ⟨known.1.take tiers errs, known.2⟩
    refine (reading _ dir).post fun result w known => ?_
    cases result with
    | ok snapshot => exact known
    | error err =>
        dsimp only
        split
        · exact known
        · exact known
  · exact {
      stable := fun gauge => stable _
      walk := (series home).walk
      set := fun gauge w known node label count answer w' act =>
        ⟨trivial, known.1, ((series home).set gauge w known.2 node label count answer w' act).2⟩
      delete := fun gauge w known node label answer w' act =>
        ⟨trivial, known.1, ((series home).delete gauge w known.2 node label answer w' act).2⟩ }
  · exact ⟨known.1.rescanned books, known.2.trans (swept_rescanned state acc)⟩

end

end Books

end CpuIdle.Agent
