/-
# Agent.Sightings — what was last seen of each pod

The ledger of a run: for each UID the pod and the snapshot that were last seen of it, computed from
nothing but what the calls asked and were answered. The books are not consulted.

* `looks` — the snapshots of a transcript, in order: `readSnapshot` itself on the recorded answers;
* `Ledger`, `afterScan`, `afterPass` — what a full scan and a pass add to the ledger;
* `Accords` — the tiers on the books are those of the ledger;
* `refreshPodsInTier_seen`, `locatePod_seen`, `located_seen` — the stages of a call keep it so.
-/
import CpuIdle.Agent.Books
import CpuIdle.Theory.Run

namespace CpuIdle.Agent

open CpuIdle.Go CpuIdle.Kube CpuIdle.Node CpuIdle.Theory CpuIdle.Apply

set_option autoImplicit false

namespace Books

abbrev Events := List (Program.Event nodeSignature)

/-! ## The ledger -/

section

variable [PrintTable]

/-- Every snapshot that was read, or what its reading failed with. -/
def looks : Events → List (Except GoError Snapshot)
  | [] => []
  | ⟨.readFile dir name, answer⟩ :: rest =>
      if name = knobCPUIdle then
        ((readSnapshot dir).replay (⟨.readFile dir name, answer⟩ :: rest)).toList ++ looks rest
      else looks rest
  | _ :: rest => looks rest

/-- What a look tells of a pod: a snapshot, or that there is no cgroup and need not be. -/
def took (pod : Pod) : Except GoError Snapshot → Option Snapshot
  | .ok snapshot => some snapshot
  | .error err => if err.is .cgroupGone && !runningPodNeedsCgroup pod then some .zero else none

/-- The pod and the snapshot last seen under a UID. -/
abbrev Ledger := String → Option (Pod × Snapshot)

/-- The listed pods take the looks in turn; a look that tells nothing leaves the old sighting. -/
def sight (cfg : Config) (seen : Ledger) : List Pod → List (Except GoError Snapshot) → Ledger → Ledger
  | [], _, ledger => ledger
  | pod :: rest, results, ledger =>
      if isMirrorPod pod then sight cfg seen rest results ledger
      else
        match cfg.layout.podDir (Qos.toCgroupClass (Qos.classOf pod.spec)) pod.uid with
        | .error _ => sight cfg seen rest results (Function.update ledger pod.uid (seen pod.uid))
        | .ok _ => sight cfg seen rest results.tail (Function.update ledger pod.uid
            (((results.head?.bind (took pod)).map fun snapshot => (pod, snapshot)).or (seen pod.uid)))

/-- The pods that were listed, and what came after. -/
def listing : Events → Option (List Pod × Events)
  | [] => none
  | ⟨.listCache, .ok pods⟩ :: rest => some (pods, rest)
  | _ :: rest => listing rest

/-- A full scan: who is not listed is forgotten. -/
def afterScan (cfg : Config) (events : Events) (seen : Ledger) : Ledger :=
  match listing events with
  | some (pods, rest) => sight cfg seen pods (looks rest) fun _ => none
  | none => seen

/-- What the cache showed under the key, with what came before and after. -/
def fetched : Events → Option (Events × GetResult × Events)
  | [] => none
  | ⟨.getCache _ _, answer⟩ :: rest => some ([], answer, rest)
  | event :: rest => (fetched rest).map fun found => (event :: found.1, found.2)

/-- Who is under this key is forgotten, but for the one who stays. -/
def vacate (home : Home) (key : String) (stays : Option String) (seen : Ledger) : Ledger := fun uid =>
  if keyOf (home uid) = key ∧ some uid ≠ stays then none else seen uid

/-- The last look of a pass that tells something: the one after the applier, else the one before it.
The applier's own look in between is not the Reconciler's. -/
def lastLook (pod : Pod) (results : List (Except GoError Snapshot)) : Option Snapshot :=
  (results.getLast?.bind (took pod)).or (results.head?.bind (took pod))

/-- A pod that was seen enters the ledger. -/
def told (pod : Pod) (sighted : Option Snapshot) (seen : Ledger) : Ledger :=
  match sighted with
  | some snapshot => Function.update seen pod.uid (some (pod, snapshot))
  | none => seen

/-- What the cache's answer and the looks after it make of the ledger. -/
def afterAnswer (home : Home) (key : String) (after : Events) (seen : Ledger) : GetResult → Ledger
  | .failed _ => seen
  | .notFound => vacate home key none seen
  | .found pod =>
      if isMirrorPod pod then vacate home key none seen
      else told pod (lastLook pod (looks after)) (vacate home key (some pod.uid) seen)

/-- A pass on a key, the first scan included. -/
def afterPass (cfg : Config) (home : Home) (key : String) (events : Events) (seen : Ledger) : Ledger :=
  match fetched events with
  | none => afterScan cfg events seen
  | some (before, answer, after) => afterAnswer home key after (afterScan cfg before seen) answer

/-! ## The transcript of a look -/

/-- Begins a look. -/
def Look : Request → Prop
  | .readFile _ name => name = knobCPUIdle
  | _ => False

theorem looks_cons {event : Program.Event nodeSignature} (other : ¬Look event.1) (rest : Events) :
    looks (event :: rest) = looks rest := by
  obtain ⟨r, answer⟩ := event
  cases r with
  | readFile dir name => exact if_neg other
  | _ => rfl

theorem looks_append {events : Events} (others : ∀ event ∈ events, ¬Look event.1) (rest : Events) :
    looks (events ++ rest) = looks rest := by
  induction events with
  | nil => rfl
  | cons event events ih =>
      rw [List.cons_append, looks_cons (others event List.mem_cons_self)]
      exact ih fun e member => others e (List.mem_cons_of_mem _ member)

theorem looks_suffix (events rest : Events) : ∃ earlier, looks (events ++ rest) = earlier ++ looks rest := by
  induction events with
  | nil => exact ⟨[], rfl⟩
  | cons event events ih =>
      obtain ⟨earlier, same⟩ := ih
      by_cases begins : Look event.1
      · obtain ⟨r, answer⟩ := event
        cases r with
        | readFile dir name =>
            refine ⟨((readSnapshot dir).replay (⟨.readFile dir name, answer⟩ :: (events ++ rest))).toList ++
              earlier, ?_⟩
            rw [List.append_assoc, ← same]
            exact if_pos begins
        | _ => exact begins.elim
      · exact ⟨earlier, (looks_cons begins _).trans same⟩

theorem readKnob_asks (dir name : String) :
    (Cgroup.readKnob dir name).Asks fun r => r = Request.readFile dir name ∨ r = Request.stat dir := by
  unfold Cgroup.readKnob
  refine .ite (fun _ => trivial) fun _ => ⟨.inl rfl, fun answer => ?_⟩
  cases answer with
  | data content => trivial
  | failed err => trivial
  | notExist => exact ⟨.inr rfl, fun answer => by cases answer <;> trivial⟩

/-- Only reading `cpu.idle` begins a look. -/
theorem readKnob_onward (dir : String) {name : String} (other : name ≠ knobCPUIdle) :
    (Cgroup.readKnob dir name).Asks fun r => ¬Look r := by
  refine (readKnob_asks dir name).mono fun r asked => ?_
  rcases asked with rfl | rfl
  · exact other
  · exact nofun

/-- One look of the transcript is one of `readSnapshot`. -/
theorem looks_snapshot {dir : String} {events : Events} {result : Except GoError Snapshot}
    (path : Program.Path (readSnapshot dir) events (.done result)) (rest : Events) :
    looks (events ++ rest) = result :: looks rest := by
  have replayed := path.replay rest
  unfold readSnapshot at path
  obtain ⟨first, idle, later, rfl, reads, onward⟩ := path.of_bind
  have quiet : ∀ event ∈ later, ¬Look event.1 := by
    refine Program.Path.asks (E := fun r => ¬Look r) onward ?_
    cases idle with
    | error err => trivial
    | ok idleRaw =>
    refine (readKnob_onward dir (by decide)).bind fun weight => ?_
    cases weight with
    | error err => trivial
    | ok weightRaw =>
    refine (readKnob_onward dir (by decide)).bind fun max => ?_
    cases max with
    | error err => trivial
    | ok maxRaw =>
    refine (readKnob_onward dir (by decide)).bind fun burst => ?_
    cases burst <;> trivial
  unfold Cgroup.readKnob at reads
  rw [if_neg (by decide)] at reads
  obtain ⟨answer, stat, rfl, ends⟩ := reads.of_request
  have stats : ∀ event ∈ stat, ¬Look event.1 := by
    refine Program.Path.asks (E := fun r => ¬Look r) ends ?_
    cases answer with
    | data content => trivial
    | failed err => trivial
    | notExist =>
        refine ⟨nofun, fun answer => ?_⟩
        cases answer <;> trivial
  have others : looks (stat ++ (later ++ rest)) = looks rest := by
    rw [looks_append stats, looks_append quiet]
  calc looks (⟨.readFile dir knobCPUIdle, answer⟩ :: stat ++ later ++ rest)
      = ((readSnapshot dir).replay (⟨.readFile dir knobCPUIdle, answer⟩ :: stat ++ later ++ rest)).toList ++
          looks (stat ++ (later ++ rest)) := by simp [looks]
    _ = result :: looks rest := by rw [replayed, others]; rfl

/-! ## The books and the ledger -/

omit [PrintTable] in
/-- The tiers that a sighting puts a pod in. -/
def seenTiers (sighting : Option (Pod × Snapshot)) : List TierLabel :=
  (sighting.map fun found => tiersOf found.1 found.2).getD []

/-- The tiers on the books are those of the ledger. -/
def Accords (seen : Ledger) (state : State) : Prop := ∀ uid, lastKnownTiers state uid = seenTiers (seen uid)

omit [PrintTable] in
theorem Accords.update {seen : Ledger} {state state' : State} (accords : Accords seen state) {uid : String}
    {sighting : Option (Pod × Snapshot)} (here : lastKnownTiers state' uid = seenTiers sighting)
    (others : ∀ uid' ≠ uid, lastKnownTiers state' uid' = lastKnownTiers state uid') :
    Accords (Function.update seen uid sighting) state' := by
  intro uid'
  by_cases same : uid' = uid
  · rw [same, Function.update_self, here]
  · rw [Function.update_of_ne same, others uid' same, accords uid']

omit [PrintTable] in
/-- Whoever is not on the books under its own key is not on them at all. -/
theorem untracked_tiers {home : Home} {state : State} (books : Books home state) {uid : String}
    (unheld : state.podUIDByKey.lookup (keyOf (home uid)) ≠ some uid) : lastKnownTiers state uid = [] := by
  cases found : state.podMemberships.lookup uid with
  | none => simp [lastKnownTiers, found]
  | some membership =>
      refine absurd ((books.keyed _ uid).mpr ?_) unheld
      rw [found, Option.map_some, books.homes uid membership found]

omit [PrintTable] in
theorem Accords.vacate {home : Home} {seen : Ledger} {state state' : State} (accords : Accords seen state)
    (books : Books home state) {key : String} {stays : Option String}
    (left : ∀ uid, lastKnownTiers state' uid =
      if state.podUIDByKey.lookup key = some uid ∧ some uid ≠ stays then [] else lastKnownTiers state uid) :
    Accords (vacate home key stays seen) state' := by
  intro uid
  rw [left uid]
  unfold Books.vacate
  by_cases under : keyOf (home uid) = key ∧ some uid ≠ stays
  · rw [if_pos under]
    split
    · rfl
    · rename_i unheld
      exact untracked_tiers books fun held => unheld ⟨under.1 ▸ held, under.2⟩
  · rw [if_neg under, if_neg, accords uid]
    exact fun held => under ⟨(Tracked.key_eq books held.1).symm, held.2⟩

/-! ## What each edit leaves on the books -/

omit [PrintTable] in
theorem removePod_returns (node : String) (state : State) (uid : String) :
    (removePod node state uid).Returns fun state' => ∀ uid', lastKnownTiers state' uid' =
      if uid' = uid then [] else lastKnownTiers state uid' := by
  unfold removePod
  cases found : state.podMemberships.lookup uid with
  | none =>
      intro uid'
      split
      · rename_i same
        subst same
        simp [lastKnownTiers, found]
      · rfl
  | some membership =>
      refine .after fun counts uid' => ?_
      split
      · rename_i same
        subst same
        simp [lastKnownTiers, Finmap.lookup_erase]
      · rename_i other
        simp [lastKnownTiers, Finmap.lookup_erase_ne other]

omit [PrintTable] in
/-- Who held the key is off the books. -/
theorem removePodByKey_returns (node : String) (state : State) (key : String) :
    (removePodByKey node state key).Returns fun state' => ∀ uid, lastKnownTiers state' uid =
      if state.podUIDByKey.lookup key = some uid ∧ some uid ≠ none then [] else lastKnownTiers state uid := by
  unfold removePodByKey
  cases held : state.podUIDByKey.lookup key with
  | none => exact fun uid => by simp
  | some holder =>
      refine (removePod_returns node (state.forgetApplierPodState holder) holder).bind fun state' left uid => ?_
      refine (left uid).trans ?_
      simp [eq_comm, State.forgetApplierPodState, lastKnownTiers]

omit [PrintTable] in
/-- Who held the key is off the books, unless it is this pod, which holds it now. -/
theorem observePodIdentity_returns (node : String) (state : State) (key uid : String) :
    (observePodIdentity node state key uid).Returns fun state' => Tracked state' key uid ∧
      ∀ uid', lastKnownTiers state' uid' =
        if state.podUIDByKey.lookup key = some uid' ∧ some uid' ≠ some uid then []
        else lastKnownTiers state uid' := by
  have enter : ∀ state : State, lastKnownTiers { state with
      podUIDByKey := state.podUIDByKey.insert key uid
      podMemberships := if uid ∈ state.podMemberships then state.podMemberships
        else state.podMemberships.insert uid ⟨key, []⟩ } = lastKnownTiers state := by
    intro state
    funext uid'
    by_cases present : uid ∈ state.podMemberships
    · simp [lastKnownTiers, present]
    · by_cases same : uid' = uid
      · subst same
        simp [lastKnownTiers, present, Finmap.lookup_insert, Finmap.lookup_eq_none.mpr present]
      · simp [lastKnownTiers, present, Finmap.lookup_insert_of_ne _ same]
  have replaced : (dropReplaced node state key uid).Returns fun state' => ∀ uid', lastKnownTiers state' uid' =
      if state.podUIDByKey.lookup key = some uid' ∧ some uid' ≠ some uid then []
      else lastKnownTiers state uid' := by
    unfold dropReplaced
    cases held : state.podUIDByKey.lookup key with
    | none => exact fun uid' => by simp
    | some holder =>
        refine .ite (fun other => ?_) fun same uid' => ?_
        · refine (removePod_returns node (state.forgetApplierPodState holder) holder).bind
            fun state' left uid' => ?_
          refine (left uid').trans ?_
          by_cases here : uid' = holder
          · simp [here, other]
          · simp [here, Ne.symm here, State.forgetApplierPodState, lastKnownTiers]
        · rw [if_neg]
          rintro ⟨here, differs⟩
          rw [not_not.mp same] at here
          exact differs here.symm
  unfold observePodIdentity
  refine replaced.bind fun state' left => ⟨Finmap.lookup_insert _, fun uid' => ?_⟩
  rw [← left uid']
  exact congrFun (enter state') uid'

omit [PrintTable] in
/-- The pod's tiers are those of the snapshot. -/
theorem setPodActual_returns (node : String) {state : State} {key : String} {pod : Pod}
    (tracked : Tracked state key pod.uid) (snapshot : Snapshot) :
    (setPodActual node state key pod snapshot).Returns fun state' => Tracked state' key pod.uid ∧
      lastKnownTiers state' pod.uid = tiersOf pod snapshot ∧
      ∀ uid ≠ pod.uid, lastKnownTiers state' uid = lastKnownTiers state uid := by
  refine (observePodIdentity_returns node state key pod.uid).bind fun state' ⟨_, stayed⟩ => ?_
  refine .after fun counts => ⟨Finmap.lookup_insert _, ?_, fun uid other => ?_⟩
  · simp [lastKnownTiers, Finmap.lookup_insert]
  · have kept := stayed uid
    rw [if_neg fun held => other (Option.some.inj (held.1.symm.trans tracked))] at kept
    rw [← kept]
    simp [lastKnownTiers, Finmap.lookup_insert_of_ne _ other]

/-! ## The full scan -/

omit [PrintTable] in
theorem Accords.take {ledger : Ledger} {acc : Refresh} (accords : Accords ledger (scanned acc)) {pod : Pod}
    {tiers : List TierLabel} {sighting : Option (Pod × Snapshot)} (sees : tiers = seenTiers sighting)
    (errs : List GoError) :
    Accords (Function.update ledger pod.uid sighting) (scanned (acc.take pod tiers errs)) := by
  refine accords.update ?_ fun uid other => ?_
  · simp [lastKnownTiers, scanned, Refresh.take, Finmap.lookup_insert, sees]
  · simp [lastKnownTiers, scanned, Refresh.take, Finmap.lookup_insert_of_ne _ other]

omit [PrintTable] in
theorem took_error (pod : Pod) (err : GoError) : took pod (.error err) =
    if !err.is .cgroupGone || runningPodNeedsCgroup pod then none else some .zero := by
  rw [took]
  cases err.is .cgroupGone <;> cases runningPodNeedsCgroup pod <;> rfl

omit [PrintTable] in
/-- A listed pod is in the tiers of the look, if it tells any, else in those it was in. -/
theorem Accords.look {ledger seen : Ledger} {state : State} {acc : Refresh}
    (so : Accords ledger (scanned acc)) (accords : Accords seen state) (pod : Pod)
    (result : Except GoError Snapshot) {tiers : List TierLabel}
    (left : ((took pod result).map (tiersOf pod)).getD (lastKnownTiers state pod.uid) = tiers)
    (errs : List GoError) :
    Accords (Function.update ledger pod.uid
        (((took pod result).map fun snapshot => (pod, snapshot)).or (seen pod.uid)))
      (scanned (acc.take pod tiers errs)) := by
  refine so.take ?_ errs
  rw [← left]
  cases took pod result with
  | none => exact accords pod.uid
  | some snapshot => rfl

theorem refreshPods_seen (cfg : Config) {state : State} {seen : Ledger} (accords : Accords seen state)
    {pods : List Pod} {acc acc' : Refresh} {ledger : Ledger} {events : Events} (rest : Events)
    (path : Program.Path (refreshPods cfg state pods acc) events (.done acc'))
    (so : Accords ledger (scanned acc)) :
    Accords (sight cfg seen pods (looks (events ++ rest)) ledger) (scanned acc') := by
  induction pods generalizing acc ledger events with
  | nil =>
      obtain ⟨rfl, rfl⟩ := path.of_pure
      exact so
  | cons pod pods ih =>
      obtain ⟨first, next, later, rfl, one, onward⟩ := path.of_bind
      rw [List.append_assoc, sight]
      unfold refreshPod at one
      by_cases mirror : isMirrorPod pod = true
      · rw [if_pos mirror] at one ⊢
        obtain ⟨rfl, rfl⟩ := one.of_pure
        exact ih onward so
      rw [if_neg mirror] at one ⊢
      cases computed : cfg.layout.podDir (Qos.toCgroupClass (Qos.classOf pod.spec)) pod.uid with
      | error err =>
          simp only [computed] at one
          obtain ⟨rfl, rfl⟩ := one.of_pure
          exact ih onward (so.take (accords pod.uid) [_])
      | ok dir =>
          simp only [computed] at one
          obtain ⟨looking, result, others, rfl, look, ends⟩ := one.of_bind
          have looked := looks_snapshot look (later ++ rest)
          cases result with
          | ok snapshot =>
              obtain ⟨rfl, rfl⟩ := ends.of_pure
              rw [List.append_nil, looked]
              exact ih onward (so.look accords pod (.ok snapshot) rfl [])
          | error err =>
              dsimp only at ends
              split at ends
              · rename_i unknown
                obtain ⟨rfl, rfl⟩ := ends.of_pure
                have nothing : took pod (.error err) = none := by rw [took_error, if_pos unknown]
                rw [List.append_nil, looked]
                exact ih onward (so.look accords pod (.error err) (by rw [nothing]; rfl) [_])
              · rename_i gone
                obtain ⟨rfl, rfl⟩ := ends.of_pure
                have nowhere : took pod (.error err) = some .zero := by rw [took_error, if_neg gone]
                rw [List.append_nil, looked]
                exact ih onward (so.look accords pod (.error err) (by rw [nowhere]; rfl) [])

/-- **A full scan keeps the ledger.** -/
theorem refreshPodsInTier_seen (cfg : Config) {state state' : State} {seen : Ledger}
    (accords : Accords seen state) {events : Events} {err : Option GoError}
    (path : Program.Path (refreshPodsInTier cfg state) events (.done (err, state'))) :
    Accords (afterScan cfg events seen) state' := by
  unfold refreshPodsInTier at path
  obtain ⟨answer, onward, rfl, rest⟩ := path.of_request
  cases answer with
  | error failed =>
      obtain ⟨rfl, ⟨⟩⟩ := rest.of_pure
      exact accords
  | ok pods =>
      obtain ⟨scan, acc, publishing, rfl, scans, publishes⟩ := rest.of_bind
      have blank : Accords (fun _ => none) (scanned .start) := fun uid => rfl
      have ended := refreshPods_seen cfg accords publishing scans blank
      have stored : state'.podMemberships = acc.memberships :=
        Program.Path.returns (E := fun r : Option GoError × State => r.2.podMemberships = acc.memberships)
          publishes (.after fun _ => .after fun _ => .after fun _ => .after fun _ => .after fun _ =>
            .after fun _ => rfl)
      intro uid
      refine Eq.trans ?_ (ended uid)
      simp [lastKnownTiers, stored, scanned]

/-! ## A pass -/

omit [PrintTable] in
theorem Accords.told {seen : Ledger} {state state' : State} {node key : String} {pod : Pod}
    (accords : Accords seen state) (tracked : Tracked state key pod.uid) {snapshot : Snapshot} {events : Events}
    (path : Program.Path (setPodActual node state key pod snapshot) events (.done state')) :
    Tracked state' key pod.uid ∧ Accords (told pod (some snapshot) seen) state' := by
  obtain ⟨stays, here, others⟩ := path.returns (setPodActual_returns node tracked snapshot)
  exact ⟨stays, accords.update here others⟩

theorem looks_keeping {p : Node State} (asks : p.Asks Keeping) {state : State} {events : Events}
    (path : Program.Path p events (.done state)) (rest : Events) : looks (events ++ rest) = looks rest := by
  have others : p.Asks fun r => ¬Look r := asks.mono fun r keeping looks => by
    cases r with
    | readFile dir name => exact keeping
    | _ => exact looks
  exact looks_append (path.asks others) rest

/-- The last look of a pass. -/
theorem refreshPodActual_seen (cfg : Config) {state state' : State} {key dir : String} {pod : Pod}
    {seen : Ledger} (accords : Accords seen state) (tracked : Tracked state key pod.uid) {events : Events}
    {err : Option GoError}
    (path : Program.Path (refreshPodActual cfg state key pod dir) events (.done (err, state'))) :
    ∃ result, looks events = [result] ∧ Accords (told pod (took pod result) seen) state' := by
  unfold refreshPodActual at path
  obtain ⟨looking, result, rest, rfl, look, ends⟩ := path.of_bind
  refine ⟨result, ?_⟩
  rw [looks_snapshot look]
  cases result with
  | ok snapshot =>
      obtain ⟨storing, stored, last, rfl, stores, ends⟩ := ends.of_bind
      obtain ⟨rfl, ⟨⟩⟩ := ends.of_pure
      exact ⟨by rw [looks_keeping (setPodActual_asks _ _ _ _ _) stores]; rfl, (accords.told tracked stores).2⟩
  | error err =>
      dsimp only at ends
      split at ends
      · rename_i isGone
        split at ends
        · rename_i needs
          obtain ⟨rfl, ⟨⟩⟩ := ends.of_pure
          have nothing : took pod (.error err) = none := by simp [took_error, needs]
          exact ⟨rfl, by rwa [nothing]⟩
        · rename_i stopped
          obtain ⟨storing, stored, last, rfl, stores, ends⟩ := ends.of_bind
          obtain ⟨rfl, ⟨⟩⟩ := ends.of_pure
          have nowhere : took pod (.error err) = some .zero := by simp [took_error, isGone, stopped]
          refine ⟨by rw [looks_keeping (setPodActual_asks _ _ _ _ _) stores]; rfl, ?_⟩
          rw [nowhere]
          have forgot : Accords seen (state.forgetApplierPodState pod.uid) := accords
          exact (forgot.told tracked stores).2
      · rename_i other
        obtain ⟨rfl, ⟨⟩⟩ := ends.of_pure
        have nothing : took pod (.error err) = none := by simp [took_error, other]
        exact ⟨rfl, by rwa [nothing]⟩

theorem settle_seen [Qos.ResourceHelper] (cfg : Config) {state state' : State} {key dir signature : String}
    {pod : Pod} {seen : Ledger} (accords : Accords seen state) (tracked : Tracked state key pod.uid)
    (failed : Option GoError) {events : Events} {err : Option GoError}
    (path : Program.Path (settle cfg state key pod dir signature failed) events (.done (err, state'))) :
    ∃ result, looks events = [result] ∧ Accords (told pod (took pod result) seen) state' := by
  cases failed with
  | some failure =>
      obtain ⟨refreshing, ⟨refreshErr, refreshed⟩, last, rfl, refreshes, ends⟩ := path.of_bind
      obtain ⟨rfl, ⟨⟩⟩ := ends.of_pure
      rw [List.append_nil]
      exact refreshPodActual_seen cfg accords tracked refreshes
  | none =>
      have noted : Accords seen (state.recordPodNotice pod.uid signature) := accords
      exact refreshPodActual_seen cfg noted tracked path

/-- What a pass sees once it holds a snapshot: nothing more, or at last a look. -/
theorem reconcilePod_seen [Qos.ResourceHelper] (applier : Applier) (cfg : Config) {state state' : State}
    {key dir : String} {resync : Bool} {pod : Pod} {snapshot : Snapshot} {seen : Ledger}
    (accords : Accords seen state) (tracked : Tracked state key pod.uid) {events : Events}
    {err : Option GoError}
    (path : Program.Path (reconcilePod applier cfg state key resync pod dir snapshot) events
      (.done (err, state'))) :
    (looks events = [] ∧ Accords seen state') ∨
      ∃ earlier result, looks events = earlier ++ [result] ∧ Accords (told pod (took pod result) seen) state' := by
  unfold reconcilePod at path
  dsimp only at path
  split at path
  · obtain ⟨rfl, ⟨⟩⟩ := path.of_pure
    exact .inl ⟨rfl, accords⟩
  split at path
  · obtain ⟨rfl, ⟨⟩⟩ := path.of_pure
    exact .inl ⟨rfl, accords⟩
  obtain ⟨calling, ⟨failed, pending⟩, later, rfl, calls, settles⟩ := path.of_bind
  obtain ⟨earlier, shown⟩ := looks_suffix calling later
  have journaled : Accords seen { state with pending } := accords
  obtain ⟨result, looked, kept⟩ := settle_seen cfg journaled tracked failed settles
  exact .inr ⟨earlier, result, by rw [shown, looked], kept⟩

omit [PrintTable] in
/-- A pass on a pod that is not cached, or a mirror pod. -/
theorem removed_seen {node key : String} {home : Home} {state : State} {seen : Ledger}
    (accords : Accords seen state) (books : Books home state) {events : Events} {found : Lookup}
    (path : Program.Path (removePodByKey node state key >>= fun state => pure (Lookup.ended none state)) events
      (.done found)) :
    ∃ state', found = .ended none state' ∧ Accords (vacate home key none seen) state' := by
  obtain ⟨removing, state', rest, rfl, removes, ends⟩ := path.of_bind
  obtain ⟨-, rfl⟩ := ends.of_pure
  exact ⟨state', rfl, accords.vacate books (removes.returns (removePodByKey_returns node state key))⟩

/-- How a pass on a cached pod ends. -/
def Sighted (home : Home) (key : String) (pod : Pod) (seen : Ledger) (events : Events) : Lookup → Prop
  | .ended _ state =>
      Accords (told pod (lastLook pod (looks events)) (vacate home key (some pod.uid) seen)) state
  | .located pod' _ snapshot state => pod' = pod ∧ Tracked state key pod.uid ∧
      (∀ rest, looks (events ++ rest) = .ok snapshot :: looks rest) ∧
        Accords (told pod (some snapshot) (vacate home key (some pod.uid) seen)) state

theorem locatePod_seen (cfg : Config) {home : Home} {state : State} {key : String} {pod : Pod}
    {seen : Ledger} (accords : Accords seen state) (books : Books home state) {events : Events}
    {found : Lookup} (path : Program.Path (locatePod cfg state key pod) events (.done found)) :
    Sighted home key pod seen events found := by
  unfold locatePod at path
  obtain ⟨observing, observed, later, rfl, observes, path⟩ := path.of_bind
  obtain ⟨tracked, left⟩ := observes.returns (observePodIdentity_returns cfg.node state key pod.uid)
  have vacated := accords.vacate books left
  have quiet := looks_keeping (observePodIdentity_asks _ _ _ _) observes
  cases computed : cfg.layout.podDir (Qos.toCgroupClass (Qos.classOf pod.spec)) pod.uid with
  | error err =>
      simp only [computed] at path
      obtain ⟨rfl, rfl⟩ := path.of_pure
      rw [Sighted, quiet]
      exact vacated
  | ok dir =>
  simp only [computed] at path
  obtain ⟨looking, result, rest, rfl, look, ends⟩ := path.of_bind
  have shown := looks_snapshot look
  -- `quiet` and `shown` are all there is to the transcript: what follows the look writes series only
  cases result with
  | ok snapshot =>
      obtain ⟨storing, stored, last, rfl, stores, ends⟩ := ends.of_bind
      obtain ⟨rfl, rfl⟩ := ends.of_pure
      obtain ⟨stays, kept⟩ := vacated.told tracked stores
      have stored := looks_keeping (setPodActual_asks _ _ _ _ _) stores
      refine ⟨rfl, stays, fun rest => ?_, kept⟩
      rw [List.append_nil, List.append_assoc, quiet, List.append_assoc, shown, stored]
  | error err =>
      dsimp only at ends
      split at ends
      · rename_i isGone
        split at ends
        · rename_i needs
          obtain ⟨rfl, rfl⟩ := ends.of_pure
          have nothing : took pod (.error err) = none := by simp [took_error, needs]
          rw [Sighted, quiet, shown]
          simpa [lastLook, nothing, looks, told] using vacated
        · rename_i stopped
          obtain ⟨storing, stored, last, rfl, stores, ends⟩ := ends.of_bind
          obtain ⟨rfl, rfl⟩ := ends.of_pure
          have nowhere : took pod (.error err) = some .zero := by simp [took_error, isGone, stopped]
          have forgot : Accords _ (State.forgetApplierPodState _ pod.uid) := vacated
          have stored := looks_keeping (setPodActual_asks _ _ _ _ _) stores
          rw [Sighted, quiet, shown, stored]
          simpa [lastLook, nowhere, looks] using (forgot.told tracked stores).2
      · rename_i other
        obtain ⟨rfl, rfl⟩ := ends.of_pure
        have nothing : took pod (.error err) = none := by simp [took_error, other]
        rw [Sighted, quiet, shown]
        simpa [lastLook, nothing, looks, told] using vacated

omit [PrintTable] in
theorem told_told (pod : Pod) (first last : Option Snapshot) (seen : Ledger) :
    told pod last (told pod first seen) = told pod (last.or first) seen := by
  cases last with
  | none => rfl
  | some snapshot =>
      cases first with
      | none => rfl
      | some _ => exact Function.update_idem _ _ _

/-- The pass went on from its snapshot. -/
theorem located_seen [Qos.ResourceHelper] (applier : Applier) (cfg : Config) {home : Home}
    {state state' : State} {key dir : String} {resync : Bool} {pod : Pod} {snapshot : Snapshot} {seen : Ledger}
    {before after : Events} {err : Option GoError}
    (located : Sighted home key pod seen before (.located pod dir snapshot state))
    (path : Program.Path (reconcilePod applier cfg state key resync pod dir snapshot) after
      (.done (err, state'))) :
    Accords (told pod (lastLook pod (looks (before ++ after))) (vacate home key (some pod.uid) seen)) state' := by
  obtain ⟨-, tracked, shown, kept⟩ := located
  rw [shown]
  rcases reconcilePod_seen applier cfg kept tracked path with ⟨quiet, still⟩ | ⟨earlier, result, looked, kept⟩
  · rw [quiet]
    exact still
  · have last : (Except.ok snapshot :: (earlier ++ [result])).getLast? = some result := by
      rw [← List.cons_append, List.getLast?_concat]
    rw [looked, lastLook, last]
    rw [told_told] at kept
    exact kept

/-! ## The answer of the cache in a transcript -/

/-- Asks the cache for one pod. -/
def Fetch : Request → Prop
  | .getCache _ _ => True
  | _ => False

omit [PrintTable] in
theorem fetched_append {before : Events} (others : ∀ event ∈ before, ¬Fetch event.1) (ns name : String)
    (answer : GetResult) (after : Events) :
    fetched (before ++ ⟨.getCache ns name, answer⟩ :: after) = some (before, answer, after) := by
  induction before with
  | nil => rfl
  | cons event before ih =>
      have rest := ih fun e member => others e (List.mem_cons_of_mem _ member)
      obtain ⟨r, reply⟩ := event
      cases r with
      | getCache _ _ => exact (others _ List.mem_cons_self trivial).elim
      | _ => simp [fetched, rest]

theorem Accords.fetched {cfg : Config} {home : Home} {key ns name : String} {before after : Events}
    (others : ∀ event ∈ before, ¬Fetch event.1) {answer : GetResult} {seen : Ledger} {state : State}
    (accords : Accords (afterAnswer home key after (afterScan cfg before seen) answer) state) :
    Accords (afterPass cfg home key (before ++ ⟨.getCache ns name, answer⟩ :: after) seen) state := by
  rw [afterPass, fetched_append others]
  exact accords

omit [PrintTable] in
theorem fetched_none {events : Events} (others : ∀ event ∈ events, ¬Fetch event.1) : fetched events = none := by
  induction events with
  | nil => rfl
  | cons event events ih =>
      have rest := ih fun e member => others e (List.mem_cons_of_mem _ member)
      obtain ⟨r, reply⟩ := event
      cases r with
      | getCache _ _ => exact (others _ List.mem_cons_self trivial).elim
      | _ => simp [fetched, rest]

theorem readSnapshot_asks (dir : String) : (readSnapshot dir).Asks fun r => ¬Fetch r := by
  have reads : ∀ name, (Cgroup.readKnob dir name).Asks fun r => ¬Fetch r := by
    refine fun name => (readKnob_asks dir name).mono fun r asked => ?_
    rcases asked with rfl | rfl <;> exact nofun
  unfold readSnapshot
  refine (reads _).bind fun idle => ?_
  cases idle with
  | error err => trivial
  | ok idleRaw =>
  refine (reads _).bind fun weight => ?_
  cases weight with
  | error err => trivial
  | ok weightRaw =>
  refine (reads _).bind fun max => ?_
  cases max with
  | error err => trivial
  | ok maxRaw =>
  refine (reads _).bind fun burst => ?_
  cases burst <;> trivial

theorem refreshPods_asks (cfg : Config) (state : State) (pods : List Pod) (acc : Refresh) :
    (refreshPods cfg state pods acc).Asks fun r => ¬Fetch r := by
  induction pods generalizing acc with
  | nil => trivial
  | cons pod pods ih =>
      unfold refreshPods
      refine Program.Asks.bind ?_ fun acc => ih acc
      unfold refreshPod
      refine .ite (fun _ => trivial) fun _ => ?_
      cases cfg.layout.podDir (Qos.toCgroupClass (Qos.classOf pod.spec)) pod.uid with
      | error err => trivial
      | ok dir =>
          refine (readSnapshot_asks dir).bind fun result => ?_
          cases result with
          | ok snapshot => trivial
          | error err => exact .ite (fun _ => trivial) fun _ => trivial

omit [PrintTable] in
theorem setAll_asks (node : String) (counts : Counts) (labels : List TierLabel) :
    (setAll node counts labels).Asks fun r => ¬Fetch r := by
  induction labels with
  | nil => trivial
  | cons label rest ih => exact ⟨nofun, fun _ => ih⟩

omit [PrintTable] in
theorem deleteStale_asks (node : String) (counts : Counts) (labels : List TierLabel) :
    (deleteStale node counts labels).Asks fun r => ¬Fetch r := by
  induction labels with
  | nil => trivial
  | cons label rest ih => exact .ite (fun _ => ih) fun _ => ⟨nofun, fun _ => ih⟩

theorem ensureInitialized_asks (cfg : Config) (state : State) :
    (ensureInitialized cfg state).Asks fun r => ¬Fetch r := by
  refine .ite (fun _ => trivial) fun _ => Program.Asks.bind ⟨nofun, fun answer => ?_⟩ fun _ => trivial
  cases answer with
  | error err => trivial
  | ok pods =>
      refine (refreshPods_asks cfg state pods .start).bind fun acc => ⟨nofun, fun current => ?_⟩
      refine (setAll_asks _ _ _).bind fun _ => ⟨nofun, fun stale => ?_⟩
      exact (deleteStale_asks _ _ _).bind fun _ => ⟨nofun, fun tracked => ⟨nofun, fun noted => trivial⟩⟩

/-- The first scan of a pass, if there is one. -/
theorem ensureInitialized_seen (cfg : Config) {state state' : State} {seen : Ledger}
    (accords : Accords seen state) {events : Events}
    (path : Program.Path (ensureInitialized cfg state) events (.done state')) :
    Accords (afterScan cfg events seen) state' := by
  unfold ensureInitialized at path
  split at path
  · obtain ⟨rfl, rfl⟩ := path.of_pure
    exact accords
  · obtain ⟨scanning, ⟨err, scanned⟩, rest, rfl, scans, ends⟩ := path.of_bind
    obtain ⟨rfl, rfl⟩ := ends.of_pure
    rw [List.append_nil]
    exact refreshPodsInTier_seen cfg accords scans

end

end Books

end CpuIdle.Agent
