/-
# Agent.Passes — runs of `Reconcile`, and what a pass does with the notices

A run is any sequence of calls, each with any answers. A pass keeps everything it asked
and was answered, so that what the cache showed and what was told can be read off.

* `Pass.Shows`, `Pass.Loses`, `Pass.Reports` — a pass got to a snapshot of the pod; the
  cache was without it; there was something new to tell and the applier was called;
* `locate_noted`, `apply_tells` — the two halves of a pass, over any answers;
* `Noted` — all a pass can do with the notices of a pod it got to.
-/
import CpuIdle.Agent.Rules
import CpuIdle.Agent.Notice
import CpuIdle.Theory.Monitor
import CpuIdle.Theory.Run

namespace CpuIdle.Agent

open CpuIdle.Go CpuIdle.Kube CpuIdle.Node CpuIdle.Theory CpuIdle.Apply CpuIdle.Observe CpuIdle.Cgroup

set_option autoImplicit false

/-! ## Runs -/

/-- One call of `Reconcile` that returned. -/
structure Pass where
  key : String
  resync : Bool
  before : State
  events : List (Program.Event nodeSignature)
  after : State

/-- Notices among the Events of a call. The outcomes of writes have other reasons. -/
def noticesIn (events : List (Program.Event nodeSignature)) : List Event :=
  (toldIn events).filter fun e => e.reason = "TierValueUnknown" ∨ e.reason = "TierInactive"

section

variable [PrintTable] [Qos.ResourceHelper]

/-- Calls one after another, the newest first. -/
inductive PassRun (cfg : Config) : List Pass → State → Prop where
  | start : PassRun cfg [] .new
  | pass {passes : List Pass} {state state' : State} {key : String} {resync : Bool}
      {events : List (Program.Event nodeSignature)} {err : Option GoError} (run : PassRun cfg passes state)
      (path : Program.Path (reconcile (.real cfg) cfg state key resync) events (.done (err, state'))) :
      PassRun cfg (⟨key, resync, state, events, state'⟩ :: passes) state'

/-- The pass got to this snapshot of the pod: `seen` until then, `later` from then on. -/
structure Pass.Located (cfg : Config) (pass : Pass) (pod : Pod) (dir : String) (snapshot : Snapshot)
    (state : State) (seen later : List (Program.Event nodeSignature)) : Prop where
  events : pass.events = seen ++ later
  path : Program.Path (locate cfg pass.before pass.key) seen (.done (.located pod dir snapshot state))

/-- The pass was about this UID, and these are the notices there were. -/
def Pass.Shows (cfg : Config) (pass : Pass) (uid : String) (notices : List Notice) : Prop :=
  ∃ pod dir snapshot state seen later, pass.Located cfg pod dir snapshot state seen later ∧
    pod.uid = uid ∧ noticesFor pod snapshot = notices

/-- The pass had something new to tell, and `acted` is what the applier asked and was answered. -/
def Pass.Reports (cfg : Config) (pass : Pass) (pod : Pod) (dir : String) (snapshot : Snapshot)
    (acted : List (Program.Event nodeSignature)) : Prop :=
  ∃ state seen rest result, pass.Located cfg pod dir snapshot state seen (acted ++ rest) ∧
    Program.Path (callApplier (.real cfg) cfg pass.resync pod snapshot
      (assess state.pending pod snapshot) true) acted (.done result) ∧
    noticesFor pod snapshot ≠ [] ∧
    state.podNoticeNeedsReport pod.uid (noticeSignature pod snapshot) = true

end

/-! ## Leaving the cache -/

/-- The cache's answer is not this pod. -/
def Lacks (uid : String) : GetResult → Prop
  | .found pod => isMirrorPod pod = true ∨ pod.uid ≠ uid
  | .notFound => True
  | .failed _ => False

/-- A listing shows the pod under this key. -/
def Lists (pods : List Pod) (key uid : String) : Prop :=
  ∃ pod ∈ pods, isMirrorPod pod = false ∧ metaNamespaceKey pod = key ∧ pod.uid = uid

/-- The pod is on the books under this key, from before or from the listing of this pass. -/
def Filed (before : State) (key : String) (events : List (Program.Event nodeSignature)) (uid : String) : Prop :=
  before.podUIDByKey.lookup key = some uid ∨
    ∃ pods, ⟨.listCache, Except.ok (α := List Pod) pods⟩ ∈ events ∧ Lists pods key uid

/-- The cache was without the pod: in a listing, or under its key. -/
def LosesIn (before : State) (key : String) (events : List (Program.Event nodeSignature)) (uid : String) :
    Prop :=
  (∃ pods, ⟨.listCache, Except.ok (ε := GoError) (α := List Pod) pods⟩ ∈ events ∧
    ∀ key, ¬ Lists pods key uid) ∨
  Filed before key events uid ∧ ∃ ns name answer, ⟨.getCache ns name, answer⟩ ∈ events ∧ Lacks uid answer

def Pass.Loses (pass : Pass) (uid : String) : Prop := LosesIn pass.before pass.key pass.events uid

/-! ## The arena -/

/-- What a pass is judged by afterwards: what the cache showed, and what was told. -/
def onRecord : Request → Bool
  | .listCache => true
  | .getCache _ _ => true
  | .event _ => true
  | _ => false

namespace Passes

abbrev arena : Arena nodeSignature (List (Program.Event nodeSignature)) := .monitor (logging onRecord)

abbrev anything : Guarantee nodeSignature (List (Program.Event nodeSignature)) := fun _ _ _ _ => True

theorem stable (P : List (Program.Event nodeSignature) → Prop) : arena.Stable P := Arena.monitor_stable P

theorem inert {r : Request} (off : onRecord r = false) : arena.Inert anything r := by
  intro past answer now act
  have same : logging onRecord past ⟨r, answer⟩ = past := by simp [logging, off]
  exact ⟨act.trans same, trivial⟩

theorem series (P : List (Program.Event nodeSignature) → Prop) :
    SeriesRule arena anything fun _ : Gauge => P where
  stable _ := stable P
  walk _ := inert rfl
  set _ w holds node label count answer w' act :=
    (inert (r := .setPodsInTier node label count) rfl).keeps P w holds answer w' act
  delete _ w holds node label answer w' act :=
    (inert (r := .deletePodsInTier node label) rfl).keeps P w holds answer w' act

/-! ## The edits of the books -/

section

variable {P : List (Program.Event nodeSignature) → Prop} {state : State} {key uid : String}

theorem removePodByKey_noted (node : String) :
    Holds arena anything P (removePodByKey node state key) fun state' log => P log ∧
      state'.podUIDByKey.lookup key = none ∧ ∀ uid, state'.lastNotes.lookup uid =
        if state.podUIDByKey.lookup key = some uid then none else state.lastNotes.lookup uid := by
  unfold removePodByKey
  cases held : state.podUIDByKey.lookup key with
  | none => exact .pure fun log known => ⟨known, held, by simp⟩
  | some uid =>
      refine .bind (removePod_holds (series P) node (state.forgetApplierPodState uid) uid fun _ => none)
        fun state' => .pure ?_
      rintro log ⟨counts, rfl, -, known⟩
      refine ⟨known, Finmap.lookup_erase _ _, fun uid' => ?_⟩
      by_cases same : uid' = uid
      · subst same
        simp [State.forgetNotes, Finmap.lookup_erase]
      · have other : uid ≠ uid' := Ne.symm same
        simp [State.forgetNotes, State.forgetApplierPodState, Finmap.lookup_erase_ne same, other]

theorem observePodIdentity_noted (node : String) :
    Holds arena anything P (observePodIdentity node state key uid) fun state' log => P log ∧
      state'.podUIDByKey.lookup key = some uid ∧ ∀ uid', state'.lastNotes.lookup uid' =
        if state.podUIDByKey.lookup key = some uid' ∧ uid' ≠ uid then none
        else state.lastNotes.lookup uid' := by
  unfold observePodIdentity dropReplaced
  cases held : state.podUIDByKey.lookup key with
  | none => exact .pure fun log known => ⟨known, Finmap.lookup_insert _, by simp⟩
  | some previous =>
      dsimp only
      by_cases replaced : previous ≠ uid
      · rw [if_pos replaced, bind_assoc]
        refine .bind (removePod_holds (series P) node (state.forgetApplierPodState previous) previous
          fun _ => none) fun state' => .pure ?_
        rintro log ⟨counts, rfl, -, known⟩
        refine ⟨known, Finmap.lookup_insert _, fun uid' => ?_⟩
        by_cases same : uid' = previous
        · subst same
          simp [State.forgetNotes, replaced, Finmap.lookup_erase]
        · have other : previous ≠ uid' := Ne.symm same
          simp [State.forgetNotes, State.forgetApplierPodState, Finmap.lookup_erase_ne same, other]
      · rw [if_neg replaced]
        refine .pure fun log known => ⟨known, Finmap.lookup_insert _, fun uid' => ?_⟩
        have own : previous = uid := not_not.mp replaced
        refine (if_neg ?_).symm
        rintro ⟨same, other⟩
        exact other ((Option.some.inj same).symm.trans own)

/-- Of a pod that is on the books under this key the notes stay. -/
theorem setPodActual_noted (node : String) {pod : Pod} (snapshot : Snapshot)
    (held : state.podUIDByKey.lookup key = some pod.uid) :
    Holds arena anything P (setPodActual node state key pod snapshot) fun state' log => P log ∧
      state'.podUIDByKey.lookup key = some pod.uid ∧ state'.lastNotes = state.lastNotes := by
  unfold setPodActual
  refine .bind (observePodIdentity_noted (P := P) node) fun observed => ?_
  refine .of_forall fun w known => ?_
  obtain ⟨holds, -, notes⟩ := known
  refine (Holds.pre (replacePodMembership_holds (series P) node observed pod.uid
    ⟨key, tiersOf pod snapshot⟩ fun _ => none) fun w' (same : w' = w) => same ▸ holds).post ?_
  rintro state' log ⟨counts, rfl, -, known⟩
  refine ⟨known, Finmap.lookup_insert _, Finmap.ext_lookup fun uid' => ?_⟩
  rw [notes uid', if_neg]
  rintro ⟨same, other⟩
  exact other (Option.some.inj (same.symm.trans held))

end

/-! ## Up to the snapshot -/

section

variable {before state : State} {key uid : String} {log rest : List (Program.Event nodeSignature)}

theorem filed_more (filed : Filed before key log uid) : Filed before key (log ++ rest) uid :=
  filed.imp_right fun ⟨pods, listed, shows⟩ => ⟨pods, List.mem_append_left _ listed, shows⟩

theorem losesIn_more (loses : LosesIn before key log uid) : LosesIn before key (log ++ rest) uid := by
  rcases loses with ⟨pods, listed, without⟩ | ⟨filed, ns, name, answer, asked, lacks⟩
  · exact .inl ⟨pods, List.mem_append_left _ listed, without⟩
  · exact .inr ⟨filed_more filed, ns, name, answer, List.mem_append_left _ asked, lacks⟩

theorem noticesIn_append (log rest : List (Program.Event nodeSignature)) :
    noticesIn (log ++ rest) = noticesIn log ++ noticesIn rest := by
  rw [noticesIn, toldIn, List.filterMap_append, List.filter_append]
  rfl

/-- Nothing was told, and a note that is gone belongs to a pod that left the cache. -/
structure Quiet (before : State) (key : String) (state : State)
    (log : List (Program.Event nodeSignature)) : Prop where
  silent : noticesIn log = []
  notes : ∀ uid, state.lastNotes.lookup uid = before.lastNotes.lookup uid ∨
    state.lastNotes.lookup uid = none ∧ LosesIn before key log uid

/-- The same, and what the key stands for is known from before or from a listing. -/
structure Filing (before : State) (key : String) (state : State)
    (log : List (Program.Event nodeSignature)) : Prop extends Quiet before key state log where
  filed : ∀ uid, state.podUIDByKey.lookup key = some uid → Filed before key log uid

theorem Filing.start (before : State) (key : String) : Filing before key before [] where
  silent := rfl
  notes _ := .inl rfl
  filed _ held := .inl held

theorem Filing.more (filing : Filing before key state log) (silent : noticesIn rest = []) :
    Filing before key state (log ++ rest) where
  silent := by rw [noticesIn_append, filing.silent, silent]; rfl
  notes uid := (filing.notes uid).imp_right fun lost => ⟨lost.1, losesIn_more lost.2⟩
  filed uid held := filed_more (filing.filed uid held)

/-- Who held the key and is not what the cache shows under it loses its notes. -/
theorem Quiet.drop {state' : State} {ns name : String} {answer : GetResult} (dropped : String → Prop)
    [DecidablePred dropped] (filing : Filing before key state log) (asked : ⟨.getCache ns name, answer⟩ ∈ log)
    (lacks : ∀ uid, dropped uid → state.podUIDByKey.lookup key = some uid ∧ Lacks uid answer)
    (notes : ∀ uid, state'.lastNotes.lookup uid = if dropped uid then none else state.lastNotes.lookup uid) :
    Quiet before key state' log where
  silent := filing.silent
  notes uid := by
    rw [notes uid]
    split
    · rename_i gone
      obtain ⟨held, without⟩ := lacks uid gone
      exact .inr ⟨rfl, .inr ⟨filing.filed uid held, ns, name, answer, asked, without⟩⟩
    · exact filing.notes uid

end

/-! ### The full scan -/

/-- What the accumulator of the scan holds of a listing while these pods are still to do. -/
structure Walked (all pods : List Pod) (acc : Refresh) : Prop where
  within : ∀ pod ∈ pods, pod ∈ all
  current : ∀ pod ∈ all, isMirrorPod pod = false → pod.uid ∈ acc.currentPodUIDs ∨ pod ∈ pods
  keyed : ∀ key uid, acc.uidsByKey.lookup key = some uid → Lists all key uid

theorem Walked.start (all : List Pod) : Walked all all .start where
  within _ member := member
  current _ member _ := .inr member
  keyed key uid held := by simp [Refresh.start] at held

theorem Walked.skip {all pods : List Pod} {pod : Pod} {acc : Refresh} (walked : Walked all (pod :: pods) acc)
    (mirror : isMirrorPod pod = true) : Walked all pods acc where
  within p member := walked.within p (List.mem_cons_of_mem _ member)
  current p member real := by
    rcases walked.current p member real with current | left
    · exact .inl current
    · rcases List.mem_cons.mp left with rfl | left
      · exact absurd (real.symm.trans mirror) (by simp)
      · exact .inr left
  keyed := walked.keyed

theorem Walked.take {all pods : List Pod} {pod : Pod} {acc : Refresh} (walked : Walked all (pod :: pods) acc)
    (real : isMirrorPod pod = false) (tiers : List TierLabel) (errs : List GoError) :
    Walked all pods (acc.take pod tiers errs) where
  within p member := walked.within p (List.mem_cons_of_mem _ member)
  current p member isReal := by
    rcases walked.current p member isReal with current | left
    · exact .inl (List.mem_cons_of_mem _ current)
    · rcases List.mem_cons.mp left with rfl | left
      · exact .inl List.mem_cons_self
      · exact .inr left
  keyed key uid held := by
    rw [Refresh.take] at held
    by_cases own : key = metaNamespaceKey pod
    · subst own
      rw [Finmap.lookup_insert] at held
      exact ⟨pod, walked.within pod List.mem_cons_self, real, rfl, Option.some.inj held⟩
    · rw [Finmap.lookup_insert_of_ne _ own] at held
      exact walked.keyed key uid held

theorem Walked.rescanned {all : List Pod} {acc : Refresh} (walked : Walked all [] acc) (before : State)
    (key : String) :
    Filing before key (before.rescanned acc) [⟨.listCache, Except.ok (ε := GoError) all⟩] where
  silent := rfl
  notes uid := by
    have pruned : (before.rescanned acc).lastNotes.lookup uid = _ := lookup_pruneNoteState
    rw [pruned]
    split
    · rename_i gone
      refine .inr ⟨rfl, .inl ⟨all, List.mem_singleton_self _, ?_⟩⟩
      rintro key' ⟨pod, member, real, -, rfl⟩
      rcases walked.current pod member real with current | left
      · exact gone.2 current
      · exact absurd left List.not_mem_nil
    · exact .inl rfl
  filed uid held := .inr ⟨all, List.mem_singleton_self _, walked.keyed key uid held⟩

section

variable [PrintTable]

theorem ensureInitialized_noted (cfg : Config) (before : State) (key : String) :
    Holds arena anything (· = []) (ensureInitialized cfg before) fun state log =>
      Filing before key state log := by
  unfold ensureInitialized
  refine .ite (fun _ => .pure fun log same => ?_) fun _ => ?_
  · subst same
    exact .start before key
  refine .bind (R := fun result log => Filing before key result.2 log) ?_ fun result => .pure fun _ known => known
  refine refreshPodsInTier_holds (fun _ => none) (P := (· = []))
    (K := fun pods acc _ log => ∃ all, log = [⟨.listCache, Except.ok (ε := GoError) all⟩] ∧
      Walked all pods acc) (stable _) (fun _ => inert rfl) (fun log same answer log' act => ?_)
    (fun pod rest acc => ?_) (fun acc => series _) fun acc log known => ?_
  · have listed : log' = [⟨.listCache, answer⟩] := act.trans (by rw [same]; rfl)
    subst listed
    refine ⟨trivial, fun _ _ _ => ?_, fun pods shown => ⟨pods, by rw [shown], .start pods⟩⟩
    exact (Filing.start before key).more rfl
  · refine refreshPod_holds (R := fun _ log => ∃ all,
        log = [⟨.listCache, Except.ok (ε := GoError) all⟩] ∧ Walked all (pod :: rest) acc)
      (fun mirror log known => ?_) (fun _ _ _ known => known) (fun _ dir _ => ?_)
      fun real tiers errs log known => ?_
    · obtain ⟨all, same, walked⟩ := known
      exact ⟨all, same, walked.skip mirror⟩
    · refine (readSnapshot_keeps (stable _) ((inert (r := .stat dir) rfl).keeps _)
        fun name => (inert (r := .readFile dir name) rfl).keeps _).post fun result log known => ?_
      cases result with
      | ok snapshot => exact known
      | error err =>
          dsimp only
          rw [ite_self]
          exact known
    · obtain ⟨all, same, walked⟩ := known
      exact ⟨all, same, walked.take real tiers errs⟩
  · obtain ⟨all, rfl, walked⟩ := known
    exact walked.rescanned before key

/-! ### The pod -/

/-- The directory of a pod's cgroup. -/
abbrev DirOf (cfg : Config) (pod : Pod) (dir : String) : Prop :=
  cfg.layout.podDir (Qos.toCgroupClass (Qos.classOf pod.spec)) pod.uid = .ok dir

/-- On the books, and quiet so far. -/
def Entered (before : State) (key uid : String) (state : State)
    (log : List (Program.Event nodeSignature)) : Prop :=
  Quiet before key state log ∧ state.podUIDByKey.lookup key = some uid

/-- What is known once the pod was looked up. -/
def LookedUp (cfg : Config) (before : State) (key : String) :
    Lookup → List (Program.Event nodeSignature) → Prop
  | .ended _ state, log => Quiet before key state log
  | .located pod dir _ state, log => DirOf cfg pod dir ∧ Entered before key pod.uid state log

/-- The key has been looked up in the cache. -/
def Asked (before : State) (key : String) (answer : GetResult) (state : State)
    (log : List (Program.Event nodeSignature)) : Prop :=
  Filing before key state log ∧ ∃ ns name, ⟨.getCache ns name, answer⟩ ∈ log

theorem removed {cfg : Config} {before state : State} {key : String} {answer : GetResult}
    (lacks : ∀ uid, Lacks uid answer) :
    Holds arena anything (Asked before key answer state) (removePodByKey cfg.node state key)
      fun state log => LookedUp cfg before key (.ended none state) log := by
  refine (removePodByKey_noted cfg.node).post fun state' log known => ?_
  obtain ⟨⟨filing, ns, name, asked⟩, -, notes⟩ := known
  exact Quiet.drop (fun uid => state.podUIDByKey.lookup key = some uid) filing asked
    (fun uid held => ⟨held, lacks uid⟩) notes

theorem locatePod_noted (cfg : Config) {before state : State} {key : String} {pod : Pod} :
    Holds arena anything (Asked before key (.found pod) state) (locatePod cfg state key pod)
      (LookedUp cfg before key) := by
  have actual : ∀ snapshot (state : State), Holds arena anything (Entered before key pod.uid state)
      (setPodActual cfg.node state key pod snapshot)
      fun state' log => Entered before key pod.uid state' log := by
    intro snapshot state
    refine .of_forall fun log entered => ?_
    refine (setPodActual_noted cfg.node snapshot entered.2).post fun state' log' known => ?_
    obtain ⟨rfl, held, notes⟩ := known
    exact ⟨⟨entered.1.silent, fun uid => notes ▸ entered.1.notes uid⟩, held⟩
  refine locatePod_holds (T := Entered before key pod.uid)
    (R := fun dir _ state log => DirOf cfg pod dir ∧ Entered before key pod.uid state log)
    ?_ (fun err state log entered => entered.1) (fun dir own state => ?_)
    (fun _ _ _ _ entered _ => entered.2) (fun dir err state _ _ => .assume fun _ => ?_)
    fun dir snapshot state => .assume fun own => (actual snapshot state).post fun _ _ entered => ⟨own, entered⟩
  · refine (observePodIdentity_noted cfg.node).post fun state' log known => ?_
    obtain ⟨⟨filing, ns, name, asked⟩, held, notes⟩ := known
    refine ⟨?_, held⟩
    exact Quiet.drop (fun uid => state.podUIDByKey.lookup key = some uid ∧ uid ≠ pod.uid)
      filing asked (fun uid gone => ⟨gone.1, .inr (Ne.symm gone.2)⟩) notes
  · exact (readSnapshot_keeps (stable _) ((inert (r := .stat dir) rfl).keeps _)
      fun name => (inert (r := .readFile dir name) rfl).keeps _).post fun _ _ entered => ⟨own, entered⟩
  · refine Holds.conseq (actual .zero (state.forgetApplierPodState pod.uid))
      (fun log entered => ⟨⟨entered.1.silent, entered.1.notes⟩, entered.2⟩) fun _ _ entered => entered.1

/-- **Up to the snapshot** nothing is told, and notes go only with their pod. -/
theorem locate_noted (cfg : Config) (before : State) (key : String) :
    Holds arena anything (· = []) (locate cfg before key) (LookedUp cfg before key) := by
  refine locate_holds (J := Filing before key) (R := fun answer => Asked before key answer) (stable _)
    (inert rfl) (fun log same _ => ?_) (ensureInitialized_noted cfg before key) (fun _ => stable _)
    (fun _ _ _ state log filing => filing.toQuiet) (fun state ns name _ log filing answer log' act => ?_)
    (fun _ _ state log asked => asked.1.toQuiet) (fun state => removed fun _ => trivial)
    (fun pod state mirror => removed fun _ => .inl mirror) fun pod state _ => locatePod_noted cfg
  · subst same
    exact (Filing.start before key).toQuiet
  · have added : log' = log ++ [⟨.getCache ns name, answer⟩] := act
    subst added
    exact ⟨trivial, filing.more rfl, ns, name, List.mem_append_right _ (List.mem_singleton_self _)⟩

end

/-! ## The applier -/

section

variable {allowed : (r : Request) → Answer r → Prop}

/-- These notices have been told. -/
def Tells (told : List Event) (log : List (Program.Event nodeSignature)) : Prop := noticesIn log = told

theorem inert_allowed {r : Request} (off : onRecord r = false) : (arena.restrict allowed).Inert anything r :=
  fun past answer now act => inert off past answer now act.1

theorem off_record {r : Request} (off : onRecord r = false)
    (P : List (Program.Event nodeSignature) → Prop) :
    Holds (arena.restrict allowed) anything P (ask r) fun _ => P :=
  .keeps (stable P) ((inert_allowed off).keeps P)

/-- An Event is on the record, as a notice or not. -/
theorem event_tells (e : Event) (told : List Event) :
    Holds (arena.restrict allowed) anything (Tells told) (ask (.event e))
      fun _ => Tells (told ++ noticesIn [⟨.event e, ()⟩]) := by
  refine .request (stable _) fun log tells answer log' act => ?_
  have added : log' = log ++ [⟨.event e, ()⟩] := act.1
  subst added
  refine ⟨trivial, ?_⟩
  rw [Tells, noticesIn_append, tells]

theorem record_tells (node : String) (pod : Pod) (knob result reason eventType eventReason : String)
    (told : List Event) :
    Holds (arena.restrict allowed) anything (Tells told)
      (record node pod knob result reason eventType eventReason) fun _ => Tells (told ++
        noticesIn [⟨.event (podEvent pod eventType eventReason (outcomeMessage knob result reason)), ()⟩]) :=
  .bind (off_record rfl _) fun _ => event_tells _ _

/-- The outcome of a write is no notice. -/
theorem outcome_tells (node : String) (pod : Pod) (knob result reason eventType : String)
    {eventReason : String} (other : eventReason ≠ "TierValueUnknown" ∧ eventReason ≠ "TierInactive")
    (told : List Event) :
    Holds (arena.restrict allowed) anything (Tells told)
      (record node pod knob result reason eventType eventReason) fun _ => Tells told := by
  refine (record_tells node pod knob result reason eventType eventReason told).post fun _ log tells => ?_
  have none : noticesIn [⟨.event (podEvent pod eventType eventReason
      (outcomeMessage knob result reason)), ()⟩] = [] := by
    simp [noticesIn, toldIn, podEvent, other.1, other.2]
  rwa [none, List.append_nil] at tells

theorem reportNote_tells (cfg : Config) (pod : Pod) {note : Tier.Note}
    (known : note.code = Tier.noteUnknownTierValue ∨ note.code = Tier.noteNoCPULimit) (told : List Event) :
    Holds (arena.restrict allowed) anything (Tells told) (reportNote cfg pod note)
      fun _ => Tells (told ++ [(Notice.note note).event pod]) := by
  unfold reportNote
  refine .ite (fun unknown => ?_) fun other => ?_
  · refine (event_tells _ told).post fun _ log tells => ?_
    simpa [Notice.event, unknown, noticesIn, toldIn, podEvent] using tells
  · have limit := known.resolve_left other
    rw [if_pos limit]
    refine (record_tells _ _ _ _ _ _ _ told).post fun _ log tells => ?_
    simpa [Notice.event, other, noticesIn, toldIn, podEvent] using tells

theorem reportNotes_tells (cfg : Config) (pod : Pod) {notes : List Tier.Note}
    (known : ∀ note ∈ notes, note.code = Tier.noteUnknownTierValue ∨ note.code = Tier.noteNoCPULimit)
    (told : List Event) :
    Holds (arena.restrict allowed) anything (Tells told) (reportNotes cfg pod notes)
      fun _ => Tells (told ++ notes.map fun note => (Notice.note note).event pod) := by
  induction notes generalizing told with
  | nil => exact .pure fun log tells => by simpa using tells
  | cons note rest ih =>
      unfold reportNotes
      refine .bind (reportNote_tells cfg pod (known note (by simp)) told) fun _ => ?_
      refine (ih (fun later member => known later (by simp [member])) _).post fun _ log tells => ?_
      simpa using tells

end

section

variable [PrintTable] [Qos.ResourceHelper] {allowed : (r : Request) → Answer r → Prop}

/-- **All notices of the snapshot**, one after the other. -/
theorem notices_tells (cfg : Config) (pod : Pod) (snapshot : Snapshot) :
    Holds (arena.restrict allowed) anything (Tells [])
      (reportApplyNotices cfg pod (Tier.desired pod).1 (Tier.desired pod).2 snapshot)
      fun _ => Tells ((noticesFor pod snapshot).map (·.event pod)) := by
  unfold reportApplyNotices
  refine .bind (reportNotes_tells cfg pod (Tier.notes_coded pod) []) fun _ => ?_
  rw [noticesFor, List.map_append, List.map_map, List.nil_append]
  refine .ite (fun unavailable => ?_) fun served => .pure fun log tells => ?_
  · refine (record_tells _ _ _ _ _ _ _ _).post fun _ log tells => ?_
    have missing : actualBurstUnavailable (Tier.desired pod).1 snapshot = true := unavailable
    rw [if_pos missing]
    exact tells
  · have there : ¬ actualBurstUnavailable (Tier.desired pod).1 snapshot = true := served
    rw [if_neg there, List.map_nil, List.append_nil]
    exact tells

/-- How a call of the applier ends, and the notices it told. `report` is whether it was asked to
tell them. -/
inductive Told (allowed : (r : Request) → Answer r → Prop) (dir : String) (pod : Pod) (report : Bool) :
    Option GoError → List Event → Prop where
  | failed (err : GoError) : Told allowed dir pod report (some err) []
  | unasked (silent : report = false) : Told allowed dir pod report none []
  | vanished (gone : allowed (.stat dir) StatResult.notExist) : Told allowed dir pod report none []
  | told (asked : report = true) (snapshot : Snapshot)
      (seen : ∃ content, allowed (.readFile dir knobCPUMax) (ReadResult.data content) ∧
        parseCPUMaxQuota (trimSpace content) = .ok snapshot.quota) :
      Told allowed dir pod report none ((noticesFor pod snapshot).map (·.event pod))

/-- How the write loop is left. -/
def loopTold (allowed : (r : Request) → Answer r → Prop) (dir : String) (pod : Pod) (report : Bool) :
    LoopEnd × Pending → List (Program.Event nodeSignature) → Prop
  | (.completed, _), log => Tells [] log
  | (.returned err, _), log => Told allowed dir pod report err (noticesIn log)

theorem Told.of_error {dir : String} {pod : Pod} {report : Bool} {err : GoError} {told : List Event}
    (ended : Told allowed dir pod report (some err) told) : told = [] := by
  cases ended
  rfl

theorem Told.of_unasked {dir : String} {pod : Pod} {err : Option GoError} {told : List Event}
    (ended : Told allowed dir pod false err told) : told = [] := by
  cases ended with
  | told asked => cases asked
  | _ => rfl

theorem Told.silent {dir : String} {pod : Pod} {report : Bool} {err : GoError}
    {log : List (Program.Event nodeSignature)} (quiet : Tells [] log) :
    Told allowed dir pod report (some err) (noticesIn log) := by
  rw [Tells] at quiet
  exact quiet ▸ .failed err

theorem loop_tells (cfg : Config) (pod : Pod) (dir : String) (report : Bool) (success : Write → Node Unit)
    (onEinval : Node Unit)
    (reports : ∀ write, Holds (arena.restrict allowed) anything (Tells []) (success write) fun _ => Tells [])
    (einval : Holds (arena.restrict allowed) anything (Tells []) onEinval
      fun _ log => Told allowed dir pod report none (noticesIn log)) :
    LoopSteps (arena.restrict allowed) anything cfg pod dir success onEinval
      (fun _ _ => Tells []) (fun _ _ => Tells []) (fun _ _ _ => Tells [])
      (fun err _ _ log => Tells [] log ∧ (err.is .cgroupGone = true → allowed (.stat dir) StatResult.notExist))
      (fun _ _ _ => Tells []) (loopTold allowed dir pod report) where
  check write rest pending := (off_record (r := .ctxErr) rfl (Tells [])).post
    fun cancelled log quiet => by
      cases cancelled with
      | true => exact Told.silent quiet
      | false => exact quiet
  write write rest pending := writeKnob_holds (stable _) (inert_allowed rfl)
    (fun log quiet log' act =>
      (inert_allowed (r := .writeFile dir write.knob write.value) rfl).keeps _ log quiet _ log' act)
    (fun log quiet answer log' act _ =>
      (inert_allowed (r := .writeFile dir write.knob write.value) rfl).keeps _ log quiet answer log' act)
    fun log err quiet gone => ⟨quiet, fun isGone => (gone isGone).2⟩
  traced write rest pending := reports write
  gone err write rest pending log isGone known := by
    have quiet : noticesIn log = [] := known.1
    show Told allowed dir pod report none (noticesIn log)
    exact quiet ▸ .vanished (known.2 isGone)
  refused err write rest pending _ := .pre (outcome_tells _ _ _ _ _ _ (by decide) _) fun log known => known.1
  einval err write rest pending _ _ := einval
  failed err err' write rest pending log _ quiet := Told.silent quiet
  completed pending log quiet := quiet

theorem noticesOf_tells (cfg : Config) (pod : Pod) (dir : String) (report : Bool) (snapshot : Snapshot)
    (seen : ∃ content, allowed (.readFile dir knobCPUMax) (ReadResult.data content) ∧
      parseCPUMaxQuota (trimSpace content) = .ok snapshot.quota) :
    Holds (arena.restrict allowed) anything (Tells []) (noticesOf cfg pod report snapshot)
      fun _ log => Told allowed dir pod report none (noticesIn log) := by
  refine .ite (fun asked => ?_) fun unasked => .pure fun log quiet => ?_
  · refine (notices_tells cfg pod snapshot).post fun _ log tells => ?_
    rw [Tells] at tells
    exact tells ▸ .told asked snapshot seen
  · rw [Tells] at quiet
    exact quiet ▸ .unasked (by simpa using unasked)

/-- **A call of `Apply`**: nothing, or at the very end all notices of the snapshot it read. -/
theorem apply_tells (cfg : Config) (pending : Pending) {pod : Pod} {dir : String} (own : DirOf cfg pod dir)
    (report : Bool) :
    Holds (arena.restrict allowed) anything (Tells []) (apply cfg pending pod report)
      fun result log => Told allowed dir pod report result.1 (noticesIn log) := by
  have check : Holds (arena.restrict allowed) anything (Tells []) ctxErr fun _ => Tells [] :=
    off_record rfl _
  unfold apply
  refine .bind check fun cancelled => .ite (fun _ => .pure fun log quiet => Told.silent quiet) fun _ => ?_
  dsimp only
  have computed : cfg.layout.podDir (Qos.toCgroupClass (Tier.desired pod).1.qosClass)
      (Tier.desired pod).1.uid = .ok dir := own
  rw [computed]
  dsimp only
  refine .bind (readSnapshot_shows (stable _) (inert_allowed rfl) fun name => inert_allowed rfl) fun result => ?_
  cases result with
  | error err =>
      refine .ite (fun gone => .pure fun log known => ?_) fun _ => .pure fun log known => Told.silent known.1
      have quiet : noticesIn log = [] := known.1
      show Told allowed dir pod report none (noticesIn log)
      exact quiet ▸ .vanished (known.2 gone).2
  | ok snapshot =>
      refine .of_forall fun w known => ?_
      obtain ⟨tells, w', content, act, shown⟩ := known
      have notices := noticesOf_tells cfg pod dir report snapshot ⟨content, act.2, shown⟩
      have steps := loop_tells cfg pod dir report (reportSuccess cfg pod)
        (noticesOf cfg pod report snapshot)
        (fun write => .ite (fun _ => outcome_tells _ _ _ _ _ _ (by decide) _) fun _ =>
          outcome_tells _ _ _ _ _ _ (by decide) _) notices
      refine .pre (P := Tells []) (.bind (runPlan_steps steps _ _) fun ended => ?_) fun log same => same ▸ tells
      rcases ended with ⟨ended, pending'⟩
      cases ended with
      | returned err => exact .pure fun log known => known
      | completed =>
          refine .bind check fun cancelled => .ite (fun _ => .pure fun log quiet => Told.silent quiet) fun _ => ?_
          exact .bind notices fun _ => .pure fun log known => known

/-- `Revert` tells no notices. -/
theorem revert_tells (cfg : Config) (pending : Pending) {pod : Pod} {dir : String} (own : DirOf cfg pod dir)
    (state : Snapshot) :
    Holds (arena.restrict allowed) anything (Tells []) (revert cfg pending pod state)
      fun result log => Told allowed dir pod false result.1 (noticesIn log) := by
  have unasked : ∀ log, Tells [] log → Told allowed dir pod false none (noticesIn log) := by
    intro log quiet
    rw [Tells] at quiet
    exact quiet ▸ .unasked rfl
  unfold revert
  refine .bind (off_record (r := .ctxErr) rfl (Tells [])) fun cancelled =>
    .ite (fun _ => .pure fun log quiet => Told.silent quiet) fun _ => ?_
  rw [own]
  have steps := loop_tells cfg pod dir false
    (fun write => reverted cfg.node pod write.knob TierApplyResult.reverted TierApplyReason.ok) (pure ())
    (fun write => outcome_tells _ _ _ _ _ _ (by decide) _) (.pure unasked)
  refine .bind (runPlan_steps steps _ _) fun ended => ?_
  rcases ended with ⟨ended, pending'⟩
  cases ended with
  | returned err => exact .pure fun log known => known
  | completed => exact .pure unasked

theorem callApplier_tells (allowed : (r : Request) → Answer r → Prop) (cfg : Config) (resync : Bool) {pod : Pod} {dir : String}
    (own : DirOf cfg pod dir) (snapshot : Snapshot) (assessment : Assessment) (changed : Bool) :
    Holds (arena.restrict allowed) anything (Tells [])
      (callApplier (.real cfg) cfg resync pod snapshot assessment changed) fun result log =>
        Told allowed dir pod (assessment.hasNotice && changed) result.1 (noticesIn log) := by
  unfold callApplier
  refine .bind (R := fun _ => Tells []) ?_ fun _ => ?_
  · exact .ite (fun _ => off_record rfl _) fun _ => .pure fun _ quiet => quiet
  refine .ite (fun _ => apply_tells cfg _ own _) fun neither => ?_
  have none : assessment.hasNotice = false := by
    cases notice : assessment.hasNotice with
    | false => rfl
    | true => simp [notice] at neither
  rw [none]
  exact revert_tells cfg _ own snapshot

/-! ## From the snapshot on -/

omit [Qos.ResourceHelper] in
theorem refreshPodActual_noted (cfg : Config) {state : State} {key : String} {pod : Pod} (dir : String)
    (held : state.podUIDByKey.lookup key = some pod.uid) :
    Holds arena anything (Tells []) (refreshPodActual cfg state key pod dir)
      fun result log => Tells [] log ∧ result.2.lastNotes = state.lastNotes := by
  have actual : ∀ (snapshot : Snapshot) (state' : State), state'.podUIDByKey = state.podUIDByKey →
      state'.lastNotes = state.lastNotes →
      Holds arena anything (Tells []) (setPodActual cfg.node state' key pod snapshot)
        fun state'' log => Tells [] log ∧ state''.lastNotes = state.lastNotes := by
    intro snapshot state' keys notes
    refine (setPodActual_noted cfg.node snapshot (by rw [keys, held])).post fun state'' log known => ?_
    exact ⟨known.1, known.2.2.trans notes⟩
  refine refreshPodActual_holds (R := fun _ => Tells []) ?_ (fun err err' log quiet _ => ⟨quiet, rfl⟩)
    (fun err _ _ => ?_) fun snapshot => actual snapshot state rfl rfl
  · exact readSnapshot_keeps (stable _) ((inert (r := .stat dir) rfl).keeps _)
      fun name => (inert (r := .readFile dir name) rfl).keeps _
  · exact actual .zero (state.forgetApplierPodState pod.uid) rfl rfl

omit [Qos.ResourceHelper] in
/-- The signature is recorded when the applier returned nil, and nothing is told any more. -/
theorem settle_noted (cfg : Config) (state : State) {key : String} {pod : Pod} (dir signature : String)
    (held : state.podUIDByKey.lookup key = some pod.uid) (err : Option GoError) :
    Holds arena anything (Tells []) (settle cfg state key pod dir signature err)
      fun result log => Tells [] log ∧ result.2.lastNotes =
        (err.elim (state.recordPodNotice pod.uid signature) fun _ => state).lastNotes := by
  cases err with
  | none => exact refreshPodActual_noted cfg dir held
  | some err =>
      exact .bind (refreshPodActual_noted cfg dir held) fun result => .pure fun log known => known

theorem hasNotice_eq (pending : Pending) (pod : Pod) (snapshot : Snapshot) :
    (assess pending pod snapshot).hasNotice = true ↔ noticesFor pod snapshot ≠ [] := by
  have flags : (assess pending pod snapshot).hasNotice =
      (!(Tier.desired pod).2.isEmpty || actualBurstUnavailable (Tier.desired pod).1 snapshot) := rfl
  rw [flags, noticesFor, Ne, List.append_eq_nil_iff, List.map_eq_nil_iff]
  cases actualBurstUnavailable (Tier.desired pod).1 snapshot <;> simp

omit [PrintTable] [Qos.ResourceHelper] in
/-- Only what is on the record can be a notice. -/
theorem noticesIn_record (events : List (Program.Event nodeSignature)) :
    noticesIn (events.filter (onRecord ·.1)) = noticesIn events := by
  rw [noticesIn, noticesIn, toldIn, toldIn, List.filterMap_filter]
  congr 2
  funext event
  rcases event with ⟨r, answer⟩
  cases r <;> rfl

/-- All a pass can do with the notices of the pod it got to: `events` from the snapshot on, and
what is remembered afterwards. -/
inductive Noted (cfg : Config) (resync : Bool) (pod : Pod) (snapshot : Snapshot) (state : State) :
    List (Program.Event nodeSignature) → (Finmap fun _ : String => String) → Prop where
  | kept {events : List (Program.Event nodeSignature)} (silent : noticesIn events = []) :
      Noted cfg resync pod snapshot state events state.lastNotes
  | known {events : List (Program.Event nodeSignature)} (silent : noticesIn events = [])
      (known : noticeSignature pod snapshot = "" ∨
        state.lastNotes.lookup pod.uid = some (noticeSignature pod snapshot)) :
      Noted cfg resync pod snapshot state events
        (state.recordPodNotice pod.uid (noticeSignature pod snapshot)).lastNotes
  | reported {acted rest : List (Program.Event nodeSignature)} {pending : Pending}
      (path : Program.Path (callApplier (.real cfg) cfg resync pod snapshot
        (assess state.pending pod snapshot) true) acted (.done (none, pending)))
      (notices : noticesFor pod snapshot ≠ [])
      (new : state.podNoticeNeedsReport pod.uid (noticeSignature pod snapshot) = true)
      (silent : noticesIn rest = []) :
      Noted cfg resync pod snapshot state (acted ++ rest)
        (state.recordPodNotice pod.uid (noticeSignature pod snapshot)).lastNotes

theorem reconcilePod_noted {cfg : Config} {state state' : State} {key : String} {resync : Bool} {pod : Pod}
    {dir : String} {snapshot : Snapshot} {events : List (Program.Event nodeSignature)}
    {err : Option GoError} (own : DirOf cfg pod dir) (held : state.podUIDByKey.lookup key = some pod.uid)
    (path : Program.Path (reconcilePod (.real cfg) cfg state key resync pod dir snapshot) events
      (.done (err, state'))) : Noted cfg resync pod snapshot state events state'.lastNotes := by
  have notice := hasNotice_eq state.pending pod snapshot
  have unsigned : (assess state.pending pod snapshot).hasNotice = false → noticeSignature pod snapshot = "" := by
    intro none
    rw [none] at notice
    exact noticesFor_eq_nil.mp (not_not.mp fun some => absurd (notice.mpr some) (by simp))
  unfold reconcilePod at path
  dsimp only at path
  split at path
  · rename_i nothing
    obtain ⟨rfl, ended⟩ := path.of_done
    cases ended
    have empty : noticeSignature pod snapshot = "" := unsigned (by simp_all)
    have known : Noted cfg resync pod snapshot state []
        (state.recordPodNotice pod.uid (noticeSignature pod snapshot)).lastNotes := .known rfl (.inl empty)
    exact empty ▸ known
  · split at path
    · obtain ⟨rfl, ended⟩ := path.of_done
      cases ended
      exact .kept rfl
    · obtain ⟨acted, ⟨callErr, pending⟩, rest, rfl, called, settled⟩ := path.of_bind
      obtain ⟨silent, notes⟩ :=
        (settle_noted cfg { state with pending } dir _ held callErr).logged rfl settled
      rw [Tells, noticesIn_record] at silent
      have told := (callApplier_tells (fun _ _ => True) cfg resync own snapshot
        (assess state.pending pod snapshot) _).logged_allowed rfl called fun _ _ => trivial
      rw [noticesIn_record] at told
      rw [notes]
      cases callErr with
      | some failure =>
          exact .kept (by rw [noticesIn_append, told.of_error, silent, List.append_nil])
      | none =>
          by_cases reports : ((assess state.pending pod snapshot).hasNotice &&
              state.podNoticeNeedsReport pod.uid (noticeSignature pod snapshot)) = true
          · obtain ⟨there, new⟩ := Bool.and_eq_true_iff.mp reports
            have changed : State.podNoticeNeedsReport
                { state with pending := (assess state.pending pod snapshot).pending } pod.uid
                (assess state.pending pod snapshot).noticeSignature = true := new
            rw [changed] at called
            exact .reported called (notice.mp there) new silent
          · have asked : ((assess state.pending pod snapshot).hasNotice &&
                state.podNoticeNeedsReport pod.uid (noticeSignature pod snapshot)) = false := by
              simpa using reports
            have quiet : noticesIn acted = [] := (asked ▸ told : Told _ dir pod false none _).of_unasked
            refine .known (by rw [noticesIn_append, quiet, silent, List.append_nil]) ?_
            rcases Bool.and_eq_false_iff.mp asked with absent | unchanged
            · exact .inl (unsigned absent)
            · exact .inr (by simpa [State.podNoticeNeedsReport] using unchanged)

end

end Passes

/-! ## A whole pass -/

section

variable [PrintTable] [Qos.ResourceHelper]

/-- Until this state nothing was remembered anew, and what is forgotten left the cache. -/
def Pass.Keeps (pass : Pass) (state : State) : Prop :=
  ∀ uid, state.lastNotes.lookup uid = pass.before.lastNotes.lookup uid ∨
    state.lastNotes.lookup uid = none ∧ pass.Loses uid

omit [PrintTable] [Qos.ResourceHelper] in
theorem losesIn_record {before : State} {key uid : String} {events : List (Program.Event nodeSignature)}
    (loses : LosesIn before key (events.filter (onRecord ·.1)) uid) : LosesIn before key events uid := by
  have filed : ∀ {uid}, Filed before key (events.filter (onRecord ·.1)) uid → Filed before key events uid :=
    fun filed => filed.imp_right fun ⟨pods, listed, shows⟩ => ⟨pods, List.mem_of_mem_filter listed, shows⟩
  rcases loses with ⟨pods, listed, without⟩ | ⟨isFiled, ns, name, answer, asked, lacks⟩
  · exact .inl ⟨pods, List.mem_of_mem_filter listed, without⟩
  · exact .inr ⟨filed isFiled, ns, name, answer, List.mem_of_mem_filter asked, lacks⟩

omit [PrintTable] [Qos.ResourceHelper] in
theorem Passes.Quiet.keeps {pass : Pass} {state : State} {seen later : List (Program.Event nodeSignature)}
    (events : pass.events = seen ++ later)
    (quiet : Quiet pass.before pass.key state (seen.filter (onRecord ·.1))) : pass.Keeps state := fun uid =>
  (quiet.notes uid).imp_right fun ⟨gone, loses⟩ =>
    ⟨gone, by rw [Pass.Loses, events]; exact losesIn_more (losesIn_record loses)⟩

/-- **A pass** ends before it has a snapshot and tells nothing, or gets to one. -/
theorem pass_noted {cfg : Config} {pass : Pass} {err : Option GoError}
    (path : Program.Path (reconcile (.real cfg) cfg pass.before pass.key pass.resync) pass.events
      (.done (err, pass.after))) :
    noticesIn pass.events = [] ∧ pass.Keeps pass.after ∨
    ∃ pod dir snapshot state seen later, pass.Located cfg pod dir snapshot state seen later ∧
      Passes.DirOf cfg pod dir ∧ noticesIn seen = [] ∧ pass.Keeps state ∧
      Passes.Noted cfg pass.resync pod snapshot state later pass.after.lastNotes := by
  unfold reconcile at path
  obtain ⟨seen, lookup, later, split, located, rest⟩ := path.of_bind
  have looked := (Passes.locate_noted cfg pass.before pass.key).logged rfl located
  cases lookup with
  | ended err state =>
      obtain ⟨rfl, ended⟩ := rest.of_done
      cases ended
      have silent : noticesIn _ = [] := looked.silent
      rw [Passes.noticesIn_record] at silent
      refine .inl ⟨?_, looked.keeps split⟩
      rw [split, List.append_nil, silent]
  | located pod dir snapshot state =>
      obtain ⟨own, quiet, held⟩ := looked
      have silent : noticesIn _ = [] := quiet.silent
      rw [Passes.noticesIn_record] at silent
      exact .inr ⟨pod, dir, snapshot, state, seen, later, ⟨split, located⟩, own, silent, quiet.keeps split,
        Passes.reconcilePod_noted own held rest⟩

end

end CpuIdle.Agent
