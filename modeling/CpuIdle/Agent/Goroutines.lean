/-
# Agent.Goroutines — what each goroutine of Run goes by

The goroutines of `Run` meet in channels and contexts, and each may go by what no other undoes.

* `Known` — what each goroutine knows where it asks; `Inv` — what holds throughout;
* `Grows`, `Own` — how a request of one moves the world of the others;
* `Kept`, `asks` — what one goroutine may keep in mind, and the rule for its requests;
* `server_waits`, `looper_waits`, `worker_waits`, `run_waits` — each goroutine, step by step.
-/
import CpuIdle.Agent.Lifecycle

namespace CpuIdle.Agent

open CpuIdle.Go CpuIdle.Node CpuIdle.Theory

set_option autoImplicit false

namespace Lifecycle

/-! ## What is known -/

/-- What has to be there before the pods are reconciled: the cache is synced, and what the guard had
left is recovered. -/
def Prepared (settings : Settings) (w : World) : Prop :=
  w.cacheSynced = true ∧ (settings.guard = true → w.recovered = true)

/-- What a server's goroutine says of a failure. -/
def failure (s : Server) (err : OsError) : GoError := err.err.wrap s!"agent: {s.name} server"

/-- What holds throughout. -/
structure Inv (settings : Settings) (w : World) : Prop where
  gate : ∀ ready, w.worker = some ready → w.health.gateReady = ready
  passed : w.health.gateReady = true → ∃ driver, w.gate = some (.ready driver)
  failed : w.worker = some false → ∃ reason, w.gate = some (.notReady reason)
  info : ∀ reason, w.gateInfo = some reason → w.gate = some (.notReady reason)
  synced : w.health.synced = true → w.worker = some true ∧ Prepared settings w
  looped : ∀ l, w.loopers l = true → w.health.synced = true
  served : ∀ s, s ∈ w.serverErrs.senders → w.servers s = true
  broke : ∀ s err, w.serverAnswer s = some (.failed err) →
    w.servers s = true ∧ (w.done s = true → (s, failure s err) ∈ w.serverErrs.sent)
  informed : w.informerAnswer ≠ none → w.worker ≠ none
  answered : ∀ l, w.loopAnswer l ≠ none → w.loopers l = true
  said : ∀ l err, (l, err) ∈ w.loopResults.sent → w.loopAnswer l = some err
  worked : w.runErrs.sent ≠ [] → w.worker ≠ none
  launched : ∀ l, l ∈ w.loopResults.senders → w.loopers l = true
  serverOnce : w.serverErrs.Once
  runOnce : w.runErrs.Once
  loopOnce : w.loopResults.Once
  taken : w.serverErrs.received ≤ w.serverErrs.sent.length
  runStops : ((), none) ∈ w.runErrs.sent → w.ctxDone .run = true
  loopStops : ∀ l, (l, none) ∈ w.loopResults.sent → w.ctxDone .loop = true
  closed : w.serverErrsClosed = true → ∀ s, w.done s = true

/-- The informer may call this for its keys. -/
def Runs (w : World) : Reconcile → Prop
  | .pods => w.health.synced = true
  | .degraded => w.worker = some false

/-- The worker has not sent its result. -/
def Working (w : World) : Prop := w.worker ≠ none ∧ w.runErrs.sent = []

/-- What holds where a goroutine is about to make a request, or waits in it. -/
def Known (settings : Settings) (w : World) : Request → Prop
  | .gateCheck => w.worker = none ∧ w.gateInfo = none ∧ w.health.gateReady = false
  | .setGateResult ready _ => w.worker = none ∧ w.gateInfo = none ∧
      ∃ result, w.gate = some result ∧ gateReady result = ready
  | .environmentGateInfo _ reason => w.gate = some (.notReady reason)
  | .goWorker ready => w.worker = none ∧ w.health.gateReady = ready ∧
      (ready = false → ∃ reason, w.gate = some (.notReady reason))
  | .select => w.worker ≠ none ∧ w.runErrs.received = 0 ∧ w.serverErrs.received = 0
  | .receiveRun => w.worker ≠ none ∧ w.runErrs.received = 0 ∧ w.runCtx = true
  | .waitServers => ∀ s, w.servers s = true ∧ w.stopped s = true
  | .closeServerErrs => ∀ s, w.done s = true
  | .rangeServerErrs => w.serverErrsClosed = true
  | .workerStarts => w.runErrs.sent = []
  | .informerStart => Working w ∧ w.loopResults.sent = []
  | .recover | .ctxErr | .cancelLoops => Working w
  | .setSynced synced => Working w ∧ synced = true ∧ w.worker = some true ∧ Prepared settings w
  | .goLooper _ => Working w ∧ w.health.synced = true
  | .receiveLoop => Working w ∧ (∀ l, w.loopers l = true) ∧
      (w.loopResults.received = 0 ∨ (w.loopResults.received = 1 ∧ w.loopCtx = true))
  | .sendRun err => Working w ∧ (err = none → w.ctxDone .run = true)
  | .informerRun .run reconcile => Working w ∧ w.loopResults.sent = [] ∧ Runs w reconcile
  | .looperStarts l => l ∉ w.loopResults.senders
  | .guardRun => Looper.guard ∉ w.loopResults.senders ∧ w.loopers .guard = true
  | .informerRun .loop reconcile => Looper.informer ∉ w.loopResults.senders ∧
      w.loopers .informer = true ∧ Runs w reconcile
  | .sendLoop l err => l ∉ w.loopResults.senders ∧ w.loopers l = true ∧
      (err = none → w.ctxDone .loop = true) ∧ w.loopAnswer l = some err
  | .serverStarts s => w.done s = false
  | .serveHTTP s => w.done s = false ∧ w.servers s = true
  | .sendServer s _ => w.done s = false ∧ s ∉ w.serverErrs.senders ∧ w.servers s = true
  | .serverDone s => w.done s = false ∧
      ∀ err, w.serverAnswer s = some (.failed err) → (s, failure s err) ∈ w.serverErrs.sent
  | _ => True

def Knows (settings : Settings) (g : Goroutine) (w : World) (r : Request) : Prop :=
  owner r = g ∧ Known settings w r

/-! ## How the world moves -/

/-- What only ever grows, and what is final once everybody is done. -/
structure Grows (w w' : World) : Prop where
  caller : w.caller = true → w'.caller = true
  runCtx : w.runCtx = true → w'.runCtx = true
  loopCtx : w.loopCtx = true → w'.loopCtx = true
  servers : ∀ s, w.servers s = true → w'.servers s = true
  worker : ∀ ready, w.worker = some ready → w'.worker = some ready
  loopers : ∀ l, w.loopers l = true → w'.loopers l = true
  stopped : ∀ s, w.stopped s = true → w'.stopped s = true
  done : ∀ s, w.done s = true → w'.done s = true
  synced : w.health.synced = true → w'.health.synced = true
  serverErrs : w.serverErrs.sent <+: w'.serverErrs.sent
  runErrs : w.runErrs.sent <+: w'.runErrs.sent
  loopResults : w.loopResults.sent <+: w'.loopResults.sent
  final : (∀ s, w.done s = true) → w'.serverErrs.sent = w.serverErrs.sent

/-- What nobody but `g` changes. -/
def Own : Goroutine → World → World → Prop
  | .main, w, w' => w'.runCtx = w.runCtx ∧ w'.servers = w.servers ∧ w'.worker = w.worker ∧
      w'.gateInfo = w.gateInfo ∧ w'.health.gateReady = w.health.gateReady ∧
      w'.runErrs.received = w.runErrs.received ∧ w'.serverErrs.received = w.serverErrs.received ∧
      w'.serverErrsClosed = w.serverErrsClosed ∧ w'.gate = w.gate
  | .worker, w, w' => w'.loopCtx = w.loopCtx ∧ w'.loopers = w.loopers ∧
      w'.loopResults.received = w.loopResults.received ∧ w'.runErrs.sent = w.runErrs.sent ∧
      w'.recovered = w.recovered ∧ w'.cacheSynced = w.cacheSynced ∧ w'.informerAnswer = w.informerAnswer
  | .looper l, w, w' => (l ∈ w'.loopResults.senders ↔ l ∈ w.loopResults.senders) ∧
      w'.loopAnswer l = w.loopAnswer l
  | .server s, w, w' => w'.done s = w.done s ∧ (s ∈ w'.serverErrs.senders ↔ s ∈ w.serverErrs.senders) ∧
      w'.serverAnswer s = w.serverAnswer s

section

variable {settings : Settings} {w w' : World}

theorem Grows.refl (w : World) : Grows w w :=
  ⟨id, id, id, fun _ => id, fun _ => id, fun _ => id, fun _ => id, fun _ => id, id, List.prefix_refl _,
    List.prefix_refl _, List.prefix_refl _, fun _ => rfl⟩

theorem Own.refl (g : Goroutine) (w : World) : Own g w w := by
  cases g <;> simp [Own]

theorem Grows.ctxDone (grows : Grows w w') {ctx : Ctx} (done : w.ctxDone ctx = true) :
    w'.ctxDone ctx = true := by
  cases ctx with
  | run =>
      simp only [World.ctxDone, Bool.or_eq_true] at done ⊢
      exact done.imp grows.caller grows.runCtx
  | loop =>
      simp only [World.ctxDone, Bool.or_eq_true] at done ⊢
      exact done.imp (.imp grows.caller grows.runCtx) grows.loopCtx

theorem update_here {ι : Type} [DecidableEq ι] (f : ι → Bool) (i : ι) : Function.update f i true i = true :=
  Function.update_self ..

theorem update_grows {ι : Type} [DecidableEq ι] {f : ι → Bool} {i : ι} :
    ∀ j, f j = true → Function.update f i true j = true := by
  intro j holds
  by_cases same : j = i
  · rw [same, Function.update_self]
  · rwa [Function.update_of_ne same]

/-- **A request only adds.** -/
theorem act_grows {r : Request} {answer : Answer r} (known : Known settings w r)
    (acts : act settings w r answer w') : Grows w w' := by
  have base := Grows.refl w
  cases r with
  | serve s => exact acts ▸ { base with servers := update_grows }
  | goWorker ready =>
      refine acts ▸ { base with worker := fun ready' started => ?_ }
      rw [known.1] at started
      cases started
  | goLooper l => exact acts ▸ { base with loopers := update_grows }
  | shutdown s => exact acts ▸ { base with stopped := update_grows }
  | serverDone s => exact acts ▸ { base with done := update_grows }
  | cancelRun => exact acts ▸ { base with runCtx := fun _ => rfl }
  | cancelLoops => exact acts ▸ { base with loopCtx := fun _ => rfl }
  | setSynced synced => exact acts ▸ { base with synced := fun _ => known.2.1 }
  | sendServer s err =>
      obtain ⟨-, rfl⟩ := acts
      refine { base with serverErrs := List.prefix_append _ _, final := fun ended => ?_ }
      have busy := known.1
      rw [ended s] at busy
      cases busy
  | sendRun err =>
      obtain ⟨-, rfl⟩ := acts
      exact { base with runErrs := List.prefix_append _ _ }
  | sendLoop l err =>
      obtain ⟨-, rfl⟩ := acts
      exact { base with loopResults := List.prefix_append _ _ }
  | select =>
      cases answer with
      | inl err => obtain ⟨-, rfl⟩ := acts; exact { base with }
      | inr err => obtain ⟨-, rfl⟩ := acts; exact { base with }
  | rangeServerErrs => obtain ⟨-, -, rfl⟩ := acts; exact { base with }
  | informerRun ctx reconcile => cases ctx <;> (obtain ⟨-, rfl⟩ := acts; exact { base with })
  | receiveRun | receiveLoop | waitServers | workerStarts | informerStart | ctxErr | looperStarts |
    guardRun | serverStarts | serveHTTP => obtain ⟨-, rfl⟩ := acts; exact { base with }
  | _ => obtain rfl := acts; exact { base with }

theorem act_own {g : Goroutine} {r : Request} {answer : Answer r} (other : owner r ≠ g)
    (acts : act settings w r answer w') : Own g w w' := by
  have base := Own.refl g w
  cases r with
  | sendServer s err =>
      obtain ⟨-, rfl⟩ := acts
      rcases g with _ | _ | l | s'
      · exact base
      · exact base
      · exact base
      · have apart : s' ≠ s := fun same => other (same ▸ rfl)
        simp [Own, apart]
  | sendLoop l err =>
      obtain ⟨-, rfl⟩ := acts
      rcases g with _ | _ | l' | s
      · exact base
      · exact base
      · have apart : l' ≠ l := fun same => other (same ▸ rfl)
        simp [Own, apart]
      · exact base
  | serverDone s =>
      obtain rfl := acts
      rcases g with _ | _ | l | s'
      · exact base
      · exact base
      · exact base
      · have apart : s' ≠ s := fun same => other (same ▸ rfl)
        simp [Own, Function.update_of_ne apart]
  | select =>
      cases answer with
      | inl err => obtain ⟨-, rfl⟩ := acts; cases g <;> first | exact absurd rfl other | exact base
      | inr err => obtain ⟨-, rfl⟩ := acts; cases g <;> first | exact absurd rfl other | exact base
  | rangeServerErrs =>
      obtain ⟨-, -, rfl⟩ := acts
      cases g <;> first | exact absurd rfl other | exact base
  | serveHTTP s =>
      obtain ⟨-, rfl⟩ := acts
      rcases g with _ | _ | l | s'
      · exact base
      · exact base
      · exact base
      · have apart : s' ≠ s := fun same => other (same ▸ rfl)
        simp [Own, Function.update_of_ne apart]
  | guardRun =>
      obtain ⟨-, rfl⟩ := acts
      rcases g with _ | _ | l | s
      · exact base
      · exact base
      · have apart : l ≠ .guard := fun same => other (same ▸ rfl)
        simp [Own, Function.update_of_ne apart]
      · exact base
  | informerRun ctx reconcile =>
      cases ctx with
      | run =>
          obtain ⟨-, rfl⟩ := acts
          cases g <;> first | exact absurd rfl other | exact base
      | loop =>
          obtain ⟨-, rfl⟩ := acts
          rcases g with _ | _ | l | s
          · exact base
          · exact base
          · have apart : l ≠ .informer := fun same => other (same ▸ rfl)
            simp [Own, Function.update_of_ne apart]
          · exact base
  | receiveRun | receiveLoop | waitServers | workerStarts | informerStart | ctxErr | looperStarts |
    serverStarts | sendRun =>
      obtain ⟨-, rfl⟩ := acts
      cases g <;> first | exact absurd rfl other | exact base
  | _ =>
      obtain rfl := acts
      cases g <;> first | exact absurd rfl other | exact base

/-! ## The invariant -/

/-- A loop answers once, while it has not said so. -/
theorem Inv.answers (inv : Inv settings w) {l : Looper} (fresh : l ∉ w.loopResults.senders)
    (launched : w.loopers l = true) (err : Option GoError) :
    Inv settings { w with loopAnswer := Function.update w.loopAnswer l (some err) } :=
  { inv with
    answered := fun l' answers => by
      by_cases same : l' = l
      · rwa [same]
      · exact inv.answered l' fun silent => answers ((Function.update_of_ne same ..).trans silent)
    said := fun l' err' sent => by
      have apart : l' ≠ l := fun same => fresh (same ▸ Chan.mem_senders.mpr ⟨err', sent⟩)
      exact (Function.update_of_ne apart ..).trans (inv.said l' err' sent) }

/-- **A request keeps the invariant**, where it is known what is to be known. -/
theorem inv_act {r : Request} {answer : Answer r} (inv : Inv settings w) (known : Known settings w r)
    (acts : act settings w r answer w') : Inv settings w' := by
  have grows := act_grows known acts
  cases r with
  | gateCheck =>
      obtain rfl := acts
      obtain ⟨unstarted, unset, unpassed⟩ := known
      refine { inv with
        passed := fun passed => by rw [unpassed] at passed; cases passed
        failed := fun failed => by rw [unstarted] at failed; cases failed
        info := fun reason set => by rw [unset] at set; cases set }
  | setGateResult ready reason =>
      obtain rfl := acts
      obtain ⟨unstarted, unset, result, answered, decides⟩ := known
      refine { inv with
        gate := fun ready' started => by rw [unstarted] at started; cases started
        passed := fun passed => ?_
        info := fun reason set => by rw [unset] at set; cases set }
      obtain rfl : ready = true := passed
      cases result with
      | ready driver => exact ⟨driver, answered⟩
      | notReady _ => cases decides
      | failed _ => cases decides
  | environmentGateInfo node reason =>
      obtain rfl := acts
      exact { inv with info := fun reason' set => Option.some.inj set ▸ known }
  | serve s =>
      obtain rfl := acts
      exact { inv with
        served := fun s' sent => grows.servers s' (inv.served s' sent)
        broke := fun s' err broke => ⟨grows.servers s' (inv.broke s' err broke).1, (inv.broke s' err broke).2⟩ }
  | goWorker ready =>
      obtain rfl := acts
      refine { inv with
        gate := fun ready' started => ?_
        failed := fun failed => known.2.2 (Option.some.inj failed)
        synced := fun synced => ?_
        informed := fun _ => Option.some_ne_none ready
        worked := fun _ => Option.some_ne_none ready }
      · rw [← Option.some.inj started]
        exact known.2.1
      · have started := (inv.synced synced).1
        rw [known.1] at started
        cases started
  | select =>
      cases answer with
      | inl err => obtain ⟨-, rfl⟩ := acts; exact { inv with }
      | inr err =>
          obtain ⟨⟨s, next⟩, rfl⟩ := acts
          exact { inv with taken := Chan.received_lt_of_first next }
  | cancelRun =>
      obtain rfl := acts
      exact { inv with
        runStops := fun sent => grows.ctxDone (inv.runStops sent)
        loopStops := fun l sent => grows.ctxDone (inv.loopStops l sent) }
  | closeServerErrs => obtain rfl := acts; exact { inv with closed := fun _ => known }
  | rangeServerErrs => obtain ⟨-, -, rfl⟩ := acts; exact { inv with taken := le_refl _ }
  | informerStart =>
      obtain ⟨-, rfl⟩ := acts
      refine { inv with synced := fun synced => ⟨(inv.synced synced).1, ?_, (inv.synced synced).2.2⟩ }
      exact Bool.or_eq_true_iff.mpr (.inl (inv.synced synced).2.1)
  | recover =>
      obtain rfl := acts
      refine { inv with synced := fun synced => ⟨(inv.synced synced).1, (inv.synced synced).2.1, fun guarded => ?_⟩ }
      exact Bool.or_eq_true_iff.mpr (.inl ((inv.synced synced).2.2 guarded))
  | setSynced synced =>
      obtain rfl := acts
      exact { inv with synced := fun _ => known.2.2, looped := fun _ _ => known.2.1 }
  | goLooper l =>
      obtain rfl := acts
      exact { inv with
        looped := fun _ _ => known.2
        launched := fun l' sent => grows.loopers l' (inv.launched l' sent)
        answered := fun l' answers => grows.loopers l' (inv.answered l' answers) }
  | cancelLoops =>
      obtain rfl := acts
      exact { inv with loopStops := fun l sent => grows.ctxDone (inv.loopStops l sent) }
  | sendRun err =>
      obtain ⟨-, rfl⟩ := acts
      have fresh : () ∉ w.runErrs.senders := by simp [Chan.senders, known.1.2]
      refine { inv with
        worked := fun _ => known.1.1
        runOnce := inv.runOnce.send fresh err
        runStops := fun sent => ?_ }
      rcases List.mem_append.mp sent with before | now
      · exact inv.runStops before
      · exact known.2 (Prod.mk.inj (List.mem_singleton.mp now)).2.symm
  | sendLoop l err =>
      obtain ⟨-, rfl⟩ := acts
      refine { inv with
        launched := fun l' sent => ?_
        said := fun l' err' sent => ?_
        loopOnce := inv.loopOnce.send known.1 err
        loopStops := fun l' sent => ?_ }
      · rcases List.mem_append.mp sent with before | now
        · exact inv.said l' err' before
        · obtain ⟨rfl, rfl⟩ := Prod.mk.inj (List.mem_singleton.mp now)
          exact known.2.2.2
      · rw [Chan.senders_send] at sent
        rcases List.mem_append.mp sent with before | now
        · exact inv.launched l' before
        · rw [List.mem_singleton.mp now]
          exact known.2.1
      · rcases List.mem_append.mp sent with before | now
        · exact inv.loopStops l' before
        · exact known.2.2.1 (Prod.mk.inj (List.mem_singleton.mp now)).2.symm
  | guardRun => obtain ⟨-, rfl⟩ := acts; exact inv.answers known.1 known.2 answer
  | informerRun ctx reconcile =>
      cases ctx with
      | run => obtain ⟨-, rfl⟩ := acts; exact { inv with informed := fun _ => known.1.1 }
      | loop => obtain ⟨-, rfl⟩ := acts; exact inv.answers known.1 known.2.1 answer
  | serveHTTP s =>
      obtain ⟨-, rfl⟩ := acts
      refine { inv with broke := fun s' err broke => ?_ }
      by_cases same : s' = s
      · subst same
        refine ⟨known.2, fun done => ?_⟩
        have busy := known.1
        rw [done] at busy
        cases busy
      · exact inv.broke s' err ((Function.update_of_ne same ..).symm.trans broke)
  | sendServer s err =>
      obtain ⟨-, rfl⟩ := acts
      refine { inv with
        served := fun s' sent => ?_
        broke := fun s' err' broke => ⟨(inv.broke s' err' broke).1, fun done =>
          grows.serverErrs.subset ((inv.broke s' err' broke).2 done)⟩
        serverOnce := inv.serverOnce.send known.2.1 err
        taken := le_trans inv.taken grows.serverErrs.length_le }
      rw [Chan.senders_send] at sent
      rcases List.mem_append.mp sent with before | now
      · exact inv.served s' before
      · rw [List.mem_singleton.mp now]
        exact known.2.2
  | serverDone s =>
      obtain rfl := acts
      refine { inv with
        broke := fun s' err broke => ⟨(inv.broke s' err broke).1, fun done => ?_⟩
        closed := fun ended s' => grows.done s' (inv.closed ended s') }
      by_cases same : s' = s
      · exact same ▸ known.2 err (same ▸ broke)
      · exact (inv.broke s' err broke).2 ((Function.update_of_ne same ..).symm.trans done)
  | receiveRun | receiveLoop | waitServers | workerStarts | ctxErr | looperStarts | serverStarts =>
      obtain ⟨-, rfl⟩ := acts
      exact { inv with }
  | _ => obtain rfl := acts; exact { inv with }

/-- What the caller does, and what the loops report. -/
theorem others_grows (moves : others w w') : Grows w w' := by
  obtain ⟨caller, -, -, grows, rfl⟩ := moves
  exact { Grows.refl w with caller := grows }

theorem others_own {g : Goroutine} (moves : others w w') : Own g w w' := by
  have base := Own.refl g w
  obtain ⟨-, -, -, -, rfl⟩ := moves
  cases g <;> exact base

theorem inv_others (inv : Inv settings w) (moves : others w w') : Inv settings w' := by
  have grows := others_grows moves
  obtain ⟨caller, reconcile, guard, _, rfl⟩ := moves
  exact { inv with
    runStops := fun sent => grows.ctxDone (inv.runStops sent)
    loopStops := fun l sent => grows.ctxDone (inv.loopStops l sent) }

/-! ## One goroutine -/

/-- What `g` may go by: nobody else undoes it. -/
def Kept (settings : Settings) (g : Goroutine) (P : World → Prop) : Prop :=
  ∀ w w', Inv settings w → Inv settings w' → Grows w w' → Own g w w' → P w → P w'

/-- The world as `g` sees it. -/
def around (settings : Settings) (g : Goroutine) : Arena lifecycleSignature World :=
  (arena settings).beside (Inv settings) (Knows settings) g

abbrev Stands (settings : Settings) (g : Goroutine) {α : Type} (P : World → Prop) (p : Routine α)
    (Q : α → World → Prop) : Prop :=
  Waits (around settings g) (Knows settings g) (fun w => Inv settings w ∧ P w) p
    fun a w => Inv settings w ∧ Q a w

theorem Kept.stable {g : Goroutine} {P : World → Prop} (kept : Kept settings g P) :
    (around settings g).Stable fun w => Inv settings w ∧ P w := by
  rintro w w' ⟨inv', move⟩ ⟨inv, holds⟩
  refine ⟨inv', ?_⟩
  rcases move with other | ⟨g', r, answer, apart, known, acts⟩
  · exact kept w w' inv inv' (others_grows other) (others_own other) holds
  · refine kept w w' inv inv' (act_grows known.2 acts) (act_own ?_ acts) holds
    rw [known.1]
    exact apart

theorem Stands.bind {α β : Type} {g : Goroutine} {p : Routine α} {f : α → Routine β} {P : World → Prop}
    {R : α → World → Prop} {Q : β → World → Prop} (first : Stands settings g P p R)
    (rest : ∀ a, Stands settings g (R a) (f a) Q) : Stands settings g P (p >>= f) Q :=
  Waits.bind first rest

theorem asks {g : Goroutine} {r : Request} {P : World → Prop} {R : Answer r → World → Prop}
    (own : owner r = g) (kept : Kept settings g P)
    (knows : ∀ w, Inv settings w → P w → Known settings w r)
    (after : ∀ w answer w', Inv settings w → Inv settings w' → P w → act settings w r answer w' →
      R answer w') : Stands settings g P (calls r) R :=
  Waits.request kept.stable (fun w holds => ⟨own, knows w holds.1 holds.2⟩)
    fun w holds answer w' step => ⟨step.2, after w answer w' holds.1 step.2 holds.2 step.1⟩

/-! ## The servers and the loops -/

def Serves (s : Server) (w : World) : Prop :=
  w.done s = false ∧ s ∉ w.serverErrs.senders

/-- All it was answered is said. -/
def Confesses (s : Server) (w : World) : Prop :=
  w.done s = false ∧ ∀ err, w.serverAnswer s = some (.failed err) → (s, failure s err) ∈ w.serverErrs.sent

theorem serves_kept (s : Server) : Kept settings (.server s) (Serves s) := by
  rintro w w' - - - ⟨done, senders, -⟩ ⟨busy, fresh⟩
  exact ⟨done.trans busy, fun sent => fresh (senders.mp sent)⟩

theorem confesses_kept (s : Server) : Kept settings (.server s) (Confesses s) := by
  rintro w w' - - grows ⟨done, -, answer⟩ ⟨busy, confessed⟩
  exact ⟨done.trans busy, fun err broke => grows.serverErrs.subset (confessed err (answer ▸ broke))⟩

theorem server_waits (s : Server) :
    Stands settings (.server s) (Serves s) (server s) fun _ w => w.done s = true := by
  have started : Kept settings (.server s) fun w => Serves s w ∧ w.servers s = true :=
    fun w w' inv inv' grows own holds => ⟨serves_kept s w w' inv inv' grows own holds.1, grows.servers s holds.2⟩
  have answered (served : Served) : Kept settings (.server s) fun w =>
      (Serves s w ∧ w.servers s = true) ∧ w.serverAnswer s = some served :=
    fun w w' inv inv' grows own holds =>
      ⟨started w w' inv inv' grows own holds.1, own.2.2.trans holds.2⟩
  have ends : Stands settings (.server s) (Confesses s)
      (do calls (.serverDone s); return (none : Option GoError)) fun _ w => w.done s = true := by
    refine Stands.bind (R := fun _ w => w.done s = true)
      (asks rfl (confesses_kept s) (fun _ _ => id) fun w _ w' _ _ _ acts => ?_) fun _ => .pure fun _ => id
    exact acts ▸ update_here _ s
  refine Stands.bind (R := fun _ w => Serves s w ∧ w.servers s = true)
    (asks rfl (serves_kept s) (fun _ _ holds => holds.1) fun w _ w' _ _ holds acts => ?_) fun _ => ?_
  · obtain ⟨launched, rfl⟩ := acts
    exact ⟨holds, launched⟩
  · refine Stands.bind (R := fun served w => (Serves s w ∧ w.servers s = true) ∧ w.serverAnswer s = some served)
      (asks rfl started (fun _ _ holds => ⟨holds.1.1, holds.2⟩) fun w served w' _ _ holds acts => ?_) fun served => ?_
    · obtain ⟨-, rfl⟩ := acts
      exact ⟨holds, by simp⟩
    · cases served with
      | closed =>
          refine ends.pre fun w ⟨inv, holds, closed⟩ => ⟨inv, holds.1.1, fun err broke => ?_⟩
          rw [closed] at broke
          cases broke
      | failed err =>
          refine Stands.bind (R := fun _ w => Confesses s w)
            (asks rfl (answered (.failed err)) (fun w _ holds => ⟨holds.1.1.1, holds.1.1.2, holds.1.2⟩)
              fun w _ w' _ _ holds acts => ?_) fun _ => ends
          obtain ⟨-, rfl⟩ := acts
          refine ⟨holds.1.1.1, fun err' broke => ?_⟩
          obtain rfl : err = err' := Served.failed.inj (Option.some.inj (holds.2.symm.trans broke))
          exact List.mem_append_right _ (List.mem_singleton_self _)

def Loops (l : Looper) (w : World) : Prop :=
  l ∉ w.loopResults.senders ∧ w.loopers l = true

theorem loops_kept (l : Looper) : Kept settings (.looper l) (Loops l) := by
  rintro w w' - - grows ⟨senders, -⟩ ⟨fresh, launched⟩
  exact ⟨fun sent => fresh (senders.mp sent), grows.loopers l launched⟩

/-- It was answered `err`, and has not said so. -/
structure Answered (l : Looper) (err : Option GoError) (w : World) : Prop where
  loops : Loops l w
  clean : err = none → w.ctxDone .loop = true
  answer : w.loopAnswer l = some err

theorem answered_kept (l : Looper) (err : Option GoError) : Kept settings (.looper l) (Answered l err) :=
  fun w w' inv inv' grows own answered => ⟨loops_kept l w w' inv inv' grows own answered.loops,
    fun clean => grows.ctxDone (answered.clean clean), own.2.trans answered.answer⟩

/-- A loop that came to an end says so. -/
theorem result_waits (l : Looper) (err : Option GoError) :
    Stands settings (.looper l) (Answered l err)
      (do calls (.sendLoop l err); return (none : Option GoError))
      fun _ w => l ∈ w.loopResults.senders := by
  refine Stands.bind (R := fun _ w => l ∈ w.loopResults.senders)
    (asks rfl (answered_kept l err)
      (fun _ _ holds => ⟨holds.loops.1, holds.loops.2, holds.clean, holds.answer⟩) fun w _ w' _ _ _ acts => ?_)
    fun _ => .pure fun _ => id
  obtain ⟨-, rfl⟩ := acts
  rw [Chan.senders_send]
  exact List.mem_append_right _ (List.mem_singleton_self l)

theorem looper_waits (l : Looper) :
    Stands settings (.looper l) (fun w => l ∉ w.loopResults.senders) (looper l)
      fun _ w => l ∈ w.loopResults.senders := by
  have fresh : Kept settings (.looper l) fun w => l ∉ w.loopResults.senders :=
    fun _ _ _ _ _ own fresh sent => fresh (own.1.mp sent)
  refine Stands.bind (R := fun _ w => Loops l w)
    (asks rfl fresh (fun _ _ => id) fun w _ w' _ _ holds acts => ?_) fun _ => ?_
  · obtain ⟨launched, rfl⟩ := acts
    exact ⟨holds, launched⟩
  · cases l with
    | guard =>
        refine Stands.bind (R := fun err w => Answered .guard err w)
          (asks rfl (loops_kept .guard) (fun _ _ => id) fun w err w' _ _ holds acts => ?_)
          (result_waits .guard)
        obtain ⟨ends, rfl⟩ := acts
        refine ⟨holds, fun clean => ?_, by simp⟩
        subst clean
        split at ends
        · cases ends
        · exact ends.2
    | informer =>
        refine Stands.bind (R := fun err w => Answered .informer err w)
          (asks rfl (loops_kept .informer)
            (fun w inv holds => ⟨holds.1, holds.2, inv.looped .informer holds.2⟩)
            fun w err w' _ _ holds acts => ?_)
          (result_waits .informer)
        obtain ⟨ends, rfl⟩ := acts
        exact ⟨holds, fun _ => ends, by simp⟩

/-! ## The worker -/

/-- Nothing is launched, and nothing is said. -/
structure Alone (ready : Bool) (w : World) : Prop where
  worker : w.worker = some ready
  silent : w.runErrs.sent = []
  idle : ∀ l, w.loopers l = false
  received : w.loopResults.received = 0
  loopCtx : w.loopCtx = false
  answer : w.informerAnswer = none

/-- Both loops are launched. -/
structure Launched (received : Nat) (w : World) : Prop where
  worker : w.worker = some true
  silent : w.runErrs.sent = []
  loopers : ∀ l, w.loopers l = true
  received : w.loopResults.received = received
  answer : w.informerAnswer = none

/-- The worker has `err` to send, and whoever it launched has ended. -/
structure Ended (err : Option GoError) (w : World) : Prop where
  working : Working w
  clean : err = none → w.ctxDone .run = true
  joined : ∀ l, w.loopers l = true → l ∈ w.loopResults.senders
  kept : ∀ l e, (l, some e) ∈ w.loopResults.sent → ∃ whole, err = some whole ∧ e.Within whole
  informed : ∀ e, w.informerAnswer = some e → err = e

/-- What the worker leaves behind. -/
structure Worked (w : World) : Prop where
  sent : w.runErrs.sent ≠ []
  joined : ∀ l, w.loopers l = true → l ∈ w.loopResults.senders
  kept : ∀ l e, (l, some e) ∈ w.loopResults.sent →
    ∃ whole, ((), some whole) ∈ w.runErrs.sent ∧ e.Within whole
  informed : ∀ e, w.informerAnswer = some e → ((), e) ∈ w.runErrs.sent

theorem working_kept : Kept settings .worker Working := by
  rintro w w' - - grows ⟨-, -, -, sent, -⟩ ⟨started, silent⟩
  obtain ⟨ready, started⟩ := Option.ne_none_iff_exists'.mp started
  exact ⟨by simp [grows.worker ready started], sent.trans silent⟩

theorem alone_kept (ready : Bool) : Kept settings .worker (Alone ready) := by
  rintro w w' - - grows ⟨loopCtx, loopers, received, sent, -, -, answer⟩ alone
  exact ⟨grows.worker ready alone.worker, sent.trans alone.silent, fun l => loopers ▸ alone.idle l,
    received.trans alone.received, loopCtx.trans alone.loopCtx, answer.trans alone.answer⟩

theorem Alone.working {ready : Bool} (alone : Alone ready w) : Working w :=
  ⟨by simp [alone.worker], alone.silent⟩

theorem Alone.quiet {ready : Bool} (inv : Inv settings w) (alone : Alone ready w) :
    w.loopResults.sent = [] := by
  refine List.eq_nil_iff_forall_not_mem.mpr fun item member => ?_
  have launched := inv.launched item.1 (Chan.mem_senders.mpr ⟨item.2, member⟩)
  rw [alone.idle] at launched
  cases launched

/-- Who launched nothing is done with its own result. -/
theorem Alone.ended {ready : Bool} {err : Option GoError} (inv : Inv settings w) (alone : Alone ready w)
    (clean : err = none → w.ctxDone .run = true) : Ended err w where
  working := alone.working
  clean := clean
  joined l launched := by rw [alone.idle] at launched; cases launched
  kept l e sent := by rw [alone.quiet inv] at sent; cases sent
  informed e answer := by rw [alone.answer] at answer; cases answer

/-- Who asked the informer has its answer. -/
theorem Alone.informed {ready : Bool} (inv : Inv settings w) (alone : Alone ready w) (err : Option GoError)
    (ends : w.ctxDone .run = true) : Ended err { w with informerAnswer := some err } :=
  { alone.ended inv fun _ => ends with informed := fun _ answer => Option.some.inj answer }

/-- Once all that was launched has sent, nothing new is sent. -/
theorem sent_before (inv' : Inv settings w') (grows : Grows w w')
    (own : Own .worker w w') (joined : ∀ l, w.loopers l = true → l ∈ w.loopResults.senders)
    {l : Looper} {e : Option GoError} (sent : (l, e) ∈ w'.loopResults.sent) :
    (l, e) ∈ w.loopResults.sent := by
  obtain ⟨-, loopers, -⟩ := own
  have launched := inv'.launched l (Chan.mem_senders.mpr ⟨e, sent⟩)
  rw [loopers] at launched
  obtain ⟨e', before⟩ := Chan.mem_senders.mp (joined l launched)
  rwa [inv'.loopOnce.unique sent (grows.loopResults.subset before)]

theorem joined_kept : Kept settings .worker fun w => ∀ l, w.loopers l = true → l ∈ w.loopResults.senders := by
  rintro w w' - - grows ⟨-, loopers, -⟩ joined l launched
  rw [loopers] at launched
  obtain ⟨e, sent⟩ := Chan.mem_senders.mp (joined l launched)
  exact Chan.mem_senders.mpr ⟨e, grows.loopResults.subset sent⟩

theorem ended_kept (err : Option GoError) : Kept settings .worker (Ended err) := by
  intro w w' inv inv' grows own ended
  exact ⟨working_kept w w' inv inv' grows own ended.working, fun clean => grows.ctxDone (ended.clean clean),
    joined_kept w w' inv inv' grows own ended.joined,
    fun l e sent => ended.kept l e (sent_before inv' grows own ended.joined sent),
    fun e answer => ended.informed e (own.2.2.2.2.2.2.symm.trans answer)⟩

theorem worked_kept : Kept settings .worker Worked := by
  intro w w' inv inv' grows own worked
  refine ⟨own.2.2.2.1 ▸ worked.sent, joined_kept w w' inv inv' grows own worked.joined, fun l e sent => ?_,
    fun e answer => grows.runErrs.subset (worked.informed e (own.2.2.2.2.2.2.symm.trans answer))⟩
  obtain ⟨whole, said, within⟩ := worked.kept l e (sent_before inv' grows own worked.joined sent)
  exact ⟨whole, own.2.2.2.1 ▸ said, within⟩

theorem say_waits (err : Option GoError) :
    Stands settings .worker (Ended err) (do calls (.sendRun err); return (none : Option GoError))
      fun _ w => Worked w := by
  refine Stands.bind (R := fun _ w => Worked w)
    (asks rfl (ended_kept err) (fun _ _ ended => ⟨ended.working, ended.clean⟩)
      fun w _ w' _ _ ended acts => ?_) fun _ => .pure fun _ => id
  obtain ⟨-, rfl⟩ := acts
  have said : ((), err) ∈ (w.runErrs.send () err).sent := List.mem_append_right _ (List.mem_singleton_self _)
  refine ⟨List.ne_nil_of_mem said, ended.joined, fun l e sent => ?_, fun e answer => ended.informed e answer ▸ said⟩
  obtain ⟨whole, rfl, within⟩ := ended.kept l e sent
  exact ⟨whole, said, within⟩

theorem runDegraded_waits : Stands settings .worker (Alone false) runDegraded Ended := by
  refine asks rfl (alone_kept false) (fun w inv alone => ⟨alone.working, alone.quiet inv, alone.worker⟩)
    fun w err w' inv _ alone acts => ?_
  obtain ⟨ends, rfl⟩ := acts
  exact alone.informed inv err ends

theorem launched_kept (received : Nat) : Kept settings .worker (Launched received) := by
  rintro w w' - - grows ⟨-, -, same, sent, -, -, answer⟩ launched
  exact ⟨grows.worker true launched.worker, sent.trans launched.silent,
    fun l => grows.loopers l (launched.loopers l), same.trans launched.received, answer.trans launched.answer⟩

theorem Launched.working {received : Nat} (launched : Launched received w) : Working w :=
  ⟨by simp [launched.worker], launched.silent⟩

theorem grown_getElem? {β : Type} {before after : List β} (grows : before <+: after) {i : Nat} {b : β}
    (got : before[i]? = some b) : after[i]? = some b := by
  obtain ⟨more, rfl⟩ := grows
  rw [List.getElem?_append_left (List.getElem?_eq_some_iff.mp got).choose, got]

/-- The first two to send are both of them. -/
theorem both_sent {ch : Chan Looper (Option GoError)} (once : ch.Once)
    {first second : Looper × Option GoError} (got : ch.sent[0]? = some first)
    (got' : ch.sent[1]? = some second) (l : Looper) : l = first.1 ∨ l = second.1 := by
  have apart : first.1 ≠ second.1 := by
    intro same
    have bound := (List.getElem?_eq_some_iff.mp got').choose
    refine List.nodup_iff_getElem?_ne_getElem?.mp once 0 1 Nat.one_pos (by simpa [Chan.senders] using bound) ?_
    simp [Chan.senders, got, got', same]
  revert apart
  cases l <;> cases first.1 <;> cases second.1 <;> decide

/-- The first loop to end gave `first`. -/
structure First (first : Looper × Option GoError) (w : World) : Prop where
  launched : Launched 1 w
  got : w.loopResults.sent[0]? = some first
  clean : first.2 = none → w.ctxDone .run = true

theorem first_kept (first : Looper × Option GoError) : Kept settings .worker (First first) := by
  intro w w' inv inv' grows own got
  exact ⟨launched_kept 1 w w' inv inv' grows own got.launched,
    grown_getElem? grows.loopResults got.got, fun clean => grows.ctxDone (got.clean clean)⟩

/-- The two loops: the first result cancels the other. -/
theorem joinLoops_waits :
    Stands settings .worker (fun w => Launched 0 w ∧ w.loopCtx = false)
      (do
        let first : Looper × Option GoError ← calls .receiveLoop
        calls .cancelLoops
        let second : Looper × Option GoError ← calls .receiveLoop
        return GoError.join (loopErr first ++ loopErr second)) Ended := by
  refine Stands.bind (R := fun first w => First first w)
    (asks rfl ?_ (fun w _ holds => ⟨holds.1.working, holds.1.loopers, .inl holds.1.received⟩)
      fun w first w' inv _ holds acts => ?_) fun first => ?_
  · exact fun w w' inv inv' grows own holds =>
      ⟨launched_kept 0 w w' inv inv' grows own holds.1, own.1.trans holds.2⟩
  · obtain ⟨launched, uncancelled⟩ := holds
    obtain ⟨next, rfl⟩ := acts
    have got := Chan.first_index next
    rw [launched.received] at got
    refine ⟨{ launched with received := congrArg (· + 1) launched.received }, got, fun clean => ?_⟩
    have ends := inv.loopStops first.1 (clean ▸ Chan.mem_of_first next)
    simpa [World.ctxDone, uncancelled] using ends
  refine Stands.bind (R := fun _ w => First first w ∧ w.loopCtx = true)
    (asks rfl (first_kept first) (fun w _ got => got.launched.working) fun w _ w' _ _ got acts => ?_) fun _ => ?_
  · obtain rfl := acts
    exact ⟨{ got with launched := { got.launched with } }, rfl⟩
  refine Stands.bind (R := fun second w => Ended (GoError.join (loopErr first ++ loopErr second)) w)
    (asks rfl ?_ (fun w _ holds => ⟨holds.1.launched.working, holds.1.launched.loopers,
      .inr ⟨holds.1.launched.received, holds.2⟩⟩) fun w second w' inv _ holds acts => ?_)
    fun second => .pure fun _ => id
  · exact fun w w' inv inv' grows own holds =>
      ⟨first_kept first w w' inv inv' grows own holds.1, grows.loopCtx holds.2⟩
  · obtain ⟨⟨launched, got, clean⟩, cancelled⟩ := holds
    obtain ⟨next, rfl⟩ := acts
    have got' := Chan.first_index next
    rw [launched.received] at got'
    have both := both_sent inv.loopOnce got got'
    have said : ∀ item ∈ w.loopResults.sent, item = first ∨ item = second := by
      rintro ⟨l, e⟩ sent
      rcases both l with rfl | rfl
      · exact .inl (Prod.ext rfl (inv.loopOnce.unique sent (List.mem_of_getElem? got)))
      · exact .inr (Prod.ext rfl (inv.loopOnce.unique sent (List.mem_of_getElem? got')))
    refine ⟨launched.working, fun none => clean ?_, fun l _ => ?_, fun l e sent => ?_, fun e answer => ?_⟩
    · have nothing := (List.append_eq_nil_iff.mp (GoError.join_eq_none.mp none)).1
      cases result : first.2 with
      | none => rfl
      | some err => simp [loopErr, result] at nothing
    · rcases both l with rfl | rfl
      · exact Chan.mem_senders.mpr ⟨first.2, List.mem_of_getElem? got⟩
      · exact Chan.mem_senders.mpr ⟨second.2, List.mem_of_getElem? got'⟩
    · have member : e.wrap s!"agent: {l.name} loop" ∈ loopErr first ++ loopErr second := by
        rcases said _ sent with rfl | rfl <;> simp [loopErr]
      obtain ⟨whole, joined, within⟩ := GoError.Within.join member
      exact ⟨whole, joined, (GoError.Within.wrap _ e).trans within⟩
    · have none := launched.answer.symm.trans answer
      cases none

/-- The guard loop is launched, and the informer's is next. -/
structure HalfLaunched (w : World) : Prop where
  worker : w.worker = some true
  silent : w.runErrs.sent = []
  synced : w.health.synced = true
  guard : w.loopers .guard = true
  received : w.loopResults.received = 0
  loopCtx : w.loopCtx = false
  answer : w.informerAnswer = none

theorem halfLaunched_kept : Kept settings .worker HalfLaunched := by
  rintro w w' - - grows ⟨loopCtx, -, received, sent, -, -, answer⟩ half
  exact ⟨grows.worker true half.worker, sent.trans half.silent, grows.synced half.synced,
    grows.loopers .guard half.guard, received.trans half.received, loopCtx.trans half.loopCtx,
    answer.trans half.answer⟩

theorem runLoops_waits :
    Stands settings .worker (fun w => Alone true w ∧ Prepared settings w) (runLoops settings) Ended := by
  have prepared : Kept settings .worker fun w => Alone true w ∧ Prepared settings w := by
    rintro w w' inv inv' grows own ⟨alone, synced, recovered⟩
    exact ⟨alone_kept true w w' inv inv' grows own alone, own.2.2.2.2.2.1.trans synced,
      fun guarded => own.2.2.2.2.1.trans (recovered guarded)⟩
  have ready : Kept settings .worker fun w => Alone true w ∧ w.health.synced = true :=
    fun w w' inv inv' grows own holds =>
      ⟨alone_kept true w w' inv inv' grows own holds.1, grows.synced holds.2⟩
  refine Stands.bind (R := fun _ w => Alone true w ∧ w.health.synced = true)
    (asks rfl prepared (fun w _ holds => ⟨holds.1.working, rfl, holds.1.worker, holds.2⟩)
      fun w _ w' _ _ holds acts => ?_) fun _ => ?_
  · obtain rfl := acts
    exact ⟨{ holds.1 with }, rfl⟩
  · refine Waits.ite (fun unguarded => ?_) fun guarded => ?_
    · refine asks rfl ready (fun w inv holds => ⟨holds.1.working, holds.1.quiet inv, holds.2⟩)
        fun w err w' inv _ holds acts => ?_
      obtain ⟨ends, rfl⟩ := acts
      exact holds.1.informed inv err ends
    · refine Stands.bind (R := fun _ w => HalfLaunched w)
        (asks rfl ready (fun w _ holds => ⟨holds.1.working, holds.2⟩) fun w _ w' _ _ holds acts => ?_) fun _ => ?_
      · obtain rfl := acts
        obtain ⟨alone, synced⟩ := holds
        exact ⟨alone.worker, alone.silent, synced, update_here w.loopers .guard, alone.received, alone.loopCtx,
          alone.answer⟩
      · refine Stands.bind (R := fun _ w => Launched 0 w ∧ w.loopCtx = false)
          (asks rfl halfLaunched_kept (fun w _ half => ⟨⟨by simp [half.worker], half.silent⟩, half.synced⟩)
            fun w _ w' _ _ half acts => ?_) fun _ => joinLoops_waits
        obtain rfl := acts
        refine ⟨⟨half.worker, half.silent, fun l => ?_, half.received, half.answer⟩, half.loopCtx⟩
        cases l with
        | guard => exact update_grows (i := .informer) Looper.guard half.guard
        | informer => exact update_here w.loopers .informer

theorem runReady_waits : Stands settings .worker (Alone true) (runReady settings) Ended := by
  have cancelled (flag : Bool) : Kept settings .worker fun w => Alone true w ∧ (flag = true → w.ctxDone .run = true) :=
    fun w w' inv inv' grows own holds => ⟨alone_kept true w w' inv inv' grows own holds.1,
      fun said => grows.ctxDone (holds.2 said)⟩
  have synced : Kept settings .worker fun w => Alone true w ∧ w.cacheSynced = true :=
    fun w w' inv inv' grows own holds => ⟨alone_kept true w w' inv inv' grows own holds.1,
      own.2.2.2.2.2.1.trans holds.2⟩
  refine Stands.bind (R := fun synced w => Alone true w ∧ ((!synced) = true → w.ctxDone .run = true) ∧
      (synced = true → w.cacheSynced = true))
    (asks rfl (alone_kept true) (fun w inv alone => ⟨alone.working, alone.quiet inv⟩)
      fun w (synced : Bool) w' _ _ alone acts => ?_) fun answer => ?_
  · obtain ⟨ends, rfl⟩ := acts
    refine ⟨{ alone with }, fun unsynced => ends ?_, fun isSynced => Bool.or_eq_true_iff.mpr (.inr isSynced)⟩
    exact (Bool.not_eq_true' synced).mp unsynced
  · refine Waits.ite (fun unsynced => ?_) fun isSynced => Waits.ite (fun guarded => ?_) fun unguarded => ?_
    · exact .pure fun w ⟨inv, alone, ends, _⟩ => ⟨inv, alone.ended inv fun _ => ends unsynced⟩
    · have isSynced : answer = true := by simpa using isSynced
      have recovers : Stands settings .worker (fun w => Alone true w ∧ w.cacheSynced = true) (calls .recover)
          fun (err : Option GoError) w =>
            Alone true w ∧ w.cacheSynced = true ∧ (err.isNone = true → w.recovered = true) := by
        refine asks rfl synced (fun w _ holds => holds.1.working) fun w (err : Option GoError) w' _ _ holds acts => ?_
        obtain rfl := acts
        exact ⟨{ holds.1 with }, holds.2, fun clean => Bool.or_eq_true_iff.mpr (.inr clean)⟩
      refine (Stands.bind recovers fun err => ?_).pre fun w ⟨inv, alone, _, shown⟩ =>
        ⟨inv, alone, shown isSynced⟩
      cases err with
      | none => exact runLoops_waits.pre fun w ⟨inv, alone, synced, recovered⟩ =>
          ⟨inv, alone, synced, fun _ => recovered rfl⟩
      | some err =>
          have looks : Stands settings .worker (Alone true) (calls .ctxErr)
              fun (flag : Bool) w => Alone true w ∧ (flag = true → w.ctxDone .run = true) := by
            refine asks rfl (alone_kept true) (fun w _ alone => alone.working)
              fun w (flag : Bool) w' _ _ alone acts => ?_
            obtain ⟨same, rfl⟩ := acts
            exact ⟨alone, fun raised => same ▸ raised⟩
          refine (Stands.bind looks fun flag => ?_).pre fun w ⟨inv, alone, _⟩ => ⟨inv, alone⟩
          refine Waits.ite (fun stopping => ?_) fun _ => ?_
          · refine .pure fun w ⟨inv, alone, ends⟩ => ⟨inv, alone.ended inv fun _ => ends ?_⟩
            exact (Bool.and_eq_true_iff.mp stopping).1
          · exact .pure fun w ⟨inv, alone, _⟩ => ⟨inv, alone.ended inv (by simp)⟩
    · have isSynced : answer = true := by simpa using isSynced
      exact runLoops_waits.pre fun w ⟨inv, alone, _, shown⟩ =>
        ⟨inv, alone, shown isSynced, fun guarded => absurd guarded unguarded⟩

theorem worker_waits :
    Stands settings .worker (fun w => w.runErrs.sent = [] ∧ (∀ l, w.loopers l = false) ∧
      w.loopResults.received = 0 ∧ w.loopCtx = false ∧ w.informerAnswer = none) (worker settings)
      fun _ w => Worked w := by
  refine Stands.bind (R := fun ready w => Alone ready w)
    (asks rfl ?_ (fun w _ holds => holds.1) fun w (ready : Bool) w' _ _ holds acts => ?_) fun ready => ?_
  · rintro w w' - - - ⟨loopCtx, loopers, received, sent, -, -, answer⟩ holds
    rw [loopCtx, loopers, received, sent, answer]
    exact holds
  · obtain ⟨started, rfl⟩ := acts
    obtain ⟨silent, idle, received, loopCtx, answer⟩ := holds
    exact ⟨started, silent, idle, received, loopCtx, answer⟩
  · refine Waits.ite (fun holds => ?_) fun fails => ?_
    · subst holds
      exact runReady_waits.bind say_waits
    · obtain rfl := Bool.eq_false_iff.mpr fails
      exact runDegraded_waits.bind say_waits

/-! ## Run itself -/

/-- `err` is part of what is returned. -/
def Told (result : Option GoError) (err : GoError) : Prop :=
  ∃ whole, result = some whole ∧ err.Within whole

theorem Told.self (err : GoError) : Told (some err) err := ⟨err, rfl, .refl err⟩

theorem told_joined (result : Option GoError) (err : GoError) : Told (joined result err) err :=
  GoError.Within.join (List.mem_append_right _ (List.mem_singleton_self err))

theorem Told.joined {result : Option GoError} {err : GoError} (told : Told result err) (next : GoError) :
    Told (joined result next) err := by
  obtain ⟨whole, rfl, within⟩ := told
  obtain ⟨wider, joined, inside⟩ :=
    GoError.Within.join (List.mem_append_left [next] (List.mem_singleton_self whole))
  exact ⟨wider, joined, within.trans inside⟩

theorem joined_ne_none (result : Option GoError) (err : GoError) : joined result err ≠ none := by
  simp [Lifecycle.joined]

theorem told_foldl {err : GoError} :
    ∀ {errs : List GoError} {result : Option GoError}, Told result err ∨ err ∈ errs →
      Told (errs.foldl joined result) err := by
  intro errs
  induction errs with
  | nil => exact fun told => told.resolve_right List.not_mem_nil
  | cons head rest ih =>
      intro result told
      refine ih ?_
      rcases told with before | member
      · exact .inl (before.joined head)
      · rcases List.mem_cons.mp member with rfl | later
        · exact .inl (told_joined result err)
        · exact .inr later

theorem foldl_none :
    ∀ {errs : List GoError} {result : Option GoError}, errs.foldl joined result = none → result = none := by
  intro errs
  induction errs with
  | nil => exact fun none => none
  | cons head rest ih => exact fun none => absurd (ih none) (joined_ne_none _ head)

/-- What is known of the worker's result in `result`: it may only be left out for a server's. -/
def Explained (result : Option GoError) (w : World) : Prop :=
  ∀ e, ((), some e) ∈ w.runErrs.sent → Told result e ∨ (e.is .canceled = true ∧ w.serverErrs.sent ≠ [])

/-- Nothing is started. -/
structure Fresh (ready : Bool) (w : World) : Prop where
  worker : w.worker = none
  servers : ∀ s, w.servers s = false
  gate : w.health.gateReady = ready
  runCtx : w.runCtx = false
  received : w.runErrs.received = 0
  taken : w.serverErrs.received = 0

/-- Nothing is started, and the gate has been asked. -/
structure Gated (ready : Bool) (w : World) : Prop extends Fresh ready w where
  failed : ready = false → ∃ reason, w.gate = some (.notReady reason)

/-- Everything is started, and `Run` waits for the first to end. -/
structure Serving (w : World) : Prop where
  worker : w.worker ≠ none
  servers : ∀ s, w.servers s = true
  runCtx : w.runCtx = false
  received : w.runErrs.received = 0
  taken : w.serverErrs.received = 0

/-- A server ended first, with `err`. -/
structure ServerFirst (err : GoError) (w : World) : Prop where
  worker : w.worker ≠ none
  servers : ∀ s, w.servers s = true
  taken : w.serverErrs.received = 1
  got : ∃ s, w.serverErrs.sent[0]? = some (s, err)

/-- The worker has ended, and `result` covers what was received. -/
structure Covers (result : Option GoError) (w : World) : Prop where
  servers : ∀ s, w.servers s = true
  worked : w.runErrs.sent ≠ []
  clean : result = none → w.caller = true
  told : ∀ item ∈ w.serverErrs.sent.take w.serverErrs.received, Told result item.2
  explained : Explained result w

/-- What `Run` leaves behind. -/
structure Returned (result : Option GoError) (w : World) : Prop where
  served : (∀ s, w.servers s = false) ∨ ∀ s, w.done s = true
  worked : w.worker = none ∨ w.runErrs.sent ≠ []
  clean : result = none → w.caller = true
  told : ∀ item ∈ w.serverErrs.sent, Told result item.2
  explained : Explained result w

theorem Fresh.returned {ready : Bool} (inv : Inv settings w) (fresh : Fresh ready w) (err : GoError) :
    Returned (some err) w := by
  refine ⟨.inl fresh.servers, .inl fresh.worker, nofun, fun item member => ?_, fun e member => ?_⟩
  · have started := inv.served item.1 (Chan.mem_senders.mpr ⟨item.2, member⟩)
    rw [fresh.servers] at started
    cases started
  · exact absurd fresh.worker (inv.worked (List.ne_nil_of_mem member))

theorem fresh_kept (ready : Bool) : Kept settings .main (Fresh ready) := by
  rintro w w' - - - ⟨runCtx, servers, worker, -, gate, received, taken, -⟩ fresh
  exact ⟨worker.trans fresh.worker, fun s => servers ▸ fresh.servers s, gate.trans fresh.gate,
    runCtx.trans fresh.runCtx, received.trans fresh.received, taken.trans fresh.taken⟩

theorem gated_kept (ready : Bool) : Kept settings .main (Gated ready) :=
  fun w w' inv inv' grows own gated => ⟨fresh_kept ready w w' inv inv' grows own gated.toFresh,
    own.2.2.2.2.2.2.2.2.symm ▸ gated.failed⟩

theorem serving_kept : Kept settings .main Serving := by
  rintro w w' - - - ⟨runCtx, servers, worker, -, -, received, taken, -⟩ serving
  exact ⟨worker ▸ serving.worker, fun s => servers ▸ serving.servers s, runCtx.trans serving.runCtx,
    received.trans serving.received, taken.trans serving.taken⟩

theorem serverFirst_kept (err : GoError) : Kept settings .main (ServerFirst err) := by
  rintro w w' - - grows ⟨-, servers, worker, -, -, -, taken, -⟩ first
  obtain ⟨s, got⟩ := first.got
  exact ⟨worker ▸ first.worker, fun s => servers ▸ first.servers s, taken.trans first.taken,
    s, grown_getElem? grows.serverErrs got⟩

/-- The worker sends once. -/
theorem said_before (inv' : Inv settings w') (grows : Grows w w') (sent : w.runErrs.sent ≠ [])
    {e : Option GoError} (said : ((), e) ∈ w'.runErrs.sent) : ((), e) ∈ w.runErrs.sent := by
  obtain ⟨⟨_, e'⟩, before⟩ := List.exists_mem_of_ne_nil _ sent
  rwa [inv'.runOnce.unique said (grows.runErrs.subset before)]

theorem grown_ne_nil {β : Type} {before after : List β} (grows : before <+: after) (some : before ≠ []) :
    after ≠ [] :=
  fun empty => some (List.prefix_nil.mp (empty ▸ grows))

theorem explained_grows {result : Option GoError} (inv' : Inv settings w') (grows : Grows w w')
    (sent : w.runErrs.sent ≠ []) (explained : Explained result w) : Explained result w' :=
  fun e said => (explained e (said_before inv' grows sent said)).imp_right
    (And.imp_right (grown_ne_nil grows.serverErrs))

theorem covers_kept (result : Option GoError) : Kept settings .main (Covers result) := by
  rintro w w' inv inv' grows ⟨-, servers, -, -, -, -, taken, -⟩ covers
  refine ⟨fun s => servers ▸ covers.servers s, grown_ne_nil grows.runErrs covers.worked,
    fun none => grows.caller (covers.clean none), fun item member => covers.told item ?_,
    explained_grows inv' grows covers.worked covers.explained⟩
  obtain ⟨more, same⟩ := grows.serverErrs
  rwa [taken, ← same, List.take_append_of_le_length inv.taken] at member

theorem returned_kept (result : Option GoError) : Kept settings .main (Returned result) := by
  rintro w w' inv inv' grows ⟨-, servers, worker, -⟩ returned
  have same : w'.serverErrs.sent = w.serverErrs.sent := by
    rcases returned.served with none | all
    · have silent : ∀ {v : World}, Inv settings v → v.servers = w.servers → v.serverErrs.sent = [] := by
        intro v inv same
        refine List.eq_nil_iff_forall_not_mem.mpr fun item member => ?_
        have started := inv.served item.1 (Chan.mem_senders.mpr ⟨item.2, member⟩)
        rw [same, none] at started
        cases started
      rw [silent inv' servers, silent inv rfl]
    · exact grows.final all
  refine ⟨?_, ?_, fun none => grows.caller (returned.clean none), same ▸ returned.told, ?_⟩
  · exact returned.served.imp (fun none s => servers ▸ none s) fun all s => grows.done s (all s)
  · exact returned.worked.imp worker.trans (grown_ne_nil grows.runErrs)
  · rcases returned.worked with none | sent
    · have silent := mt inv'.worked (not_not_intro (worker.trans none))
      intro e said
      exact absurd (List.ne_nil_of_mem said) silent
    · exact explained_grows inv' grows sent returned.explained

/-- The worker's `err` is all there is to say of it. -/
theorem explained_of (inv : Inv settings w) {err result : Option GoError} (said : ((), err) ∈ w.runErrs.sent)
    (told : ∀ e, err = some e → Told result e ∨ (e.is .canceled = true ∧ w.serverErrs.sent ≠ [])) :
    Explained result w :=
  fun e sent => told e (inv.runOnce.unique said sent)

theorem ServerFirst.failed {err : GoError} (first : ServerFirst err w) : w.serverErrs.sent ≠ [] := by
  obtain ⟨s, got⟩ := first.got
  exact List.ne_nil_of_mem (List.mem_of_getElem? got)

/-- The server's error and the worker's make up the result. -/
theorem ServerFirst.covers {err : GoError} {workerErr result : Option GoError} (inv : Inv settings w)
    (first : ServerFirst err w) (said : ((), workerErr) ∈ w.runErrs.sent) (told : Told result err)
    (explained : ∀ e, workerErr = some e → Told result e ∨ e.is .canceled = true) : Covers result w := by
  obtain ⟨s, got⟩ := first.got
  refine ⟨first.servers, List.ne_nil_of_mem said, fun none => ?_, fun item member => ?_,
    explained_of inv said fun e is => (explained e is).imp_right fun canceled => ⟨canceled, first.failed⟩⟩
  · obtain ⟨whole, some, -⟩ := told
    rw [none] at some
    cases some
  · rw [first.taken] at member
    obtain ⟨i, bound, rfl⟩ := List.mem_take_iff_getElem.mp member
    obtain rfl : i = 0 := by omega
    have here := Option.some.inj ((List.getElem?_eq_getElem (by omega)).symm.trans got)
    rwa [here]

/-- The worker ended first. -/
theorem Serving.covers {err : Option GoError} (inv : Inv settings w) (serving : Serving w)
    (said : ((), err) ∈ w.runErrs.sent) : Covers err w := by
  refine ⟨serving.servers, List.ne_nil_of_mem said, fun none => ?_, fun item member => ?_,
    explained_of inv said fun e is => .inl (is ▸ Told.self e)⟩
  · have ends := inv.runStops (none ▸ said)
    simpa [World.ctxDone, serving.runCtx] using ends
  · rw [serving.taken] at member
    cases member

/-- What came first. -/
def Selected : Option GoError ⊕ GoError → World → Prop
  | .inl err, w => Covers err w
  | .inr err, w => ServerFirst err w ∧ w.runErrs.received = 0

theorem awaitFirst_waits : Stands settings .main Serving awaitFirst Covers := by
  refine Stands.bind (R := Selected)
    (asks rfl serving_kept (fun w _ serving => ⟨serving.worker, serving.received, serving.taken⟩)
      fun w first w' inv _ serving acts => ?_) fun first => ?_
  · cases first with
    | inl err =>
        obtain ⟨next, rfl⟩ := acts
        exact { serving.covers inv (Chan.mem_of_first next) with }
    | inr err =>
        obtain ⟨⟨s, next⟩, rfl⟩ := acts
        have got := Chan.first_index next
        rw [serving.taken] at got
        exact ⟨⟨serving.worker, serving.servers, congrArg (· + 1) serving.taken, s, got⟩, serving.received⟩
  cases first with
  | inl err => exact .pure fun _ => id
  | inr err =>
      have first : Kept settings .main fun w => ServerFirst err w ∧ w.runErrs.received = 0 :=
        fun w w' inv inv' grows own holds => ⟨serverFirst_kept err w w' inv inv' grows own holds.1,
          own.2.2.2.2.2.1.trans holds.2⟩
      have cancelled : Kept settings .main fun w =>
          (ServerFirst err w ∧ w.runErrs.received = 0) ∧ w.runCtx = true :=
        fun w w' inv inv' grows own holds => ⟨first w w' inv inv' grows own holds.1, grows.runCtx holds.2⟩
      refine Stands.bind (R := fun _ w => (ServerFirst err w ∧ w.runErrs.received = 0) ∧ w.runCtx = true)
        (asks rfl first (fun _ _ _ => trivial) fun w _ w' _ _ holds acts => ?_) fun _ => ?_
      · obtain rfl := acts
        exact ⟨⟨{ holds.1 with }, holds.2⟩, rfl⟩
      refine Stands.bind (R := fun workerErr w => ServerFirst err w ∧ ((), workerErr) ∈ w.runErrs.sent)
        (asks rfl cancelled (fun w _ holds => ⟨holds.1.1.worker, holds.1.2, holds.2⟩)
          fun w workerErr w' _ _ holds acts => ?_) fun workerErr => ?_
      · obtain ⟨next, rfl⟩ := acts
        have said : ((), workerErr) ∈ w.runErrs.sent := Chan.mem_of_first next
        exact ⟨{ holds.1.1 with }, said⟩
      · cases workerErr with
        | none => exact .pure fun w ⟨inv, first, said⟩ =>
            ⟨inv, first.covers inv said (.self err) (by simp)⟩
        | some workerErr =>
            refine Waits.ite (fun canceled => ?_) fun _ => ?_
            · refine .pure fun w ⟨inv, first, said⟩ => ⟨inv, first.covers inv said (.self err) fun e is => ?_⟩
              exact .inr (Option.some.inj is ▸ canceled)
            · refine .pure fun w ⟨inv, first, said⟩ =>
                ⟨inv, first.covers inv said ((Told.self err).joined workerErr) fun e is => ?_⟩
              exact .inl (Option.some.inj is ▸ told_joined (some err) workerErr)

theorem Covers.joined {result : Option GoError} (covers : Covers result w) (err : GoError) :
    Covers (joined result err) w where
  servers := covers.servers
  worked := covers.worked
  clean none := absurd none (joined_ne_none result err)
  told item member := (covers.told item member).joined err
  explained e said := (covers.explained e said).imp_left fun told => told.joined err

/-- These were shut down. -/
def Closing (result : Option GoError) (closing : List Server) (w : World) : Prop :=
  Covers result w ∧ ∀ s ∈ closing, w.stopped s = true

theorem closing_kept (result : Option GoError) (closing : List Server) :
    Kept settings .main (Closing result closing) :=
  fun w w' inv inv' grows own holds =>
    ⟨covers_kept result w w' inv inv' grows own holds.1, fun s member => grows.stopped s (holds.2 s member)⟩

theorem shutdown_waits (s : Server) (result : Option GoError) (closing : List Server) :
    Stands settings .main (Closing result closing) (shutdown s result)
      fun result w => Closing result (s :: closing) w := by
  refine Stands.bind (R := fun _ w => Closing result (s :: closing) w)
    (asks rfl (closing_kept result closing) (fun _ _ _ => trivial) fun w _ w' _ _ holds acts => ?_) fun err => ?_
  · obtain rfl := acts
    refine ⟨{ holds.1 with }, fun s' member => ?_⟩
    rcases List.mem_cons.mp member with rfl | before
    · exact update_here w.stopped s'
    · exact update_grows (i := s) s' (holds.2 s' before)
  · cases err with
    | none => exact .pure fun _ => id
    | some err => exact .pure fun w ⟨inv, covers, stopped⟩ => ⟨inv, covers.joined _, stopped⟩

theorem finish_waits : Stands settings .main Serving finish Returned := by
  refine Stands.bind awaitFirst_waits fun result => ?_
  refine Stands.bind (R := fun _ w => Closing result [] w)
    (asks rfl (covers_kept result) (fun _ _ _ => trivial) fun w _ w' _ _ covers acts => ?_) fun _ => ?_
  · obtain rfl := acts
    exact ⟨{ covers with }, nofun⟩
  refine Stands.bind (shutdown_waits .metrics result []) fun result => ?_
  refine Stands.bind (shutdown_waits .health result [.metrics]) fun result => ?_
  have stopped (result : Option GoError) : Kept settings .main fun w => Covers result w ∧ ∀ s, w.done s = true :=
    fun w w' inv inv' grows own holds =>
      ⟨covers_kept result w w' inv inv' grows own holds.1, fun s => grows.done s (holds.2 s)⟩
  refine Stands.bind (R := fun _ w => Covers result w ∧ ∀ s, w.done s = true)
    (asks rfl (closing_kept _ _) (fun w _ holds s => ⟨holds.1.servers s, ?_⟩)
      fun w _ w' _ _ holds acts => ?_) fun _ => ?_
  · exact holds.2 s (by cases s <;> simp)
  · obtain ⟨joined, rfl⟩ := acts
    exact ⟨holds.1, fun s => joined s (holds.1.servers s)⟩
  refine Stands.bind (R := fun _ w => (Covers result w ∧ ∀ s, w.done s = true) ∧ w.serverErrsClosed = true)
    (asks rfl (stopped result) (fun _ _ holds => holds.2) fun w _ w' _ _ holds acts => ?_) fun _ => ?_
  · obtain rfl := acts
    exact ⟨⟨{ holds.1 with }, holds.2⟩, rfl⟩
  refine Stands.bind (R := fun errs w => Returned (errs.foldl joined result) w)
    (asks rfl ?_ (fun _ _ holds => holds.2) fun w errs w' _ _ holds acts => ?_) fun errs => .pure fun _ => id
  · exact fun w w' inv inv' grows own holds =>
      ⟨stopped result w w' inv inv' grows own holds.1, own.2.2.2.2.2.2.2.1.trans holds.2⟩
  · obtain ⟨⟨covers, done⟩, -⟩ := holds
    obtain ⟨-, rfl, rfl⟩ := acts
    refine ⟨.inr done, .inr covers.worked, fun none => covers.clean (foldl_none none), fun item member => ?_,
      fun e said => (covers.explained e said).imp_left fun told => told_foldl (.inl told)⟩
    have sent : item ∈ w.serverErrs.sent := member
    rw [← List.take_append_drop w.serverErrs.received w.serverErrs.sent] at sent
    rcases List.mem_append.mp sent with before | later
    · exact told_foldl (.inl (covers.told item before))
    · exact told_foldl (.inr (List.mem_map_of_mem later))

/-- These are served already, and nothing else is started. -/
structure Listening (ready : Bool) (serving : List Server) (w : World) : Prop where
  worker : w.worker = none
  servers : ∀ s ∈ serving, w.servers s = true
  gate : w.health.gateReady = ready
  failed : ready = false → ∃ reason, w.gate = some (.notReady reason)
  runCtx : w.runCtx = false
  received : w.runErrs.received = 0
  taken : w.serverErrs.received = 0

theorem listening_kept (ready : Bool) (serving : List Server) :
    Kept settings .main (Listening ready serving) := by
  rintro w w' - - - ⟨runCtx, servers, worker, -, gate, received, taken, -, answer⟩ listening
  exact ⟨worker.trans listening.worker, fun s member => servers ▸ listening.servers s member,
    gate.trans listening.gate, answer.symm ▸ listening.failed, runCtx.trans listening.runCtx,
    received.trans listening.received, taken.trans listening.taken⟩

theorem serve_waits (ready : Bool) (s : Server) (serving : List Server) :
    Stands settings .main (Listening ready serving) (calls (.serve s))
      fun _ w => Listening ready (s :: serving) w := by
  refine asks rfl (listening_kept ready serving) (fun _ _ _ => trivial) fun w _ w' _ _ listening acts => ?_
  obtain rfl := acts
  refine { listening with servers := fun s' member => ?_ }
  rcases List.mem_cons.mp member with rfl | before
  · exact update_here w.servers s'
  · exact update_grows (i := s) s' (listening.servers s' before)

theorem serveAll_waits (ready : Bool) :
    Stands settings .main (Gated ready) (serveAll ready) Returned := by
  have passes {r : Request} (own : owner r = .main) (free : ∀ w, Known settings w r)
      (same : ∀ w answer w', act settings w r answer w' → w' = w) :
      Stands settings .main (Gated ready) (calls r) fun _ w => Gated ready w :=
    asks own (gated_kept ready) (fun w _ _ => free w) fun w answer w' _ _ gated acts =>
      (same w answer w' acts) ▸ gated
  refine Stands.bind (passes rfl (fun _ => trivial) fun _ _ _ => id) fun err => ?_
  cases err with
  | some err => exact .pure fun w ⟨inv, gated⟩ => ⟨inv, gated.returned inv _⟩
  | none =>
  refine Stands.bind (passes rfl (fun _ => trivial) fun _ _ _ => id) fun err => ?_
  cases err with
  | some err =>
      refine Stands.bind (passes rfl (fun _ => trivial) fun _ _ _ => id) fun _ => ?_
      exact .pure fun w ⟨inv, gated⟩ => ⟨inv, gated.returned inv _⟩
  | none =>
  refine Stands.bind ((serve_waits ready .metrics []).pre fun w ⟨inv, gated⟩ => ⟨inv, { gated with servers := nofun }⟩)
    fun _ => Stands.bind (serve_waits ready .health [.metrics]) fun _ => ?_
  refine Stands.bind (R := fun _ w => Serving w)
    (asks rfl (listening_kept ready _) (fun _ _ listening => ⟨listening.worker, listening.gate, listening.failed⟩)
      fun w _ w' _ _ listening acts => ?_) fun _ => finish_waits
  obtain rfl := acts
  exact ⟨Option.some_ne_none ready, fun s => listening.servers s (by cases s <;> simp), listening.runCtx,
    listening.received, listening.taken⟩

/-- Nothing is started, and the gate has answered `result`. -/
structure Asked (result : Option GateResult) (w : World) : Prop extends Fresh false w where
  unset : w.gateInfo = none
  answer : ∀ decision, result = some decision → w.gate = some decision

theorem asked_kept (result : Option GateResult) : Kept settings .main (Asked result) := by
  intro w w' inv inv' grows own asked
  refine ⟨fresh_kept false w w' inv inv' grows own asked.toFresh, own.2.2.2.1.trans asked.unset, ?_⟩
  exact own.2.2.2.2.2.2.2.2.symm ▸ asked.answer

/-- Once the gate is decided. -/
theorem gated_waits (result : GateResult) (decided : ∀ err, result ≠ .failed err) :
    Stands settings .main (Asked (some result))
      (do
        calls (.setGateResult (gateReady result) (gateReason result))
        if !gateReady result then calls (.environmentGateInfo settings.nodeName (gateReason result))
        match (← calls .newInformer : Option OsError) with
        | some err => return some (err.err.wrap "agent: informer")
        | none => serveAll (gateReady result)) Returned := by
  have fails : gateReady result = false → result = .notReady (gateReason result) := by
    cases result with
    | ready driver => exact nofun
    | notReady reason => exact fun _ => rfl
    | failed err => exact absurd rfl (decided err)
  have answered : Kept settings .main fun w => Gated (gateReady result) w ∧ w.gate = some result :=
    fun w w' inv inv' grows own holds => ⟨gated_kept _ w w' inv inv' grows own holds.1,
      own.2.2.2.2.2.2.2.2.trans holds.2⟩
  have rest : Stands settings .main (Gated (gateReady result))
      (do
        match (← calls .newInformer : Option OsError) with
        | some err => return some (err.err.wrap "agent: informer")
        | none => serveAll (gateReady result)) Returned := by
    refine Stands.bind (R := fun _ w => Gated (gateReady result) w)
      (asks rfl (gated_kept _) (fun _ _ _ => trivial) fun w _ w' _ _ gated acts => ?_) fun err => ?_
    · obtain rfl := acts
      exact gated
    · cases err with
      | some err => exact .pure fun w ⟨inv, gated⟩ => ⟨inv, gated.returned inv _⟩
      | none => exact serveAll_waits _
  refine Stands.bind (R := fun _ w => Gated (gateReady result) w ∧ w.gate = some result)
    (asks rfl (asked_kept (some result)) (fun w _ asked => ⟨asked.worker, asked.unset, result, asked.answer _ rfl, rfl⟩)
      fun w _ w' _ _ asked acts => ?_) fun _ => ?_
  · obtain rfl := acts
    have answer := asked.answer result rfl
    exact ⟨⟨{ asked.toFresh with gate := rfl }, fun failed => ⟨_, answer.trans (congrArg some (fails failed))⟩⟩, answer⟩
  · refine Waits.ite (fun failed => ?_) fun _ => rest.pre fun w ⟨inv, gated, _⟩ => ⟨inv, gated⟩
    refine Stands.bind (R := fun _ w => Gated (gateReady result) w)
      (asks rfl answered (fun w _ holds => ?_) fun w _ w' _ _ holds acts => ?_) fun _ => rest
    · exact holds.2.trans (congrArg some (fails ((Bool.not_eq_true' _).mp failed)))
    · obtain rfl := acts
      exact { holds.1 with }

theorem run_waits : Stands settings .main (Asked none) (run settings) Returned := by
  have fails (asked : Option GateResult) (err : GoError) : Stands settings .main (Asked asked)
      (Pure.pure (some err)) Returned :=
    .pure fun w ⟨inv, fresh⟩ => ⟨inv, fresh.returned inv err⟩
  refine Waits.ite (fun _ => fails _ _) fun _ => Waits.ite (fun _ => fails _ _) fun _ => ?_
  refine Stands.bind (R := fun result w => Asked (some result) w)
    (asks rfl (asked_kept none) (fun _ _ asked => ⟨asked.worker, asked.unset, asked.gate⟩)
      fun w result w' _ _ asked acts => ?_) fun result => ?_
  · obtain rfl := acts
    exact { asked with answer := fun _ same => same }
  · cases result with
    | failed err => exact fails _ _
    | ready driver => exact gated_waits (.ready driver) nofun
    | notReady reason => exact gated_waits (.notReady reason) nofun

end

end Lifecycle

end CpuIdle.Agent
