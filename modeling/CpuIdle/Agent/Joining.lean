/-
# Agent.Joining — whatever ends first, Run ends everything

Every interleaving of the goroutines of `Run`. A send never blocks and nothing is sent on a closed
channel; who is waited for is on its way; who was started is done when `Run` returns.

* `composes` — the goroutines together;
* `waits` — a goroutine on its way out goes on, or waits for one below it that is on its way out;
* `lifecycle_returns`, `lifecycle_joins` — the way out; `lifecycle_sends` — the channels;
* `lifecycle_errors` — what `Run` returns; `lifecycle_readiness` — the way in.
-/
import CpuIdle.Agent.Goroutines

namespace CpuIdle.Agent

open CpuIdle.Go CpuIdle.Node CpuIdle.Theory

set_option autoImplicit false

namespace Lifecycle

section

variable {settings : Settings} {w : World}

/-! ## All of them -/

/-- What a goroutine leaves behind. -/
def Finished : Goroutine → Option GoError → World → Prop
  | .main, result, w => Returned result w
  | .worker, _, w => Worked w
  | .looper l, _, w => l ∈ w.loopResults.senders
  | .server s, _, w => w.done s = true

theorem finished_kept (g : Goroutine) (result : Option GoError) : Kept settings g (Finished g result) := by
  rcases g with _ | _ | l | s
  · exact returned_kept result
  · exact worked_kept
  · exact fun _ _ _ _ _ own sent => own.1.mpr sent
  · exact fun _ _ _ _ _ own done => own.1.trans done

theorem inv_start : Inv settings World.start where
  gate := nofun
  passed := nofun
  failed := nofun
  info := nofun
  synced := nofun
  looped := nofun
  served := nofun
  broke := nofun
  informed := fun answered => absurd rfl answered
  answered := fun _ answered => absurd rfl answered
  said := nofun
  worked := fun sent => absurd rfl sent
  launched := nofun
  serverOnce := Chan.once_made
  runOnce := Chan.once_made
  loopOnce := Chan.once_made
  taken := le_refl _
  runStops := nofun
  loopStops := nofun
  closed := nofun

theorem composes (settings : Settings) :
    Pool.Composes (arena settings) (Inv settings) (Knows settings)
      (fun g result w => Inv settings w ∧ Finished g result w) (goroutines settings) World.start where
  initially := inv_start
  rely _ _ inv moves := inv_others inv moves
  act _ _ _ _ _ inv known acts := inv_act inv known.2 acts
  stable g result := (finished_kept g result).stable
  thread g := by
    rcases g with _ | _ | l | s
    · exact run_waits World.start ⟨inv_start, ⟨rfl, fun _ => rfl, rfl, rfl, rfl, rfl⟩, rfl, nofun⟩
    · exact worker_waits World.start ⟨inv_start, rfl, fun _ => rfl, rfl, rfl, rfl⟩
    · exact looper_waits l World.start ⟨inv_start, nofun⟩
    · exact server_waits s World.start ⟨inv_start, rfl, nofun⟩

/-! ## Nobody waits in vain -/

/-- Something has come to an end: the caller's context, a server, a loop, or the worker. -/
def Ending (w : World) : Prop :=
  w.caller = true ∨ w.serverErrs.sent ≠ [] ∨ w.loopResults.sent ≠ [] ∨ w.runErrs.sent ≠ []

/-- It is on its way out. -/
def Leaving : Goroutine → World → Prop
  | .main, w => Ending w
  | .worker, w => w.worker ≠ none ∧ (w.ctxDone .run = true ∨ w.loopResults.sent ≠ [])
  | .looper l, w => w.loopers l = true ∧ w.ctxDone .loop = true
  | .server s, w => w.servers s = true ∧ w.stopped s = true

/-- Who waits for whom. -/
def rank : Goroutine → Nat
  | .main => 2
  | .worker => 1
  | .looper _ | .server _ => 0

/-- What is sure to come: not a server's failure, nor the cache's sync. -/
def Sure : (r : Request) → Answer r → Prop
  | .serveHTTP _, .failed _ => False
  | .informerStart, true => False
  | _, _ => True

theorem ctxDone_loop (done : w.ctxDone .run = true) : w.ctxDone .loop = true := by
  simp only [World.ctxDone] at done ⊢
  simp [done]

/-- Whoever waits for the worker's result can have it, or the worker is on its way. -/
theorem worker_owes (received : w.runErrs.received = 0) (started : w.worker ≠ none)
    (ending : w.runErrs.sent = [] → w.ctxDone .run = true ∨ w.loopResults.sent ≠ []) :
    (∃ err, w.runErrs.first = some ((), err)) ∨
      Leaving .worker w ∧ ∀ value, ¬(Inv settings w ∧ Finished .worker value w) := by
  by_cases sent : w.runErrs.sent = []
  · exact .inr ⟨⟨started, ending sent⟩, fun _ finished => finished.2.sent sent⟩
  · have behind : w.runErrs.received < w.runErrs.sent.length := by
      rw [received]
      exact List.length_pos_of_ne_nil sent
    obtain ⟨item, next⟩ := Chan.first_isSome behind
    exact .inl ⟨item.2, next⟩

/-- Whoever waits for a loop's result can have it, or a loop is on its way. -/
theorem looper_owes (launched : ∀ l, w.loopers l = true)
    (owed : w.loopResults.received = 0 ∨ w.loopResults.received = 1 ∧ w.loopCtx = true)
    (ending : w.ctxDone .run = true ∨ w.loopResults.sent ≠ []) :
    (∃ result, w.loopResults.first = some result) ∨
      ∃ l, Leaving (.looper l) w ∧ ∀ value, ¬(Inv settings w ∧ Finished (.looper l) value w) := by
  by_cases behind : w.loopResults.received < w.loopResults.sent.length
  · exact .inl (Chan.first_isSome behind)
  refine .inr ?_
  rcases owed with none | ⟨one, cancelled⟩
  · have silent : w.loopResults.sent = [] := List.eq_nil_of_length_eq_zero (by omega)
    have ends := ctxDone_loop (ending.resolve_right (not_not_intro silent))
    exact ⟨.guard, ⟨launched _, ends⟩, fun _ finished => by simp [Finished, Chan.senders, silent] at finished⟩
  · have ends : w.ctxDone .loop = true := by simp [World.ctxDone, cancelled]
    by_contra all
    have sent (l : Looper) : l ∈ w.loopResults.senders := by
      by_contra fresh
      exact all ⟨l, ⟨launched l, ends⟩, fun _ finished => fresh finished.2⟩
    have both : [Looper.guard, Looper.informer] ⊆ w.loopResults.senders := fun l _ => sent l
    have count := (List.subperm_of_subset (by decide) both).length_le
    simp only [Chan.senders, List.length_map, List.length_cons, List.length_nil] at count
    omega

theorem waits {g : Goroutine} {r : Request} (inv : Inv settings w) (knows : Knows settings g w r)
    (leaving : Leaving g w) :
    (∃ answer w', act settings w r answer w' ∧ Sure r answer) ∨
      ∃ g', rank g' < rank g ∧ Leaving g' w ∧ ∀ value, ¬(Inv settings w ∧ Finished g' value w) := by
  obtain ⟨own, known⟩ := knows
  subst own
  cases r with
  | gateCheck => exact .inl ⟨GateResult.notReady "", _, rfl, trivial⟩
  | newInformer | listen | shutdown | recover => exact .inl ⟨none, _, rfl, trivial⟩
  | select =>
      obtain ⟨started, received, taken⟩ := known
      by_cases failed : w.serverErrs.sent = []
      · have ends (silent : w.runErrs.sent = []) : w.ctxDone .run = true ∨ w.loopResults.sent ≠ [] := by
          rcases leaving with caller | server | loop | worker
          · exact .inl (by simp [World.ctxDone, caller])
          · exact absurd failed server
          · exact .inr loop
          · exact absurd silent worker
        rcases worker_owes received started ends with ⟨err, next⟩ | ⟨leaves, unfinished⟩
        · exact .inl ⟨.inl err, _, ⟨next, rfl⟩, trivial⟩
        · exact .inr ⟨.worker, by decide, leaves, unfinished⟩
      · have behind : w.serverErrs.received < w.serverErrs.sent.length := by
          rw [taken]
          exact List.length_pos_of_ne_nil failed
        obtain ⟨item, next⟩ := Chan.first_isSome behind
        exact .inl ⟨.inr item.2, _, ⟨⟨item.1, next⟩, rfl⟩, trivial⟩
  | receiveRun =>
      obtain ⟨started, received, cancelled⟩ := known
      have ends : w.ctxDone .run = true := by simp [World.ctxDone, cancelled]
      rcases worker_owes received started (fun _ => .inl ends) with ⟨err, next⟩ | ⟨leaves, unfinished⟩
      · exact .inl ⟨err, _, ⟨next, rfl⟩, trivial⟩
      · exact .inr ⟨.worker, by decide, leaves, unfinished⟩
  | waitServers =>
      by_cases joined : ∀ s, w.done s = true
      · exact .inl ⟨(), w, ⟨fun s _ => joined s, rfl⟩, trivial⟩
      · obtain ⟨s, busy⟩ := not_forall.mp joined
        exact .inr ⟨.server s, Nat.two_pos, known s, fun _ finished => busy finished.2⟩
  | rangeServerErrs => exact .inl ⟨_, _, ⟨known, rfl, rfl⟩, trivial⟩
  | workerStarts =>
      obtain ⟨ready, started⟩ := Option.ne_none_iff_exists'.mp leaving.1
      exact .inl ⟨ready, w, ⟨started, rfl⟩, trivial⟩
  | informerStart =>
      have ends := leaving.2.resolve_right (not_not_intro known.2)
      exact .inl ⟨false, _, ⟨fun _ => ends, rfl⟩, trivial⟩
  | ctxErr => exact .inl ⟨_, w, ⟨rfl, rfl⟩, trivial⟩
  | receiveLoop =>
      rcases looper_owes known.2.1 known.2.2 leaving.2 with ⟨result, next⟩ | ⟨l, leaves, unfinished⟩
      · exact .inl ⟨result, _, ⟨next, rfl⟩, trivial⟩
      · exact .inr ⟨.looper l, Nat.one_pos, leaves, unfinished⟩
  | sendRun err =>
      have fresh : () ∉ w.runErrs.senders := by simp [Chan.senders, known.1.2]
      exact .inl ⟨(), _, ⟨Chan.room_of_once inv.runOnce fresh, rfl⟩, trivial⟩
  | looperStarts l => exact .inl ⟨(), w, ⟨leaving.1, rfl⟩, trivial⟩
  | guardRun =>
      by_cases refused : settings.guardPeriod ≤ 0
      · exact .inl ⟨some (.new "guard: sampling period must be positive"), _, ⟨by simp [refused], rfl⟩, trivial⟩
      · exact .inl ⟨none, _, ⟨by simpa [refused] using leaving.2, rfl⟩, trivial⟩
  | informerRun ctx reconcile =>
      cases ctx with
      | run => exact .inl ⟨none, _, ⟨leaving.2.resolve_right (not_not_intro known.2.1), rfl⟩, trivial⟩
      | loop => exact .inl ⟨none, _, ⟨leaving.2, rfl⟩, trivial⟩
  | sendLoop l err => exact .inl ⟨(), _, ⟨Chan.room_of_once inv.loopOnce known.1, rfl⟩, trivial⟩
  | serverStarts s => exact .inl ⟨(), w, ⟨leaving.1, rfl⟩, trivial⟩
  | serveHTTP s => exact .inl ⟨.closed, _, ⟨fun _ => leaving.2, rfl⟩, trivial⟩
  | sendServer s err => exact .inl ⟨(), _, ⟨Chan.room_of_once inv.serverOnce known.2.1, rfl⟩, trivial⟩
  | _ => exact .inl ⟨(), _, rfl, trivial⟩

/-! ## The runs of Run -/

/-- The goroutines and what they share. -/
abbrev Agents := Pool.State lifecycleSignature World (Option GoError) Goroutine

/-- From before `Run` is called, in any interleaving. -/
def Reached (settings : Settings) (s : Agents) : Prop :=
  Pool.Reaches (arena settings) (goroutines settings) World.start s

/-- `Run` is; the others once `Run`, or the worker, has started them. -/
def Started : Goroutine → World → Prop
  | .main, _ => True
  | .worker, w => w.worker ≠ none
  | .looper l, w => w.loopers l = true
  | .server s, w => w.servers s = true

def Over (s : Agents) (g : Goroutine) : Prop := ∃ value, (s.1 g).rest = .done value

/-- All that was started is over. -/
def AllOver (s : Agents) : Prop := ∀ g, Started g s.2 → Over s g

/-! ### One of them -/

/-- The metrics server's listener breaks, once it serves. -/
def replies : (r : Request) → World → Option (Answer r × World)
  | .gateCheck, w => some (GateResult.ready .cgroupfs, { w with gate := some (.ready .cgroupfs) })
  | .setGateResult ready reason, w => some ((), { w with health := w.health.setGateResult ready reason })
  | .serve s, w => some ((), { w with servers := Function.update w.servers s true })
  | .goWorker ready, w => some ((), { w with worker := some ready })
  | .select, w => w.serverErrs.first.map fun item =>
      (Sum.inr item.2, { w with serverErrs := w.serverErrs.receive })
  | .cancelRun, w => some ((), { w with runCtx := true })
  | .receiveRun, w => w.runErrs.first.map fun item => (item.2, { w with runErrs := w.runErrs.receive })
  | .shutdown s, w => some (none, { w with stopped := Function.update w.stopped s true })
  | .newInformer, w | .listen _, w => some (none, w)
  | .waitServers, w => if ∀ s, w.servers s = true → w.done s = true then some ((), w) else none
  | .closeServerErrs, w => some ((), { w with serverErrsClosed := true })
  | .rangeServerErrs, w => if w.serverErrsClosed then
      some (w.serverErrs.rest, { w with serverErrs := w.serverErrs.drained }) else none
  | .workerStarts, w => w.worker.map fun ready => (ready, w)
  | .informerStart, w => some (true, { w with cacheSynced := true })
  | .recover, w => some (none, { w with recovered := true })
  | .setSynced synced, w => some ((), { w with health := w.health.setSynced synced })
  | .goLooper l, w => some ((), { w with loopers := Function.update w.loopers l true })
  | .receiveLoop, w => w.loopResults.first.map fun result =>
      (result, { w with loopResults := w.loopResults.receive })
  | .cancelLoops, w => some ((), { w with loopCtx := true })
  | .sendRun err, w => if w.runErrs.buffered.length < 1 then
      some ((), { w with runErrs := w.runErrs.send () err }) else none
  | .looperStarts l, w => if w.loopers l then some ((), w) else none
  | .guardRun, w => if w.ctxDone .loop then
      some (none, { w with loopAnswer := Function.update w.loopAnswer .guard (some none) }) else none
  | .informerRun .loop _, w => if w.ctxDone .loop then
      some (none, { w with loopAnswer := Function.update w.loopAnswer .informer (some none) }) else none
  | .sendLoop l err, w => if w.loopResults.buffered.length < 2 then
      some ((), { w with loopResults := w.loopResults.send l err }) else none
  | .serverStarts s, w => if w.servers s then some ((), w) else none
  | .serveHTTP .metrics, w =>
      let broken : OsError := ⟨"accept tcp [::]:9090: use of closed file", false⟩
      some (.failed broken, { w with serverAnswer := Function.update w.serverAnswer .metrics (some (.failed broken)) })
  | .serveHTTP .health, w => if w.stopped .health then
      some (.closed, { w with serverAnswer := Function.update w.serverAnswer .health (some .closed) }) else none
  | .sendServer s err, w => if w.serverErrs.buffered.length < 2 then
      some ((), { w with serverErrs := w.serverErrs.send s err }) else none
  | .serverDone s, w => some ((), { w with done := Function.update w.done s true })
  | _, _ => none

def guarded : Settings := ⟨true, "node-1", true, 1000000000⟩

def schedule : List Goroutine :=
  List.replicate 8 Goroutine.main ++ List.replicate 6 Goroutine.worker ++
  ([.looper .guard, .looper .informer, .server .health] : List Goroutine) ++
  List.replicate 4 (Goroutine.server .metrics) ++
  ([.main, .main, .looper .guard, .looper .guard, .worker, .worker, .looper .informer,
    .looper .informer] : List Goroutine) ++
  ([.worker, .worker, .main, .main, .main, .main, .server .health, .server .health, .main, .main,
    .main] : List Goroutine)

/-- After so many steps. -/
def played (steps : Nat) : Option Agents :=
  Pool.play replies (schedule.take steps) (Pool.start (goroutines guarded), World.start)

theorem replies_act (r : Request) (w : World) (answer : Answer r) (w' : World)
    (reply : replies r w = some (answer, w')) : act guarded w r answer w' := by
  cases r with
  | gateCheck | setGateResult | serve | goWorker | cancelRun | shutdown | newInformer | listen |
    closeServerErrs | setSynced | goLooper | cancelLoops | serverDone => cases reply; rfl
  | informerStart => cases reply; simp [act]
  | recover => cases reply; simp [act]
  | select =>
      obtain ⟨item, next, same⟩ := Option.map_eq_some_iff.mp reply
      cases same
      exact ⟨⟨item.1, next⟩, rfl⟩
  | receiveRun | receiveLoop | workerStarts =>
      obtain ⟨item, next, same⟩ := Option.map_eq_some_iff.mp reply
      cases same
      exact ⟨next, rfl⟩
  | serveHTTP s =>
      cases s with
      | metrics => cases reply; exact ⟨nofun, rfl⟩
      | health =>
          obtain ⟨stopped, same⟩ := Option.ite_none_right_eq_some.mp reply
          cases same
          exact ⟨fun _ => stopped, rfl⟩
  | guardRun =>
      obtain ⟨ends, same⟩ := Option.ite_none_right_eq_some.mp reply
      cases same
      exact ⟨⟨rfl, ends⟩, rfl⟩
  | informerRun ctx reconcile =>
      cases ctx with
      | run => cases reply
      | loop =>
          obtain ⟨ends, same⟩ := Option.ite_none_right_eq_some.mp reply
          cases same
          exact ⟨ends, rfl⟩
  | rangeServerErrs =>
      obtain ⟨closed, same⟩ := Option.ite_none_right_eq_some.mp reply
      cases same
      exact ⟨closed, rfl, rfl⟩
  | waitServers | sendRun | looperStarts | sendLoop | serverStarts | sendServer =>
      obtain ⟨may, same⟩ := Option.ite_none_right_eq_some.mp reply
      cases same
      exact ⟨may, rfl⟩
  | _ => cases reply

theorem played_reached {steps : Nat} {s : Agents} (run : played steps = some s) : Reached guarded s :=
  Pool.play_reaches replies_act run .refl

def isOver {α : Type} : Routine α → Bool
  | .done _ => true
  | .ask _ _ => false

theorem over_of_isOver {s : Agents} {g : Goroutine} (gone : isOver (s.1 g).rest = true) : Over s g := by
  unfold Over
  cases rest : (s.1 g).rest with
  | done value => exact ⟨value, rfl⟩
  | ask r next => simp [rest, isOver] at gone

/-- A run of the sample, and what a look at it shows. -/
theorem played_such (steps : Nat) (test : Agents → Bool) (shown : (played steps).any test = true) :
    ∃ s, Reached guarded s ∧ test s = true := by
  obtain ⟨s, run, holds⟩ := (Option.any_eq_true ..).mp shown
  exact ⟨s, played_reached run, holds⟩

variable {s : Agents}

theorem reached_inv (run : Reached settings s) : Inv settings s.2 :=
  (Pool.poised (composes settings) run).1

/-- Who has done its part asks nothing more. -/
theorem over_of_silent {g : Goroutine} (run : Reached settings s)
    (silent : ∀ r, ¬Knows settings g s.2 r) : Over s g := by
  cases rest : (s.1 g).rest with
  | done value => exact ⟨value, rest⟩
  | ask r next => exact absurd (Pool.knows (composes settings) run rest) (silent r)

theorem worker_over (run : Reached settings s) (sent : s.2.runErrs.sent ≠ []) : Over s .worker := by
  refine over_of_silent run fun r ⟨own, known⟩ => sent ?_
  cases r with
  | workerStarts => exact known
  | informerStart | setSynced | goLooper | receiveLoop | sendRun => exact known.1.2
  | recover | ctxErr | cancelLoops => exact known.2
  | informerRun ctx reconcile =>
      cases ctx with
      | run => exact known.1.2
      | loop => cases own
  | _ => cases own

theorem looper_over {l : Looper} (run : Reached settings s) (sent : l ∈ s.2.loopResults.senders) :
    Over s (.looper l) := by
  refine over_of_silent run fun r ⟨own, known⟩ => ?_
  cases r with
  | looperStarts l' => cases own; exact known sent
  | guardRun => cases own; exact known.1 sent
  | sendLoop l' err => cases own; exact known.1 sent
  | informerRun ctx reconcile =>
      cases ctx with
      | run => cases own
      | loop => cases own; exact known.1 sent
  | _ => cases own

theorem server_over {server : Server} (run : Reached settings s) (done : s.2.done server = true) :
    Over s (.server server) := by
  refine over_of_silent run fun r ⟨own, known⟩ => ?_
  have busy : s.2.done server = false := by
    cases r with
    | serverStarts server' => cases own; exact known
    | serveHTTP server' => cases own; exact known.1
    | sendServer server' err => cases own; exact known.1
    | serverDone server' => cases own; exact known.1
    | informerRun ctx reconcile => cases ctx <;> cases own
    | _ => cases own
  rw [done] at busy
  cases busy

theorem worked_of_sent (run : Reached settings s) (sent : s.2.runErrs.sent ≠ []) : Worked s.2 := by
  obtain ⟨value, ended⟩ := worker_over run sent
  exact (Pool.returned (composes settings) run ended).2

/-- **No goroutine outlives `Run`**: not the worker, not a loop, not a server. -/
theorem lifecycle_joins (settings : Settings) {s : Agents} (run : Reached settings s)
    (gone : Over s .main) : AllOver s := by
  obtain ⟨result, ended⟩ := gone
  have inv := reached_inv run
  have returned : Returned result s.2 := (Pool.returned (composes settings) run ended).2
  have worker (started : s.2.worker ≠ none) : s.2.runErrs.sent ≠ [] := returned.worked.resolve_left started
  rintro (_ | _ | l | server) started
  · exact ⟨result, ended⟩
  · exact worker_over run (worker started)
  · have ready := (inv.synced (inv.looped l started)).1
    have worked := worked_of_sent run (worker (by simp [ready]))
    exact looper_over run (worked.joined l started)
  · rcases returned.served with none | all
    · have started : s.2.servers server = true := started
      rw [none] at started
      cases started
    · exact server_over run (all server)

theorem ending_grows {w w' : World} (grows : Grows w w') (ending : Ending w) : Ending w' :=
  ending.imp grows.caller (.imp (grown_ne_nil grows.serverErrs)
    (.imp (grown_ne_nil grows.loopResults) (grown_ne_nil grows.runErrs)))

theorem turn_ending {s' : Agents} (run : Reached settings s) (turn : Pool.Turn (arena settings) s s')
    (ending : Ending s.2) : Ending s'.2 := by
  obtain ⟨moves, g, asks, acts⟩ := turn
  have known := Pool.knows (composes settings) (Pool.Reaches.waits run moves) asks
  refine ending_grows (act_grows known.2 acts) ?_
  clear asks acts known
  induction moves with
  | refl => exact ending
  | tail _ move ih => exact ending_grows (others_grows move) ih

/-- The run is one to its end. -/
theorem lifecycle_joins_failed : ∃ s, Reached guarded s ∧ s.2.serverErrsClosed = true ∧ AllOver s := by
  obtain ⟨s, run, shown⟩ := played_such 42
    (fun s => isOver (s.1 .main).rest && s.2.serverErrsClosed) (by decide +kernel)
  obtain ⟨gone, closed⟩ := Bool.and_eq_true_iff.mp shown
  exact ⟨s, run, closed, lifecycle_joins guarded run (over_of_isOver gone)⟩

/-- **Whatever ends first, `Run` ends**, and the worker, both loops and both servers with it. That
`Guard.Run` and `Informer.Run` return once their context is done is part of the model. -/
theorem lifecycle_returns (settings : Settings) {s : Agents} (run : Reached settings s)
    (ending : Ending s.2) :
    Pool.Eventually (Pool.Turn (arena settings)) (Pool.Turn ((arena settings).restrict Sure)) AllOver s := by
  refine Pool.eventually (C := fun s => Reached settings s ∧ Ending s.2)
    (fun s s' holds turn => ⟨turn.reaches holds.1, turn_ending holds.1 turn holds.2⟩) (fun s holds => ?_)
    ⟨run, ending⟩
  by_cases gone : Over s .main
  · exact .inl (lifecycle_joins settings holds.1 gone)
  · refine .inr (Pool.goes_on (composes settings) rank (fun g w r inv knows leaving => waits inv knows leaving)
      holds.1 .main holds.2 fun value ended => gone ⟨value, ended⟩)

/-- The listener breaks while both loops run. -/
theorem lifecycle_returns_failed : ∃ s, (Reached guarded s ∧ ¬Over s .main ∧ Ending s.2) ∧
    Pool.Eventually (Pool.Turn (arena guarded)) (Pool.Turn ((arena guarded).restrict Sure)) AllOver s := by
  obtain ⟨s, run, shown⟩ := played_such 20
    (fun s => !isOver (s.1 .main).rest && !s.2.serverErrs.sent.isEmpty) (by decide +kernel)
  obtain ⟨busy, failed⟩ := Bool.and_eq_true_iff.mp shown
  have ending : Ending s.2 := .inr (.inl (by simpa using failed))
  refine ⟨s, ⟨run, ?_, ending⟩, lifecycle_returns guarded run ending⟩
  rintro ⟨value, ended⟩
  simp [ended, isOver] at busy

/-! ## The channels -/

/-- A send goes through at once, and its channel is open. -/
def Clear (w : World) : Request → Prop
  | .sendRun _ => w.runErrs.Room 1
  | .sendLoop _ _ => w.loopResults.Room 2
  | .sendServer _ _ => w.serverErrs.Room 2 ∧ w.serverErrsClosed = false
  | _ => True

/-- **No send blocks, and none is on a closed channel.** -/
theorem lifecycle_sends (settings : Settings) {s : Agents} (run : Reached settings s) {g : Goroutine}
    {r : Request} {next : Answer r → Routine (Option GoError)} (asks : (s.1 g).rest = .ask r next) :
    Clear s.2 r := by
  have inv := reached_inv run
  have known := (Pool.knows (composes settings) run asks).2
  cases r with
  | sendRun err =>
      have fresh : () ∉ s.2.runErrs.senders := by simp [Chan.senders, known.1.2]
      exact Chan.room_of_once inv.runOnce fresh
  | sendLoop l err => exact Chan.room_of_once inv.loopOnce known.1
  | sendServer server err =>
      refine ⟨Chan.room_of_once inv.serverOnce known.2.1, Bool.eq_false_iff.mpr fun closed => ?_⟩
      have busy := known.1
      rw [inv.closed closed server] at busy
      cases busy
  | _ => trivial

def isSend : Request → Bool
  | .sendRun _ | .sendLoop _ _ | .sendServer _ _ => true
  | _ => false

/-- The metrics server is about to say that it broke. -/
theorem lifecycle_sends_failed : ∃ s r next, Reached guarded s ∧ (s.1 (.server .metrics)).rest = .ask r next ∧
    isSend r = true ∧ Clear s.2 r := by
  obtain ⟨s, run, shown⟩ := played_such 19
    (fun s => (s.1 (.server .metrics)).rest.pending.any isSend) (by decide +kernel)
  obtain ⟨r, pending, sends⟩ := (Option.any_eq_true ..).mp shown
  obtain ⟨next, asks⟩ := Program.of_pending pending
  exact ⟨s, r, next, run, asks, sends, lifecycle_sends guarded run asks⟩

/-! ## What Run returns -/

/-- Everything that went wrong is in `result`; where a server failed, a worker that was cancelled need
not be. What a component answers is what its goroutine sends. -/
structure Accounts (result : Option GoError) (w : World) : Prop where
  /-- No error: the caller wanted the end. -/
  clean : result = none → w.caller = true
  servers : ∀ s err, (s, err) ∈ w.serverErrs.sent → Told result err
  worker : ∀ err, ((), some err) ∈ w.runErrs.sent →
    Told result err ∨ (err.is .canceled = true ∧ w.serverErrs.sent ≠ [])
  loops : ∀ l err, (l, some err) ∈ w.loopResults.sent →
    ∃ whole, ((), some whole) ∈ w.runErrs.sent ∧ err.Within whole
  broke : ∀ s err, w.serverAnswer s = some (.failed err) → (s, failure s err) ∈ w.serverErrs.sent
  looped : ∀ l err, w.loopAnswer l = some err → (l, err) ∈ w.loopResults.sent
  informed : ∀ err, w.informerAnswer = some err → ((), err) ∈ w.runErrs.sent

/-- **No failure is lost.** -/
theorem lifecycle_errors (settings : Settings) {s : Agents} (run : Reached settings s)
    {result : Option GoError} (ended : (s.1 .main).rest = .done result) : Accounts result s.2 := by
  have inv := reached_inv run
  have returned : Returned result s.2 := (Pool.returned (composes settings) run ended).2
  have worked (started : s.2.worker ≠ none) : Worked s.2 :=
    worked_of_sent run (returned.worked.resolve_left started)
  have below (l : Looper) (launched : s.2.loopers l = true) : Worked s.2 :=
    worked (by simp [(inv.synced (inv.looped l launched)).1])
  refine ⟨returned.clean, fun server err sent => returned.told _ sent, returned.explained, fun l err sent => ?_,
    fun server err broke => ?_, fun l err answered => ?_, fun err informed => ?_⟩
  · have launched := inv.launched l (Chan.mem_senders.mpr ⟨some err, sent⟩)
    exact (below l launched).kept l err sent
  · obtain ⟨started, confessed⟩ := inv.broke server err broke
    rcases returned.served with none | all
    · rw [none] at started
      cases started
    · exact confessed (all server)
  · have launched := inv.answered l (by simp [answered])
    obtain ⟨err', sent⟩ := Chan.mem_senders.mp ((below l launched).joined l launched)
    rwa [Option.some.inj (answered.symm.trans (inv.said l err' sent))]
  · exact (worked (inv.informed (by simp [informed]))).informed err informed

theorem lifecycle_errors_failed : ∃ s result, (Reached guarded s ∧ (s.1 .main).rest = .done result ∧
    s.2.serverErrs.sent ≠ []) ∧ Accounts result s.2 := by
  obtain ⟨s, run, shown⟩ := played_such 42
    (fun s => isOver (s.1 .main).rest && !s.2.serverErrs.sent.isEmpty) (by decide +kernel)
  obtain ⟨gone, failed⟩ := Bool.and_eq_true_iff.mp shown
  obtain ⟨result, ended⟩ := over_of_isOver gone
  exact ⟨s, result, ⟨run, ended, by simpa using failed⟩, lifecycle_errors guarded run ended⟩

/-! ## The way in -/

/-- The gate has answered that it passes, the cache that it is synced, and `Recover` nil. -/
def Ready (settings : Settings) (w : World) : Prop :=
  (∃ driver, w.gate = some (.ready driver)) ∧ Prepared settings w

/-- Where a loop may run at all. -/
def Permitted (settings : Settings) (w : World) : Request → Prop
  | .guardRun | .informerRun _ .pods => Ready settings w
  | .informerRun _ .degraded => (∃ reason, w.gate = some (.notReady reason)) ∧ w.health.readinessHandler.1 ≠ 200
  | _ => True

theorem ready_of_synced (inv : Inv settings w) (synced : w.health.synced = true) : Ready settings w :=
  have started := (inv.synced synced).1
  ⟨inv.passed (inv.gate true started), (inv.synced synced).2⟩

/-- **Ready means ready**: `/readyz` says so, and a loop runs, only once all is in place; the gate's series
stands for a node that never is. -/
theorem lifecycle_readiness (settings : Settings) {s : Agents} (run : Reached settings s) :
    (s.2.health.readinessHandler.1 = 200 → Ready settings s.2 ∧ s.2.gateInfo = none) ∧
      (∀ reason, s.2.gateInfo = some reason → s.2.gate = some (.notReady reason)) ∧
      ∀ g r next, (s.1 g).rest = .ask r next → Permitted settings s.2 r := by
  have inv := reached_inv run
  refine ⟨fun ok => ?_, inv.info, fun g r next asks => ?_⟩
  · obtain ⟨gate, synced, -⟩ := Health.readinessHandler_ok.mp ok
    have ready := ready_of_synced inv synced
    refine ⟨ready, Option.eq_none_iff_forall_ne_some.mpr fun reason set => ?_⟩
    obtain ⟨⟨driver, passed⟩, -⟩ := ready
    rw [inv.info reason set] at passed
    cases passed
  · have known := (Pool.knows (composes settings) run asks).2
    cases r with
    | guardRun => exact ready_of_synced inv (inv.looped .guard known.2)
    | informerRun ctx reconcile =>
        have runs : Runs s.2 reconcile := by
          cases ctx with
          | run => exact known.2.2
          | loop => exact known.2.2
        cases reconcile with
        | pods => exact ready_of_synced inv runs
        | degraded =>
            refine ⟨inv.failed runs, fun ok => ?_⟩
            have gate := (Health.readinessHandler_ok.mp ok).1
            rw [inv.gate false runs] at gate
            cases gate
    | _ => trivial

/-- The node is recovered and its loops are about to be started. -/
theorem lifecycle_readiness_recovered : ∃ s, Reached guarded s ∧ s.2.health.readinessHandler.1 = 200 ∧
    Ready guarded s.2 := by
  obtain ⟨s, run, shown⟩ := played_such 12 (fun s => s.2.health.readinessHandler.1 == 200) (by decide +kernel)
  have ok := beq_iff_eq.mp shown
  exact ⟨s, run, ok, ((lifecycle_readiness guarded run).1 ok).1⟩

end

end Lifecycle

end CpuIdle.Agent
