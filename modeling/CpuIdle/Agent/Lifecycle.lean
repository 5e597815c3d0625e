/-
# Agent.Lifecycle — startup, the goroutines, and the way out

`Lifecycle.Run` and everything it starts: the two HTTP servers, the worker that runs the gate's branch,
and below it the guard loop and the informer loop. They meet in three buffered channels, two contexts
and a wait group. What a component does inside (a tick, a pass, an HTTP request) is one request here,
which returns when the source says it does.

* `run`, `worker`, `looper`, `server` — the goroutines, each as its source;
* `World` — channels, contexts, what was started and answered; `act` — when a request has an answer.
-/
import CpuIdle.Go.Chan
import CpuIdle.Go.Errors
import CpuIdle.Node.Signature
import CpuIdle.Theory.Threads

namespace CpuIdle.Agent

open CpuIdle.Go CpuIdle.Node CpuIdle.Theory

set_option autoImplicit false

/-! ## Health -/

structure Health where
  gateReady : Bool
  gateReason : String
  synced : Bool
  reconcileHealthy : Bool
  guardHealthy : Bool

namespace Health

def reasonCacheNotSynced : String := "cache_not_synced"

def reasonReconcileFailed : String := "reconcile_failed"

def reasonGuardFailed : String := "guard_failed"

/-- `NewHealth`. -/
def new : Health := ⟨false, reasonCacheNotSynced, false, true, true⟩

def setGateResult (h : Health) (ready : Bool) (reason : String) : Health :=
  { h with gateReady := ready, gateReason := reason }

def setSynced (h : Health) (synced : Bool) : Health := { h with synced }

/-- `Ready`: the decision, and the reason against it. -/
def ready (h : Health) : Bool × String :=
  if !h.gateReady then (false, h.gateReason)
  else if !h.synced then (false, reasonCacheNotSynced)
  else if !h.reconcileHealthy then (false, reasonReconcileFailed)
  else if !h.guardHealthy then (false, reasonGuardFailed)
  else (true, "")

/-- Status and body of `/readyz`. -/
def readinessHandler (h : Health) : Nat × String :=
  match h.ready with
  | (true, _) => (200, "ok\n")
  | (false, reason) => (503, s!"not ready: {reason}\n")

/-- **`/readyz` says 200** exactly when nothing stands against it. -/
theorem readinessHandler_ok {h : Health} : h.readinessHandler.1 = 200 ↔
    h.gateReady = true ∧ h.synced = true ∧ h.reconcileHealthy = true ∧ h.guardHealthy = true := by
  obtain ⟨gate, reason, synced, reconcile, guard⟩ := h
  cases gate <;> cases synced <;> cases reconcile <;> cases guard <;> simp [readinessHandler, ready]

end Health

namespace Lifecycle

/-! ## The goroutines -/

inductive Server where
  | metrics
  | health
  deriving DecidableEq

instance : Fintype Server := ⟨{.metrics, .health}, fun s => by cases s <;> decide⟩

def Server.name : Server → String
  | .metrics => "metrics"
  | .health => "health"

/-- The two loops of the gate's ready branch. -/
inductive Looper where
  | guard
  | informer
  deriving DecidableEq

instance : Fintype Looper := ⟨{.guard, .informer}, fun l => by cases l <;> decide⟩

def Looper.name : Looper → String
  | .guard => "guard"
  | .informer => "informer"

inductive Goroutine where
  | main
  | worker
  | looper (l : Looper)
  | server (s : Server)
  deriving DecidableEq

instance : Fintype Goroutine where
  elems := {.main, .worker, .looper .guard, .looper .informer, .server .metrics, .server .health}
  complete g := by rcases g with _ | _ | l | s <;> first | decide | (cases l <;> decide) | (cases s <;> decide)

/-- The context a component is given. -/
inductive Ctx where
  | run
  | loop
  deriving DecidableEq

/-- What the informer calls for each key: `Reconciler.Reconcile`, or the function of `runDegraded`. -/
inductive Reconcile where
  | pods
  | degraded
  deriving DecidableEq

/-- How `server.Serve` returns. -/
inductive Served where
  | closed
  | failed (err : OsError)

structure Settings where
  /-- `Client` is set. -/
  client : Bool
  nodeName : String
  /-- `GuardHigh` is positive. -/
  guard : Bool
  guardPeriod : Int

inductive Request where
  | gateCheck
  | setGateResult (ready : Bool) (reason : String)
  | environmentGateInfo (node reason : String)
  | newInformer
  | listen (s : Server)
  | closeListener (s : Server)
  | serve (s : Server)
  | goWorker (ready : Bool)
  | select
  | cancelRun
  | receiveRun
  | shutdown (s : Server)
  | waitServers
  | closeServerErrs
  | rangeServerErrs
  | workerStarts
  | informerStart
  | recover
  | ctxErr
  | setSynced (synced : Bool)
  | goLooper (l : Looper)
  | receiveLoop
  | cancelLoops
  | sendRun (err : Option GoError)
  | looperStarts (l : Looper)
  | guardRun
  | informerRun (ctx : Ctx) (reconcile : Reconcile)
  | sendLoop (l : Looper) (err : Option GoError)
  | serverStarts (s : Server)
  | serveHTTP (s : Server)
  | sendServer (s : Server) (err : GoError)
  | serverDone (s : Server)

/-- `workerStarts` answers what the closure of the worker holds of the gate. -/
def Answer : Request → Type
  | .gateCheck => GateResult
  | .newInformer => Option OsError
  | .listen _ => Option OsError
  | .select => Option GoError ⊕ GoError
  | .receiveRun => Option GoError
  | .shutdown _ => Option OsError
  | .rangeServerErrs => List GoError
  | .workerStarts => Bool
  | .informerStart => Bool
  | .recover => Option GoError
  | .ctxErr => Bool
  | .receiveLoop => Looper × Option GoError
  | .guardRun => Option GoError
  | .informerRun _ _ => Option GoError
  | .serveHTTP _ => Served
  | _ => Unit

end Lifecycle

abbrev lifecycleSignature : Signature := ⟨Lifecycle.Request, Lifecycle.Answer⟩

/-- A goroutine of the agent. -/
abbrev Routine (α : Type) : Type := Program lifecycleSignature α

namespace Lifecycle

def calls (r : Request) : Routine (Answer r) := Program.request (S := lifecycleSignature) r

/-- `errors.Join(runErr, err)`. -/
def joined (runErr : Option GoError) (err : GoError) : Option GoError :=
  GoError.join (runErr.toList ++ [err])

/-- The `Ready` and `Reason` of a gate result. -/
def gateReady : GateResult → Bool
  | .ready _ => true
  | _ => false

def gateReason : GateResult → String
  | .ready _ => "ok"
  | .notReady reason => reason
  | .failed _ => ""

/-- `metricsServer.Shutdown` and `healthServer.Shutdown`. -/
def shutdown (s : Server) (runErr : Option GoError) : Routine (Option GoError) := do
  match ← calls (.shutdown s) with
  | some err => return joined runErr (err.err.wrap s!"agent: {s.name} server shutdown")
  | none => return runErr

/-- The first to return: the worker, or a server that failed. -/
def awaitFirst : Routine (Option GoError) := do
  match ← calls .select with
  | .inl runErr => return runErr
  | .inr serveErr => do
      calls .cancelRun
      match ← calls .receiveRun with
      | some workerErr =>
          if workerErr.is .canceled then return some serveErr
          else return GoError.join [serveErr, workerErr]
      | none => return some serveErr

/-- `Run` from its `select` on. -/
def finish : Routine (Option GoError) := do
  let runErr ← awaitFirst
  calls .cancelRun
  let runErr ← shutdown .metrics runErr
  let runErr ← shutdown .health runErr
  calls .waitServers
  calls .closeServerErrs
  let serveErrs ← calls .rangeServerErrs
  return serveErrs.foldl joined runErr

/-- `Run` from its listeners on. -/
def serveAll (ready : Bool) : Routine (Option GoError) := do
  match ← calls (.listen .metrics) with
  | some err => return some (err.err.wrap "agent: metrics listener")
  | none =>
  match ← calls (.listen .health) with
  | some err =>
      calls (.closeListener .metrics)
      return some (err.err.wrap "agent: health listener")
  | none =>
      calls (.serve .metrics)
      calls (.serve .health)
      calls (.goWorker ready)
      finish

/-- `Lifecycle.Run`. -/
def run (settings : Settings) : Routine (Option GoError) := do
  if !settings.client then return some (.new "agent: Lifecycle.Run: Client must not be nil")
  else if settings.nodeName = "" then
    return some (.new "agent: Lifecycle.Run: Config.NodeName must not be empty")
  else
    match ← calls .gateCheck with
    | .failed err => return some (err.err.wrap "agent: environment gate check")
    | result =>
        calls (.setGateResult (gateReady result) (gateReason result))
        if !gateReady result then
          calls (.environmentGateInfo settings.nodeName (gateReason result))
        match ← calls .newInformer with
        | some err => return some (err.err.wrap "agent: informer")
        | none => serveAll (gateReady result)

/-- The error of a loop under its name. -/
def loopErr (result : Looper × Option GoError) : List GoError :=
  (result.2.map fun err => err.wrap s!"agent: {result.1.name} loop").toList

/-- `runReady` once the node guard's state is recovered, or need not be. -/
def runLoops (settings : Settings) : Routine (Option GoError) := do
  calls (.setSynced true)
  if !settings.guard then calls (.informerRun .run .pods)
  else
    calls (.goLooper .guard)
    calls (.goLooper .informer)
    let first ← calls .receiveLoop
    calls .cancelLoops
    let second ← calls .receiveLoop
    return GoError.join (loopErr first ++ loopErr second)

def runReady (settings : Settings) : Routine (Option GoError) := do
  if !(← calls .informerStart) then return none
  else if settings.guard then
    match ← calls .recover with
    | some err =>
        if (← calls .ctxErr) && err.is .canceled then return none
        else return some (err.wrap "agent: recover node guard state")
    | none => runLoops settings
  else runLoops settings

def runDegraded : Routine (Option GoError) := calls (.informerRun .run .degraded)

def worker (settings : Settings) : Routine (Option GoError) := do
  let ready : Bool ← calls .workerStarts
  let err ← if ready then runReady settings else runDegraded
  calls (.sendRun err)
  return none

def looper (l : Looper) : Routine (Option GoError) := do
  calls (.looperStarts l)
  let err ← match l with
    | .guard => calls .guardRun
    | .informer => calls (.informerRun .loop .pods)
  calls (.sendLoop l err)
  return none

/-- The goroutine of `lc.serve`. -/
def server (s : Server) : Routine (Option GoError) := do
  calls (.serverStarts s)
  match ← calls (.serveHTTP s) with
  | .closed => calls (.serverDone s)
  | .failed err => do
      calls (.sendServer s (err.err.wrap s!"agent: {s.name} server"))
      calls (.serverDone s)
  return none

/-- All that `Run` may start. -/
def goroutines (settings : Settings) : Goroutine → Routine (Option GoError)
  | .main => run settings
  | .worker => worker settings
  | .looper l => looper l
  | .server s => server s

/-! ## The world -/

structure World where
  health : Health
  gateInfo : Option String
  /-- The caller's context is done. -/
  caller : Bool
  runCtx : Bool
  loopCtx : Bool
  /-- What was started; the worker with what it knows of the gate. -/
  servers : Server → Bool
  worker : Option Bool
  loopers : Looper → Bool
  /-- `Shutdown` was called, and the goroutine is done. -/
  stopped : Server → Bool
  done : Server → Bool
  /-- What was answered, which no program reads: by the gate, by the cache (it is synced), by `Recover`
  (nil), and by the calls that last. -/
  gate : Option GateResult
  cacheSynced : Bool
  recovered : Bool
  loopAnswer : Looper → Option (Option GoError)
  informerAnswer : Option (Option GoError)
  serverAnswer : Server → Option Served
  serverErrs : Chan Server GoError
  serverErrsClosed : Bool
  runErrs : Chan Unit (Option GoError)
  loopResults : Chan Looper (Option GoError)

namespace World

/-- The context a component was given is done. -/
def ctxDone (w : World) : Ctx → Bool
  | .run => w.caller || w.runCtx
  | .loop => w.caller || w.runCtx || w.loopCtx

/-- Before `Run` is called. -/
def start : World where
  health := .new
  gateInfo := none
  caller := false
  runCtx := false
  loopCtx := false
  servers _ := false
  worker := none
  loopers _ := false
  stopped _ := false
  done _ := false
  gate := none
  cacheSynced := false
  recovered := false
  loopAnswer _ := none
  informerAnswer := none
  serverAnswer _ := none
  serverErrs := .made
  serverErrsClosed := false
  runErrs := .made
  loopResults := .made

end World

/-- The goroutine that makes a request. -/
def owner : Request → Goroutine
  | .workerStarts | .informerStart | .recover | .ctxErr | .setSynced _ | .goLooper _ | .receiveLoop
  | .cancelLoops | .sendRun _ | .informerRun .run _ => .worker
  | .looperStarts l | .sendLoop l _ => .looper l
  | .guardRun => .looper .guard
  | .informerRun .loop _ => .looper .informer
  | .serverStarts s | .serveHTTP s | .sendServer s _ | .serverDone s => .server s
  | _ => .main

/-- When a request returns, and with what. `Serve` may fail at any time and ends with `Shutdown`; the
loops return when their context is done; the guard's refuses a period that is not positive. -/
def act (settings : Settings) (w : World) : (r : Request) → Answer r → World → Prop
  | .gateCheck, result, w' => w' = { w with gate := some result }
  | .setGateResult ready reason, _, w' => w' = { w with health := w.health.setGateResult ready reason }
  | .environmentGateInfo _ reason, _, w' => w' = { w with gateInfo := some reason }
  | .serve s, _, w' => w' = { w with servers := Function.update w.servers s true }
  | .goWorker ready, _, w' => w' = { w with worker := some ready }
  | .select, .inl err, w' => w.runErrs.first = some ((), err) ∧ w' = { w with runErrs := w.runErrs.receive }
  | .select, .inr err, w' => (∃ s, w.serverErrs.first = some (s, err)) ∧
      w' = { w with serverErrs := w.serverErrs.receive }
  | .cancelRun, _, w' => w' = { w with runCtx := true }
  | .receiveRun, err, w' => w.runErrs.first = some ((), err) ∧ w' = { w with runErrs := w.runErrs.receive }
  | .shutdown s, _, w' => w' = { w with stopped := Function.update w.stopped s true }
  | .waitServers, _, w' => (∀ s, w.servers s = true → w.done s = true) ∧ w' = w
  | .closeServerErrs, _, w' => w' = { w with serverErrsClosed := true }
  | .rangeServerErrs, errs, w' => w.serverErrsClosed = true ∧ errs = w.serverErrs.rest ∧
      w' = { w with serverErrs := w.serverErrs.drained }
  | .workerStarts, ready, w' => w.worker = some ready ∧ w' = w
  | .informerStart, synced, w' => (synced = false → w.ctxDone .run = true) ∧
      w' = { w with cacheSynced := w.cacheSynced || synced }
  | .recover, err, w' => w' = { w with recovered := w.recovered || Option.isNone err }
  | .ctxErr, cancelled, w' => cancelled = w.ctxDone .run ∧ w' = w
  | .setSynced synced, _, w' => w' = { w with health := w.health.setSynced synced }
  | .goLooper l, _, w' => w' = { w with loopers := Function.update w.loopers l true }
  | .receiveLoop, result, w' => w.loopResults.first = some result ∧
      w' = { w with loopResults := w.loopResults.receive }
  | .cancelLoops, _, w' => w' = { w with loopCtx := true }
  | .sendRun err, _, w' => w.runErrs.Room 1 ∧ w' = { w with runErrs := w.runErrs.send () err }
  | .looperStarts l, _, w' => w.loopers l = true ∧ w' = w
  | .guardRun, err, w' => (if settings.guardPeriod ≤ 0 then Option.isSome err = true
      else Option.isNone err = true ∧ w.ctxDone .loop = true) ∧
      w' = { w with loopAnswer := Function.update w.loopAnswer .guard (some err) }
  | .informerRun .run _, err, w' => w.ctxDone .run = true ∧ w' = { w with informerAnswer := some err }
  | .informerRun .loop _, err, w' => w.ctxDone .loop = true ∧
      w' = { w with loopAnswer := Function.update w.loopAnswer .informer (some err) }
  | .sendLoop l err, _, w' => w.loopResults.Room 2 ∧
      w' = { w with loopResults := w.loopResults.send l err }
  | .serverStarts s, _, w' => w.servers s = true ∧ w' = w
  | .serveHTTP s, served, w' => (served = Served.closed → w.stopped s = true) ∧
      w' = { w with serverAnswer := Function.update w.serverAnswer s (some served) }
  | .sendServer s err, _, w' => w.serverErrs.Room 2 ∧
      w' = { w with serverErrs := w.serverErrs.send s err }
  | .serverDone s, _, w' => w' = { w with done := Function.update w.done s true }
  | _, _, w' => w' = w

/-- The caller may cancel its context, and the loops report their health. -/
def others (w w' : World) : Prop :=
  ∃ caller reconcileHealthy guardHealthy, (w.caller = true → caller = true) ∧
    w' = { w with caller, health := { w.health with reconcileHealthy, guardHealthy } }

def arena (settings : Settings) : Arena lifecycleSignature World :=
  { act := act settings, rely := others }

end Lifecycle

end CpuIdle.Agent
