/-
# Agent.Informer — the work queue, and what readiness is made of

`processNextItem` takes one request off the rate-limited queue, reconciles it, and
queues it again if that failed. Readiness is told whether any key is marked as failed.
Failures are marked by key, but a key can be queued twice, with and without `resync`.

The queue is client-go's, a `Workqueue`. All that is assumed of it is `Workqueue.Keeps`:
what it holds it holds until it delivers it.

* `Ready` — the marks are the keys whose latest item failed, and each still has a request;
* `processNextItem_ready` — an item keeps it so, whichever it was;
* `readiness_follows_latest` — over every run.
-/
import CpuIdle.Go.Text
import CpuIdle.Theory.Program
import Mathlib.Data.Finset.Erase
import Mathlib.Data.Finset.Insert

namespace CpuIdle.Agent

open CpuIdle.Go CpuIdle.Theory

set_option autoImplicit false

structure ReconcileRequest where
  key : String
  resync : Bool
  deriving DecidableEq

/-! ## The loop body -/

/-- What `processNextItem` calls. -/
inductive QueueCall where
  | get
  | done (req : ReconcileRequest)
  | forget (req : ReconcileRequest)
  | addRateLimited (req : ReconcileRequest)
  | reconcile (req : ReconcileRequest)
  | ctxErr
  | onReconcileHealth (healthy : Bool)

/-- `get` answers no request once the queue has shut down and is drained. -/
def QueueAnswer : QueueCall → Type
  | .get => Option ReconcileRequest
  | .done _ => Unit
  | .forget _ => Unit
  | .addRateLimited _ => Unit
  | .reconcile _ => Option GoError
  | .ctxErr => Bool
  | .onReconcileHealth _ => Unit

@[reducible] def queueSignature : Signature := ⟨QueueCall, QueueAnswer⟩

abbrev Loop := Program queueSignature

abbrev call (r : QueueCall) : Loop (QueueAnswer r) := Program.request (S := queueSignature) r

def queueCtxErr : Loop Bool := call .ctxErr

structure Informer where
  failedReconciles : Finset String
  /-- `onReconcileHealth` is set. -/
  reportsHealth : Bool

namespace Informer

def healthy (inf : Informer) : Bool := inf.failedReconciles = ∅

def reportReconcileHealth (inf : Informer) : Loop Unit :=
  if inf.reportsHealth then call (.onReconcileHealth inf.healthy) else return ()

def fail (inf : Informer) (key : String) : Informer :=
  { inf with failedReconciles := insert key inf.failedReconciles }

def succeed (inf : Informer) (key : String) : Informer :=
  { inf with failedReconciles := inf.failedReconciles.erase key }

/-- The body of `processNextItem` up to the deferred `Done`. -/
def processItem (inf : Informer) (req : ReconcileRequest) : Loop Informer := do
  match ← call (.reconcile req) with
  | some _ =>
      if ← queueCtxErr then
        call (.forget req)
        return inf
      else
        let inf := inf.fail req.key
        inf.reportReconcileHealth
        call (.addRateLimited req)
        return inf
  | none =>
      let inf := inf.succeed req.key
      inf.reportReconcileHealth
      call (.forget req)
      return inf

def processNextItem (inf : Informer) : Loop (Bool × Informer) := do
  match ← call .get with
  | none => return (false, inf)
  | some req =>
      let inf ← inf.processItem req
      call (.done req)
      return (true, inf)

end Informer

/-! ## The queue -/

/-- A queue with states `Q`. `held` is what is queued or waits for its rate-limited redelivery;
`other` is a move of the handlers, or of the timers. -/
structure Workqueue (Q : Type) where
  held : Q → ReconcileRequest → Prop
  get : Q → Option ReconcileRequest → Q → Prop
  done : Q → ReconcileRequest → Q → Prop
  forget : Q → ReconcileRequest → Q → Prop
  addRateLimited : Q → ReconcileRequest → Q → Prop
  other : Q → Q → Prop

/-- A request is held from the moment it is added until it is delivered. -/
structure Workqueue.Keeps {Q : Type} (queue : Workqueue Q) : Prop where
  get : ∀ q delivered q', queue.get q delivered q' →
    ∀ req, delivered ≠ some req → queue.held q req → queue.held q' req
  done : ∀ q req q', queue.done q req q' → ∀ req', queue.held q req' → queue.held q' req'
  forget : ∀ q req q', queue.forget q req q' → ∀ req', queue.held q req' → queue.held q' req'
  addRateLimited : ∀ q req q', queue.addRateLimited q req q' →
    queue.held q' req ∧ ∀ req', queue.held q req' → queue.held q' req'
  other : ∀ q q', queue.other q q' → ∀ req, queue.held q req → queue.held q' req

/-- The queue, the last health reported, and the items processed so far, the newest first, with
whether they failed. -/
structure Desk (Q : Type) where
  queue : Q
  health : Option Bool
  processed : List (ReconcileRequest × Bool)

namespace Desk

variable {Q : Type}

/-- While the context is live. -/
def arena (queue : Workqueue Q) : Arena queueSignature (Desk Q) where
  act w r answer w' :=
    match r with
    | .get => queue.get w.queue answer w'.queue ∧ w' = { w with queue := w'.queue }
    | .done req => queue.done w.queue req w'.queue ∧ w' = { w with queue := w'.queue }
    | .forget req => queue.forget w.queue req w'.queue ∧ w' = { w with queue := w'.queue }
    | .addRateLimited req =>
        queue.addRateLimited w.queue req w'.queue ∧ w' = { w with queue := w'.queue }
    | .reconcile req => w' = { w with processed := (req, Option.isSome answer) :: w.processed }
    | .ctxErr => answer = false ∧ w' = w
    | .onReconcileHealth healthy => w' = { w with health := some healthy }
  rely w w' := queue.other w.queue w'.queue ∧ w' = { w with queue := w'.queue }

/-- Whether the latest item of the key failed, if there was one. -/
def latest (processed : List (ReconcileRequest × Bool)) (key : String) : Option Bool :=
  (processed.find? fun item => item.1.key = key).map Prod.snd

end Desk

/-! ## Readiness -/

section

variable {Q : Type} (queue : Workqueue Q)

/-- Each marked key still has a request, except perhaps the key that is being processed. -/
def Awaited (inf : Informer) (busy : Option String) (w : Desk Q) : Prop :=
  ∀ key ∈ inf.failedReconciles, busy ≠ some key → ∃ resync, queue.held w.queue ⟨key, resync⟩

/-- The marks are the keys whose latest item failed. -/
def Marked (inf : Informer) (w : Desk Q) : Prop :=
  ∀ key, key ∈ inf.failedReconciles ↔ Desk.latest w.processed key = some true

/-- The last report is of these marks, once there was anything to report. -/
def Told (inf : Informer) (w : Desk Q) : Prop :=
  w.health = if inf.reportsHealth ∧ w.processed ≠ [] then some inf.healthy else none

/-- What holds between two items. -/
structure Ready (inf : Informer) (w : Desk Q) : Prop where
  marked : Marked inf w
  awaited : Awaited queue inf none w
  told : Told inf w

variable {queue}

theorem Awaited.keep {inf : Informer} {busy : Option String} {w w' : Desk Q}
    (awaited : Awaited queue inf busy w)
    (kept : ∀ req, queue.held w.queue req → queue.held w'.queue req) : Awaited queue inf busy w' := by
  intro key marked other
  obtain ⟨resync, held⟩ := awaited key marked other
  exact ⟨resync, kept _ held⟩

/-- A move of the queue alone. -/
theorem Ready.move {inf : Informer} {w : Desk Q} {q : Q} (ready : Ready queue inf w)
    (kept : ∀ req, queue.held w.queue req → queue.held q req) : Ready queue inf { w with queue := q } :=
  ⟨ready.marked, ready.awaited.keep kept, ready.told⟩

theorem Ready.stable (keeps : queue.Keeps) (inf : Informer) :
    (Desk.arena queue).Stable (Ready queue inf) := by
  intro w w' move ready
  rw [move.2]
  exact ready.move (keeps.other _ _ move.1)

/-- While an item is being processed its key may have no request left. -/
structure Busy (queue : Workqueue Q) (inf : Informer) (key : String) (w : Desk Q) : Prop where
  marked : Marked inf w
  awaited : Awaited queue inf (some key) w
  told : Told inf w

/-- The item has been reconciled, and the marks say how that went. -/
structure Reconciled (queue : Workqueue Q) (inf : Informer) (key : String) (w : Desk Q) : Prop where
  marked : Marked inf w
  awaited : Awaited queue inf (some key) w
  some_item : w.processed ≠ []
  unreported : inf.reportsHealth = false → w.health = none

theorem Busy.stable (keeps : queue.Keeps) (inf : Informer) (key : String) :
    (Desk.arena queue).Stable (Busy queue inf key) := by
  intro w w' move busy
  rw [move.2]
  exact ⟨busy.marked, busy.awaited.keep (keeps.other _ _ move.1), busy.told⟩

theorem Reconciled.stable (keeps : queue.Keeps) (inf : Informer) (key : String) :
    (Desk.arena queue).Stable (Reconciled queue inf key) := by
  intro w w' move reconciled
  rw [move.2]
  exact ⟨reconciled.marked, reconciled.awaited.keep (keeps.other _ _ move.1), reconciled.some_item,
    reconciled.unreported⟩

/-- Nothing is asked of single calls. -/
abbrev anyCall : Guarantee queueSignature (Desk Q) := fun _ _ _ _ => True

theorem latest_cons (req : ReconcileRequest) (failed : Bool) (processed : List (ReconcileRequest × Bool))
    (key : String) : Desk.latest ((req, failed) :: processed) key =
      if req.key = key then some failed else Desk.latest processed key := by
  unfold Desk.latest
  rw [List.find?_cons]
  by_cases same : req.key = key <;> simp [same]

/-- The marks after an item of this outcome. -/
def Informer.after (inf : Informer) (key : String) (failed : Bool) : Informer :=
  if failed then inf.fail key else inf.succeed key

theorem Informer.mem_after (inf : Informer) (key : String) (failed : Bool) (key' : String) :
    key' ∈ (inf.after key failed).failedReconciles ↔
      if key = key' then failed = true else key' ∈ inf.failedReconciles := by
  unfold Informer.after
  cases failed with
  | false =>
      by_cases same : key = key'
      · simp [Informer.succeed, same]
      · simp [Informer.succeed, same, Ne.symm same]
  | true =>
      by_cases same : key = key'
      · simp [Informer.fail, same]
      · simp [Informer.fail, same, Ne.symm same]

theorem Informer.after_reportsHealth (inf : Informer) (key : String) (failed : Bool) :
    (inf.after key failed).reportsHealth = inf.reportsHealth := by
  cases failed <;> rfl

theorem reconcile_reconciled (keeps : queue.Keeps) (inf : Informer) (req : ReconcileRequest) :
    Holds (Desk.arena queue) anyCall (Busy queue inf req.key) (call (.reconcile req)) fun err w =>
      Reconciled queue (inf.after req.key (Option.isSome err)) req.key w := by
  refine .request (Busy.stable keeps inf req.key) fun w busy err w' act => ⟨trivial, ?_⟩
  obtain rfl : w' = { w with processed := (req, Option.isSome err) :: w.processed } := act
  refine ⟨fun key => ?_, fun key marked other => ?_, by simp, fun silent => ?_⟩
  · rw [Informer.mem_after, latest_cons]
    by_cases same : req.key = key
    · simp [same]
    · rw [if_neg same, if_neg same]
      exact busy.marked key
  · rw [Informer.mem_after, if_neg fun same => other (congrArg some same)] at marked
    exact busy.awaited key marked other
  · rw [Informer.after_reportsHealth] at silent
    have told := busy.told
    rw [Told, silent] at told
    simpa using told

theorem reportReconcileHealth_told (keeps : queue.Keeps) (inf : Informer) (key : String) :
    Holds (Desk.arena queue) anyCall (Reconciled queue inf key) inf.reportReconcileHealth fun _ w =>
      Busy queue inf key w := by
  refine .ite (fun reports => ?_) fun silent => .pure fun w reconciled => ?_
  · refine .request (Reconciled.stable keeps inf key) fun w reconciled _ w' act => ⟨trivial, ?_⟩
    obtain rfl : w' = { w with health := some inf.healthy } := act
    refine ⟨reconciled.marked, reconciled.awaited, ?_⟩
    rw [Told, if_pos ⟨reports, reconciled.some_item⟩]
  · refine ⟨reconciled.marked, reconciled.awaited, ?_⟩
    rw [Told, if_neg fun both => silent both.1]
    exact reconciled.unreported (by simpa using silent)

theorem addRateLimited_ready (keeps : queue.Keeps) (inf : Informer) (req : ReconcileRequest) :
    Holds (Desk.arena queue) anyCall (Busy queue inf req.key) (call (.addRateLimited req)) fun _ w =>
      Ready queue inf w := by
  refine .request (Busy.stable keeps inf req.key) fun w busy _ w' act => ⟨trivial, ?_⟩
  obtain ⟨added, rest⟩ := keeps.addRateLimited _ _ _ act.1
  rw [act.2]
  refine ⟨busy.marked, fun key marked _ => ?_, busy.told⟩
  by_cases same : req.key = key
  · exact ⟨req.resync, same ▸ added⟩
  · obtain ⟨resync, held⟩ := busy.awaited key marked fun same' => same (Option.some.inj same')
    exact ⟨resync, rest _ held⟩

/-- A key whose item succeeded is not marked, so that nothing has to be held for it. -/
theorem forget_ready (keeps : queue.Keeps) (inf : Informer) (req : ReconcileRequest) :
    Holds (Desk.arena queue) anyCall (Busy queue (inf.succeed req.key) req.key) (call (.forget req))
      fun _ w => Ready queue (inf.succeed req.key) w := by
  refine .request (Busy.stable keeps _ req.key) fun w busy _ w' act => ⟨trivial, ?_⟩
  rw [act.2]
  refine ⟨busy.marked, fun key marked _ => ?_, busy.told⟩
  have other : req.key ≠ key := fun same => (Finset.mem_erase.mp marked).1 same.symm
  obtain ⟨resync, held⟩ := busy.awaited key marked fun same => other (Option.some.inj same)
  exact ⟨resync, keeps.forget _ _ _ act.1 _ held⟩

theorem processItem_ready (keeps : queue.Keeps) (inf : Informer) (req : ReconcileRequest) :
    Holds (Desk.arena queue) anyCall (Busy queue inf req.key) (inf.processItem req) fun inf' w =>
      Ready queue inf' w := by
  refine .bind (reconcile_reconciled keeps inf req) fun err => ?_
  cases err with
  | some err =>
      refine .bind (R := fun cancelled w => cancelled = false ∧ Reconciled queue (inf.fail req.key) req.key w)
        (.request (Reconciled.stable keeps _ req.key) fun w reconciled cancelled w' act =>
          ⟨trivial, act.1, act.2 ▸ reconciled⟩) fun cancelled => .assume fun live => ?_
      subst live
      refine .bind (reportReconcileHealth_told keeps _ req.key) fun _ => ?_
      exact .bind (addRateLimited_ready keeps _ req) fun _ => .pure fun w ready => ready
  | none =>
      refine .bind (reportReconcileHealth_told keeps _ req.key) fun _ => ?_
      exact .bind (forget_ready keeps inf req) fun _ => .pure fun w ready => ready

/-- **One item**, whichever it was and however it went. -/
theorem processNextItem_ready (keeps : queue.Keeps) (inf : Informer) :
    Holds (Desk.arena queue) anyCall (Ready queue inf) inf.processNextItem fun result w =>
      Ready queue result.2 w := by
  refine .bind (R := fun req w => Marked inf w ∧ Awaited queue inf (Option.map ReconcileRequest.key req) w ∧
      Told inf w)
    (.request (Ready.stable keeps inf) fun w ready req w' act => ⟨trivial, ?_⟩) fun req => ?_
  · rw [act.2]
    refine ⟨ready.marked, fun key marked other => ?_, ready.told⟩
    obtain ⟨resync, held⟩ := ready.awaited key marked nofun
    refine ⟨resync, keeps.get _ _ _ act.1 _ (fun same => other ?_) held⟩
    rw [same]
    rfl
  · cases req with
    | none => exact .pure fun w known => ⟨known.1, known.2.1, known.2.2⟩
    | some req =>
        refine .bind ((processItem_ready keeps inf req).pre fun w known => ⟨known.1, known.2.1, known.2.2⟩)
          fun inf' => .bind (R := fun _ w => Ready queue inf' w) ?_ fun _ => .pure fun w ready => ready
        refine .request (Ready.stable keeps inf') fun w ready _ w' act => ⟨trivial, ?_⟩
        rw [act.2]
        exact ready.move (keeps.done _ _ _ act.1)

end

/-- A run of the loop from an empty informer. -/
inductive Drains {Q : Type} (queue : Workqueue Q) : Informer → Desk Q → Prop where
  | start (reportsHealth : Bool) (q : Q) : Drains queue ⟨∅, reportsHealth⟩ ⟨q, none, []⟩
  | item {inf inf' : Informer} {w w' : Desk Q} {more : Bool} (run : Drains queue inf w)
      (exec : Exec (Desk.arena queue) inf.processNextItem w (more, inf') w') : Drains queue inf' w'

theorem Drains.ready {Q : Type} {queue : Workqueue Q} (keeps : queue.Keeps) {inf : Informer} {w : Desk Q}
    (run : Drains queue inf w) : Ready queue inf w := by
  induction run with
  | start reportsHealth q =>
      refine ⟨fun key => by simp [Desk.latest], fun key marked => by simp at marked, ?_⟩
      simp [Told]
  | @item inf inf' w w' more run exec ih =>
      have safe := processNextItem_ready keeps inf w ih
      exact Safe.exec (Q := fun result w => Ready queue result.2 w) exec safe

/-- The pod was updated and a resync has queued it as well. -/
def web (resync : Bool) : ReconcileRequest := ⟨"default/web", resync⟩

/-- The resync failed, the update succeeded, and the resync waits to be tried again. -/
def recovered : Desk (List ReconcileRequest) :=
  ⟨[web true], some true, [(web false, false), (web true, true)]⟩

end CpuIdle.Agent
