/-
# Apply.Applier — executing the plan on a pod's cgroup

`apply` and `revert` run the same kind of plan; `runPlan` is their common loop, with
what each reports after a write and at an EINVAL as parameters. `Pending` is the
applier's journal: the UIDs whose `cpu.idle` it turned off and whose `cpu.weight` it
has not written back since.
-/
import CpuIdle.Apply.Plan
import Mathlib.Data.Finset.Insert

namespace CpuIdle.Apply

open CpuIdle.Go CpuIdle.Kube CpuIdle.Node CpuIdle.Theory CpuIdle.Observe CpuIdle.Cgroup

set_option autoImplicit false

/-- `pendingRestores`. -/
abbrev Pending := Finset String

/-- What `NewApplier` and its recorder are built from. -/
structure Config where
  layout : Layout
  node : String

section

variable [PrintTable] [Qos.ResourceHelper]

/-! ## The journal -/

def recordCompletedWrite (pending : Pending) (uid : String) (write : Write) : Pending :=
  if write.knob = knobCPUIdle ∧ write.value = "0" then insert uid pending
  else if write.knob = knobCPUWeight then pending.erase uid
  else pending

/-- Whether the weight still has to be written back; forgets a UID whose weight is
already right. -/
def needsWeightRepair (pending : Pending) (pod : Pod) (snapshot : Snapshot) : Bool × Pending :=
  if snapshot.idleActive then (false, pending)
  else if pod.uid ∉ pending then (false, pending)
  else if snapshot.weight = Qos.restoreWeight pod.spec then (false, pending.erase pod.uid)
  else (true, pending)

/-- `Applier.buildPlan`: an interrupted weight restore comes before everything else. -/
def planFor (pending : Pending) (pod : Pod) (desired : Tier.State) (snapshot : Snapshot) :
    List Write × Pending :=
  let weight := Qos.restoreWeight pod.spec
  let plan := buildPlan desired snapshot weight
  match needsWeightRepair pending pod snapshot with
  | (false, pending) => (plan, pending)
  | (true, pending) => (⟨knobCPUWeight, formatUint weight⟩ :: plan, pending)

omit [PrintTable] in
/-- A plan writes the burst target, the requested idle bit and the pod's own weight. -/
theorem mem_planFor {pending : Pending} {pod : Pod} {desired : Tier.State} {s : Snapshot}
    {write : Write} (member : write ∈ (planFor pending pod desired s).1) :
    write = ⟨knobCPUMaxBurst, formatUint (burstTarget desired s)⟩ ∨
      write = ⟨knobCPUIdle, if desired.idleRequested then "1" else "0"⟩ ∨
      write = ⟨knobCPUWeight, formatUint (Qos.restoreWeight pod.spec)⟩ := by
  unfold planFor at member
  split at member
  · exact mem_buildPlan member
  · rcases List.mem_cons.mp member with repair | planned
    · exact .inr (.inr repair)
    · exact mem_buildPlan planned

/-! ## Reports -/

def writeIsInstall (write : Write) : Bool :=
  if write.knob = knobCPUWeight then false else decide (write.value ≠ "0")

def reportSuccess (cfg : Config) (pod : Pod) (write : Write) : Node Unit :=
  if writeIsInstall write then
    applied cfg.node pod write.knob TierApplyResult.applied TierApplyReason.ok
  else reverted cfg.node pod write.knob TierApplyResult.reverted TierApplyReason.ok

def reportNote (cfg : Config) (pod : Pod) (note : Tier.Note) : Node Unit :=
  if note.code = Tier.noteUnknownTierValue then tierValueUnknown pod note.message
  else if note.code = Tier.noteNoCPULimit then
    inactive cfg.node pod knobCPUMaxBurst TierApplyResult.inactive note.code
  else return ()

def reportNotes (cfg : Config) (pod : Pod) : List Tier.Note → Node Unit
  | [] => return ()
  | note :: rest => do
      reportNote cfg pod note
      reportNotes cfg pod rest

def reportApplyNotices (cfg : Config) (pod : Pod) (desired : Tier.State) (notes : List Tier.Note)
    (snapshot : Snapshot) : Node Unit := do
  reportNotes cfg pod notes
  if desired.burstRequested && desired.burstActive && !snapshot.hasQuota then
    inactive cfg.node pod knobCPUMaxBurst TierApplyResult.inactive TierApplyReason.cgroupQuotaMissing
  else return ()

/-! ## The write loop -/

/-- How the loop ended: past its last write, or by a `return` inside it. -/
inductive LoopEnd where
  | completed
  | returned (err : Option GoError)

def runPlan (cfg : Config) (context : String) (pod : Pod) (dir : String)
    (success : Write → Node Unit) (onEinval : Node Unit) :
    Pending → List Write → Node (LoopEnd × Pending)
  | pending, [] => return (.completed, pending)
  | pending, write :: rest => do
      if ← ctxErr then return (.returned (some canceled), pending)
      else
        match ← writeKnob cfg.layout.root cfg.layout.kubepodsName dir write.knob write.value with
        | none =>
            success write
            runPlan cfg context pod dir success onEinval
              (recordCompletedWrite pending pod.uid write) rest
        | some writeErr =>
            if writeErr.is .cgroupGone then return (.returned none, pending.erase pod.uid)
            else if writeErr.is .einval then
              rejected cfg.node pod write.knob TierApplyResult.rejected TierApplyReason.einval
              if write.knob = knobCPUWeight then
                return (.returned (some (writeErr.wrap s!"{context}: restore {write.knob}")), pending)
              else
                onEinval
                return (.returned none, pending)
            else if writeErr.is .notPodCgroup then
              rejected cfg.node pod write.knob TierApplyResult.rejected TierApplyReason.notPodCgroup
              return (.returned (some (writeErr.wrap s!"{context}: write {write.knob}")), pending)
            else
              rejected cfg.node pod write.knob TierApplyResult.rejected TierApplyReason.other
              return (.returned (some (writeErr.wrap s!"{context}: write {write.knob}")), pending)

/-- `Applier.Apply`. -/
def apply (cfg : Config) (pending : Pending) (pod : Pod) (reportNotices : Bool) :
    Node (Option GoError × Pending) := do
  if ← ctxErr then return (some canceled, pending)
  else
    let (desired, notes) := Tier.desired pod
    match cfg.layout.podDir (Qos.toCgroupClass desired.qosClass) desired.uid with
    | .error err => return (some (err.wrap "apply: pod cgroup path"), pending)
    | .ok dir =>
    match ← readSnapshot dir with
    | .error err =>
        if err.is .cgroupGone then return (none, pending.erase pod.uid)
        else return (some (err.wrap "apply: read snapshot"), pending)
    | .ok snapshot =>
    let (plan, pending) := planFor pending pod desired snapshot
    let notices : Node Unit :=
      if reportNotices then reportApplyNotices cfg pod desired notes snapshot else return ()
    match ← runPlan cfg "apply" pod dir (reportSuccess cfg pod) notices pending plan with
    | (.returned err, pending) => return (err, pending)
    | (.completed, pending) =>
        if ← ctxErr then return (some canceled, pending)
        else
          notices
          return (none, pending)

/-- `Applier.Revert`, with the snapshot its caller read. -/
def revert (cfg : Config) (pending : Pending) (pod : Pod) (state : Snapshot) :
    Node (Option GoError × Pending) := do
  if ← ctxErr then return (some canceled, pending)
  else
    match cfg.layout.podDir (Qos.toCgroupClass (Qos.classOf pod.spec)) pod.uid with
    | .error err => return (some (err.wrap "apply: revert: pod cgroup path"), pending)
    | .ok dir =>
    let (plan, pending) := planFor pending pod .zero state
    let success := fun write : Write =>
      reverted cfg.node pod write.knob TierApplyResult.reverted TierApplyReason.ok
    match ← runPlan cfg "apply: revert" pod dir success (return ()) pending plan with
    | (.returned err, pending) => return (err, pending)
    | (.completed, pending) => return (none, pending)

end

/-! ## The rule of the write loop -/

section

universe u

variable [PrintTable] {W : Type u} {A : Arena nodeSignature W}
  {G : Guarantee nodeSignature W}

/-- The reason `runPlan` reports for a write error of a cgroup that is still there. -/
def refusalReason (err : GoError) : String :=
  if err.is .einval then TierApplyReason.einval
  else if err.is .notPodCgroup then TierApplyReason.notPodCgroup
  else TierApplyReason.other

/-- What holds at each point of `runPlan`: `J` before a round, `C` past its check, `D` after a
write that succeeded, `F` after one that failed, `E` once that was reported. -/
structure LoopSteps (A : Arena nodeSignature W) (G : Guarantee nodeSignature W) (cfg : Config)
    (pod : Pod) (dir : String) (success : Write → Node Unit) (onEinval : Node Unit)
    (J C : List Write → Pending → W → Prop) (D : Write → List Write → Pending → W → Prop)
    (F E : GoError → List Write → Pending → W → Prop) (Q : LoopEnd × Pending → W → Prop) : Prop where
  check : ∀ write rest pending, Holds A G (J (write :: rest) pending) ctxErr fun cancelled w =>
    if cancelled then Q (.returned (some canceled), pending) w else C (write :: rest) pending w
  write : ∀ write rest pending, Holds A G (C (write :: rest) pending)
    (writeKnob cfg.layout.root cfg.layout.kubepodsName dir write.knob write.value)
    (afterWrite (D write rest pending) fun err => F err (write :: rest) pending)
  traced : ∀ write rest pending, Holds A G (D write rest pending) (success write) fun _ w =>
    J rest (recordCompletedWrite pending pod.uid write) w
  gone : ∀ err write rest pending w, err.is .cgroupGone = true → F err (write :: rest) pending w →
    Q (.returned none, pending.erase pod.uid) w
  refused : ∀ err write rest pending, err.is .cgroupGone = false →
    Holds A G (F err (write :: rest) pending)
      (rejected cfg.node pod write.knob TierApplyResult.rejected (refusalReason err))
      fun _ w => E err (write :: rest) pending w
  einval : ∀ err write rest pending, err.is .einval = true → write.knob ≠ knobCPUWeight →
    Holds A G (E err (write :: rest) pending) onEinval fun _ w => Q (.returned none, pending) w
  failed : ∀ err err' write rest pending w, (err.is .einval = true → write.knob = knobCPUWeight) →
    E err (write :: rest) pending w → Q (.returned (some err'), pending) w
  completed : ∀ pending w, J [] pending w → Q (.completed, pending) w

theorem runPlan_steps {cfg : Config} {context : String} {pod : Pod} {dir : String}
    {success : Write → Node Unit} {onEinval : Node Unit} {J C : List Write → Pending → W → Prop}
    {D : Write → List Write → Pending → W → Prop} {F E : GoError → List Write → Pending → W → Prop}
    {Q : LoopEnd × Pending → W → Prop}
    (steps : LoopSteps A G cfg pod dir success onEinval J C D F E Q) (pending : Pending)
    (writes : List Write) :
    Holds A G (J writes pending) (runPlan cfg context pod dir success onEinval pending writes) Q := by
  induction writes generalizing pending with
  | nil => exact .pure fun w holds => steps.completed pending w holds
  | cons write rest ih =>
      unfold runPlan
      refine .bind (steps.check write rest pending) fun cancelled => ?_
      refine .ite (fun isCancelled => .pure fun w known => by simpa [isCancelled] using known)
        fun live => .pre (P := C (write :: rest) pending) ?_ fun w known => by simpa [live] using known
      refine .bind (steps.write write rest pending) fun result => ?_
      cases result with
      | none => exact .bind (steps.traced write rest pending) fun _ => ih _
      | some err =>
          refine .ite (fun gone => .pure fun w known => steps.gone err write rest pending w gone known)
            fun there => ?_
          have refused := steps.refused err write rest pending (by simpa using there)
          have failed := fun (still : err.is .einval = true → write.knob = knobCPUWeight) err' w =>
            steps.failed err err' write rest pending w still
          refine .ite (fun einval => ?_) fun other => .ite (fun foreign => ?_) fun rest' => ?_
          · rw [refusalReason, if_pos einval] at refused
            refine .bind refused fun _ => .ite (fun weight => ?_) fun tier => ?_
            · exact .pure fun w known => failed (fun _ => weight) _ w known
            · exact .bind (steps.einval err write rest pending einval tier) fun _ => .pure fun w known => known
          · rw [refusalReason, if_neg other, if_pos foreign] at refused
            exact .bind refused fun _ => .pure fun w known =>
              failed (fun einval => absurd einval other) _ w known
          · rw [refusalReason, if_neg other, if_neg rest'] at refused
            exact .bind refused fun _ => .pure fun w known =>
              failed (fun einval => absurd einval other) _ w known

/-- What `J`, indexed by the writes still to do, has to satisfy for `runPlan` to end in `Q`. -/
structure LoopRule (A : Arena nodeSignature W) (G : Guarantee nodeSignature W) (uid dir : String)
    (J : List Write → Pending → W → Prop) (Q : LoopEnd × Pending → W → Prop) : Prop where
  silent : ∀ writes pending, Silent A G (J writes pending)
  ctx : A.Inert G .ctxErr
  stat : A.Inert G (.stat dir)
  written : ∀ write rest pending w, J (write :: rest) pending w → ∀ w',
    A.act w (.writeFile dir write.knob write.value) .written w' →
      G w (.writeFile dir write.knob write.value) .written w' ∧
        J rest (recordCompletedWrite pending uid write) w'
  refused : ∀ write rest pending w, J (write :: rest) pending w → ∀ answer w',
    A.act w (.writeFile dir write.knob write.value) answer w' → answer ≠ .written →
      G w (.writeFile dir write.knob write.value) answer w' ∧ J (write :: rest) pending w'
  completed : ∀ pending w, J [] pending w → Q (.completed, pending) w
  failed : ∀ write rest pending err w, J (write :: rest) pending w →
    Q (.returned (some err), pending) w
  gone : ∀ write rest pending w, J (write :: rest) pending w → A.act w (.stat dir) .notExist w →
    Q (.returned none, pending.erase uid) w

/-- One `J` at every point, reports included. -/
theorem LoopRule.steps {cfg : Config} {pod : Pod} {dir : String} {success : Write → Node Unit}
    {onEinval : Node Unit} {J : List Write → Pending → W → Prop} {Q : LoopEnd × Pending → W → Prop}
    (rule : LoopRule A G pod.uid dir J Q)
    (reports : ∀ write writes pending, Holds A G (J writes pending) (success write)
      fun _ w => J writes pending w)
    (einval : ∀ write rest pending, write.knob ≠ knobCPUWeight →
      Holds A G (J (write :: rest) pending) onEinval fun _ w => Q (.returned none, pending) w) :
    LoopSteps A G cfg pod dir success onEinval J J
      (fun write rest pending w => J rest (recordCompletedWrite pending pod.uid write) w)
      (fun err writes pending w => J writes pending w ∧
        (err.is .cgroupGone = true → A.act w (.stat dir) .notExist w))
      (fun _ writes pending w => J writes pending w) Q where
  check write rest pending := by
    refine (Holds.keeps (rule.silent (write :: rest) pending).stable (rule.ctx.keeps _)).post
      fun cancelled w known => ?_
    split
    · exact rule.failed write rest pending _ w known
    · exact known
  write write rest pending := writeKnob_holds (rule.silent (write :: rest) pending).stable rule.stat
    (rule.written write rest pending) (rule.refused write rest pending) fun w err holds gone => ⟨holds, gone⟩
  traced write rest pending := reports write rest _
  gone err write rest pending w gone known := rule.gone write rest pending w known.1 (known.2 gone)
  refused err write rest pending _ := .pre ((rule.silent (write :: rest) pending).record _ _ _ _ _ _ _)
    fun w known => known.1
  einval err write rest pending _ tier := einval write rest pending tier
  failed err err' write rest pending w _ known := rule.failed write rest pending err' w known
  completed := rule.completed

theorem runPlan_holds {cfg : Config} {context : String} {pod : Pod} {dir : String}
    {success : Write → Node Unit} {onEinval : Node Unit}
    {J : List Write → Pending → W → Prop} {Q : LoopEnd × Pending → W → Prop}
    (rule : LoopRule A G pod.uid dir J Q)
    (reports : ∀ write writes pending, Holds A G (J writes pending) (success write)
      fun _ w => J writes pending w)
    (einval : ∀ write rest pending, write.knob ≠ knobCPUWeight →
      Holds A G (J (write :: rest) pending) onEinval fun _ w => Q (.returned none, pending) w)
    (pending : Pending) (writes : List Write) :
    Holds A G (J writes pending) (runPlan cfg context pod dir success onEinval pending writes) Q :=
  runPlan_steps (rule.steps reports einval) pending writes

omit [PrintTable] in
theorem reportSuccess_holds {P : W → Prop} (silent : Silent A G P) (cfg : Config) (pod : Pod)
    (write : Write) : Holds A G P (reportSuccess cfg pod write) fun _ w => P w :=
  .ite (fun _ => silent.record _ _ _ _ _ _ _) fun _ => silent.record _ _ _ _ _ _ _

omit [PrintTable] in
theorem reportNotes_holds {P : W → Prop} (silent : Silent A G P) (cfg : Config) (pod : Pod)
    (notes : List Tier.Note) : Holds A G P (reportNotes cfg pod notes) fun _ w => P w := by
  induction notes with
  | nil => exact .pure fun _ holds => holds
  | cons note rest ih =>
      refine .bind (R := fun _ w => P w) ?_ fun _ => ih
      refine .ite (fun _ => .keeps silent.stable (silent.event _)) fun _ => ?_
      exact .ite (fun _ => silent.record _ _ _ _ _ _ _) fun _ => .pure fun _ holds => holds

omit [PrintTable] in
theorem reportApplyNotices_holds {P : W → Prop} (silent : Silent A G P) (cfg : Config) (pod : Pod)
    (desired : Tier.State) (notes : List Tier.Note) (snapshot : Snapshot) :
    Holds A G P (reportApplyNotices cfg pod desired notes snapshot) fun _ w => P w := by
  refine .bind (reportNotes_holds silent cfg pod notes) fun _ => ?_
  exact .ite (fun _ => silent.record _ _ _ _ _ _ _) fun _ => .pure fun _ holds => holds

variable [Qos.ResourceHelper]

/-- What `Apply` publishes when it is asked to. -/
def noticesOf (cfg : Config) (pod : Pod) (reportNotices : Bool) (snapshot : Snapshot) : Node Unit :=
  if reportNotices then
    reportApplyNotices cfg pod (Tier.desired pod).1 (Tier.desired pod).2 snapshot
  else return ()

theorem noticesOf_holds {P : W → Prop} (silent : Silent A G P) (cfg : Config) (pod : Pod)
    (reportNotices : Bool) (snapshot : Snapshot) :
    Holds A G P (noticesOf cfg pod reportNotices snapshot) fun _ w => P w :=
  .ite (fun _ => reportApplyNotices_holds silent _ _ _ _ _) fun _ => .pure fun _ holds => holds

/-- How a loop's end becomes the result of the call: `J []` is left to the caller. -/
def loopResult (J : List Write → Pending → W → Prop) (Q : Option GoError × Pending → W → Prop) :
    LoopEnd × Pending → W → Prop
  | (.completed, pending), w => J [] pending w
  | (.returned err, pending), w => Q (err, pending) w

/-- **The rule of `Apply`**, around any triple of its loop. -/
theorem apply_around {cfg : Config} {pending : Pending} {pod : Pod} {reportNotices : Bool}
    {P : W → Prop} {J : Snapshot → List Write → Pending → W → Prop}
    {Q : Option GoError × Pending → W → Prop} (stable : A.Stable P) (ctx : A.Inert G .ctxErr)
    (failed : ∀ err w, P w → Q (some err, pending) w)
    (read : ∀ dir, cfg.layout.podDir (Qos.toCgroupClass (Qos.classOf pod.spec)) pod.uid = .ok dir →
      Holds A G P (readSnapshot dir) fun result w =>
        match result with
        | .ok s => J s (planFor pending pod (Tier.desired pod).1 s).1
            (planFor pending pod (Tier.desired pod).1 s).2 w
        | .error err =>
            (err.is .cgroupGone = true → Q (none, pending.erase pod.uid) w) ∧
              ∀ err', Q (some err', pending) w)
    (loop : ∀ dir s,
      cfg.layout.podDir (Qos.toCgroupClass (Qos.classOf pod.spec)) pod.uid = .ok dir →
        ∀ pending writes, Holds A G (J s writes pending)
          (runPlan cfg "apply" pod dir (reportSuccess cfg pod) (noticesOf cfg pod reportNotices s) pending
            writes) (loopResult (J s) Q))
    (steady : ∀ dir s,
      cfg.layout.podDir (Qos.toCgroupClass (Qos.classOf pod.spec)) pod.uid = .ok dir →
        ∀ pending, A.Stable (J s [] pending))
    (notices : ∀ s pending, Holds A G (J s [] pending) (noticesOf cfg pod reportNotices s)
      fun _ w => Q (none, pending) w)
    (cut : ∀ s pending err w, J s [] pending w → Q (some err, pending) w) :
    Holds A G P (apply cfg pending pod reportNotices) Q := by
  unfold apply
  refine .bind (.keeps stable (ctx.keeps _)) fun cancelled => ?_
  refine .ite (fun _ => .pure fun w holds => failed _ w holds) fun _ => ?_
  cases computed : cfg.layout.podDir (Qos.toCgroupClass (Tier.desired pod).1.qosClass)
      (Tier.desired pod).1.uid with
  | error err =>
      simp only [computed]
      exact .pure fun w holds => failed _ w holds
  | ok dir =>
      simp only [computed]
      refine .bind (read dir computed) fun result => ?_
      cases result with
      | error err =>
          exact .ite (fun gone => .pure fun w known => known.1 gone) fun _ =>
            .pure fun w known => known.2 _
      | ok s =>
          refine .bind (loop dir s computed _ _) fun ended => ?_
          rcases ended with ⟨ended, pending'⟩
          cases ended with
          | returned err => exact .pure fun w known => known
          | completed =>
              refine .bind (.keeps (steady dir s computed pending') (ctx.keeps _)) fun cancelled => ?_
              refine .ite (fun _ => .pure fun w known => cut s _ _ w known) fun _ => ?_
              exact .bind (notices s pending') fun _ => .pure fun w holds => holds

/-- **The rule of `Revert`**, around any triple of its loop. -/
theorem revert_around {cfg : Config} {pending : Pending} {pod : Pod} {state : Snapshot}
    {P : W → Prop} {J : List Write → Pending → W → Prop}
    {Q : Option GoError × Pending → W → Prop} (stable : A.Stable P) (ctx : A.Inert G .ctxErr)
    (failed : ∀ err w, P w → Q (some err, pending) w)
    (start : ∀ w, P w → J (planFor pending pod .zero state).1 (planFor pending pod .zero state).2 w)
    (loop : ∀ dir,
      cfg.layout.podDir (Qos.toCgroupClass (Qos.classOf pod.spec)) pod.uid = .ok dir →
        ∀ pending writes, Holds A G (J writes pending)
          (runPlan cfg "apply: revert" pod dir
            (fun write => reverted cfg.node pod write.knob TierApplyResult.reverted TierApplyReason.ok)
            (pure ()) pending writes) (loopResult J Q))
    (completed : ∀ pending w, J [] pending w → Q (none, pending) w) :
    Holds A G P (revert cfg pending pod state) Q := by
  unfold revert
  refine .bind (.keeps stable (ctx.keeps _)) fun cancelled => ?_
  refine .ite (fun _ => .pure fun w holds => failed _ w holds) fun _ => ?_
  cases computed : cfg.layout.podDir (Qos.toCgroupClass (Qos.classOf pod.spec)) pod.uid with
  | error err => exact .pure fun w holds => failed _ w holds
  | ok dir =>
      refine .bind (.pre (loop dir computed _ _) start) fun ended => ?_
      rcases ended with ⟨ended, pending'⟩
      cases ended with
      | returned err => exact .pure fun w known => known
      | completed => exact .pure fun w known => completed _ w known

/-- The rule of `Apply` with one assertion through the loop. -/
theorem apply_holds {cfg : Config} {pending : Pending} {pod : Pod} {reportNotices : Bool}
    {P : W → Prop} {J : Snapshot → List Write → Pending → W → Prop}
    {Q : Option GoError × Pending → W → Prop} (stable : A.Stable P) (ctx : A.Inert G .ctxErr)
    (failed : ∀ err w, P w → Q (some err, pending) w)
    (read : ∀ dir, cfg.layout.podDir (Qos.toCgroupClass (Qos.classOf pod.spec)) pod.uid = .ok dir →
      Holds A G P (readSnapshot dir) fun result w =>
        match result with
        | .ok s => J s (planFor pending pod (Tier.desired pod).1 s).1
            (planFor pending pod (Tier.desired pod).1 s).2 w
        | .error err =>
            (err.is .cgroupGone = true → Q (none, pending.erase pod.uid) w) ∧
              ∀ err', Q (some err', pending) w)
    (loop : ∀ dir s,
      cfg.layout.podDir (Qos.toCgroupClass (Qos.classOf pod.spec)) pod.uid = .ok dir →
        LoopRule A G pod.uid dir (J s) (loopResult (J s) Q))
    (notices : ∀ s writes pending, (∀ write ∈ writes.head?, write.knob ≠ knobCPUWeight) →
      Holds A G (J s writes pending) (noticesOf cfg pod reportNotices s)
        fun _ w => Q (none, pending) w)
    (cut : ∀ s pending err w, J s [] pending w → Q (some err, pending) w) :
    Holds A G P (apply cfg pending pod reportNotices) Q :=
  apply_around (J := J) stable ctx failed read (fun dir s computed => runPlan_holds (loop dir s computed)
    (fun write writes p => reportSuccess_holds ((loop dir s computed).silent writes p) cfg pod write)
    fun write rest p tier => notices s (write :: rest) p (by simpa using tier))
    (fun dir s computed p => ((loop dir s computed).silent [] p).stable) (fun s p => notices s [] p (by simp)) cut

/-- The rule of `Revert` with one assertion through the loop. -/
theorem revert_holds {cfg : Config} {pending : Pending} {pod : Pod} {state : Snapshot}
    {P : W → Prop} {J : List Write → Pending → W → Prop}
    {Q : Option GoError × Pending → W → Prop} (stable : A.Stable P) (ctx : A.Inert G .ctxErr)
    (failed : ∀ err w, P w → Q (some err, pending) w)
    (start : ∀ w, P w → J (planFor pending pod .zero state).1 (planFor pending pod .zero state).2 w)
    (loop : ∀ dir,
      cfg.layout.podDir (Qos.toCgroupClass (Qos.classOf pod.spec)) pod.uid = .ok dir →
        LoopRule A G pod.uid dir J (loopResult J Q))
    (einval : ∀ write rest pending w, write.knob ≠ knobCPUWeight → J (write :: rest) pending w →
      Q (none, pending) w)
    (completed : ∀ pending w, J [] pending w → Q (none, pending) w) :
    Holds A G P (revert cfg pending pod state) Q :=
  revert_around stable ctx failed start (fun dir computed => runPlan_holds (loop dir computed)
    (fun _ writes p => ((loop dir computed).silent writes p).record _ _ _ _ _ _ _)
    fun write rest p tier => .pure fun w holds => einval write rest p w tier holds) completed

/-! ## What a call writes -/

omit [Qos.ResourceHelper] in
theorem readSnapshot_keeps {P : W → Prop} {dir : String} (stable : A.Stable P)
    (stat : A.Keeps G P (.stat dir)) (read : ∀ name, A.Keeps G P (.readFile dir name)) :
    Holds A G P (readSnapshot dir) fun _ w => P w := by
  have knob : ∀ name, Holds A G P (readKnob dir name) fun _ w => P w := fun name =>
    readKnob_keeps stable stat (read name)
  unfold readSnapshot
  refine .bind (knob knobCPUIdle) fun result => ?_
  cases result with
  | error err => exact .pure fun w holds => holds
  | ok idleRaw =>
  refine .bind (knob knobCPUWeight) fun result => ?_
  cases result with
  | error err => exact .pure fun w holds => holds
  | ok weightRaw =>
  refine .bind (knob knobCPUMax) fun result => ?_
  cases result with
  | error err => exact .pure fun w holds => holds
  | ok maxRaw =>
  refine .bind (knob knobCPUMaxBurst) fun result => ?_
  cases result with
  | error err => exact .pure fun w holds => holds
  | ok burstRaw => exact .pure fun w holds => holds

/-- Not the error of a cgroup that is gone. -/
def Present (result : Option GoError) : Prop := ∀ err ∈ result, err.is .cgroupGone = false

omit [Qos.ResourceHelper] in
theorem runPlan_returns (cfg : Config) (context : String) (pod : Pod) (dir : String)
    (success : Write → Node Unit) (onEinval : Node Unit) (pending : Pending) (writes : List Write) :
    (runPlan cfg context pod dir success onEinval pending writes).Returns fun ended =>
      ∀ err, ended.1 = .returned err → Present err := by
  have returned : ∀ {err : Option GoError} {pending' : Pending}, Present err →
      (pure (LoopEnd.returned err, pending') : Node (LoopEnd × Pending)).Returns fun ended =>
        ∀ err, ended.1 = .returned err → Present err := by
    intro err pending' present err' same
    cases same
    exact present
  have nil : Present none := by simp [Present]
  have wrapped : ∀ (err : GoError) (text : String), err.is .cgroupGone ≠ true →
      Present (some (err.wrap text)) := by simp [Present]
  induction writes generalizing pending with
  | nil => simp [runPlan, Program.Returns]
  | cons write rest ih =>
      unfold runPlan
      refine .after fun cancelled => .ite (fun _ => returned ?_) fun _ => .after fun result => ?_
      · simp [Present, canceled, GoError.is]
      cases result with
      | none => exact .after fun _ => ih _
      | some writeErr =>
          refine .ite (fun _ => returned nil) fun there => ?_
          have failed := fun text => wrapped writeErr text there
          refine .ite (fun _ => .after fun _ => ?_) fun _ => ?_
          · exact .ite (fun _ => returned (failed _)) fun _ => .after fun _ => returned nil
          · exact .ite (fun _ => .after fun _ => returned (failed _)) fun _ =>
              .after fun _ => returned (failed _)

/-- `Revert` of a pod with a directory never says that it is gone. -/
theorem revert_returns {cfg : Config} {pending : Pending} {pod : Pod} {state : Snapshot} {dir : String}
    (computed : cfg.layout.podDir (Qos.toCgroupClass (Qos.classOf pod.spec)) pod.uid = .ok dir) :
    (revert cfg pending pod state).Returns fun result => Present result.1 := by
  unfold revert
  refine .after fun cancelled => .ite (fun _ => ?_) fun _ => ?_
  · simp [Program.Returns, Present, canceled, GoError.is]
  simp only [computed]
  refine .bind (runPlan_returns _ _ _ _ _ _ _ _) fun ended present => ?_
  obtain ⟨ended, pending'⟩ := ended
  cases ended with
  | returned err => exact present err rfl
  | completed => simp [Program.Returns, Present]

/-- An event that writes no `cpu.max`. -/
def SparesMax (event : Program.Event nodeSignature) : Prop :=
  ∀ dir value, event.1 ≠ .writeFile dir knobCPUMax value

omit [PrintTable] in
theorem planFor_spares_max {pending : Pending} {pod : Pod} {desired : Tier.State} {s : Snapshot} :
    ∀ write ∈ (planFor pending pod desired s).1, write.knob ≠ knobCPUMax := by
  intro write member
  rcases mem_planFor member with rfl | rfl | rfl
  · exact (by decide : knobCPUMaxBurst ≠ knobCPUMax)
  · exact (by decide : knobCPUIdle ≠ knobCPUMax)
  · exact (by decide : knobCPUWeight ≠ knobCPUMax)

section Free

abbrev sparing : Guarantee nodeSignature Unit := fun _ r answer _ => SparesMax ⟨r, answer⟩

omit [PrintTable] [Qos.ResourceHelper] in
theorem free_silent (P : Unit → Prop) : Silent (Arena.free nodeSignature) sparing P where
  stable := Arena.free_stable P
  inc _ _ holds _ _ _ := ⟨nofun, holds⟩
  event _ _ holds _ _ _ := ⟨nofun, holds⟩

omit [PrintTable] [Qos.ResourceHelper] in
theorem free_loop (uid dir : String) : LoopRule (Arena.free nodeSignature) sparing uid dir
    (fun writes _ _ => ∀ write ∈ writes, write.knob ≠ knobCPUMax)
    (loopResult (fun writes _ _ => ∀ write ∈ writes, write.knob ≠ knobCPUMax) fun _ _ => True) where
  silent _ _ := free_silent _
  ctx _ _ _ _ := ⟨rfl, nofun⟩
  stat _ _ _ _ := ⟨rfl, nofun⟩
  written write rest pending w spares w' _ := by
    obtain ⟨here, later⟩ := List.forall_mem_cons.mp spares
    exact ⟨fun d v same => here (Request.writeFile.inj same).2.1, later⟩
  refused write rest pending w spares answer w' _ _ := by
    obtain ⟨here, -⟩ := List.forall_mem_cons.mp spares
    exact ⟨fun d v same => here (Request.writeFile.inj same).2.1, spares⟩
  completed _ _ spares := spares
  failed _ _ _ _ _ _ := trivial
  gone _ _ _ _ _ _ := trivial

/-- `Apply` never writes `cpu.max`, whatever it is answered. -/
theorem apply_spares_max {cfg : Config} {pending : Pending} {pod : Pod} {reportNotices : Bool}
    {events : List (Program.Event nodeSignature)} {p' : Node (Option GoError × Pending)}
    (path : Program.Path (apply cfg pending pod reportNotices) events p') :
    ∀ event ∈ events, SparesMax event := by
  refine Holds.events (P := fun _ => True) (Q := fun _ _ => True) ?_ trivial path
  refine apply_holds (J := fun _ writes _ _ => ∀ write ∈ writes, write.knob ≠ knobCPUMax)
    (Arena.free_stable _) (fun _ _ _ _ => ⟨rfl, nofun⟩) (fun _ _ _ => trivial) (fun dir _ => ?_)
    (fun dir s _ => free_loop pod.uid dir)
    (fun s writes p _ => (noticesOf_holds (free_silent _) cfg pod reportNotices s).post fun _ _ _ => trivial)
    fun _ _ _ _ _ => trivial
  refine (readSnapshot_keeps (Arena.free_stable _) (fun _ holds _ _ _ => ⟨nofun, holds⟩)
    fun name _ holds _ _ _ => ⟨nofun, holds⟩).post fun result w _ => ?_
  cases result with
  | ok s => exact planFor_spares_max
  | error err => exact ⟨fun _ => trivial, fun _ => trivial⟩

/-- Nor does `Revert`. -/
theorem revert_spares_max {cfg : Config} {pending : Pending} {pod : Pod} {state : Snapshot}
    {events : List (Program.Event nodeSignature)} {p' : Node (Option GoError × Pending)}
    (path : Program.Path (revert cfg pending pod state) events p') :
    ∀ event ∈ events, SparesMax event := by
  refine Holds.events (P := fun _ => True) (Q := fun _ _ => True) ?_ trivial path
  exact revert_holds (J := fun writes _ _ => ∀ write ∈ writes, write.knob ≠ knobCPUMax)
    (Arena.free_stable _) (fun _ _ _ _ => ⟨rfl, nofun⟩) (fun _ _ _ => trivial)
    (fun _ _ => planFor_spares_max) (fun dir _ => free_loop pod.uid dir)
    (fun _ _ _ _ _ _ => trivial) fun _ _ _ => trivial

end Free

end

end CpuIdle.Apply
