/-
# Agent.Trace — every change of a cgroup leaves exactly one trace

`every_write_traced` covers the four places that write control files: `Apply`, `Revert`,
`suppressPod` and `restorePod`. The log of a call is a sequence of attempts, each followed
by its own trace; only `Apply` adds anything, its notices, and only at the end.

* `Follows` — the attempts take the writes of a plan in its order, in one directory, and
  only the last may fail;
* `Trace.Applies`, `Trace.Reverts`, `Trace.Guards` — which directory and which plan: the
  pod's, and the one for the snapshot that the call has read or is given.
-/
import CpuIdle.Apply.Agreement
import CpuIdle.Guard.Rules
import CpuIdle.Observe.Trace

namespace CpuIdle.Agent

open CpuIdle.Go CpuIdle.Kube CpuIdle.Node CpuIdle.Theory CpuIdle.Observe CpuIdle.Cgroup CpuIdle.Apply

set_option autoImplicit false

/-! ## The directions -/

/-- Turns `cpu.idle` or `cpu.max.burst` on. -/
def turnsOn (knob value : String) : Bool :=
  decide (knob = knobCPUIdle ∨ knob = knobCPUMaxBurst) && decide (value ≠ "0")

/-- `Applied` for turning a knob on; `Reverted` for clearing it and for every weight. -/
def tierTrace (node : String) (pod : Pod) (knob value : String) : Log :=
  if turnsOn knob value then
    recorded node pod knob TierApplyResult.applied TierApplyReason.ok eventTypeNormal "TierApplied"
  else recorded node pod knob TierApplyResult.reverted TierApplyReason.ok eventTypeNormal "TierReverted"

/-- `Apply` and `Revert`. A cgroup that is gone is not reported. -/
def tierTracing (node : String) (pod : Pod) : Tracing := ⟨node, pod, tierTrace node pod, Outcome.gone⟩

/-- `suppressPod`. -/
def suppressTracing (node : String) (pod : Pod) : Tracing where
  node := node
  pod := pod
  success knob _ := recorded node pod knob TierApplyResult.applied TierApplyReason.nodeGuard
    eventTypeNormal "IdleSuppressed"
  spared _ := false

/-- `restorePod`. -/
def restoreTracing (node : String) (pod : Pod) : Tracing where
  node := node
  pod := pod
  success knob _ := recorded node pod knob TierApplyResult.reverted TierApplyReason.nodeGuard
    eventTypeNormal "IdleRestored"
  spared _ := false

/-- An annotation notice: its Event, or the counter of an inactive tier. -/
def IsNotice : Program.Event nodeSignature → Prop
  | ⟨.inc (.tierApplyTotal _ _ _ result _), _⟩ => result = TierApplyResult.inactive
  | ⟨.event e, _⟩ => e.reason = "TierValueUnknown" ∨ e.reason = "TierInactive"
  | _ => False

/-- Attempts at the writes of `plan` in `dir`, in its order, up to the first that fails. A write is
refused only where `dir` is no pod's directory. -/
structure Follows [PrintTable] (layout : Layout) (dir : String) (plan : List Write)
    (attempts : List Attempt) : Prop where
  order : (attempts.map fun a => (⟨a.knob, a.value⟩ : Write)) <+: plan
  here : ∀ a ∈ attempts, a.dir = dir
  succeeded : ∀ a ∈ attempts.dropLast, a.outcome.succeeded = true
  refused : ∀ a ∈ attempts, a.outcome = .refused →
    guardWriteTarget dir layout.root layout.kubepodsName ≠ none

namespace Trace

open CpuIdle.Observe.Trace

section

variable [PrintTable] {t : Tracing} {layout : Layout} {dir : String} {plan rest : List Write} {write : Write}

/-- All the attempts so far have succeeded, and `rest` is left of the plan. -/
structure Done (dir : String) (plan rest : List Write) (attempts : List Attempt) : Prop where
  order : (attempts.map fun a => (⟨a.knob, a.value⟩ : Write)) ++ rest = plan
  here : ∀ a ∈ attempts, a.dir = dir
  succeeded : ∀ a ∈ attempts, a.outcome.succeeded = true

omit [PrintTable] in
theorem Done.start : Done dir plan plan [] := ⟨rfl, nofun, nofun⟩

theorem Done.follows {attempts : List Attempt} (done : Done dir plan rest attempts) :
    Follows layout dir plan attempts where
  order := ⟨rest, done.order⟩
  here := done.here
  succeeded a member := done.succeeded a (List.dropLast_subset _ member)
  refused a member refused := by
    have succeeded := done.succeeded a member
    rw [refused] at succeeded
    cases succeeded

omit [PrintTable] in
theorem Done.next {attempts : List Attempt} {o : Outcome} (done : Done dir plan (write :: rest) attempts)
    (succeeded : o.succeeded = true) :
    Done dir plan rest (attempts ++ [⟨dir, write.knob, write.value, o⟩]) where
  order := by simpa using done.order
  here := by
    intro a member
    rcases List.mem_append.mp member with earlier | last
    · exact done.here a earlier
    · rw [List.mem_singleton.mp last]
  succeeded := by
    intro a member
    rcases List.mem_append.mp member with earlier | last
    · exact done.succeeded a earlier
    · rwa [List.mem_singleton.mp last]

/-- A failed attempt is the last. -/
theorem Done.last {attempts : List Attempt} {o : Outcome} (done : Done dir plan (write :: rest) attempts)
    (refused : o = .refused → guardWriteTarget dir layout.root layout.kubepodsName ≠ none) :
    Follows layout dir plan (attempts ++ [⟨dir, write.knob, write.value, o⟩]) where
  order := ⟨rest, by simpa using done.order⟩
  here := by
    intro a member
    rcases List.mem_append.mp member with earlier | last
    · exact done.here a earlier
    · rw [List.mem_singleton.mp last]
  succeeded a member := by
    rw [List.dropLast_concat] at member
    exact done.succeeded a member
  refused := by
    intro a member isRefused
    rcases List.mem_append.mp member with earlier | last
    · exact done.follows.refused a earlier isRefused
    · rw [List.mem_singleton.mp last] at isRefused
      exact refused isRefused

omit [PrintTable] in
theorem Done.mem {attempts : List Attempt} (done : Done dir plan (write :: rest) attempts) : write ∈ plan := by
  rw [← done.order]
  simp

/-- The log while the plan goes well, with `rest` to do. -/
abbrev Going (t : Tracing) (dir : String) (plan rest : List Write) : Log → Prop :=
  Traced t (Done dir plan rest)

/-- The log after one attempt that has not been traced yet. -/
def Attempted (t : Tracing) (layout : Layout) (dir : String) (plan : List Write) (write : Write)
    (rest : List Write) (result : Option GoError) (now : Log) : Prop :=
  ∃ past o, Going t dir plan (write :: rest) past ∧
    (o = .refused → guardWriteTarget dir layout.root layout.kubepodsName ≠ none) ∧
    o.Reported result ∧ now = past ++ Attempt.asked ⟨dir, write.knob, write.value, o⟩

theorem attempts (allowed : ∀ write ∈ plan, allowedKnob write.knob = true) :
    Holds arena anything (Going t dir plan (write :: rest))
      (writeKnob layout.root layout.kubepodsName dir write.knob write.value)
      (Attempted t layout dir plan write rest) := by
  refine .of_forall fun past traced => ?_
  have planned : write ∈ plan := traced.elim fun _ ⟨_, _, done, _⟩ => done.mem
  refine (writeKnob_logged (allowed write planned) past).post fun result now known => ?_
  obtain ⟨o, reported, refused, rfl⟩ := known
  exact ⟨past, o, traced, refused, reported, rfl⟩

/-- The trace of a write that succeeded. -/
theorem traces {report : Node Unit}
    (reports : ∀ past, Holds arena anything (· = past) report
      fun _ now => now = past ++ t.success write.knob write.value) :
    Holds arena anything (Attempted t layout dir plan write rest none) report
      fun _ now => Going t dir plan rest now := by
  refine .of_forall fun w known => (reports w).post fun _ now added => ?_
  obtain ⟨past, o, traced, -, succeeded, rfl⟩ := known
  have trace : t.trace ⟨dir, write.knob, write.value, o⟩ = t.success write.knob write.value :=
    if_pos succeeded
  rw [added, ← trace]
  exact traced.take fun _ done => done.next succeeded

/-- The trace of a write that failed and is reported. -/
theorem rejects {err : GoError} {reason : String}
    (unspared : ∀ o : Outcome, o.Reported (some err) → t.spared o = false)
    (same : ∀ o : Outcome, o.Reported (some err) → reason = o.reason) :
    Holds arena anything (Attempted t layout dir plan write rest (some err))
      (rejected t.node t.pod write.knob TierApplyResult.rejected reason)
      fun _ now => Traced t (Follows layout dir plan) now := by
  refine .of_forall fun w known => (record_logged _ _ _ _ _ _ _ w).post fun _ now added => ?_
  obtain ⟨past, o, traced, refused, failed, rfl⟩ := known
  have trace : t.trace ⟨dir, write.knob, write.value, o⟩ = recorded t.node t.pod write.knob
      TierApplyResult.rejected reason eventTypeWarning "WriteRejected" := by
    rw [Tracing.trace, failed.1, unspared _ failed, same _ failed]
    rfl
  rw [added, ← trace]
  exact traced.take fun _ done => done.last refused

/-- A failure that is not reported is not traced. -/
theorem vanished {err : GoError} {now : Log}
    (spared : ∀ o : Outcome, o.Reported (some err) → t.spared o = true)
    (attempted : Attempted t layout dir plan write rest (some err) now) :
    Traced t (Follows layout dir plan) now := by
  obtain ⟨past, o, traced, refused, failed, rfl⟩ := attempted
  have trace : t.trace ⟨dir, write.knob, write.value, o⟩ = [] := by
    rw [Tracing.trace, failed.1, spared _ failed]
    rfl
  have taken : Traced t (Follows layout dir plan) _ := traced.take fun _ done => done.last refused
  rwa [trace, List.append_nil] at taken

theorem Going.follows {now : Log} (going : Going t dir plan rest now) :
    Traced t (Follows layout dir plan) now :=
  going.mono fun _ done => done.follows

omit [PrintTable] in
/-- Both tests for the reason come out the same: no error is refused and EINVAL at once. -/
theorem refusalReason_eq {err : GoError} {o : Outcome} (reported : o.Reported (some err)) :
    refusalReason err = o.reason := by
  obtain ⟨-, -, einval, refused⟩ := reported
  unfold refusalReason Outcome.reason
  rw [einval, refused]
  by_cases isRefused : o = .refused
  · subst isRefused
    rfl
  · simp [isRefused]

/-! ## The applier -/

/-- How the log stands when the write loop is left. -/
def loopLog (traced ended : Log → Prop) : LoopEnd × Pending → Log → Prop
  | (.completed, _), now => traced now
  | (.returned _, _), now => ended now

theorem loop (cfg : Apply.Config) (pod : Pod) (dir : String) (success : Write → Node Unit)
    (onEinval : Node Unit) {ended : Log → Prop} (allowed : ∀ write ∈ plan, allowedKnob write.knob = true)
    (successful : ∀ write ∈ plan, ∀ past, Holds arena anything (· = past) (success write)
      fun _ now => now = past ++ tierTrace cfg.node pod write.knob write.value)
    (noticed : Holds arena anything
      (Traced (tierTracing cfg.node pod) (Follows cfg.layout dir plan)) onEinval fun _ => ended)
    (finished : ∀ now, Traced (tierTracing cfg.node pod) (Follows cfg.layout dir plan) now → ended now) :
    let t := tierTracing cfg.node pod
    let traced := Traced t (Follows cfg.layout dir plan)
    LoopSteps arena anything cfg pod dir success onEinval
      (fun rest _ now => Going t dir plan rest now) (fun rest _ now => Going t dir plan rest now)
      (fun write rest _ now => Attempted t cfg.layout dir plan write rest none now)
      (fun err rest _ now => ∀ write later, rest = write :: later →
        Attempted t cfg.layout dir plan write later (some err) now)
      (fun _ _ _ now => traced now) (loopLog traced ended) := by
  intro t traced
  exact {
    check := fun write rest pending =>
      (Holds.keeps (stable _) ((inert (r := .ctxErr) rfl).keeps _)).post fun cancelled now going => by
        cases cancelled with
        | true => exact finished now going.follows
        | false => exact going
    write := fun write rest pending => (attempts allowed).post fun result now known => by
      cases result with
      | none => exact known
      | some err =>
          intro other later same
          obtain ⟨rfl, rfl⟩ := List.cons.inj same
          exact known
    traced := fun write rest pending => .of_forall fun past known => by
      have planned : write ∈ plan := by
        obtain ⟨_, _, ⟨_, _, _, done, _⟩, _⟩ := known
        exact done.mem
      exact (traces (successful write planned)).pre fun now same => same ▸ known
    gone := fun err write rest pending now gone known =>
      finished now (vanished (fun _ failed => failed.2.1.symm.trans gone) (known write rest rfl))
    refused := fun err write rest pending there =>
      .pre (rejects (t := t) (fun _ failed => failed.2.1.symm.trans there)
        fun _ => refusalReason_eq) fun now known => known write rest rfl
    einval := fun _ _ _ _ _ _ => noticed
    failed := fun _ _ _ _ _ now _ known => finished now known
    completed := fun _ now going => going.follows }

/-- What follows `past` is notices. -/
def Noticed (past now : Log) : Prop := ∃ notices, (∀ event ∈ notices, IsNotice event) ∧ now = past ++ notices

omit [PrintTable] in
theorem Noticed.trans {past mid now : Log} (first : Noticed past mid) (second : Noticed mid now) :
    Noticed past now := by
  obtain ⟨some, areSome, rfl⟩ := first
  obtain ⟨more, areMore, rfl⟩ := second
  refine ⟨some ++ more, fun event member => ?_, List.append_assoc _ _ _⟩
  exact (List.mem_append.mp member).elim (areSome event) (areMore event)

omit [PrintTable] in
theorem Noticed.none (past : Log) : Noticed past past := ⟨[], by simp, by simp⟩

omit [PrintTable] in
theorem inactive_logged (cfg : Apply.Config) (pod : Pod) (knob reason : String) (past : Log) :
    Holds arena anything (· = past) (inactive cfg.node pod knob TierApplyResult.inactive reason)
      fun _ now => Noticed past now := by
  refine (record_logged _ _ _ _ _ _ _ past).post fun _ now added => ⟨_, ?_, added⟩
  intro event member
  rcases List.mem_cons.mp member with rfl | member
  · exact (by decide : normalizeTierApplyResult TierApplyResult.inactive = TierApplyResult.inactive)
  · rw [List.mem_singleton.mp member]
    exact .inr rfl

omit [PrintTable] in
theorem note_logged (cfg : Apply.Config) (pod : Pod) (note : Tier.Note) (past : Log) :
    Holds arena anything (· = past) (reportNote cfg pod note) fun _ now => Noticed past now := by
  have unknown : Holds arena anything (· = past) (tierValueUnknown pod note.message)
      fun _ now => Noticed past now := by
    refine (adds (r := .event _) rfl past).post fun _ now added => ⟨_, ?_, added⟩
    intro event member
    rw [List.mem_singleton.mp member]
    exact .inl rfl
  exact .ite (fun _ => unknown) fun _ => .ite (fun _ => inactive_logged _ _ _ _ _) fun _ =>
    .pure fun now same => same ▸ Noticed.none past

omit [PrintTable] in
/-- One report after another. -/
theorem then_notices {past : Log} {p : Node Unit} {f : Unit → Node Unit}
    (first : Holds arena anything (· = past) p fun _ now => Noticed past now)
    (rest : ∀ past, Holds arena anything (· = past) (f ()) fun _ now => Noticed past now) :
    Holds arena anything (· = past) (p >>= f) fun _ now => Noticed past now :=
  .bind first fun _ => .of_forall fun mid noticed =>
    (rest mid).post fun _ _ more => noticed.trans more

omit [PrintTable] in
theorem notes_logged (cfg : Apply.Config) (pod : Pod) (notes : List Tier.Note) (past : Log) :
    Holds arena anything (· = past) (reportNotes cfg pod notes) fun _ now => Noticed past now := by
  induction notes generalizing past with
  | nil => exact .pure fun now same => same ▸ Noticed.none past
  | cons note rest ih => exact then_notices (note_logged cfg pod note past) ih

variable [Qos.ResourceHelper]

theorem notices_logged (cfg : Apply.Config) (pod : Pod) (reportNotices : Bool) (snapshot : Snapshot)
    (past : Log) : Holds arena anything (· = past) (noticesOf cfg pod reportNotices snapshot)
      fun _ now => Noticed past now := by
  have silence : ∀ past, Holds arena anything (· = past) (pure () : Node Unit)
      fun _ now => Noticed past now := fun past => .pure fun now same => same ▸ Noticed.none past
  refine .ite (fun _ => ?_) fun _ => silence past
  exact then_notices (notes_logged cfg pod _ past) fun past =>
    .ite (fun _ => inactive_logged _ _ _ _ _) fun _ => silence past

omit [PrintTable] in
theorem plan_allowed {pending : Pending} {pod : Pod} {desired : Tier.State} {s : Snapshot} :
    ∀ write ∈ (planFor pending pod desired s).1, allowedKnob write.knob = true := by
  intro write member
  rcases mem_planFor member with rfl | rfl | rfl
  · exact (by decide : allowedKnob knobCPUMaxBurst = true)
  · exact (by decide : allowedKnob knobCPUIdle = true)
  · exact (by decide : allowedKnob knobCPUWeight = true)

omit [PrintTable] in
/-- On the writes of a plan the code's test is the one of the specification. -/
theorem plan_turnsOn {pending : Pending} {pod : Pod} {desired : Tier.State} {s : Snapshot} :
    ∀ write ∈ (planFor pending pod desired s).1, turnsOn write.knob write.value = writeIsInstall write := by
  intro write member
  rcases mem_planFor member with rfl | rfl | rfl
  · have other : knobCPUMaxBurst ≠ knobCPUWeight := by decide
    simp [turnsOn, writeIsInstall, other]
  · have other : knobCPUIdle ≠ knobCPUWeight := by decide
    simp [turnsOn, writeIsInstall, other]
  · have idle : knobCPUWeight ≠ knobCPUIdle := by decide
    have burst : knobCPUWeight ≠ knobCPUMaxBurst := by decide
    simp [turnsOn, writeIsInstall, idle, burst]

/-- Attempts at the plan in `dir`, each with its trace. -/
abbrev Plain (cfg : Apply.Config) (pod : Pod) (dir : String) (plan : List Write) : Log → Prop :=
  Traced (tierTracing cfg.node pod) (Follows cfg.layout dir plan)

/-- The call has read this snapshot. -/
def ReadIn (dir : String) (s : Snapshot) (events : List (Program.Event nodeSignature)) : Prop :=
  ∃ before reading after, events = before ++ reading ++ after ∧
    Program.Path (readSnapshot dir) reading (.done (.ok s))

/-- `Apply`: only looks, or the plan for the snapshot that the call has read. -/
def Applies (cfg : Apply.Config) (pending : Pending) (pod : Pod) (events : List (Program.Event nodeSignature))
    (past : Log) : Prop :=
  Looks past ∨ ∃ dir s, cfg.layout.podDir (Qos.toCgroupClass (Qos.classOf pod.spec)) pod.uid = .ok dir ∧
    ReadIn dir s events ∧ Plain cfg pod dir (planFor pending pod (Tier.desired pod).1 s).1 past

/-- `Revert`: nothing, or the plan for the snapshot it is given. -/
def Reverts (cfg : Apply.Config) (pending : Pending) (pod : Pod) (s : Snapshot) (log : Log) : Prop :=
  log = [] ∨ ∃ dir, cfg.layout.podDir (Qos.toCgroupClass (Qos.classOf pod.spec)) pod.uid = .ok dir ∧
    Plain cfg pod dir (planFor pending pod .zero s).1 log

omit [Qos.ResourceHelper] in
theorem snapshot_looks {dir : String} {events : List (Program.Event nodeSignature)}
    {result : Except GoError Snapshot} (path : Program.Path (readSnapshot dir) events (.done result)) :
    Looks (events.filter (logged ·.1)) :=
  have keeps : Holds arena anything Looks (readSnapshot dir) fun _ now => Looks now :=
    readSnapshot_keeps (stable _) (looks dir) fun name => (inert (r := .readFile dir name) rfl).keeps _
  keeps.logged (by simp [Looks]) path

theorem apply_traced {cfg : Apply.Config} {pending : Pending} {pod : Pod} {reportNotices : Bool}
    {events : List (Program.Event nodeSignature)} {result : Option GoError × Pending}
    (path : Program.Path (Apply.apply cfg pending pod reportNotices) events (.done result)) :
    ∃ past, Applies cfg pending pod events past ∧ Noticed past (events.filter (logged ·.1)) := by
  unfold Apply.apply at path
  obtain ⟨cancelled, rest, rfl, checked⟩ := path.of_request
  have silent : Looks ([] : Log) := by simp [Looks]
  cases cancelled with
  | true =>
      obtain ⟨rfl, -⟩ := checked.of_done
      exact ⟨[], .inl silent, Noticed.none _⟩
  | false =>
  rw [if_neg (by decide)] at checked
  dsimp only at checked
  cases computed : cfg.layout.podDir (Qos.toCgroupClass (Tier.desired pod).1.qosClass)
      (Tier.desired pod).1.uid with
  | error err =>
      rw [computed] at checked
      obtain ⟨rfl, -⟩ := checked.of_done
      exact ⟨[], .inl silent, Noticed.none _⟩
  | ok dir =>
  rw [computed] at checked
  obtain ⟨reading, read, after, rfl, reads, rest⟩ := checked.of_bind
  have looked := snapshot_looks reads
  have log : (⟨.ctxErr, false⟩ :: (reading ++ after) : List (Program.Event nodeSignature)).filter (logged ·.1) =
      reading.filter (logged ·.1) ++ after.filter (logged ·.1) := by
    rw [List.filter_cons_of_neg (by decide), List.filter_append]
  rw [log]
  cases read with
  | error err =>
      have ended : after = [] := by
        dsimp only at rest
        split at rest
        · exact rest.of_done.1
        · exact rest.of_done.1
      exact ⟨_, .inl looked, by simpa [ended] using Noticed.none _⟩
  | ok s =>
  let plan := (planFor pending pod (Tier.desired pod).1 s).1
  have quiet : ∀ now, Plain cfg pod dir plan now → ∃ past, Plain cfg pod dir plan past ∧ Noticed past now :=
    fun now plain => ⟨now, plain, Noticed.none now⟩
  have notices : Holds arena anything (Plain cfg pod dir plan) (noticesOf cfg pod reportNotices s)
      fun _ now => ∃ past, Plain cfg pod dir plan past ∧ Noticed past now :=
    .of_forall fun past plain =>
      (notices_logged cfg pod reportNotices s past).post fun _ now noticed => ⟨past, plain, noticed⟩
  have reports : ∀ write ∈ plan, ∀ past, Holds arena anything (· = past) (reportSuccess cfg pod write)
      fun _ now => now = past ++ tierTrace cfg.node pod write.knob write.value := by
    intro write member past
    rw [tierTrace, plan_turnsOn write member]
    refine .ite (fun isInstall => ?_) fun isClear => ?_
    · rw [if_pos isInstall]
      exact record_logged _ _ _ _ _ _ _ past
    · rw [if_neg isClear]
      exact record_logged _ _ _ _ _ _ _ past
  have steps := loop cfg pod dir (reportSuccess cfg pod) (noticesOf cfg pod reportNotices s)
    plan_allowed reports notices quiet
  have traced := Holds.extends (P := Looks)
    (Q := fun _ now => ∃ past, Plain cfg pod dir plan past ∧ Noticed past now) (.bind
      (.pre (runPlan_steps steps _ _) fun now looks => looks.traced Done.start) fun ended => by
    rcases ended with ⟨ended, pending'⟩
    cases ended with
    | returned err => exact .pure fun now known => known
    | completed =>
        refine .bind (.keeps (stable _) ((inert (r := .ctxErr) rfl).keeps _)) fun cancelled =>
          .ite (fun _ => .pure quiet) fun _ => ?_
        exact .bind notices fun _ => .pure fun now known => known) looked rest
  obtain ⟨past, plain, noticed⟩ := traced
  exact ⟨past, .inr ⟨dir, s, computed, ⟨[⟨.ctxErr, false⟩], reading, after, rfl, reads⟩, plain⟩, noticed⟩

theorem revert_logged (cfg : Apply.Config) (pending : Pending) (pod : Pod) (s : Snapshot) :
    Holds arena anything (· = []) (Apply.revert cfg pending pod s)
      fun _ now => Reverts cfg pending pod s now := by
  unfold Apply.revert
  refine .bind (.keeps (stable _) ((inert (r := .ctxErr) rfl).keeps (· = []))) fun cancelled => ?_
  refine .ite (fun _ => .pure fun now silent => .inl silent) fun _ => ?_
  cases computed : cfg.layout.podDir (Qos.toCgroupClass (Qos.classOf pod.spec)) pod.uid with
  | error err => exact .pure fun now silent => .inl silent
  | ok dir =>
  let plan := (planFor pending pod .zero s).1
  have reports : ∀ write ∈ plan, ∀ past, Holds arena anything (· = past)
      (reverted cfg.node pod write.knob TierApplyResult.reverted TierApplyReason.ok)
      fun _ now => now = past ++ tierTrace cfg.node pod write.knob write.value := by
    intro write member past
    rw [tierTrace, plan_turnsOn write member, planFor_reverts rfl rfl write member]
    exact record_logged _ _ _ _ _ _ _ past
  have steps := loop cfg pod dir
    (fun write => reverted cfg.node pod write.knob TierApplyResult.reverted TierApplyReason.ok)
    (pure ()) plan_allowed reports (.pure fun now plain => plain) fun now plain => plain
  have made : ∀ now, Plain cfg pod dir plan now → Reverts cfg pending pod s now :=
    fun now plain => .inr ⟨dir, computed, plain⟩
  refine .bind (.pre (runPlan_steps steps _ _) ?_) fun ended => ?_
  · rintro now rfl
    exact Looks.traced (by simp [Looks]) Done.start
  rcases ended with ⟨ended, pending'⟩
  cases ended with
  | returned err => exact .pure made
  | completed => exact .pure made

/-! ## The guard -/

omit [Qos.ResourceHelper] in
theorem patchMarker_silent {P : Log → Prop} (pod : Pod) (value : String) (clear : Bool)
    (expected : Option Guard.PersistedState) (expectedRaw : String) :
    Holds arena anything P (Guard.patchMarker pod value clear expected expectedRaw) fun _ now => P now := by
  have get : arena.Keeps anything P (.getPod pod.ns pod.name) := (inert rfl).keeps P
  have patch : ∀ patch, arena.Keeps anything P (.patchPod pod.ns pod.name patch) := fun patch =>
    (inert (r := .patchPod pod.ns pod.name patch) rfl).keeps P
  refine Guard.patchMarker_holds (F := fun _ => P) {
    stable := stable _
    stable_read := fun _ => stable _
    read_known := fun _ _ known => known
    get := fun past known answer now act =>
      have kept := (get past known answer now act).2
      ⟨trivial, kept, fun _ _ => kept, fun _ _ => kept⟩
    send := fun current past known _ _ answer now act =>
      have kept := (patch _ past known answer now act).2
      ⟨trivial, fun _ => kept, fun _ _ => kept, fun _ _ => kept⟩
    replaced := fun _ _ known _ _ => known
    already := fun _ _ known _ _ _ => known
    error := fun _ _ known => known }

omit [Qos.ResourceHelper] in
/-- The guard reports every failure, with the reason of the attempt. -/
theorem guard_rejects (guard : Guard.Config) {err : GoError} (node : t.node = guard.nodeName)
    (all : ∀ o, t.spared o = false) :
    Holds arena anything (Attempted t layout dir plan write rest (some err))
      (Guard.reportRejected guard t.pod write.knob err) fun _ now => Traced t (Follows layout dir plan) now := by
  unfold Guard.reportRejected
  rw [← node]
  refine rejects (fun o _ => all o) fun o failed => ?_
  obtain ⟨-, -, einval, refused⟩ := failed
  rw [einval, refused, Outcome.reason]
  simp

/-- A call of the guard on a pod: only looks, or the one write it is there for. -/
def Guards (guard : Guard.Config) (t : Tracing) (writes : Write → Prop) (log : Log) : Prop :=
  Looks log ∨ ∃ dir write, Guard.podDir guard t.pod = .ok dir ∧ writes write ∧
    Traced t (Follows guard.layout dir [write]) log

/-- What `suppressPod` may write: the suppressed value of the record that is held, or of the one it
creates. -/
def Suppresses (owned : Guard.Owned) (pod : Pod) (write : Write) : Prop :=
  ∃ state : Guard.PersistedState, write = ⟨state.knob, state.suppressed⟩ ∧
    state.knob = Guard.suppressionKnob ∧
    (Guard.stateForPod owned pod = .ok (some state) ∨
      Guard.stateForPod owned pod = .ok none ∧ state = Guard.freezeState)

omit [Qos.ResourceHelper] in
theorem suppressWrite_logged {guard : Guard.Config} {owned owned' : Guard.Owned} {pod : Pod}
    {dir current : String} {state : Guard.PersistedState} (computed : Guard.podDir guard pod = .ok dir)
    (mine : Suppresses owned pod ⟨state.knob, state.suppressed⟩) (knob : state.knob = Guard.suppressionKnob) :
    Holds arena anything Looks (Guard.suppressWrite guard owned' pod dir current state)
      fun _ => Guards guard (suppressTracing guard.nodeName pod) (Suppresses owned pod) := by
  let t := suppressTracing guard.nodeName pod
  let plan : List Write := [⟨state.knob, state.suppressed⟩]
  have allowed : ∀ write ∈ plan, allowedKnob write.knob = true := by
    intro write member
    rw [List.mem_singleton.mp member]
    exact knob ▸ (by decide : allowedKnob Guard.suppressionKnob = true)
  have made : ∀ {now}, Traced t (Follows guard.layout dir plan) now → Guards guard t (Suppresses owned pod) now :=
    fun traced => .inr ⟨dir, _, computed, mine, traced⟩
  let attempted := Attempted t guard.layout dir plan ⟨state.knob, state.suppressed⟩ []
  exact Guard.suppressWrite_steps (C := Going t dir plan plan) (D := attempted none)
    (F := fun err => attempted (some err)) {
    already := fun _ _ looks => .inl looks
    check := fun _ => (Holds.keeps (stable _) ((inert (r := .ctxErr) rfl).keeps _)).post
      fun cancelled _ looks => by
        cases cancelled with
        | true => exact .inl looks
        | false => exact looks.traced Done.start
    write := (attempts allowed).post fun result _ known => by cases result <;> exact known
    refused := fun err => (guard_rejects guard rfl fun _ => rfl).post fun _ _ traced => made traced
    traced := (traces fun past => record_logged _ _ _ _ _ _ _ past).post
      fun _ _ going => made going.follows }

omit [Qos.ResourceHelper] in
theorem suppressPod_logged (guard : Guard.Config) (owned : Guard.Owned) (pod : Pod) :
    Holds arena anything Looks (Guard.suppressPod guard owned pod)
      fun _ => Guards guard (suppressTracing guard.nodeName pod) (Suppresses owned pod) := by
  refine Guard.suppressPod_steps (L := Looks) (R := fun _ _ => Looks) (M := fun _ => Looks) {
    check := (Holds.keeps (stable _) ((inert (r := .ctxErr) rfl).keeps Looks)).post
      fun cancelled _ looks => by
        cases cancelled with
        | true => exact .inl looks
        | false => exact looks
    noDir := fun _ _ _ looks => .inl looks
    read := fun dir _ => (readKnob_keeps (stable _) (looks dir)
      ((inert (r := .readFile dir Guard.suppressionKnob) rfl).keeps _)).post fun result _ looks => by
        cases result with
        | ok current => exact looks
        | error err => exact .inl looks
    undecoded := fun _ _ _ _ _ looks => .inl looks
    skipped := fun _ _ _ _ _ looks => .inl looks
    foreign := fun _ _ _ _ _ _ looks => .inl looks
    set := fun _ _ _ => (patchMarker_silent _ _ _ _ _).post fun result _ looks => by
      cases result with
      | none => exact looks
      | some err => exact .inl looks
    fresh := fun dir computed unmarked =>
      suppressWrite_logged computed ⟨Guard.freezeState, rfl, rfl, .inr ⟨unmarked, rfl⟩⟩ rfl
    marked := fun dir _ state computed held knob _ =>
      suppressWrite_logged computed ⟨state, rfl, knob, .inl held⟩ knob }

omit [Qos.ResourceHelper] in
/-- A valid record is about a knob that may be written. -/
theorem allowed_valid {state : Guard.PersistedState} (valid : Guard.validateState state = none) :
    allowedKnob state.knob = true := by
  rcases Guard.validateState_none.mp valid with rfl | legacy
  · decide
  · rw [legacy.knob]
    decide

theorem restorePod_logged (guard : Guard.Config) (owned : Guard.Owned) (pod : Pod)
    (state : Guard.PersistedState) :
    Holds arena anything Looks (Guard.restorePod guard owned pod state)
      fun _ => Guards guard (restoreTracing guard.nodeName pod) (· = ⟨state.knob, state.restore⟩) := by
  let t := restoreTracing guard.nodeName pod
  let plan : List Write := [⟨state.knob, state.restore⟩]
  let guards := Guards guard t (· = ⟨state.knob, state.restore⟩)
  have made : ∀ {dir now}, Guard.podDir guard pod = .ok dir →
      Traced t (Follows guard.layout dir plan) now → guards now :=
    fun computed traced => .inr ⟨_, _, computed, rfl, traced⟩
  have allowed : Guard.validateState state = none → ∀ write ∈ plan, allowedKnob write.knob = true := by
    intro valid write member
    rw [List.mem_singleton.mp member]
    exact allowed_valid valid
  let attempted dir := Attempted t guard.layout dir plan ⟨state.knob, state.restore⟩ []
  refine Guard.restorePod_steps (L := Looks) (N := fun _ => guards) (S := fun _ => Looks)
    (C := fun dir => Going t dir plan plan) (D := fun dir => attempted dir none)
    (F := fun dir err => attempted dir (some err)) {
    check := (Holds.keeps (stable _) ((inert (r := .ctxErr) rfl).keeps Looks)).post
      fun cancelled _ looks => by
        cases cancelled with
        | true => exact .inl looks
        | false => exact looks
    failed := fun _ _ looks => .inl looks
    read := fun _ dir _ => (readKnob_keeps (stable _) (looks dir)
      ((inert (r := .readFile dir state.knob) rfl).keeps _)).post fun result _ looks => by
        cases result with
        | ok current => exact ⟨fun _ => .inl looks, fun _ => looks⟩
        | error err => exact ⟨fun _ => .inl looks, fun _ => .inl looks⟩
    distrusted := fun _ _ _ looks => .inl looks
    recheck := fun dir _ => (Holds.keeps (stable _) ((inert (r := .ctxErr) rfl).keeps Looks)).post
      fun cancelled _ looks => by
        cases cancelled with
        | true => exact .inl looks
        | false => exact looks.traced Done.start
    write := fun valid _ dir _ => (attempts (allowed valid)).post fun result _ known => by
      cases result <;> exact known
    refused := fun _ err computed => (guard_rejects guard rfl fun _ => rfl).post
      fun _ _ traced => made computed traced
    traced := fun _ computed => (traces fun past => record_logged _ _ _ _ _ _ _ past).post
      fun _ _ going => made computed going.follows
    clear := fun _ _ => (patchMarker_silent _ _ _ _ _).post fun result _ known => by
      cases result <;> exact known }

end

end Trace

section

variable [PrintTable] [Qos.ResourceHelper]

/-- **Every change leaves exactly one trace.** In each of the four calls the log is a sequence of
attempts in the pod's directory, each directly followed by its own trace: at the plan for the
snapshot that `Apply` has read or `Revert` is given, in its order, up to the first failure; at one
write in the guard. Only `Apply` adds anything else: its notices, after the last attempt. -/
theorem every_write_traced (cfg : Apply.Config) (guard : Guard.Config) :
    (∀ pending pod reportNotices events result,
      Program.Path (Apply.apply cfg pending pod reportNotices) events (.done result) →
        ∃ past notices, events.filter (logged ·.1) = past ++ notices ∧
          Trace.Applies cfg pending pod events past ∧ ∀ event ∈ notices, IsNotice event) ∧
      (∀ pending pod snapshot events result,
        Program.Path (Apply.revert cfg pending pod snapshot) events (.done result) →
          Trace.Reverts cfg pending pod snapshot (events.filter (logged ·.1))) ∧
      (∀ owned pod events result,
        Program.Path (Guard.suppressPod guard owned pod) events (.done result) →
          Trace.Guards guard (suppressTracing guard.nodeName pod) (Trace.Suppresses owned pod)
            (events.filter (logged ·.1))) ∧
      ∀ owned pod state events result,
        Program.Path (Guard.restorePod guard owned pod state) events (.done result) →
          Trace.Guards guard (restoreTracing guard.nodeName pod) (· = ⟨state.knob, state.restore⟩)
            (events.filter (logged ·.1)) := by
  have empty : Looks [] := by simp [Looks]
  refine ⟨?_, ?_, ?_, ?_⟩
  · intro pending pod reportNotices events result path
    obtain ⟨past, applies, notices, areNotices, logs⟩ := Trace.apply_traced path
    exact ⟨past, notices, logs, applies, areNotices⟩
  · intro pending pod snapshot events result path
    exact (Trace.revert_logged cfg pending pod snapshot).logged rfl path
  · intro owned pod events result path
    exact (Trace.suppressPod_logged guard owned pod).logged empty path
  · intro owned pod state events result path
    exact (Trace.restorePod_logged guard owned pod state).logged empty path

end

section

open Apply.Journal

attribute [local instance] asciiTable Qos.containerRequests

/-- A revert whose first write succeeds and whose second is refused: both are traced. -/
theorem every_write_traced_interrupted :
    Trace.Reverts sampleConfig ∅ samplePod idleCgroup.snapshot
      ((interruptedRevert.events interrupted idleCgroup).filter (logged ·.1)) := by
  have path := Program.Path.of_run interrupted interruptedRevert idleCgroup
  unfold interruptedRevert at path ⊢
  exact (every_write_traced sampleConfig ⟨sampleLayout, "node-a"⟩).2.1 _ _ _ _ _ path

end

end CpuIdle.Agent
