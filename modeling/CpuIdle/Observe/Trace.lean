/-
# Observe.Trace — one trace for every write of a control file

The log of a call is what it asked about control files, directories, counters and Events.

* `Attempt` — one call of `WriteKnob` with what came of it; `asked` is what it leaves in the
  log, `Tracing.trace` what has to follow it;
* `Traced` — a log in which each attempt is followed by its trace and nothing else is
  traced;
* `writeKnob_logged`, `record_logged` — what the two calls add to the log.
-/
import CpuIdle.Cgroup.Knob
import CpuIdle.Observe.Recorder
import CpuIdle.Theory.Monitor

namespace CpuIdle.Observe

open CpuIdle.Go CpuIdle.Kube CpuIdle.Node CpuIdle.Theory CpuIdle.Cgroup

set_option autoImplicit false

/-- The requests a log is about. -/
def logged : Request → Bool
  | .writeFile _ _ _ => true
  | .stat _ => true
  | .inc _ => true
  | .event _ => true
  | _ => false

abbrev Log := List (Program.Event nodeSignature)

/-! ## Attempts -/

/-- What came of a write. `look` is the directory where the file was missing. -/
inductive Outcome where
  | refused
  | answered (answer : WriteResult) (look : StatResult)
  deriving DecidableEq

namespace Outcome

def succeeded : Outcome → Bool
  | answered .written _ => true
  | _ => false

/-- `ErrCgroupGone`. -/
def gone : Outcome → Bool
  | answered .notExist .notExist => true
  | _ => false

def einval : Outcome → Bool
  | answered (.openFailed err) _ => err.einval
  | answered (.closeFailed err) _ => err.einval
  | answered (.writeFailed err) _ => err.einval
  | _ => false

/-- The reason a rejection is reported with. -/
def reason (o : Outcome) : String :=
  if o = refused then TierApplyReason.notPodCgroup
  else if o.einval then TierApplyReason.einval
  else TierApplyReason.other

/-- `writeKnob` returned this. -/
def Reported (o : Outcome) : Option GoError → Prop
  | none => o.succeeded = true
  | some err => o.succeeded = false ∧ err.is .cgroupGone = o.gone ∧ err.is .einval = o.einval ∧
      err.is .notPodCgroup = decide (o = refused)

end Outcome

/-- One call of `writeKnob`. -/
structure Attempt where
  dir : String
  knob : String
  value : String
  outcome : Outcome

namespace Attempt

/-- What the attempt itself leaves in the log; a refused one opens nothing. -/
def asked : Attempt → Log
  | ⟨_, _, _, .refused⟩ => []
  | ⟨dir, knob, value, .answered .notExist look⟩ =>
      [⟨.writeFile dir knob value, WriteResult.notExist⟩, ⟨.stat dir, look⟩]
  | ⟨dir, knob, value, .answered answer _⟩ => [⟨.writeFile dir knob value, answer⟩]

end Attempt

/-- What `record` adds to the log. -/
def recorded (node : String) (pod : Pod) (knob result reason eventType eventReason : String) : Log :=
  [⟨.inc (.tierApplyTotal node pod.ns (Qos.classOf pod.spec).name
      (normalizeTierApplyResult result) (normalizeTierApplyReason reason)), ()⟩,
    ⟨.event (podEvent pod eventType eventReason (outcomeMessage knob result reason)), ()⟩]

/-- How a caller of `writeKnob` traces its writes to one pod: what a success leaves in the log, and
which failures are not reported. -/
structure Tracing where
  node : String
  pod : Pod
  success : String → String → Log
  spared : Outcome → Bool

/-- What has to follow an attempt: a success trace, or a rejection of the same knob. -/
def Tracing.trace (t : Tracing) (a : Attempt) : Log :=
  if a.outcome.succeeded then t.success a.knob a.value
  else if t.spared a.outcome then []
  else recorded t.node t.pod a.knob TierApplyResult.rejected a.outcome.reason eventTypeWarning
    "WriteRejected"

/-- Nothing but looks at directories. -/
def Looks (log : Log) : Prop := ∀ event ∈ log, ∃ dir answer, event = ⟨.stat dir, answer⟩

/-- Looks at directories, then attempts, each followed by its trace. -/
def Traced (t : Tracing) (made : List Attempt → Prop) (log : Log) : Prop :=
  ∃ (looks : Log) (attempts : List Attempt), Looks looks ∧ made attempts ∧
    log = looks ++ attempts.flatMap fun a => a.asked ++ t.trace a

variable {t : Tracing} {made made' : List Attempt → Prop} {log : Log}

theorem Looks.traced (looks : Looks log) (none : made []) : Traced t made log :=
  ⟨log, [], looks, none, by simp⟩

theorem Traced.mono (traced : Traced t made log) (weaker : ∀ attempts, made attempts → made' attempts) :
    Traced t made' log := by
  obtain ⟨looks, attempts, onlyLooks, isMade, rfl⟩ := traced
  exact ⟨looks, attempts, onlyLooks, weaker attempts isMade, rfl⟩

theorem Traced.take (traced : Traced t made log) {a : Attempt}
    (more : ∀ attempts, made attempts → made' (attempts ++ [a])) :
    Traced t made' (log ++ a.asked ++ t.trace a) := by
  obtain ⟨looks, attempts, onlyLooks, isMade, rfl⟩ := traced
  exact ⟨looks, attempts ++ [a], onlyLooks, more attempts isMade, by simp⟩

/-! ## What the calls leave in the log -/

namespace Trace

abbrev arena : Arena nodeSignature Log := .monitor (logging logged)

abbrev anything : Guarantee nodeSignature Log := fun _ _ _ _ => True

theorem stable (P : Log → Prop) : arena.Stable P := Arena.monitor_stable P

theorem inert {r : Request} (unlogged : logged r = false) : arena.Inert anything r := by
  intro past answer now act
  have same : logging logged past ⟨r, answer⟩ = past := by simp [logging, unlogged]
  exact ⟨act.trans same, trivial⟩

/-- A request that is logged. -/
theorem adds {r : Request} (isLogged : logged r = true) (past : Log) :
    Holds arena anything (· = past) (ask r) fun answer now => now = past ++ [⟨r, answer⟩] := by
  refine .request (stable _) fun w same answer now act => ?_
  have added : logging logged w ⟨r, answer⟩ = w ++ [⟨r, answer⟩] := by simp [logging, isLogged]
  exact ⟨trivial, same ▸ act.trans added⟩

theorem looks (dir : String) : arena.Keeps anything Looks (.stat dir) := by
  intro past isLooks answer now act
  have added : now = past ++ [⟨.stat dir, answer⟩] := act
  refine ⟨trivial, fun event member => ?_⟩
  rw [added] at member
  rcases List.mem_append.mp member with earlier | last
  · exact isLooks event earlier
  · exact ⟨dir, answer, List.mem_singleton.mp last⟩

theorem record_logged (node : String) (pod : Pod) (knob result reason eventType eventReason : String)
    (past : Log) :
    Holds arena anything (· = past) (record node pod knob result reason eventType eventReason)
      fun _ now => now = past ++ recorded node pod knob result reason eventType eventReason := by
  refine .bind (adds rfl past) fun _ => (adds rfl _).post fun _ now added => ?_
  rw [added, List.append_assoc]
  rfl

theorem missingPathError_logged (dir knobPath : String) (past : Log) :
    Holds arena anything (· = past) (missingPathError dir knobPath) fun err now => ∃ look,
      (Outcome.answered .notExist look).Reported (some err) ∧ now = past ++ [⟨.stat dir, look⟩] := by
  refine .bind (adds rfl past) fun look => ?_
  cases look with
  | notExist => exact .pure fun now added => ⟨.notExist, ⟨rfl, rfl, rfl, rfl⟩, added⟩
  | directory => exact .pure fun now added => ⟨.directory, ⟨rfl, rfl, rfl, rfl⟩, added⟩
  | notDirectory => exact .pure fun now added => ⟨.notDirectory, ⟨rfl, rfl, rfl, rfl⟩, added⟩
  | failed err => exact .pure fun now added => ⟨.failed err, ⟨rfl, rfl, rfl, rfl⟩, added⟩

/-- An error of the operating system is no sentinel but perhaps EINVAL. -/
theorem reported_osError (err : OsError) (context : String) {o : Outcome}
    (failed : o.succeeded = false) (there : o.gone = false) (opened : o ≠ .refused)
    (same : o.einval = err.einval) : o.Reported (some (err.err.wrap context)) := by
  refine ⟨failed, ?_, ?_, ?_⟩
  · simp [there]
  · simp [same]
  · simp [opened]

variable [PrintTable]

theorem writeKnob_logged {root kubepodsName dir name value : String} (allowed : allowedKnob name = true)
    (past : Log) :
    Holds arena anything (· = past) (writeKnob root kubepodsName dir name value)
      fun result now => ∃ o : Outcome, o.Reported result ∧
        (o = .refused → guardWriteTarget dir root kubepodsName ≠ none) ∧
        now = past ++ Attempt.asked ⟨dir, name, value, o⟩ := by
  unfold writeKnob
  refine .ite (fun refused => by simp [allowed] at refused) fun _ => ?_
  cases target : guardWriteTarget dir root kubepodsName with
  | some err =>
      refine .pure fun now same => ⟨.refused, ?_, fun _ => by simp, by simp [Attempt.asked, same]⟩
      have chain := guardWriteTarget_err target
      refine ⟨rfl, ?_, ?_, ?_⟩
      · simp [GoError.is, chain, Outcome.gone]
      · simp [GoError.is, chain, Outcome.einval]
      · simp [GoError.is, chain]
  | none =>
  refine .bind (adds rfl past) fun answer => ?_
  cases answer with
  | written =>
      exact .pure fun now added => ⟨.answered .written .directory, rfl, (by simp), added⟩
  | notExist =>
      refine .bind (.of_forall fun now added => ?_)
        fun err => .pure (P := fun now => ∃ look, (Outcome.answered .notExist look).Reported (some err) ∧
          now = past ++ [⟨.writeFile dir name value, WriteResult.notExist⟩] ++ [⟨.stat dir, look⟩]) ?_
      · subst added
        exact missingPathError_logged dir _ _
      · rintro now ⟨look, reported, rfl⟩
        exact ⟨.answered .notExist look, reported, (by simp), by simp [Attempt.asked]⟩
  | openFailed err =>
      exact .pure fun now added => ⟨.answered (.openFailed err) .directory,
        reported_osError err _ rfl rfl (by simp) rfl, (by simp), added⟩
  | closeFailed err =>
      exact .pure fun now added => ⟨.answered (.closeFailed err) .directory,
        reported_osError err _ rfl rfl (by simp) rfl, (by simp), added⟩
  | writeFailed err =>
      exact .pure fun now added => ⟨.answered (.writeFailed err) .directory,
        reported_osError err _ rfl rfl (by simp) rfl, (by simp), added⟩

end Trace

end CpuIdle.Observe
