/-
# Guard.Tick — one sample of the node and the pass it leads to

* `Decider.observe` — the hysteresis: two consecutive samples on the far side;
* `idlePodsUsage` — the running idle-tier pods whose `cpu.idle` is live, and their usage;
* `stableUsageDelta` — the usage between two samples of one unchanged set of pods;
* `tick` — sample, decide, converge once.
-/
import CpuIdle.Guard.Ownership
import CpuIdle.Theory.Run

namespace CpuIdle.Guard

open CpuIdle.Go CpuIdle.Kube CpuIdle.Node CpuIdle.Theory CpuIdle.Cgroup

set_option autoImplicit false

/-! ## The decision -/

structure Decider where
  hot : Bool
  streak : Nat
  deriving DecidableEq

def Decider.observe {α : Type} [LT α] [DecidableLT α] (d : Decider) (util high low : α) : Bool × Decider :=
  let crossed := (!d.hot && decide (high < util)) || (d.hot && decide (util < low))
  let streak := if crossed then d.streak + 1 else 0
  let d := if 2 ≤ streak then ⟨!d.hot, 0⟩ else { d with streak }
  (d.hot, d)

/-- The part of `Guard` that `tick` keeps from one sample to the next. -/
structure Sampler where
  dec : Decider
  prevTotal : Nat
  prevIdle : Finmap fun _ : String => Nat
  prevSampled : Option Int

def Sampler.new : Sampler := ⟨⟨false, 0⟩, 0, ∅, none⟩

/-- What both early returns of `tick` do to the baseline. -/
def Sampler.forget (s : Sampler) : Sampler := { s with prevIdle := ∅, prevSampled := none }

/-- The thresholds. -/
structure TickConfig extends Config where
  high : Float
  low : Float

section

variable [PrintTable]

/-! ## The sample -/

/-- `strings.CutPrefix`. -/
def cutPrefix (s front : List Char) : Option (List Char) :=
  if front.isPrefixOf s then some (s.drop front.length) else none

/-- `usage_usec` of a `cpu.stat` file. -/
def readUsageUsec (dir : String) : Node (Except GoError Nat) := do
  let path := Path.join [dir, "cpu.stat"]
  match ← ask (.readFile dir "cpu.stat") with
  | .notExist => return .error (.new s!"open {path}: no such file or directory")
  | .failed err => return .error err.err
  | .data content =>
      let lines := content.toList.splitOn '\n'
      match lines.findSome? fun line => cutPrefix line "usage_usec ".toList with
      | none => return .error (.new s!"guard: no usage_usec in {path}")
      | some rest =>
          let field := trimSpace (.ofList rest)
          match parseUint field with
          | .error err => return .error (numError field err)
          | .ok usage => return .ok usage

/-- What `idlePodsUsage` accumulates. -/
structure IdlePods where
  candidates : List Pod
  usage : Finmap fun _ : String => Nat
  errs : List GoError

/-- One round of `idlePodsUsage`. -/
def idlePodUsage (cfg : Config) (pod : Pod) (acc : IdlePods) : Node IdlePods := do
  let failed := fun err : GoError => { acc with errs := acc.errs ++ [err] }
  if pod.annotationAt Annotations.tierKey ≠ Annotations.tierValueIdle then return acc
  else if pod.phase ≠ podRunning then return acc
  else
    match cfg.layout.podDir (Qos.toCgroupClass (Qos.classOf pod.spec)) pod.uid with
    | .error err => return failed (err.wrap s!"pod {pod.path} cgroup path")
    | .ok dir =>
    match ← readKnob dir "cpu.idle" with
    | .error err =>
        if err.is .cgroupGone then return acc
        else return failed (err.wrap s!"pod {pod.path} read cpu.idle")
    | .ok idle =>
        if idle ≠ "0" ∧ idle ≠ "1" then
          return failed (.new s!"pod {pod.path} has invalid cpu.idle {quote idle}")
        else if idle ≠ "1" then return acc
        else
          let acc ← match ← readUsageUsec dir with
            | .ok usage => pure { acc with usage := acc.usage.insert pod.uid usage }
            | .error usageErr =>
                match ← ask (.stat dir) with
                | .notExist => pure acc
                | .failed statErr => pure (failed
                    ⟨s!"pod {pod.path} read cpu.stat: {usageErr.text} (verify cgroup: {statErr.text})",
                      usageErr.chain⟩)
                | _ => pure (failed (usageErr.wrap s!"pod {pod.path} read cpu.stat"))
          if pod.terminating then return acc
          else return { acc with candidates := acc.candidates ++ [pod] }

def idlePodsUsage (cfg : Config) : List Pod → IdlePods → Node IdlePods
  | [], acc => return acc
  | pod :: rest, acc => do
      let acc ← idlePodUsage cfg pod acc
      idlePodsUsage cfg rest acc

end

/-- The loop of `stableUsageDelta` over `current`, in the order of the walk. -/
def usageDelta (previous current : Finmap fun _ : String => Nat) : List String → Nat → Option Nat
  | [], total => some total
  | uid :: rest, total =>
      match current.lookup uid, previous.lookup uid with
      | some usage, some old =>
          if usage < old then none
          else if usage - old > maxUint64 - total then none
          else usageDelta previous current rest (total + (usage - old))
      | some _, none => none
      | none, _ => usageDelta previous current rest total

def stableUsageDelta (previous current : Finmap fun _ : String => Nat) : Node (Option Nat) := do
  if previous.keys.card ≠ current.keys.card then return none
  else
    let order ← ask (.rangeKeys current.keys)
    return usageDelta previous current order.val 0

/-! ## The tick -/

/-- `now.Sub(sampled).Microseconds()`: a `Duration` saturates at both ends of an int64. -/
def elapsedMicroseconds (now sampled : Int) : Int :=
  (max (-9223372036854775808) (min 9223372036854775807 (now - sampled))).tdiv 1000

/-- Non-idle utilization: microseconds of use over microseconds of capacity. -/
def utilization (nonIdleDelta : Nat) (elapsed cpus : Int) : Float :=
  (UInt64.ofNat nonIdleDelta).toFloat / (Int64.ofInt elapsed).toFloat / (Int64.ofInt cpus).toFloat

section

variable [PrintTable] [Qos.ResourceHelper]

/-- The temperature this sample leads to. Contradicting deltas decide nothing. -/
def decideHot (cfg : TickConfig) (s : Sampler) (total : Nat)
    (idleUsage : Finmap fun _ : String => Nat) (now : Int) : Node (Bool × Decider) := do
  match s.prevSampled with
  | none => return (s.dec.hot, s.dec)
  | some sampled =>
      if total < s.prevTotal then return (s.dec.hot, s.dec)
      else
        let elapsed := elapsedMicroseconds now sampled
        let cpus : Int ← ask .numCPU
        match ← stableUsageDelta s.prevIdle idleUsage with
        | none => return (s.dec.hot, s.dec)
        | some idleDelta =>
            let totalDelta := total - s.prevTotal
            if 0 < elapsed ∧ 0 < cpus ∧ idleDelta ≤ totalDelta then
              return s.dec.observe (utilization (totalDelta - idleDelta) elapsed cpus) cfg.high cfg.low
            else return (s.dec.hot, s.dec)

/-- The deferred `reportHealth` closes every path past the first check. -/
def tick (cfg : TickConfig) (s : Sampler) (owned : Owned) : Node (Sampler × Owned) := do
  if ← ctxErr then return (s, owned)
  else
    match ← ask .listCache with
    | .error _ =>
        ask (.reportHealth false)
        return (s, owned)
    | .ok pods =>
        let idle ← idlePodsUsage cfg.toConfig pods ⟨[], ∅, []⟩
        if idle.errs ≠ [] then
          let (_, owned) ← converge cfg.toConfig owned s.dec.hot pods idle.candidates
          ask (.reportHealth false)
          return (s.forget, owned)
        else
          match ← readUsageUsec cfg.layout.root with
          | .error _ =>
              let (_, owned) ← converge cfg.toConfig owned s.dec.hot pods idle.candidates
              ask (.reportHealth false)
              return (s.forget, owned)
          | .ok total =>
              let now ← ask .now
              let (hot, dec) ← decideHot cfg s total idle.usage now
              let (err, owned) ← converge cfg.toConfig owned hot pods idle.candidates
              ask (.reportHealth err.isNone)
              return (⟨dec, total, idle.usage, some now⟩, owned)

end

/-! ## The candidates -/

section

variable [PrintTable]

omit [PrintTable] in
theorem readKnob_path [PrintTable] {dir name value : String} {events : List (Program.Event nodeSignature)}
    (path : Program.Path (readKnob dir name) events (.done (.ok value))) :
    ∃ content, (⟨.readFile dir name, .data content⟩ : Program.Event nodeSignature) ∈ events ∧
      trimSpace content = value := by
  unfold readKnob at path
  split at path
  · obtain ⟨-, returned⟩ := path.of_done
    cases returned
  · obtain ⟨answer, rest, rfl, answered⟩ := path.of_request
    cases answer with
    | data content =>
        obtain ⟨-, returned⟩ := answered.of_done
        cases returned
        exact ⟨content, .head _, rfl⟩
    | notExist =>
        obtain ⟨_, err, _, -, -, inspected⟩ := answered.of_bind
        obtain ⟨-, returned⟩ := inspected.of_done
        cases returned
    | failed err =>
        obtain ⟨-, returned⟩ := answered.of_done
        cases returned

/-- A pod that may be frozen: annotated idle, running, staying, and its `cpu.idle` was read as 1. -/
structure Candidate (cfg : Config) (events : List (Program.Event nodeSignature)) (p : Pod) : Prop where
  annotated : p.annotationAt Annotations.tierKey = Annotations.tierValueIdle
  running : p.phase = podRunning
  staying : p.terminating = false
  live : ∃ dir content, podDir cfg p = .ok dir ∧
    (⟨.readFile dir "cpu.idle", .data content⟩ : Program.Event nodeSignature) ∈ events ∧
      trimSpace content = "1"

theorem idlePodUsage_path {cfg : Config} {pod : Pod} {acc acc' : IdlePods}
    {events : List (Program.Event nodeSignature)}
    (path : Program.Path (idlePodUsage cfg pod acc) events (.done acc')) :
    acc'.candidates = acc.candidates ∨
      acc'.candidates = acc.candidates ++ [pod] ∧ Candidate cfg events pod := by
  unfold idlePodUsage at path
  split at path
  · obtain ⟨-, returned⟩ := path.of_done
    cases returned
    exact .inl rfl
  rename_i annotated
  split at path
  · obtain ⟨-, returned⟩ := path.of_done
    cases returned
    exact .inl rfl
  rename_i running
  split at path
  · obtain ⟨-, returned⟩ := path.of_done
    cases returned
    exact .inl rfl
  rename_i dir computed
  obtain ⟨first, result, rest, rfl, reads, inspects⟩ := path.of_bind
  cases result with
  | error err =>
      dsimp only at inspects
      split at inspects
      · obtain ⟨-, returned⟩ := inspects.of_done
        cases returned
        exact .inl rfl
      · obtain ⟨-, returned⟩ := inspects.of_done
        cases returned
        exact .inl rfl
  | ok idle =>
  obtain ⟨content, read, rfl⟩ := readKnob_path reads
  dsimp only at inspects
  split at inspects
  · obtain ⟨-, returned⟩ := inspects.of_done
    cases returned
    exact .inl rfl
  split at inspects
  · obtain ⟨-, returned⟩ := inspects.of_done
    cases returned
    exact .inl rfl
  rename_i one
  have candidate : pod.terminating = false → Candidate cfg (first ++ rest) pod := fun staying =>
    { annotated := not_not.mp annotated
      running := not_not.mp running
      staying
      live := ⟨dir, content, by rw [podDir, computed], List.mem_append_left _ read, not_not.mp one⟩ }
  -- every way through the usage ends in the check of the deletion timestamp
  have picks : ∀ (found : IdlePods) (last : List (Program.Event nodeSignature)),
      found.candidates = acc.candidates →
      Program.Path (if pod.terminating then pure found
        else pure { found with candidates := found.candidates ++ [pod] } : Node IdlePods) last (.done acc') →
      acc'.candidates = acc.candidates ∨
        acc'.candidates = acc.candidates ++ [pod] ∧ Candidate cfg (first ++ rest) pod := by
    intro found last same ends
    split at ends
    · obtain ⟨-, returned⟩ := ends.of_done
      cases returned
      exact .inl same
    · rename_i staying
      obtain ⟨-, returned⟩ := ends.of_done
      cases returned
      exact .inr ⟨by rw [same], candidate (by simpa using staying)⟩
  obtain ⟨counted, usage, last, -, -, counts⟩ := inspects.of_bind
  cases usage with
  | ok usage => exact picks _ _ (by rfl) counts
  | error usageErr =>
      obtain ⟨answer, last, -, ends⟩ := counts.of_request
      cases answer with
      | notExist => exact picks _ _ (by rfl) ends
      | failed statErr => exact picks _ _ (by rfl) ends
      | directory => exact picks _ _ (by rfl) ends
      | notDirectory => exact picks _ _ (by rfl) ends

omit [PrintTable] in
theorem Candidate.mono [PrintTable] {cfg : Config} {events events' : List (Program.Event nodeSignature)}
    {p : Pod} (candidate : Candidate cfg events p) (sub : events ⊆ events') : Candidate cfg events' p :=
  { candidate with
    live := by
      obtain ⟨dir, content, computed, read, one⟩ := candidate.live
      exact ⟨dir, content, computed, sub read, one⟩ }

/-- Only such pods are candidates. -/
theorem idlePodsUsage_candidates {cfg : Config} {pods : List Pod} {acc acc' : IdlePods}
    {events : List (Program.Event nodeSignature)}
    (path : Program.Path (idlePodsUsage cfg pods acc) events (.done acc')) :
    ∀ p ∈ acc'.candidates, p ∈ acc.candidates ∨ p ∈ pods ∧ Candidate cfg events p := by
  induction pods generalizing acc events with
  | nil =>
      obtain ⟨-, returned⟩ := path.of_done
      cases returned
      exact fun p member => .inl member
  | cons pod rest ih =>
      obtain ⟨first, found, later, rfl, one, onward⟩ := path.of_bind
      intro p member
      rcases ih onward p member with earlier | ⟨listed, candidate⟩
      · rcases idlePodUsage_path one with same | ⟨same, candidate⟩
        · exact .inl (same ▸ earlier)
        · rw [same, List.mem_append, List.mem_singleton] at earlier
          rcases earlier with earlier | rfl
          · exact .inl earlier
          · exact .inr ⟨.head _, candidate.mono (List.subset_append_left _ _)⟩
      · exact .inr ⟨.tail _ listed, candidate.mono (List.subset_append_right _ _)⟩

end

/-! ## The rules -/

section

universe u

variable {W : Type u} {A : Arena nodeSignature W} {G : Guarantee nodeSignature W}

/-- Sampling keeps `P`. -/
structure SampleRule (A : Arena nodeSignature W) (G : Guarantee nodeSignature W) (P : W → Prop) :
    Prop where
  stable : A.Stable P
  stat : ∀ dir, A.Inert G (.stat dir)
  idle : ∀ dir, A.Keeps G P (.readFile dir "cpu.idle")
  usage : ∀ dir, A.Keeps G P (.readFile dir "cpu.stat")
  cpus : A.Inert G .numCPU
  walk : ∀ keys, A.Inert G (.rangeKeys keys)

variable [PrintTable] {P : W → Prop}

omit [PrintTable] in
theorem readUsageUsec_holds [PrintTable] (rule : SampleRule A G P) (dir : String) :
    Holds A G P (readUsageUsec dir) fun _ w => P w := by
  refine .bind (.keeps rule.stable (rule.usage dir)) fun answer => ?_
  cases answer with
  | notExist => exact .pure fun _ holds => holds
  | failed err => exact .pure fun _ holds => holds
  | data content =>
      dsimp only
      split
      · exact .pure fun _ holds => holds
      · split
        · exact .pure fun _ holds => holds
        · exact .pure fun _ holds => holds

theorem idlePodUsage_holds (rule : SampleRule A G P) (cfg : Config) (pod : Pod) (acc : IdlePods) :
    Holds A G P (idlePodUsage cfg pod acc) fun _ w => P w := by
  have stop : ∀ acc : IdlePods, Holds A G P (pure acc : Node IdlePods) fun _ w => P w :=
    fun _ => .pure fun _ holds => holds
  have knob : ∀ dir, Holds A G P (readKnob dir "cpu.idle") fun _ w => P w := fun dir =>
    readKnob_keeps rule.stable ((rule.stat dir).keeps P) (rule.idle dir)
  unfold idlePodUsage
  refine .ite (fun _ => stop _) fun _ => .ite (fun _ => stop _) fun _ => ?_
  cases cfg.layout.podDir (Qos.toCgroupClass (Qos.classOf pod.spec)) pod.uid with
  | error err => exact stop _
  | ok dir =>
  refine .bind (knob dir) fun result => ?_
  cases result with
  | error err => exact .ite (fun _ => stop _) fun _ => stop _
  | ok idle =>
  refine .ite (fun _ => stop _) fun _ => .ite (fun _ => stop _) fun _ => ?_
  refine .bind (readUsageUsec_holds rule dir) fun usage => ?_
  cases usage with
  | ok usage => exact .ite (fun _ => stop _) fun _ => stop _
  | error usageErr =>
      refine .bind (.keeps rule.stable ((rule.stat dir).keeps P)) fun answer => ?_
      cases answer with
      | notExist => exact .ite (fun _ => stop _) fun _ => stop _
      | failed statErr => exact .ite (fun _ => stop _) fun _ => stop _
      | directory => exact .ite (fun _ => stop _) fun _ => stop _
      | notDirectory => exact .ite (fun _ => stop _) fun _ => stop _

theorem idlePodsUsage_holds (rule : SampleRule A G P) (cfg : Config) (pods : List Pod)
    (acc : IdlePods) : Holds A G P (idlePodsUsage cfg pods acc) fun _ w => P w := by
  induction pods generalizing acc with
  | nil => exact .pure fun _ holds => holds
  | cons pod rest ih => exact .bind (idlePodUsage_holds rule cfg pod acc) fun acc => ih acc

omit [PrintTable] in
theorem decideHot_holds (rule : SampleRule A G P) (cfg : TickConfig) (s : Sampler) (total : Nat)
    (idleUsage : Finmap fun _ : String => Nat) (now : Int) :
    Holds A G P (decideHot cfg s total idleUsage now) fun _ w => P w := by
  have stay : Holds A G P (pure (s.dec.hot, s.dec) : Node (Bool × Decider)) fun _ w => P w :=
    .pure fun _ holds => holds
  unfold decideHot
  cases s.prevSampled with
  | none => exact stay
  | some sampled =>
  refine .ite (fun _ => stay) fun _ => ?_
  refine .bind (.keeps rule.stable (rule.cpus.keeps P)) fun cpus => ?_
  have delta : Holds A G P (stableUsageDelta s.prevIdle idleUsage) fun _ w => P w :=
    .ite (fun _ => .pure fun _ holds => holds) fun _ =>
      .bind (.keeps rule.stable ((rule.walk _).keeps P)) fun _ => .pure fun _ holds => holds
  refine .bind delta fun result => ?_
  cases result with
  | none => exact stay
  | some idleDelta => exact .ite (fun _ => .pure fun _ holds => holds) fun _ => stay

/-- `J` between passes, `L pods` once the cache has been listed. -/
structure TickRule [PrintTable] [Qos.ResourceHelper] (A : Arena nodeSignature W)
    (G : Guarantee nodeSignature W) (cfg : Config) (J : Owned → W → Prop)
    (L : List Pod → Owned → W → Prop) : Prop where
  stable : ∀ owned, A.Stable (J owned)
  ctx : A.Inert G .ctxErr
  now : A.Inert G .now
  health : ∀ healthy, A.Inert G (.reportHealth healthy)
  list : ∀ owned w, J owned w → ∀ answer w', A.act w .listCache answer w' →
    G w .listCache answer w' ∧ J owned w' ∧
      ∀ pods, answer = (.ok pods : Except GoError (List Pod)) → L pods owned w'
  sample : ∀ pods owned, SampleRule A G (L pods owned)
  passes : ∀ pods owned hot candidates, Holds A G (L pods owned)
    (converge cfg owned hot pods candidates) fun result w => J result.2 w

theorem tick_holds [Qos.ResourceHelper] {cfg : TickConfig} {J : Owned → W → Prop}
    {L : List Pod → Owned → W → Prop} (rule : TickRule A G cfg.toConfig J L) (s : Sampler)
    (owned : Owned) : Holds A G (J owned) (tick cfg s owned) fun result w => J result.2 w := by
  have reports : ∀ healthy (result : Sampler × Owned), Holds A G (J result.2)
      (do
        ask (.reportHealth healthy)
        return result) fun result w => J result.2 w := fun healthy result =>
    .bind (.keeps (rule.stable _) ((rule.health healthy).keeps _)) fun _ => .pure fun _ holds => holds
  unfold tick
  refine .bind (.keeps (rule.stable owned) (rule.ctx.keeps _)) fun cancelled => ?_
  refine .ite (fun _ => .pure fun _ holds => holds) fun _ => ?_
  let R : Except GoError (List Pod) → W → Prop := fun answer w =>
    J owned w ∧ ∀ pods, answer = .ok pods → L pods owned w
  refine Holds.bind (R := R) (.request (rule.stable owned) (rule.list owned)) fun answer => ?_
  cases answer with
  | error err => exact .pre (reports false (s, owned)) fun w known => known.1
  | ok pods =>
  have sample := rule.sample pods owned
  refine .bind (.pre (idlePodsUsage_holds sample _ _ _) fun w known => known.2 pods rfl) fun idle => ?_
  refine .ite (fun _ => .bind (rule.passes _ _ _ _) fun result => reports false (s.forget, result.2))
    fun _ => ?_
  refine .bind (readUsageUsec_holds sample _) fun usage => ?_
  cases usage with
  | error err => exact .bind (rule.passes _ _ _ _) fun result => reports false (s.forget, result.2)
  | ok total =>
  refine .bind (.keeps sample.stable (rule.now.keeps _)) fun now => ?_
  refine .bind (decideHot_holds sample cfg s total _ now) fun decided => ?_
  exact .bind (rule.passes _ _ _ _) fun result =>
    reports result.1.isNone (⟨decided.2, total, idle.usage, some now⟩, result.2)

end

end CpuIdle.Guard
