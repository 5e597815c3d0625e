/-
# Apply.Plan — the snapshot of a pod cgroup and the plan of writes

* `readSnapshot` reads the four CPU knobs once, in the source's order, and only then
  parses them;
* `buildPlan` orders the writes: turning on before turning off, bandwidth before
  selection on the way in and after it on the way out, the weight right after
  `cpu.idle` 1 → 0;
* `readSnapshot_shows`: what a read tells about the files and the directory;
* `mem_buildPlan`: all a plan can write.
-/
import CpuIdle.Cgroup.Knob
import CpuIdle.Tier.Desired

namespace CpuIdle.Apply

open CpuIdle.Go CpuIdle.Kube CpuIdle.Node CpuIdle.Theory

set_option autoImplicit false

def knobCPUIdle : String := "cpu.idle"
def knobCPUWeight : String := "cpu.weight"
def knobCPUMax : String := "cpu.max"
def knobCPUMaxBurst : String := "cpu.max.burst"

/-! ## The snapshot -/

def cpuMaxUnbounded : String := "max"
def minCPUQuotaPeriod : Nat := 1000
def maxCPUQuotaPeriod : Nat := 1000000
def idleCPUWeight : Nat := 0
def minCPUWeight : Nat := 1
def maxCPUWeight : Nat := 10000

/-- A pod cgroup's CPU knobs. `quota` is `HasQuota` and `Quota` in one. -/
structure Snapshot where
  idleActive : Bool
  weight : Nat
  quota : Option Nat
  burst : Nat
  deriving DecidableEq

def Snapshot.hasQuota (s : Snapshot) : Bool := s.quota.isSome

/-- Go's zero `Snapshot`. -/
def Snapshot.zero : Snapshot := { idleActive := false, weight := 0, quota := none, burst := 0 }

section

variable [PrintTable]

/-- The first field of `cpu.max`; `max` is no number. -/
def parseCPUMaxQuota (raw : String) : Except GoError (Option Nat) :=
  match fields raw with
  | [quotaField, periodField] =>
      let outside := GoError.new
        s!"period field {quote periodField} is outside [{minCPUQuotaPeriod}, {maxCPUQuotaPeriod}]"
      match parseUint periodField with
      | .error _ => .error outside
      | .ok period =>
          if period < minCPUQuotaPeriod ∨ period > maxCPUQuotaPeriod then .error outside
          else if quotaField = cpuMaxUnbounded then .ok none
          else
            match parseUint quotaField with
            | .error err => .error ((numError quotaField err).wrap s!"quota field {quote quotaField}")
            | .ok quota =>
                if quota < minCPUQuotaPeriod then
                  .error (.new s!"quota field {quote quotaField} is below {minCPUQuotaPeriod}")
                else .ok (some quota)
  | _ => .error (.new s!"expected '<quota|max> <period>', got {quote raw}")

/-- The checks of `readSnapshot`, in order, once all four files are read. -/
def parseSnapshot (idleRaw weightRaw maxRaw burstRaw : String) : Except GoError Snapshot :=
  if idleRaw ≠ "0" ∧ idleRaw ≠ "1" then
    .error (.new s!"apply: parse {knobCPUIdle} {quote idleRaw}: expected 0 or 1")
  else
    match parseUint weightRaw with
    | .error err =>
        .error ((numError weightRaw err).wrap s!"apply: parse {knobCPUWeight} {quote weightRaw}")
    | .ok weight =>
        let validIdleWeight := idleRaw = "1" ∧ weight = idleCPUWeight
        if ¬validIdleWeight ∧ (weight < minCPUWeight ∨ weight > maxCPUWeight) then
          .error (.new
            s!"apply: parse {knobCPUWeight} {quote weightRaw}: expected 0 for an idle cgroup or a value in [{minCPUWeight}, {maxCPUWeight}]")
        else
          match parseUint burstRaw with
          | .error err =>
              .error ((numError burstRaw err).wrap s!"apply: parse {knobCPUMaxBurst} {quote burstRaw}")
          | .ok burst =>
              match parseCPUMaxQuota maxRaw with
              | .error err => .error (err.wrap s!"apply: parse {knobCPUMax} {quote maxRaw}")
              | .ok quota => .ok { idleActive := idleRaw = "1", weight, quota, burst }

def readSnapshot (dir : String) : Node (Except GoError Snapshot) := do
  match ← Cgroup.readKnob dir knobCPUIdle with
  | .error err => return .error err
  | .ok idleRaw =>
  match ← Cgroup.readKnob dir knobCPUWeight with
  | .error err => return .error err
  | .ok weightRaw =>
  match ← Cgroup.readKnob dir knobCPUMax with
  | .error err => return .error err
  | .ok maxRaw =>
  match ← Cgroup.readKnob dir knobCPUMaxBurst with
  | .error err => return .error err
  | .ok burstRaw => return parseSnapshot idleRaw weightRaw maxRaw burstRaw

/-! ### What it shows -/

/-- The parser meets none of the agent's sentinels. -/
theorem parseCPUMaxQuota_chain {raw : String} {err : GoError} (failed : parseCPUMaxQuota raw = .error err) :
    err.chain = [] := by
  unfold parseCPUMaxQuota at failed
  split at failed
  · dsimp only at failed
    split at failed
    · cases failed
      rfl
    · split_ifs at failed
      · cases failed
        rfl
      · split at failed
        · cases failed
          rfl
        · split_ifs at failed
          cases failed
          rfl
  · cases failed
    rfl

theorem parseSnapshot_chain {idleRaw weightRaw maxRaw burstRaw : String} {err : GoError}
    (failed : parseSnapshot idleRaw weightRaw maxRaw burstRaw = .error err) : err.chain = [] := by
  unfold parseSnapshot at failed
  split at failed
  · cases failed
    rfl
  · split at failed
    · cases failed
      rfl
    · dsimp only at failed
      split at failed
      · cases failed
        rfl
      · split at failed
        · cases failed
          rfl
        · split at failed
          · rename_i cause unparsed
            cases failed
            have unmarked : cause.chain = [] := parseCPUMaxQuota_chain unparsed
            exact unmarked
          · cases failed

theorem parseSnapshot_quota {idleRaw weightRaw maxRaw burstRaw : String} {s : Snapshot}
    (parsed : parseSnapshot idleRaw weightRaw maxRaw burstRaw = .ok s) :
    parseCPUMaxQuota maxRaw = .ok s.quota := by
  unfold parseSnapshot at parsed
  split at parsed
  · cases parsed
  · split at parsed
    · cases parsed
    · dsimp only at parsed
      split at parsed
      · cases parsed
      · split at parsed
        · cases parsed
        · split at parsed
          · cases parsed
          · rename_i quota found
            cases parsed
            exact found

end

section

universe u

variable [PrintTable] {W : Type u} {A : Arena nodeSignature W} {G : Guarantee nodeSignature W}

/-- The files support what was read of the directory, and its absence an error that says gone. -/
def Shown {α : Type} (A : Arena nodeSignature W) (dir : String) (w : W) (known : α → Prop) :
    Except GoError α → Prop
  | .ok a => known a
  | .error err => err.is .cgroupGone = true → A.act w (.stat dir) .notExist w

/-- A snapshot has the quota of a `cpu.max` that was read, and only an absent directory is gone. -/
theorem readSnapshot_shows {P : W → Prop} {dir : String} (stable : A.Stable P)
    (stat : A.Inert G (.stat dir)) (read : ∀ name, A.Inert G (.readFile dir name)) :
    Holds A G P (readSnapshot dir) fun result w => P w ∧ Shown A dir w (fun s : Snapshot =>
      ∃ w' content, A.act w' (.readFile dir knobCPUMax) (.data content) w' ∧
        parseCPUMaxQuota (trimSpace content) = .ok s.quota) result := by
  have knob : ∀ name, Holds A G P (Cgroup.readKnob dir name) fun result w => P w ∧
      Shown A dir w (fun raw => ∃ w' content, A.act w' (.readFile dir name) (.data content) w' ∧
        raw = trimSpace content) result := by
    intro name
    refine Cgroup.readKnob_holds stable stat (fun w holds content w' act => ?_)
      (fun w holds answer w' act _ => (read name).keeps P w holds answer w' act)
      fun w err holds gone => ⟨holds, gone⟩
    obtain ⟨rfl, kept⟩ := read name w _ w' act
    exact ⟨kept, holds, w', content, act, rfl⟩
  unfold readSnapshot
  refine .bind (knob knobCPUIdle) fun result => ?_
  cases result with
  | error err => exact .pure fun w known => known
  | ok idleRaw =>
  refine .bind (.pre (knob knobCPUWeight) fun w known => known.1) fun result => ?_
  cases result with
  | error err => exact .pure fun w known => known
  | ok weightRaw =>
  refine .bind (.pre (knob knobCPUMax) fun w known => known.1) fun result => ?_
  cases result with
  | error err => exact .pure fun w known => known
  | ok maxRaw =>
  rintro w ⟨holds, w', content, act, rfl⟩
  refine Safe.bind ((knob knobCPUMaxBurst w holds).mono fun result w known => ?_)
  cases result with
  | error err => exact known
  | ok burstRaw =>
      refine ⟨known.1, ?_⟩
      cases parsed : parseSnapshot idleRaw weightRaw (trimSpace content) burstRaw with
      | ok s => exact ⟨w', content, act, parseSnapshot_quota parsed⟩
      | error err => simp [Shown, GoError.is, parseSnapshot_chain parsed]

end

/-! ## The plan -/

structure Write where
  knob : String
  value : String
  deriving DecidableEq

/-- The burst value the pod should have under this snapshot. -/
def burstTarget (desired : Tier.State) (actual : Snapshot) : Nat :=
  if desired.burstActive then actual.quota.getD 0 else 0

/-- The write, and whether it turns burst on. -/
def planBurst (desired : Tier.State) (actual : Snapshot) : Option (Write × Bool) :=
  let target := burstTarget desired actual
  if target = actual.burst then none
  else some (⟨knobCPUMaxBurst, formatUint target⟩, decide (target > 0))

def planIdle (desired : Tier.State) (actual : Snapshot) : Option Write :=
  if desired.idleRequested = actual.idleActive then none
  else some ⟨knobCPUIdle, if desired.idleRequested then "1" else "0"⟩

def buildPlan (desired : Tier.State) (actual : Snapshot) (restoreWeight : Nat) : List Write :=
  let burst := planBurst desired actual
  let burstOn := match burst with
    | some (write, true) => [write]
    | _ => []
  let burstOff := match burst with
    | some (write, false) => [write]
    | _ => []
  let idle := match planIdle desired actual with
    | some write =>
        if desired.idleRequested then [write]
        else [write, ⟨knobCPUWeight, formatUint restoreWeight⟩]
    | none => []
  burstOn ++ idle ++ burstOff

/-! ## What a plan contains -/

theorem planBurst_some {desired : Tier.State} {actual : Snapshot} {write : Write} {on : Bool}
    (planned : planBurst desired actual = some (write, on)) :
    write = ⟨knobCPUMaxBurst, formatUint (burstTarget desired actual)⟩ := by
  simp only [planBurst] at planned
  split at planned
  · cases planned
  · simp only [Option.some.injEq, Prod.mk.injEq] at planned
    exact planned.1.symm

theorem planIdle_some {desired : Tier.State} {actual : Snapshot} {write : Write}
    (planned : planIdle desired actual = some write) :
    write = ⟨knobCPUIdle, if desired.idleRequested then "1" else "0"⟩ ∧
      desired.idleRequested ≠ actual.idleActive := by
  simp only [planIdle] at planned
  split at planned
  · cases planned
  · rename_i differs
    exact ⟨(Option.some.inj planned).symm, differs⟩

/-- A plan writes the burst target, the requested idle bit and the given weight. -/
theorem mem_buildPlan {desired : Tier.State} {actual : Snapshot} {weight : Nat} {write : Write}
    (member : write ∈ buildPlan desired actual weight) :
    write = ⟨knobCPUMaxBurst, formatUint (burstTarget desired actual)⟩ ∨
      write = ⟨knobCPUIdle, if desired.idleRequested then "1" else "0"⟩ ∨
      write = ⟨knobCPUWeight, formatUint weight⟩ := by
  simp only [buildPlan, List.mem_append] at member
  rcases member with (member | member) | member
  · split at member
    · rename_i planned
      exact .inl ((List.mem_singleton.mp member).trans (planBurst_some planned))
    · cases member
  · split at member
    · rename_i planned
      have idle := (planIdle_some planned).1
      split at member
      · exact .inr (.inl ((List.mem_singleton.mp member).trans idle))
      · rcases List.mem_cons.mp member with rfl | member
        · exact .inr (.inl idle)
        · exact .inr (.inr (List.mem_singleton.mp member))
    · cases member
  · split at member
    · rename_i planned
      exact .inl ((List.mem_singleton.mp member).trans (planBurst_some planned))
    · cases member

end CpuIdle.Apply
