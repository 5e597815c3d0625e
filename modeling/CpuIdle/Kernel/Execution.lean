/-
# Kernel.Execution — a plan carried out under the kernel's rules

`accept` is one write to the CPU knobs of a cgroup by three rules of the kernel:
`cpu.idle` 1 → 0 resets the weight to 100, the weight is only taken while `cpu.idle` is
0, burst only up to the quota. Nothing else is assumed of the snapshot a plan was built
from: any numbers, also ones no kernel would show.

`buildPlan_converges` carries a whole plan out.
-/
import CpuIdle.Apply.Applier
import CpuIdle.Kernel.Cgroup

namespace CpuIdle.Kernel

open CpuIdle.Go CpuIdle.Apply

set_option autoImplicit false

/-! ## One write -/

/-- The number written to a control file. -/
def number (text : String) : Option Nat :=
  if text ≠ "" ∧ text.toList.all Char.isDigit then some (Nat.ofDigitChars 10 text.toList 0) else none

@[simp] theorem number_formatUint (n : Nat) : number (formatUint n) = some n := by
  have digits : (formatUint n).toList.all Char.isDigit = true := by
    rw [List.all_eq_true, toList_formatUint]
    exact fun c member => Nat.isDigit_of_mem_toDigits (by decide) (by decide) member
  rw [number, if_pos ⟨formatUint_ne_empty n, digits⟩, toList_formatUint, Nat.ofDigitChars_ten_toDigits]

/-- The snapshot after one write, `none` when the kernel refuses it. `idleWeight` is the weight
that reads back while the cgroup is idle. -/
def accept (idleWeight : Nat) (s : Snapshot) (write : Write) : Option Snapshot :=
  if write.knob = knobCPUIdle then
    if write.value = "1" then
      some (if s.idleActive then s else { s with idleActive := true, weight := idleWeight })
    else if write.value = "0" then
      some (if s.idleActive then { s with idleActive := false, weight := 100 } else s)
    else none
  else if write.knob = knobCPUWeight then
    (number write.value).bind fun n =>
      if s.idleActive ∨ n < minCPUWeight ∨ maxCPUWeight < n then none else some { s with weight := n }
  else if write.knob = knobCPUMaxBurst then
    (number write.value).bind fun n =>
      if s.quota.all (n ≤ ·) then some { s with burst := n } else none
  else none

/-- All writes in order, up to the first that is refused. -/
def execute (idleWeight : Nat) : List Write → Snapshot → Option Snapshot
  | [], s => some s
  | write :: rest, s => (accept idleWeight s write).bind (execute idleWeight rest)

/-- What the knob of a write reads. -/
def shown (s : Snapshot) (knob : String) : String :=
  if knob = knobCPUIdle then Cgroup.bit s.idleActive
  else if knob = knobCPUWeight then formatUint s.weight
  else formatUint s.burst

/-- Each write changes what its knob reads, the weight excepted. -/
def Effective (idleWeight : Nat) : List Write → Snapshot → Prop
  | [], _ => True
  | write :: rest, s => (write.knob ≠ knobCPUWeight → shown s write.knob ≠ write.value) ∧
      ∀ s', accept idleWeight s write = some s' → Effective idleWeight rest s'

section

variable {idleWeight : Nat} {s : Snapshot}

theorem accept_idleOn (inactive : s.idleActive = false) : accept idleWeight s ⟨knobCPUIdle, "1"⟩ =
    some { s with idleActive := true, weight := idleWeight } := by
  simp [accept, inactive]

theorem accept_idleOff (active : s.idleActive = true) : accept idleWeight s ⟨knobCPUIdle, "0"⟩ =
    some { s with idleActive := false, weight := 100 } := by
  simp [accept, active]

theorem accept_weight {n : Nat} (inactive : s.idleActive = false) (range : 1 ≤ n ∧ n ≤ 10000) :
    accept idleWeight s ⟨knobCPUWeight, formatUint n⟩ = some { s with weight := n } := by
  have taken : ¬(n < minCPUWeight ∨ maxCPUWeight < n) := by
    simp only [minCPUWeight, maxCPUWeight]
    omega
  simp [accept, inactive, taken, knobCPUIdle, knobCPUWeight]

theorem accept_burst {n : Nat} (below : ∀ q ∈ s.quota, n ≤ q) :
    accept idleWeight s ⟨knobCPUMaxBurst, formatUint n⟩ = some { s with burst := n } := by
  have taken : s.quota.all (n ≤ ·) = true := by simpa [Option.all_eq_true] using below
  simp [accept, taken, knobCPUIdle, knobCPUWeight, knobCPUMaxBurst]

end

/-! ## The plan -/

/-- The burst write, on the side of the plan its direction asks for. -/
def burstWrites (target burst : Nat) (on : Bool) : List Write :=
  if target = burst ∨ decide (target > 0) ≠ on then [] else [⟨knobCPUMaxBurst, formatUint target⟩]

def idleWrites (requested active : Bool) (weight : Nat) : List Write :=
  match requested, active with
  | true, false => [⟨knobCPUIdle, "1"⟩]
  | false, true => [⟨knobCPUIdle, "0"⟩, ⟨knobCPUWeight, formatUint weight⟩]
  | _, _ => []

/-- The three parts of a plan. -/
theorem buildPlan_parts (desired : Tier.State) (s : Snapshot) (weight : Nat) :
    buildPlan desired s weight = burstWrites (burstTarget desired s) s.burst true ++
      idleWrites desired.idleRequested s.idleActive weight ++
        burstWrites (burstTarget desired s) s.burst false := by
  unfold buildPlan planBurst planIdle burstWrites
  by_cases same : burstTarget desired s = s.burst
  · cases desired.idleRequested <;> cases s.idleActive <;> simp [same, idleWrites]
  · by_cases on : 0 < burstTarget desired s
    · cases desired.idleRequested <;> cases s.idleActive <;> simp [same, on, idleWrites]
    · cases desired.idleRequested <;> cases s.idleActive <;> simp [same, on, idleWrites]

theorem burstTarget_below (desired : Tier.State) (s : Snapshot) :
    ∀ q ∈ s.quota, burstTarget desired s ≤ q := by
  intro q member
  unfold burstTarget
  split
  · rw [Option.mem_def.mp member]
    exact Nat.le_refl q
  · exact Nat.zero_le q

section

variable (idleWeight : Nat) {weight : Nat} {s : Snapshot}

/-- The idle part brings `cpu.idle` in line, restores the weight on the way out, and leaves the rest. -/
theorem execute_idleWrites (requested : Bool) (range : 1 ≤ weight ∧ weight ≤ 10000) (rest : List Write) :
    ∃ w, (s.idleActive = true ∧ requested = false → w = weight) ∧
      execute idleWeight (idleWrites requested s.idleActive weight ++ rest) s =
        execute idleWeight rest { s with idleActive := requested, weight := w } := by
  obtain ⟨idleActive, old, quota, burst⟩ := s
  cases requested <;> cases idleActive
  · exact ⟨old, by simp, rfl⟩
  · refine ⟨weight, fun _ => rfl, ?_⟩
    simp only [idleWrites, List.cons_append, List.nil_append, execute, accept_idleOff, Option.bind_some]
    rw [accept_weight rfl range]
    rfl
  · refine ⟨idleWeight, by simp, ?_⟩
    simp only [idleWrites, List.cons_append, List.nil_append, execute, accept_idleOn, Option.bind_some]
  · exact ⟨old, by simp, rfl⟩

theorem execute_burstWrites {target : Nat} (below : ∀ q ∈ s.quota, target ≤ q) (on : Bool)
    (rest : List Write) : execute idleWeight (burstWrites target s.burst on ++ rest) s =
      execute idleWeight rest
        { s with burst := if decide (target > 0) = on then target else s.burst } := by
  unfold burstWrites
  by_cases same : target = s.burst
  · simp [same]
  · by_cases side : decide (target > 0) = on
    · simp [same, side, execute, accept_burst below]
    · simp [side]

theorem accept_other {idleWeight : Nat} {s s' : Snapshot} {write : Write}
    (other : write.knob ≠ knobCPUMaxBurst) (accepted : accept idleWeight s write = some s') :
    s'.burst = s.burst ∧ s'.quota = s.quota := by
  unfold accept at accepted
  split at accepted
  · split at accepted
    · obtain rfl := Option.some.inj accepted
      split <;> simp
    · split at accepted
      · obtain rfl := Option.some.inj accepted
        split <;> simp
      · cases accepted
  · split at accepted
    · obtain ⟨n, -, taken⟩ := Option.bind_eq_some_iff.mp accepted
      split at taken
      · cases taken
      · obtain rfl := Option.some.inj taken
        simp
    · simp at accepted

theorem accept_burst_idle {idleWeight : Nat} {s s' : Snapshot} {value : String}
    (accepted : accept idleWeight s ⟨knobCPUMaxBurst, value⟩ = some s') :
    s'.idleActive = s.idleActive := by
  unfold accept at accepted
  rw [if_neg (show knobCPUMaxBurst ≠ knobCPUIdle by decide),
    if_neg (show knobCPUMaxBurst ≠ knobCPUWeight by decide), if_pos rfl] at accepted
  obtain ⟨n, -, taken⟩ := Option.bind_eq_some_iff.mp accepted
  split at taken
  · obtain rfl := Option.some.inj taken
    rfl
  · cases taken

theorem effective_idleWrites (requested : Bool) (rest : List Write)
    (later : ∀ s', s'.burst = s.burst → s'.quota = s.quota → Effective idleWeight rest s') :
    Effective idleWeight (idleWrites requested s.idleActive weight ++ rest) s := by
  obtain ⟨idleActive, old, quota, burst⟩ := s
  cases requested <;> cases idleActive
  · exact later _ rfl rfl
  · refine ⟨fun _ => (by decide : Cgroup.bit true ≠ "0"), fun s' first => ?_⟩
    refine ⟨fun notWeight => absurd rfl notWeight, fun s'' second => ?_⟩
    obtain ⟨burst', quota'⟩ := accept_other (show knobCPUIdle ≠ knobCPUMaxBurst by decide) first
    obtain ⟨burst'', quota''⟩ := accept_other (show knobCPUWeight ≠ knobCPUMaxBurst by decide) second
    exact later s'' (burst''.trans burst') (quota''.trans quota')
  · refine ⟨fun _ => (by decide : Cgroup.bit false ≠ "1"), fun s' first => ?_⟩
    obtain ⟨burst', quota'⟩ := accept_other (show knobCPUIdle ≠ knobCPUMaxBurst by decide) first
    exact later s' burst' quota'
  · exact later _ rfl rfl

theorem effective_burstWrites {target : Nat} (on : Bool) (rest : List Write)
    (later : ∀ s', s'.idleActive = s.idleActive →
      (decide (target > 0) ≠ on → s'.burst = s.burst) → Effective idleWeight rest s') :
    Effective idleWeight (burstWrites target s.burst on ++ rest) s := by
  unfold burstWrites
  split
  · exact later s rfl fun _ => rfl
  · rename_i planned
    rw [not_or, not_not] at planned
    have reads : shown s knobCPUMaxBurst = formatUint s.burst := rfl
    refine ⟨fun _ same => planned.1 ?_, fun s' accepted => ?_⟩
    · have numbers := congrArg number (reads.symm.trans same)
      simpa using numbers.symm
    · exact later s' (accept_burst_idle accepted) fun other => absurd planned.2 other

end

/-- The order of INV-7: what a plan may contain, and where. -/
def planOrder : List (String × Bool) :=
  [(knobCPUMaxBurst, true), (knobCPUIdle, true), (knobCPUIdle, false), (knobCPUWeight, false),
    (knobCPUMaxBurst, false)]

/-- The knob of a write and whether it turns something on. -/
def direction (write : Write) : String × Bool := (write.knob, writeIsInstall write)

theorem direction_burst (n : Nat) : direction ⟨knobCPUMaxBurst, formatUint n⟩ =
    (knobCPUMaxBurst, decide (n > 0)) := by
  have zero : formatUint n = "0" ↔ n = 0 := by
    refine ⟨fun same => ?_, fun same => same ▸ rfl⟩
    have numbers := congrArg number same
    rw [number_formatUint, (by decide : number "0" = some 0)] at numbers
    exact Option.some.inj numbers
  have positive : decide (formatUint n ≠ "0") = decide (n > 0) := by
    rw [decide_eq_decide, Ne, zero]
    omega
  simp [direction, writeIsInstall, ← positive, knobCPUMaxBurst, knobCPUWeight]

theorem buildPlan_order (desired : Tier.State) (s : Snapshot) (weight : Nat) :
    ((buildPlan desired s weight).map direction).Sublist planOrder := by
  have burst : ∀ on, ((burstWrites (burstTarget desired s) s.burst on).map direction).Sublist
      [(knobCPUMaxBurst, on)] := by
    intro on
    unfold burstWrites
    split
    · exact List.nil_sublist _
    · rename_i planned
      rw [not_or, not_not] at planned
      simp [direction_burst, planned.2]
  have idle : ((idleWrites desired.idleRequested s.idleActive weight).map direction).Sublist
      [(knobCPUIdle, true), (knobCPUIdle, false), (knobCPUWeight, false)] := by
    cases desired.idleRequested <;> cases s.idleActive <;>
      simp [idleWrites, direction, writeIsInstall, knobCPUIdle, knobCPUWeight]
  rw [buildPlan_parts, List.map_append, List.map_append]
  exact ((burst true).append idle).append (burst false)

/-- **A plan goes through and converges.** -/
theorem buildPlan_converges (idleWeight : Nat) (desired : Tier.State) (s : Snapshot) {weight : Nat}
    (range : 1 ≤ weight ∧ weight ≤ 10000) :
    ∃ s', execute idleWeight (buildPlan desired s weight) s = some s' ∧
      s'.idleActive = desired.idleRequested ∧
      s'.burst = (if desired.burstActive then s.quota.getD 0 else 0) ∧
      (s.idleActive = true ∧ desired.idleRequested = false → s'.weight = weight) ∧
      (¬(s.idleActive = true ∧ desired.idleRequested = false) →
        ∀ write ∈ buildPlan desired s weight, write.knob ≠ knobCPUWeight) ∧
      s'.quota = s.quota ∧ (∀ write ∈ buildPlan desired s weight, write.knob ≠ knobCPUMax) ∧
      buildPlan desired s' weight = [] ∧
      Effective idleWeight (buildPlan desired s weight) s ∧
      ((buildPlan desired s weight).map direction).Sublist planOrder := by
  have below := burstTarget_below desired s
  obtain ⟨w, restored, idle⟩ := execute_idleWrites idleWeight
    (s := { s with burst := if decide (burstTarget desired s > 0) = true then burstTarget desired s
      else s.burst }) desired.idleRequested range (burstWrites (burstTarget desired s) s.burst false)
  have ended : execute idleWeight (buildPlan desired s weight) s = some
      { s with idleActive := desired.idleRequested, weight := w, burst := burstTarget desired s } := by
    rw [buildPlan_parts, List.append_assoc, execute_burstWrites idleWeight below, idle]
    by_cases on : 0 < burstTarget desired s
    · simp [burstWrites, on, execute]
    · have last := execute_burstWrites idleWeight
        (s := { s with idleActive := desired.idleRequested, weight := w }) below false []
      rw [List.append_nil] at last
      simpa [on, execute] using last
  have again : ∀ active weight burst,
      burstTarget desired ⟨active, weight, s.quota, burst⟩ = burstTarget desired s := fun _ _ _ => rfl
  refine ⟨_, ended, rfl, rfl, restored, fun stays write member => ?_, rfl, fun write member => ?_, ?_, ?_,
    buildPlan_order desired s weight⟩
  · rw [buildPlan_parts] at member
    intro isWeight
    have notBurst : ∀ on, write ∉ burstWrites (burstTarget desired s) s.burst on := by
      intro on inside
      unfold burstWrites at inside
      split at inside
      · cases inside
      · rw [List.mem_singleton.mp inside] at isWeight
        exact absurd isWeight (show knobCPUMaxBurst ≠ knobCPUWeight by decide)
    rcases List.mem_append.mp member with member | member
    · rcases List.mem_append.mp member with member | member
      · exact notBurst _ member
      · revert member
        cases requested : desired.idleRequested <;> cases active : s.idleActive
        · simp [idleWrites]
        · exact absurd ⟨active, requested⟩ stays
        · intro only
          rw [List.mem_singleton.mp only] at isWeight
          exact absurd isWeight (by decide)
        · simp [idleWrites]
    · exact notBurst _ member
  · rcases mem_buildPlan member with rfl | rfl | rfl
    · exact (by decide : knobCPUMaxBurst ≠ knobCPUMax)
    · exact (by decide : knobCPUIdle ≠ knobCPUMax)
    · exact (by decide : knobCPUWeight ≠ knobCPUMax)
  · rw [buildPlan_parts]
    cases desired.idleRequested <;> simp [burstWrites, idleWrites, again]
  · rw [buildPlan_parts, List.append_assoc]
    refine effective_burstWrites idleWeight true _ fun s' sameIdle sameBurst => ?_
    rw [← sameIdle]
    refine effective_idleWrites idleWeight _ _ fun s'' burst'' _ => ?_
    by_cases on : 0 < burstTarget desired s
    · simp [burstWrites, on, Effective]
    · have unchanged : s''.burst = s.burst := burst''.trans (sameBurst (by simp [on]))
      have last : Effective idleWeight (burstWrites (burstTarget desired s) s''.burst false ++ []) s'' :=
        effective_burstWrites idleWeight false [] fun _ _ _ => trivial
      rwa [List.append_nil, unchanged] at last

/-- Idle off and burst on at once. -/
def mixedState : Tier.State := { Tier.State.zero with burstRequested := true, burstActive := true }

def mixedSnapshot : Snapshot := { idleActive := true, weight := 0, quota := some 50000, burst := 0 }

theorem buildPlan_converges_mixed :
    ∃ s', execute 0 (buildPlan mixedState mixedSnapshot 20) mixedSnapshot = some s' ∧
      s'.idleActive = false ∧ s'.burst = 50000 ∧ s'.weight = 20 := by
  obtain ⟨s', run, idle, burst, weight, -⟩ :=
    buildPlan_converges 0 mixedState mixedSnapshot (by decide : 1 ≤ 20 ∧ 20 ≤ 10000)
  exact ⟨s', run, idle, burst, weight (by decide)⟩

end CpuIdle.Kernel
