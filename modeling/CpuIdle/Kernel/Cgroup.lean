/-
# Kernel.Cgroup — a pod's cgroup v2 directory as the kernel keeps it

A `Cgroup` is the state of the CPU and freezer controllers, with the ranges the
kernel enforces as fields, so that every value is one the kernel can be in. `content`
is what its control files read; `Takes` is what an accepted write does:

* `cpu.idle` 1 → 0 resets the weight to 100; while idle the weight that reads back is
  the kernel's own;
* `cpu.weight` is only taken while `cpu.idle` is 0;
* `cpu.max.burst` is only taken up to the quota.

`parseSnapshot_content` says the agent's parser reads such a directory exactly.
-/
import CpuIdle.Apply.Plan

namespace CpuIdle.Kernel

open CpuIdle.Go CpuIdle.Apply

set_option autoImplicit false

structure Knobs where
  idle : Bool
  weight : Nat
  quota : Option Nat
  period : Nat
  burst : Nat
  frozen : Bool
  deriving DecidableEq

structure Cgroup extends Knobs where
  weight_range : (idle = true ∧ weight = 0) ∨ (1 ≤ weight ∧ weight ≤ 10000)
  quota_range : ∀ q ∈ quota, 1000 ≤ q ∧ q ≤ maxUint64
  period_range : 1000 ≤ period ∧ period ≤ 1000000
  burst_range : burst ≤ maxUint64
  burst_below : ∀ q ∈ quota, burst ≤ q

namespace Cgroup

theorem ext_knobs {c c' : Cgroup} (same : c.toKnobs = c'.toKnobs) : c = c' := by
  cases c
  cases c'
  congr

instance : DecidableEq Cgroup := fun c c' =>
  decidable_of_iff (c.toKnobs = c'.toKnobs) ⟨ext_knobs, fun same => same ▸ rfl⟩

def bit (b : Bool) : String := if b then "1" else "0"

theorem bit_injective : Function.Injective bit := by
  intro a b same
  revert same
  cases a <;> cases b <;> decide

/-- The first field of `cpu.max`. -/
def quotaText : Option Nat → String
  | none => "max"
  | some q => formatUint q

/-- `cpu.max` as it reads and as the guard writes it. -/
def cpuMax (quota : Option Nat) (period : Nat) : String := quotaText quota ++ " " ++ formatUint period

/-- What a control file holds, without its newline. -/
def value (c : Cgroup) : String → Option String
  | "cpu.idle" => some (bit c.idle)
  | "cpu.weight" => some (formatUint c.weight)
  | "cpu.max" => some (cpuMax c.quota c.period)
  | "cpu.max.burst" => some (formatUint c.burst)
  | "cgroup.freeze" => some (bit c.frozen)
  | _ => none

/-- What reading a control file returns. -/
def content (c : Cgroup) (knob : String) : Option String := (c.value knob).map (· ++ "\n")

def snapshot (c : Cgroup) : Snapshot :=
  { idleActive := c.idle, weight := c.weight, quota := c.quota, burst := c.burst }

/-- An accepted write. -/
inductive Takes (c : Cgroup) : String → String → Cgroup → Prop where
  | idleOn {c' : Cgroup} (weight : Nat)
      (after : c'.toKnobs = { c.toKnobs with idle := true, weight }) : Takes c "cpu.idle" "1" c'
  | idleOff {c' : Cgroup} (active : c.idle = true)
      (after : c'.toKnobs = { c.toKnobs with idle := false, weight := 100 }) :
      Takes c "cpu.idle" "0" c'
  | idleStaysOff (inactive : c.idle = false) : Takes c "cpu.idle" "0" c
  | weight {c' : Cgroup} {n : Nat} (inactive : c.idle = false)
      (after : c'.toKnobs = { c.toKnobs with weight := n }) : Takes c "cpu.weight" (formatUint n) c'
  | burst {c' : Cgroup} {n : Nat} (after : c'.toKnobs = { c.toKnobs with burst := n }) :
      Takes c "cpu.max.burst" (formatUint n) c'
  | max {c' : Cgroup} {quota : Option Nat} {period : Nat}
      (after : c'.toKnobs = { c.toKnobs with quota, period }) :
      Takes c "cpu.max" (cpuMax quota period) c'
  | freeze {c' : Cgroup} (frozen : Bool) (after : c'.toKnobs = { c.toKnobs with frozen }) :
      Takes c "cgroup.freeze" (bit frozen) c'

/-- What was written reads back. -/
theorem Takes.shows {c c' : Cgroup} {knob value : String} (takes : c.Takes knob value c') :
    c'.value knob = some value := by
  cases takes with
  | idleOn weight after => simp [Cgroup.value, after, bit]
  | idleOff active after => simp [Cgroup.value, after, bit]
  | idleStaysOff inactive => simp [Cgroup.value, inactive, bit]
  | weight inactive after => simp [Cgroup.value, after]
  | burst after => simp [Cgroup.value, after]
  | max after => simp [Cgroup.value, after]
  | freeze frozen after => simp [Cgroup.value, after]

/-- A write leaves the other knobs, except that `cpu.idle` moves the weight. -/
theorem Takes.leaves {c c' : Cgroup} {knob value other : String} (takes : c.Takes knob value c')
    (elsewhere : other ≠ knob) (weight : other ≠ "cpu.weight") : c'.value other = c.value other := by
  unfold Cgroup.value
  split
  · cases takes with
    | idleOn => exact absurd rfl elsewhere
    | idleOff => exact absurd rfl elsewhere
    | idleStaysOff => rfl
    | _ => simp [*]
  · exact absurd rfl weight
  all_goals
    cases takes with
    | _ => simp_all

/-- The burst is apart from the class of the cgroup. -/
theorem Takes.of_burst {c c' : Cgroup} {knob value : String} (takes : c.Takes knob value c')
    (burst : knob = "cpu.max.burst") : c'.idle = c.idle ∧ c'.weight = c.weight := by
  cases takes with
  | burst after => simp [after]
  | _ => exact absurd burst (by decide)

/-! ## A write as the snapshot shows it -/

theorem Takes.of_idleOn {c c' : Cgroup} (takes : c.Takes "cpu.idle" "1" c') :
    ∃ weight, c'.snapshot = { c.snapshot with idleActive := true, weight } := by
  generalize knob : "cpu.idle" = k at takes
  generalize value : "1" = v at takes
  cases takes with
  | idleOn weight after => exact ⟨weight, by simp [snapshot, after]⟩
  | idleOff | idleStaysOff => exact absurd value (by decide)
  | _ => exact absurd knob (by decide)

theorem Takes.of_idleOff {c c' : Cgroup} (active : c.idle = true) (takes : c.Takes "cpu.idle" "0" c') :
    c'.snapshot = { c.snapshot with idleActive := false, weight := 100 } := by
  generalize knob : "cpu.idle" = k at takes
  generalize value : "0" = v at takes
  cases takes with
  | idleOff active after => simp [snapshot, after]
  | idleStaysOff inactive => simp [active] at inactive
  | idleOn => exact absurd value (by decide)
  | _ => exact absurd knob (by decide)

theorem Takes.of_weight {c c' : Cgroup} {n : Nat} (fits : n ≤ maxUint64)
    (takes : c.Takes "cpu.weight" (formatUint n) c') : c'.snapshot = { c.snapshot with weight := n } := by
  have shown : formatUint c'.weight = formatUint n := Option.some.inj takes.shows
  have range := c'.weight_range
  have top : maxUint64 = 18446744073709551615 := rfl
  have same : c'.weight = n := formatUint_injective (by omega) fits shown
  generalize knob : "cpu.weight" = k at takes
  generalize formatUint n = v at takes
  cases takes with
  | weight inactive after => rw [← same]; simp [snapshot, after]
  | _ => exact absurd knob (by decide)

theorem Takes.of_maxBurst {c c' : Cgroup} {n : Nat} (fits : n ≤ maxUint64)
    (takes : c.Takes "cpu.max.burst" (formatUint n) c') :
    c'.snapshot = { c.snapshot with burst := n } := by
  have shown : formatUint c'.burst = formatUint n := Option.some.inj takes.shows
  have same : c'.burst = n := formatUint_injective c'.burst_range fits shown
  generalize knob : "cpu.max.burst" = k at takes
  generalize formatUint n = v at takes
  cases takes with
  | burst after => rw [← same]; simp [snapshot, after]
  | _ => exact absurd knob (by decide)

/-! ## Reading it back -/

theorem bit_solid (b : Bool) : Solid (bit b) := by
  refine ⟨by cases b <;> decide, fun c member => ?_⟩
  have digits : (bit b).toList = [if b then '1' else '0'] := by cases b <;> rfl
  rw [digits, List.mem_singleton] at member
  subst member
  cases b <;> rfl

theorem trimSpace_bit (b : Bool) : trimSpace (bit b ++ "\n") = bit b :=
  trimSpace_solid_line (bit_solid b)

theorem quotaText_solid (quota : Option Nat) : Solid (quotaText quota) := by
  cases quota with
  | none =>
      refine ⟨by decide, fun c member => ?_⟩
      have letters : (quotaText none).toList = ['m', 'a', 'x'] := rfl
      rw [letters] at member
      rcases List.mem_cons.mp member with rfl | member
      · rfl
      · rcases List.mem_cons.mp member with rfl | member
        · rfl
        · rw [List.mem_singleton.mp member]
          rfl
  | some q => exact formatUint_solid q

theorem fields_cpuMax (quota : Option Nat) (period : Nat) :
    fields (cpuMax quota period) = [quotaText quota, formatUint period] :=
  fields_pair (quotaText_solid quota) (formatUint_solid period)

theorem trimSpace_cpuMax (quota : Option Nat) (period : Nat) :
    trimSpace (cpuMax quota period ++ "\n") = cpuMax quota period := by
  have front := quotaText_solid quota
  have back := formatUint_solid period
  have whole : (cpuMax quota period).toList =
      (quotaText quota).toList ++ ' ' :: (formatUint period).toList := by
    simp [cpuMax]
  have frontFilled : (quotaText quota).toList ≠ [] := by simpa using front.1
  have backFilled : (formatUint period).toList ≠ [] := by simpa using back.1
  refine trimSpace_line ?_ (fun c member => front.2 c ?_) (fun c member => back.2 c ?_)
  · simp [cpuMax]
  · rw [whole, List.head?_append_of_ne_nil _ frontFilled] at member
    exact List.mem_of_mem_head? member
  · rw [whole, List.getLast?_append_of_ne_nil _ (by simp), List.getLast?_cons_of_ne_nil backFilled]
      at member
    exact List.mem_of_getLast? member

/-- No control file reads as anything but its value and a newline. -/
theorem trimSpace_value {c : Cgroup} {knob v : String} (shows : c.value knob = some v) :
    trimSpace (v ++ "\n") = v := by
  unfold Cgroup.value at shows
  split at shows
  · exact Option.some.inj shows ▸ trimSpace_bit _
  · exact Option.some.inj shows ▸ trimSpace_solid_line (formatUint_solid _)
  · exact Option.some.inj shows ▸ trimSpace_cpuMax _ _
  · exact Option.some.inj shows ▸ trimSpace_solid_line (formatUint_solid _)
  · exact Option.some.inj shows ▸ trimSpace_bit _
  · cases shows

section

variable [PrintTable]

theorem parseCPUMaxQuota_cpuMax (c : Cgroup) :
    parseCPUMaxQuota (cpuMax c.quota c.period) = .ok c.quota := by
  have period := c.period_range
  have readPeriod : parseUint (formatUint c.period) = .ok c.period :=
    parseUint_formatUint (by have : maxUint64 = 18446744073709551615 := rfl; omega)
  have inside : ¬(c.period < minCPUQuotaPeriod ∨ c.period > maxCPUQuotaPeriod) := by
    simp only [minCPUQuotaPeriod, maxCPUQuotaPeriod]
    omega
  unfold parseCPUMaxQuota
  rw [fields_cpuMax]
  dsimp only
  rw [readPeriod]
  dsimp only
  rw [if_neg inside]
  cases quota : c.quota with
  | none => rfl
  | some q =>
      obtain ⟨low, high⟩ := c.quota_range q quota
      have numeral : quotaText (some q) ≠ cpuMaxUnbounded := formatUint_ne_max q
      have readQuota : parseUint (quotaText (some q)) = .ok q := parseUint_formatUint high
      rw [if_neg numeral, readQuota]
      dsimp only
      rw [if_neg (by simp only [minCPUQuotaPeriod]; omega)]

/-- The parser reads every valid directory as it is. -/
theorem parseSnapshot_value (c : Cgroup) :
    parseSnapshot (bit c.idle) (formatUint c.weight) (cpuMax c.quota c.period) (formatUint c.burst) =
      .ok c.snapshot := by
  have weights := c.weight_range
  have fits : c.weight ≤ maxUint64 := by
    have : maxUint64 = 18446744073709551615 := rfl
    omega
  have idleBit : ¬(bit c.idle ≠ "0" ∧ bit c.idle ≠ "1") := by cases c.idle <;> decide
  have valid : ¬(¬(bit c.idle = "1" ∧ c.weight = idleCPUWeight) ∧
      (c.weight < minCPUWeight ∨ c.weight > maxCPUWeight)) := by
    simp only [idleCPUWeight, minCPUWeight, maxCPUWeight, not_and, not_or]
    rcases weights with ⟨idle, zero⟩ | range
    · intro notIdle
      exact absurd zero (notIdle (by rw [idle]; rfl))
    · intro _
      omega
  have bitIdle : decide (bit c.idle = "1") = c.idle := by cases c.idle <;> decide
  simp only [parseSnapshot, if_neg idleBit, parseUint_formatUint fits, if_neg valid,
    parseUint_formatUint c.burst_range, parseCPUMaxQuota_cpuMax, bitIdle]
  rfl

end

end Cgroup

end CpuIdle.Kernel
