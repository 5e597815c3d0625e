/-
# Guard.Canonical — the two parsers of `cpu.max` read one language

The applier parses `cpu.max` to plan, the guard to compare values of a legacy marker.
`CPUMax s quota period` is what both find in a string; each parser is characterised by it,
and what they agree on follows. The canonical form is `cpuMax quota period`, which is what
the kernel prints.
-/
import CpuIdle.Guard.Marker
import CpuIdle.Kernel.Cgroup

namespace CpuIdle.Guard

open CpuIdle.Go CpuIdle.Apply CpuIdle.Kernel.Cgroup

set_option autoImplicit false

/-- The first field: `max`, or a quota of at least a millisecond. -/
inductive QuotaField : String → Option Nat → Prop where
  | unbounded : QuotaField "max" none
  | bounded {field : String} {n : Nat} (parsed : parseUint field = .ok n) (low : 1000 ≤ n) :
      QuotaField field (some n)

/-- The two fields of a `cpu.max` value. -/
structure CPUMax (s : String) (quota : Option Nat) (period : Nat) : Prop where
  fields : ∃ quotaField periodField, fields s = [quotaField, periodField] ∧
    QuotaField quotaField quota ∧ parseUint periodField = .ok period
  range : 1000 ≤ period ∧ period ≤ 1000000

theorem parseUint_max (n : Nat) : parseUint "max" ≠ .ok n := by
  have failed : parseUint "max" = .error .badSyntax := by decide
  rw [failed]
  exact nofun

theorem QuotaField.unique {field : String} {q q' : Option Nat} (first : QuotaField field q)
    (second : QuotaField field q') : q = q' := by
  cases first with
  | unbounded =>
      generalize max : "max" = field at second
      cases second with
      | unbounded => rfl
      | bounded parsed low => exact absurd (max ▸ parsed) (parseUint_max _)
  | bounded parsed low =>
      cases second with
      | unbounded => exact absurd parsed (parseUint_max _)
      | bounded parsed' low' => rw [Except.ok.inj (parsed.symm.trans parsed')]

theorem CPUMax.unique {s : String} {q q' : Option Nat} {period period' : Nat}
    (first : CPUMax s q period) (second : CPUMax s q' period') : q = q' ∧ period = period' := by
  obtain ⟨qf, pf, fields, quota, parsed⟩ := first.fields
  obtain ⟨qf', pf', fields', quota', parsed'⟩ := second.fields
  obtain ⟨rfl, rfl⟩ : qf = qf' ∧ pf = pf' := by simpa using fields.symm.trans fields'
  exact ⟨quota.unique quota', Except.ok.inj (parsed.symm.trans parsed')⟩

theorem parseUint_le {s : String} {n : Nat} (parsed : parseUint s = .ok n) : n ≤ maxUint64 := by
  unfold parseUint at parsed
  split at parsed
  · cases parsed
  · exact parseDigits_le parsed (Nat.zero_le _)

theorem QuotaField.printed {field : String} {q : Option Nat} (quota : QuotaField field q) :
    QuotaField (quotaText q) q := by
  cases quota with
  | unbounded => exact .unbounded
  | bounded parsed low => exact .bounded (parseUint_formatUint (parseUint_le parsed)) low

/-- The canonical form holds the same two numbers. -/
theorem CPUMax.canonical {s : String} {q : Option Nat} {period : Nat} (found : CPUMax s q period) :
    CPUMax (cpuMax q period) q period := by
  obtain ⟨qf, pf, -, quota, parsed⟩ := found.fields
  refine ⟨⟨quotaText q, formatUint period, fields_cpuMax q period, quota.printed, ?_⟩, found.range⟩
  exact parseUint_formatUint (parseUint_le parsed)

/-! ## The guard's parser -/

theorem canonicalQuota_eq_some {field text : String} {allowMax : Bool} :
    canonicalQuota field allowMax = some text ↔
      ∃ q, QuotaField field q ∧ (q = none → allowMax = true) ∧ text = quotaText q := by
  unfold canonicalQuota
  constructor
  · intro accepted
    split at accepted
    · rename_i isMax
      split at accepted
      · rename_i allowed
        obtain rfl := Option.some.inj accepted
        exact ⟨none, isMax ▸ .unbounded, fun _ => allowed, isMax⟩
      · cases accepted
    · split at accepted
      · cases accepted
      · rename_i n parsed
        split at accepted
        · cases accepted
        · exact ⟨some n, .bounded parsed (by omega), nofun, (Option.some.inj accepted).symm⟩
  · rintro ⟨q, quota, allowed, rfl⟩
    cases quota with
    | unbounded => simp [allowed rfl, quotaText]
    | @bounded _ n parsed low =>
        have notMax : field ≠ "max" := by
          rintro rfl
          exact parseUint_max n parsed
        simp only [if_neg notMax, parsed]
        rw [if_neg (by omega)]
        rfl

theorem canonicalCPUMax_eq_some {s text : String} {allowMax : Bool} :
    canonicalCPUMax s allowMax = some text ↔
      ∃ q period, CPUMax s q period ∧ (q = none → allowMax = true) ∧ text = cpuMax q period := by
  unfold canonicalCPUMax
  constructor
  · intro accepted
    split at accepted
    · rename_i qf pf split
      split at accepted
      · cases accepted
      · rename_i quotaField isQuota
        obtain ⟨q, quota, allowed, rfl⟩ := canonicalQuota_eq_some.mp isQuota
        split at accepted
        · cases accepted
        · rename_i period parsed
          split at accepted
          · cases accepted
          · exact ⟨q, period, ⟨⟨qf, pf, split, quota, parsed⟩, by omega⟩, allowed,
              (Option.some.inj accepted).symm⟩
    · cases accepted
  · rintro ⟨q, period, ⟨⟨qf, pf, split, quota, parsed⟩, range⟩, allowed, rfl⟩
    have isQuota := canonicalQuota_eq_some.mpr ⟨q, quota, allowed, rfl⟩
    simp only [split, isQuota, parsed]
    rw [if_neg (by omega)]
    rfl

/-! ## The applier's parser -/

section

variable [PrintTable]

theorem parseCPUMaxQuota_eq_ok {s : String} {q : Option Nat} :
    parseCPUMaxQuota s = .ok q ↔ ∃ period, CPUMax s q period := by
  unfold parseCPUMaxQuota
  constructor
  · intro accepted
    split at accepted
    · rename_i qf pf split
      dsimp only at accepted
      split at accepted
      · cases accepted
      · rename_i period parsed
        split at accepted
        · cases accepted
        · rename_i inside
          simp only [minCPUQuotaPeriod, maxCPUQuotaPeriod, not_or] at inside
          have range : 1000 ≤ period ∧ period ≤ 1000000 := by omega
          split at accepted
          · rename_i isMax
            obtain rfl := Except.ok.inj accepted
            exact ⟨period, ⟨qf, pf, split, isMax ▸ .unbounded, parsed⟩, range⟩
          · split at accepted
            · cases accepted
            · rename_i n quota
              split at accepted
              · cases accepted
              · rename_i low
                obtain rfl := Except.ok.inj accepted
                exact ⟨period, ⟨qf, pf, split, .bounded quota (by simpa [minCPUQuotaPeriod] using low),
                  parsed⟩, range⟩
    · cases accepted
  · rintro ⟨period, ⟨qf, pf, split, quota, parsed⟩, range⟩
    have inside : ¬(period < minCPUQuotaPeriod ∨ period > maxCPUQuotaPeriod) := by
      simp only [minCPUQuotaPeriod, maxCPUQuotaPeriod]
      omega
    simp only [split, parsed, if_neg inside]
    cases quota with
    | unbounded => rfl
    | @bounded _ n parsed' low =>
        have notMax : qf ≠ cpuMaxUnbounded := by
          rintro rfl
          exact parseUint_max n parsed'
        simp only [if_neg notMax, parsed']
        rw [if_neg (by simp only [minCPUQuotaPeriod]; omega)]

/-- Both parsers read one language, and the canonical form is a fixed point of both. -/
theorem cpuMax_parsers_agree (s : String) :
    ((∃ q, parseCPUMaxQuota s = .ok q) ↔ (canonicalCPUMax s true).isSome = true) ∧
      (∀ q text, parseCPUMaxQuota s = .ok q → canonicalCPUMax s true = some text →
        (q.isSome = true ↔ (canonicalCPUMax s false).isSome = true) ∧
          ∀ n ∈ q, (fields text).head? = some (formatUint n)) ∧
      (∀ allowMax text, canonicalCPUMax s allowMax = some text →
        canonicalCPUMax text allowMax = some text ∧ parseCPUMaxQuota text = parseCPUMaxQuota s) ∧
      ∀ state : PersistedState, state.version = legacyGuardStateVersion → validateState state = none →
        canonicalCPUMax state.restore true = some state.restore ∧
          canonicalCPUMax state.suppressed true = some state.suppressed := by
  refine ⟨⟨?_, ?_⟩, ?_, ?_, ?_⟩
  · rintro ⟨q, accepted⟩
    obtain ⟨period, found⟩ := parseCPUMaxQuota_eq_ok.mp accepted
    exact Option.isSome_iff_exists.mpr
      ⟨_, canonicalCPUMax_eq_some.mpr ⟨q, period, found, fun _ => rfl, rfl⟩⟩
  · intro accepted
    obtain ⟨text, canonical⟩ := Option.isSome_iff_exists.mp accepted
    obtain ⟨q, period, found, -⟩ := canonicalCPUMax_eq_some.mp canonical
    exact ⟨q, parseCPUMaxQuota_eq_ok.mpr ⟨period, found⟩⟩
  · intro q text parsed canonical
    obtain ⟨period, found⟩ := parseCPUMaxQuota_eq_ok.mp parsed
    obtain ⟨q', period', found', -, rfl⟩ := canonicalCPUMax_eq_some.mp canonical
    obtain ⟨rfl, rfl⟩ := found.unique found'
    refine ⟨⟨fun bounded => ?_, fun accepted => ?_⟩, fun n isQuota => ?_⟩
    · refine Option.isSome_iff_exists.mpr ⟨_, canonicalCPUMax_eq_some.mpr ⟨q, period, found, ?_, rfl⟩⟩
      rintro rfl
      cases bounded
    · obtain ⟨text, strict⟩ := Option.isSome_iff_exists.mp accepted
      obtain ⟨q', period', found', allowed, -⟩ := canonicalCPUMax_eq_some.mp strict
      obtain ⟨rfl, rfl⟩ := found.unique found'
      exact Option.isSome_iff_ne_none.mpr fun isNone => absurd (allowed isNone) (by decide)
    · rw [fields_cpuMax, Option.mem_def.mp isQuota]
      rfl
  · intro allowMax text canonical
    obtain ⟨q, period, found, allowed, rfl⟩ := canonicalCPUMax_eq_some.mp canonical
    refine ⟨canonicalCPUMax_eq_some.mpr ⟨q, period, found.canonical, allowed, rfl⟩, ?_⟩
    rw [parseCPUMaxQuota_eq_ok.mpr ⟨period, found⟩, parseCPUMaxQuota_eq_ok.mpr ⟨period, found.canonical⟩]
  · intro state version valid
    rcases validateState_none.mp valid with rfl | legacy
    · exact absurd version (by decide)
    · obtain ⟨q, period, found, -, same⟩ := canonicalCPUMax_eq_some.mp legacy.suppressed
      exact ⟨legacy.restore, canonicalCPUMax_eq_some.mpr ⟨q, period, found, fun _ => rfl, same⟩⟩

end

end CpuIdle.Guard
