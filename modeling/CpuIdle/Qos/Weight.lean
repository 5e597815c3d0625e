/-
# Qos.Weight — the weight formula over the integers

`weightOf` is kubelet's map from shares to weights without a word size. `restoreWeight`
computes it of a 64-bit product, so it is the exact value of a request only while that
product does not wrap to something small (`Fits`).
-/
import CpuIdle.Qos.Class

namespace CpuIdle.Qos

open CpuIdle.Kube

set_option autoImplicit false

/-- Shares, clamped to [2, 262144], mapped onto [1, 10000]. -/
def weightOf (shares : Int) : Int := 1 + (max 2 (min 262144 shares) - 2) * 9999 / 262142

theorem weightOf_mono {x y : Int} (le : x ≤ y) : weightOf x ≤ weightOf y := by
  unfold weightOf
  omega

theorem weightOf_eq_max {x : Int} : weightOf x = 10000 ↔ 262144 ≤ x := by
  unfold weightOf
  omega

/-- The weight of a request in milli-CPU, over the integers. -/
def exactWeight (milliCPU : Int) : Int := weightOf (milliCPU * 1024 / 1000)

/-- The 64-bit product is the real one, or wrapped to one that is at the top all the same. -/
def Fits (milliCPU : Int64) : Prop :=
  milliCPU.toInt * 1024 < 9223372036854775808 ∨ 262144000 ≤ (milliCPU * 1024).toInt

instance (milliCPU : Int64) : Decidable (Fits milliCPU) := inferInstanceAs (Decidable (_ ∨ _))

/-- The two clamps of `restoreWeight`. -/
theorem clamp_toInt (shares : Int64) :
    (if (if shares < minShares then minShares else shares) > maxShares then maxShares
      else if shares < minShares then minShares else shares).toInt =
      max 2 (min 262144 shares.toInt) := by
  have two : minShares.toInt = 2 := by decide
  have top : maxShares.toInt = 262144 := by decide
  simp only [GT.gt, Int64.lt_iff_toInt_lt]
  split <;> split <;> rename_i below above
  · rw [two, top] at above
    omega
  · rw [two] at below ⊢
    omega
  · rw [top] at above ⊢
    rw [two] at below
    omega
  · rw [two] at below
    rw [top] at above
    omega

/-- Go's division, by the sign of the dividend. -/
theorem tdiv_thousand (x : Int) : x.tdiv 1000 = if 0 ≤ x then x / 1000 else -(-x / 1000) := by
  split
  · exact Int.tdiv_eq_ediv_of_nonneg ‹_›
  · rw [← Int.tdiv_eq_ediv_of_nonneg (by omega), Int.neg_tdiv, Int.neg_neg]

theorem quotient_toInt (product : Int64) : (product / 1000).toInt = product.toInt.tdiv 1000 := by
  have low := Int64.le_toInt product
  have high := Int64.toInt_lt product
  have divisor : (1000 : Int64).toInt = 1000 := by decide
  have bounds : -9223372036854775808 ≤ product.toInt.tdiv 1000 ∧
      product.toInt.tdiv 1000 < 9223372036854775808 := by
    rw [tdiv_thousand]
    split <;> omega
  rw [Int64.toInt_div, divisor]
  exact Int.bmod_eq_of_le (by omega) (by omega)

theorem product_toInt {milliCPU : Int64} (nonneg : 0 ≤ milliCPU.toInt)
    (small : milliCPU.toInt * 1024 < 9223372036854775808) :
    (milliCPU * 1024).toInt = milliCPU.toInt * 1024 := by
  have factor : (1024 : Int64).toInt = 1024 := by decide
  rw [Int64.toInt_mul, factor]
  exact Int.bmod_eq_of_le (by omega) (by omega)

section

variable [ResourceHelper]

/-- `restoreWeight` computes `weightOf` of the wrapped product. -/
theorem restoreWeight_eq {spec : PodSpec} (real : classOf spec ≠ .bestEffort) :
    (restoreWeight spec : Int) =
      weightOf ((ResourceHelper.podRequestsMilliCPU spec * 1024).toInt.tdiv 1000) := by
  unfold restoreWeight
  rw [if_neg real]
  dsimp only
  rw [← quotient_toInt]
  generalize ResourceHelper.podRequestsMilliCPU spec * 1024 / 1000 = shares
  have clamped := clamp_toInt shares
  revert clamped
  generalize (if (if shares < minShares then minShares else shares) > maxShares then maxShares
    else if shares < minShares then minShares else shares) = clamp
  intro clamped
  have low : 2 ≤ clamp.toInt := by omega
  have high : clamp.toInt ≤ 262144 := by omega
  have value := weight_bounds low high
  have positive : 0 ≤ (1 + (clamp - minShares) * weightNumerator / weightDenominator).toInt := by
    rw [value]
    omega
  rw [Int64.toNat_toUInt64_of_le (by rw [Int64.le_iff_toInt_le]; exact positive), ← Int64.toNat_toInt,
    Int.toNat_of_nonneg positive, value, weightOf, clamped]

omit [ResourceHelper] in
theorem exactWeight_top {milliCPU : Int} (top : 256000 ≤ milliCPU) : exactWeight milliCPU = 10000 :=
  weightOf_eq_max.mpr (by omega)

theorem restoreWeight_exact {spec : PodSpec} (real : classOf spec ≠ .bestEffort)
    (nonneg : 0 ≤ (ResourceHelper.podRequestsMilliCPU spec).toInt) :
    (restoreWeight spec : Int) = exactWeight (ResourceHelper.podRequestsMilliCPU spec).toInt ↔
      Fits (ResourceHelper.podRequestsMilliCPU spec) := by
  rw [restoreWeight_eq real]
  generalize ResourceHelper.podRequestsMilliCPU spec = milliCPU at nonneg ⊢
  by_cases small : milliCPU.toInt * 1024 < 9223372036854775808
  · rw [product_toInt nonneg small, Int.tdiv_eq_ediv_of_nonneg (by omega)]
    exact ⟨fun _ => .inl small, fun _ => rfl⟩
  · rw [exactWeight_top (by omega), weightOf_eq_max, tdiv_thousand]
    have low := Int64.le_toInt (milliCPU * 1024)
    have high := Int64.toInt_lt (milliCPU * 1024)
    refine ⟨fun top => .inr ?_, fun fits => ?_⟩
    · split at top <;> omega
    · have wrapped := fits.resolve_left small
      rw [if_pos (by omega)]
      omega

/-- **When the restored weight is the exact one.** -/
theorem restoreWeight_exact_iff :
    (∀ spec, classOf spec ≠ .bestEffort → 0 ≤ (ResourceHelper.podRequestsMilliCPU spec).toInt →
      ((1 ≤ restoreWeight spec ∧ restoreWeight spec ≤ 10000 ∧
          (restoreWeight spec : Int) = exactWeight (ResourceHelper.podRequestsMilliCPU spec).toInt ∧
          (256000 ≤ (ResourceHelper.podRequestsMilliCPU spec).toInt → restoreWeight spec = 10000)) ↔
        Fits (ResourceHelper.podRequestsMilliCPU spec))) ∧
      ∀ spec spec', classOf spec ≠ .bestEffort → classOf spec' ≠ .bestEffort →
        0 ≤ (ResourceHelper.podRequestsMilliCPU spec).toInt →
        (ResourceHelper.podRequestsMilliCPU spec).toInt ≤ (ResourceHelper.podRequestsMilliCPU spec').toInt →
        Fits (ResourceHelper.podRequestsMilliCPU spec) → Fits (ResourceHelper.podRequestsMilliCPU spec') →
        restoreWeight spec ≤ restoreWeight spec' := by
  refine ⟨fun spec real nonneg => ?_, fun spec spec' real real' nonneg le fits fits' => ?_⟩
  · have range := restoreWeight_range spec
    have exact := restoreWeight_exact real nonneg
    refine ⟨fun known => exact.mp known.2.2.1, fun fits => ⟨range.1, range.2, exact.mpr fits, fun top => ?_⟩⟩
    have weight := exact.mpr fits
    rw [exactWeight_top top] at weight
    omega
  · have weight := (restoreWeight_exact real nonneg).mpr fits
    have weight' := (restoreWeight_exact real' (by omega)).mpr fits'
    have mono : exactWeight (ResourceHelper.podRequestsMilliCPU spec).toInt ≤
        exactWeight (ResourceHelper.podRequestsMilliCPU spec').toInt := weightOf_mono (by omega)
    omega

end

/-- A pod whose one container requests so many milli-CPU. -/
def requesting (milliCPU : Int) : PodSpec :=
  { samplePod.spec with
    containers := [{
      resources := { requests := ⟨some (milliCPU * 1000000), none⟩, limits := ⟨none, none⟩ }
      restartPolicy := none }] }

theorem restoreWeight_exact_half :
    @restoreWeight containerRequests (requesting 500) = exactWeight 500 :=
  ((@restoreWeight_exact_iff containerRequests).1 (requesting 500) (by decide +kernel)
    (by decide +kernel)).mpr (by decide +kernel) |>.2.2.1

/-- A request the sum of requests can be: 2^53 milli-CPU gets the least weight. -/
theorem restoreWeight_wraps :
    classOf (requesting 9007199254740992) ≠ .bestEffort ∧
      (containerRequests.podRequestsMilliCPU (requesting 9007199254740992)).toInt = 9007199254740992 ∧
      @restoreWeight containerRequests (requesting 9007199254740992) = 1 ∧
      exactWeight 9007199254740992 = 10000 := by
  decide +kernel

end CpuIdle.Qos
