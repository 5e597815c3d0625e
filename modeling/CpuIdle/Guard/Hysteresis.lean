/-
# Guard.Hysteresis — the decider against its specification

The machine keeps one bit and a streak; the specification looks at the whole history.
`Decider.feed` runs a fresh decider over a sequence of samples of any linear order,
`Hot` is the specification, and `Follows` is the invariant between them: the streak is 1
exactly when the last sample is on the far side of the band.
-/
import CpuIdle.Guard.Tick
import Mathlib.Order.Defs.LinearOrder

namespace CpuIdle.Guard

set_option autoImplicit false

variable {α : Type}

/-! ## Two samples in a row -/

/-- Samples `i` and `i + 1` are both on the `far` side. -/
def Twice (far : α → Prop) (samples : List α) (i : Nat) : Prop :=
  ∃ x ∈ samples[i]?, ∃ y ∈ samples[i + 1]?, far x ∧ far y

theorem Twice.lt {far : α → Prop} {samples : List α} {i : Nat} (twice : Twice far samples i) :
    i + 1 < samples.length := by
  obtain ⟨x, -, y, found, -⟩ := twice
  exact (List.getElem?_eq_some_iff.mp found).1

/-- One more sample makes one more pair. -/
theorem twice_concat {far : α → Prop} {samples : List α} {x : α} {i : Nat} :
    Twice far (samples ++ [x]) i ↔
      Twice far samples i ∨ (i + 1 = samples.length ∧ (∃ last ∈ samples.getLast?, far last) ∧ far x) := by
  constructor
  · rintro ⟨a, first, b, second, farA, farB⟩
    have bound : i + 1 < (samples ++ [x]).length := (List.getElem?_eq_some_iff.mp second).1
    rw [List.length_append, List.length_singleton] at bound
    have inside : i < samples.length := by omega
    rw [List.getElem?_append_left inside] at first
    by_cases ended : i + 1 = samples.length
    · rw [ended, List.getElem?_concat_length] at second
      obtain rfl := Option.some.inj second
      refine .inr ⟨ended, ⟨a, ?_, farA⟩, farB⟩
      rw [List.getLast?_eq_getElem?, ← ended]
      exact first
    · rw [List.getElem?_append_left (by omega)] at second
      exact .inl ⟨a, first, b, second, farA, farB⟩
  · rintro (twice | ⟨ended, ⟨last, isLast, farLast⟩, farX⟩)
    · have bound := twice.lt
      obtain ⟨a, first, b, second, farA, farB⟩ := twice
      refine ⟨a, ?_, b, ?_, farA, farB⟩
      · rwa [List.getElem?_append_left (by omega)]
      · rwa [List.getElem?_append_left bound]
    · refine ⟨last, ?_, x, ?_, farLast, farX⟩
      · rw [List.getElem?_append_left (by omega)]
        rw [List.getLast?_eq_getElem?, ← ended] at isLast
        exact isLast
      · rw [ended, List.getElem?_concat_length]
        rfl

section

variable [LinearOrder α] {low high : α}

/-- Some two adjacent samples are above `high`, and no two later ones below `low`. -/
def Hot (low high : α) (samples : List α) : Prop :=
  ∃ i, Twice (high < ·) samples i ∧ ∀ j, i < j → ¬ Twice (· < low) samples j

/-- The decider after all samples, in order. -/
def Decider.feed (low high : α) (samples : List α) : Decider :=
  samples.foldl (fun d x => (d.observe x high low).2) ⟨false, 0⟩

theorem feed_concat (samples : List α) (x : α) :
    Decider.feed low high (samples ++ [x]) = ((Decider.feed low high samples).observe x high low).2 := by
  simp [Decider.feed]

/-- The sample counts towards a change of a decider this hot. -/
def Crossed (low high : α) (hot : Bool) (x : α) : Prop := if hot then x < low else high < x

theorem observe_eq (low high : α) (d : Decider) (x : α) (small : d.streak ≤ 1) :
    (Crossed low high d.hot x ∧ d.streak = 1 ∧ (d.observe x high low).2 = ⟨!d.hot, 0⟩) ∨
    (Crossed low high d.hot x ∧ d.streak = 0 ∧ (d.observe x high low).2 = ⟨d.hot, 1⟩) ∨
    (¬ Crossed low high d.hot x ∧ (d.observe x high low).2 = ⟨d.hot, 0⟩) := by
  obtain ⟨hot, streak⟩ := d
  have cases : streak = 0 ∨ streak = 1 := by
    simp only at small
    omega
  by_cases crossed : Crossed low high hot x
  · have counted : (!hot && decide (high < x) || hot && decide (x < low)) = true := by
      cases hot <;> simpa [Crossed] using crossed
    rcases cases with rfl | rfl
    · exact .inr (.inl ⟨crossed, rfl, by simp [Decider.observe, counted]⟩)
    · exact .inl ⟨crossed, rfl, by simp [Decider.observe, counted]⟩
  · have uncounted : (!hot && decide (high < x) || hot && decide (x < low)) = false := by
      cases hot <;> simpa [Crossed] using crossed
    exact .inr (.inr ⟨crossed, by simp [Decider.observe, uncounted]⟩)

/-- What the decider's state says about the samples so far. -/
structure Follows (low high : α) (samples : List α) (d : Decider) : Prop where
  small : d.streak ≤ 1
  streak : d.streak = 1 ↔ ∃ last ∈ samples.getLast?, Crossed low high d.hot last
  hot : d.hot = true ↔ Hot low high samples

/-- A sample that completes no pair leaves the specification as it was. -/
theorem hot_concat_stays {samples : List α} {x : α} {hot : Bool} (spec : hot = true ↔ Hot low high samples)
    (single : ¬ ((∃ last ∈ samples.getLast?, Crossed low high hot last) ∧ Crossed low high hot x)) :
    hot = true ↔ Hot low high (samples ++ [x]) := by
  cases hot with
  | true =>
      obtain ⟨i, above, none_below⟩ := spec.mp rfl
      refine ⟨fun _ => ⟨i, twice_concat.mpr (.inl above), fun j later below => ?_⟩, fun _ => rfl⟩
      rcases twice_concat.mp below with below | ⟨-, last, farX⟩
      · exact none_below j later below
      · exact single ⟨last, farX⟩
  | false =>
      refine ⟨nofun, ?_⟩
      rintro ⟨i, above, none_below⟩
      rcases twice_concat.mp above with above | ⟨-, last, farX⟩
      · exact spec.mpr ⟨i, above, fun j later below => none_below j later (twice_concat.mpr (.inl below))⟩
      · exact absurd ⟨last, farX⟩ single

/-- A sample that completes a pair on the far side turns the specification over. -/
theorem hot_concat_turns (band : low < high) {samples : List α} {x : α} {hot : Bool}
    (last : ∃ last ∈ samples.getLast?, Crossed low high hot last) (crossed : Crossed low high hot x) :
    (!hot) = true ↔ Hot low high (samples ++ [x]) := by
  have nonempty : samples ≠ [] := by
    rintro rfl
    simp at last
  have length : samples.length - 1 + 1 = samples.length := by
    have := List.length_pos_iff.mpr nonempty
    omega
  cases hot with
  | false =>
      refine ⟨fun _ => ⟨samples.length - 1, twice_concat.mpr (.inr ⟨length, last, crossed⟩), ?_⟩,
        fun _ => rfl⟩
      intro j later below
      have := below.lt
      simp only [List.length_append, List.length_singleton] at this
      omega
  | true =>
      refine ⟨nofun, ?_⟩
      rintro ⟨i, above, none_below⟩
      rcases twice_concat.mp above with above | ⟨-, -, farX⟩
      · have := above.lt
        exact absurd (twice_concat.mpr (.inr ⟨length, last, crossed⟩))
          (none_below (samples.length - 1) (by omega))
      · have below : x < low := crossed
        exact absurd (band.trans farX) (not_lt_of_gt below)

theorem Follows.observe (band : low < high) {samples : List α} {d : Decider}
    (follows : Follows low high samples d) (x : α) :
    Follows low high (samples ++ [x]) (d.observe x high low).2 := by
  have newLast : ∀ hot, (∃ last ∈ (samples ++ [x]).getLast?, Crossed low high hot last) ↔
      Crossed low high hot x := by simp
  rcases observe_eq low high d x follows.small with
    ⟨crossed, one, after⟩ | ⟨crossed, zero, after⟩ | ⟨inside, after⟩
  · have turned := hot_concat_turns band (follows.streak.mp one) crossed
    rw [after]
    refine ⟨by simp, ?_, turned⟩
    rw [newLast]
    -- The sample that turned the decider is on the near side of its new threshold.
    cases isHot : d.hot with
    | true =>
        have below : x < low := by simpa [isHot, Crossed] using crossed
        simpa [Crossed] using (below.trans band).le
    | false =>
        have above : high < x := by simpa [isHot, Crossed] using crossed
        simpa [Crossed] using (band.trans above).le
  · rw [after]
    refine ⟨by simp, by simp [crossed], hot_concat_stays follows.hot fun both => ?_⟩
    have one := follows.streak.mpr both.1
    omega
  · rw [after]
    exact ⟨by simp, by simp [inside], hot_concat_stays follows.hot fun both => inside both.2⟩

theorem feed_follows (band : low < high) (samples : List α) :
    Follows low high samples (Decider.feed low high samples) := by
  induction samples using List.reverseRecOn with
  | nil =>
      refine ⟨by simp [Decider.feed], by simp [Decider.feed], ?_⟩
      simp [Decider.feed, Hot, Twice]
  | append_singleton samples x ih =>
      rw [feed_concat]
      exact ih.observe band x

/-- Sample number `n` changes the temperature. -/
def Changes (low high : α) (samples : List α) (n : Nat) : Prop :=
  (Decider.feed low high (samples.take n)).hot ≠ (Decider.feed low high (samples.take (n + 1))).hot

/-- A change needs a streak of one before it and leaves none. -/
theorem Changes.streaks (band : low < high) {samples : List α} {n : Nat}
    (changes : Changes low high samples n) :
    (Decider.feed low high (samples.take n)).streak = 1 ∧
      (Decider.feed low high (samples.take (n + 1))).streak = 0 := by
  have small := (feed_follows band (samples.take n)).small
  cases found : samples[n]? with
  | none =>
      have short : samples.length ≤ n := List.getElem?_eq_none_iff.mp found
      refine absurd ?_ changes
      rw [List.take_of_length_le short, List.take_of_length_le (by omega)]
  | some x =>
      unfold Changes at changes
      rw [List.take_add_one, found, Option.toList_some, feed_concat] at changes ⊢
      rcases observe_eq low high _ x small with
        ⟨-, one, after⟩ | ⟨-, -, after⟩ | ⟨-, after⟩
      · exact ⟨one, by rw [after]⟩
      · exact absurd (by rw [after]) changes
      · exact absurd (by rw [after]) changes

/-- **The hysteresis is its specification.** -/
theorem hysteresis_spec (band : low < high) (samples : List α) :
    ((Decider.feed low high samples).hot = true ↔
        ∃ i, Twice (high < ·) samples i ∧ ∀ j, i < j → ¬ Twice (· < low) samples j) ∧
      (∀ m n, m < n → Changes low high samples m → Changes low high samples n → m + 2 ≤ n) ∧
      ((∀ i, ¬ Twice (high < ·) samples i ∧ ¬ Twice (· < low) samples i) →
        ∀ n, ¬ Changes low high samples n) := by
  refine ⟨(feed_follows band samples).hot, fun m n before first second => ?_, fun never n changes => ?_⟩
  · by_contra close
    obtain rfl : n = m + 1 := by omega
    have zero := (first.streaks band).2
    have one := (second.streaks band).1
    omega
  · have cold : ∀ k, (Decider.feed low high (samples.take k)).hot = false := by
      intro k
      refine Bool.eq_false_iff.mpr fun isHot => ?_
      obtain ⟨i, above, -⟩ := (feed_follows band (samples.take k)).hot.mp isHot
      have bound := above.lt
      obtain ⟨x, first, y, second, farX, farY⟩ := above
      rw [List.length_take] at bound
      rw [List.getElem?_take_of_lt (by omega)] at first second
      exact (never i).1 ⟨x, first, y, second, farX, farY⟩
    exact changes (by rw [cold, cold])

theorem hysteresis_spec_nat :
    ∃ i, Twice (5 < ·) [6, 7, 1, 3] i ∧ ∀ j, i < j → ¬ Twice (· < 2) [6, 7, 1, 3] j :=
  (hysteresis_spec (by decide : 2 < 5) [6, 7, 1, 3]).1.mp (by decide)

end

end CpuIdle.Guard
