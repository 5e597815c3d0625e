/-
# Theory.Tally — how often a label occurs over a finite map

A finite map gives each key a value, and each value a list of labels. `tally` counts
a label over all keys. `tally_insert` and `tally_erase` say how it moves when one key
is rewritten or dropped: the key's old labels go, its new ones come.
-/
import Mathlib.Data.Finmap
import Mathlib.Algebra.BigOperators.Group.Finset.Basic
import Mathlib.Algebra.Order.BigOperators.Group.Finset

namespace CpuIdle.Theory

set_option autoImplicit false

variable {κ β α : Type} [DecidableEq κ] [DecidableEq α] (labels : β → List α)

/-- The labels of a key; none if the key is absent. -/
def labelsAt (m : Finmap fun _ : κ => β) (k : κ) : List α := ((m.lookup k).map labels).getD []

def tally (m : Finmap fun _ : κ => β) (a : α) : Nat :=
  ∑ k ∈ m.keys, (labelsAt labels m k).count a

omit [DecidableEq α] in
@[simp] theorem labelsAt_insert_self (m : Finmap fun _ : κ => β) (k : κ) (b : β) :
    labelsAt labels (m.insert k b) k = labels b := by
  simp [labelsAt]

omit [DecidableEq α] in
theorem labelsAt_erase_ne (m : Finmap fun _ : κ => β) {k k' : κ} (other : k' ≠ k) :
    labelsAt labels (m.erase k) k' = labelsAt labels m k' := by
  simp [labelsAt, Finmap.lookup_erase_ne other]

omit [DecidableEq α] in
theorem labelsAt_absent {m : Finmap fun _ : κ => β} {k : κ} (absent : k ∉ m) :
    labelsAt labels m k = [] := by
  simp [labelsAt, Finmap.lookup_eq_none.mpr absent]

@[simp] theorem tally_empty (a : α) : tally labels (∅ : Finmap fun _ : κ => β) a = 0 := by
  simp [tally]

/-- Dropping a key drops its labels. -/
theorem tally_erase (m : Finmap fun _ : κ => β) (k : κ) (a : α) :
    tally labels (m.erase k) a + (labelsAt labels m k).count a = tally labels m a := by
  have rest : tally labels (m.erase k) a =
      ∑ k' ∈ m.keys.erase k, (labelsAt labels m k').count a := by
    rw [tally, Finmap.keys_erase]
    refine Finset.sum_congr rfl fun k' member => ?_
    rw [labelsAt_erase_ne labels m (Finset.ne_of_mem_erase member)]
  by_cases present : k ∈ m.keys
  · rw [rest, tally, Finset.sum_erase_add _ _ present]
  · have none : labelsAt labels m k = [] := labelsAt_absent labels fun member => present (Finmap.mem_keys.mpr member)
    rw [rest, tally, none, Finset.erase_eq_of_notMem present, List.count_nil, Nat.add_zero]

omit [DecidableEq α] in
theorem erase_insert (m : Finmap fun _ : κ => β) (k : κ) (b : β) : (m.insert k b).erase k = m.erase k := by
  refine Finmap.ext_lookup fun k' => ?_
  by_cases same : k' = k
  · rw [same, Finmap.lookup_erase, Finmap.lookup_erase]
  · rw [Finmap.lookup_erase_ne same, Finmap.lookup_erase_ne same, Finmap.lookup_insert_of_ne _ same]

/-- Writing a key replaces its labels. -/
theorem tally_insert (m : Finmap fun _ : κ => β) (k : κ) (b : β) (a : α) :
    tally labels (m.insert k b) a + (labelsAt labels m k).count a =
      tally labels m a + (labels b).count a := by
  have before := tally_erase labels m k a
  have after := tally_erase labels (m.insert k b) k a
  rw [erase_insert, labelsAt_insert_self] at after
  omega

theorem count_le_tally (m : Finmap fun _ : κ => β) (k : κ) (a : α) :
    (labelsAt labels m k).count a ≤ tally labels m a := by
  have := tally_erase labels m k a
  omega

end CpuIdle.Theory
