/-
# Kube.Store — the API server's copy of the Pods

A `Store` holds the objects and every version it ever held. Its fields are what the
API server promises: an object sits under its own name, a `resourceVersion` is never
empty, and no two versions of one UID share it. A cache shows versions from `seen`.

`Patched` is a merge patch that took effect; `store_version` says that the version a
patch with UID and `resourceVersion` took effect on is the very version they were
read from.
-/
import CpuIdle.Node.Signature
import Mathlib.Data.Set.Finite.Basic
import Mathlib.Data.Fintype.EquivFin

namespace CpuIdle.Kube

open CpuIdle.Node

set_option autoImplicit false

structure Store where
  pods : String → String → Option Pod
  seen : Set Pod
  stored : ∀ ns name p, pods ns name = some p → p ∈ seen ∧ p.ns = ns ∧ p.name = name
  versioned : ∀ p ∈ seen, p.resourceVersion ≠ ""
  unique : ∀ p ∈ seen, ∀ q ∈ seen, p.uid = q.uid → p.resourceVersion = q.resourceVersion → p = q

/-- The object after a merge patch; the server assigns the new `resourceVersion`. -/
def Pod.patched (p : Pod) (patch : MarkerPatch) (resourceVersion : String) : Pod :=
  { p with
    annotations := Function.update p.annotations Annotations.guardStateKey patch.guardState
    resourceVersion }

/-- The preconditions a merge patch carries. -/
def MarkerPatch.Allows (patch : MarkerPatch) (p : Pod) : Prop :=
  patch.uid = p.uid ∧ ∀ version ∈ patch.resourceVersion, version = p.resourceVersion

namespace Store

/-- The store after `p` became the latest version of its object. -/
structure Put (s : Store) (p : Pod) (s' : Store) : Prop where
  pods : s'.pods = Function.update s.pods p.ns (Function.update (s.pods p.ns) p.name (some p))
  seen : s'.seen = insert p s.seen
  fresh : p ∉ s.seen

/-- A merge patch that took effect on `p` and left `p'`. -/
structure Patched (s : Store) (ns name : String) (patch : MarkerPatch) (p p' : Pod) (s' : Store) :
    Prop where
  found : s.pods ns name = some p
  allows : MarkerPatch.Allows patch p
  result : ∃ resourceVersion, p' = p.patched patch resourceVersion
  put : s.Put p' s'

theorem Put.mono {s s' : Store} {p : Pod} (put : s.Put p s') : s.seen ⊆ s'.seen := by
  rw [put.seen]
  exact Set.subset_insert _ _

/-- A conditional patch takes effect on the version it was made from. -/
theorem Patched.store_version {s s' : Store} {ns name : String} {patch : MarkerPatch}
    {p p' current : Pod} (patched : s.Patched ns name patch p p' s') (read : current ∈ s.seen)
    (uid : patch.uid = current.uid) (version : patch.resourceVersion = some current.resourceVersion) :
    p = current := by
  obtain ⟨member, -, -⟩ := s.stored _ _ _ patched.found
  refine s.unique p member current read ?_ ?_
  · rw [← patched.allows.1, uid]
  · exact (patched.allows.2 _ version).symm

section

variable {s s' : Store} {ns name : String} {patch : MarkerPatch} {p p' : Pod}

theorem Patched.uid (patched : s.Patched ns name patch p p' s') : p'.uid = p.uid := by
  obtain ⟨resourceVersion, rfl⟩ := patched.result
  rfl

theorem Patched.annotationAt (patched : s.Patched ns name patch p p' s') :
    p'.annotationAt Annotations.guardStateKey = patch.guardState.getD "" := by
  obtain ⟨resourceVersion, rfl⟩ := patched.result
  simp [Pod.annotationAt, Pod.patched]

/-- The objects afterwards. -/
theorem Patched.pods_eq (patched : s.Patched ns name patch p p' s') (ns' name' : String) :
    s'.pods ns' name' = if ns' = ns ∧ name' = name then some p' else s.pods ns' name' := by
  obtain ⟨-, rfl, rfl⟩ := s.stored _ _ _ patched.found
  obtain ⟨resourceVersion, rfl⟩ := patched.result
  rw [patched.put.pods]
  simp only [Pod.patched, Function.update_apply]
  split_ifs <;> simp_all

theorem Patched.latest (patched : s.Patched ns name patch p p' s') : s'.pods ns name = some p' := by
  rw [patched.pods_eq, if_pos ⟨rfl, rfl⟩]

theorem Patched.live (patched : s.Patched ns name patch p p' s') {ns' name' : String} {q : Pod}
    (live : s'.pods ns' name' = some q) : q = p' ∨ s.pods ns' name' = some q := by
  rw [patched.pods_eq] at live
  split at live
  · exact .inl (Option.some.inj live).symm
  · exact .inr live

/-- A patch whose preconditions hold can take effect. -/
theorem exists_patched (finite : s.seen.Finite) (found : s.pods ns name = some p)
    (allows : MarkerPatch.Allows patch p) : ∃ p' s', s.Patched ns name patch p p' s' := by
  obtain ⟨member, rfl, rfl⟩ := s.stored _ _ _ found
  obtain ⟨version, fresh⟩ := ((finite.image Pod.resourceVersion).insert "").exists_notMem
  rw [Set.mem_insert_iff, not_or] at fresh
  obtain ⟨nonempty, unused⟩ := fresh
  have unseen : ∀ q ∈ s.seen, q.resourceVersion ≠ version := fun q member same =>
    unused ⟨q, member, same⟩
  refine ⟨p.patched patch version, {
    pods := Function.update s.pods p.ns
      (Function.update (s.pods p.ns) p.name (some (p.patched patch version)))
    seen := insert (p.patched patch version) s.seen
    stored := ?_, versioned := ?_, unique := ?_ },
    ⟨found, allows, ⟨version, rfl⟩, rfl, rfl, fun member => unseen _ member rfl⟩⟩
  · intro ns name q live
    by_cases space : ns = p.ns
    · subst space
      rw [Function.update_self] at live
      by_cases named : name = p.name
      · subst named
        rw [Function.update_self] at live
        obtain rfl := Option.some.inj live
        exact ⟨Set.mem_insert _ _, rfl, rfl⟩
      · rw [Function.update_of_ne named] at live
        obtain ⟨member, same⟩ := s.stored _ _ _ live
        exact ⟨Set.mem_insert_of_mem _ member, same⟩
    · rw [Function.update_of_ne space] at live
      obtain ⟨member, same⟩ := s.stored _ _ _ live
      exact ⟨Set.mem_insert_of_mem _ member, same⟩
  · rintro q (rfl | member)
    · exact nonempty
    · exact s.versioned q member
  · rintro q (rfl | hq) r (rfl | hr) uid same
    · rfl
    · exact absurd same.symm (unseen r hr)
    · exact absurd same (unseen q hq)
    · exact s.unique q hq r hr uid same

end

end Store

end CpuIdle.Kube
