/-
# Qos.Rule — the documented classification

What the two loops of `classOf` decide, without loops: `Matched` and `Unset` are the two
ways one set of requirements can be uniform, `Uniform` says it of the whole spec. The class
is a function of which of the two holds, so neither the order of the containers nor their
split into regular and init containers matters.

`classOf_documented` collects it, with what the class says about the CPU quota.
-/
import CpuIdle.Qos.Class
import Mathlib.Data.List.Perm.Basic

namespace CpuIdle.Qos

open CpuIdle.Kube

set_option autoImplicit false

/-! ## One set of requirements -/

/-- Equal, non-zero requests and limits for CPU and memory. -/
def Matched (r : ResourceRequirements) : Prop :=
  ∀ name, r.requests.get name = r.limits.get name ∧ r.requests.get name ≠ 0

/-- Zero or absent requests and limits for CPU and memory. -/
def Unset (r : ResourceRequirements) : Prop :=
  ∀ name, r.requests.get name = 0 ∧ r.limits.get name = 0

theorem forall_resourceName {P : ResourceName → Prop} : (∀ name, P name) ↔ P .cpu ∧ P .memory :=
  ⟨fun all => ⟨all .cpu, all .memory⟩, fun both name => by
    cases name
    · exact both.1
    · exact both.2⟩

/-- Which class a documented rule gives. -/
structure Rules (matched unset : Prop) («class» : Class) : Prop where
  guaranteed : «class» = .guaranteed ↔ matched
  bestEffort : «class» = .bestEffort ↔ unset
  burstable : «class» = .burstable ↔ ¬matched ∧ ¬unset

theorem Rules.unique {g b g' b' : Prop} {c c' : Class} (rules : Rules g b c) (rules' : Rules g' b' c')
    (sameG : g ↔ g') (sameB : b ↔ b') : c = c' := by
  cases c with
  | guaranteed => exact (rules'.guaranteed.mpr (sameG.mp (rules.guaranteed.mp rfl))).symm
  | bestEffort => exact (rules'.bestEffort.mpr (sameB.mp (rules.bestEffort.mp rfl))).symm
  | burstable =>
      have neither := rules.burstable.mp rfl
      exact (rules'.burstable.mpr ⟨fun g' => neither.1 (sameG.mpr g'), fun b' => neither.2 (sameB.mpr b')⟩).symm

/-- The class one resource votes for. -/
def resourceClass (r : ResourceRequirements) (name : ResourceName) : Class :=
  if r.requests.get name ≠ r.limits.get name then .burstable
  else if r.requests.get name = 0 then .bestEffort
  else .guaranteed

theorem resourceClass_rules (r : ResourceRequirements) (name : ResourceName) :
    Rules (r.requests.get name = r.limits.get name ∧ r.requests.get name ≠ 0)
      (r.requests.get name = 0 ∧ r.limits.get name = 0) (resourceClass r name) := by
  unfold resourceClass
  by_cases same : r.requests.get name = r.limits.get name
  · by_cases zero : r.requests.get name = 0
    · have zero' : r.limits.get name = 0 := same ▸ zero
      constructor <;> simp [zero, zero']
    · have zero' : r.limits.get name ≠ 0 := same ▸ zero
      constructor <;> simp [same, zero']
  · have apart : ¬(r.requests.get name = 0 ∧ r.limits.get name = 0) :=
      fun zeros => same (zeros.1.trans zeros.2.symm)
    constructor <;> simp [same, apart]

/-- The loop over the two resources. -/
theorem requirementsClass_eq (r : ResourceRequirements) : requirementsClass r =
    some (if resourceClass r .cpu = resourceClass r .memory then resourceClass r .cpu else .burstable) := by
  have first : ∀ name rest, requirementsLoop r (name :: rest) none =
      if resourceClass r name = .burstable then some .burstable
      else requirementsLoop r rest (some (resourceClass r name)) := fun _ _ => rfl
  have next : ∀ name rest previous, requirementsLoop r (name :: rest) (some previous) =
      if resourceClass r name = .burstable then some .burstable
      else if previous ≠ resourceClass r name then some .burstable
      else requirementsLoop r rest (some previous) := fun _ _ _ => rfl
  rw [requirementsClass, supportedResources, first]
  by_cases cpu : resourceClass r .cpu = .burstable
  · rw [if_pos cpu, cpu]
    split <;> rfl
  · rw [if_neg cpu, next]
    by_cases memory : resourceClass r .memory = .burstable
    · rw [if_pos memory, memory, if_neg cpu]
    · rw [if_neg memory]
      by_cases same : resourceClass r .cpu = resourceClass r .memory
      · simp [same, requirementsLoop]
      · simp [same]

theorem requirementsClass_rules (r : ResourceRequirements) :
    ∃ «class», requirementsClass r = some «class» ∧ Rules (Matched r) (Unset r) «class» := by
  refine ⟨_, requirementsClass_eq r, ?_⟩
  have cpu := resourceClass_rules r .cpu
  have memory := resourceClass_rules r .memory
  revert cpu memory
  generalize resourceClass r .cpu = c
  generalize resourceClass r .memory = m
  intro cpu memory
  rw [Matched, Unset, forall_resourceName, forall_resourceName]
  cases c <;> cases m <;> constructor <;> simp [← cpu.guaranteed, ← cpu.bestEffort, ← memory.guaranteed,
    ← memory.bestEffort]

/-! ## The whole spec -/

/-- There is a container, and every one is matched. -/
def AllMatched (containers : List Container) : Prop :=
  containers ≠ [] ∧ ∀ c ∈ containers, Matched c.resources

/-- No container asks for anything. -/
def AllUnset (containers : List Container) : Prop := ∀ c ∈ containers, Unset c.resources

/-- What the loop has to find in the rest once it holds a class. -/
theorem containersLoop_some {«class» : Class} (mixed : «class» ≠ .burstable) (containers : List Container) :
    ∃ result, containersLoop containers (some «class») = some result ∧
      Rules («class» = .guaranteed ∧ ∀ c ∈ containers, Matched c.resources)
        («class» = .bestEffort ∧ AllUnset containers) result := by
  induction containers with
  | nil =>
      refine ⟨«class», rfl, ?_⟩
      cases «class» with
      | guaranteed => constructor <;> simp [AllUnset]
      | bestEffort => constructor <;> simp [AllUnset]
      | burstable => exact absurd rfl mixed
  | cons container rest ih =>
      obtain ⟨own, isOwn, rules⟩ := requirementsClass_rules container.resources
      obtain ⟨result, isResult, restRules⟩ := ih
      by_cases burstable : own = .burstable
      · subst burstable
        have neither := rules.burstable.mp rfl
        refine ⟨.burstable, by simp [containersLoop, isOwn], ?_⟩
        constructor <;> simp [AllUnset, neither]
      · by_cases same : «class» = own
        · subst same
          refine ⟨result, by simp [containersLoop, isOwn, burstable, isResult], ?_⟩
          have guaranteed := rules.guaranteed
          have bestEffort := rules.bestEffort
          refine ⟨restRules.guaranteed.trans ?_, restRules.bestEffort.trans ?_, restRules.burstable.trans ?_⟩
          · simp only [List.forall_mem_cons, ← guaranteed]
            tauto
          · simp only [AllUnset, List.forall_mem_cons, ← bestEffort]
            tauto
          · simp only [AllUnset, List.forall_mem_cons, ← guaranteed, ← bestEffort]
            tauto
        · refine ⟨.burstable, by simp [containersLoop, isOwn, burstable, same], ?_⟩
          have apart : ¬(«class» = .guaranteed ∧ own = .guaranteed) := fun both =>
            same (both.1.trans both.2.symm)
          have apart' : ¬(«class» = .bestEffort ∧ own = .bestEffort) := fun both =>
            same (both.1.trans both.2.symm)
          rw [rules.guaranteed] at apart
          rw [rules.bestEffort] at apart'
          constructor <;> simp only [reduceCtorEq, AllUnset, List.forall_mem_cons] <;> tauto

theorem containersLoop_rules (containers : List Container) :
    Rules (AllMatched containers) (AllUnset containers)
      ((containersLoop containers none).getD .bestEffort) := by
  cases containers with
  | nil => constructor <;> simp [containersLoop, AllMatched, AllUnset]
  | cons container rest =>
      obtain ⟨own, isOwn, rules⟩ := requirementsClass_rules container.resources
      by_cases burstable : own = .burstable
      · subst burstable
        have neither := rules.burstable.mp rfl
        constructor <;> simp [containersLoop, isOwn, AllMatched, AllUnset, neither]
      · obtain ⟨result, isResult, restRules⟩ := containersLoop_some burstable rest
        have loop : (containersLoop (container :: rest) none).getD .bestEffort = result := by
          simp [containersLoop, isOwn, burstable, isResult]
        rw [loop]
        refine ⟨restRules.guaranteed.trans ?_, restRules.bestEffort.trans ?_, restRules.burstable.trans ?_⟩
        · simp [AllMatched, rules.guaranteed]
        · simp [AllUnset, rules.bestEffort]
        · simp [AllMatched, AllUnset, rules.guaranteed, rules.bestEffort]

/-- Without pod-level resources the containers decide, with them they alone. -/
theorem classOf_rules (spec : PodSpec) :
    (spec.resources = none → Rules (AllMatched (spec.containers ++ spec.initContainers))
      (AllUnset (spec.containers ++ spec.initContainers)) (classOf spec)) ∧
    ∀ own, spec.resources = some own → Rules (Matched own) (Unset own) (classOf spec) := by
  refine ⟨fun absent => ?_, fun own present => ?_⟩
  · rw [classOf, absent]
    exact containersLoop_rules _
  · obtain ⟨«class», isClass, rules⟩ := requirementsClass_rules own
    rw [classOf, present]
    simp only [isClass, Option.getD_some]
    exact rules

theorem allMatched_perm {containers containers' : List Container} (perm : containers.Perm containers') :
    AllMatched containers ↔ AllMatched containers' := by
  have empty : containers = [] ↔ containers' = [] := by
    rw [← List.length_eq_zero_iff, perm.length_eq, List.length_eq_zero_iff]
  unfold AllMatched
  simp only [perm.mem_iff, ne_eq, empty]

theorem allUnset_perm {containers containers' : List Container} (perm : containers.Perm containers') :
    AllUnset containers ↔ AllUnset containers' := by
  unfold AllUnset
  simp only [perm.mem_iff]

/-! ## The quota -/

/-- Every request and limit is at least zero. -/
def NonNegative (r : ResourceRequirements) : Prop :=
  ∀ name, 0 ≤ r.requests.get name ∧ 0 ≤ r.limits.get name

structure PodSpec.NonNegative (spec : PodSpec) : Prop where
  containers : ∀ c ∈ spec.containers ++ spec.initContainers, Qos.NonNegative c.resources
  own : ∀ own ∈ spec.resources, Qos.NonNegative own

/-- The helper sees every pod-level CPU or memory entry. -/
def SeesPodLevel [ResourceHelper] : Prop :=
  ∀ spec own, spec.resources = some own →
    own.requests.cpu.isSome ∨ own.requests.memory.isSome ∨ own.limits.cpu.isSome ∨ own.limits.memory.isSome →
    ResourceHelper.isPodLevelResourcesSet spec = true

theorem Matched.limit_pos {r : ResourceRequirements} (matched : Matched r) (nonneg : NonNegative r) :
    0 < r.limits.get .cpu := by
  obtain ⟨same, nonzero⟩ := matched .cpu
  rw [same] at nonzero
  exact Int.lt_iff_le_and_ne.mpr ⟨(nonneg .cpu).2, nonzero.symm⟩

section

variable [ResourceHelper]

theorem hasCPUQuota_of_guaranteed (sees : SeesPodLevel) {spec : PodSpec}
    (nonneg : PodSpec.NonNegative spec) (guaranteed : classOf spec = .guaranteed) :
    hasCPUQuota spec = true := by
  unfold hasCPUQuota
  rw [if_neg (by rw [guaranteed]; decide)]
  cases present : spec.resources with
  | some own =>
      have limit := (((classOf_rules spec).2 own present).guaranteed.mp guaranteed).limit_pos
        (nonneg.own own present)
      have set : own.limits.cpu.isSome = true := by
        unfold ResourceList.get at limit
        cases known : own.limits.cpu with
        | none => simp [known] at limit
        | some quantity => rfl
      have seen := sees spec own present (.inr (.inr (.inl set)))
      simp [seen, limit]
  | none =>
      have matched := (((classOf_rules spec).1 present).guaranteed.mp guaranteed).2
      have limits : ∀ c ∈ spec.containers ++ spec.initContainers, 0 < c.resources.limits.get .cpu :=
        fun c member => (matched c member).limit_pos (nonneg.containers c member)
      split
      · rfl
      · simp only [Bool.and_eq_true, List.all_eq_true, decide_eq_true_eq]
        exact ⟨fun c member => limits c (List.mem_append_left _ member),
          fun c member => limits c (List.mem_append_right _ member)⟩

/-- **The class is the documented one and agrees with the quota prediction.** -/
theorem classOf_documented (sees : SeesPodLevel) (spec : PodSpec) :
    (spec.resources = none → Rules (AllMatched (spec.containers ++ spec.initContainers))
        (AllUnset (spec.containers ++ spec.initContainers)) (classOf spec)) ∧
      (∀ spec', spec.resources = none → spec'.resources = none →
        (spec.containers ++ spec.initContainers).Perm (spec'.containers ++ spec'.initContainers) →
        classOf spec = classOf spec') ∧
      (∀ own, spec.resources = some own → Rules (Matched own) (Unset own) (classOf spec)) ∧
      (PodSpec.NonNegative spec → classOf spec = .guaranteed → hasCPUQuota spec = true) ∧
      (classOf spec = .bestEffort → hasCPUQuota spec = false) := by
  refine ⟨(classOf_rules spec).1, fun spec' absent absent' perm => ?_, (classOf_rules spec).2,
    fun nonneg => hasCPUQuota_of_guaranteed sees nonneg, fun bestEffort => ?_⟩
  · exact ((classOf_rules spec).1 absent).unique ((classOf_rules spec').1 absent') (allMatched_perm perm)
      (allUnset_perm perm)
  · rw [hasCPUQuota, if_pos bestEffort]

end

/-- One container with equal requests and limits. -/
def guaranteedSpec (quantity : Quantity) : PodSpec :=
  { samplePod.spec with
    containers := [{
      resources := {
        requests := ⟨some quantity, some quantity⟩
        limits := ⟨some quantity, some quantity⟩ }
      restartPolicy := none }] }

theorem classOf_documented_guaranteed :
    @hasCPUQuota containerRequests (guaranteedSpec 500000000) = true := by
  have sees : @SeesPodLevel containerRequests := by
    intro spec own present set
    simpa [ResourceHelper.isPodLevelResourcesSet, present, or_assoc] using set
  refine (@classOf_documented containerRequests sees (guaranteedSpec 500000000)).2.2.2.1 ⟨?_, ?_⟩
    (by decide)
  · intro c member name
    rw [List.mem_singleton.mp member]
    cases name <;> decide
  · exact nofun

/-- A Guaranteed pod without a quota: equal requests and limits below zero. -/
theorem guaranteed_without_quota : classOf (guaranteedSpec (-1)) = .guaranteed ∧
    @hasCPUQuota containerRequests (guaranteedSpec (-1)) = false := by
  decide

end CpuIdle.Qos
