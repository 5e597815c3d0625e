/-
# Cgroup.WriteTarget — the allow-list in front of every knob write

`guardWriteTarget` guesses a UID from the last component of the directory, for each
driver and QoS class, and accepts only when `podCgroupPath` computes the same
directory from that guess.

* `guardWriteTarget_eq_none` — which directories pass, in the terms of `podElements`;
* `guardWriteTarget_exact` — completeness and soundness against `podCgroupPath`, and
  what follows for the levels above a pod and for directories inside one.
-/
import CpuIdle.Cgroup.PathForm

namespace CpuIdle.Cgroup

open CpuIdle.Go

set_option autoImplicit false

/-! ## The guard -/

/-- A candidate only: the guard recomputes the whole path from it. -/
def extractPodUID (base : String) (driver : Driver) (qos : QoSClass) (kubepodsName : String) :
    Option String :=
  match driver with
  | .cgroupfs =>
      let pre := "pod"
      if !hasPrefix base pre then none else some (trimPrefix base pre)
  | .systemd =>
      let pre := kubepodsName ++ "-"
      let pre := if qos ≠ .guaranteed then pre ++ qos.name ++ "-" else pre
      let pre := pre ++ "pod"
      let suffix := ".slice"
      if !hasPrefix base pre || !hasSuffix base suffix then none
      else some (trimSuffix (trimPrefix base pre) suffix)

/-- The two nested loops of `guardWriteTarget`, in their order. -/
def writeTargetGuesses : List (Driver × QoSClass) :=
  [.systemd, .cgroupfs].flatMap fun driver =>
    [.guaranteed, .burstable, .bestEffort].map fun qos => (driver, qos)

section

variable [PrintTable]

/-- One round of the loops: does this guess reproduce the directory? -/
def guessMatches (clean cleanRoot kubepodsName : String) (driver : Driver) (qos : QoSClass) : Bool :=
  match extractPodUID (Path.base clean) driver qos kubepodsName with
  | none => false
  | some uid =>
      match podCgroupPath cleanRoot kubepodsName driver qos uid with
      | .error _ => false
      | .ok want => Path.clean want = clean

/-- `none` when the directory is a pod's. -/
def guardWriteTarget (dir root kubepodsName : String) : Option GoError :=
  let clean := Path.clean dir
  if !Path.isAbs clean then
    some ⟨s!"cgroup: target is not a pod cgroup: {dir} is not an absolute path", [.notPodCgroup]⟩
  else if writeTargetGuesses.any fun (driver, qos) =>
      guessMatches clean (Path.clean root) kubepodsName driver qos then none
  else some ⟨s!"cgroup: target is not a pod cgroup: {dir}", [.notPodCgroup]⟩

theorem guardWriteTarget_err {dir root kubepodsName : String} {err : GoError}
    (refused : guardWriteTarget dir root kubepodsName = some err) : err.chain = [.notPodCgroup] := by
  simp only [guardWriteTarget] at refused
  split at refused
  · cases refused; rfl
  · split at refused
    · cases refused
    · cases refused; rfl

end

/-! ## The candidate UID -/

theorem trimPrefix_subset {s pre : String} {c : Char} (member : c ∈ (trimPrefix s pre).toList) :
    c ∈ s.toList := by
  unfold trimPrefix at member
  split at member
  · exact List.mem_of_mem_drop (by simpa using member)
  · exact member

theorem trimSuffix_subset {s suf : String} {c : Char} (member : c ∈ (trimSuffix s suf).toList) :
    c ∈ s.toList := by
  unfold trimSuffix at member
  split at member
  · exact List.mem_of_mem_take (by simpa using member)
  · exact member

theorem length_of_hasPrefix {s pre : String} (prefixed : hasPrefix s pre = true) :
    pre.toList.length ≤ s.toList.length :=
  (List.isPrefixOf_iff_prefix.mp prefixed).length_le

theorem extractPodUID_no_slash {base kubepodsName uid : String} {driver : Driver} {qos : QoSClass}
    (extracted : extractPodUID base driver qos kubepodsName = some uid) (atomic : '/' ∉ base.toList) :
    '/' ∉ uid.toList := by
  intro slash
  refine atomic ?_
  cases driver with
  | cgroupfs =>
      simp only [extractPodUID, Option.ite_none_left_eq_some, Option.some.injEq] at extracted
      obtain ⟨-, rfl⟩ := extracted
      exact trimPrefix_subset slash
  | systemd =>
      simp only [extractPodUID, Option.ite_none_left_eq_some, Option.some.injEq] at extracted
      obtain ⟨-, rfl⟩ := extracted
      exact trimPrefix_subset (trimSuffix_subset slash)

theorem extractPodUID_slash (driver : Driver) (qos : QoSClass) (kubepodsName : String) :
    extractPodUID "/" driver qos kubepodsName = none := by
  have short : ∀ pre : String, 1 < pre.toList.length → hasPrefix "/" pre = false := by
    intro pre long
    rw [Bool.eq_false_iff]
    intro prefixed
    have := length_of_hasPrefix prefixed
    simp at this
    omega
  cases driver with
  | cgroupfs => rfl
  | systemd =>
      simp only [extractPodUID]
      rw [short _ (by simp)]
      rfl

theorem extractPodUID_podElement (kubepodsName : String) (driver : Driver) (qos : QoSClass)
    (uid : String) :
    extractPodUID (podElement kubepodsName driver qos uid) driver qos kubepodsName =
      some (escape driver uid) := by
  cases driver with
  | cgroupfs => simp [extractPodUID, podElement, escape]
  | systemd =>
      let pre := (if qos ≠ .guaranteed then kubepodsName ++ "-" ++ qos.name ++ "-"
        else kubepodsName ++ "-") ++ "pod"
      have shape : podSliceName kubepodsName qos uid = pre ++ replaceAll uid '-' '_' ++ ".slice" := by
        apply String.toList_inj.mp
        by_cases guaranteed : qos = .guaranteed <;> simp [podSliceName, pre, guaranteed, sliceSuffix]
      have prefixed : hasPrefix (pre ++ replaceAll uid '-' '_' ++ ".slice") pre = true := by
        rw [String.append_assoc, hasPrefix_append]
      have trimmed : trimPrefix (pre ++ replaceAll uid '-' '_' ++ ".slice") pre =
          replaceAll uid '-' '_' ++ ".slice" := by
        rw [String.append_assoc, trimPrefix_append]
      have extracted : extractPodUID (podSliceName kubepodsName qos uid) .systemd qos kubepodsName =
          if !hasPrefix (podSliceName kubepodsName qos uid) pre ||
            !hasSuffix (podSliceName kubepodsName qos uid) ".slice" then none
          else some (trimSuffix (trimPrefix (podSliceName kubepodsName qos uid) pre) ".slice") := rfl
      rw [podElement, extracted, shape, prefixed, hasSuffix_append, trimmed, trimSuffix_append]
      rfl

theorem escape_no_slash {uid : String} (atomic : '/' ∉ uid.toList) (driver : Driver) :
    '/' ∉ (escape driver uid).toList := by
  cases driver with
  | cgroupfs => exact atomic
  | systemd =>
      have := escaped_no_slash atomic
      simp only [String.toList_append, List.mem_append, not_or] at this
      exact this.2

theorem escape_eq_empty {driver : Driver} {uid : String} : escape driver uid = "" ↔ uid = "" := by
  cases driver with
  | cgroupfs => rfl
  | systemd =>
      rw [← String.toList_inj, ← String.toList_inj, escape, toList_replaceAll]
      simp

theorem podElements_escape (kubepodsName : String) (driver : Driver) (qos : QoSClass) (uid : String) :
    podElements kubepodsName driver qos (escape driver uid) =
      podElements kubepodsName driver qos uid := by
  have twice : replaceAll (replaceAll uid '-' '_') '-' '_' = replaceAll uid '-' '_' := by
    simp only [replaceAll, String.toList_ofList, List.map_map]
    congr 1
    refine List.map_congr_left fun c _ => ?_
    simp only [Function.comp]
    split <;> simp_all
  cases driver with
  | cgroupfs => rfl
  | systemd => simp [podElements, podElement, podSliceName, escape, twice]

/-! ## What passes -/

section

variable [PrintTable] {root kubepodsName : String}

/-- The kubepods name expands under this driver. -/
def Expands (kubepodsName : String) (driver : Driver) : Prop :=
  driver = .systemd → ∀ c ∈ split kubepodsName '-', c ≠ ""

/-- The components of a directory the guard lets through. -/
def PodLevel (root kubepodsName : String) (cs : List (List Char)) : Prop :=
  ∃ driver qos uid, uid ≠ "" ∧ '/' ∉ uid.toList ∧ Expands kubepodsName driver ∧
    cs = Path.components root ++ (podElements kubepodsName driver qos uid).map String.toList

theorem guardWriteTarget_none_iff {dir : String} :
    guardWriteTarget dir root kubepodsName = none ↔
      Path.isAbs dir = true ∧ ∃ driver qos,
        guessMatches (Path.clean dir) (Path.clean root) kubepodsName driver qos = true := by
  simp only [guardWriteTarget, Path.isAbs_clean]
  cases abs : Path.isAbs dir with
  | false => simp
  | true =>
      have every : ∀ driver qos, (driver, qos) ∈ writeTargetGuesses := by
        intro driver qos
        cases driver <;> cases qos <;> decide
      simp only [Bool.not_true, Bool.false_eq_true, if_false, true_and]
      split
      · rename_i found
        obtain ⟨⟨driver, qos⟩, -, hit⟩ := List.any_eq_true.mp found
        simp only [true_iff]
        exact ⟨driver, qos, hit⟩
      · rename_i missed
        simp only [reduceCtorEq, false_iff, not_exists]
        intro driver qos hit
        exact missed (List.any_eq_true.mpr ⟨(driver, qos), every driver qos, hit⟩)

omit [PrintTable] in
theorem target_plain (hK : PathComponent kubepodsName) {uid : String} (slashless : '/' ∉ uid.toList)
    (driver : Driver) (qos : QoSClass) : ∀ c ∈ Path.components root ++
      (podElements kubepodsName driver qos uid).map String.toList, Path.Plain c := by
  intro c member
  rcases List.mem_append.mp member with member | member
  · exact Path.components_plain root c member
  · obtain ⟨e, he, rfl⟩ := List.mem_map.mp member
    exact podElements_plain hK slashless driver qos e he

/-- **What the guard accepts**: rooted names whose components are those of a pod. -/
theorem guardWriteTarget_eq_none (abs : Path.isAbs root = true) (hK : PathComponent kubepodsName)
    {dir : String} : guardWriteTarget dir root kubepodsName = none ↔
      Path.isAbs dir = true ∧ PodLevel root kubepodsName (Path.components dir) := by
  rw [guardWriteTarget_none_iff]
  refine and_congr_right fun rooted => ?_
  have cleanDir := Path.clean_of_isAbs rooted
  have cleanRoot : Path.isAbs (Path.clean root) = true := by rw [Path.isAbs_clean, abs]
  have dirPlain := Path.components_plain dir
  constructor
  · rintro ⟨driver, qos, hit⟩
    unfold guessMatches at hit
    split at hit
    · cases hit
    · rename_i uid extracted
      split at hit
      · cases hit
      · rename_i want computed
        have atomic : '/' ∉ (Path.base (Path.clean dir)).toList := by
          rw [cleanDir] at extracted ⊢
          cases last : (Path.components dir).getLast? with
          | none =>
              rw [List.getLast?_eq_none_iff.mp last] at extracted
              exact absurd ((extractPodUID_slash driver qos kubepodsName).symm.trans extracted)
                (by simp)
          | some c =>
              rw [Path.base_absolute dirPlain last, String.toList_ofList]
              exact (dirPlain c (List.mem_of_getLast? last)).atomic
        have slashless := extractPodUID_no_slash extracted atomic
        rw [podCgroupPath_eq_ok cleanRoot hK slashless] at computed
        obtain ⟨nonempty, expands, rfl⟩ := computed
        have wantPlain : ∀ c ∈ Path.components root ++
            (podElements kubepodsName driver qos uid).map String.toList, Path.Plain c :=
          target_plain hK slashless driver qos
        rw [Path.components_clean abs, decide_eq_true_eq, Path.clean_absolute wantPlain,
          cleanDir] at hit
        exact ⟨driver, qos, uid, nonempty, slashless, expands,
          (Path.absolute_injective wantPlain dirPlain hit).symm⟩
  · rintro ⟨driver, qos, uid, nonempty, slashless, expands, shape⟩
    refine ⟨driver, qos, ?_⟩
    have ends : (Path.components dir).getLast? =
        some (podElement kubepodsName driver qos uid).toList := by
      rw [shape, podElements, List.map_append, ← List.append_assoc, List.map_singleton,
        List.getLast?_concat]
    have extracted : extractPodUID (Path.base (Path.clean dir)) driver qos kubepodsName =
        some (escape driver uid) := by
      rw [cleanDir, Path.base_absolute dirPlain ends, String.ofList_toList,
        extractPodUID_podElement]
    have computed := (podCgroupPath_eq_ok cleanRoot hK (escape_no_slash slashless driver) driver
      qos).mpr ⟨mt escape_eq_empty.mp nonempty, expands, rfl⟩
    simp only [guessMatches, extracted, computed, Path.components_clean abs, podElements_escape]
    rw [decide_eq_true_eq, Path.clean_absolute (target_plain hK slashless driver qos), cleanDir,
      shape]

omit [PrintTable] in
/-- A pod-level directory is none of the levels above one. -/
theorem PodLevel.not_above {cs : List (List Char)} (level : PodLevel root kubepodsName cs)
    (driver : Driver) (qos : QoSClass) : cs ≠ Path.components root ++
      (topElement kubepodsName driver :: qosElement kubepodsName driver qos).map String.toList := by
  obtain ⟨d, q, uid, -, -, -, rfl⟩ := level
  intro same
  have elements := (List.map_injective_iff.mpr fun _ _ => String.toList_inj.mp)
    (List.append_cancel_left same)
  simp only [podElements, List.cons_append, List.cons.injEq] at elements
  obtain ⟨top, elements⟩ := elements
  obtain rfl := topElement_injective top
  have lengths := congrArg List.length elements
  simp only [List.length_append, qosElement_length, List.length_singleton] at lengths
  obtain rfl : q = .guaranteed := by
    split at lengths <;> split at lengths <;> simp_all
  have clash : podElement kubepodsName d .guaranteed uid ∉ qosElement kubepodsName d qos :=
    podElement_ne_qosElement kubepodsName d rfl uid
  rw [← elements] at clash
  simp at clash

omit [PrintTable] in
theorem PodLevel.not_root {cs : List (List Char)} (level : PodLevel root kubepodsName cs) :
    cs ≠ Path.components root := by
  obtain ⟨d, q, uid, -, -, -, rfl⟩ := level
  simp [podElements]

omit [PrintTable] in
/-- No pod-level directory is inside another. -/
theorem PodLevel.not_nested {cs ds : List (List Char)} (hc : PodLevel root kubepodsName cs)
    (hd : PodLevel root kubepodsName ds) (nested : cs <+: ds) : cs = ds := by
  obtain ⟨d, q, u, -, -, -, rfl⟩ := hc
  obtain ⟨d', q', u', -, -, -, rfl⟩ := hd
  rw [List.prefix_append_right_inj] at nested
  have elements := (List.prefix_map_iff_of_injective fun _ _ => String.toList_inj.mp).mp nested
  rw [podElements_nested elements]

/-- **The write-target guard accepts exactly pod-level directories.** -/
theorem guardWriteTarget_exact (abs : Path.isAbs root = true) (hK : PathComponent kubepodsName) :
    (∀ driver qos uid dir, '/' ∉ uid.toList →
      podCgroupPath root kubepodsName driver qos uid = .ok dir →
        guardWriteTarget dir root kubepodsName = none) ∧
    (∀ dir, guardWriteTarget dir root kubepodsName = none → ∃ driver qos uid,
      uid ≠ "" ∧ '/' ∉ uid.toList ∧
        podCgroupPath (Path.clean root) kubepodsName driver qos uid = .ok (Path.clean dir)) ∧
    (∀ dir, guardWriteTarget dir root kubepodsName = none → Path.isAbs dir = true ∧
      Path.clean dir ≠ Path.clean root ∧ ∀ driver qos,
        Path.clean dir ≠ Path.join [root, topElement kubepodsName driver] ∧
        Path.clean dir ≠
          Path.join (root :: topElement kubepodsName driver :: qosElement kubepodsName driver qos)) ∧
    (∀ dir dir', guardWriteTarget dir root kubepodsName = none →
      guardWriteTarget dir' root kubepodsName = none →
        Path.components dir <+: Path.components dir' → Path.clean dir = Path.clean dir') := by
  refine ⟨?complete, ?sound, ?above, ?nested⟩
  case complete =>
    intro driver qos uid dir slashless computed
    rw [podCgroupPath_eq_ok abs hK slashless] at computed
    obtain ⟨nonempty, expands, rfl⟩ := computed
    rw [guardWriteTarget_eq_none abs hK]
    exact ⟨Path.isAbs_absolute _, driver, qos, uid, nonempty, slashless, expands,
      Path.components_absolute (target_plain hK slashless driver qos)⟩
  case sound =>
    intro dir accepted
    obtain ⟨rooted, driver, qos, uid, nonempty, slashless, expands, shape⟩ :=
      (guardWriteTarget_eq_none abs hK).mp accepted
    refine ⟨driver, qos, uid, nonempty, slashless, ?_⟩
    rw [podCgroupPath_eq_ok (by rw [Path.isAbs_clean, abs]) hK slashless]
    exact ⟨nonempty, expands, by rw [Path.clean_of_isAbs rooted, shape, Path.components_clean abs]⟩
  case above =>
    intro dir accepted
    obtain ⟨rooted, level⟩ := (guardWriteTarget_eq_none abs hK).mp accepted
    have dirPlain := Path.components_plain dir
    have upper : ∀ driver qos, Path.clean dir ≠
        Path.join (root :: topElement kubepodsName driver :: qosElement kubepodsName driver qos) := by
      intro driver qos same
      have abovePlain : ∀ e ∈ topElement kubepodsName driver :: qosElement kubepodsName driver qos,
          Path.Plain e.toList := fun e member =>
        podElements_plain hK (by decide : '/' ∉ "u".toList) driver qos e
          (List.mem_append_left _ member)
      have allPlain : ∀ c ∈ Path.components root ++
          (topElement kubepodsName driver :: qosElement kubepodsName driver qos).map String.toList,
          Path.Plain c := by
        intro c member
        rcases List.mem_append.mp member with member | member
        · exact Path.components_plain root c member
        · obtain ⟨e, he, rfl⟩ := List.mem_map.mp member
          exact abovePlain e he
      rw [Path.clean_of_isAbs rooted, Path.join_plain abs abovePlain] at same
      exact level.not_above driver qos (Path.absolute_injective dirPlain allPlain same)
    refine ⟨rooted, fun same => ?_, fun driver qos => ⟨?_, upper driver qos⟩⟩
    · rw [Path.clean_of_isAbs rooted, Path.clean_of_isAbs abs] at same
      exact level.not_root (Path.absolute_injective dirPlain (Path.components_plain root) same)
    · simpa [qosElement] using upper driver .guaranteed
  case nested =>
    intro dir dir' accepted accepted' inside
    obtain ⟨rooted, level⟩ := (guardWriteTarget_eq_none abs hK).mp accepted
    obtain ⟨rooted', level'⟩ := (guardWriteTarget_eq_none abs hK).mp accepted'
    rw [Path.clean_of_isAbs rooted, Path.clean_of_isAbs rooted', level.not_nested level' inside]

end

section

attribute [local instance] asciiTable

/-- One pod directory it accepts, one QoS directory above it that it refuses. -/
theorem guardWriteTarget_exact_kubepods :
    guardWriteTarget "/sys/fs/cgroup/kubepods/burstable/pod5b0c-1" "/sys/fs/cgroup" "kubepods" = none ∧
      guardWriteTarget "/sys/fs/cgroup/kubepods/burstable" "/sys/fs/cgroup" "kubepods" ≠ none := by
  obtain ⟨complete, -, above, -⟩ := @guardWriteTarget_exact asciiTable "/sys/fs/cgroup" "kubepods"
    (by decide) ⟨by decide, by decide, by decide, by decide⟩
  refine ⟨complete .cgroupfs .burstable "5b0c-1" _ (by decide) (by decide +kernel), fun accepted => ?_⟩
  exact ((above _ accepted).2.2 .cgroupfs .burstable).2 (by decide +kernel)

end

/-! ## The agent's configuration -/

/-- What the flags and the environment gate settle: the root, the kubepods name and
the driver, with what `ParseFlags` checks of them. -/
structure Layout where
  root : String
  kubepodsName : String
  driver : Driver
  rooted : Path.isAbs root = true
  component : PathComponent kubepodsName

/-- UIDs as the API server hands them out: no slash, no underscore. -/
structure WellFormedUID (uid : String) : Prop where
  nonempty : uid ≠ ""
  no_slash : '/' ∉ uid.toList
  no_underscore : '_' ∉ uid.toList

namespace Layout

variable [PrintTable] (l : Layout)

def podDir (qos : QoSClass) (uid : String) : Except GoError String :=
  podCgroupPath l.root l.kubepodsName l.driver qos uid

variable {l}

/-- Every pod directory the agent computes may be written to. -/
theorem podDir_accepted {qos : QoSClass} {uid dir : String} (slashless : '/' ∉ uid.toList)
    (computed : l.podDir qos uid = .ok dir) : guardWriteTarget dir l.root l.kubepodsName = none := by
  have shape := (podCgroupPath_eq_ok l.rooted l.component slashless l.driver qos).mp computed
  obtain ⟨nonempty, expands, rfl⟩ := shape
  rw [guardWriteTarget_eq_none l.rooted l.component]
  exact ⟨Path.isAbs_absolute _, l.driver, qos, uid, nonempty, slashless, expands,
    Path.components_absolute (target_plain l.component slashless l.driver qos)⟩

/-- Two pods never share a directory. -/
theorem podDir_injective {q q' : QoSClass} {u u' dir : String} (hu : WellFormedUID u)
    (hu' : WellFormedUID u') (computed : l.podDir q u = .ok dir)
    (computed' : l.podDir q' u' = .ok dir) : q = q' ∧ u = u' := by
  rw [podDir, podCgroupPath_eq_ok l.rooted l.component hu.no_slash] at computed
  rw [podDir, podCgroupPath_eq_ok l.rooted l.component hu'.no_slash] at computed'
  have same := Path.absolute_injective
    (target_plain l.component hu.no_slash l.driver q)
    (target_plain l.component hu'.no_slash l.driver q') (computed.2.2.symm.trans computed'.2.2)
  have elements := (List.map_injective_iff.mpr fun _ _ => String.toList_inj.mp)
    (List.append_cancel_left same)
  obtain ⟨classes, escaped⟩ := podElements_injective elements
  exact ⟨classes, escape_injective l.driver hu.no_underscore hu'.no_underscore escaped⟩

end Layout

/-- Where a kubelet with the cgroupfs driver keeps its pods. -/
def sampleLayout : Layout :=
  ⟨"/sys/fs/cgroup", "kubepods", .cgroupfs, by decide, by decide, by decide, by decide, by decide⟩

end CpuIdle.Cgroup
