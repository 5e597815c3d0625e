/-
# Cgroup.SlicePath — systemd's path, written out

`systemdPodCgroupPath` expands two slice names and strips the one's parent from the other.
`systemdPodCgroupPath_closed` is what comes of it below a named root: the slice of the
kubepods name, the QoS slice unless the class is Guaranteed, and the pod slice.
-/
import CpuIdle.Cgroup.PathForm

namespace CpuIdle.Cgroup

open CpuIdle.Go

set_option autoImplicit false

/-- The slice of the kubepods name. -/
def kubepodsSlice (kubepodsName : String) : String := kubepodsName ++ ".slice"

/-- What lies below it: the QoS slice, if any, and the pod's own. -/
def innerSlices (kubepodsName : String) (qos : QoSClass) (podUID : String) : List String :=
  let pod := "pod" ++ replaceAll podUID '-' '_' ++ ".slice"
  if qos = .guaranteed then [kubepodsName ++ "-" ++ pod]
  else [kubepodsName ++ "-" ++ qos.name ++ ".slice", kubepodsName ++ "-" ++ qos.name ++ "-" ++ pod]

theorem podElements_systemd (kubepodsName : String) (qos : QoSClass) (podUID : String) :
    podElements kubepodsName .systemd qos podUID =
      kubepodsSlice kubepodsName :: innerSlices kubepodsName qos podUID := by
  unfold podElements innerSlices qosElement podElement podSliceName
  split
  · simp [topElement, kubepodsSlice, sliceSuffix, String.append_assoc]
  · simp [topElement, kubepodsSlice, sliceSuffix, String.append_assoc]

section

variable [PrintTable]

/-- **The closed form below a named root.** -/
theorem systemdPodCgroupPath_closed {root kubepodsName podUID : String} (named : root ≠ "")
    (atomic : '/' ∉ kubepodsName.toList) (filled : ∀ c ∈ split kubepodsName '-', c ≠ "")
    (slashless : '/' ∉ podUID.toList) (qos : QoSClass) :
    systemdPodCgroupPath root kubepodsName qos podUID =
        .ok (Path.join (root :: kubepodsSlice kubepodsName :: innerSlices kubepodsName qos podUID)) ∧
      (∃ outer, slices "" (split kubepodsName '-') = outer ++ [kubepodsSlice kubepodsName] ∧
        expandSystemdSlice (podSliceName kubepodsName qos podUID) = .ok (Path.absolute ((outer ++
          kubepodsSlice kubepodsName :: innerSlices kubepodsName qos podUID).map String.toList))) ∧
      ∃ inner, inner ≠ "" ∧ systemdPodCgroupPath root kubepodsName qos podUID =
        .ok (Path.join [root, kubepodsSlice kubepodsName] ++ "/" ++ inner) := by
  have plain := podElements_systemd_plain atomic slashless qos
  rw [podElements_systemd] at plain
  have plainChars : ∀ c ∈ (kubepodsSlice kubepodsName :: innerSlices kubepodsName qos podUID).map
      String.toList, Path.Plain c := by
    intro c member
    obtain ⟨e, he, rfl⟩ := List.mem_map.mp member
    exact plain e he
  have namedChars : root.toList ≠ [] := by simpa using named
  have computed : systemdPodCgroupPath root kubepodsName qos podUID =
      .ok (Path.join (root :: kubepodsSlice kubepodsName :: innerSlices kubepodsName qos podUID)) := by
    refine (systemdPodCgroupPath_join atomic slashless qos).mpr ⟨filled, ?_⟩
    have joined := Theory.Lexical.join_absolute_eq namedChars plainChars (by simp)
    simp only [Path.join, podElements_systemd, List.map_cons, List.map_nil, Path.absolute,
      String.toList_ofList] at joined ⊢
    rw [joined]
  have innerFilled : innerSlices kubepodsName qos podUID ≠ [] := by
    unfold innerSlices
    split <;> simp
  refine ⟨computed, ?_, ?_⟩
  · obtain ⟨outer, kubepods, pod⟩ := slices_stem kubepodsName qos podUID
    refine ⟨outer, kubepods, ?_⟩
    rw [podSliceName_eq, ← podElements_systemd, ← pod]
    exact (expandSystemdSlice_ok (podSliceStem_no_slash atomic slashless qos)
      (podSliceStem_ne_dash kubepodsName qos podUID)).mpr
        ⟨(split_stem_filled qos podUID).mpr filled, rfl⟩
  · rw [List.map_cons, List.forall_mem_cons] at plainChars
    have nested := Theory.Lexical.join_nested namedChars
      (List.forall_mem_singleton.mpr plainChars.1) plainChars.2 (by simp) (by simpa using innerFilled)
    refine ⟨.ofList (['/'].intercalate ((innerSlices kubepodsName qos podUID).map String.toList)), ?_, ?_⟩
    · obtain ⟨first, rest, shape⟩ := List.exists_cons_of_ne_nil innerFilled
      have filledFirst := (plainChars.2 first.toList (by simp [shape])).nonempty
      rw [Ne, ← String.toList_inj, String.toList_ofList, shape]
      cases rest with
      | nil => simpa [List.intercalate] using filledFirst
      | cons second rest => simp [List.intercalate]
    · rw [computed]
      congr 1
      apply String.toList_inj.mp
      simpa [Path.join, Path.names] using nested

end

/-- A kubepods name with an outer slice. -/
theorem systemdPodCgroupPath_closed_kind :
    @systemdPodCgroupPath asciiTable "/sys/fs/cgroup/kubelet.slice" "kubelet-kubepods" .burstable "5b0c-1" =
      .ok (Path.join ("/sys/fs/cgroup/kubelet.slice" :: kubepodsSlice "kubelet-kubepods" ::
        innerSlices "kubelet-kubepods" .burstable "5b0c-1")) :=
  (@systemdPodCgroupPath_closed asciiTable "/sys/fs/cgroup/kubelet.slice" "kubelet-kubepods" "5b0c-1"
    (by decide) (by decide) (by decide) (by decide) .burstable).1

/-- Below the empty root the path is absolute, and not where the gate looks. -/
theorem systemdPodCgroupPath_empty_root :
    @systemdPodCgroupPath asciiTable "" "kubepods" .guaranteed "5b0c-1" =
        .ok "/kubepods.slice/kubepods-pod5b0c_1.slice" ∧
      Path.join ("" :: kubepodsSlice "kubepods" :: innerSlices "kubepods" .guaranteed "5b0c-1") =
        "kubepods.slice/kubepods-pod5b0c_1.slice" ∧
      Path.join ["", kubepodsSlice "kubepods"] = "kubepods.slice" := by
  decide +kernel

end CpuIdle.Cgroup
