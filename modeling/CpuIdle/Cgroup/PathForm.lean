/-
# Cgroup.PathForm — the closed form of a pod's cgroup path

`podElements` lists the path components below the root: the kubepods level, the QoS
level unless the class is Guaranteed, and the pod level. `podCgroupPath_eq_ok` says
that this is exactly what `podCgroupPath` computes when it succeeds, whatever the
progressive-prefix loop went through, and `podElements_injective` that class and UID
can be read back from it.
-/
import CpuIdle.Cgroup.Path

namespace CpuIdle.Cgroup

open CpuIdle.Go

set_option autoImplicit false

/-! ## Slices -/

/-- The slice names the expansion loop visits. -/
def slices : String → List String → List String
  | _, [] => []
  | pre, component :: rest => (pre ++ component ++ sliceSuffix) :: slices (pre ++ component ++ "-") rest

/-- All components, each followed by a dash. -/
def dashed (components : List String) : String := String.join (components.map (· ++ "-"))

theorem dashed_append (xs ys : List String) : dashed (xs ++ ys) = dashed xs ++ dashed ys := by
  simp [dashed, String.join_append]

theorem dashed_singleton (x : String) : dashed [x] = x ++ "-" := by
  simp [dashed]

theorem slices_append (pre : String) (xs ys : List String) :
    slices pre (xs ++ ys) = slices pre xs ++ slices (pre ++ dashed xs) ys := by
  induction xs generalizing pre with
  | nil => simp [slices, dashed]
  | cons x rest ih =>
      simp only [List.cons_append, slices, ih, dashed, List.map_cons, String.join_cons]
      rw [String.append_assoc, String.append_assoc, String.append_assoc]

theorem expandComponents_eq {components : List String} (filled : ∀ c ∈ components, c ≠ "")
    (expanded pre : String) :
    expandComponents components expanded pre =
      some (expanded ++ String.join ((slices pre components).map ("/" ++ ·))) := by
  induction components generalizing expanded pre with
  | nil => simp [expandComponents, slices]
  | cons c rest ih =>
      rw [expandComponents, if_neg (filled c (by simp)), ih fun c member => filled c (by simp [member])]
      simp [slices, String.append_assoc]

theorem expandComponents_none {components : List String} {expanded pre : String}
    (empty : ∃ c ∈ components, c = "") : expandComponents components expanded pre = none := by
  induction components generalizing expanded pre with
  | nil => simp at empty
  | cons c rest ih =>
      rw [expandComponents]
      split
      · rfl
      · rename_i filled
        obtain ⟨d, member, rfl⟩ := empty
        rcases List.mem_cons.mp member with rfl | member
        · exact absurd rfl filled
        · exact ih ⟨_, member, rfl⟩

/-! ## The components of a pod's path -/

/-- What `ParseFlags` requires of the kubepods name: one path component. -/
structure PathComponent (name : String) : Prop where
  plain : Path.Plain name.toList

def qosElement (kubepodsName : String) (driver : Driver) (qos : QoSClass) : List String :=
  if qos = .guaranteed then []
  else
    match driver with
    | .systemd => [kubepodsName ++ "-" ++ qos.name ++ sliceSuffix]
    | .cgroupfs => [qos.name]

def topElement (kubepodsName : String) : Driver → String
  | .systemd => kubepodsName ++ sliceSuffix
  | .cgroupfs => kubepodsName

def podElement (kubepodsName : String) (driver : Driver) (qos : QoSClass) (podUID : String) : String :=
  match driver with
  | .systemd => podSliceName kubepodsName qos podUID
  | .cgroupfs => "pod" ++ podUID

/-- The path components below the root. -/
def podElements (kubepodsName : String) (driver : Driver) (qos : QoSClass) (podUID : String) :
    List String :=
  topElement kubepodsName driver :: qosElement kubepodsName driver qos ++
    [podElement kubepodsName driver qos podUID]

theorem plain_of_length {s : String} (long : 3 ≤ s.toList.length) (atomic : '/' ∉ s.toList) :
    Path.Plain s.toList where
  nonempty h := by simp [h] at long
  not_here h := by simp [h, Path.names] at long
  not_up h := by simp [h, Path.names] at long
  atomic := atomic

theorem qosName_spec (qos : QoSClass) :
    3 ≤ qos.name.toList.length ∧ '/' ∉ qos.name.toList ∧ '-' ∉ qos.name.toList ∧ qos.name ≠ "" := by
  cases qos <;> decide

theorem escaped_no_dash (uid : String) : '-' ∉ ("pod" ++ replaceAll uid '-' '_').toList := by
  simp only [String.toList_append, toList_replaceAll, List.mem_append, List.mem_map, not_or]
  refine ⟨by decide, ?_⟩
  rintro ⟨c, -, h⟩
  split at h
  · simp at h
  · exact absurd h ‹_›

theorem escaped_no_slash {uid : String} (atomic : '/' ∉ uid.toList) :
    '/' ∉ ("pod" ++ replaceAll uid '-' '_').toList := by
  simp only [String.toList_append, toList_replaceAll, List.mem_append, List.mem_map, not_or]
  refine ⟨by decide, ?_⟩
  rintro ⟨c, member, h⟩
  split at h
  · simp at h
  · exact atomic (h ▸ member)

theorem podSliceName_plain {kubepodsName uid : String} (hK : '/' ∉ kubepodsName.toList)
    (hu : '/' ∉ uid.toList) (qos : QoSClass) :
    Path.Plain (podSliceName kubepodsName qos uid).toList := by
  have pod := escaped_no_slash hu
  have name := (qosName_spec qos).2.1
  unfold podSliceName
  apply plain_of_length
  · split <;> simp [sliceSuffix] <;> omega
  · split <;> simp_all [sliceSuffix]

theorem podElements_systemd_plain {kubepodsName uid : String} (atomic : '/' ∉ kubepodsName.toList)
    (hu : '/' ∉ uid.toList) (qos : QoSClass) :
    ∀ e ∈ podElements kubepodsName .systemd qos uid, Path.Plain e.toList := by
  have noSlash := (qosName_spec qos).2.1
  intro e member
  simp only [podElements, qosElement, topElement, podElement, List.mem_cons, List.mem_append,
    List.not_mem_nil, or_false] at member
  rcases member with (rfl | member) | rfl
  · exact plain_of_length (by simp [sliceSuffix]) (by simpa [sliceSuffix] using atomic)
  · split at member
    · simp at member
    · rw [List.mem_singleton] at member
      subst member
      refine plain_of_length (by simp [sliceSuffix]; omega) ?_
      simp only [String.toList_append, List.mem_append, not_or]
      exact ⟨⟨⟨atomic, by decide⟩, noSlash⟩, by decide⟩
  · exact podSliceName_plain atomic hu qos

theorem podElements_plain {kubepodsName uid : String} (hK : PathComponent kubepodsName)
    (hu : '/' ∉ uid.toList) (driver : Driver) (qos : QoSClass) :
    ∀ e ∈ podElements kubepodsName driver qos uid, Path.Plain e.toList := by
  obtain ⟨long, noSlash, -, -⟩ := qosName_spec qos
  intro e member
  cases driver with
  | systemd => exact podElements_systemd_plain hK.plain.atomic hu qos e member
  | cgroupfs =>
      simp only [podElements, qosElement, topElement, podElement, List.mem_cons, List.mem_append,
        List.not_mem_nil, or_false] at member
      rcases member with (rfl | member) | rfl
      · exact hK.plain
      · split at member
        · simp at member
        · rw [List.mem_singleton] at member
          subst member
          exact plain_of_length long noSlash
      · exact plain_of_length (by simp) (by simpa using hu)

/-! ## The closed form -/

theorem slices_split (name : String) :
    ∃ front, slices "" (split name '-') = front ++ [name ++ sliceSuffix] ∧
      dashed (split name '-') = name ++ "-" := by
  have spelled : dashed (split name '-') = name ++ "-" := join_split name rfl
  obtain ⟨init, last, parts⟩ : ∃ init last, split name '-' = init ++ [last] :=
    ⟨_, _, (List.dropLast_append_getLast (split_ne_nil name '-')).symm⟩
  refine ⟨slices "" init, ?_, spelled⟩
  have whole : dashed init ++ last = name := by
    rw [parts] at spelled
    have spelled := congrArg String.toList spelled
    simp only [dashed, List.map_append, List.map_cons, List.map_nil, String.join_append,
      String.join_cons, String.join_nil, String.toList_append, String.append_empty,
      ← List.append_assoc] at spelled
    exact String.toList_inj.mp (by simpa [dashed] using List.append_cancel_right spelled)
  rw [parts, slices_append]
  simp [slices, ← whole]

theorem join_slash (elements : List String) (nonempty : elements ≠ []) :
    String.join (elements.map ("/" ++ ·)) = Path.absolute (elements.map String.toList) := by
  apply String.toList_inj.mp
  rw [Path.toList_absolute (by simpa using nonempty), join_eq_foldr]
  clear nonempty
  induction elements with
  | nil => rfl
  | cons e rest ih => simp [ih]

theorem slices_plain {pre : String} {components : List String} (prefixed : '/' ∉ pre.toList)
    (atomic : ∀ c ∈ components, '/' ∉ c.toList) : ∀ s ∈ slices pre components, Path.Plain s.toList := by
  induction components generalizing pre with
  | nil => simp [slices]
  | cons c rest ih =>
      have here := atomic c (by simp)
      intro s member
      rcases List.mem_cons.mp member with rfl | member
      · refine plain_of_length (by simp [sliceSuffix]; omega) ?_
        simp only [String.toList_append, List.mem_append, not_or]
        exact ⟨⟨prefixed, here⟩, by decide⟩
      · refine ih ?_ (fun d hd => atomic d (by simp [hd])) s member
        simp only [String.toList_append, List.mem_append, not_or]
        exact ⟨⟨prefixed, here⟩, by decide⟩

theorem split_no_slash {name : String} (atomic : '/' ∉ name.toList) :
    ∀ c ∈ split name '-', '/' ∉ c.toList := by
  intro c member slash
  have spelled := congrArg String.toList (join_split name (rfl : "-".toList = ['-']))
  have inside : '/' ∈ (name ++ "-").toList := by
    rw [← spelled, String.toList_join]
    simp only [List.mem_flatMap, List.mem_map]
    exact ⟨_, ⟨c, member, rfl⟩, by simp [slash]⟩
  simp [atomic] at inside

theorem split_dash (s t : String) : split (s ++ "-" ++ t) '-' = split s '-' ++ split t '-' :=
  split_append s t rfl

/-- The pod slice name, without its suffix. -/
def podSliceStem (kubepodsName : String) (qos : QoSClass) (podUID : String) : String :=
  if qos = .guaranteed then kubepodsName ++ "-" ++ ("pod" ++ replaceAll podUID '-' '_')
  else kubepodsName ++ "-" ++ qos.name ++ "-" ++ ("pod" ++ replaceAll podUID '-' '_')

theorem podSliceStem_ne_dash (kubepodsName : String) (qos : QoSClass) (podUID : String) :
    podSliceStem kubepodsName qos podUID ≠ "-" := by
  intro same
  have lengths := congrArg (·.toList.length) same
  unfold podSliceStem at lengths
  split at lengths <;> simp at lengths <;> omega

theorem podSliceStem_no_slash {kubepodsName podUID : String} (hK : '/' ∉ kubepodsName.toList)
    (hu : '/' ∉ podUID.toList) (qos : QoSClass) :
    '/' ∉ (podSliceStem kubepodsName qos podUID).toList := by
  have pod := escaped_no_slash hu
  have name := (qosName_spec qos).2.1
  unfold podSliceStem
  split <;> simp_all

theorem podSliceName_eq (kubepodsName : String) (qos : QoSClass) (podUID : String) :
    podSliceName kubepodsName qos podUID = podSliceStem kubepodsName qos podUID ++ sliceSuffix := by
  unfold podSliceName podSliceStem
  split <;> rfl

/-- The slices of the pod's stem: those of the kubepods name, then the QoS and pod ones. -/
theorem slices_stem (kubepodsName : String) (qos : QoSClass) (podUID : String) :
    ∃ front, slices "" (split kubepodsName '-') = front ++ [kubepodsName ++ sliceSuffix] ∧
      slices "" (split (podSliceStem kubepodsName qos podUID) '-') =
        front ++ podElements kubepodsName .systemd qos podUID := by
  obtain ⟨front, shape, spelled⟩ := slices_split kubepodsName
  refine ⟨front, shape, ?_⟩
  have pod := escaped_no_dash podUID
  unfold podSliceStem
  split
  · rename_i guaranteed
    subst guaranteed
    rw [split_dash, split_atomic pod, slices_append, shape, spelled]
    simp [slices, podElements, topElement, qosElement, podElement, podSliceName]
  · rename_i notGuaranteed
    rw [split_dash, split_dash,
      split_atomic pod, split_atomic (qosName_spec qos).2.2.1, slices_append, slices_append,
      dashed_append, dashed_singleton, shape, spelled]
    simp [slices, podElements, topElement, qosElement, podElement, podSliceName, notGuaranteed,
      String.append_assoc]

theorem split_stem_filled {kubepodsName : String} (qos : QoSClass) (podUID : String) :
    (∀ c ∈ split (podSliceStem kubepodsName qos podUID) '-', c ≠ "") ↔
      ∀ c ∈ split kubepodsName '-', c ≠ "" := by
  have pod := escaped_no_dash podUID
  have podFilled : "pod" ++ replaceAll podUID '-' '_' ≠ "" := by simp
  have qosFilled := (qosName_spec qos).2.2.2
  unfold podSliceStem
  split
  · rw [split_dash, split_atomic pod]
    simp [or_imp, forall_and]
  · rw [split_dash, split_dash,
      split_atomic pod, split_atomic (qosName_spec qos).2.2.1]
    simp [or_imp, forall_and, qosFilled]

section

variable [PrintTable]

/-- Expanding `name.slice` succeeds iff every dash component is non-empty. -/
theorem expandSystemdSlice_ok {name expanded : String} (atomic : '/' ∉ name.toList)
    (named : name ≠ "-") :
    expandSystemdSlice (name ++ sliceSuffix) = .ok expanded ↔
      (∀ c ∈ split name '-', c ≠ "") ∧
        expanded = Path.absolute ((slices "" (split name '-')).map String.toList) := by
  have noSlash : contains (name ++ sliceSuffix) '/' = false := by
    rw [Bool.eq_false_iff, Ne, contains_iff]
    simp [sliceSuffix, atomic]
  have nonempty : slices "" (split name '-') ≠ [] := by
    obtain ⟨front, shape, -⟩ := slices_split name
    simp [shape]
  simp only [expandSystemdSlice, hasSuffix_append, noSlash, Bool.not_true, Bool.or_self,
    Bool.false_eq_true, if_false, trimSuffix_append, if_neg named]
  by_cases filled : ∀ c ∈ split name '-', c ≠ ""
  · rw [expandComponents_eq filled, String.empty_append, join_slash _ nonempty]
    simp only [Except.ok.injEq]
    exact ⟨fun h => ⟨filled, h.symm⟩, fun h => h.2.symm⟩
  · rw [expandComponents_none (by simpa using filled)]
    simp only [reduceCtorEq, false_iff, not_and]
    exact fun h => absurd h filled

/-- What the systemd branch joins to the root. -/
theorem systemdPodCgroupPath_join {root kubepodsName podUID dir : String}
    (atomic : '/' ∉ kubepodsName.toList) (hu : '/' ∉ podUID.toList) (qos : QoSClass) :
    systemdPodCgroupPath root kubepodsName qos podUID = .ok dir ↔
      (∀ c ∈ split kubepodsName '-', c ≠ "") ∧
        dir = Path.join [root,
          Path.absolute ((podElements kubepodsName .systemd qos podUID).map String.toList)] := by
  have stemAtomic := podSliceStem_no_slash atomic hu qos
  have stemNamed := podSliceStem_ne_dash kubepodsName qos podUID
  obtain ⟨front, kubepods, pod⟩ := slices_stem kubepodsName qos podUID
  unfold systemdPodCgroupPath
  by_cases filled : ∀ c ∈ split kubepodsName '-', c ≠ ""
  · have named : kubepodsName ≠ "-" := by
      rintro rfl
      exact filled "" (by decide) rfl
    have expanded := (expandSystemdSlice_ok stemAtomic stemNamed).mpr
      ⟨(split_stem_filled qos podUID).mpr filled, rfl⟩
    have kubepodsExpanded := (expandSystemdSlice_ok atomic named).mpr ⟨filled, rfl⟩
    have frontPlain : ∀ c ∈ front.map String.toList, Path.Plain c := by
      intro c member
      obtain ⟨s, hs, rfl⟩ := List.mem_map.mp member
      exact slices_plain (by simp : '/' ∉ "".toList) (split_no_slash atomic) s (by simp [kubepods, hs])
    rw [podSliceName_eq]
    simp only [expanded, kubepodsExpanded, pod, kubepods]
    have kubepodsPlain : ∀ c ∈ (front ++ [kubepodsName ++ sliceSuffix]).map String.toList,
        Path.Plain c := by
      intro c member
      obtain ⟨s, hs, rfl⟩ := List.mem_map.mp member
      exact slices_plain (by simp : '/' ∉ "".toList) (split_no_slash atomic) s (kubepods ▸ hs)
    have outerPrefix : Path.dir (Path.absolute ((front ++ [kubepodsName ++ sliceSuffix]).map
        String.toList)) = Path.absolute (front.map String.toList) := by
      rw [Path.dir_absolute kubepodsPlain (by simp)]
      simp
    rw [outerPrefix]
    by_cases bare : front = []
    · subst bare
      rw [if_neg (by simp [Path.absolute_eq_slash]), List.nil_append]
      simp only [Except.ok.injEq]
      exact ⟨fun h => ⟨filled, h.symm⟩, fun h => h.2.symm⟩
    · have nested : Path.absolute (front.map String.toList) ≠ "/" := by
        rw [Ne, Path.absolute_eq_slash frontPlain]
        simpa using bare
      have spelled : Path.absolute ((front ++ podElements kubepodsName .systemd qos podUID).map
          String.toList) = Path.absolute (front.map String.toList) ++
            Path.absolute ((podElements kubepodsName .systemd qos podUID).map String.toList) := by
        rw [List.map_append, Path.absolute_append (by simpa using bare) (by simp [podElements])]
      have shorter : Path.absolute ((podElements kubepodsName .systemd qos podUID).map String.toList) ≠
          Path.absolute (front.map String.toList) ++
            Path.absolute ((podElements kubepodsName .systemd qos podUID).map String.toList) := by
        intro same
        have lengths := congrArg (·.toList.length) same
        simp only [String.toList_append, List.length_append, Path.toList_absolute
          (show front.map String.toList ≠ [] by simpa using bare)] at lengths
        cases front with
        | nil => exact bare rfl
        | cons s rest => simp at lengths
      rw [if_pos nested, spelled, trimPrefix_append, if_neg shorter]
      simp only [Except.ok.injEq]
      exact ⟨fun h => ⟨filled, h.symm⟩, fun h => h.2.symm⟩
  · have failed : ∀ expanded, expandSystemdSlice (podSliceName kubepodsName qos podUID) ≠ .ok expanded := by
      intro expanded ok
      rw [podSliceName_eq, expandSystemdSlice_ok stemAtomic stemNamed, split_stem_filled] at ok
      exact filled ok.1
    cases result : expandSystemdSlice (podSliceName kubepodsName qos podUID) with
    | ok expanded => exact absurd result (failed expanded)
    | error err => simp [result, filled]

theorem systemdPodCgroupPath_eq_ok {root kubepodsName podUID dir : String}
    (abs : Path.isAbs root = true) (hK : PathComponent kubepodsName) (hu : '/' ∉ podUID.toList)
    (qos : QoSClass) :
    systemdPodCgroupPath root kubepodsName qos podUID = .ok dir ↔
      (∀ c ∈ split kubepodsName '-', c ≠ "") ∧
        dir = Path.absolute (Path.components root ++
          (podElements kubepodsName .systemd qos podUID).map String.toList) := by
  have plain : ∀ c ∈ (podElements kubepodsName .systemd qos podUID).map String.toList,
      Path.Plain c := by
    intro c member
    obtain ⟨e, he, rfl⟩ := List.mem_map.mp member
    exact podElements_plain hK hu .systemd qos e he
  rw [systemdPodCgroupPath_join hK.plain.atomic hu, Path.join_absolute abs plain]

omit [PrintTable] in
/-- What the cgroupfs branch joins to the root. -/
theorem cgroupfsPodCgroupPath_join (root kubepodsName podUID : String) (qos : QoSClass) :
    cgroupfsPodCgroupPath root kubepodsName qos podUID =
      Path.join (root :: podElements kubepodsName .cgroupfs qos podUID) := by
  unfold cgroupfsPodCgroupPath
  split <;> simp_all [podElements, topElement, qosElement, podElement]

/-- **The closed form.** For an absolute root and a one-component kubepods name the
path is the root's components followed by `podElements`; the systemd branch also
requires every dash component of the kubepods name to be non-empty. -/
theorem podCgroupPath_eq_ok {root kubepodsName podUID dir : String} (abs : Path.isAbs root = true)
    (hK : PathComponent kubepodsName) (hu : '/' ∉ podUID.toList) (driver : Driver) (qos : QoSClass) :
    podCgroupPath root kubepodsName driver qos podUID = .ok dir ↔
      podUID ≠ "" ∧ (driver = .systemd → ∀ c ∈ split kubepodsName '-', c ≠ "") ∧
        dir = Path.absolute (Path.components root ++
          (podElements kubepodsName driver qos podUID).map String.toList) := by
  have atomic : '/' ∉ kubepodsName.toList := hK.plain.atomic
  have named : kubepodsName ≠ "" := fun h => hK.plain.nonempty (by simp [h])
  have plain := podElements_plain hK hu driver qos
  unfold podCgroupPath
  by_cases empty : podUID = ""
  · simp [empty]
  rw [if_neg empty, if_neg named]
  cases driver with
  | cgroupfs =>
      rw [cgroupfsPodCgroupPath_join, Path.join_plain abs plain]
      simp [empty, eq_comm]
  | systemd =>
      rw [systemdPodCgroupPath_eq_ok abs hK hu]
      simp [empty]

end

/-! ## Reading class and UID back, and nesting -/

/-- No pod element is a QoS element: the one goes on with `pod`, the other does not. -/
theorem podElement_ne_qosElement (kubepodsName : String) (driver : Driver) {q q' : QoSClass}
    (guaranteed : q = .guaranteed) (podUID : String) :
    podElement kubepodsName driver q podUID ∉ qosElement kubepodsName driver q' := by
  subst guaranteed
  unfold qosElement podElement podSliceName
  cases driver <;> cases q' <;> simp [QoSClass.name] <;> intro same <;>
    have := congrArg String.toList same <;> simp at this

/-- `escape driver uid` is what the pod's directory keeps of the UID. -/
def escape (driver : Driver) (podUID : String) : String :=
  match driver with
  | .systemd => replaceAll podUID '-' '_'
  | .cgroupfs => podUID

theorem replaceAll_injective {old new : Char} {s t : String} (hs : new ∉ s.toList)
    (ht : new ∉ t.toList) (same : replaceAll s old new = replaceAll t old new) : s = t := by
  have maps := congrArg String.toList same
  simp only [toList_replaceAll] at maps
  refine String.toList_inj.mp ?_
  generalize s.toList = xs at hs maps
  generalize t.toList = ys at ht maps
  induction xs generalizing ys with
  | nil => simpa using maps.symm
  | cons x xs ih =>
      cases ys with
      | nil => simp at maps
      | cons y ys =>
          simp only [List.map_cons, List.cons.injEq, List.mem_cons, not_or] at maps hs ht ⊢
          refine ⟨?_, ih hs.2 ys ht.2 maps.2⟩
          have heads := maps.1
          split at heads <;> split at heads <;> simp_all

theorem escape_injective (driver : Driver) {u v : String} (hu : '_' ∉ u.toList)
    (hv : '_' ∉ v.toList) (same : escape driver u = escape driver v) : u = v := by
  cases driver with
  | systemd => exact replaceAll_injective hu hv same
  | cgroupfs => exact same

theorem topElement_injective {kubepodsName : String} {d d' : Driver}
    (same : topElement kubepodsName d = topElement kubepodsName d') : d = d' := by
  have lengths := congrArg (·.toList.length) same
  cases d <;> cases d' <;> simp [topElement, sliceSuffix] at lengths ⊢

theorem qosElement_length (kubepodsName : String) (driver : Driver) (qos : QoSClass) :
    (qosElement kubepodsName driver qos).length = if qos = .guaranteed then 0 else 1 := by
  unfold qosElement
  cases driver <;> split <;> rfl

/-- One pod directory is never inside another. -/
theorem podElements_nested {kubepodsName : String} {d d' : Driver} {q q' : QoSClass} {u u' : String}
    (nested : podElements kubepodsName d q u <+: podElements kubepodsName d' q' u') :
    podElements kubepodsName d q u = podElements kubepodsName d' q' u' := by
  simp only [podElements, List.cons_append, List.cons_prefix_cons] at nested
  obtain ⟨top, nested⟩ := nested
  obtain rfl := topElement_injective top
  have lengths := nested.length_le
  simp only [List.length_append, qosElement_length, List.length_singleton] at lengths
  by_cases same : (qosElement kubepodsName d q).length = (qosElement kubepodsName d q').length
  · have := nested.eq_of_length (by simp [same])
    simp [podElements, this]
  · simp only [qosElement_length] at same
    obtain ⟨rfl, shared⟩ : q = .guaranteed ∧ q' ≠ .guaranteed := by
      split at same <;> split at same <;> simp_all
    exfalso
    obtain ⟨e, single⟩ := List.length_eq_one_iff.mp
      (show (qosElement kubepodsName d q').length = 1 by simp [qosElement_length, shared])
    have clash : podElement kubepodsName d .guaranteed u ∉ qosElement kubepodsName d q' :=
      podElement_ne_qosElement kubepodsName d rfl u
    rw [single] at nested clash
    rw [show qosElement kubepodsName d .guaranteed = [] by simp [qosElement], List.nil_append,
      List.singleton_append, List.cons_prefix_cons] at nested
    exact clash (by simp [nested.1])

theorem qosElement_injective {kubepodsName : String} {d : Driver} {q q' : QoSClass}
    (same : qosElement kubepodsName d q = qosElement kubepodsName d q') : q = q' := by
  cases d <;> cases q <;> cases q' <;> simp [qosElement, QoSClass.name] at same ⊢

/-- Class and (escaped) UID can be read back from the path. -/
theorem podElements_injective {kubepodsName : String} {d : Driver} {q q' : QoSClass} {u u' : String}
    (same : podElements kubepodsName d q u = podElements kubepodsName d q' u') :
    q = q' ∧ escape d u = escape d u' := by
  simp only [podElements, List.cons_append, List.cons.injEq, true_and] at same
  obtain ⟨qosSame, podSame⟩ := List.append_inj' same rfl
  obtain rfl := qosElement_injective qosSame
  refine ⟨rfl, ?_⟩
  simp only [List.cons.injEq, and_true] at podSame
  cases d with
  | cgroupfs => simpa [podElement, escape] using podSame
  | systemd =>
      simp only [podElement, podSliceName] at podSame
      split at podSame <;> simpa [escape, String.append_assoc] using podSame

/-! ## Two pods, two paths -/

/-- The alphabet of Kubernetes UIDs. -/
structure KubernetesUID (uid : String) : Prop where
  nonempty : uid ≠ ""
  alphabet : ∀ c ∈ uid.toList, c.isAlphanum = true ∨ c = '-'

theorem KubernetesUID.of_all {uid : String} (nonempty : uid ≠ "")
    (all : (uid.toList.all fun c => c.isAlphanum || c == '-') = true) : KubernetesUID uid where
  nonempty := nonempty
  alphabet c member := by
    have known := List.all_eq_true.mp all c member
    rwa [Bool.or_eq_true, beq_iff_eq] at known

theorem KubernetesUID.no_slash {uid : String} (known : KubernetesUID uid) : '/' ∉ uid.toList := by
  intro slash
  rcases known.alphabet _ slash with letter | dash
  · exact absurd letter (by decide)
  · exact absurd dash (by decide)

theorem KubernetesUID.no_underscore {uid : String} (known : KubernetesUID uid) : '_' ∉ uid.toList := by
  intro underscore
  rcases known.alphabet _ underscore with letter | dash
  · exact absurd letter (by decide)
  · exact absurd dash (by decide)

section

variable [PrintTable]

/-- The path determines the elements below the root, whatever the root is. -/
theorem podCgroupPath_elements {root kubepodsName u u' dir : String} {q q' : QoSClass}
    (hK : PathComponent kubepodsName) (hu : '/' ∉ u.toList) (hu' : '/' ∉ u'.toList) (driver : Driver)
    (computed : podCgroupPath root kubepodsName driver q u = .ok dir)
    (computed' : podCgroupPath root kubepodsName driver q' u' = .ok dir) :
    podElements kubepodsName driver q u = podElements kubepodsName driver q' u' := by
  have plain := podElements_plain hK hu driver q
  have plain' := podElements_plain hK hu' driver q'
  have filled : ∀ (q : QoSClass) (u : String), podElements kubepodsName driver q u ≠ [] := by
    intro q u
    simp [podElements]
  have named : kubepodsName ≠ "" := fun h => hK.plain.nonempty (by simp [h])
  have some_uid : ∀ {q : QoSClass} {u : String}, podCgroupPath root kubepodsName driver q u = .ok dir →
      u ≠ "" := by
    rintro q _ ok rfl
    simp [podCgroupPath] at ok
  have first := computed
  have second := computed'
  unfold podCgroupPath at first second
  rw [if_neg (some_uid computed), if_neg named] at first
  rw [if_neg (some_uid computed'), if_neg named] at second
  cases driver with
  | systemd =>
      obtain ⟨-, shape⟩ := (systemdPodCgroupPath_join hK.plain.atomic hu q).mp first
      obtain ⟨-, shape'⟩ := (systemdPodCgroupPath_join hK.plain.atomic hu' q').mp second
      have asLists : ∀ {q : QoSClass} {u : String},
          (∀ e ∈ podElements kubepodsName .systemd q u, Path.Plain e.toList) →
          ∀ c ∈ (podElements kubepodsName .systemd q u).map String.toList, Path.Plain c := by
        intro q u all c member
        obtain ⟨e, he, rfl⟩ := List.mem_map.mp member
        exact all e he
      have lists := Path.join_absolute_injective (asLists plain) (asLists plain')
        (by simpa using filled q u) (by simpa using filled q' u') (shape.symm.trans shape')
      exact List.map_injective_iff.mpr (fun _ _ => String.toList_inj.mp) lists
  | cgroupfs =>
      have shape := Except.ok.inj first
      have shape' := Except.ok.inj second
      rw [cgroupfsPodCgroupPath_join] at shape shape'
      exact Path.join_below_injective plain plain' (filled q u) (filled q' u') (shape.trans shape'.symm)

/-- **Different pods never share a path.** -/
theorem podCgroupPath_distinct (root : String) {kubepodsName : String} (hK : PathComponent kubepodsName)
    (driver : Driver) {q q' : QoSClass} {u u' dir dir' : String} (hu : KubernetesUID u)
    (hu' : KubernetesUID u') (distinct : (q, u) ≠ (q', u'))
    (computed : podCgroupPath root kubepodsName driver q u = .ok dir)
    (computed' : podCgroupPath root kubepodsName driver q' u' = .ok dir') : dir ≠ dir' := by
  rintro rfl
  have elements := podCgroupPath_elements hK hu.no_slash hu'.no_slash driver computed computed'
  obtain ⟨classes, escaped⟩ := podElements_injective elements
  have uids := escape_injective driver hu.no_underscore hu'.no_underscore escaped
  exact distinct (by rw [classes, uids])

end

section

attribute [local instance] asciiTable

/-- Two UIDs that differ by a dash, under a relative root. -/
theorem podCgroupPath_distinct_dash :
    "cgroup/kube-pods.slice/kube-pods-burstable.slice/kube-pods-burstable-poda_1.slice" ≠
      "cgroup/kube-pods.slice/kube-pods-burstable.slice/kube-pods-burstable-poda1.slice" :=
  @podCgroupPath_distinct asciiTable "cgroup" "kube-pods" ⟨by decide, by decide, by decide, by decide⟩
    .systemd .burstable .burstable "a-1" "a1" _ _ (.of_all (by decide) (by decide))
    (.of_all (by decide) (by decide)) (by decide) (by decide +kernel) (by decide +kernel)

end

end CpuIdle.Cgroup
