/-
# Kernel.Files — arenas whose control files are a kernel's

`Files A G cgroups` says that reading and inspecting directories in the arena shows
the cgroups it keeps and changes nothing. From it follow the rules for reading one
knob and for reading a whole snapshot of a directory that nobody changes meanwhile,
except that it may disappear.

* `Files.readSnapshot_steady` — only what the snapshot shows has to stay;
* `Files.readSnapshot` — nothing moves at all.
-/
import CpuIdle.Kernel.Cgroup

namespace CpuIdle.Kernel

open CpuIdle.Go CpuIdle.Node CpuIdle.Theory CpuIdle.Apply CpuIdle.Cgroup

set_option autoImplicit false

universe u

variable {W : Type u} {A : Arena nodeSignature W} {G : Guarantee nodeSignature W}
  {cgroups : W → String → Option Cgroup}

structure Files (A : Arena nodeSignature W) (G : Guarantee nodeSignature W)
    (cgroups : W → String → Option Cgroup) : Prop where
  read_inert : ∀ dir name, A.Inert G (.readFile dir name)
  stat_inert : ∀ dir, A.Inert G (.stat dir)
  read_data : ∀ w dir name content w', A.act w (.readFile dir name) (.data content) w' →
    ∃ c, cgroups w dir = some c ∧ c.content name = some content
  stat_gone : ∀ w dir w', A.act w (.stat dir) .notExist w' → cgroups w dir = none

/-- The directory is in state `c` or gone. -/
def Settled (cgroups : W → String → Option Cgroup) (dir : String) (c : Cgroup) (w : W) : Prop :=
  ∀ c', cgroups w dir = some c' → c' = c

section

variable [PrintTable]

theorem Files.readKnob (files : Files A G cgroups) {P : W → Prop} (stable : A.Stable P)
    (dir name : String) : Holds A G P (readKnob dir name) fun result w => P w ∧
      match result with
      | .ok v => ∃ c content, cgroups w dir = some c ∧ c.content name = some content ∧
          v = trimSpace content
      | .error err => err.is .cgroupGone = true → cgroups w dir = none := by
  refine readKnob_holds stable (files.stat_inert dir) ?_ ?_ ?_
  · intro w holds content w' act
    obtain ⟨rfl, kept⟩ := files.read_inert dir name w _ w' act
    obtain ⟨c, present, shown⟩ := files.read_data _ _ _ _ _ act
    exact ⟨kept, holds, c, content, present, shown, rfl⟩
  · intro w holds answer w' act _
    obtain ⟨rfl, kept⟩ := files.read_inert dir name w _ w' act
    exact ⟨kept, holds⟩
  · exact fun w err holds gone => ⟨holds, fun isGone => files.stat_gone _ _ _ (gone isGone)⟩

/-- What is known of a read value. -/
def Reads (cgroups : W → String → Option Cgroup) (dir : String) (w : W) (known : Cgroup → String → Prop) :
    Except GoError String → Prop
  | .ok v => ∃ c, cgroups w dir = some c ∧ known c v
  | .error err => err.is .cgroupGone = true → cgroups w dir = none

/-- One knob of a directory, trimmed. -/
theorem Files.readValue (files : Files A G cgroups) {P : W → Prop} (stable : A.Stable P)
    (dir name : String) : Holds A G P (CpuIdle.Cgroup.readKnob dir name) fun result w => P w ∧
      Reads cgroups dir w (fun c v => c.value name = some v) result := by
  refine (files.readKnob stable dir name).post fun result w known => ⟨known.1, ?_⟩
  cases result with
  | error err => exact known.2
  | ok v' =>
      obtain ⟨c', content, present, shown, rfl⟩ := known.2
      obtain ⟨v, shows, rfl⟩ := Option.map_eq_some_iff.mp shown
      exact ⟨c', present, shows.trans (congrArg some (Cgroup.trimSpace_value shows).symm)⟩

/-- Reads the next knob and goes on with what the directory showed. -/
theorem Files.readNext (files : Files A G cgroups) {P : W → Prop} (stable : A.Stable P)
    {dir name : String} {β : Type} {Q : β → W → Prop} {next : Except GoError String → Node β}
    (error : ∀ err, Holds A G (fun w => P w ∧ (err.is .cgroupGone = true → cgroups w dir = none))
      (next (.error err)) Q)
    (ok : ∀ v, Holds A G (fun w => P w ∧ ∃ c, cgroups w dir = some c ∧ c.value name = some v)
      (next (.ok v)) Q) :
    Holds A G P (CpuIdle.Cgroup.readKnob dir name >>= next) Q := by
  refine .bind (files.readValue stable dir name) fun result => ?_
  cases result with
  | error err => exact error err
  | ok v => exact ok v

/-- What a read of the directory tells. -/
def Told (cgroups : W → String → Option Cgroup) (dir : String) (s : Snapshot) (w : W) :
    Except GoError Snapshot → Prop
  | .ok s' => s' = s ∧ ∃ c, cgroups w dir = some c ∧ c.snapshot = s
  | .error err => err.is .cgroupGone = true → cgroups w dir = none

/-- **Reading the snapshot of a directory** nobody changes otherwise: the period and the freezer may
move between two reads. -/
theorem Files.readSnapshot_steady (files : Files A G cgroups) {P : W → Prop} (stable : A.Stable P)
    {dir : String} {s : Snapshot} (steady : ∀ w, P w → ∀ c, cgroups w dir = some c → c.snapshot = s) :
    Holds A G P (readSnapshot dir) fun result w => P w ∧ Told cgroups dir s w result := by
  have error : ∀ err, Holds A G (fun w => P w ∧ (err.is .cgroupGone = true → cgroups w dir = none))
      (pure (.error err)) fun result w => P w ∧ Told cgroups dir s w result :=
    fun err => .pure fun w known => known
  have read : ∀ {name v : String} {w : W}, P w →
      (∃ c, cgroups w dir = some c ∧ c.value name = some v) →
        ∃ c, cgroups w dir = some c ∧ c.value name = some v ∧ c.snapshot = s := by
    rintro name v w holds ⟨c, present, shows⟩
    exact ⟨c, present, shows, steady w holds c present⟩
  unfold Apply.readSnapshot
  refine files.readNext stable error fun idle => .of_forall fun w₁ known => ?_
  obtain ⟨c₁, -, shows₁, at₁⟩ := read known.1 known.2
  refine .pre (P := P) (files.readNext stable error fun weight => .of_forall fun w₂ known => ?_)
    fun w same => same ▸ known.1
  obtain ⟨c₂, -, shows₂, at₂⟩ := read known.1 known.2
  refine .pre (P := P) (files.readNext stable error fun max => .of_forall fun w₃ known => ?_)
    fun w same => same ▸ known.1
  obtain ⟨c₃, -, shows₃, at₃⟩ := read known.1 known.2
  refine .pre (P := P) (files.readNext stable error fun burst => .pure fun w known => ?_)
    fun w same => same ▸ known.1
  obtain ⟨c₄, present, shows₄, at₄⟩ := read known.1 known.2
  refine ⟨known.1, ?_⟩
  -- each file comes from a cgroup of its own, and they agree on all the parser looks at
  have sameIdle : c₁.idle = c₃.idle := congrArg Snapshot.idleActive (at₁.trans at₃.symm)
  have sameWeight : c₂.weight = c₃.weight := congrArg Snapshot.weight (at₂.trans at₃.symm)
  have sameBurst : c₄.burst = c₃.burst := congrArg Snapshot.burst (at₄.trans at₃.symm)
  simp only [knobCPUIdle, knobCPUWeight, knobCPUMax, knobCPUMaxBurst, Cgroup.value,
    Option.some.injEq] at shows₁ shows₂ shows₃ shows₄
  rw [← shows₁, ← shows₂, ← shows₃, ← shows₄, sameIdle, sameWeight, sameBurst, c₃.parseSnapshot_value]
  exact ⟨at₃, c₄, present, at₄⟩

/-- **Reading the snapshot of a settled directory.** -/
theorem Files.readSnapshot (files : Files A G cgroups) {P : W → Prop} (stable : A.Stable P)
    {dir : String} {c : Cgroup} (settled : ∀ w, P w → Settled cgroups dir c w) :
    Holds A G P (readSnapshot dir) fun result w => P w ∧
      match result with
      | .ok s => s = c.snapshot ∧ cgroups w dir = some c
      | .error err => err.is .cgroupGone = true → cgroups w dir = none := by
  have steady : ∀ w, P w → ∀ c', cgroups w dir = some c' → c'.snapshot = c.snapshot :=
    fun w holds c' present => congrArg Cgroup.snapshot (settled w holds c' present)
  refine (files.readSnapshot_steady stable steady).post fun result w known => ⟨known.1, ?_⟩
  cases result with
  | error err => exact known.2
  | ok s =>
      obtain ⟨same, c', present, -⟩ := known.2
      exact ⟨same, settled w known.1 c' present ▸ present⟩

end

end CpuIdle.Kernel
