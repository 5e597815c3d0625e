/-
# Cgroup.Knob — reading and writing one control file of a pod cgroup

`readKnob` and `writeKnob` as programs over the node's requests. A missing file is
`ErrCgroupGone` only when the directory itself turns out to be absent.
-/
import CpuIdle.Cgroup.WriteTarget
import CpuIdle.Node.Signature

namespace CpuIdle.Cgroup

open CpuIdle.Go CpuIdle.Node CpuIdle.Theory

set_option autoImplicit false

def allowedKnob (name : String) : Bool :=
  name ∈ ["cpu.idle", "cpu.weight", "cpu.max", "cpu.max.burst", "cgroup.freeze"]

def errCgroupGone : GoError := ⟨"cgroup: pod cgroup is gone", [.cgroupGone]⟩

def errKnobUnavailable : GoError := ⟨"cgroup: required knob is unavailable", [.knobUnavailable]⟩

def errKnobNotAllowed : GoError := ⟨"cgroup: knob is not allowed", [.knobNotAllowed]⟩

/-- `fmt.Errorf("%w: …", sentinel, …)`. -/
def detail (sentinel : GoError) (text : String) : GoError :=
  ⟨s!"{sentinel.text}: {text}", sentinel.chain⟩

def missingPathError (dir knobPath : String) : Node GoError := do
  match ← ask (.stat dir) with
  | .directory => return detail errKnobUnavailable knobPath
  | .notDirectory => return detail errKnobUnavailable s!"parent {dir} is not a directory"
  | .notExist => return detail errCgroupGone knobPath
  | .failed err => return detail errKnobUnavailable s!"cannot inspect parent {dir}: {err.text}"

section

variable [PrintTable]

/-- The trimmed content of `dir/name`. -/
def readKnob (dir name : String) : Node (Except GoError String) := do
  if !allowedKnob name then
    return .error (detail errKnobNotAllowed (quote name))
  else
    let p := Path.join [dir, name]
    match ← ask (.readFile dir name) with
    | .data content => return .ok (trimSpace content)
    | .notExist => return .error (← missingPathError dir p)
    | .failed err => return .error (err.err.wrap s!"cgroup: read knob {p}")

/-- `none` when the value was written. -/
def writeKnob (root kubepodsName dir name value : String) : Node (Option GoError) := do
  if !allowedKnob name then
    return some (detail errKnobNotAllowed (quote name))
  else
    match guardWriteTarget dir root kubepodsName with
    | some err => return some err
    | none =>
        let p := Path.join [dir, name]
        match ← ask (.writeFile dir name value) with
        | .written => return none
        | .notExist => return some (← missingPathError dir p)
        | .openFailed err => return some (err.err.wrap s!"cgroup: open knob {p}")
        | .closeFailed err => return some (err.err.wrap s!"cgroup: close knob {p}")
        | .writeFailed err => return some (err.err.wrap s!"cgroup: write knob {p}")

end

/-! ## What they tell -/

section

universe u

variable {W : Type u} {A : Arena nodeSignature W} {G : Guarantee nodeSignature W}

/-- What is known after a call that returns the error it met. -/
def afterWrite (done : W → Prop) (failed : GoError → W → Prop) : Option GoError → W → Prop
  | none, w => done w
  | some err, w => failed err w

/-- Only an absent directory makes it `ErrCgroupGone`. -/
theorem missingPathError_holds {P : W → Prop} {dir knobPath : String} (stable : A.Stable P)
    (stat : A.Inert G (.stat dir)) :
    Holds A G P (missingPathError dir knobPath) fun err w =>
      P w ∧ (err.is .cgroupGone = true → A.act w (.stat dir) .notExist w) := by
  refine .bind (.inert stable stat) fun answer => ?_
  cases answer with
  | directory => exact .pure fun w known => ⟨known.1, by simp [detail, errKnobUnavailable, GoError.is]⟩
  | notDirectory =>
      exact .pure fun w known => ⟨known.1, by simp [detail, errKnobUnavailable, GoError.is]⟩
  | notExist => exact .pure fun w known => ⟨known.1, fun _ => known.2⟩
  | failed err => exact .pure fun w known => ⟨known.1, by simp [detail, errKnobUnavailable, GoError.is]⟩

variable [PrintTable]

/-- Reading a knob. Only a read that returned data may have touched the world. -/
theorem readKnob_holds {P : W → Prop} {Q : Except GoError String → W → Prop} {dir name : String}
    (stable : A.Stable P) (stat : A.Inert G (.stat dir))
    (data : ∀ w, P w → ∀ content w', A.act w (.readFile dir name) (.data content) w' →
      G w (.readFile dir name) (.data content) w' ∧ Q (.ok (trimSpace content)) w')
    (nothing : ∀ w, P w → ∀ answer w', A.act w (.readFile dir name) answer w' →
      (∀ content, answer ≠ .data content) → G w (.readFile dir name) answer w' ∧ P w')
    (error : ∀ w err, P w → (err.is .cgroupGone = true → A.act w (.stat dir) .notExist w) →
      Q (.error err) w) :
    Holds A G P (readKnob dir name) Q := by
  unfold readKnob
  refine .ite (fun _ => .pure fun w holds => error w _ holds (by simp [detail, errKnobNotAllowed,
    GoError.is])) fun _ => ?_
  let R : ReadResult → W → Prop := fun answer w =>
    match answer with
    | .data content => Q (.ok (trimSpace content)) w
    | _ => P w
  refine Holds.bind (R := R) (.request stable fun w holds answer w' act => ?_) fun answer => ?_
  · cases answer with
    | data content => exact data w holds content w' act
    | notExist => exact nothing w holds _ w' act nofun
    | failed err => exact nothing w holds _ w' act nofun
  · cases answer with
    | data content => exact .pure fun w known => known
    | notExist =>
        refine .bind (missingPathError_holds stable stat) fun err => ?_
        exact .pure fun w known => error w err known.1 known.2
    | failed err =>
        exact .pure fun w holds => error w _ holds (by simp)

/-- Reading a knob where every read keeps what is known. -/
theorem readKnob_keeps {P : W → Prop} {dir name : String} (stable : A.Stable P)
    (stat : A.Keeps G P (.stat dir)) (read : A.Keeps G P (.readFile dir name)) :
    Holds A G P (readKnob dir name) fun _ w => P w := by
  have inspect : ∀ p, Holds A G P (missingPathError dir p) fun _ w => P w := by
    intro p
    refine .bind (.keeps stable stat) fun answer => ?_
    cases answer with
    | _ => exact .pure fun _ holds => holds
  unfold readKnob
  refine .ite (fun _ => .pure fun _ holds => holds) fun _ => .bind (.keeps stable read) fun answer => ?_
  cases answer with
  | data content => exact .pure fun _ holds => holds
  | notExist => exact .bind (inspect _) fun _ => .pure fun _ holds => holds
  | failed err => exact .pure fun _ holds => holds

/-- Writing a knob. A write that failed leaves what was known. -/
theorem writeKnob_holds {P : W → Prop} {Q : Option GoError → W → Prop}
    {root kubepodsName dir name value : String} (stable : A.Stable P) (stat : A.Inert G (.stat dir))
    (written : ∀ w, P w → ∀ w', A.act w (.writeFile dir name value) .written w' →
      G w (.writeFile dir name value) .written w' ∧ Q none w')
    (refused : ∀ w, P w → ∀ answer w', A.act w (.writeFile dir name value) answer w' →
      answer ≠ .written → G w (.writeFile dir name value) answer w' ∧ P w')
    (error : ∀ w err, P w → (err.is .cgroupGone = true → A.act w (.stat dir) .notExist w) →
      Q (some err) w) :
    Holds A G P (writeKnob root kubepodsName dir name value) Q := by
  unfold writeKnob
  refine .ite (fun _ => .pure fun w holds => error w _ holds (by simp [detail, errKnobNotAllowed,
    GoError.is])) fun _ => ?_
  split
  · rename_i err target
    refine .pure fun w holds => error w _ holds fun gone => ?_
    simp [GoError.is, guardWriteTarget_err target] at gone
  · let R : WriteResult → W → Prop := fun answer w =>
      match answer with
      | .written => Q none w
      | _ => P w
    refine Holds.bind (R := R) (.request stable fun w holds answer w' act => ?_) fun answer => ?_
    · cases answer with
      | written => exact written w holds w' act
      | notExist => exact refused w holds _ w' act nofun
      | openFailed err => exact refused w holds _ w' act nofun
      | closeFailed err => exact refused w holds _ w' act nofun
      | writeFailed err => exact refused w holds _ w' act nofun
    · cases answer with
      | written => exact .pure fun w known => known
      | notExist =>
          refine .bind (missingPathError_holds stable stat) fun err => ?_
          exact .pure fun w known => error w err known.1 known.2
      | openFailed err => exact .pure fun w holds => error w _ holds (by simp)
      | closeFailed err => exact .pure fun w holds => error w _ holds (by simp)
      | writeFailed err => exact .pure fun w holds => error w _ holds (by simp)

/-- Reading a knob that cannot fail to be read. -/
theorem readKnob_succeeds {P : W → Prop} {Q : Except GoError String → W → Prop} {dir name : String}
    (allowed : allowedKnob name = true) (stable : A.Stable P)
    (data : ∀ w, P w → ∀ answer w', A.act w (.readFile dir name) answer w' →
      G w (.readFile dir name) answer w' ∧
        ∃ content, answer = ReadResult.data content ∧ Q (.ok (trimSpace content)) w') :
    Holds A G P (readKnob dir name) Q := by
  unfold readKnob
  refine .ite (fun refused => by simp [allowed] at refused) fun _ => ?_
  refine .bind (.request (Q := fun answer w => ∃ content, answer = ReadResult.data content ∧
    Q (.ok (trimSpace content)) w) stable data) fun answer => ?_
  rintro w ⟨content, rfl, known⟩
  exact known

/-- Writing a knob that cannot fail to be written. -/
theorem writeKnob_succeeds {P : W → Prop} {Q : Option GoError → W → Prop}
    {root kubepodsName dir name value : String} (allowed : allowedKnob name = true)
    (target : guardWriteTarget dir root kubepodsName = none) (stable : A.Stable P)
    (written : ∀ w, P w → ∀ answer w', A.act w (.writeFile dir name value) answer w' →
      G w (.writeFile dir name value) answer w' ∧ answer = WriteResult.written ∧ Q none w') :
    Holds A G P (writeKnob root kubepodsName dir name value) Q := by
  unfold writeKnob
  refine .ite (fun refused => by simp [allowed] at refused) fun _ => ?_
  simp only [target]
  refine .bind (.request (Q := fun answer w => answer = WriteResult.written ∧ Q none w) stable written)
    fun answer => ?_
  rintro w ⟨rfl, known⟩
  exact known

end

end CpuIdle.Cgroup
