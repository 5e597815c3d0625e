/-
# Guard.Rules — what each operation of the guard does, once

One rule for each operation, over any arena: its premises are what the arena's
answers establish, its conclusion a triple. The control flow of the guard is walked
here and nowhere else; a property of the guard is an instance of these rules.

* `PatchRule`, `patchMarker_holds`: read, compare, patch;
* `RestoreRule`, `restorePod_holds`: read the knob, write it back, clear the marker;
* `SuppressRule`, `suppressPod_holds`: read the knob, set the marker, freeze.
-/
import CpuIdle.Guard.Ownership

namespace CpuIdle.Guard

open CpuIdle.Go CpuIdle.Kube CpuIdle.Node CpuIdle.Theory CpuIdle.Cgroup CpuIdle.Observe

set_option autoImplicit false

universe u

variable {W : Type u} {A : Arena nodeSignature W} {G : Guarantee nodeSignature W}

/-! ## The marker patch -/

/-- `P` is known throughout, `F current` once `current` has been read. -/
structure PatchRule [PrintTable] (A : Arena nodeSignature W) (G : Guarantee nodeSignature W) (pod : Pod)
    (value : String) (clear : Bool) (expected : Option PersistedState) (expectedRaw : String)
    (P : W → Prop) (F : Pod → W → Prop) (Q : Option GoError → W → Prop) : Prop where
  stable : A.Stable P
  stable_read : ∀ current, A.Stable (F current)
  read_known : ∀ current w, F current w → P w
  get : ∀ w, P w → ∀ answer w', A.act w (.getPod pod.ns pod.name) answer w' →
    G w (.getPod pod.ns pod.name) answer w' ∧ P w' ∧
      (∀ current, answer = GetResult.found current → F current w') ∧
      (answer = GetResult.notFound → clear = true → Q none w')
  send : ∀ current w, F current w → current.uid = pod.uid →
    markerMatches (current.annotationAt Annotations.guardStateKey) clear expected expectedRaw = true →
    ∀ answer w', A.act w (.patchPod pod.ns pod.name (markerPatch current value clear)) answer w' →
      G w (.patchPod pod.ns pod.name (markerPatch current value clear)) answer w' ∧
        (answer = PatchResult.patched → Q none w') ∧
        (answer = PatchResult.notFound → clear = true → Q none w') ∧
        (answer ≠ PatchResult.patched → ∀ err, Q (some err) w')
  replaced : ∀ current w, F current w → current.uid ≠ pod.uid → clear = true → Q none w
  already : ∀ current w, F current w → current.uid = pod.uid → clear = true →
    current.annotationAt Annotations.guardStateKey = "" → Q none w
  error : ∀ err w, P w → Q (some err) w

theorem patchMarker_holds [PrintTable] {pod : Pod} {value : String} {clear : Bool}
    {expected : Option PersistedState} {expectedRaw : String} {P : W → Prop} {F : Pod → W → Prop}
    {Q : Option GoError → W → Prop}
    (rule : PatchRule A G pod value clear expected expectedRaw P F Q) :
    Holds A G P (patchMarker pod value clear expected expectedRaw) Q := by
  unfold patchMarker
  let R : GetResult → W → Prop := fun answer w => P w ∧
    (∀ current, answer = .found current → F current w) ∧ (answer = .notFound → clear = true → Q none w)
  refine Holds.bind (R := R) (.request rule.stable rule.get) fun answer => ?_
  cases answer with
  | notFound =>
      refine .pure fun w known => ?_
      cases clear with
      | true => exact known.2.2 rfl rfl
      | false => exact rule.error _ w known.1
  | failed err => exact .pure fun w known => rule.error _ w known.1
  | found current =>
      refine Holds.pre (P := F current) ?_ fun w known => known.2.1 current rfl
      refine .ite (fun replaced => .pure fun w known => ?_) fun sameUID => ?_
      · cases clear with
        | true => exact rule.replaced current w known replaced rfl
        | false => exact rule.error _ w (rule.read_known current w known)
      refine .ite (fun already => .pure fun w known => ?_) fun _ => ?_
      · simp only [Bool.and_eq_true, decide_eq_true_eq] at already
        exact rule.already current w known (not_not.mp sameUID) already.1 already.2
      refine .ite (fun _ => .pure fun w known => rule.error _ w (rule.read_known current w known))
        fun found => ?_
      simp only [Bool.not_eq_true, Bool.not_eq_false'] at found
      let R' : PatchResult → W → Prop := fun answer w => (answer = .patched → Q none w) ∧
        (answer = .notFound → clear = true → Q none w) ∧ (answer ≠ .patched → ∀ err, Q (some err) w)
      refine Holds.bind (R := R') (.request (rule.stable_read current) fun w known =>
        rule.send current w known (not_not.mp sameUID) found) fun answer => ?_
      cases answer with
      | patched => exact .pure fun w known => known.1 rfl
      | notFound =>
          refine .pure fun w known => ?_
          cases clear with
          | true => exact known.2.1 rfl rfl
          | false => exact known.2.2 nofun _
      | failed err => exact .pure fun w known => known.2.2 nofun _

/-! ## One pod -/

theorem erase_empty (uid : String) : (∅ : Owned).erase uid = ∅ := by
  refine Finmap.ext_lookup fun other => ?_
  by_cases same : other = uid
  · rw [same, Finmap.lookup_erase, Finmap.lookup_empty]
  · rw [Finmap.lookup_erase_ne same]

theorem forget_empty (pod : Pod) (err : GoError) : forgetConflictedOwnership ∅ pod err = ∅ := by
  unfold forgetConflictedOwnership
  split
  · exact erase_empty pod.uid
  · rfl

/-- What is known after a read. -/
def afterRead (shown : String → W → Prop) (failed : GoError → W → Prop) :
    Except GoError String → W → Prop
  | .ok value, w => shown value w
  | .error err, w => failed err w

/-- What holds at each point of `restorePod`: `P` at its start, `L` past the first check, `S dir` once
the knob read the suppressed value, `C dir` past the second check, `D dir` after a write that
succeeded, `F dir err` after one that failed, `N changed` before the marker is cleared. -/
structure RestoreSteps [PrintTable] [Qos.ResourceHelper] (A : Arena nodeSignature W)
    (G : Guarantee nodeSignature W) (cfg : Config) (owned : Owned) (pod : Pod) (state : PersistedState)
    (P L : W → Prop) (N : Bool → W → Prop) (S C D : String → W → Prop)
    (F : String → GoError → W → Prop) (Q : Bool × Option GoError × Owned → W → Prop) : Prop where
  check : Holds A G P ctxErr fun cancelled w =>
    if cancelled then Q (false, some canceled, owned) w else L w
  failed : ∀ err w, L w → Q (false, some err, owned) w
  read : validateState state = none → ∀ dir, podDir cfg pod = .ok dir →
    Holds A G L (readKnob dir state.knob) (afterRead
      (fun current w => (current ≠ state.suppressed → N false w) ∧ (current = state.suppressed → S dir w))
      fun err w => (err.is .cgroupGone = true → N false w) ∧
        (err.is .cgroupGone = false → Q (false, some err, owned) w))
  distrusted : ∀ dir err w, S dir w → Q (false, some err, owned) w
  recheck : ∀ dir, podDir cfg pod = .ok dir → Holds A G (S dir) ctxErr fun cancelled w =>
    if cancelled then Q (false, some canceled, owned) w else C dir w
  write : validateState state = none →
    (state.version = legacyGuardStateVersion → mayRestoreUnbounded owned pod state = true) →
    ∀ dir, podDir cfg pod = .ok dir → Holds A G (C dir)
      (writeKnob cfg.layout.root cfg.layout.kubepodsName dir state.knob state.restore)
      (afterWrite (D dir) (F dir))
  refused : ∀ dir err, podDir cfg pod = .ok dir →
    Holds A G (F dir err) (reportRejected cfg pod state.knob err)
      fun _ w => Q (false, some (err.wrap s!"guard: restore {pod.path}"), owned) w
  traced : ∀ dir, podDir cfg pod = .ok dir →
    Holds A G (D dir) (idleRestored cfg.nodeName pod state.knob) fun _ w => N true w
  clear : validateState state = none → ∀ changed, Holds A G (N changed) (clearMarker pod state)
    (afterWrite (Q (changed, none, owned.erase pod.uid))
      fun err => Q (changed, some err, forgetConflictedOwnership owned pod err))

theorem restorePod_steps [PrintTable] [Qos.ResourceHelper] {cfg : Config} {owned : Owned} {pod : Pod}
    {state : PersistedState} {P L : W → Prop} {N : Bool → W → Prop} {S C D : String → W → Prop}
    {F : String → GoError → W → Prop} {Q : Bool × Option GoError × Owned → W → Prop}
    (steps : RestoreSteps A G cfg owned pod state P L N S C D F Q) :
    Holds A G P (restorePod cfg owned pod state) Q := by
  unfold restorePod
  refine .bind steps.check fun cancelled => ?_
  refine .ite (fun isCancelled => .pure fun w known => by simpa [isCancelled] using known)
    fun live => .pre (P := L) ?_ fun w known => by simpa [live] using known
  cases valid : validateState state with
  | some err => exact .pure fun w known => steps.failed _ w known
  | none =>
  have relinquishes : ∀ changed, Holds A G (N changed) (relinquish owned pod state changed) Q := by
    intro changed
    refine .bind (steps.clear valid changed) fun result => ?_
    cases result with
    | none => exact .pure fun w known => known
    | some err => exact .pure fun w known => known
  cases computed : podDir cfg pod with
  | error err => exact .pure fun w known => steps.failed _ w known
  | ok dir =>
  refine .bind (steps.read valid dir computed) fun result => ?_
  cases result with
  | error err =>
      refine .ite (fun gone => .pre (relinquishes false) fun w known => known.1 gone) fun there => ?_
      exact .pure fun w known => known.2 (by simpa using there)
  | ok current =>
      refine .ite (fun differs => .pre (relinquishes false) fun w known => known.1 differs)
        fun same => .pre (P := S dir) ?_ fun w known => known.2 (not_not.mp same)
      refine .ite (fun _ => .pure fun w known => steps.distrusted dir _ w known) fun trusted => ?_
      have may : state.version = legacyGuardStateVersion →
          mayRestoreUnbounded owned pod state = true := by
        intro legacy
        simpa [legacy] using trusted
      refine .bind (steps.recheck dir computed) fun cancelled => ?_
      refine .ite (fun isCancelled => .pure fun w known => by simpa [isCancelled] using known)
        fun live => .pre (P := C dir) ?_ fun w known => by simpa [live] using known
      refine .bind (steps.write valid may dir computed) fun result => ?_
      cases result with
      | some err => exact .bind (steps.refused dir err computed) fun _ => .pure fun w known => known
      | none => exact .bind (steps.traced dir computed) fun _ => relinquishes true

/-- `P` before the knob is read, `S dir` once it read the suppressed value, `N` once the
marker may be cleared. -/
structure RestoreRule [PrintTable] [Qos.ResourceHelper] (A : Arena nodeSignature W)
    (G : Guarantee nodeSignature W) (cfg : Config) (owned : Owned) (pod : Pod) (state : PersistedState)
    (P N : W → Prop) (S : String → W → Prop) (Q : Bool × Option GoError × Owned → W → Prop) :
    Prop where
  ctx : A.Inert G .ctxErr
  stat : ∀ dir, A.Inert G (.stat dir)
  silent : Silent A G P
  silent_cleared : Silent A G N
  stable_read : ∀ dir, A.Stable (S dir)
  read : validateState state = none → ∀ dir, podDir cfg pod = .ok dir → ∀ w, P w → ∀ content w',
    A.act w (.readFile dir state.knob) (.data content) w' →
      G w (.readFile dir state.knob) (.data content) w' ∧
        (trimSpace content ≠ state.suppressed → N w') ∧ (trimSpace content = state.suppressed → S dir w')
  unread : ∀ dir w, P w → ∀ answer w', A.act w (.readFile dir state.knob) answer w' →
    (∀ content, answer ≠ .data content) → G w (.readFile dir state.knob) answer w' ∧ P w'
  gone : validateState state = none → ∀ dir, podDir cfg pod = .ok dir → ∀ w, P w →
    A.act w (.stat dir) .notExist w → N w
  write : validateState state = none →
    (state.version = legacyGuardStateVersion → mayRestoreUnbounded owned pod state = true) →
    ∀ dir, podDir cfg pod = .ok dir → ∀ w, S dir w → ∀ w',
      A.act w (.writeFile dir state.knob state.restore) .written w' →
        G w (.writeFile dir state.knob state.restore) .written w' ∧ N w'
  refused : validateState state = none →
    (state.version = legacyGuardStateVersion → mayRestoreUnbounded owned pod state = true) →
    ∀ dir, podDir cfg pod = .ok dir → ∀ w, S dir w → ∀ answer w',
      A.act w (.writeFile dir state.knob state.restore) answer w' → answer ≠ .written →
        G w (.writeFile dir state.knob state.restore) answer w' ∧ S dir w'
  read_known : ∀ dir w, S dir w → P w
  clear : validateState state = none → ∀ changed, Holds A G N (clearMarker pod state)
    (afterWrite (Q (changed, none, owned.erase pod.uid))
      fun err => Q (changed, some err, forgetConflictedOwnership owned pod err))
  failed : ∀ err w, P w → Q (false, some err, owned) w

section

variable [PrintTable]

omit [PrintTable] in
theorem reportRejected_holds {P : W → Prop} (silent : Silent A G P) (cfg : Config) (pod : Pod)
    (knob : String) (err : GoError) : Holds A G P (reportRejected cfg pod knob err) fun _ w => P w :=
  silent.record _ _ _ _ _ _ _

variable [Qos.ResourceHelper]

/-- One assertion up to the write, whatever the context says. -/
theorem RestoreRule.steps {cfg : Config} {owned : Owned} {pod : Pod} {state : PersistedState}
    {P N : W → Prop} {S : String → W → Prop} {Q : Bool × Option GoError × Owned → W → Prop}
    (rule : RestoreRule A G cfg owned pod state P N S Q) :
    RestoreSteps A G cfg owned pod state P P (fun _ => N) S S (fun _ => N) (fun _ _ => P) Q where
  check := by
    refine (Holds.keeps rule.silent.stable (rule.ctx.keeps _)).post fun cancelled w known => ?_
    split
    · exact rule.failed _ w known
    · exact known
  failed := rule.failed
  read valid dir computed := readKnob_holds rule.silent.stable (rule.stat dir)
    (rule.read valid dir computed) (rule.unread dir) fun w err holds gone =>
      ⟨fun isGone => rule.gone valid dir computed w holds (gone isGone), fun _ => rule.failed _ w holds⟩
  distrusted dir err w known := rule.failed err w (rule.read_known dir w known)
  recheck dir _ := by
    refine (Holds.keeps (rule.stable_read dir) (rule.ctx.keeps _)).post fun cancelled w known => ?_
    split
    · exact rule.failed _ w (rule.read_known dir w known)
    · exact known
  write valid may dir computed := writeKnob_holds (rule.stable_read dir) (rule.stat dir)
    (rule.write valid may dir computed) (rule.refused valid may dir computed)
    fun w err known _ => rule.read_known dir w known
  refused dir err _ := (reportRejected_holds rule.silent cfg pod state.knob err).post
    fun _ w holds => rule.failed _ w holds
  traced _ _ := rule.silent_cleared.record _ _ _ _ _ _ _
  clear := rule.clear

theorem restorePod_holds {cfg : Config} {owned : Owned} {pod : Pod} {state : PersistedState}
    {P N : W → Prop} {S : String → W → Prop} {Q : Bool × Option GoError × Owned → W → Prop}
    (rule : RestoreRule A G cfg owned pod state P N S Q) :
    Holds A G P (restorePod cfg owned pod state) Q :=
  restorePod_steps rule.steps

end

/-- The end of `suppressPod`: `P` until the knob is written. -/
structure FreezeRule (A : Arena nodeSignature W) (G : Guarantee nodeSignature W) (owned : Owned)
    (dir : String) (state : PersistedState) (P : W → Prop) (Q : Option GoError × Owned → W → Prop) :
    Prop where
  ctx : A.Inert G .ctxErr
  stat : A.Inert G (.stat dir)
  silent : Silent A G P
  silent_done : Silent A G (Q (none, owned))
  write : ∀ w, P w → ∀ w', A.act w (.writeFile dir state.knob state.suppressed) .written w' →
    G w (.writeFile dir state.knob state.suppressed) .written w' ∧ Q (none, owned) w'
  refused : ∀ w, P w → ∀ answer w', A.act w (.writeFile dir state.knob state.suppressed) answer w' →
    answer ≠ .written → G w (.writeFile dir state.knob state.suppressed) answer w' ∧ P w'
  ended : ∀ err w, P w → Q (err, owned) w

/-- `P` before the knob is read, `L dir` once it read `0` on an unmarked pod, `M dir`
once the marker is set. -/
structure SuppressRule [PrintTable] (A : Arena nodeSignature W) (G : Guarantee nodeSignature W)
    (cfg : Config) (owned : Owned) (pod : Pod) (P : W → Prop) (L M : String → W → Prop)
    (Q : Option GoError × Owned → W → Prop) : Prop where
  ctx : A.Inert G .ctxErr
  stat : ∀ dir, A.Inert G (.stat dir)
  stable : A.Stable P
  read : ∀ dir, podDir cfg pod = .ok dir → ∀ w, P w → ∀ content w',
    A.act w (.readFile dir suppressionKnob) (.data content) w' →
      G w (.readFile dir suppressionKnob) (.data content) w' ∧ P w' ∧
        (trimSpace content = "0" → stateForPod owned pod = .ok none → L dir w')
  unread : ∀ dir w, P w → ∀ answer w', A.act w (.readFile dir suppressionKnob) answer w' →
    (∀ content, answer ≠ .data content) → G w (.readFile dir suppressionKnob) answer w' ∧ P w'
  set : ∀ dir, podDir cfg pod = .ok dir → stateForPod owned pod = .ok none →
    Holds A G (L dir) (setMarker pod freezeState) (afterWrite (M dir) fun err => Q (some err, owned))
  fresh : ∀ dir, podDir cfg pod = .ok dir → stateForPod owned pod = .ok none →
    FreezeRule A G (owned.insert pod.uid ⟨pod, freezeState, true⟩) dir freezeState (M dir) Q
  marked : ∀ dir state, podDir cfg pod = .ok dir → stateForPod owned pod = .ok (some state) →
    state.knob = suppressionKnob → FreezeRule A G owned dir state P Q
  ended : ∀ err w, P w → Q (err, owned) w

section

variable [PrintTable]

/-- What holds at each point of `suppressWrite`: `P` at its start, `C` past the check, `D` after a
write that succeeded, `F err` after one that failed. -/
structure FreezeSteps (A : Arena nodeSignature W) (G : Guarantee nodeSignature W) (cfg : Config)
    (owned : Owned) (pod : Pod) (dir current : String) (state : PersistedState) (P C D : W → Prop)
    (F : GoError → W → Prop) (Q : Option GoError × Owned → W → Prop) : Prop where
  already : current = state.suppressed → ∀ w, P w → Q (none, owned) w
  check : current ≠ state.suppressed → Holds A G P ctxErr fun cancelled w =>
    if cancelled then Q (some canceled, owned) w else C w
  write : Holds A G C
    (writeKnob cfg.layout.root cfg.layout.kubepodsName dir state.knob state.suppressed) (afterWrite D F)
  refused : ∀ err, Holds A G (F err) (reportRejected cfg pod state.knob err)
    fun _ w => Q (some (err.wrap s!"guard: suppress {pod.path}"), owned) w
  traced : Holds A G D (idleSuppressed cfg.nodeName pod state.knob) fun _ w => Q (none, owned) w

theorem suppressWrite_steps {cfg : Config} {owned : Owned} {pod : Pod} {dir current : String}
    {state : PersistedState} {P C D : W → Prop} {F : GoError → W → Prop}
    {Q : Option GoError × Owned → W → Prop}
    (steps : FreezeSteps A G cfg owned pod dir current state P C D F Q) :
    Holds A G P (suppressWrite cfg owned pod dir current state) Q := by
  unfold suppressWrite
  refine .ite (fun same => .pure fun w known => steps.already same w known) fun differs => ?_
  refine .bind (steps.check differs) fun cancelled => ?_
  refine .ite (fun isCancelled => .pure fun w known => by simpa [isCancelled] using known)
    fun live => .pre (P := C) ?_ fun w known => by simpa [live] using known
  refine .bind steps.write fun result => ?_
  cases result with
  | none => exact .bind steps.traced fun _ => .pure fun w known => known
  | some err => exact .bind (steps.refused err) fun _ => .pure fun w known => known

theorem FreezeRule.steps {cfg : Config} {owned : Owned} {pod : Pod} {dir current : String}
    {state : PersistedState} {P : W → Prop} {Q : Option GoError × Owned → W → Prop}
    (rule : FreezeRule A G owned dir state P Q) :
    FreezeSteps A G cfg owned pod dir current state P P (Q (none, owned)) (fun _ => P) Q where
  already _ w known := rule.ended none w known
  check _ := by
    refine (Holds.keeps rule.silent.stable (rule.ctx.keeps _)).post fun cancelled w known => ?_
    split
    · exact rule.ended _ w known
    · exact known
  write := writeKnob_holds rule.silent.stable rule.stat rule.write rule.refused fun w err holds _ => holds
  refused err := (reportRejected_holds rule.silent cfg pod state.knob err).post
    fun _ w holds => rule.ended _ w holds
  traced := rule.silent_done.record _ _ _ _ _ _ _

/-- What holds at each point of `suppressPod`: `P` at its start, `L` past the check, `R dir current`
once the knob was read, `M dir` once the marker is set. -/
structure SuppressSteps (A : Arena nodeSignature W) (G : Guarantee nodeSignature W) (cfg : Config)
    (owned : Owned) (pod : Pod) (P L : W → Prop) (R : String → String → W → Prop)
    (M : String → W → Prop) (Q : Option GoError × Owned → W → Prop) : Prop where
  check : Holds A G P ctxErr fun cancelled w => if cancelled then Q (some canceled, owned) w else L w
  noDir : ∀ err, podDir cfg pod = .error err → ∀ w, L w → Q (some err, owned) w
  read : ∀ dir, podDir cfg pod = .ok dir → Holds A G L (readKnob dir suppressionKnob)
    (afterRead (R dir) fun err => Q (some err, owned))
  undecoded : ∀ dir current err, stateForPod owned pod = .error err → ∀ w, R dir current w →
    Q (some err, owned) w
  skipped : ∀ dir current, stateForPod owned pod = .ok none → current ≠ "0" → ∀ w, R dir current w →
    Q (none, owned) w
  foreign : ∀ dir current state, stateForPod owned pod = .ok (some state) →
    state.knob ≠ suppressionKnob ∨ (current ≠ state.restore ∧ current ≠ state.suppressed) →
    ∀ w, R dir current w → Q (none, owned) w
  set : ∀ dir, podDir cfg pod = .ok dir → stateForPod owned pod = .ok none →
    Holds A G (R dir "0") (setMarker pod freezeState)
      (afterWrite (M dir) fun err => Q (some err, owned))
  fresh : ∀ dir, podDir cfg pod = .ok dir → stateForPod owned pod = .ok none →
    Holds A G (M dir) (suppressWrite cfg (owned.insert pod.uid ⟨pod, freezeState, true⟩) pod dir "0"
      freezeState) Q
  marked : ∀ dir current state, podDir cfg pod = .ok dir → stateForPod owned pod = .ok (some state) →
    state.knob = suppressionKnob → current = state.restore ∨ current = state.suppressed →
    Holds A G (R dir current) (suppressWrite cfg owned pod dir current state) Q

theorem suppressPod_steps {cfg : Config} {owned : Owned} {pod : Pod} {P L : W → Prop}
    {R : String → String → W → Prop} {M : String → W → Prop} {Q : Option GoError × Owned → W → Prop}
    (steps : SuppressSteps A G cfg owned pod P L R M Q) :
    Holds A G P (suppressPod cfg owned pod) Q := by
  unfold suppressPod
  refine .bind steps.check fun cancelled => ?_
  refine .ite (fun isCancelled => .pure fun w known => by simpa [isCancelled] using known)
    fun live => .pre (P := L) ?_ fun w known => by simpa [live] using known
  cases computed : podDir cfg pod with
  | error err => exact .pure fun w known => steps.noDir err computed w known
  | ok dir =>
  refine .bind (steps.read dir computed) fun result => ?_
  cases result with
  | error err => exact .pure fun w known => known
  | ok current =>
  cases held : stateForPod owned pod with
  | error err => exact .pure fun w known => steps.undecoded dir current err held w known
  | ok marked =>
  cases marked with
  | none =>
      refine .ite (fun nonzero => .pure fun w known => steps.skipped dir current held nonzero w known)
        fun isZero => ?_
      obtain rfl : current = "0" := not_not.mp isZero
      refine .ite (fun frozen => absurd frozen (by decide)) fun _ => ?_
      have valid : validateState ⟨guardStateVersion, suppressionKnob, "0", suppressedValue⟩ = none :=
        validateState_none.mpr (.inl rfl)
      simp only [valid]
      refine .bind (steps.set dir computed held) fun result => ?_
      cases result with
      | some err => exact .pure fun w known => known
      | none => exact steps.fresh dir computed held
  | some state =>
      refine .ite (fun foreign => .pure fun w known => steps.foreign dir current state held foreign w known)
        fun ours => ?_
      rw [not_or, not_not] at ours
      refine steps.marked dir current state computed held ours.1 ?_
      by_cases thawed : current = state.restore
      · exact .inl thawed
      · exact .inr (not_not.mp fun differs => ours.2 ⟨thawed, differs⟩)

/-- One assertion until the marker is set, whatever the context says. -/
theorem SuppressRule.steps {cfg : Config} {owned : Owned} {pod : Pod} {P : W → Prop}
    {L M : String → W → Prop} {Q : Option GoError × Owned → W → Prop}
    (rule : SuppressRule A G cfg owned pod P L M Q) :
    SuppressSteps A G cfg owned pod P P
      (fun dir current w => P w ∧ (current = "0" → stateForPod owned pod = .ok none → L dir w)) M Q where
  check := by
    refine (Holds.keeps rule.stable (rule.ctx.keeps _)).post fun cancelled w known => ?_
    split
    · exact rule.ended _ w known
    · exact known
  noDir err _ w known := rule.ended _ w known
  read dir computed := readKnob_holds rule.stable (rule.stat dir) (rule.read dir computed)
    (rule.unread dir) fun w err holds _ => rule.ended _ w holds
  undecoded _ _ err _ w known := rule.ended _ w known.1
  skipped _ _ _ _ w known := rule.ended _ w known.1
  foreign _ _ _ _ _ w known := rule.ended _ w known.1
  set dir computed unmarked := .pre (rule.set dir computed unmarked) fun w known => known.2 rfl unmarked
  fresh dir computed unmarked := suppressWrite_steps (rule.fresh dir computed unmarked).steps
  marked dir current state computed held knob _ :=
    .pre (suppressWrite_steps (rule.marked dir state computed held knob).steps) fun w known => known.1

theorem suppressPod_holds {cfg : Config} {owned : Owned} {pod : Pod} {P : W → Prop}
    {L M : String → W → Prop} {Q : Option GoError × Owned → W → Prop}
    (rule : SuppressRule A G cfg owned pod P L M Q) :
    Holds A G P (suppressPod cfg owned pod) Q :=
  suppressPod_steps rule.steps

end

/-! ## All pods -/

section

variable [PrintTable]

theorem actualFreezeAllowsSuppression_holds {cfg : Config} {pod : Pod} {marked : Option PersistedState}
    {P : W → Prop} (stable : A.Stable P) (stat : ∀ dir, A.Inert G (.stat dir))
    (read : ∀ dir, podDir cfg pod = .ok dir → A.Keeps G P (.readFile dir "cgroup.freeze")) :
    Holds A G P (actualFreezeAllowsSuppression cfg pod marked) fun _ w => P w := by
  unfold actualFreezeAllowsSuppression
  cases computed : podDir cfg pod with
  | error err => exact .pure fun w holds => holds
  | ok dir =>
  refine .bind (readKnob_keeps stable ((stat dir).keeps P) (read dir computed)) fun result => ?_
  cases result with
  | error err => exact .pure fun w holds => holds
  | ok current =>
      refine .ite (fun _ => .pure fun w holds => holds) fun _ => ?_
      cases marked with
      | none => exact .pure fun w holds => holds
      | some state =>
          exact .ite (fun _ => .pure fun w holds => holds) fun _ => .pure fun w holds => holds

variable [Qos.ResourceHelper]

/-- `J owned eligible restored` around each round of the first loop of `converge`. -/
structure ConvergeRule (A : Arena nodeSignature W) (G : Guarantee nodeSignature W) (cfg : Config)
    (hot : Bool) (candidateUIDs : List String) (pods : List Pod)
    (J : Owned → List Pod → List String → W → Prop) : Prop where
  stat : ∀ dir, A.Inert G (.stat dir)
  stable : ∀ owned eligible restored, A.Stable (J owned eligible restored)
  read : ∀ owned eligible restored, ∀ pod ∈ pods, ∀ dir, podDir cfg pod = .ok dir →
    A.Keeps G (J owned eligible restored) (.readFile dir "cgroup.freeze")
  invalid : ∀ pod ∈ pods, ∀ owned eligible restored err, stateForPod owned pod = .error err →
    Holds A G (J owned eligible restored)
      (clearInvalidMarker pod (pod.annotationAt Annotations.guardStateKey))
      fun _ w => J owned eligible restored w
  eligible : ∀ pod ∈ pods, ∀ owned eligible restored marked w, hot = true →
    pod.uid ∈ candidateUIDs → stateForPod owned pod = .ok marked →
    J owned eligible restored w → J owned (eligible ++ [pod]) restored w
  restore : ∀ pod ∈ pods, ∀ owned eligible restored state, stateForPod owned pod = .ok (some state) →
    Holds A G (J owned eligible restored) (restorePod cfg owned pod state)
      fun result w => J result.2.2 eligible (pod.uid :: restored) w

theorem eligibility_holds {cfg : Config} {hot : Bool} {candidateUIDs : List String} {pods : List Pod}
    {J : Owned → List Pod → List String → W → Prop}
    (rule : ConvergeRule A G cfg hot candidateUIDs pods J) {pod : Pod} (member : pod ∈ pods)
    {owned : Owned} {eligible : List Pod} {restored : List String} (marked : Option PersistedState) :
    Holds A G (J owned eligible restored) (eligibility cfg hot candidateUIDs pod marked)
      fun result w => (result.1 = true → hot = true ∧ pod.uid ∈ candidateUIDs) ∧
        J owned eligible restored w := by
  unfold eligibility
  refine .ite (fun checked => ?_) fun _ => .pure fun w holds => ⟨by simp, holds⟩
  refine .bind (actualFreezeAllowsSuppression_holds (rule.stable _ _ _) rule.stat
    (rule.read owned eligible restored pod member)) fun result => ?_
  cases result with
  | ok isEligible => exact .pure fun w holds => ⟨fun _ => ⟨checked.1, checked.2.1⟩, holds⟩
  | error err =>
      exact .ite (fun _ => .pure fun w holds => ⟨by simp, holds⟩) fun _ =>
        .pure fun w holds => ⟨by simp, holds⟩

theorem convergePod_holds {cfg : Config} {hot : Bool} {candidateUIDs : List String} {pods : List Pod}
    {J : Owned → List Pod → List String → W → Prop}
    (rule : ConvergeRule A G cfg hot candidateUIDs pods J) {pod : Pod} (member : pod ∈ pods)
    (pass : Pass) : Holds A G (J pass.owned pass.eligible pass.restoredThisPass)
      (convergePod cfg hot candidateUIDs pod pass)
      fun pass' w => J pass'.owned pass'.eligible pass'.restoredThisPass w := by
  unfold convergePod
  cases held : stateForPod pass.owned pod with
  | error err =>
      exact .bind (rule.invalid pod member _ _ _ err held) fun _ => .pure fun w holds => holds
  | ok marked =>
      refine .bind (eligibility_holds rule member marked) fun result => ?_
      obtain ⟨isEligible, errs⟩ := result
      have admitted : Holds A G (fun w => (isEligible = true → hot = true ∧ pod.uid ∈ candidateUIDs) ∧
          J pass.owned pass.eligible pass.restoredThisPass w)
          (if isEligible then
            pure ⟨pass.owned, pass.eligible ++ [pod], pass.restoredThisPass, pass.errs ++ errs⟩
          else pure ⟨pass.owned, pass.eligible, pass.restoredThisPass, pass.errs ++ errs⟩ : Node Pass)
          fun pass' w => J pass'.owned pass'.eligible pass'.restoredThisPass w := by
        refine .ite (fun isEligible => .pure fun w known => ?_) fun _ => .pure fun w known => known.2
        obtain ⟨isHot, candidate⟩ := known.1 isEligible
        exact rule.eligible pod member _ _ _ marked w isHot candidate held known.2
      cases marked with
      | none => exact admitted
      | some state =>
          refine .ite (fun _ => ?_) fun _ => admitted
          refine .bind (.pre (rule.restore pod member _ _ _ state held) fun w known => known.2)
            fun result => ?_
          exact .pure fun w holds => holds

/-- The first loop of `converge`. -/
theorem convergePods_holds {cfg : Config} {hot : Bool} {candidateUIDs : List String} {pods : List Pod}
    {J : Owned → List Pod → List String → W → Prop}
    (rule : ConvergeRule A G cfg hot candidateUIDs pods J) (pass : Pass) :
    Holds A G (J pass.owned pass.eligible pass.restoredThisPass)
      (convergePods cfg hot candidateUIDs pods pass)
      fun pass' w => J pass'.owned pass'.eligible pass'.restoredThisPass w := by
  have suffixes : ∀ rest, rest ⊆ pods → ∀ pass : Pass,
      Holds A G (J pass.owned pass.eligible pass.restoredThisPass)
        (convergePods cfg hot candidateUIDs rest pass)
        fun pass' w => J pass'.owned pass'.eligible pass'.restoredThisPass w := by
    intro rest
    induction rest with
    | nil => exact fun _ pass => .pure fun w holds => holds
    | cons pod rest ih =>
        intro inside pass
        rw [List.cons_subset] at inside
        exact .bind (convergePod_holds rule inside.1 pass) fun pass' => ih inside.2 pass'
  exact suffixes pods (List.Subset.refl _) pass

omit [Qos.ResourceHelper] in
/-- The second loop of `converge`. -/
theorem suppressPods_holds {cfg : Config} {restored : List String} {pods : List Pod}
    {J : Owned → W → Prop}
    (each : ∀ pod ∈ pods, pod.uid ∉ restored → ∀ owned,
      Holds A G (J owned) (suppressPod cfg owned pod) fun result w => J result.2 w)
    (owned : Owned) (errs : List GoError) :
    Holds A G (J owned) (suppressPods cfg restored pods owned errs) fun result w => J result.2 w := by
  induction pods generalizing owned errs with
  | nil => exact .pure fun w holds => holds
  | cons pod rest ih =>
      have later := ih fun p member => each p (by simp [member])
      refine .ite (fun _ => later owned errs) fun fresh => ?_
      exact .bind (each pod (by simp) fresh owned) fun result => later _ _

theorem restoreUnseen_holds {cfg : Config} {seen : List String} {J : List GoError → Owned → W → Prop}
    (each : ∀ uid own errs owned, owned.lookup uid = some own → uid ∉ seen →
      Holds A G (J errs owned) (restorePod cfg owned own.pod own.state)
        fun result w => J (errs ++ result.2.1.toList) result.2.2 w)
    (uids : List String) (owned : Owned) (errs : List GoError) :
    Holds A G (J errs owned) (restoreUnseen cfg seen uids owned errs)
      fun result w => J result.1 result.2 w := by
  induction uids generalizing owned errs with
  | nil => exact .pure fun w holds => holds
  | cons uid rest ih =>
      unfold restoreUnseen
      cases recorded : owned.lookup uid with
      | none => exact ih owned errs
      | some own =>
          refine .ite (fun _ => ih owned errs) fun unseen => ?_
          exact .bind (each uid own errs owned recorded unseen) fun result => ih _ _

/-- The loop over the records of pods that are not listed; `errs` is what it collected. -/
theorem restoreLocal_holds {cfg : Config} {seen : List String} {J : List GoError → Owned → W → Prop}
    (stable : ∀ errs owned, A.Stable (J errs owned)) (walk : ∀ keys, A.Inert G (.rangeKeys keys))
    (each : ∀ uid own errs owned, owned.lookup uid = some own → uid ∉ seen →
      Holds A G (J errs owned) (restorePod cfg owned own.pod own.state)
        fun result w => J (errs ++ result.2.1.toList) result.2.2 w)
    (owned : Owned) (errs : List GoError) :
    Holds A G (J errs owned) (restoreLocal cfg seen owned errs) fun result w => J result.1 result.2 w :=
  .bind (.keeps (stable errs owned) ((walk _).keeps _)) fun _ => restoreUnseen_holds each _ owned errs

/-- The loop of `recover`; `done` is the listed pods it has dealt with. -/
theorem recoverPods_holds {cfg : Config} {pods : List Pod}
    {J : List Pod → List GoError → Owned → W → Prop}
    (invalid : ∀ pod ∈ pods, ∀ done errs owned err, stateForPod owned pod = .error err →
      Holds A G (J done errs owned)
        (clearInvalidMarker pod (pod.annotationAt Annotations.guardStateKey))
        fun result w => J (done ++ [pod]) (errs ++ result.toList) owned w)
    (unmarked : ∀ pod ∈ pods, ∀ done errs owned w, stateForPod owned pod = .ok none →
      J done errs owned w → J (done ++ [pod]) errs owned w)
    (restore : ∀ pod ∈ pods, ∀ done errs owned state, stateForPod owned pod = .ok (some state) →
      Holds A G (J done errs owned) (restorePod cfg owned pod state)
        fun result w => J (done ++ [pod]) (errs ++ result.2.1.toList) result.2.2 w)
    (owned : Owned) (errs : List GoError) (done : List Pod) :
    Holds A G (J done errs owned) (recoverPods cfg pods owned errs)
      fun result w => J (done ++ pods) result.1 result.2 w := by
  induction pods generalizing owned errs done with
  | nil => exact .pure fun w holds => by simpa using holds
  | cons pod rest ih =>
      have later := fun owned errs => ih (fun p member => invalid p (by simp [member]))
        (fun p member => unmarked p (by simp [member])) (fun p member => restore p (by simp [member]))
        owned errs (done ++ [pod])
      simp only [List.append_assoc, List.singleton_append] at later
      unfold recoverPods
      cases held : stateForPod owned pod with
      | error err =>
          exact .bind (invalid pod (by simp) done errs owned err held) fun _ => later _ _
      | ok marked =>
          cases marked with
          | none =>
              exact .pre (later owned errs) fun w holds =>
                unmarked pod (by simp) done errs owned w held holds
          | some state =>
              exact .bind (restore pod (by simp) done errs owned state held) fun _ => later _ _

end

end CpuIdle.Guard
