/-
# Guard.Cell — the guard's operations on one pod see that pod only

Everything the guard does about a pod is about its directory, its API object and its entry of
the in-process map. `AboutPod` is that set of requests; of an API object under the pod's name
that has another UID the guard sees no more than that it is not there. Each operation is
`Coupled` with itself on every two worlds and maps that agree about the pod.
-/
import CpuIdle.Guard.Ownership
import CpuIdle.Theory.Cells

namespace CpuIdle.Guard

open CpuIdle.Go CpuIdle.Kube CpuIdle.Node CpuIdle.Theory CpuIdle.Cgroup CpuIdle.Observe

set_option autoImplicit false

/-! ## What belongs to a pod -/

/-- What an operation on the pod with this UID learns from a GET. -/
def seenAs (uid : String) : GetResult → GetResult
  | .found current => if current.uid = uid then .found current else .notFound
  | .notFound => .notFound
  | .failed err => .failed err

/-- The same of any answer. -/
def seenBy (uid : String) : (r : Request) → Answer r → Answer r
  | .getPod _ _, answer => seenAs uid answer
  | _, answer => answer

section

variable [PrintTable]

/-- The requests an operation on this pod makes. -/
def AboutPod (cfg : Config) (pod : Pod) : Request → Prop
  | .ctxErr => True
  | .inc _ => True
  | .event _ => True
  | .readFile dir _ => podDir cfg pod = .ok dir
  | .stat dir => podDir cfg pod = .ok dir
  | .writeFile dir _ _ => podDir cfg pod = .ok dir
  | .getPod ns name => ns = pod.ns ∧ name = pod.name
  | .patchPod ns name patch => ns = pod.ns ∧ name = pod.name ∧ patch.uid = pod.uid
  | _ => False

variable {cfg : Config} {pod : Pod} {about : Request → Prop} {uid : String}

/-- A program that sees the pod only. -/
abbrev Alone (about : Request → Prop) (uid : String) {α : Type} (p : Node α) : Prop :=
  Coupled (S := nodeSignature) about (seenBy uid) uid Eq p p

omit [PrintTable] in
/-- A request whose answer is seen whole. -/
theorem ask_alone {r : Request} (is : about r) (whole : ∀ answer, seenBy uid r answer = answer) :
    Alone about uid (ask r) :=
  (Coupled.request is).post fun a b same => (whole a).symm.trans (same.trans (whole b))

omit [PrintTable] in
theorem get_coupled {ns name : String} (is : about (.getPod ns name)) :
    Coupled (S := nodeSignature) about (seenBy uid) uid
      (fun a b : GetResult => seenAs uid a = seenAs uid b) (ask (.getPod ns name)) (ask (.getPod ns name)) :=
  Coupled.request (S := nodeSignature) (r := .getPod ns name) is

/-! ## Knobs and reports -/

variable (mine : ∀ r, AboutPod cfg pod r → about r)

include mine in
theorem ctxErr_alone : Alone about uid ctxErr := ask_alone (mine .ctxErr trivial) fun _ => rfl

include mine in
theorem record_alone (node : String) (knob result reason eventType eventReason : String) :
    Alone about uid (record node pod knob result reason eventType eventReason) :=
  .after (ask_alone (mine (.inc _) trivial) fun _ => rfl) fun _ =>
    ask_alone (mine (.event _) trivial) fun _ => rfl

include mine in
theorem missingPathError_alone {dir : String} (computed : podDir cfg pod = .ok dir) (knobPath : String) :
    Alone about uid (missingPathError dir knobPath) := by
  refine .after (ask_alone (mine (.stat dir) computed) fun _ => rfl) fun answer => ?_
  cases answer <;> exact .pure rfl

include mine in
theorem readKnob_alone {dir : String} (computed : podDir cfg pod = .ok dir) (name : String) :
    Alone about uid (readKnob dir name) := by
  refine .ite (fun _ => .pure rfl) fun _ => ?_
  refine .after (ask_alone (mine (.readFile dir name) computed) fun _ => rfl) fun answer => ?_
  cases answer with
  | data content => exact .pure rfl
  | notExist => exact .after (missingPathError_alone mine computed _) fun _ => .pure rfl
  | failed err => exact .pure rfl

include mine in
theorem writeKnob_alone {dir : String} (computed : podDir cfg pod = .ok dir)
    (root kubepodsName name value : String) : Alone about uid (writeKnob root kubepodsName dir name value) := by
  unfold writeKnob
  refine .ite (fun _ => .pure rfl) fun _ => ?_
  cases guardWriteTarget dir root kubepodsName with
  | some err => exact .pure rfl
  | none =>
  refine .after (ask_alone (mine (.writeFile dir name value) computed) fun _ => rfl) fun answer => ?_
  cases answer with
  | notExist => exact .after (missingPathError_alone mine computed _) fun _ => .pure rfl
  | _ => exact .pure rfl

/-! ## The marker -/

include mine in
/-- An object with another UID is as good as none. -/
theorem patchMarker_alone (value : String) (clear : Bool) (expected : Option PersistedState)
    (expectedRaw : String) : Alone about pod.uid (patchMarker pod value clear expected expectedRaw) := by
  refine .bind (get_coupled (mine (.getPod pod.ns pod.name) ⟨rfl, rfl⟩)) fun a b same => ?_
  cases a with
  | notFound =>
      cases b with
      | notFound => exact .pure rfl
      | failed err => cases same
      | found current =>
          by_cases itself : current.uid = pod.uid
          · simp [seenAs, itself] at same
          · simp only [ne_eq, itself, not_false_eq_true, if_true]
            exact .pure rfl
  | failed err =>
      cases b with
      | notFound => cases same
      | failed err' =>
          cases same
          exact .pure rfl
      | found current =>
          by_cases itself : current.uid = pod.uid
          · simp [seenAs, itself] at same
          · simp [seenAs, itself] at same
  | found current =>
      by_cases itself : current.uid = pod.uid
      · cases b with
        | notFound => simp [seenAs, itself] at same
        | failed err => simp [seenAs, itself] at same
        | found current' =>
            by_cases itself' : current'.uid = pod.uid
            · simp only [seenAs, itself, itself', if_true, GetResult.found.injEq] at same
              subst same
              simp only [ne_eq, itself, not_true_eq_false, if_false]
              refine .ite (fun _ => .pure rfl) fun _ => .ite (fun _ => .pure rfl) fun _ => ?_
              refine .after (ask_alone (mine (.patchPod _ _ _) ⟨rfl, rfl, itself⟩) fun _ => rfl) fun answer => ?_
              cases answer <;> exact .pure rfl
            · simp [seenAs, itself, itself'] at same
      · simp only [ne_eq, itself, not_false_eq_true, if_true]
        cases b with
        | notFound => exact .pure rfl
        | failed err => simp [seenAs, itself] at same
        | found current' =>
            by_cases itself' : current'.uid = pod.uid
            · simp [seenAs, itself, itself'] at same
            · simp only [itself', not_false_eq_true, if_true]
              exact .pure rfl

end

/-! ## The entry of the map -/

section

/-- What the map holds about one pod. -/
def entry (owned : Owned) (uid : String) : Option OwnedState := owned.lookup uid

variable {M : Type} {uid : String} {good : Option OwnedState → Prop} {owned₁ owned₂ : Owned}

theorem insert_edited (value : M) (own : OwnedState) (isGood : good (some own)) :
    Edited entry good uid owned₁ owned₂ (value, owned₁.insert uid own) (value, owned₂.insert uid own) where
  value := rfl
  entry := by simp [Guard.entry]
  left j other := Finmap.lookup_insert_of_ne _ other
  right j other := Finmap.lookup_insert_of_ne _ other
  kept _ := by simpa [Guard.entry] using isGood

theorem erase_edited (value : M) (absent : good none) :
    Edited entry good uid owned₁ owned₂ (value, owned₁.erase uid) (value, owned₂.erase uid) where
  value := rfl
  entry := by simp [Guard.entry]
  left j other := Finmap.lookup_erase_ne other
  right j other := Finmap.lookup_erase_ne other
  kept _ := by simpa [Guard.entry] using absent

end

section

variable [PrintTable] {cfg : Config} {pod : Pod} {about : Request → Prop}
  (mine : ∀ r, AboutPod cfg pod r → about r) {good : Option OwnedState → Prop} {owned₁ owned₂ : Owned}

theorem stateForPod_congr (agree : entry owned₁ pod.uid = entry owned₂ pod.uid) :
    stateForPod owned₁ pod = stateForPod owned₂ pod := by
  unfold stateForPod
  rw [show owned₁.lookup pod.uid = owned₂.lookup pod.uid from agree]

/-! ## Freezing -/

include mine in
theorem suppressWrite_coupled {dir current : String} (computed : podDir cfg pod = .ok dir)
    (state : PersistedState) (agree : entry owned₁ pod.uid = entry owned₂ pod.uid) :
    Coupled (S := nodeSignature) about (seenBy pod.uid) pod.uid (Edited entry good pod.uid owned₁ owned₂)
      (suppressWrite cfg owned₁ pod dir current state) (suppressWrite cfg owned₂ pod dir current state) := by
  refine .ite (fun _ => .pure (.same _ agree)) fun _ => ?_
  refine .after (ctxErr_alone mine) fun cancelled => ?_
  refine .ite (fun _ => .pure (.same _ agree)) fun _ => ?_
  refine .after (writeKnob_alone mine computed _ _ _ _) fun result => ?_
  cases result with
  | some err => exact .after (record_alone mine _ _ _ _ _ _) fun _ => .pure (.same _ agree)
  | none => exact .after (record_alone mine _ _ _ _ _ _) fun _ => .pure (.same _ agree)

include mine in
theorem suppressPod_coupled (fresh : ∀ state, good (some ⟨pod, state, true⟩))
    (agree : entry owned₁ pod.uid = entry owned₂ pod.uid) :
    Coupled (S := nodeSignature) about (seenBy pod.uid) pod.uid (Edited entry good pod.uid owned₁ owned₂)
      (suppressPod cfg owned₁ pod) (suppressPod cfg owned₂ pod) := by
  unfold suppressPod
  refine .after (ctxErr_alone mine) fun cancelled => ?_
  refine .ite (fun _ => .pure (.same _ agree)) fun _ => ?_
  cases computed : podDir cfg pod with
  | error err => exact .pure (.same _ agree)
  | ok dir =>
  refine .after (readKnob_alone mine computed _) fun result => ?_
  cases result with
  | error err => exact .pure (.same _ agree)
  | ok current =>
  dsimp only
  rw [stateForPod_congr agree]
  split
  · exact .pure (.same _ agree)
  · refine .ite (fun _ => .pure (.same _ agree)) fun _ => .ite (fun _ => .pure (.same _ agree)) fun _ => ?_
    split
    · exact .pure (.same _ agree)
    · refine .after (patchMarker_alone mine _ _ _ _) fun result => ?_
      cases result with
      | some err => exact .pure (.same _ agree)
      | none =>
          have inserted : Edited entry good pod.uid owned₁ owned₂ ((), _) ((), _) :=
            insert_edited () ⟨pod, ⟨guardStateVersion, suppressionKnob, current, suppressedValue⟩, true⟩
              (fresh _)
          exact (suppressWrite_coupled mine computed _ inserted.entry).post fun _ _ => inserted.trans
  · exact .ite (fun _ => .pure (.same _ agree)) fun _ => suppressWrite_coupled mine computed _ agree

/-! ## Thawing -/

include mine in
theorem relinquish_coupled (absent : good none) (state : PersistedState) (changed : Bool)
    (agree : entry owned₁ pod.uid = entry owned₂ pod.uid) :
    Coupled (S := nodeSignature) about (seenBy pod.uid) pod.uid
      (fun r₁ r₂ => r₁.1 = r₂.1 ∧ Edited entry good pod.uid owned₁ owned₂ r₁.2 r₂.2)
      (relinquish owned₁ pod state changed) (relinquish owned₂ pod state changed) := by
  refine .after (patchMarker_alone mine _ _ _ _) fun result => ?_
  cases result with
  | none => exact .pure ⟨rfl, erase_edited _ absent⟩
  | some err =>
      refine .pure ⟨rfl, ?_⟩
      unfold forgetConflictedOwnership
      split
      · exact erase_edited _ absent
      · exact .same _ agree

variable [Qos.ResourceHelper]

omit [PrintTable] in
theorem mayRestoreUnbounded_congr (state : PersistedState)
    (agree : entry owned₁ pod.uid = entry owned₂ pod.uid) :
    mayRestoreUnbounded owned₁ pod state = mayRestoreUnbounded owned₂ pod state := by
  unfold mayRestoreUnbounded
  rw [show owned₁.lookup pod.uid = owned₂.lookup pod.uid from agree]

include mine in
theorem restorePod_coupled (absent : good none) (state : PersistedState)
    (agree : entry owned₁ pod.uid = entry owned₂ pod.uid) :
    Coupled (S := nodeSignature) about (seenBy pod.uid) pod.uid
      (fun r₁ r₂ => r₁.1 = r₂.1 ∧ Edited entry good pod.uid owned₁ owned₂ r₁.2 r₂.2)
      (restorePod cfg owned₁ pod state) (restorePod cfg owned₂ pod state) := by
  unfold restorePod
  refine .after (ctxErr_alone mine) fun cancelled => ?_
  refine .ite (fun _ => .pure ⟨rfl, .same _ agree⟩) fun _ => ?_
  cases validateState state with
  | some err => exact .pure ⟨rfl, .same _ agree⟩
  | none =>
  cases computed : podDir cfg pod with
  | error err => exact .pure ⟨rfl, .same _ agree⟩
  | ok dir =>
  refine .after (readKnob_alone mine computed _) fun result => ?_
  cases result with
  | error err =>
      exact .ite (fun _ => relinquish_coupled mine absent state false agree) fun _ => .pure ⟨rfl, .same _ agree⟩
  | ok current =>
  refine .ite (fun _ => relinquish_coupled mine absent state false agree) fun _ => ?_
  rw [mayRestoreUnbounded_congr state agree]
  refine .ite (fun _ => .pure ⟨rfl, .same _ agree⟩) fun _ => ?_
  refine .after (ctxErr_alone mine) fun cancelled => ?_
  refine .ite (fun _ => .pure ⟨rfl, .same _ agree⟩) fun _ => ?_
  refine .after (writeKnob_alone mine computed _ _ _ _) fun result => ?_
  cases result with
  | some err => exact .after (record_alone mine _ _ _ _ _ _) fun _ => .pure ⟨rfl, .same _ agree⟩
  | none => exact .after (record_alone mine _ _ _ _ _ _) fun _ => relinquish_coupled mine absent state true agree

/-! ## One round of each loop -/

omit [Qos.ResourceHelper] in
include mine in
theorem eligibility_alone (hot : Bool) (candidateUIDs : List String) (marked : Option PersistedState) :
    Alone about pod.uid (eligibility cfg hot candidateUIDs pod marked) := by
  refine .ite (fun _ => ?_) fun _ => .pure rfl
  have allows : Alone about pod.uid (actualFreezeAllowsSuppression cfg pod marked) := by
    unfold actualFreezeAllowsSuppression
    cases computed : podDir cfg pod with
    | error err => exact .pure rfl
    | ok dir =>
    refine .after (readKnob_alone mine computed _) fun result => ?_
    cases result with
    | error err => exact .pure rfl
    | ok current =>
    refine .ite (fun _ => .pure rfl) fun _ => ?_
    cases marked with
    | none => exact .pure rfl
    | some state => exact .ite (fun _ => .pure rfl) fun _ => .pure rfl
  refine .after allows fun result => ?_
  cases result with
  | ok isEligible => exact .pure rfl
  | error err => exact .ite (fun _ => .pure rfl) fun _ => .pure rfl

/-- What a pass has gathered. -/
abbrev Marks := List Pod × List String × List GoError

def Pass.marks (pass : Pass) : Marks × Owned :=
  ((pass.eligible, pass.restoredThisPass, pass.errs), pass.owned)

include mine in
theorem convergePod_coupled (absent : good none) (hot : Bool) (candidateUIDs : List String)
    (agree : entry owned₁ pod.uid = entry owned₂ pod.uid) :
    Coupled (S := nodeSignature) about (seenBy pod.uid) pod.uid
      (fun pass₁ pass₂ => Edited entry good pod.uid owned₁ owned₂ pass₁.marks pass₂.marks)
      (convergePod cfg hot candidateUIDs pod ⟨owned₁, [], [], []⟩)
      (convergePod cfg hot candidateUIDs pod ⟨owned₂, [], [], []⟩) := by
  unfold convergePod
  dsimp only
  rw [stateForPod_congr agree]
  cases stateForPod owned₂ pod with
  | error err => exact .after (patchMarker_alone mine _ _ _ _) fun result => .pure (.same _ agree)
  | ok marked =>
  refine .after (eligibility_alone mine hot candidateUIDs marked) fun known => ?_
  cases marked with
  | none => exact .ite (fun _ => .pure (.same _ agree)) fun _ => .pure (.same _ agree)
  | some state =>
      refine .ite (fun _ => ?_) fun _ => .ite (fun _ => .pure (.same _ agree)) fun _ => .pure (.same _ agree)
      refine .bind (restorePod_coupled mine absent state agree) fun r₁ r₂ restored => ?_
      obtain ⟨-, edited⟩ := restored
      refine .pure ⟨?_, edited.entry, edited.left, edited.right, edited.kept⟩
      show (_, _, _ ++ r₁.2.1.toList) = (_, _, _ ++ r₂.2.1.toList)
      rw [edited.value]

/-- The first loop of `converge` on one pod. -/
def convergeOne (cfg : Config) (hot : Bool) (candidateUIDs : List String) (pod : Pod) (owned : Owned) :
    Node (Marks × Owned) := do
  let pass ← convergePod cfg hot candidateUIDs pod ⟨owned, [], [], []⟩
  return pass.marks

include mine in
theorem convergeOne_confined (absent : good none) (hot : Bool) (candidateUIDs : List String) :
    Confined (S := nodeSignature) about (seenBy pod.uid) entry good pod.uid
      (convergeOne cfg hot candidateUIDs pod) :=
  fun _ _ agree _ => .bind (convergePod_coupled mine absent hot candidateUIDs agree) fun _ _ edited =>
    .pure edited

/-- The second loop. -/
def suppressOne (cfg : Config) (restoredThisPass : List String) (pod : Pod) (owned : Owned) :
    Node (List GoError × Owned) :=
  suppressPods cfg restoredThisPass [pod] owned []

omit [Qos.ResourceHelper] in
include mine in
theorem suppressOne_confined (fresh : ∀ state, good (some ⟨pod, state, true⟩))
    (restoredThisPass : List String) :
    Confined (S := nodeSignature) about (seenBy pod.uid) entry good pod.uid
      (suppressOne cfg restoredThisPass pod) := by
  intro owned₁ owned₂ agree _
  refine .ite (fun _ => .pure (.same _ agree)) fun _ => ?_
  refine .bind (suppressPod_coupled mine fresh agree) fun r₁ r₂ edited => ?_
  refine .pure ⟨?_, edited.entry, edited.left, edited.right, edited.kept⟩
  show _ ++ r₁.1.toList = _ ++ r₂.1.toList
  rw [edited.value]

/-- The loop of `Recover`. -/
def recoverOne (cfg : Config) (pod : Pod) (owned : Owned) : Node (List GoError × Owned) :=
  recoverPods cfg [pod] owned []

include mine in
theorem recoverOne_confined (absent : good none) :
    Confined (S := nodeSignature) about (seenBy pod.uid) entry good pod.uid (recoverOne cfg pod) := by
  intro owned₁ owned₂ agree _
  unfold recoverOne recoverPods
  rw [stateForPod_congr agree]
  cases stateForPod owned₂ pod with
  | error err => exact .after (patchMarker_alone mine _ _ _ _) fun result => .pure (.same _ agree)
  | ok marked =>
  cases marked with
  | none => exact .pure (.same _ agree)
  | some state =>
      refine .bind (restorePod_coupled mine absent state agree) fun r₁ r₂ restored => ?_
      obtain ⟨-, edited⟩ := restored
      refine .pure ⟨?_, edited.entry, edited.left, edited.right, edited.kept⟩
      show _ ++ r₁.2.1.toList = _ ++ r₂.2.1.toList
      rw [edited.value]

end

/-! ## One record of a pod not listed -/

section

variable [PrintTable] [Qos.ResourceHelper] {cfg : Config} {about : Request → Prop} {uid : String}

/-- The loop over the map that ends both passes. -/
def restoreOne (cfg : Config) (seen : List String) (uid : String) (owned : Owned) :
    Node (List GoError × Owned) :=
  restoreUnseen cfg seen [uid] owned []

theorem restoreOne_confined {good : Option OwnedState → Prop} (absent : good none)
    (mine : ∀ own, good (some own) → own.pod.uid = uid ∧ ∀ r, AboutPod cfg own.pod r → about r)
    (seen : List String) :
    Confined (S := nodeSignature) about (seenBy uid) entry good uid (restoreOne cfg seen uid) := by
  intro owned₁ owned₂ agree isGood
  unfold restoreOne restoreUnseen
  rw [show owned₁.lookup uid = owned₂.lookup uid from agree]
  cases held : owned₂.lookup uid with
  | none => exact .pure (.same _ agree)
  | some own =>
      have holds : entry owned₁ uid = some own := agree.trans held
      rw [holds] at isGood
      obtain ⟨rfl, itsOwn⟩ := mine own isGood
      refine .ite (fun _ => .pure (.same _ agree)) fun _ => ?_
      refine .bind (restorePod_coupled itsOwn absent own.state agree) fun r₁ r₂ restored => ?_
      obtain ⟨-, edited⟩ := restored
      refine .pure ⟨?_, edited.entry, edited.left, edited.right, edited.kept⟩
      show _ ++ r₁.2.1.toList = _ ++ r₂.2.1.toList
      rw [edited.value]

end

end CpuIdle.Guard
