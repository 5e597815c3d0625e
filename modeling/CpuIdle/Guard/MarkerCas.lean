/-
# Guard.MarkerCas — marker patches are a compare-and-set

Any number of set, clear and clear-invalid calls run against one store, each a read
and a conditional patch, while anybody else edits, deletes and recreates Pods. A patch
may also take effect and its response be lost.

* `Call.Effect`: what a call may do to the object it hits;
* `call_holds`: one call among arbitrary others;
* `patchMarker_path`: a call that reports a changed marker never sent a patch;
* `marker_compare_and_set`: every interleaving.
-/
import CpuIdle.Guard.OnePod
import CpuIdle.Theory.Pool

namespace CpuIdle.Guard

open CpuIdle.Go CpuIdle.Kube CpuIdle.Node CpuIdle.Theory CpuIdle.Cgroup

set_option autoImplicit false

section

variable [PrintTable]

namespace MarkerCas

/-- The three modes of `patchMarker`, as the guard calls them. -/
inductive Call where
  | set (pod : Pod) (state : PersistedState)
  | clear (pod : Pod) (expected : PersistedState)
  | clearInvalid (pod : Pod) (expectedRaw : String)

namespace Call

def pod : Call → Pod
  | .set pod _ => pod
  | .clear pod _ => pod
  | .clearInvalid pod _ => pod

def program : Call → Node (Option GoError)
  | .set pod state => setMarker pod state
  | .clear pod expected => clearMarker pod expected
  | .clearInvalid pod expectedRaw => clearInvalidMarker pod expectedRaw

/-- What the call may find, and what it leaves, on the object it takes effect on. -/
def Effect : Call → Pod → Pod → Prop
  | .set _ state, p, p' =>
      p.annotationAt Annotations.guardStateKey = "" ∧
        p'.annotations = Function.update p.annotations Annotations.guardStateKey (some (encode state))
  | .clear _ expected, p, p' =>
      decode (p.annotationAt Annotations.guardStateKey) = some expected ∧
        validateState expected = none ∧
        p'.annotations = Function.update p.annotations Annotations.guardStateKey none
  | .clearInvalid _ expectedRaw, p, p' =>
      p.annotationAt Annotations.guardStateKey = expectedRaw ∧
        p'.annotations = Function.update p.annotations Annotations.guardStateKey none

end Call

/-- Atomic API calls on the store. -/
def act (s : Store) : (r : Request) → Answer r → Store → Prop
  | .getPod ns name, answer, s' => s' = s ∧ ∀ p, answer = GetResult.found p → s.pods ns name = some p
  | .patchPod ns name patch, answer, s' =>
      (answer = PatchResult.patched ∧ ∃ p p', s.Patched ns name patch p p' s') ∨
        (answer = PatchResult.notFound ∧ s' = s) ∨
        (∃ err, answer = PatchResult.failed err ∧ (s' = s ∨ ∃ p p', s.Patched ns name patch p p' s'))
  | _, _, s' => s' = s

/-- The others may do anything that keeps the store one: versions are never unseen. -/
def arena : Arena nodeSignature Store := { act := act, rely := fun s s' => s.seen ⊆ s'.seen }

/-- A call's requests change nothing, or take effect as they may on the caller's UID. -/
def guarantee (call : Call) : Guarantee nodeSignature Store := fun s r _ s' =>
  s' = s ∨ ∃ ns name patch p p', r = .patchPod ns name patch ∧ s.Patched ns name patch p p' s' ∧
    p.uid = call.pod.uid ∧ call.Effect p p'

omit [PrintTable] in
theorem act_mono {s s' : Store} {r : Request} {answer : Answer r} (acts : act s r answer s') :
    s.seen ⊆ s'.seen := by
  cases r with
  | getPod ns name => exact acts.1 ▸ subset_rfl
  | patchPod ns name patch =>
      rcases acts with ⟨-, p, p', patched⟩ | ⟨-, same⟩ | ⟨err, -, same | ⟨p, p', patched⟩⟩
      · exact patched.put.mono
      · exact same ▸ subset_rfl
      · exact same ▸ subset_rfl
      · exact patched.put.mono
  | _ => exact (show s' = s from acts) ▸ subset_rfl

omit [PrintTable] in
theorem seen_stable (p : Pod) : arena.shared.Stable fun s => p ∈ s.seen := by
  rintro s s' (move | ⟨r, answer, acts⟩) member
  · exact move member
  · exact act_mono acts member

omit [PrintTable] in
theorem true_stable : arena.shared.Stable fun _ => True := fun _ _ _ _ => trivial

/-- A conditional patch hits the version that was read, and so what it was checked for. -/
theorem patched_effect {call : Call} {value : String} {clear : Bool} {s s' : Store}
    {current p p' : Pod} {ns name : String} (read : current ∈ s.seen)
    (sameUID : current.uid = call.pod.uid)
    (effect : ∀ p', p'.annotations = Function.update current.annotations Annotations.guardStateKey
      (if clear then none else some value) → call.Effect current p')
    (patched : s.Patched ns name (markerPatch current value clear) p p' s') :
    guarantee call s (.patchPod ns name (markerPatch current value clear)) PatchResult.patched s' := by
  have version : (markerPatch current value clear).resourceVersion = some current.resourceVersion :=
    if_pos (s.versioned current read)
  obtain rfl := patched.store_version read rfl version
  obtain ⟨resourceVersion, result⟩ := patched.result
  exact .inr ⟨ns, name, _, p, p', rfl, patched, sameUID, effect p' (by rw [result]; rfl)⟩

/-- What `patchMarker` knows and does, for a call whose check entails its effect. -/
theorem patchRule (call : Call) (value : String) (clear : Bool) (expected : Option PersistedState)
    (expectedRaw : String)
    (effect : ∀ current p', markerMatches (current.annotationAt Annotations.guardStateKey) clear
      expected expectedRaw = true → p'.annotations = Function.update current.annotations
        Annotations.guardStateKey (if clear then none else some value) → call.Effect current p') :
    PatchRule arena.shared (guarantee call) call.pod value clear expected expectedRaw
      (fun _ => True) (fun current s => current ∈ s.seen) fun _ _ => True where
  stable := true_stable
  stable_read current := seen_stable current
  read_known _ _ _ := trivial
  get s _ answer s' acts := by
    obtain ⟨rfl, read⟩ := acts
    exact ⟨.inl rfl, trivial, fun current found => (s'.stored _ _ _ (read current found)).1,
      fun _ _ => trivial⟩
  send current s read sameUID found answer s' acts := by
    refine ⟨?_, fun _ => trivial, fun _ _ => trivial, fun _ _ => trivial⟩
    rcases acts with ⟨-, p, p', patched⟩ | ⟨-, same⟩ | ⟨err, -, same | ⟨p, p', patched⟩⟩
    · exact patched_effect read sameUID (effect current · found) patched
    · exact .inl same
    · exact .inl same
    · exact patched_effect read sameUID (effect current · found) patched
  replaced _ _ _ _ _ := trivial
  already _ _ _ _ _ _ := trivial
  error _ _ _ := trivial

/-- **One call**, whatever the others do. -/
theorem call_holds (call : Call) :
    Holds arena.shared (guarantee call) (fun _ => True) call.program fun _ _ => True := by
  cases call with
  | set pod state =>
      refine patchMarker_holds (patchRule (.set pod state) _ _ _ _ fun current p' found patched => ?_)
      exact ⟨by simpa [markerMatches] using found, patched⟩
  | clear pod expected =>
      refine patchMarker_holds
        (patchRule (.clear pod expected) _ _ _ _ fun current p' found patched => ?_)
      have read : readMarker (current.annotationAt Annotations.guardStateKey) = some expected := by
        simpa [markerMatches] using found
      exact ⟨(readMarker_eq_some.mp read).1, (readMarker_eq_some.mp read).2, patched⟩
  | clearInvalid pod expectedRaw =>
      refine patchMarker_holds
        (patchRule (.clearInvalid pod expectedRaw) _ _ _ _ fun current p' found patched => ?_)
      have same : expectedRaw ≠ "" ∧ current.annotationAt Annotations.guardStateKey = expectedRaw := by
        simpa [markerMatches] using found
      exact ⟨same.2, patched⟩

/-! ## What a call that gives up has done -/

/-- A call that reports a changed marker has only read. -/
theorem patchMarker_path {pod : Pod} {value : String} {clear : Bool}
    {expected : Option PersistedState} {expectedRaw : String} {past : List (Program.Event nodeSignature)}
    {err : GoError}
    (path : Program.Path (patchMarker pod value clear expected expectedRaw) past (.done (some err)))
    (changed : err.is .ownershipMarkerChanged = true) :
    ∃ answer, past = [⟨.getPod pod.ns pod.name, answer⟩] := by
  unfold patchMarker at path
  obtain ⟨answer, rest, rfl, rest_path⟩ := path.of_request
  refine ⟨answer, ?_⟩
  cases answer with
  | notFound => rw [rest_path.of_done.1]
  | failed e => rw [rest_path.of_done.1]
  | found current =>
      dsimp only at rest_path
      split at rest_path
      · rw [rest_path.of_done.1]
      split at rest_path
      · rw [rest_path.of_done.1]
      split at rest_path
      · rw [rest_path.of_done.1]
      obtain ⟨answer', rest', rfl, sent⟩ := rest_path.of_request
      cases answer' with
      | patched => cases sent.of_done.2
      | notFound =>
          have reported := sent.of_done.2
          cases clear with
          | true => cases reported
          | false =>
              obtain rfl : err = errCgroupGone := by simpa using reported
              cases changed
      | failed e =>
          have reported := sent.of_done.2
          obtain rfl : err = e.err.wrap s!"guard: patch ownership marker on {pod.path}" := by
            simpa using reported
          simp at changed

end MarkerCas

open MarkerCas in
/-- **Marker patches are a compare-and-set.** Along every interleaving of the calls with
one another and with the others, each request of a call changes nothing or has that
call's effect on an object of its own UID; and a call that reports a changed marker has
made no request that could change anything. -/
theorem marker_compare_and_set {ι : Type} [DecidableEq ι] (calls : ι → Call) (s₀ : Store)
    {threads : ι → Thread nodeSignature (Option GoError)} {s : Store}
    (run : Pool.Reaches MarkerCas.arena (fun i => (calls i).program) s₀ (threads, s)) (i : ι) :
    (∀ r next answer s', (threads i).rest = .ask r next → act s r answer s' →
      s' = s ∨ ∃ ns name patch p p', r = .patchPod ns name patch ∧ s.Patched ns name patch p p' s' ∧
        p.uid = (calls i).pod.uid ∧ (calls i).Effect p p') ∧
    (∀ err, (threads i).rest = .done (some err) → err.is .ownershipMarkerChanged = true →
      ∀ event ∈ (threads i).past, ∀ t t', act t event.1 event.2 t' → t' = t) := by
  refine ⟨fun r next answer s' asks acts => ?_, fun err ended changed event member t t' acts => ?_⟩
  · exact Pool.guaranteed (G := fun i => guarantee (calls i)) (Q := fun _ _ _ => True) run
      (fun _ _ => true_stable) (fun i => call_holds (calls i) s₀ trivial) asks acts
  · have path : Program.Path (calls i).program (threads i).past (.done (some err)) :=
      ended ▸ Pool.path run i
    have read : ∃ ns name answer, (threads i).past = [⟨.getPod ns name, answer⟩] := by
      generalize calls i = call at path
      cases call with
      | set pod state => exact ⟨_, _, patchMarker_path path changed⟩
      | clear pod expected => exact ⟨_, _, patchMarker_path path changed⟩
      | clearInvalid pod expectedRaw => exact ⟨_, _, patchMarker_path path changed⟩
    obtain ⟨ns, name, answer, only⟩ := read
    rw [only, List.mem_singleton] at member
    subst member
    exact acts.1

end

/-! ## Two calls on one Pod -/

section

open MarkerCas

attribute [local instance] asciiTable Qos.containerRequests

/-- The Pod nobody has touched, and its store. -/
def unmarked : Pod := sampleScene.latest untouchedPod

def setCall : Call := .set unmarked freezeState

def setAfterRead : Node (Option GoError) :=
  match setCall.program with
  | Program.ask (.getPod _ _) next => next (.found unmarked)
  | other => other

theorem setAfterRead_patches : setAfterRead.pending =
    some (.patchPod unmarked.ns unmarked.name (markerPatch unmarked (encode freezeState) false)) := by
  decide +kernel

def setPatch : MarkerPatch := markerPatch unmarked (encode freezeState) false

/-- Two set calls that have both read the untouched Pod: the first patch finds the annotation
empty and sets the marker, and then nothing that the second one is answered changes the store. -/
theorem marker_compare_and_set_two :
    (∃ ns name p p', (sampleScene.store untouchedPod).Patched ns name setPatch p p'
        (sampleScene.store (Scene.patched untouchedPod setPatch)) ∧
      p.annotationAt Annotations.guardStateKey = "" ∧
      p'.annotations = Function.update p.annotations Annotations.guardStateKey
        (some (encode freezeState))) ∧
    ∀ answer s', MarkerCas.act (sampleScene.store (Scene.patched untouchedPod setPatch))
        (.patchPod unmarked.ns unmarked.name setPatch) answer s' →
      s' = sampleScene.store (Scene.patched untouchedPod setPatch) := by
  have read : MarkerCas.arena.act (sampleScene.store untouchedPod)
      (.getPod unmarked.ns unmarked.name) (GetResult.found unmarked) (sampleScene.store untouchedPod) :=
    ⟨rfl, fun p same => (GetResult.found.inj same) ▸ Scene.live_latest⟩
  obtain ⟨next, asks⟩ := Program.of_pending setAfterRead_patches
  have one : Pool.Reaches MarkerCas.arena (fun _ : Bool => setCall.program)
      (sampleScene.store untouchedPod) _ :=
    .single (.act true rfl read)
  have both := one.tail (.act false rfl read)
  obtain ⟨p, p', patches⟩ := Scene.world_patches
    (show sampleScene.Current untouchedPod unmarked.ns unmarked.name setPatch from ⟨rfl, rfl, rfl, by
      decide +kernel⟩)
  have took : MarkerCas.act (sampleScene.store untouchedPod)
      (.patchPod unmarked.ns unmarked.name setPatch) PatchResult.patched
      (sampleScene.store (Scene.patched untouchedPod setPatch)) :=
    .inl ⟨rfl, p, p', patches.store⟩
  refine ⟨?first, fun answer s' acts => ?second⟩
  case first =>
    rcases (marker_compare_and_set (fun _ : Bool => setCall) _ both true).1 _ next _ _ asks took with
      same | effect
    · have versions := congrArg (fun s => (s.pods unmarked.ns unmarked.name).map Pod.resourceVersion) same
      exact absurd versions (by decide +kernel)
    · obtain ⟨ns, name, patch, q, q', isPatch, patched, -, unset, set⟩ := effect
      obtain ⟨-, -, rfl⟩ := Request.patchPod.inj isPatch
      exact ⟨ns, name, q, q', patched, unset, set⟩
  case second =>
    have after := both.tail (.act true asks took)
    rcases (marker_compare_and_set (fun _ : Bool => setCall) _ after false).1 _ next _ _ asks acts with
      same | effect
    · exact same
    · obtain ⟨ns, name, patch, q, q', isPatch, patched, -, unset, -⟩ := effect
      obtain ⟨rfl, rfl, rfl⟩ := Request.patchPod.inj isPatch
      obtain rfl : q = sampleScene.latest (Scene.patched untouchedPod setPatch) :=
        Scene.live_eq patched.found
      exact absurd unset (by decide +kernel)

end

end CpuIdle.Guard
