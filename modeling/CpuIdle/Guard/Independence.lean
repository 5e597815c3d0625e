/-
# Guard.Independence — a pass treats pods independently

The world is a family of cells, one for each UID, with any deterministic behaviour; `Separate`
says that the guard's requests about a pod reach that pod's cell. Two passes over the same
pods, in any order, on worlds that agree about the pods in `Q`, do the same for these pods:
the same writes and patches, the same cell and record at the end, the same errors.
-/
import CpuIdle.Guard.Cell
import CpuIdle.Guard.OnePod

namespace CpuIdle.Guard

open CpuIdle.Go CpuIdle.Kube CpuIdle.Node CpuIdle.Theory CpuIdle.Cgroup

set_option autoImplicit false

/-! ## Separate pods -/

section

variable [PrintTable]

/-- Requests that belong to no pod. -/
def Neutral : Request → Prop
  | .ctxErr => True
  | .inc _ => True
  | .event _ => True
  | _ => False

/-- The requests about the pods with this UID. -/
def About (cfg : Config) (known : Pod → Prop) (uid : String) (r : Request) : Prop :=
  ∃ pod, known pod ∧ pod.uid = uid ∧ AboutPod cfg pod r

/-- A context that stays live, and every request about a pod is its cell's. -/
structure Separate {σ : Type} (cfg : Config) (known : Pod → Prop) (cell : String → Handler nodeSignature σ)
    (h : Handler nodeSignature (String → σ)) : Prop where
  live : ∀ w, h w .ctxErr = (false, w)
  counts : ∀ counter w, (h w (.inc counter)).2 = w
  tells : ∀ e w, (h w (.event e)).2 = w
  walks : ∀ keys w, (h w (.rangeKeys keys)).2 = w
  answer : ∀ pod, known pod → ∀ r, AboutPod cfg pod r → ¬ Neutral r → ∀ w,
    seenBy pod.uid r (h w r).1 = seenBy pod.uid r (cell pod.uid (w pod.uid) r).1
  state : ∀ pod, known pod → ∀ r, AboutPod cfg pod r → ¬ Neutral r → ∀ w,
    (h w r).2 = Function.update w pod.uid (cell pod.uid (w pod.uid) r).2

/-- A cell that also answers what belongs to no pod. -/
def steady {σ : Type} (cell : Handler nodeSignature σ) : Handler nodeSignature σ := fun s r =>
  match r with
  | .ctxErr => (false, s)
  | .inc _ => ((), s)
  | .event _ => ((), s)
  | r => cell s r

omit [PrintTable] in
theorem steady_of_not_neutral {σ : Type} {cell : Handler nodeSignature σ} {r : Request}
    (proper : ¬ Neutral r) (s : σ) : steady cell s r = cell s r := by
  cases r <;> first | rfl | exact absurd trivial proper

variable {σ : Type} {cfg : Config} {known : Pod → Prop} {cell : String → Handler nodeSignature σ}
  {h : Handler nodeSignature (String → σ)}

theorem Separate.serves (separate : Separate cfg known cell h) (uid : String) :
    Serves (S := nodeSignature) (About cfg known uid) (seenBy uid) uid (steady (cell uid)) h where
  answer := by
    rintro r ⟨pod, isKnown, rfl, is⟩ w
    by_cases neutral : Neutral r
    · cases r with
      | ctxErr => rw [separate.live]; rfl
      | inc counter => rfl
      | event e => rfl
      | _ => exact neutral.elim
    · rw [steady_of_not_neutral neutral]
      exact separate.answer pod isKnown r is neutral w
  state := by
    rintro r ⟨pod, isKnown, rfl, is⟩ w
    by_cases neutral : Neutral r
    · cases r with
      | ctxErr => rw [separate.live]; exact (Function.update_eq_self _ _).symm
      | inc counter => rw [separate.counts]; exact (Function.update_eq_self _ _).symm
      | event e => rw [separate.tells]; exact (Function.update_eq_self _ _).symm
      | _ => exact neutral.elim
    · rw [steady_of_not_neutral neutral]
      exact separate.state pod isKnown r is neutral w

/-- A record is of the pod whose UID it is kept under. -/
def Keyed (known : Pod → Prop) (uid : String) (held : Option OwnedState) : Prop :=
  ∀ own, held = some own → own.pod.uid = uid ∧ known own.pod

omit [PrintTable] in
theorem keyed_none (uid : String) : Keyed known uid none := by
  intro own held
  cases held

/-- A loop of the guard on such a world. -/
abbrev GuardTour (σ M α : Type) := Tour nodeSignature String σ Owned M α

/-- Each of its operations is about one pod. -/
abbrev Orderly {M α : Type} (cfg : Config) (known : Pod → Prop) (key : α → String) (tour : GuardTour σ M α) :
    Prop :=
  tour.Tidy (About cfg known) seenBy entry (Keyed known) key

/-! ## The loops as tours -/

variable [Qos.ResourceHelper]

omit [Qos.ResourceHelper] in
theorem mine (known : Pod → Prop) {pod : Pod} (isKnown : known pod) (r : Request) (is : AboutPod cfg pod r) :
    About cfg known pod.uid r := ⟨pod, isKnown, rfl, is⟩

/-- The first loop of `converge` with its marks apart from the map. -/
def convergeLoop (cfg : Config) (hot : Bool) (candidateUIDs : List String) (pods : List Pod) (owned : Owned)
    (marks : Marks) : Node (Marks × Owned) := do
  let pass ← convergePods cfg hot candidateUIDs pods ⟨owned, marks.1, marks.2.1, marks.2.2⟩
  return pass.marks

def addMarks (marks more : Marks) : Marks := (marks.1 ++ more.1, more.2.1 ++ marks.2.1, marks.2.2 ++ more.2.2)

theorem convergePod_marks (hot : Bool) (candidateUIDs : List String) (pod : Pod) (owned : Owned) (marks : Marks) :
    convergePod cfg hot candidateUIDs pod ⟨owned, marks.1, marks.2.1, marks.2.2⟩ =
      convergeOne cfg hot candidateUIDs pod owned >>= fun r =>
        let sum := addMarks marks r.1
        return ⟨r.2, sum.1, sum.2.1, sum.2.2⟩ := by
  unfold convergeOne convergePod
  dsimp only
  cases stateForPod owned pod with
  | error err => simp [bind_assoc, Pass.marks, addMarks]
  | ok marked =>
      dsimp only
      rw [bind_assoc, bind_assoc]
      congr 1
      funext found
      cases marked with
      | none => cases found.1 <;> simp [Pass.marks, addMarks]
      | some state =>
          dsimp only
          by_cases thaw : !hot ∨ !found.1 ∨ state.knob ≠ suppressionKnob
          · rw [if_pos thaw, if_pos thaw]
            simp [bind_assoc, Pass.marks, addMarks]
          · rw [if_neg thaw, if_neg thaw]
            cases found.1 <;> simp [Pass.marks, addMarks]

theorem convergeLoop_folds (hot : Bool) (candidateUIDs : List String) :
    Folds (convergeLoop cfg hot candidateUIDs) (convergeOne cfg hot candidateUIDs) addMarks where
  nil owned marks := rfl
  cons pod rest owned marks := by
    simp only [convergeLoop, convergePods]
    rw [convergePod_marks]
    simp [bind_assoc]

omit [Qos.ResourceHelper] in
theorem suppressPods_folds (restoredThisPass : List String) :
    Folds (suppressPods cfg restoredThisPass) (suppressOne cfg restoredThisPass) (· ++ ·) where
  nil owned errs := rfl
  cons pod rest owned errs := by
    simp only [suppressOne, suppressPods]
    by_cases restored : pod.uid ∈ restoredThisPass
    · simp [restored]
    · simp [restored, bind_assoc]

theorem recoverPods_folds : Folds (recoverPods cfg) (recoverOne cfg) (· ++ ·) where
  nil owned errs := rfl
  cons pod rest owned errs := by
    simp only [recoverOne, recoverPods]
    cases stateForPod owned pod with
    | error err => simp [bind_assoc]
    | ok marked =>
        cases marked with
        | none => simp
        | some state => simp [bind_assoc]

theorem restoreUnseen_folds (seen : List String) :
    Folds (restoreUnseen cfg seen) (restoreOne cfg seen) (· ++ ·) where
  nil owned errs := rfl
  cons uid rest owned errs := by
    simp only [restoreOne, restoreUnseen]
    cases owned.lookup uid with
    | none => simp
    | some own =>
        by_cases listed : uid ∈ seen
        · simp [listed]
        · simp [listed, bind_assoc]

/-! ## What a tour did -/

/-- Errors by the pod they are about, everything asked for, and the state at the end. -/
structure Trace (σ : Type) where
  errs : List (String × GoError)
  requests : List Request
  state : Owned × (String → σ)

/-- Whether a request is a knob write or a patch for this pod. -/
def changes (cfg : Config) (pod : Pod) : Request → Bool
  | .writeFile dir _ _ =>
      match podDir cfg pod with
      | .ok own => decide (own = dir)
      | .error _ => false
  | .patchPod ns name patch => decide (ns = pod.ns ∧ name = pod.name ∧ patch.uid = pod.uid)
  | _ => false

omit [Qos.ResourceHelper] in
theorem podDir_distinct {pod pod' : Pod} (hp : WellFormedUID pod.uid) (hp' : WellFormedUID pod'.uid)
    {dir : String} (computed : podDir cfg pod = .ok dir) (computed' : podDir cfg pod' = .ok dir) :
    pod.uid = pod'.uid := by
  unfold podDir at computed computed'
  cases dirs : cfg.layout.podDir (Qos.toCgroupClass (Qos.classOf pod.spec)) pod.uid with
  | error err => simp [dirs] at computed
  | ok d =>
      cases dirs' : cfg.layout.podDir (Qos.toCgroupClass (Qos.classOf pod'.spec)) pod'.uid with
      | error err => simp [dirs'] at computed'
      | ok d' =>
          rw [dirs] at computed
          rw [dirs'] at computed'
          cases computed
          cases computed'
          exact (Layout.podDir_injective hp hp' dirs dirs').2

omit [Qos.ResourceHelper] in
/-- What is about one UID changes no pod with another. -/
theorem changes_other {pod : Pod} {uid : String} {r : Request} (wellFormed : ∀ pod, known pod → WellFormedUID pod.uid)
    (isKnown : known pod) (is : About cfg known uid r) (other : uid ≠ pod.uid) : changes cfg pod r = false := by
  obtain ⟨pod', isKnown', rfl, is⟩ := is
  cases r with
  | writeFile dir name value =>
      unfold changes
      cases computed : podDir cfg pod with
      | error err => rfl
      | ok own =>
          refine decide_eq_false fun same => other ?_
          subst same
          exact podDir_distinct (wellFormed _ isKnown') (wellFormed _ isKnown) is computed
  | patchPod ns name patch =>
      refine decide_eq_false fun same => other ?_
      exact is.2.2.symm.trans same.2.2
  | _ => rfl

/-- The trace of a tour whose operations return what `errs` reads errors from. -/
def traceOf {M α : Type} (key : α → String) (errs : M → List GoError) (tour : GuardTour σ M α) : Trace σ where
  errs := tour.result.1.flatMap fun out => (errs out.2.1).map fun err => (key out.1, err)
  requests := tour.result.1.flatMap fun out => out.2.2
  state := tour.result.2

/-- Two traces that are the same for the pods in `Q`. -/
structure Agreed (cfg : Config) (known : Pod → Prop) (Q : String → Bool) (t₁ t₂ : Trace σ) : Prop where
  errs : (t₁.errs.filter fun tagged => Q tagged.1).Perm (t₂.errs.filter fun tagged => Q tagged.1)
  changes : ∀ pod, known pod → Q pod.uid = true →
    t₁.requests.filter (changes cfg pod) = t₂.requests.filter (changes cfg pod)
  state : ∀ uid, Q uid = true → part entry t₁.state uid = part entry t₂.state uid

omit [Qos.ResourceHelper] in
/-- **Tours that agree leave traces that agree.** -/
theorem agreed_of_alike {M α : Type} {key : α → String} (errs : M → List GoError) {Q : String → Bool}
    {tour₁ tour₂ : GuardTour σ M α} (wellFormed : ∀ pod, known pod → WellFormedUID pod.uid)
    (tidy₁ : Orderly cfg known key tour₁) (tidy₂ : Orderly cfg known key tour₂)
    (alike : Tour.Alike entry key (fun uid => Q uid = true) tour₁ tour₂) :
    Agreed cfg known Q (traceOf key errs tour₁) (traceOf key errs tour₂) where
  errs := by
    have outside : ∀ out : α × (M × List Request), Q (key out.1) = false →
        ((errs out.2.1).map fun err => (key out.1, err)).filter (fun tagged => Q tagged.1) = [] := by
      intro out dropped
      rw [List.filter_map]
      simp [Function.comp_def, dropped]
    simp only [traceOf]
    rw [filter_flatMap_of fun out _ => outside out, filter_flatMap_of fun out _ => outside out]
    exact (alike.outs tidy₁ tidy₂ (fun a => Q (key a)) fun _ kept => kept).flatMap_right _
  changes := by
    intro pod isKnown inQ
    simp only [traceOf]
    have others : ∀ {tour : GuardTour σ M α}, Orderly cfg known key tour → ∀ out ∈ tour.result.1,
        decide (key out.1 = pod.uid) = false → out.2.2.filter (Guard.changes cfg pod) = [] := by
      intro tour tidy out member other
      refine List.filter_eq_nil_iff.mpr fun r asked => ?_
      rw [changes_other wellFormed isKnown (tidy.within member r asked) (of_decide_eq_false other)]
      exact Bool.false_ne_true
    rw [filter_flatMap_of (others tidy₁), filter_flatMap_of (others tidy₂),
      alike.outs_at tidy₁ tidy₂ pod.uid inQ]
  state := alike.parts tidy₁ tidy₂

/-! ## The end of both passes -/

omit [PrintTable] [Qos.ResourceHelper] in
/-- One trace after the other. -/
def Trace.append (t u : Trace σ) : Trace σ := ⟨t.errs ++ u.errs, t.requests ++ u.requests, u.state⟩

omit [Qos.ResourceHelper] in
theorem Agreed.append {Q : String → Bool} {t₁ t₂ u₁ u₂ : Trace σ} (first : Agreed cfg known Q t₁ t₂)
    (second : Agreed cfg known Q u₁ u₂) : Agreed cfg known Q (t₁.append u₁) (t₂.append u₂) where
  errs := by
    simp only [Trace.append, List.filter_append]
    exact first.errs.append second.errs
  changes pod isKnown inQ := by
    simp only [Trace.append, List.filter_append]
    rw [first.changes pod isKnown inQ, second.changes pod isKnown inQ]
  state := second.state

/-- A program that returns its errors joined, with the map. -/
structure Traced (h : Handler nodeSignature (String → σ)) (w : String → σ)
    (p : Node (Option GoError × Owned)) (t : Trace σ) : Prop where
  err : (p.run h w).1.1 = GoError.join (t.errs.map Prod.snd)
  owned : (p.run h w).1.2 = t.state.1
  world : (p.run h w).2 = t.state.2
  requests : p.requests h w = t.requests

variable (h cell) in
/-- A loop of the guard from a state. -/
def tour {M α : Type} (one : α → Owned → Node (M × Owned)) (items : List α) (x : Owned × (String → σ)) :
    GuardTour σ M α := ⟨h, fun uid => steady (cell uid), one, items, x⟩

variable (h cell cfg) in
/-- The loop over the records. -/
def restoreTour (seen : List String) (x : Owned × (String → σ)) : GuardTour σ (List GoError) String :=
  tour cell h (restoreOne cfg seen) (h x.2 (.rangeKeys x.1.keys)).1.val x

variable (h cell cfg) in
def restoreTrace (seen : List String) (x : Owned × (String → σ)) : Trace σ :=
  let trace := traceOf id id (restoreTour cfg cell h seen x)
  { trace with requests := .rangeKeys x.1.keys :: trace.requests }

omit [PrintTable] [Qos.ResourceHelper] in
theorem tags_snd {M α : Type} {key : α → String} (errs : M → List GoError)
    {outs : List (α × (M × List Request))} :
    (outs.flatMap fun out => (errs out.2.1).map fun err => (key out.1, err)).map Prod.snd =
      outs.flatMap fun out => errs out.2.1 := by
  rw [List.map_flatMap]
  simp [Function.comp_def]

omit [PrintTable] [Qos.ResourceHelper] in
theorem foldl_append {α β : Type} (f : α → List β) (l : List α) (acc : List β) :
    l.foldl (fun acc a => acc ++ f a) acc = acc ++ l.flatMap f := by
  induction l generalizing acc with
  | nil => simp
  | cons a rest ih => simp [ih]

omit [PrintTable] [Qos.ResourceHelper] in
/-- A loop that gathers errors leaves the trace of its tour. -/
theorem loop_traced (cell : String → Handler nodeSignature σ) (h : Handler nodeSignature (String → σ))
    {α : Type} (key : α → String) {loop : List α → Owned → List GoError → Node (List GoError × Owned)}
    {one : α → Owned → Node (List GoError × Owned)} (folds : Folds loop one (· ++ ·)) (items : List α)
    (owned : Owned) (errs : List GoError) (w : String → σ) {t : Trace σ}
    (trace : traceOf key id (tour cell h one items (owned, w)) = t) :
    (loop items owned errs).run h w = ((errs ++ t.errs.map Prod.snd, t.state.1), t.state.2) ∧
      (loop items owned errs).requests h w = t.requests := by
  subst trace
  obtain ⟨runs, asks⟩ := folds.run (h := h) items owned errs w rfl
  have errors : (traceOf key id (tour cell h one items (owned, w))).errs.map Prod.snd =
      (sweep (operate h one) items (owned, w)).1.flatMap fun out => out.2.1 :=
    tags_snd id
  rw [runs, asks, foldl_append, errors]
  exact ⟨rfl, rfl⟩

theorem restoreLocal_traced (separate : Separate cfg known cell h) (seen : List String) (owned : Owned)
    (errs : List GoError) (w : String → σ) {t : Trace σ} (trace : restoreTrace cfg cell h seen (owned, w) = t) :
    (restoreLocal cfg seen owned errs).run h w = ((errs ++ t.errs.map Prod.snd, t.state.1), t.state.2) ∧
      (restoreLocal cfg seen owned errs).requests h w = t.requests := by
  subst trace
  obtain ⟨runs, asks⟩ := loop_traced cell h id (restoreUnseen_folds seen)
    (h w (.rangeKeys owned.keys)).1.val owned errs w rfl
  have still := separate.walks owned.keys w
  unfold restoreLocal
  rw [Program.run_bind, Program.requests_bind]
  have asked : (ask (.rangeKeys owned.keys) : Node _).run h w = h w (.rangeKeys owned.keys) := rfl
  have request : (ask (.rangeKeys owned.keys) : Node _).requests h w = [.rangeKeys owned.keys] := rfl
  rw [asked, request, still, runs, asks]
  exact ⟨rfl, rfl⟩

/-! ## Two worlds -/

/-- Two worlds of separate pods that have in common what belongs to `Q`. -/
structure Similar (cfg : Config) (known : Pod → Prop) (Q : String → Bool)
    (cell₁ cell₂ : String → Handler nodeSignature σ) (h₁ h₂ : Handler nodeSignature (String → σ)) : Prop where
  wellFormed : ∀ pod, known pod → WellFormedUID pod.uid
  separate₁ : Separate cfg known cell₁ h₁
  separate₂ : Separate cfg known cell₂ h₂
  cells : ∀ uid, Q uid = true → cell₁ uid = cell₂ uid

/-- Two states of such worlds, with every record in its place. -/
structure Matching (known : Pod → Prop) (Q : String → Bool) (x₁ x₂ : Owned × (String → σ)) : Prop where
  keyed₁ : ∀ uid, Keyed known uid (entry x₁.1 uid)
  keyed₂ : ∀ uid, Keyed known uid (entry x₂.1 uid)
  parts : ∀ uid, Q uid = true → part entry x₁ uid = part entry x₂ uid

variable {Q : String → Bool} {cell₁ cell₂ : String → Handler nodeSignature σ}
  {h₁ h₂ : Handler nodeSignature (String → σ)} {x₁ x₂ : Owned × (String → σ)}

/-- What two loops over the same pods of `Q` come to. -/
structure Ran {M α : Type} (cfg : Config) (known : Pod → Prop) (Q : String → Bool) (key : α → String)
    (errs : M → List GoError) (tour₁ tour₂ : GuardTour σ M α) : Prop where
  agreed : Agreed cfg known Q (traceOf key errs tour₁) (traceOf key errs tour₂)
  matching : Matching known Q tour₁.result.2 tour₂.result.2
  outs₁ : tour₁.result.1 = tour₁.items.map fun a => (a, (operate tour₁.handler tour₁.one a tour₁.start).1)
  outs₂ : tour₂.result.1 = tour₂.items.map fun a => (a, (operate tour₂.handler tour₂.one a tour₂.start).1)
  values : ∀ a ∈ tour₁.items, Q (key a) = true →
    (operate tour₁.handler tour₁.one a tour₁.start).1 = (operate tour₂.handler tour₂.one a tour₂.start).1

omit [Qos.ResourceHelper] in
theorem Similar.loops {M α : Type} (similar : Similar cfg known Q cell₁ cell₂ h₁ h₂)
    (matching : Matching known Q x₁ x₂) (key : α → String) (errs : M → List GoError) (one₁ one₂ : α → Owned → Node (M × Owned))
    {items₁ items₂ : List α}
    (confined₁ : ∀ a ∈ items₁, Confined (S := nodeSignature) (About cfg known (key a)) (seenBy (key a)) entry
      (Keyed known (key a)) (key a) (one₁ a))
    (confined₂ : ∀ a ∈ items₂, Confined (S := nodeSignature) (About cfg known (key a)) (seenBy (key a)) entry
      (Keyed known (key a)) (key a) (one₂ a))
    (apart₁ : (items₁.map key).Nodup) (apart₂ : (items₂.map key).Nodup)
    (ones : ∀ a, Q (key a) = true → one₁ a = one₂ a)
    (items : ∀ a, Q (key a) = true → (a ∈ items₁ ↔ a ∈ items₂)) :
    Ran cfg known Q key errs (tour cell₁ h₁ one₁ items₁ x₁) (tour cell₂ h₂ one₂ items₂ x₂) := by
  have tidy₁ : Orderly cfg known key (tour cell₁ h₁ one₁ items₁ x₁) :=
    ⟨similar.separate₁.serves, confined₁, matching.keyed₁, apart₁⟩
  have tidy₂ : Orderly cfg known key (tour cell₂ h₂ one₂ items₂ x₂) :=
    ⟨similar.separate₂.serves, confined₂, matching.keyed₂, apart₂⟩
  have alike : Tour.Alike entry key (fun uid => Q uid = true) (tour cell₁ h₁ one₁ items₁ x₁)
      (tour cell₂ h₂ one₂ items₂ x₂) :=
    ⟨fun uid inQ => congrArg steady (similar.cells uid inQ), ones, items, matching.parts⟩
  exact ⟨agreed_of_alike errs similar.wellFormed tidy₁ tidy₂ alike,
    ⟨tidy₁.sane_end, tidy₂.sane_end, alike.parts tidy₁ tidy₂⟩, tidy₁.swept.values, tidy₂.swept.values,
    fun _ member inQ => (alike.together tidy₁ tidy₂ member inQ).value⟩

theorem restoreOne_keyed (seen : List String) (uid : String) :
    Confined (S := nodeSignature) (About cfg known uid) (seenBy uid) entry (Keyed known uid) uid
      (restoreOne cfg seen uid) :=
  restoreOne_confined (keyed_none uid)
    (fun own held => ⟨(held own rfl).1, fun _ is => ⟨own.pod, (held own rfl).2, (held own rfl).1, is⟩⟩) seen

/-- The records of pods not listed, in whatever order the map is walked. -/
theorem Similar.restore (similar : Similar cfg known Q cell₁ cell₂ h₁ h₂) (matching : Matching known Q x₁ x₂)
    {seen₁ seen₂ : List String} (seen : ∀ uid, uid ∈ seen₁ ↔ uid ∈ seen₂) :
    Agreed cfg known Q (restoreTrace cfg cell₁ h₁ seen₁ x₁) (restoreTrace cfg cell₂ h₂ seen₂ x₂) := by
  have walked : ∀ (h : Handler nodeSignature (String → σ)) (x : Owned × (String → σ)) (uid : String),
      uid ∈ (h x.2 (.rangeKeys x.1.keys)).1.val ↔ (entry x.1 uid).isSome := by
    intro h x uid
    rw [← List.mem_toFinset, (h x.2 (.rangeKeys x.1.keys)).1.property.2, Finmap.mem_keys, Finmap.mem_iff,
      entry, Option.isSome_iff_exists]
  have ones : ∀ uid, restoreOne cfg seen₁ uid = restoreOne cfg seen₂ uid := by
    intro uid
    funext owned
    simp only [restoreOne, restoreUnseen, seen]
  have ran := similar.loops matching id id (restoreOne cfg seen₁) (restoreOne cfg seen₂)
    (fun uid _ => restoreOne_keyed seen₁ uid) (fun uid _ => restoreOne_keyed seen₂ uid)
    (by rw [List.map_id]; exact (h₁ x₁.2 (.rangeKeys x₁.1.keys)).1.property.1)
    (by rw [List.map_id]; exact (h₂ x₂.2 (.rangeKeys x₂.1.keys)).1.property.1)
    (fun uid _ => ones uid) fun uid inQ => by
      rw [walked, walked, show entry x₁.1 uid = entry x₂.1 uid from congrArg Prod.fst (matching.parts uid inQ)]
  exact ⟨ran.agreed.errs, ran.agreed.changes, ran.agreed.state⟩

/-! ## `Recover` -/

omit [PrintTable] [Qos.ResourceHelper] in
theorem perm_seen {pods₁ pods₂ : List Pod} (perm : pods₁.Perm pods₂) (uid : String) :
    uid ∈ pods₁.map Pod.uid ↔ uid ∈ pods₂.map Pod.uid :=
  (perm.map Pod.uid).mem_iff

theorem recoverOne_keyed {pod : Pod} (isKnown : known pod) :
    Confined (S := nodeSignature) (About cfg known pod.uid) (seenBy pod.uid) entry (Keyed known pod.uid) pod.uid
      (recoverOne cfg pod) :=
  recoverOne_confined (mine known isKnown) (keyed_none _)

variable (h cell cfg) in
/-- Both loops of `Recover`. -/
def recoverTrace (pods : List Pod) (x : Owned × (String → σ)) : Trace σ :=
  let first := traceOf Pod.uid id (tour cell h (recoverOne cfg) pods x)
  first.append (restoreTrace cfg cell h (pods.map Pod.uid) first.state)

/-- A first part, the loop over the records, and the join. -/
theorem Separate.traced (separate : Separate cfg known cell h) {gather : Node (List GoError × Owned)}
    {t : Trace σ} {w : String → σ} (runs : gather.run h w = ((t.errs.map Prod.snd, t.state.1), t.state.2))
    (asks : gather.requests h w = t.requests) (seen : List String) :
    Traced h w (gather >>= fun gathered => restoreLocal cfg seen gathered.2 gathered.1 >>= fun all =>
      return (GoError.join all.1, all.2)) (t.append (restoreTrace cfg cell h seen t.state)) := by
  obtain ⟨restores, restoreAsks⟩ := restoreLocal_traced separate seen t.state.1 (t.errs.map Prod.snd) t.state.2 rfl
  refine ⟨?_, ?_, ?_, ?_⟩
  · rw [Program.run_bind, runs, Program.run_bind, restores]
    exact congrArg GoError.join List.map_append.symm
  · rw [Program.run_bind, runs, Program.run_bind, restores]
    rfl
  · rw [Program.run_bind, runs, Program.run_bind, restores]
    rfl
  · rw [Program.requests_bind, asks, runs, Program.requests_bind, restoreAsks, restores]
    exact congrArg (t.requests ++ ·) (List.append_nil _)

theorem recover_traced (separate : Separate cfg known cell h) (pods : List Pod) (owned : Owned) (w : String → σ) :
    Traced h w (recover cfg (return .ok pods) owned) (recoverTrace cfg cell h pods (owned, w)) := by
  have folds : Folds (recoverPods cfg) (recoverOne cfg) (· ++ ·) := recoverPods_folds
  obtain ⟨runs, asks⟩ := loop_traced cell h Pod.uid folds pods owned [] w rfl
  exact separate.traced runs asks (pods.map Pod.uid)

theorem recover_agreed (similar : Similar cfg known Q cell₁ cell₂ h₁ h₂) (matching : Matching known Q x₁ x₂)
    {pods₁ pods₂ : List Pod} (listed : ∀ pod ∈ pods₁, known pod) (apart : (pods₁.map Pod.uid).Nodup)
    (perm : pods₁.Perm pods₂) :
    Agreed cfg known Q (recoverTrace cfg cell₁ h₁ pods₁ x₁) (recoverTrace cfg cell₂ h₂ pods₂ x₂) := by
  have ran := similar.loops matching Pod.uid id (recoverOne cfg) (recoverOne cfg)
    (fun pod member => recoverOne_keyed (listed pod member))
    (fun pod member => recoverOne_keyed (listed pod (perm.mem_iff.mpr member)))
    apart ((perm.map Pod.uid).nodup_iff.mp apart) (fun _ _ => rfl) fun _ _ => perm.mem_iff
  exact ran.agreed.append (similar.restore ran.matching (perm_seen perm))

/-! ## `converge` -/

/-- What the first loop gathers. -/
def gather (outs : List (Pod × (Marks × List Request))) : Marks :=
  outs.foldl (fun marks out => addMarks marks out.2.1) ([], [], [])

omit [PrintTable] [Qos.ResourceHelper] in
theorem foldl_addMarks (outs : List (Pod × (Marks × List Request))) (marks : Marks) :
    (outs.foldl (fun marks out => addMarks marks out.2.1) marks).1 = marks.1 ++ outs.flatMap (fun out => out.2.1.1) ∧
      (∀ uid, uid ∈ (outs.foldl (fun marks out => addMarks marks out.2.1) marks).2.1 ↔
        uid ∈ marks.2.1 ∨ ∃ out ∈ outs, uid ∈ out.2.1.2.1) ∧
      (outs.foldl (fun marks out => addMarks marks out.2.1) marks).2.2 =
        marks.2.2 ++ outs.flatMap fun out => out.2.1.2.2 := by
  induction outs generalizing marks with
  | nil => simp
  | cons out rest ih =>
      obtain ⟨eligible, restored, errs⟩ := ih (addMarks marks out.2.1)
      rw [List.foldl_cons]
      refine ⟨?_, fun uid => ?_, ?_⟩
      · rw [eligible]
        simp [addMarks]
      · rw [restored]
        simp only [addMarks, List.mem_append, List.mem_cons, exists_eq_or_imp]
        tauto
      · rw [errs]
        simp [addMarks]

/-- A pod is marked eligible or restored, if at all, under its own name. -/
theorem convergeOne_marks {W : Type} {h : Handler nodeSignature W} (hot : Bool) (candidateUIDs : List String)
    (pod : Pod) (owned : Owned) (w : W) :
    (((convergeOne cfg hot candidateUIDs pod owned).run h w).1.1.1 = [] ∨
        ((convergeOne cfg hot candidateUIDs pod owned).run h w).1.1.1 = [pod]) ∧
      ∀ uid ∈ ((convergeOne cfg hot candidateUIDs pod owned).run h w).1.1.2.1, uid = pod.uid := by
  unfold convergeOne convergePod
  dsimp only
  cases stateForPod owned pod with
  | error err => simp [Pass.marks]
  | ok marked =>
      rw [Program.run_bind, Program.run_bind]
      cases marked with
      | none =>
          dsimp only
          split <;> simp [Pass.marks]
      | some state =>
          dsimp only
          split
          · simp [Pass.marks]
          · split <;> simp [Pass.marks]

variable (h cell cfg) in
/-- All three loops of `converge`. -/
def convergeTrace (hot : Bool) (candidateUIDs : List String) (pods : List Pod) (x : Owned × (String → σ)) :
    Trace σ :=
  let first := tour cell h (convergeOne cfg hot candidateUIDs) pods x
  let marks := gather first.result.1
  let second := tour cell h (suppressOne cfg marks.2.1) (if hot then marks.1 else []) first.result.2
  let both := (traceOf Pod.uid (fun marks => marks.2.2) first).append (traceOf Pod.uid id second)
  both.append (restoreTrace cfg cell h (pods.map Pod.uid) both.state)

theorem convergePods_run (hot : Bool) (candidateUIDs : List String) (pods : List Pod) (owned : Owned)
    (w : String → σ) {first : List (Pod × (Marks × List Request)) × (Owned × (String → σ))}
    (tours : (tour cell h (convergeOne cfg hot candidateUIDs) pods (owned, w)).result = first) :
    (convergePods cfg hot candidateUIDs pods ⟨owned, [], [], []⟩).run h w =
        (⟨first.2.1, (gather first.1).1, (gather first.1).2.1, (gather first.1).2.2⟩, first.2.2) ∧
      (convergePods cfg hot candidateUIDs pods ⟨owned, [], [], []⟩).requests h w =
        first.1.flatMap fun out => out.2.2 := by
  have folds : Folds (convergeLoop cfg hot candidateUIDs) _ addMarks := convergeLoop_folds hot candidateUIDs
  obtain ⟨runs, asks⟩ := folds.run pods owned ([], [], []) w tours
  unfold convergeLoop at runs asks
  rw [Program.run_bind] at runs
  rw [Program.requests_bind] at asks
  obtain ⟨marks, world⟩ := Prod.mk.inj runs
  obtain ⟨marks, map⟩ := Prod.mk.inj marks
  refine ⟨Prod.ext ?_ world, (List.append_nil _).symm.trans asks⟩
  show _ = Pass.mk _ (gather first.1).1 (gather first.1).2.1 (gather first.1).2.2
  rw [gather, ← marks]
  exact congrArg (fun o => Pass.mk o _ _ _) map

omit [PrintTable] [Qos.ResourceHelper] in
theorem gather_errs (outs : List (Pod × (Marks × List Request))) :
    (gather outs).2.2 =
      (outs.flatMap fun out => out.2.1.2.2.map fun err => (out.1.uid, err)).map Prod.snd := by
  have errs := (foldl_addMarks outs ([], [], [])).2.2
  rw [List.nil_append] at errs
  rw [gather, errs, tags_snd fun marks : Marks => marks.2.2]

omit [Qos.ResourceHelper] in
variable (cfg cell h) in
/-- The second loop, which a cool pass skips. -/
theorem suppressPods_traced (hot : Bool) (restoredThisPass : List String) (eligible : List Pod) (owned : Owned)
    (errs : List GoError) (w : String → σ) {t : Trace σ}
    (trace : traceOf Pod.uid id (tour cell h (suppressOne cfg restoredThisPass) (if hot then eligible else [])
      (owned, w)) = t) :
    (if hot then suppressPods cfg restoredThisPass eligible owned errs else return (errs, owned) :
        Node (List GoError × Owned)).run h w = ((errs ++ t.errs.map Prod.snd, t.state.1), t.state.2) ∧
      (if hot then suppressPods cfg restoredThisPass eligible owned errs else return (errs, owned) :
        Node (List GoError × Owned)).requests h w = t.requests := by
  cases hot with
  | true => exact loop_traced cell h Pod.uid (suppressPods_folds restoredThisPass) eligible owned errs w trace
  | false =>
      subst trace
      refine ⟨?_, rfl⟩
      show ((errs, owned), w) = ((errs ++ [], owned), w)
      rw [List.append_nil]

theorem converge_traced (separate : Separate cfg known cell h) (hot : Bool) (pods candidates : List Pod)
    (owned : Owned) (w : String → σ) : Traced h w (converge cfg owned hot pods candidates)
      (convergeTrace cfg cell h hot (candidates.map Pod.uid) pods (owned, w)) := by
  have assoc : converge cfg owned hot pods candidates =
      (convergePods cfg hot (candidates.map Pod.uid) pods ⟨owned, [], [], []⟩ >>= fun pass =>
        if hot then suppressPods cfg pass.restoredThisPass pass.eligible pass.owned pass.errs
        else return (pass.errs, pass.owned)) >>= fun gathered =>
      restoreLocal cfg (pods.map Pod.uid) gathered.2 gathered.1 >>= fun all =>
        return (GoError.join all.1, all.2) := by
    rw [bind_assoc]
    rfl
  rw [assoc]
  unfold convergeTrace
  generalize tours : tour cell h (convergeOne cfg hot (candidates.map Pod.uid)) pods (owned, w) = first
  obtain ⟨runs, asks⟩ := convergePods_run hot (candidates.map Pod.uid) pods owned w (congrArg Tour.result tours)
  obtain ⟨suppresses, suppressAsks⟩ := suppressPods_traced cfg cell h hot (gather first.result.1).2.1
    (gather first.result.1).1 first.result.2.1 (gather first.result.1).2.2 first.result.2.2 rfl
  refine separate.traced ?_ ?_ (pods.map Pod.uid)
  · rw [Program.run_bind, runs, suppresses, gather_errs, ← List.map_append]
    rfl
  · rw [Program.requests_bind, runs, asks, suppressAsks]
    rfl

theorem convergeOne_keyed (hot : Bool) (candidateUIDs : List String) {pod : Pod} (isKnown : known pod) :
    Confined (S := nodeSignature) (About cfg known pod.uid) (seenBy pod.uid) entry (Keyed known pod.uid) pod.uid
      (convergeOne cfg hot candidateUIDs pod) :=
  convergeOne_confined (mine known isKnown) (keyed_none _) hot candidateUIDs

omit [Qos.ResourceHelper] in
theorem suppressOne_keyed (restoredThisPass : List String) {pod : Pod} (isKnown : known pod) :
    Confined (S := nodeSignature) (About cfg known pod.uid) (seenBy pod.uid) entry (Keyed known pod.uid) pod.uid
      (suppressOne cfg restoredThisPass pod) :=
  suppressOne_confined (mine known isKnown)
    (fun state own held => by cases held; exact ⟨rfl, isKnown⟩) restoredThisPass

/-- The eligible pods are among those listed, each once. -/
theorem gather_eligible {hot : Bool} {candidateUIDs : List String} {pods : List Pod} {x : Owned × (String → σ)}
    {outs : List (Pod × (Marks × List Request))}
    (values : outs = pods.map fun pod => (pod, (operate h (convergeOne cfg hot candidateUIDs) pod x).1)) :
    (gather outs).1.Sublist pods ∧ ∀ pod, pod ∈ (gather outs).1 ↔
      pod ∈ pods ∧ (operate h (convergeOne cfg hot candidateUIDs) pod x).1.1.1 = [pod] := by
  have eligible : (gather outs).1 =
      pods.flatMap fun pod => (operate h (convergeOne cfg hot candidateUIDs) pod x).1.1.1 := by
    rw [gather, (foldl_addMarks outs ([], [], [])).1, List.nil_append, values, List.flatMap_map]
  have chunks : ∀ pod ∈ pods, (operate h (convergeOne cfg hot candidateUIDs) pod x).1.1.1 = [] ∨
      (operate h (convergeOne cfg hot candidateUIDs) pod x).1.1.1 = [pod] := fun pod _ =>
    (convergeOne_marks hot candidateUIDs pod x.1 x.2).1
  rw [eligible]
  exact ⟨flatMap_sublist chunks, fun pod => mem_flatMap_self chunks⟩

theorem gather_restored {hot : Bool} {candidateUIDs : List String} {pods : List Pod} {x : Owned × (String → σ)}
    {outs : List (Pod × (Marks × List Request))}
    (values : outs = pods.map fun pod => (pod, (operate h (convergeOne cfg hot candidateUIDs) pod x).1))
    (uid : String) : uid ∈ (gather outs).2.1 ↔ ∃ pod ∈ pods, pod.uid = uid ∧
      uid ∈ (operate h (convergeOne cfg hot candidateUIDs) pod x).1.1.2.1 := by
  rw [gather, (foldl_addMarks outs ([], [], [])).2.1 uid, values]
  simp only [List.not_mem_nil, false_or, List.mem_map, exists_exists_and_eq_and]
  constructor
  · rintro ⟨pod, member, marked⟩
    exact ⟨pod, member, ((convergeOne_marks hot candidateUIDs pod x.1 x.2).2 uid marked).symm, marked⟩
  · rintro ⟨pod, member, -, marked⟩
    exact ⟨pod, member, marked⟩

theorem converge_agreed (similar : Similar cfg known Q cell₁ cell₂ h₁ h₂) (matching : Matching known Q x₁ x₂)
    (hot : Bool) {pods₁ pods₂ : List Pod} (listed : ∀ pod ∈ pods₁, known pod)
    (apart : (pods₁.map Pod.uid).Nodup) (perm : pods₁.Perm pods₂) {candidates₁ candidates₂ : List String}
    (candidates : ∀ uid, uid ∈ candidates₁ ↔ uid ∈ candidates₂) :
    Agreed cfg known Q (convergeTrace cfg cell₁ h₁ hot candidates₁ pods₁ x₁)
      (convergeTrace cfg cell₂ h₂ hot candidates₂ pods₂ x₂) := by
  have listed₂ : ∀ pod ∈ pods₂, known pod := fun pod member => listed pod (perm.mem_iff.mpr member)
  have apart₂ : (pods₂.map Pod.uid).Nodup := (perm.map Pod.uid).nodup_iff.mp apart
  have ones : ∀ pod, convergeOne cfg hot candidates₁ pod = convergeOne cfg hot candidates₂ pod := by
    intro pod
    funext owned
    simp only [convergeOne, convergePod, eligibility, candidates]
  have first := similar.loops matching Pod.uid (fun marks => marks.2.2) (convergeOne cfg hot candidates₁)
    (convergeOne cfg hot candidates₂)
    (fun pod member => convergeOne_keyed hot candidates₁ (listed pod member))
    (fun pod member => convergeOne_keyed hot candidates₂ (listed₂ pod member))
    apart apart₂ (fun pod _ => ones pod) fun _ _ => perm.mem_iff
  have values : ∀ pod ∈ pods₁, Q pod.uid = true → (operate h₁ (convergeOne cfg hot candidates₁) pod x₁).1 =
      (operate h₂ (convergeOne cfg hot candidates₂) pod x₂).1 := first.values
  have outs₁ : (tour cell₁ h₁ (convergeOne cfg hot candidates₁) pods₁ x₁).result.1 =
      pods₁.map fun pod => (pod, (operate h₁ (convergeOne cfg hot candidates₁) pod x₁).1) := first.outs₁
  have outs₂ : (tour cell₂ h₂ (convergeOne cfg hot candidates₂) pods₂ x₂).result.1 =
      pods₂.map fun pod => (pod, (operate h₂ (convergeOne cfg hot candidates₂) pod x₂).1) := first.outs₂
  obtain ⟨agreed, after⟩ : _ ∧ _ := ⟨first.agreed, first.matching⟩
  clear first
  unfold convergeTrace
  generalize tour cell₁ h₁ (convergeOne cfg hot candidates₁) pods₁ x₁ = first₁ at *
  generalize tour cell₂ h₂ (convergeOne cfg hot candidates₂) pods₂ x₂ = first₂ at *
  obtain ⟨inside₁, eligible₁⟩ := gather_eligible outs₁
  obtain ⟨inside₂, eligible₂⟩ := gather_eligible outs₂
  have eligible : ∀ pod, Q pod.uid = true →
      (pod ∈ (gather first₁.result.1).1 ↔ pod ∈ (gather first₂.result.1).1) := by
    intro pod inQ
    rw [eligible₁, eligible₂, ← perm.mem_iff]
    exact and_congr_right fun member => by rw [values pod member inQ]
  have restored : ∀ uid, Q uid = true →
      (uid ∈ (gather first₁.result.1).2.1 ↔ uid ∈ (gather first₂.result.1).2.1) := by
    intro uid inQ
    rw [gather_restored outs₁, gather_restored outs₂]
    refine exists_congr fun pod => ?_
    rw [← perm.mem_iff]
    exact and_congr_right fun member => and_congr_right fun named => by rw [values pod member (named ▸ inQ)]
  have chosen₁ : (if hot then (gather first₁.result.1).1 else []).Sublist pods₁ := by
    cases hot with
    | true => exact inside₁
    | false => exact List.nil_sublist _
  have chosen₂ : (if hot then (gather first₂.result.1).1 else []).Sublist pods₂ := by
    cases hot with
    | true => exact inside₂
    | false => exact List.nil_sublist _
  have second := similar.loops after Pod.uid id (suppressOne cfg (gather first₁.result.1).2.1)
    (suppressOne cfg (gather first₂.result.1).2.1)
    (fun pod member => suppressOne_keyed _ (listed pod (chosen₁.subset member)))
    (fun pod member => suppressOne_keyed _ (listed₂ pod (chosen₂.subset member)))
    ((chosen₁.map Pod.uid).nodup apart) ((chosen₂.map Pod.uid).nodup apart₂)
    (fun pod inQ => by
      funext owned
      simp only [suppressOne, suppressPods, restored pod.uid inQ])
    (fun pod inQ => by cases hot <;> simp [eligible pod inQ])
  exact (agreed.append second.agreed).append (similar.restore second.matching (perm_seen perm))

/-! ## Independence -/

/-- Two passes that leave the same world and the same map, and return the same errors in some order. -/
structure SameOutcome (h₁ h₂ : Handler nodeSignature (String → σ)) (w₁ w₂ : String → σ)
    (p₁ p₂ : Node (Option GoError × Owned)) : Prop where
  world : (p₁.run h₁ w₁).2 = (p₂.run h₂ w₂).2
  owned : (p₁.run h₁ w₁).1.2 = (p₂.run h₂ w₂).1.2
  errs : ∃ errs₁ errs₂ : List GoError, (p₁.run h₁ w₁).1.1 = GoError.join errs₁ ∧
    (p₂.run h₂ w₂).1.1 = GoError.join errs₂ ∧ errs₁.Perm errs₂

/-- Two passes that make the same writes and patches for every pod but one and leave it the same. -/
structure SameElsewhere (cfg : Config) (known : Pod → Prop) (failing : String)
    (h₁ h₂ : Handler nodeSignature (String → σ)) (w₁ w₂ : String → σ)
    (p₁ p₂ : Node (Option GoError × Owned)) : Prop where
  changes : ∀ pod, known pod → pod.uid ≠ failing →
    (p₁.requests h₁ w₁).filter (changes cfg pod) = (p₂.requests h₂ w₂).filter (changes cfg pod)
  world : ∀ uid, uid ≠ failing → (p₁.run h₁ w₁).2 uid = (p₂.run h₂ w₂).2 uid
  owned : ∀ uid, uid ≠ failing → (p₁.run h₁ w₁).1.2.lookup uid = (p₂.run h₂ w₂).1.2.lookup uid

variable {p₁ p₂ : Node (Option GoError × Owned)} {t₁ t₂ : Trace σ} {w₁ w₂ : String → σ}

omit [Qos.ResourceHelper] in
theorem Agreed.sameOutcome (agreed : Agreed cfg known (fun _ => true) t₁ t₂) (traced₁ : Traced h₁ w₁ p₁ t₁)
    (traced₂ : Traced h₂ w₂ p₂ t₂) : SameOutcome h₁ h₂ w₁ w₂ p₁ p₂ where
  world := by
    rw [traced₁.world, traced₂.world]
    exact funext fun uid => congrArg Prod.snd (agreed.state uid rfl)
  owned := by
    rw [traced₁.owned, traced₂.owned]
    exact Finmap.ext_lookup fun uid => congrArg Prod.fst (agreed.state uid rfl)
  errs := by
    have perm := agreed.errs
    rw [List.filter_true, List.filter_true] at perm
    exact ⟨_, _, traced₁.err, traced₂.err, perm.map Prod.snd⟩

omit [Qos.ResourceHelper] in
theorem Agreed.sameElsewhere {failing : String} (agreed : Agreed cfg known (fun uid => uid ≠ failing) t₁ t₂)
    (traced₁ : Traced h₁ w₁ p₁ t₁) (traced₂ : Traced h₂ w₂ p₂ t₂) :
    SameElsewhere cfg known failing h₁ h₂ w₁ w₂ p₁ p₂ where
  changes pod isKnown other := by
    rw [traced₁.requests, traced₂.requests]
    exact agreed.changes pod isKnown (decide_eq_true other)
  world uid other := by
    rw [traced₁.world, traced₂.world]
    exact congrArg Prod.snd (agreed.state uid (decide_eq_true other))
  owned uid other := by
    rw [traced₁.owned, traced₂.owned]
    exact congrArg Prod.fst (agreed.state uid (decide_eq_true other))

/-- **A pass treats pods independently**: neither the order of the lists and of the map nor what
fails for one pod makes a difference to any other. -/
theorem passes_independent {cell cell' : String → Handler nodeSignature σ}
    {h₁ h₂ h' : Handler nodeSignature (String → σ)} {w w' : String → σ} {failing : String} {owned : Owned}
    {pods pods' candidates candidates' : List Pod} (wellFormed : ∀ pod, known pod → WellFormedUID pod.uid)
    (separate₁ : Separate cfg known cell h₁) (separate₂ : Separate cfg known cell h₂)
    (separate' : Separate cfg known cell' h') (cells : ∀ uid, uid ≠ failing → cell uid = cell' uid)
    (states : ∀ uid, uid ≠ failing → w uid = w' uid) (keyed : ∀ uid, Keyed known uid (owned.lookup uid))
    (listed : ∀ pod ∈ pods, known pod) (apart : (pods.map Pod.uid).Nodup) (order : pods.Perm pods')
    (order' : candidates.Perm candidates') (hot : Bool) :
    (SameOutcome h₁ h₂ w w (converge cfg owned hot pods candidates) (converge cfg owned hot pods' candidates') ∧
      SameElsewhere cfg known failing h₁ h' w w' (converge cfg owned hot pods candidates)
        (converge cfg owned hot pods candidates)) ∧
    SameOutcome h₁ h₂ w w (recover cfg (return .ok pods) owned) (recover cfg (return .ok pods') owned) ∧
      SameElsewhere cfg known failing h₁ h' w w' (recover cfg (return .ok pods) owned)
        (recover cfg (return .ok pods) owned) := by
  have similar : Similar cfg known (fun _ => true) cell cell h₁ h₂ :=
    ⟨wellFormed, separate₁, separate₂, fun _ _ => rfl⟩
  have similar' : Similar cfg known (fun uid => uid ≠ failing) cell cell' h₁ h' :=
    ⟨wellFormed, separate₁, separate', fun uid other => cells uid (of_decide_eq_true other)⟩
  have matching : Matching known (fun _ => true) (owned, w) (owned, w) := ⟨keyed, keyed, fun _ _ => rfl⟩
  have matching' : Matching known (fun uid => uid ≠ failing) (owned, w) (owned, w') :=
    ⟨keyed, keyed, fun uid other => Prod.ext rfl (states uid (of_decide_eq_true other))⟩
  refine ⟨⟨?_, ?_⟩, ?_, ?_⟩
  · exact (converge_agreed similar matching hot listed apart order (perm_seen order')).sameOutcome
      (converge_traced separate₁ hot pods candidates owned w)
      (converge_traced separate₂ hot pods' candidates' owned w)
  · exact (converge_agreed similar' matching' hot listed apart (.refl pods) fun _ => .rfl).sameElsewhere
      (converge_traced separate₁ hot pods candidates owned w)
      (converge_traced separate' hot pods candidates owned w')
  · exact (recover_agreed similar matching listed apart order).sameOutcome
      (recover_traced separate₁ pods owned w) (recover_traced separate₂ pods' owned w)
  · exact (recover_agreed similar' matching' listed apart (.refl pods)).sameElsewhere
      (recover_traced separate₁ pods owned w) (recover_traced separate' pods owned w')

end

/-! ## Two pods, one of which refuses to be frozen -/

section

attribute [local instance] asciiTable Qos.containerRequests

def siblingPod : Pod := { samplePod with name := "db", uid := "5b0c-2" }

def siblingScene : Scene where
  cfg := ⟨sampleLayout, "node-a"⟩
  pod := siblingPod
  dir := "/sys/fs/cgroup/kubepods/burstable/pod5b0c-2"
  computed := rfl
  wellFormed := ⟨by decide, by decide, by decide⟩

def sceneOf (uid : String) : Scene := if uid = siblingPod.uid then siblingScene else sampleScene

/-- The pod a request is about. -/
def address : Request → Option String
  | .readFile dir _ | .stat dir | .writeFile dir _ _ =>
      if dir = siblingScene.dir then some siblingPod.uid
      else if dir = sampleScene.dir then some samplePod.uid
      else none
  | .getPod _ name | .patchPod _ name _ =>
      if name = siblingPod.name then some siblingPod.uid
      else if name = samplePod.name then some samplePod.uid
      else none
  | _ => none

def twoPods (refuses : String → Bool → Bool) : Handler nodeSignature (String → OnePod) := fun w r =>
  match address r with
  | some uid =>
      let result := (sceneOf uid).handler (refuses uid) (w uid) r
      (result.1, Function.update w uid result.2)
  | none => ((sampleScene.handler (refuses samplePod.uid) (w samplePod.uid) r).1, w)

theorem twoPods_address {refuses : String → Bool → Bool} {r : Request} {uid : String}
    (addressed : address r = some uid) (w : String → OnePod) :
    twoPods refuses w r = (((sceneOf uid).handler (refuses uid) (w uid) r).1,
      Function.update w uid ((sceneOf uid).handler (refuses uid) (w uid) r).2) := by
  unfold twoPods
  split
  · rename_i other found
    cases found.symm.trans addressed
    rfl
  · rename_i none
    cases none.symm.trans addressed

theorem address_about {pod : Pod} (isKnown : pod ∈ [samplePod, siblingPod]) {r : Request}
    (is : AboutPod sampleScene.cfg pod r) (proper : ¬ Neutral r) : address r = some pod.uid := by
  have inDir : ∀ dir, podDir sampleScene.cfg pod = .ok dir →
      (if dir = siblingScene.dir then some siblingPod.uid
        else if dir = sampleScene.dir then some samplePod.uid else none) = some pod.uid := by
    intro dir computed
    rcases List.mem_pair.mp isKnown with rfl | rfl
    · cases sampleScene.computed.symm.trans computed
      rfl
    · cases siblingScene.computed.symm.trans computed
      rfl
  have named : ∀ name, name = pod.name →
      (if name = siblingPod.name then some siblingPod.uid
        else if name = samplePod.name then some samplePod.uid else none) = some pod.uid := by
    rintro name rfl
    rcases List.mem_pair.mp isKnown with rfl | rfl <;> rfl
  cases r with
  | readFile dir name => exact inDir dir is
  | stat dir => exact inDir dir is
  | writeFile dir name value => exact inDir dir is
  | getPod ns name => exact named name is.2
  | patchPod ns name patch => exact named name is.2.1
  | ctxErr => exact absurd trivial proper
  | inc counter => exact absurd trivial proper
  | event e => exact absurd trivial proper
  | _ => exact is.elim

theorem twoPods_separate (refuses : String → Bool → Bool) :
    Separate sampleScene.cfg (· ∈ [samplePod, siblingPod])
      (fun uid => (sceneOf uid).handler (refuses uid)) (twoPods refuses) where
  live w := rfl
  counts counter w := rfl
  tells e w := rfl
  walks keys w := rfl
  answer pod isKnown r is proper w := by rw [twoPods_address (address_about isKnown is proper)]
  state pod isKnown r is proper w := by rw [twoPods_address (address_about isKnown is proper)]

theorem passes_independent_two :
    SameElsewhere sampleScene.cfg (· ∈ [samplePod, siblingPod]) siblingPod.uid (twoPods fun _ _ => false)
      (twoPods fun uid _ => uid = siblingPod.uid) (fun _ => untouchedPod) (fun _ => untouchedPod)
      (converge sampleScene.cfg ∅ true [samplePod, siblingPod] [samplePod, siblingPod])
      (converge sampleScene.cfg ∅ true [samplePod, siblingPod] [samplePod, siblingPod]) := by
  have wellFormed : ∀ pod ∈ [samplePod, siblingPod], WellFormedUID pod.uid := by
    intro pod isKnown
    rcases List.mem_pair.mp isKnown with rfl | rfl
    · exact sampleScene.wellFormed
    · exact siblingScene.wellFormed
  have cells : ∀ uid, uid ≠ siblingPod.uid → (sceneOf uid).handler (fun _ => false) =
      (sceneOf uid).handler fun _ => decide (uid = siblingPod.uid) := by
    intro uid other
    rw [decide_eq_false other]
  exact (passes_independent wellFormed (twoPods_separate _) (twoPods_separate _) (twoPods_separate _) cells
    (fun _ _ => rfl) (fun uid own held => by simp at held) (fun _ member => member) (by decide)
    (.swap siblingPod samplePod []) (.swap siblingPod samplePod []) true).1.2

end

end CpuIdle.Guard
