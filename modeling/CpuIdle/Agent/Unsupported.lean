/-
# Agent.Unsupported — how often a pod hears that the node does not support it

Runs of the degraded loop, one delivery of a key after another. A history lists them
with the newest first: what the cache held, and which Events were emitted.

* `holder`, `standing` — what the deliveries so far say about a key, and about a UID;
* `Tracks` — the two maps hold just that, as signatures;
* `told_of_delivery` — a delivery emits `EnvironmentUnsupported` when the request or
  the notes are new;
* `degraded_reports_once` — so it is once per request in the runs where no notes change
  while the request stands, and in no others.
-/
import CpuIdle.Agent.Notice
import CpuIdle.Node.Sample
import CpuIdle.Theory.Run

namespace CpuIdle.Agent

open CpuIdle.Go CpuIdle.Kube CpuIdle.Node CpuIdle.Theory CpuIdle.Observe

set_option autoImplicit false

/-! ## Deliveries -/

/-- What the cache held under the key of a delivery. -/
inductive Seen where
  | unread
  | gone
  | pod (pod : Pod)

def seenOf : GetResult → Seen
  | .found pod => .pod pod
  | .notFound => .gone
  | .failed _ => .unread

def seenIn : List (Program.Event nodeSignature) → Seen
  | ⟨.getCache _ _, answer⟩ :: _ => seenOf answer
  | _ => .unread

structure Delivery where
  key : String
  seen : Seen
  told : List Event

/-- How often this UID heard that its node does not support it. -/
def Delivery.heard (delivery : Delivery) (uid : String) : Nat :=
  delivery.told.countP fun e => e.reason = "EnvironmentUnsupported" ∧ e.uid = uid

/-- The deliveries of a run, the newest first. -/
abbrev History := List Delivery

/-- The UID last found under a key that is still there. -/
def holder : History → String → Option String
  | [], _ => none
  | delivery :: before, key =>
      if delivery.key = key then
        match delivery.seen with
        | .unread => holder before key
        | .gone => none
        | .pod pod => some pod.uid
      else holder before key

/-- The pod last observed with a UID, unless its key has since lost it. -/
def standing : History → String → Option Pod
  | [], _ => none
  | delivery :: before, uid =>
      match delivery.seen with
      | .unread => standing before uid
      | .gone => if holder before delivery.key = some uid then none else standing before uid
      | .pod pod =>
          if pod.uid = uid then some pod
          else if holder before delivery.key = some uid then none
          else standing before uid

section

variable [PrintTable] [Qos.ResourceHelper]

/-- A run of the degraded loop from its start. -/
inductive DegradedRun (node : String) : History → Degraded → Prop where
  | start : DegradedRun node [] .new
  | deliver {history : History} {state : Degraded} {key : String} {result : Option GoError × Degraded}
      {events : List (Program.Event nodeSignature)} (run : DegradedRun node history state)
      (path : Program.Path (reconcileDegraded node state key) events (.done result)) :
      DegradedRun node (⟨key, seenIn events, toldIn events⟩ :: history) result.2

/-! ## One delivery -/

/-- What the loop over the notes emits. -/
def unknownEvents (pod : Pod) (notes : List Tier.Note) : List Event :=
  (notes.filter fun note => note.code = Tier.noteUnknownTierValue).map fun note =>
    podEvent pod eventTypeNormal "TierValueUnknown" note.message

/-- All Events for a pod whose signature is new. -/
def degradedEvents (node : String) (pod : Pod) : List Event :=
  unknownEvents pod (Tier.desired pod).2 ++
    if unsupported pod then
      [podEvent pod eventTypeWarning "EnvironmentUnsupported" (unsupportedMessage node)]
    else []

omit [PrintTable] [Qos.ResourceHelper] in
theorem reportUnknown_path {pod : Pod} {notes : List Tier.Note}
    {events : List (Program.Event nodeSignature)} {result : Unit}
    (path : Program.Path (reportUnknown pod notes) events (.done result)) :
    toldIn events = unknownEvents pod notes := by
  induction notes generalizing events with
  | nil =>
      obtain ⟨rfl, -⟩ := path.of_done
      rfl
  | cons note rest ih =>
      unfold reportUnknown at path
      by_cases unknown : note.code = Tier.noteUnknownTierValue
      · rw [if_pos unknown] at path
        obtain ⟨-, later, rfl, path⟩ := path.of_request
        rw [unknownEvents, List.filter_cons_of_pos (by simpa using unknown), List.map_cons]
        exact congrArg (List.cons _) (ih path)
      · rw [if_neg unknown] at path
        rw [unknownEvents, List.filter_cons_of_neg (by simpa using unknown)]
        exact ih path

theorem reportDegraded_path {node : String} {pod : Pod} {events : List (Program.Event nodeSignature)}
    {result : Unit} (path : Program.Path (reportDegraded node pod) events (.done result)) :
    toldIn events = degradedEvents node pod := by
  obtain ⟨noted, ⟨⟩, rest, rfl, notes, last⟩ := path.of_bind
  have told : toldIn (noted ++ rest) = toldIn noted ++ toldIn rest := List.filterMap_append
  rw [told, reportUnknown_path notes, degradedEvents]
  congr 1
  cases asks : unsupported pod with
  | false =>
      rw [asks] at last
      obtain ⟨rfl, -⟩ := last.of_done
      rfl
  | true =>
      rw [asks] at last
      obtain ⟨_, later, rfl, ended⟩ := last.of_ask
      obtain ⟨rfl, -⟩ := ended.of_done
      rfl

/-- What one delivery does, by what the cache held. -/
inductive Delivers (node : String) (state : Degraded) (key : String) :
    Seen → List Event → Degraded → Prop where
  | unread : Delivers node state key .unread [] state
  | gone : Delivers node state key .gone [] (state.forget key)
  | silent {pod : Pod} (known : degradedSignature pod = "" ∨
        (state.identify key pod.uid).notified.lookup pod.uid = some (degradedSignature pod)) :
      Delivers node state key (.pod pod) []
        ((state.identify key pod.uid).notify pod.uid (degradedSignature pod))
  | told {pod : Pod} (new : ¬ (degradedSignature pod = "" ∨
        (state.identify key pod.uid).notified.lookup pod.uid = some (degradedSignature pod))) :
      Delivers node state key (.pod pod) (degradedEvents node pod)
        ((state.identify key pod.uid).notify pod.uid (degradedSignature pod))

theorem reconcileDegraded_path {node : String} {state : Degraded} {key : String}
    {events : List (Program.Event nodeSignature)} {result : Option GoError × Degraded}
    (path : Program.Path (reconcileDegraded node state key) events (.done result)) :
    Delivers node state key (seenIn events) (toldIn events) result.2 := by
  unfold reconcileDegraded at path
  cases keyed : splitMetaNamespaceKey key with
  | error err =>
      rw [keyed] at path
      obtain ⟨rfl, ended⟩ := path.of_done
      cases ended
      exact .unread
  | ok names =>
  rw [keyed] at path
  obtain ⟨(answer : GetResult), rest, rfl, found⟩ := path.of_request
  cases answer with
  | notFound =>
      obtain ⟨rfl, ended⟩ := found.of_done
      cases ended
      exact .gone
  | failed err =>
      obtain ⟨rfl, ended⟩ := found.of_done
      cases ended
      exact .unread
  | found pod =>
      dsimp only at found
      by_cases known : degradedSignature pod = "" ∨
          (state.identify key pod.uid).notified.lookup pod.uid = some (degradedSignature pod)
      · rw [if_pos known] at found
        obtain ⟨rfl, ended⟩ := found.of_done
        cases ended
        exact .silent known
      · rw [if_neg known] at found
        obtain ⟨told, ⟨⟩, last, rfl, reports, ended⟩ := found.of_bind
        obtain ⟨rfl, ended⟩ := ended.of_done
        cases ended
        rw [List.append_nil]
        show Delivers node state key (.pod pod) (toldIn told) _
        rw [reportDegraded_path reports]
        exact .told known

/-! ## The two maps -/

/-- What the loop remembers of a pod it observed. -/
def remembered (pod : Pod) : Option String :=
  if degradedSignature pod = "" then none else some (degradedSignature pod)

/-- The maps hold what the deliveries so far say, as signatures. -/
structure Tracks (history : History) (state : Degraded) : Prop where
  keys : ∀ key, state.uidsByKey.lookup key = holder history key
  uids : ∀ uid, state.notified.lookup uid = (standing history uid).bind remembered

theorem Tracks.observed {history : History} {state : Degraded} (tracks : Tracks history state)
    (key : String) (told : List Event) (pod : Pod) :
    Tracks (⟨key, .pod pod, told⟩ :: history)
      ((state.identify key pod.uid).notify pod.uid (degradedSignature pod)) where
  keys key' := by
    show (state.identify key pod.uid).uidsByKey.lookup key' = _
    rw [Degraded.identify_uidsByKey, tracks.keys, holder]
  uids uid := by
    rw [Degraded.notify_notified, Degraded.identify_notified, tracks.keys, tracks.uids, standing]
    dsimp only
    by_cases same : pod.uid = uid
    · rw [if_pos same, if_pos same]
      rfl
    · rw [if_neg same, if_neg same]
      simp only [ne_eq, same, not_false_eq_true, true_and]
      split_ifs <;> rfl

theorem Tracks.deliver {node : String} {history : History} {state state' : Degraded} {key : String}
    {seen : Seen} {told : List Event} (tracks : Tracks history state)
    (delivers : Delivers node state key seen told state') : Tracks (⟨key, seen, told⟩ :: history) state' := by
  cases delivers with
  | unread =>
      refine ⟨fun key' => ?_, fun uid => tracks.uids uid⟩
      rw [tracks.keys, holder]
      split_ifs <;> rfl
  | gone =>
      refine ⟨fun key' => ?_, fun uid => ?_⟩
      · rw [Degraded.forget_uidsByKey, tracks.keys, holder]
      · rw [Degraded.forget_notified, tracks.keys, tracks.uids, standing]
        dsimp only
        split_ifs <;> rfl
  | silent known => exact tracks.observed key [] _
  | told new => exact tracks.observed key _ _

theorem DegradedRun.tracks {node : String} {history : History} {state : Degraded}
    (run : DegradedRun node history state) : Tracks history state := by
  induction run with
  | start => exact ⟨fun _ => rfl, fun _ => rfl⟩
  | deliver run path ih => exact ih.deliver (reconcileDegraded_path path)

/-! ## Who is told, and when -/

/-- A request begins with this delivery: none stood for the UID. -/
def begins (before : History) (delivery : Delivery) (uid : String) : Bool :=
  match delivery.seen with
  | .pod pod => pod.uid = uid && unsupported pod && !(standing before uid).any unsupported
  | _ => false

/-- The notes of a pod changed while its request stood. -/
def Unsettled (before : History) (delivery : Delivery) : Prop :=
  ∃ pod previous, delivery.seen = .pod pod ∧ standing before pod.uid = some previous ∧
    unsupported pod = true ∧ unsupported previous = true ∧
    (Tier.desired pod).2 ≠ (Tier.desired previous).2

omit [PrintTable] [Qos.ResourceHelper] in
theorem countP_unknownEvents (pod : Pod) (notes : List Tier.Note) (uid : String) :
    (unknownEvents pod notes).countP (fun e => e.reason = "EnvironmentUnsupported" ∧ e.uid = uid) = 0 := by
  rw [List.countP_eq_zero]
  intro e member
  obtain ⟨note, -, rfl⟩ := List.mem_map.mp member
  simp [podEvent]

/-- A pod whose signature is new is told once if it asks for a tier. -/
theorem heard_degradedEvents (node key : String) (seen : Seen) (pod : Pod) (uid : String) :
    Delivery.heard ⟨key, seen, degradedEvents node pod⟩ uid =
      (decide (pod.uid = uid) && unsupported pod).toNat := by
  rw [Delivery.heard, degradedEvents, List.countP_append, countP_unknownEvents]
  cases unsupported pod with
  | false => simp
  | true => by_cases same : pod.uid = uid <;> simp [podEvent, same]

/-- The signature is known exactly when the same request stood with the same notes, or there is
nothing to tell. -/
theorem remembered_eq {pod previous : Pod} (asks : unsupported pod = true) :
    remembered previous = some (degradedSignature pod) ↔
      unsupported previous = true ∧ (Tier.desired pod).2 = (Tier.desired previous).2 := by
  constructor
  · intro known
    unfold remembered at known
    split_ifs at known with empty
    obtain ⟨notes, flags⟩ := degradedSignature_injective (Option.some.inj known)
    exact ⟨flags.trans asks, notes.symm⟩
  · rintro ⟨asked, notes⟩
    have same : degradedSignature previous = degradedSignature pod := by
      rw [degradedSignature_eq, degradedSignature_eq, notes, asked, asks]
    have told : degradedSignature pod ≠ "" := by
      rw [degradedSignature_eq, Ne, flagged_eq_empty, asks]
      simp
    rw [remembered, same, if_neg told]

/-- A pod that asks for a tier is known where its request stands with these notes. -/
theorem Tracks.known {history : History} {state : Degraded} (tracks : Tracks history state) (key : String)
    {pod : Pod} (asks : unsupported pod = true) :
    (degradedSignature pod = "" ∨
        (state.identify key pod.uid).notified.lookup pod.uid = some (degradedSignature pod)) ↔
      ∃ previous, standing history pod.uid = some previous ∧ unsupported previous = true ∧
        (Tier.desired pod).2 = (Tier.desired previous).2 := by
  have told : degradedSignature pod ≠ "" := by
    rw [degradedSignature_eq, Ne, flagged_eq_empty, asks]
    simp
  rw [Degraded.identify_notified, if_neg (fun other => other.1 rfl), tracks.uids, Option.bind_eq_some_iff]
  constructor
  · rintro (empty | ⟨previous, stands, known⟩)
    · exact absurd empty told
    · exact ⟨previous, stands, (remembered_eq asks).mp known⟩
  · rintro ⟨previous, stands, same⟩
    exact .inr ⟨previous, stands, (remembered_eq asks).mpr same⟩

/-- **One delivery** tells what one Event per request asks for, unless the notes changed while
the request stood. -/
theorem told_of_delivery {node : String} {history : History} {state state' : Degraded} {key : String}
    {seen : Seen} {told : List Event} (tracks : Tracks history state)
    (delivers : Delivers node state key seen told state') :
    (∀ uid, Delivery.heard ⟨key, seen, told⟩ uid = (begins history ⟨key, seen, told⟩ uid).toNat) ↔
      ¬ Unsettled history ⟨key, seen, told⟩ := by
  cases delivers with
  | unread => simp [Delivery.heard, begins, Unsettled]
  | gone => simp [Delivery.heard, begins, Unsettled]
  | @silent pod known =>
      cases asks : unsupported pod with
      | false => simp [Delivery.heard, begins, Unsettled, asks]
      | true =>
          obtain ⟨previous, stands, asked, notes⟩ := (tracks.known key asks).mp known
          refine iff_of_true (fun uid => ?_) ?_
          · by_cases same : pod.uid = uid
            · simp [Delivery.heard, begins, ← same, stands, asked]
            · simp [Delivery.heard, begins, same]
          · rintro ⟨pod', previous', seen', stands', -, -, differ⟩
            cases seen'
            rw [stands] at stands'
            cases stands'
            exact differ notes
  | @told pod new =>
      simp only [heard_degradedEvents]
      cases asks : unsupported pod with
      | false => simp [begins, Unsettled, asks]
      | true =>
          rw [tracks.known key asks] at new
          -- Both sides say that no request stood.
          trans ∀ previous, standing history pod.uid = some previous → unsupported previous = false
          · constructor
            · intro exact previous stands
              have own := exact pod.uid
              simp only [begins, asks, stands, decide_true, Bool.and_true, Option.any_some] at own
              revert own
              cases unsupported previous <;> simp
            · intro none uid
              by_cases same : pod.uid = uid
              · subst same
                cases stands : standing history pod.uid with
                | none => simp [begins, stands, asks]
                | some previous => simp [begins, stands, asks, none previous stands]
              · simp [begins, same]
          · constructor
            · rintro none ⟨pod', previous, seen, stands, -, asked, -⟩
              cases seen
              rw [none previous stands] at asked
              cases asked
            · intro settled previous stands
              cases asked : unsupported previous with
              | false => rfl
              | true =>
                  have notes : (Tier.desired pod).2 ≠ (Tier.desired previous).2 :=
                    fun same => new ⟨previous, stands, asked, same⟩
                  exact absurd ⟨pod, previous, rfl, stands, asks, asked, notes⟩ settled

/-! ## Runs -/

omit [PrintTable] [Qos.ResourceHelper] in
/-- What holds of every delivery of a history holds of the newest and of those before it. -/
theorem forall_deliveries {P : History → Delivery → Prop} {delivery : Delivery} {history : History} :
    (∀ before d, d :: before <:+ delivery :: history → P before d) ↔
      P history delivery ∧ ∀ before d, d :: before <:+ history → P before d := by
  constructor
  · intro all
    exact ⟨all history delivery (List.suffix_refl _),
      fun before d suffix => all before d (suffix.trans (List.suffix_cons _ _))⟩
  · rintro ⟨newest, earlier⟩ before d suffix
    rcases List.suffix_cons_iff.mp suffix with same | suffix
    · cases same
      exact newest
    · exact earlier before d suffix

/-- **One Event for one request**, in the runs where the notes of a pod never change while its
request stands, and in no others. -/
theorem degraded_reports_once {node : String} {history : History} {state : Degraded}
    (run : DegradedRun node history state) :
    (∀ before delivery, delivery :: before <:+ history →
        ∀ uid, delivery.heard uid = (begins before delivery uid).toNat) ↔
      ∀ before delivery, delivery :: before <:+ history → ¬ Unsettled before delivery := by
  induction run with
  | start => simp
  | @deliver history state key result events run path ih =>
      rw [forall_deliveries (P := fun before d => ∀ uid, d.heard uid = (begins before d uid).toNat),
        forall_deliveries (P := fun before d => ¬ Unsettled before d), ih,
        told_of_delivery run.tracks (reconcileDegraded_path path)]

/-! ## A pod that changes its mind about the tier -/

/-- A node whose cache holds this pod. -/
def holding (pod : Pod) : Handler nodeSignature Unit := fun s r =>
  match r with
  | .getCache _ _ => (.found pod, s)
  | r => bareNode s r

/-- One more delivery of this pod. -/
def deliver (node : String) (pod : Pod) (past : History × Degraded) : History × Degraded :=
  let call := reconcileDegraded node past.2 (metaNamespaceKey pod)
  (⟨metaNamespaceKey pod, seenIn (call.events (holding pod) ()), toldIn (call.events (holding pod) ())⟩ ::
    past.1, (call.run (holding pod) ()).1.2)

theorem deliver_run {node : String} {past : History × Degraded} (run : DegradedRun node past.1 past.2)
    (pod : Pod) : DegradedRun node (deliver node pod past).1 (deliver node pod past).2 :=
  .deliver run (.of_run (holding pod) _ ())

end

section

attribute [local instance] asciiTable Qos.containerRequests

/-- It asks for burst all along, and its tier is one nobody knows. -/
def restlessPod (tier : String) : Pod :=
  { samplePod with
    annotations := fun key =>
      if key = Annotations.tierKey then some tier
      else if key = Annotations.burstKey then some "" else none }

def restlessRun (tiers : List String) : History × Degraded :=
  tiers.foldr (fun tier past => deliver "node-a" (restlessPod tier) past) ([], .new)

theorem restlessRun_run (tiers : List String) :
    DegradedRun "node-a" (restlessRun tiers).1 (restlessRun tiers).2 := by
  induction tiers with
  | nil => exact .start
  | cons tier rest ih => exact deliver_run ih _

/-- The tier changes from one unknown value to another, and the pod hears a second time that the
node does not support the burst it never ceased to ask for. -/
theorem degraded_repeats :
    DegradedRun "node-a" (restlessRun ["turbo", "future"]).1 (restlessRun ["turbo", "future"]).2 ∧
    ∃ before delivery, delivery :: before <:+ (restlessRun ["turbo", "future"]).1 ∧
      delivery.heard samplePod.uid = 1 ∧ begins before delivery samplePod.uid = false :=
  ⟨restlessRun_run _, (restlessRun ["future"]).1, _, List.suffix_refl _, by decide +kernel,
    by decide +kernel⟩

theorem degraded_reports_once_restless :
    (∀ before delivery, delivery :: before <:+ (restlessRun ["turbo", "future"]).1 →
        ∀ uid, delivery.heard uid = (begins before delivery uid).toNat) ↔
      ∀ before delivery, delivery :: before <:+ (restlessRun ["turbo", "future"]).1 →
        ¬ Unsettled before delivery :=
  degraded_reports_once (restlessRun_run ["turbo", "future"])

end

end CpuIdle.Agent
