/-
# Agent.Notice — a signature stands for what it was built from

Both loops keep one string for all they have told about a pod and compare strings. So a
collision of two signatures would silently suppress an Event.

* `flagged` — the shape of both signatures: the notes, and perhaps one code more;
* `flagged_injective`, `flagged_eq_empty` — over notes without a NUL;
* `signatures_distinct` — over any two pods, whatever bytes their annotations hold.
-/
import CpuIdle.Agent.Degraded
import CpuIdle.Theory.Delimited
import CpuIdle.Tier.Bytes

namespace CpuIdle.Agent

open CpuIdle.Go CpuIdle.Kube CpuIdle.Node CpuIdle.Apply CpuIdle.Observe CpuIdle.Theory
  CpuIdle.Theory.Delimited

set_option autoImplicit false

/-- The notes, and after them the code of one notice more. -/
def flagged (notes : List Tier.Note) (reason : String) (flag : Bool) : String :=
  noteSignature notes ++ if flag then terminated reason else ""

/-- A note as the two words of a signature. -/
def fieldsOf (note : Tier.Note) : List Char × List Char := (note.code.toList, note.message.toList)

theorem fieldsOf_injective : Function.Injective fieldsOf := by
  rintro ⟨code, message⟩ ⟨code', message'⟩ same
  obtain ⟨codes, messages⟩ := Prod.mk.inj same
  obtain rfl := String.toList_inj.mp codes
  obtain rfl := String.toList_inj.mp messages
  rfl

theorem toList_terminated (part : String) : (terminated part).toList = part.toList ++ ['\x00'] := by
  simp [terminated]

theorem toList_noteSignature (notes : List Tier.Note) :
    (noteSignature notes).toList = spell '\x00' (listed (notes.map fieldsOf) none) := by
  induction notes with
  | nil => rfl
  | cons note rest ih =>
      have tail : noteSignature (note :: rest) =
          terminated note.code ++ terminated note.message ++ noteSignature rest := by
        simp [noteSignature]
      rw [tail, String.toList_append, String.toList_append, ih, toList_terminated, toList_terminated]
      simp [fieldsOf]

/-- A signature spells its notes, and its code more if there is one. -/
theorem toList_flagged (notes : List Tier.Note) (reason : String) (flag : Bool) :
    (flagged notes reason flag).toList =
      spell '\x00' (listed (notes.map fieldsOf) (if flag then some reason.toList else none)) := by
  rw [flagged, String.toList_append, toList_noteSignature]
  cases flag with
  | false => simp
  | true =>
      rw [if_pos rfl, if_pos rfl, toList_terminated]
      simp [listed]

/-- Equal signatures are of equal notes and equal flags. -/
theorem flagged_injective {notes notes' : List Tier.Note} {reason : String} {flag flag' : Bool}
    (spells : ∀ note ∈ notes, note.Spells) (spells' : ∀ note ∈ notes', note.Spells)
    (clean : '\x00' ∉ reason.toList)
    (same : flagged notes reason flag = flagged notes' reason flag') : notes = notes' ∧ flag = flag' := by
  have spelled := congrArg String.toList same
  rw [toList_flagged, toList_flagged] at spelled
  have fields : ∀ notes : List Tier.Note, (∀ note ∈ notes, note.Spells) →
      ∀ record ∈ notes.map fieldsOf, '\x00' ∉ record.1 ∧ '\x00' ∉ record.2 := by
    intro notes spells record member
    obtain ⟨note, noted, rfl⟩ := List.mem_map.mp member
    exact spells note noted
  have last : ∀ flag : Bool, ∀ word ∈ (if flag then some reason.toList else none), '\x00' ∉ word := by
    intro flag word member
    cases flag with
    | false => simp at member
    | true =>
        obtain rfl : reason.toList = word := by simpa using member
        exact clean
  obtain ⟨records, extras⟩ :=
    spell_listed_injective (fields _ spells) (last flag) (fields _ spells') (last flag') spelled
  refine ⟨List.map_injective_iff.mpr fieldsOf_injective records, ?_⟩
  cases flag <;> cases flag' <;> simp_all

/-- Only of nothing the signature is empty. -/
theorem flagged_eq_empty {notes : List Tier.Note} {reason : String} {flag : Bool} :
    flagged notes reason flag = "" ↔ notes = [] ∧ flag = false := by
  rw [← String.toList_inj, toList_flagged, String.toList_empty, spell_eq_nil, listed_eq_nil,
    List.map_eq_nil_iff]
  cases flag <;> simp

/-- The codes that follow the notes: in `Reconcile`, and in `runDegraded`. -/
def flagReasons : List String := [TierApplyReason.cgroupQuotaMissing, TierApplyReason.environmentUnsupported]

theorem flagReasons_clean : ∀ reason ∈ flagReasons, '\x00' ∉ reason.toList := by
  decide

section

variable [PrintTable] [Qos.ResourceHelper]

/-- Over tier annotations of any bytes. -/
theorem flagged_desiredOf {reason : String} (known : reason ∈ flagReasons)
    (value value' : Option (List UInt8)) (pod pod' : Pod) (flag flag' : Bool)
    (same : flagged (Tier.desiredOf value pod).2 reason flag =
      flagged (Tier.desiredOf value' pod').2 reason flag') :
    (Tier.desiredOf value pod).2 = (Tier.desiredOf value' pod').2 ∧ flag = flag' :=
  flagged_injective (Tier.notes_spell value pod) (Tier.notes_spell value' pod')
    (flagReasons_clean reason known) same

theorem noticeSignature_eq (pod : Pod) (snapshot : Snapshot) :
    noticeSignature pod snapshot = flagged (Tier.desired pod).2 TierApplyReason.cgroupQuotaMissing
      (actualBurstUnavailable (Tier.desired pod).1 snapshot) :=
  rfl

theorem degradedSignature_eq (pod : Pod) :
    degradedSignature pod =
      flagged (Tier.desired pod).2 TierApplyReason.environmentUnsupported (unsupported pod) :=
  rfl

theorem noticeSignature_injective {pod pod' : Pod} {snapshot snapshot' : Snapshot}
    (same : noticeSignature pod snapshot = noticeSignature pod' snapshot') :
    (Tier.desired pod).2 = (Tier.desired pod').2 ∧
      actualBurstUnavailable (Tier.desired pod).1 snapshot =
        actualBurstUnavailable (Tier.desired pod').1 snapshot' := by
  rw [noticeSignature_eq, noticeSignature_eq, Tier.desired_eq pod, Tier.desired_eq pod'] at same
  rw [Tier.desired_eq pod, Tier.desired_eq pod']
  exact flagged_desiredOf (by decide) _ _ pod pod' _ _ same

theorem degradedSignature_injective {pod pod' : Pod}
    (same : degradedSignature pod = degradedSignature pod') :
    (Tier.desired pod).2 = (Tier.desired pod').2 ∧ unsupported pod = unsupported pod' := by
  rw [degradedSignature_eq, degradedSignature_eq, Tier.desired_eq pod, Tier.desired_eq pod'] at same
  rw [Tier.desired_eq pod, Tier.desired_eq pod']
  exact flagged_desiredOf (by decide) _ _ pod pod' _ _ same

/-- **Signatures do not collide.** Of the two loops, over any two pods: first as the API hands
them out, then with tier annotations of any bytes and flags of any value. -/
theorem signatures_distinct :
    (∀ (pod pod' : Pod) (snapshot snapshot' : Snapshot),
      noticeSignature pod snapshot = noticeSignature pod' snapshot' →
        (Tier.desired pod).2 = (Tier.desired pod').2 ∧
          actualBurstUnavailable (Tier.desired pod).1 snapshot =
            actualBurstUnavailable (Tier.desired pod').1 snapshot') ∧
    (∀ (pod : Pod) (snapshot : Snapshot), noticeSignature pod snapshot = "" ↔
      (Tier.desired pod).2 = [] ∧ actualBurstUnavailable (Tier.desired pod).1 snapshot = false) ∧
    (∀ pod pod' : Pod, degradedSignature pod = degradedSignature pod' →
      (Tier.desired pod).2 = (Tier.desired pod').2 ∧ unsupported pod = unsupported pod') ∧
    (∀ pod : Pod, degradedSignature pod = "" ↔ (Tier.desired pod).2 = [] ∧ unsupported pod = false) ∧
    (∀ pod : Pod, Tier.desired pod =
      Tier.desiredOf ((pod.annotations Annotations.tierKey).map utf8) pod) ∧
    (∀ (value : Option (List UInt8)) (pod : Pod), ∀ note ∈ (Tier.desiredOf value pod).2,
      '\x00' ∉ note.code.toList ∧ '\x00' ∉ note.message.toList) ∧
    ∀ reason ∈ flagReasons, ∀ (value value' : Option (List UInt8)) (pod pod' : Pod)
        (flag flag' : Bool),
      (flagged (Tier.desiredOf value pod).2 reason flag =
          flagged (Tier.desiredOf value' pod').2 reason flag' →
        (Tier.desiredOf value pod).2 = (Tier.desiredOf value' pod').2 ∧ flag = flag') ∧
      (flagged (Tier.desiredOf value pod).2 reason flag = "" ↔
        (Tier.desiredOf value pod).2 = [] ∧ flag = false) := by
  refine ⟨fun _ _ _ _ => noticeSignature_injective, fun pod snapshot => ?_,
    fun _ _ => degradedSignature_injective, fun pod => ?_, Tier.desired_eq, Tier.notes_spell,
    fun reason known value value' pod pod' flag flag' => ⟨?_, flagged_eq_empty⟩⟩
  · rw [noticeSignature_eq, flagged_eq_empty]
  · rw [degradedSignature_eq, flagged_eq_empty]
  · exact flagged_desiredOf known value value' pod pod' flag flag'

/-! ## What a pod is told -/

omit [PrintTable] [Qos.ResourceHelper] in
/-- The Events a call emitted. -/
def toldIn (events : List (Program.Event nodeSignature)) : List Event :=
  events.filterMap fun event =>
    match event.1 with
    | .event e => some e
    | _ => none

/-- What a signature of `Reconcile` encodes. -/
inductive Notice where
  | note (note : Tier.Note)
  | cgroupQuotaMissing
  deriving DecidableEq

/-- The Event that tells a pod. -/
def Notice.event (pod : Pod) : Notice → Event
  | .note told =>
      if told.code = Tier.noteUnknownTierValue then
        podEvent pod eventTypeNormal "TierValueUnknown" told.message
      else podEvent pod eventTypeNormal "TierInactive"
        (outcomeMessage knobCPUMaxBurst TierApplyResult.inactive told.code)
  | .cgroupQuotaMissing => podEvent pod eventTypeNormal "TierInactive"
      (outcomeMessage knobCPUMaxBurst TierApplyResult.inactive TierApplyReason.cgroupQuotaMissing)

/-- All there is to tell about a pod with this cgroup. -/
def noticesFor (pod : Pod) (snapshot : Snapshot) : List Notice :=
  (Tier.desired pod).2.map .note ++
    if actualBurstUnavailable (Tier.desired pod).1 snapshot then [.cgroupQuotaMissing] else []

/-- The part of a signature that encodes a notice. -/
def Notice.spelled : Notice → String
  | .note told => terminated told.code ++ terminated told.message
  | .cgroupQuotaMissing => terminated TierApplyReason.cgroupQuotaMissing

theorem noticeSignature_spells (pod : Pod) (snapshot : Snapshot) :
    noticeSignature pod snapshot = String.join ((noticesFor pod snapshot).map Notice.spelled) := by
  rw [noticeSignature_eq, flagged, noteSignature, noticesFor, List.map_append, List.map_map,
    String.join_append]
  cases actualBurstUnavailable (Tier.desired pod).1 snapshot <;> rfl

theorem noticesFor_eq_nil {pod : Pod} {snapshot : Snapshot} :
    noticesFor pod snapshot = [] ↔ noticeSignature pod snapshot = "" := by
  rw [noticeSignature_eq, flagged_eq_empty, noticesFor, List.append_eq_nil_iff, List.map_eq_nil_iff]
  cases actualBurstUnavailable (Tier.desired pod).1 snapshot <;> simp

/-- Equal signatures are of the same notices. -/
theorem noticesFor_congr {pod pod' : Pod} {snapshot snapshot' : Snapshot} :
    noticesFor pod snapshot = noticesFor pod' snapshot' ↔
      noticeSignature pod snapshot = noticeSignature pod' snapshot' := by
  constructor
  · intro same
    rw [noticeSignature_spells, noticeSignature_spells, same]
  · intro same
    obtain ⟨notes, flags⟩ := noticeSignature_injective same
    rw [noticesFor, noticesFor, notes, flags]

end

end CpuIdle.Agent
