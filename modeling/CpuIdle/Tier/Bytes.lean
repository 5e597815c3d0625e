/-
# Tier.Bytes — a tier annotation of any bytes

`Desired` for a tier annotation that need not be text. Where it is, this is
`Tier.Desired` (`desired_eq`); the burst annotation is never read.

No note holds a NUL (`notes_spell`), whatever the annotation does.
-/
import CpuIdle.Go.Bytes
import CpuIdle.Tier.Desired

namespace CpuIdle.Tier

open CpuIdle.Go CpuIdle.Kube CpuIdle.Observe

set_option autoImplicit false

/-- `reportedAnnotationValue` of any bytes. Past the limit they are cut as runes. -/
def reportedAnnotationBytes (value : List UInt8) : List UInt8 :=
  let runes := decodeRunes value
  if runes.length ≤ maxReportedAnnotationValueRunes then value
  else utf8 (.ofList ((runes.take maxReportedAnnotationValueRunes).map replacedRune) ++ "…")

theorem reportedAnnotationBytes_utf8 (value : String) :
    reportedAnnotationBytes (utf8 value) = utf8 (reportedAnnotationValue value) := by
  unfold reportedAnnotationBytes reportedAnnotationValue
  simp only [decodeRunes_utf8, List.length_map]
  split
  · rfl
  · rw [← List.map_take, List.map_map]
    congr 3
    exact List.map_id _

section

variable [PrintTable] [Qos.ResourceHelper]

/-- What a tier annotation of these bytes asks for. -/
def tierRequestOf : Option (List UInt8) → Bool × List Note
  | none => (false, [])
  | some tierValue =>
      if tierValue = utf8 Annotations.tierValueIdle then (true, [])
      else if tierValue ≠ [] then
        let reported := quoteBytes (reportedAnnotationBytes tierValue)
        (false, [{
          code := noteUnknownTierValue
          message := s!"annotation {Annotations.tierKey} carries unrecognized value {reported}; no tier requested" }])
      else (false, [])

/-- `Desired` of a pod whose tier annotation holds these bytes. -/
def desiredOf (value : Option (List UInt8)) (pod : Pod) : State × List Note :=
  let (idleRequested, tierNotes) := tierRequestOf value
  let (burstRequested, burstActive, burstNotes) := burstRequest pod
  ({ idleRequested, burstRequested, burstActive
     qosClass := Qos.classOf pod.spec
     uid := pod.uid }, tierNotes ++ burstNotes)

omit [Qos.ResourceHelper] in
theorem tierRequest_eq (pod : Pod) :
    tierRequest pod = tierRequestOf ((pod.annotations Annotations.tierKey).map utf8) := by
  unfold tierRequest
  cases pod.annotations Annotations.tierKey with
  | none => rfl
  | some tierValue =>
      have idle : utf8 tierValue = utf8 Annotations.tierValueIdle ↔ tierValue = Annotations.tierValueIdle :=
        utf8_injective.eq_iff
      have empty : utf8 tierValue = [] ↔ tierValue = "" := utf8_injective.eq_iff' rfl
      simp only [Option.map_some, tierRequestOf, idle, empty, ne_eq, reportedAnnotationBytes_utf8,
        quoteBytes_utf8]

/-- Of a pod as the API hands it out, both say the same. -/
theorem desired_eq (pod : Pod) :
    desired pod = desiredOf ((pod.annotations Annotations.tierKey).map utf8) pod := by
  rw [desired, desiredOf, tierRequest_eq]

/-! ## Notes hold no NUL -/

/-- Neither the code nor the message holds a NUL. -/
def Note.Spells (note : Note) : Prop := '\x00' ∉ note.code.toList ∧ '\x00' ∉ note.message.toList

omit [Qos.ResourceHelper] in
theorem tierRequestOf_spells (value : Option (List UInt8)) :
    ∀ note ∈ (tierRequestOf value).2, note.Spells := by
  cases value with
  | none => simp [tierRequestOf]
  | some tierValue =>
      unfold tierRequestOf
      dsimp only
      split_ifs with idle empty
      · simp
      · intro note member
        obtain rfl := List.mem_singleton.mp member
        have code : '\x00' ∉ noteUnknownTierValue.toList := by decide
        have front : '\x00' ∉ s!"annotation {Annotations.tierKey} carries unrecognized value ".toList := by
          decide
        have back : '\x00' ∉ "; no tier requested".toList := by decide
        refine ⟨code, ?_⟩
        show '\x00' ∉ (s!"annotation {Annotations.tierKey} carries unrecognized value " ++
          quoteBytes (reportedAnnotationBytes tierValue) ++ "; no tier requested").toList
        rw [String.toList_append, String.toList_append, List.mem_append, List.mem_append]
        rintro ((member | member) | member)
        · exact front member
        · exact nul_not_mem_quoteBytes _ member
        · exact back member
      · simp

omit [PrintTable] in
theorem burstRequest_spells (pod : Pod) : ∀ note ∈ (burstRequest pod).2.2, note.Spells := by
  unfold burstRequest
  split
  · simp
  · split_ifs with quota
    · simp
    · intro note member
      obtain rfl := List.mem_singleton.mp member
      exact ⟨by decide, by decide⟩

/-- **No note holds a NUL**, whatever bytes the annotation holds. -/
theorem notes_spell (value : Option (List UInt8)) (pod : Pod) :
    ∀ note ∈ (desiredOf value pod).2, note.Spells := by
  intro note member
  rcases List.mem_append.mp member with tier | burst
  · exact tierRequestOf_spells value note tier
  · exact burstRequest_spells pod note burst

end

end CpuIdle.Tier
