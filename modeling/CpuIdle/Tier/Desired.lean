/-
# Tier.Desired — the tier state a pod asks for

A pure function of annotations and spec. What keeps a request from taking effect is
a `Note`, never an error.
-/
import CpuIdle.Observe.Recorder

namespace CpuIdle.Tier

open CpuIdle.Go CpuIdle.Kube CpuIdle.Observe

set_option autoImplicit false

def noteUnknownTierValue : String := TierApplyReason.valueUnknown

def noteNoCPULimit : String := TierApplyReason.limitsCPUMissing

structure Note where
  code : String
  message : String
  deriving DecidableEq

structure State where
  idleRequested : Bool
  burstRequested : Bool
  burstActive : Bool
  qosClass : Qos.Class
  uid : String
  deriving DecidableEq

/-- Go's zero `State`. Nothing reads its class, which in Go is the empty string. -/
def State.zero : State :=
  { idleRequested := false, burstRequested := false, burstActive := false,
    qosClass := .bestEffort, uid := "" }

def maxReportedAnnotationValueRunes : Nat := 64

def reportedAnnotationValue (value : String) : String :=
  let runes := value.toList
  if runes.length ≤ maxReportedAnnotationValueRunes then value
  else .ofList (runes.take maxReportedAnnotationValueRunes) ++ "…"

section

variable [PrintTable] [Qos.ResourceHelper]

/-- What the tier annotation asks for. -/
def tierRequest (pod : Pod) : Bool × List Note :=
  match pod.annotations Annotations.tierKey with
  | none => (false, [])
  | some tierValue =>
      if tierValue = Annotations.tierValueIdle then (true, [])
      else if tierValue ≠ "" then
        let reported := quote (reportedAnnotationValue tierValue)
        (false, [{
          code := noteUnknownTierValue
          message := s!"annotation {Annotations.tierKey} carries unrecognized value {reported}; no tier requested" }])
      else (false, [])

/-- What the burst annotation asks for: requested, active, and the note if inactive. -/
def burstRequest (pod : Pod) : Bool × Bool × List Note :=
  match pod.annotations Annotations.burstKey with
  | none => (false, false, [])
  | some _ =>
      if Qos.hasCPUQuota pod.spec then (true, true, [])
      else
        (true, false, [{
          code := noteNoCPULimit
          message := s!"annotation {Annotations.burstKey} present but pod has no positive CPU limit; burst tier is inactive" }])

def desired (pod : Pod) : State × List Note :=
  let (idleRequested, tierNotes) := tierRequest pod
  let (burstRequested, burstActive, burstNotes) := burstRequest pod
  ({ idleRequested, burstRequested, burstActive
     qosClass := Qos.classOf pod.spec
     uid := pod.uid }, tierNotes ++ burstNotes)

/-- A note is of an unknown tier or of a missing CPU limit. -/
theorem notes_coded (pod : Pod) :
    ∀ note ∈ (desired pod).2, note.code = noteUnknownTierValue ∨ note.code = noteNoCPULimit := by
  intro note member
  have noted : note ∈ (tierRequest pod).2 ++ (burstRequest pod).2.2 := member
  rcases List.mem_append.mp noted with tier | burst
  · unfold tierRequest at tier
    split at tier
    · cases tier
    · split_ifs at tier
      · cases tier
      · exact .inl (congrArg Note.code (List.mem_singleton.mp tier))
      · cases tier
  · unfold burstRequest at burst
    split at burst
    · cases burst
    · split_ifs at burst
      · cases burst
      · exact .inr (congrArg Note.code (List.mem_singleton.mp burst))

end

end CpuIdle.Tier
