/-
# Guard.Marker — the ownership record a Pod carries

`PersistedState` is what the guard writes to the annotation and reads back from it.

* `decode` — `json.Unmarshal` into the struct: members in order, exact names before
  folded ones, `null` ignored, any type error fatal;
* `validateState` — what a record must look like, with `canonicalCPUMax`;
* `freezeState`, `decode_encode_freezeState` — the only record the guard creates, and
  that it reads back what it wrote;
* `validateState_none` — a valid record is the freeze record or a legacy one.
-/
import CpuIdle.Go.Json
import CpuIdle.Go.Path

namespace CpuIdle.Guard

open CpuIdle.Go

set_option autoImplicit false

def legacyGuardStateVersion : Int := 1

def guardStateVersion : Int := 2

structure PersistedState where
  version : Int
  knob : String
  restore : String
  suppressed : String
  deriving DecidableEq

/-! ## Reading the annotation -/

inductive MarkerField where
  | version
  | knob
  | restore
  | suppressed
  deriving DecidableEq

def markerFields : List (String × MarkerField) :=
  [("version", .version), ("knob", .knob), ("restore", .restore), ("suppressed", .suppressed)]

/-- The struct field a member name selects. -/
def fieldOf (name : List Char) : Option MarkerField :=
  match markerFields.find? fun f => f.1.toList = name with
  | some f => some f.2
  | none => (markerFields.find? fun f => Json.foldName f.1.toList = Json.foldName name).map (·.2)

/-- Store one member; `none` is a type error. -/
def setField (state : PersistedState) (field : MarkerField) (value : Json) : Option PersistedState :=
  match field, value with
  | _, .null => some state
  | .version, .num literal => (Json.int64 literal).map fun n => { state with version := n }
  | .knob, .str s => some { state with knob := .ofList s }
  | .restore, .str s => some { state with restore := .ofList s }
  | .suppressed, .str s => some { state with suppressed := .ofList s }
  | _, _ => none

def setMembers : List (List Char × Json) → PersistedState → Option PersistedState
  | [], state => some state
  | (name, value) :: rest, state =>
      match fieldOf name with
      | none => setMembers rest state
      | some field => (setField state field value).bind (setMembers rest)

def PersistedState.zero : PersistedState := ⟨0, "", "", ""⟩

def decode (raw : String) : Option PersistedState :=
  match Json.parse raw with
  | some (.obj members) => setMembers members .zero
  | some .null => some .zero
  | _ => none

/-- `json.Marshal`. -/
def encode (state : PersistedState) : String :=
  "\x7b\"version\":" ++ toString state.version ++ ",\"knob\":" ++ Json.quoteJson state.knob ++
    ",\"restore\":" ++ Json.quoteJson state.restore ++ ",\"suppressed\":" ++
    Json.quoteJson state.suppressed ++ "\x7d"

/-! ## Validation -/

/-- The first field in canonical form; `max` only where it is allowed. -/
def canonicalQuota (quota : String) (allowMax : Bool) : Option String :=
  if quota = "max" then
    if allowMax then some quota else none
  else
    match parseUint quota with
    | .error _ => none
    | .ok n => if n < 1000 then none else some (formatUint n)

def canonicalCPUMax (value : String) (allowMax : Bool) : Option String :=
  match fields value with
  | [quota, period] =>
      match canonicalQuota quota allowMax with
      | none => none
      | some quotaField =>
          match parseUint period with
          | .error _ => none
          | .ok n =>
              if n < 1000 ∨ n > 1000000 then none else some (quotaField ++ " " ++ formatUint n)
  | _ => none

section

variable [PrintTable]

/-- `none` when the record is valid. -/
def validateState (state : PersistedState) : Option GoError :=
  if state.version = guardStateVersion then
    if state.knob ≠ "cgroup.freeze" ∨ state.restore ≠ "0" ∨ state.suppressed ≠ "1" then
      some (.new
        s!"invalid cgroup.freeze transition {quote state.restore} -> {quote state.suppressed}")
    else none
  else if state.version = legacyGuardStateVersion then
    if state.knob ≠ "cpu.max" then
      some (.new s!"unsupported legacy knob {quote state.knob}")
    else
      let restore := canonicalCPUMax state.restore true
      let suppressed := canonicalCPUMax state.suppressed false
      if restore ≠ some state.restore ∨ !hasPrefix state.restore "max " ∨
          suppressed ≠ some state.suppressed then
        some (.new s!"invalid legacy cpu.max transition {quote state.restore} -> {quote state.suppressed}")
      else none
  else some (.new s!"unsupported marker version {state.version}")

/-- Decodes and validates. -/
def readMarker (raw : String) : Option PersistedState :=
  match decode raw with
  | none => none
  | some state => if (validateState state).isNone then some state else none

theorem readMarker_eq_some {raw : String} {state : PersistedState} :
    readMarker raw = some state ↔ decode raw = some state ∧ validateState state = none := by
  unfold readMarker
  cases decode raw with
  | none => simp
  | some found =>
      by_cases valid : (validateState found).isNone = true
      · simp only [if_pos valid, Option.some.injEq]
        exact ⟨fun same => ⟨same, same ▸ Option.isNone_iff_eq_none.mp valid⟩, fun known => known.1⟩
      · simp only [if_neg valid, reduceCtorEq, Option.some.injEq, false_iff, not_and]
        rintro rfl none
        exact valid (Option.isNone_iff_eq_none.mpr none)

theorem readMarker_empty : readMarker "" = none := by
  have undecodable : decode "" = none := by decide +kernel
  rw [readMarker, undecodable]

/-- The record `suppressPod` creates. -/
def freezeState : PersistedState := ⟨guardStateVersion, "cgroup.freeze", "0", "1"⟩

/-- A legacy record: an unbounded `cpu.max` to go back to, a finite one in force. -/
structure Legacy (state : PersistedState) : Prop where
  version : state.version = legacyGuardStateVersion
  knob : state.knob = "cpu.max"
  restore : canonicalCPUMax state.restore true = some state.restore
  unbounded : hasPrefix state.restore "max " = true
  suppressed : canonicalCPUMax state.suppressed false = some state.suppressed

theorem validateState_none {state : PersistedState} :
    validateState state = none ↔ state = freezeState ∨ Legacy state := by
  obtain ⟨version, knob, restore, suppressed⟩ := state
  unfold validateState
  by_cases current : version = guardStateVersion
  · subst current
    rw [if_pos rfl]
    constructor
    · intro valid
      split at valid
      · cases valid
      · rename_i fields
        simp only [not_or, not_not] at fields
        obtain ⟨rfl, rfl, rfl⟩ := fields
        exact .inl rfl
    · rintro (same | legacy)
      · cases same
        rfl
      · exact absurd legacy.version (show guardStateVersion ≠ legacyGuardStateVersion by decide)
  · rw [if_neg current]
    by_cases old : version = legacyGuardStateVersion
    · subst old
      rw [if_pos rfl]
      constructor
      · intro valid
        split at valid
        · cases valid
        · rename_i isCPUMax
          by_cases bad : canonicalCPUMax restore true ≠ some restore ∨
              (!hasPrefix restore "max ") = true ∨ canonicalCPUMax suppressed false ≠ some suppressed
          · simp only [if_pos bad, reduceCtorEq] at valid
          · simp only [not_or, not_not, Bool.not_eq_true, Bool.not_eq_false'] at bad isCPUMax
            exact .inr ⟨rfl, isCPUMax, bad.1, bad.2.1, bad.2.2⟩
      · rintro (same | ⟨-, rfl, restore, unbounded, suppressed⟩)
        · exact absurd (congrArg PersistedState.version same) current
        · simp only at restore unbounded suppressed
          simp [restore, unbounded, suppressed]
    · rw [if_neg old]
      simp only [reduceCtorEq, false_iff, not_or]
      exact ⟨fun same => current (congrArg PersistedState.version same), fun legacy => old legacy.version⟩

omit [PrintTable] in
theorem decode_encode_freezeState : decode (encode freezeState) = some freezeState := by
  decide +kernel

theorem readMarker_encode_freezeState : readMarker (encode freezeState) = some freezeState := by
  rw [readMarker, decode_encode_freezeState]
  simp [validateState_none]

end

end CpuIdle.Guard
