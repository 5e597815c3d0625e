/-
# Go.Errors — an error inside another

What `fmt.Errorf` wraps and `errors.Join` joins is still there: its text can be read, and `errors.Is` finds
in the whole what it finds in the part.
-/
import CpuIdle.Go.Text

namespace CpuIdle.Go

set_option autoImplicit false

namespace GoError

/-- Part of another error: its text is in there, and `errors.Is` finds what it finds in it. -/
def Within (err whole : GoError) : Prop :=
  (∃ before after, whole.text = before ++ err.text ++ after) ∧
    ∀ s, err.is s = true → whole.is s = true

theorem Within.refl (err : GoError) : Within err err :=
  ⟨⟨"", "", by simp⟩, fun _ => id⟩

theorem Within.trans {a b c : GoError} (inner : Within a b) (outer : Within b c) : Within a c := by
  obtain ⟨⟨before, after, here⟩, found⟩ := inner
  obtain ⟨⟨before', after', there⟩, found'⟩ := outer
  refine ⟨⟨before' ++ before, after ++ after', ?_⟩, fun s has => found' s (found s has)⟩
  rw [there, here]
  simp only [String.append_assoc]

theorem Within.wrap (context : String) (err : GoError) : Within err (wrap context err) :=
  ⟨⟨context ++ ": ", "", by simp [GoError.wrap]⟩, fun _ => id⟩

theorem intercalate_within (sep : String) {text : String} :
    ∀ {texts : List String}, text ∈ texts →
      ∃ before after, sep.intercalate texts = before ++ text ++ after := by
  intro texts member
  induction texts with
  | nil => cases member
  | cons head rest ih =>
      cases rest with
      | nil =>
          rw [List.mem_singleton.mp member]
          exact ⟨"", "", by simp⟩
      | cons next rest =>
          rw [String.intercalate_cons_cons]
          rcases List.mem_cons.mp member with rfl | later
          · exact ⟨"", sep ++ sep.intercalate (next :: rest), by simp [String.append_assoc]⟩
          · obtain ⟨before, after, found⟩ := ih later
            exact ⟨head ++ sep ++ before, after, by rw [found]; simp only [String.append_assoc]⟩

theorem Within.join {err : GoError} {errs : List GoError} (member : err ∈ errs) :
    ∃ joined, join errs = some joined ∧ Within err joined := by
  cases errs with
  | nil => cases member
  | cons head rest =>
      refine ⟨_, rfl, intercalate_within "\n" (List.mem_map_of_mem (f := text) member), fun s has => ?_⟩
      simp only [GoError.is, List.contains_iff_mem, ← List.flatMap_cons] at has ⊢
      exact List.mem_flatMap.mpr ⟨err, member, has⟩

end GoError

end CpuIdle.Go
