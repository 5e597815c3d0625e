/-
# Go.Path — `path` and `path/filepath` on Linux

The lexical functions of both packages, which agree where the separator is `/`.
-/
import CpuIdle.Go.Text
import CpuIdle.Theory.Lexical

namespace CpuIdle.Go.Path

open CpuIdle.Theory

set_option autoImplicit false

def names : Lexical.Names Char := ⟨'/', ['.'], ['.', '.']⟩

def clean (p : String) : String := .ofList (Lexical.clean names p.toList)

def join (elements : List String) : String := .ofList (Lexical.join names (elements.map String.toList))

def base (p : String) : String := .ofList (Lexical.base names p.toList)

def dir (p : String) : String := .ofList (Lexical.dir names p.toList)

def isAbs (p : String) : Bool := Lexical.rooted names p.toList

/-- The plain components an absolute name cleans to. -/
def components (p : String) : List (List Char) := Lexical.components names p.toList

/-- The clean absolute name with these components. -/
def absolute (components : List (List Char)) : String := .ofList (Lexical.absolute names components)

abbrev Plain (c : List Char) : Prop := Lexical.Plain names c

theorem absolute_injective {cs ds : List (List Char)} (hc : ∀ c ∈ cs, Plain c)
    (hd : ∀ d ∈ ds, Plain d) (same : absolute cs = absolute ds) : cs = ds :=
  Lexical.absolute_injective hc hd (by simpa [absolute] using congrArg String.toList same)

theorem clean_absolute {cs : List (List Char)} (plain : ∀ c ∈ cs, Plain c) :
    clean (absolute cs) = absolute cs := by
  simp [clean, absolute, Lexical.clean_absolute plain]

theorem clean_of_isAbs {p : String} (abs : isAbs p = true) : clean p = absolute (components p) := by
  simp [clean, absolute, components, Lexical.clean_rooted abs]

theorem components_plain (p : String) : ∀ c ∈ components p, Plain c :=
  Lexical.components_plain p.toList

theorem components_clean {p : String} (abs : isAbs p = true) : components (clean p) = components p := by
  simp [components, clean, Lexical.components_clean abs]

theorem isAbs_clean (p : String) : isAbs (clean p) = isAbs p := by
  simp only [isAbs, clean, String.toList_ofList]
  exact Lexical.rooted_clean (by decide) p.toList

theorem isAbs_absolute (cs : List (List Char)) : isAbs (absolute cs) = true := by
  simp [isAbs, absolute, Lexical.rooted_absolute]

theorem components_absolute {cs : List (List Char)} (plain : ∀ c ∈ cs, Plain c) :
    components (absolute cs) = cs := by
  simp [components, absolute, Lexical.components_absolute plain]

/-- `Join` of a rooted directory and further plain components. -/
theorem join_plain {root : String} (abs : isAbs root = true) {elements : List String}
    (plain : ∀ e ∈ elements, Plain e.toList) :
    join (root :: elements) = absolute (components root ++ elements.map String.toList) := by
  have nonempty : root.toList ≠ [] := by
    intro empty
    simp [isAbs, Lexical.rooted, empty] at abs
  have plain' : ∀ c ∈ elements.map String.toList, Plain c := by
    intro c member
    obtain ⟨e, he, rfl⟩ := List.mem_map.mp member
    exact plain e he
  have kept : (List.dropWhile (· = []) (root.toList :: elements.map String.toList)) =
      root.toList :: elements.map String.toList := by
    rw [List.dropWhile_cons, if_neg (by simpa using nonempty)]
  simp only [join, List.map_cons, Lexical.join, kept, absolute]
  cases rest : elements.map String.toList with
  | nil =>
      simp [Lexical.clean_rooted abs, components]
  | cons c cs =>
      rw [rest] at plain'
      have spelled : [names.sep].intercalate (root.toList :: c :: cs) =
          root.toList ++ names.sep :: [names.sep].intercalate (c :: cs) := by
        simp [List.intercalate]
      rw [spelled, Lexical.clean_append abs plain']
      rfl

/-- `Join` of a rooted directory and a clean absolute name below it. -/
theorem join_absolute {root : String} (abs : isAbs root = true) {cs : List (List Char)}
    (plain : ∀ c ∈ cs, Plain c) :
    join [root, absolute cs] = absolute (components root ++ cs) := by
  have rootNonempty : root.toList ≠ [] := by
    intro empty
    simp [isAbs, Lexical.rooted, empty] at abs
  have twice : Lexical.components names (root.toList ++ [names.sep]) = components root := by
    have := Lexical.components_append (N := names) (p := root.toList) fun c (no : c ∈ []) =>
      absurd no List.not_mem_nil
    simpa [components] using this
  have rooted : Lexical.rooted names (root.toList ++ [names.sep]) = true :=
    Lexical.rooted_append abs _
  simp only [join, List.map_cons, List.map_nil, Lexical.join, List.dropWhile_cons,
    decide_eq_true_eq, if_neg rootNonempty, absolute, String.toList_ofList]
  have spelled : [names.sep].intercalate [root.toList, Lexical.absolute names cs] =
      (root.toList ++ [names.sep]) ++ names.sep :: [names.sep].intercalate cs := by
    simp [List.intercalate, Lexical.absolute]
  rw [spelled, Lexical.clean_append rooted plain, twice]

theorem base_absolute {cs : List (List Char)} (plain : ∀ c ∈ cs, Plain c) {last : List Char}
    (ends : cs.getLast? = some last) : base (absolute cs) = .ofList last := by
  simp [base, absolute, Lexical.base_absolute plain ends]

theorem dir_absolute {cs : List (List Char)} (plain : ∀ c ∈ cs, Plain c) (nonempty : cs ≠ []) :
    dir (absolute cs) = absolute cs.dropLast := by
  simp [dir, absolute, Lexical.dir_absolute plain nonempty]

theorem absolute_append {cs ds : List (List Char)} (hc : cs ≠ []) (hd : ds ≠ []) :
    absolute (cs ++ ds) = absolute cs ++ absolute ds := by
  simp [absolute, Lexical.absolute_append hc hd]

theorem toList_absolute {cs : List (List Char)} (nonempty : cs ≠ []) :
    (absolute cs).toList = cs.flatMap ('/' :: ·) := by
  rw [absolute, String.toList_ofList]
  exact Lexical.absolute_eq_flatMap nonempty

theorem absolute_eq_slash {cs : List (List Char)} (plain : ∀ c ∈ cs, Plain c) :
    absolute cs = "/" ↔ cs = [] := by
  constructor
  · intro same
    exact absolute_injective plain (fun c (no : c ∈ []) =>
      absurd no List.not_mem_nil) same
  · rintro rfl
    rfl

/-- Below any directory the joined elements can be read back. -/
theorem join_below_injective {root : String} {es ds : List String} (he : ∀ e ∈ es, Plain e.toList)
    (hd : ∀ d ∈ ds, Plain d.toList) (nee : es ≠ []) (ned : ds ≠ [])
    (same : join (root :: es) = join (root :: ds)) : es = ds := by
  have plain : ∀ {fs : List String}, (∀ f ∈ fs, Plain f.toList) → ∀ c ∈ fs.map String.toList, Plain c := by
    intro fs plain c member
    obtain ⟨f, hf, rfl⟩ := List.mem_map.mp member
    exact plain f hf
  have lists : (es.map String.toList) = ds.map String.toList :=
    Lexical.join_below_injective (p := root.toList) (plain he) (plain hd) (by simpa using nee)
      (by simpa using ned) (by simpa [join] using congrArg String.toList same)
  exact List.map_injective_iff.mpr (fun _ _ => String.toList_inj.mp) lists

theorem join_absolute_injective {root : String} {cs ds : List (List Char)} (hc : ∀ c ∈ cs, Plain c)
    (hd : ∀ d ∈ ds, Plain d) (nec : cs ≠ []) (ned : ds ≠ [])
    (same : join [root, absolute cs] = join [root, absolute ds]) : cs = ds :=
  Lexical.join_absolute_injective (p := root.toList) hc hd nec ned
    (by simpa [join, absolute] using congrArg String.toList same)

end CpuIdle.Go.Path
