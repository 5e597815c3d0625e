/-
# Theory.Lexical — lexical path names: components, cleaning, joining

A name over an alphabet is a word split at a separator. Two component words are
special, `here` and `up`. `clean` resolves them without looking at any directory.

An absolute clean name is determined by its list of *plain* components:
`absolute` prints such a list, `clean_absolute` says printing is already clean,
`absolute_injective` that nothing is lost, and `clean_append` that cleaning a name
with plain components appended to it is cleaning the name and appending them. So
questions about clean absolute names become questions about lists of components.
-/
import Mathlib.Data.List.Basic

namespace CpuIdle.Theory.Lexical

set_option autoImplicit false

variable {α : Type} [DecidableEq α]

/-- The alphabet's separator and the two special components. -/
structure Names (α : Type) where
  sep : α
  here : List α
  up : List α

variable (N : Names α)

/-- A component that stands for itself. -/
structure Plain (c : List α) : Prop where
  nonempty : c ≠ []
  not_here : c ≠ N.here
  not_up : c ≠ N.up
  atomic : N.sep ∉ c

/-- Put one component on the stack (innermost first). Above the root `up` stays at
the root; in a relative name it is kept when there is nothing to undo. -/
def push (rooted : Bool) (stack : List (List α)) (c : List α) : List (List α) :=
  if c = [] ∨ c = N.here then stack
  else if c = N.up then
    match stack with
    | [] => if rooted then [] else [c]
    | top :: rest => if top = N.up then c :: stack else rest
  else c :: stack

def resolve (rooted : Bool) (components : List (List α)) : List (List α) :=
  (components.foldl (push N rooted) []).reverse

def rooted (p : List α) : Bool := p.head? = some N.sep

/-- The absolute name with these components. -/
def absolute (components : List (List α)) : List α :=
  N.sep :: [N.sep].intercalate components

/-- The components a rooted name resolves to. -/
def components (p : List α) : List (List α) := resolve N true (p.splitOn N.sep)

def clean (p : List α) : List α :=
  if rooted N p then absolute N (components N p)
  else
    match resolve N false (p.splitOn N.sep) with
    | [] => N.here
    | stack => [N.sep].intercalate stack

/-- The last component, the separator for a name made of separators only. -/
def base (p : List α) : List α :=
  if p = [] then N.here
  else ((p.splitOn N.sep).filter (· ≠ [])).getLast?.getD [N.sep]

/-- Everything up to the last separator, cleaned. -/
def dir (p : List α) : List α :=
  match (p.splitOn N.sep).dropLast with
  | [] => clean N []
  | front => clean N ([N.sep].intercalate front ++ [N.sep])

/-- Join with separators, dropping leading empty elements, and clean. -/
def join (elements : List (List α)) : List α :=
  match elements.dropWhile (· = []) with
  | [] => []
  | kept => clean N ([N.sep].intercalate kept)

/-! ## Plain components -/

variable {N}

theorem push_plain {c : List α} (plain : Plain N c) (b : Bool) (stack : List (List α)) :
    push N b stack c = c :: stack := by
  unfold push
  rw [if_neg (by simp [plain.nonempty, plain.not_here]), if_neg plain.not_up]

theorem foldl_push_plain {cs : List (List α)} (plain : ∀ c ∈ cs, Plain N c) (b : Bool)
    (stack : List (List α)) : cs.foldl (push N b) stack = cs.reverse ++ stack := by
  induction cs generalizing stack with
  | nil => rfl
  | cons c rest ih =>
      rw [List.foldl_cons, push_plain (plain c (by simp)),
        ih (fun c member => plain c (by simp [member]))]
      simp

theorem push_keeps_plain {c : List α} (atomic : N.sep ∉ c) {stack : List (List α)}
    (plain : ∀ x ∈ stack, Plain N x) : ∀ x ∈ push N true stack c, Plain N x := by
  unfold push
  split
  · exact plain
  · rename_i named
    split
    · cases stack with
      | nil => simp
      | cons top rest =>
          have top_plain := plain top (by simp)
          simp only [if_neg top_plain.not_up]
          exact fun x member => plain x (by simp [member])
    · rename_i not_up
      rw [not_or] at named
      intro x member
      rcases List.mem_cons.mp member with rfl | member
      · exact ⟨named.1, named.2, not_up, atomic⟩
      · exact plain x member

theorem foldl_push_keeps_plain {cs : List (List α)} (atomic : ∀ c ∈ cs, N.sep ∉ c)
    {stack : List (List α)} (plain : ∀ x ∈ stack, Plain N x) :
    ∀ x ∈ cs.foldl (push N true) stack, Plain N x := by
  induction cs generalizing stack with
  | nil => exact plain
  | cons c rest ih =>
      exact ih (fun c member => atomic c (by simp [member]))
        (push_keeps_plain (atomic c (by simp)) plain)

omit [DecidableEq α] in
theorem head_absolute (cs : List (List α)) : (absolute N cs).head? = some N.sep := rfl

theorem rooted_absolute (cs : List (List α)) : rooted N (absolute N cs) = true := by
  simp [rooted, head_absolute]

theorem splitOn_atomic (p : List α) : ∀ c ∈ p.splitOn N.sep, N.sep ∉ c := by
  induction p with
  | nil => simp
  | cons x rest ih =>
      rw [List.splitOn_cons_eq_if_modifyHead]
      split
      · intro c member
        rcases List.mem_cons.mp member with rfl | member
        · simp
        · exact ih c member
      · rename_i different
        cases parts : rest.splitOn N.sep with
        | nil => exact absurd parts (List.splitOn_ne_nil _ _)
        | cons head tail =>
            rw [parts] at ih
            intro c member
            rw [List.modifyHead_cons] at member
            rcases List.mem_cons.mp member with rfl | member
            · have := ih head (by simp)
              simp only [List.mem_cons, not_or]
              exact ⟨fun same => different (by simp [same]), this⟩
            · exact ih c (by simp [member])

/-- A rooted name resolves to plain components. -/
theorem components_plain (p : List α) : ∀ c ∈ components N p, Plain N c := by
  intro c member
  rw [components, resolve, List.mem_reverse] at member
  exact foldl_push_keeps_plain (splitOn_atomic p) (by simp) c member

theorem splitOn_absolute {cs : List (List α)} (atomic : ∀ c ∈ cs, N.sep ∉ c) :
    (absolute N cs).splitOn N.sep = [] :: (if cs = [] then [[]] else cs) := by
  have first := List.splitOn_append_cons_self (a := N.sep) [] ([N.sep].intercalate cs)
  rw [List.nil_append, List.splitOn_nil] at first
  rw [absolute, first]
  by_cases empty : cs = []
  · subst empty
    simp
  · rw [if_neg empty, List.splitOn_intercalate N.sep atomic empty]
    rfl

theorem components_absolute {cs : List (List α)} (plain : ∀ c ∈ cs, Plain N c) :
    components N (absolute N cs) = cs := by
  rw [components, splitOn_absolute fun c member => (plain c member).atomic]
  by_cases empty : cs = []
  · subst empty
    simp [resolve, push]
  · rw [if_neg empty, resolve, List.foldl_cons]
    have skip : push N true [] [] = [] := by simp [push]
    rw [skip, foldl_push_plain plain]
    simp

/-- Printing plain components is already clean. -/
theorem clean_absolute {cs : List (List α)} (plain : ∀ c ∈ cs, Plain N c) :
    clean N (absolute N cs) = absolute N cs := by
  rw [clean, if_pos (rooted_absolute cs), components_absolute plain]

/-- An absolute name determines its plain components. -/
theorem absolute_injective {cs ds : List (List α)} (hc : ∀ c ∈ cs, Plain N c)
    (hd : ∀ d ∈ ds, Plain N d) (same : absolute N cs = absolute N ds) : cs = ds := by
  rw [← components_absolute hc, same, components_absolute hd]

theorem clean_rooted {p : List α} (root : rooted N p = true) :
    clean N p = absolute N (components N p) := by
  rw [clean, if_pos root]

theorem components_clean {p : List α} (root : rooted N p = true) :
    components N (clean N p) = components N p := by
  rw [clean_rooted root, components_absolute (components_plain p)]

theorem rooted_append {p : List α} (root : rooted N p = true) (q : List α) :
    rooted N (p ++ q) = true := by
  cases p with
  | nil => simp [rooted] at root
  | cons x rest => simpa [rooted] using root

theorem components_append {p : List α} {cs : List (List α)} (plain : ∀ c ∈ cs, Plain N c) :
    components N (p ++ N.sep :: [N.sep].intercalate cs) = components N p ++ cs := by
  have parts := List.splitOn_append_cons_self (a := N.sep) p ([N.sep].intercalate cs)
  rw [components, parts, components, resolve, resolve, List.foldl_append]
  by_cases empty : cs = []
  · subst empty
    simp [push]
  · rw [List.splitOn_intercalate N.sep (fun c member => (plain c member).atomic) empty,
      foldl_push_plain plain]
    simp

/-- **Appending plain components to a rooted name commutes with cleaning it.** -/
theorem clean_append {p : List α} (root : rooted N p = true) {cs : List (List α)}
    (plain : ∀ c ∈ cs, Plain N c) :
    clean N (p ++ N.sep :: [N.sep].intercalate cs) = absolute N (components N p ++ cs) := by
  rw [clean_rooted (rooted_append root _), components_append plain]

theorem mem_push {b : Bool} {c x : List α} {stack : List (List α)} (member : x ∈ push N b stack c) :
    x ∈ stack ∨ (x = c ∧ x ≠ []) := by
  unfold push at member
  split at member
  · exact .inl member
  · rename_i named
    rw [not_or] at named
    split at member
    · cases stack with
      | nil =>
          cases b with
          | true => simp at member
          | false =>
              simp only [Bool.false_eq_true, if_false, List.mem_singleton] at member
              exact .inr ⟨member, member ▸ named.1⟩
      | cons top rest =>
          simp only at member
          split at member
          · rcases List.mem_cons.mp member with rfl | member
            · exact .inr ⟨rfl, named.1⟩
            · exact .inl member
          · exact .inl (by simp [member])
    · rcases List.mem_cons.mp member with rfl | member
      · exact .inr ⟨rfl, named.1⟩
      · exact .inl member

theorem mem_foldl_push {b : Bool} {cs : List (List α)} {x : List α} {stack : List (List α)}
    (member : x ∈ cs.foldl (push N b) stack) : x ∈ stack ∨ (x ∈ cs ∧ x ≠ []) := by
  induction cs generalizing stack with
  | nil => exact .inl member
  | cons c rest ih =>
      rcases ih member with inStack | ⟨inRest, nonempty⟩
      · rcases mem_push inStack with old | ⟨rfl, nonempty⟩
        · exact .inl old
        · exact .inr ⟨by simp, nonempty⟩
      · exact .inr ⟨by simp [inRest], nonempty⟩

/-- Cleaning keeps a name rooted or relative. -/
theorem rooted_clean (here : N.here.head? ≠ some N.sep) (p : List α) :
    rooted N (clean N p) = rooted N p := by
  unfold clean
  split
  · rename_i root
    rw [root, rooted_absolute]
  · rename_i relative
    rw [Bool.eq_false_iff.mpr relative]
    split
    · simpa [rooted] using here
    · rename_i stack nonempty
      cases parts : resolve N false (p.splitOn N.sep) with
      | nil => exact absurd parts nonempty
      | cons c rest =>
          have member : c ∈ (p.splitOn N.sep).foldl (push N false) [] := by
            rw [← List.mem_reverse, ← resolve, parts]
            exact List.mem_cons_self
          rcases mem_foldl_push member with inNil | ⟨inSplit, filled⟩
          · simp at inNil
          · have atomic := splitOn_atomic p c inSplit
            cases c with
            | nil => exact absurd rfl filled
            | cons x xs =>
                have head : ([N.sep].intercalate ((x :: xs) :: rest)).head? = some x := by
                  cases rest <;> simp [List.intercalate]
                simp only [List.mem_cons, not_or] at atomic
                simp only [rooted, head, Option.some.injEq, decide_eq_false_iff_not]
                exact fun same => atomic.1 same.symm

theorem base_absolute {cs : List (List α)} (plain : ∀ c ∈ cs, Plain N c) {last : List α}
    (ends : cs.getLast? = some last) : base N (absolute N cs) = last := by
  have nonempty : cs ≠ [] := by rintro rfl; simp at ends
  rw [base, if_neg (by simp [absolute]), splitOn_absolute fun c member => (plain c member).atomic,
    if_neg nonempty]
  have keep : ([] :: cs).filter (fun c => decide (c ≠ [])) = cs := by
    rw [List.filter_cons_of_neg (by simp)]
    exact List.filter_eq_self.mpr fun c member => by simpa using (plain c member).nonempty
  rw [keep, ends]
  rfl

omit [DecidableEq α] in
theorem absolute_eq_flatMap {cs : List (List α)} (nonempty : cs ≠ []) :
    absolute N cs = cs.flatMap (N.sep :: ·) := by
  induction cs with
  | nil => exact absurd rfl nonempty
  | cons c rest ih =>
      cases rest with
      | nil => simp [absolute]
      | cons d ds =>
          have tail := ih (by simp)
          simp only [absolute, List.flatMap_cons] at tail ⊢
          rw [← tail]
          simp [List.intercalate]

omit [DecidableEq α] in
theorem absolute_append {cs ds : List (List α)} (hc : cs ≠ []) (hd : ds ≠ []) :
    absolute N (cs ++ ds) = absolute N cs ++ absolute N ds := by
  rw [absolute_eq_flatMap (by simp [hc]), absolute_eq_flatMap hc, absolute_eq_flatMap hd,
    List.flatMap_append]

theorem dir_absolute {cs : List (List α)} (plain : ∀ c ∈ cs, Plain N c) (nonempty : cs ≠ []) :
    dir N (absolute N cs) = absolute N cs.dropLast := by
  have front : ([] :: cs).dropLast = [] :: cs.dropLast := List.dropLast_cons_of_ne_nil nonempty
  rw [dir, splitOn_absolute fun c member => (plain c member).atomic, if_neg nonempty, front]
  simp only
  have plain' : ∀ c ∈ cs.dropLast, Plain N c := fun c member => plain c (List.dropLast_subset _ member)
  by_cases empty : cs.dropLast = []
  · rw [empty]
    simpa [absolute] using clean_absolute (N := N) fun c (no : c ∈ []) => nomatch no
  · have spelled : [N.sep].intercalate ([] :: cs.dropLast) ++ [N.sep] =
        absolute N cs.dropLast ++ N.sep :: [N.sep].intercalate [] := by
      cases rest : cs.dropLast with
      | nil => exact absurd rest empty
      | cons d ds => simp [absolute, List.intercalate]
    rw [spelled, clean_append (rooted_absolute _) (by simp), components_absolute plain']
    simp

/-! ## Any root -/

/-- Components without a separator can be read back, printed relative or absolute. -/
theorem intercalate_injective {cs ds : List (List α)} (hc : ∀ c ∈ cs, N.sep ∉ c)
    (hd : ∀ d ∈ ds, N.sep ∉ d) (nec : cs ≠ []) (ned : ds ≠ [])
    (same : [N.sep].intercalate cs = [N.sep].intercalate ds) : cs = ds := by
  rw [← List.splitOn_intercalate N.sep hc nec, same, List.splitOn_intercalate N.sep hd ned]

theorem resolve_atomic (b : Bool) (p : List α) : ∀ c ∈ resolve N b (p.splitOn N.sep), N.sep ∉ c := by
  intro c member
  rw [resolve, List.mem_reverse] at member
  rcases mem_foldl_push member with inNil | ⟨inSplit, -⟩
  · cases inNil
  · exact splitOn_atomic p c inSplit

/-- Plain components appended to any name, rooted or not, survive cleaning. -/
theorem clean_below {p : List α} {cs : List (List α)} (plain : ∀ c ∈ cs, Plain N c)
    (nonempty : cs ≠ []) :
    clean N (p ++ N.sep :: [N.sep].intercalate cs) =
      if rooted N (p ++ [N.sep]) then absolute N (resolve N true (p.splitOn N.sep) ++ cs)
      else [N.sep].intercalate (resolve N false (p.splitOn N.sep) ++ cs) := by
  have parts : (p ++ N.sep :: [N.sep].intercalate cs).splitOn N.sep = p.splitOn N.sep ++ cs := by
    rw [List.splitOn_append_cons_self,
      List.splitOn_intercalate N.sep (fun c member => (plain c member).atomic) nonempty]
  have resolved : ∀ b, resolve N b (p.splitOn N.sep ++ cs) = resolve N b (p.splitOn N.sep) ++ cs := by
    intro b
    rw [resolve, List.foldl_append, foldl_push_plain plain, resolve]
    simp
  have same : rooted N (p ++ N.sep :: [N.sep].intercalate cs) = rooted N (p ++ [N.sep]) := by
    cases p <;> rfl
  rw [clean, components, parts, resolved, resolved, same]
  split
  · rfl
  · cases shape : resolve N false (p.splitOn N.sep) ++ cs with
    | nil => exact absurd (List.append_eq_nil_iff.mp shape).2 nonempty
    | cons c rest => rfl

/-- **Nothing is lost below any name.** -/
theorem clean_below_injective {p : List α} {cs ds : List (List α)} (hc : ∀ c ∈ cs, Plain N c)
    (hd : ∀ d ∈ ds, Plain N d) (nec : cs ≠ []) (ned : ds ≠ [])
    (same : clean N (p ++ N.sep :: [N.sep].intercalate cs) =
      clean N (p ++ N.sep :: [N.sep].intercalate ds)) : cs = ds := by
  have atomic : ∀ b {es : List (List α)}, (∀ e ∈ es, Plain N e) →
      ∀ e ∈ resolve N b (p.splitOn N.sep) ++ es, N.sep ∉ e := by
    intro b es plain e member
    rcases List.mem_append.mp member with old | new
    · exact resolve_atomic b p e old
    · exact (plain e new).atomic
  have recovered : ∀ b, [N.sep].intercalate (resolve N b (p.splitOn N.sep) ++ cs) =
      [N.sep].intercalate (resolve N b (p.splitOn N.sep) ++ ds) → cs = ds := fun b printed =>
    List.append_cancel_left (intercalate_injective (atomic b hc) (atomic b hd) (by simp [nec])
      (by simp [ned]) printed)
  rw [clean_below hc nec, clean_below hd ned] at same
  split at same
  · exact recovered true (List.cons.inj same).2
  · exact recovered false same

theorem join_below {p : List α} {cs : List (List α)} (plain : ∀ c ∈ cs, Plain N c)
    (nonempty : cs ≠ []) : join N (p :: cs) =
      if p = [] then [N.sep].intercalate cs else clean N (p ++ N.sep :: [N.sep].intercalate cs) := by
  obtain ⟨c, rest, rfl⟩ := List.exists_cons_of_ne_nil nonempty
  have filled := (plain c (by simp)).nonempty
  unfold join
  by_cases empty : p = []
  · have kept : List.dropWhile (· = []) (p :: c :: rest) = c :: rest := by simp [empty, filled]
    have relative : rooted N ([N.sep].intercalate (c :: rest)) = false := by
      obtain ⟨x, xs, rfl⟩ := List.exists_cons_of_ne_nil filled
      have atomic := (plain (x :: xs) (by simp)).atomic
      have head : ([N.sep].intercalate ((x :: xs) :: rest)).head? = some x := by
        cases rest <;> simp [List.intercalate]
      simp only [rooted, head, Option.some.injEq, decide_eq_false_iff_not]
      rintro rfl
      exact atomic (by simp)
    rw [kept, if_pos empty]
    simp only [clean, relative, Bool.false_eq_true, if_false]
    rw [List.splitOn_intercalate N.sep (fun c member => (plain c member).atomic) nonempty, resolve,
      foldl_push_plain plain]
    simp
  · have kept : List.dropWhile (· = []) (p :: c :: rest) = p :: c :: rest := by simp [empty]
    rw [kept, if_neg empty]
    simp [List.intercalate]

theorem join_below_injective {p : List α} {cs ds : List (List α)} (hc : ∀ c ∈ cs, Plain N c)
    (hd : ∀ d ∈ ds, Plain N d) (nec : cs ≠ []) (ned : ds ≠ [])
    (same : join N (p :: cs) = join N (p :: ds)) : cs = ds := by
  rw [join_below hc nec, join_below hd ned] at same
  split at same
  · exact intercalate_injective (fun c member => (hc c member).atomic)
      (fun d member => (hd d member).atomic) nec ned same
  · exact clean_below_injective hc hd nec ned same

/-- Joining a clean absolute name to a named directory is joining its components. -/
theorem join_absolute_eq {p : List α} (named : p ≠ []) {cs : List (List α)}
    (plain : ∀ c ∈ cs, Plain N c) (nonempty : cs ≠ []) : join N [p, absolute N cs] = join N (p :: cs) := by
  have joined : join N [p, absolute N cs] = clean N ((p ++ [N.sep]) ++ N.sep :: [N.sep].intercalate cs) := by
    unfold join
    simp [named, absolute, List.intercalate]
  have parts : (p ++ [N.sep]).splitOn N.sep = p.splitOn N.sep ++ [[]] := by
    rw [List.splitOn_append_cons_self, List.splitOn_nil]
  have resolved : ∀ b, resolve N b ((p ++ [N.sep]).splitOn N.sep) = resolve N b (p.splitOn N.sep) := by
    intro b
    simp [parts, resolve, push]
  have rooted_same : rooted N (p ++ [N.sep] ++ [N.sep]) = rooted N (p ++ [N.sep]) := by
    cases p <;> rfl
  rw [joined, join_below plain nonempty, if_neg named, clean_below plain nonempty,
    clean_below plain nonempty, resolved, resolved, rooted_same]

omit [DecidableEq α] in
theorem intercalate_append {cs ds : List (List α)} (nec : cs ≠ []) (ned : ds ≠ []) :
    [N.sep].intercalate (cs ++ ds) = [N.sep].intercalate cs ++ N.sep :: [N.sep].intercalate ds := by
  induction cs with
  | nil => exact absurd rfl nec
  | cons c rest ih =>
      cases rest with
      | nil =>
          obtain ⟨d, ds, rfl⟩ := List.exists_cons_of_ne_nil ned
          simp [List.intercalate]
      | cons c' rest =>
          have later := ih (by simp)
          simp only [List.cons_append] at later ⊢
          simp only [List.intercalate, List.intersperse_cons_cons, List.flatten_cons, List.cons_append,
            List.append_assoc] at later ⊢
          rw [later]

/-- What is joined further lies below what was joined first. -/
theorem join_nested {p : List α} (named : p ≠ []) {cs ds : List (List α)} (hc : ∀ c ∈ cs, Plain N c)
    (hd : ∀ d ∈ ds, Plain N d) (nec : cs ≠ []) (ned : ds ≠ []) :
    join N (p :: (cs ++ ds)) = join N (p :: cs) ++ N.sep :: [N.sep].intercalate ds := by
  have both : ∀ c ∈ cs ++ ds, Plain N c := fun c member =>
    (List.mem_append.mp member).elim (hc c) (hd c)
  rw [join_below both (by simp [nec]), join_below hc nec, if_neg named, if_neg named,
    clean_below both (by simp [nec]), clean_below hc nec]
  split
  · rw [absolute, ← List.append_assoc, intercalate_append (by simp [nec]) ned, absolute, List.cons_append]
  · rw [← List.append_assoc, intercalate_append (by simp [nec]) ned]

/-- The same for a clean absolute name joined to any name. -/
theorem join_absolute_injective {p : List α} {cs ds : List (List α)} (hc : ∀ c ∈ cs, Plain N c)
    (hd : ∀ d ∈ ds, Plain N d) (nec : cs ≠ []) (ned : ds ≠ [])
    (same : join N [p, absolute N cs] = join N [p, absolute N ds]) : cs = ds := by
  have shape : ∀ es : List (List α), join N [p, absolute N es] =
      clean N ((if p = [] then [] else p ++ [N.sep]) ++ N.sep :: [N.sep].intercalate es) := by
    intro es
    unfold join
    by_cases empty : p = []
    · simp [empty, absolute]
    · simp [empty, absolute, List.intercalate]
  rw [shape, shape] at same
  exact clean_below_injective hc hd nec ned same

end CpuIdle.Theory.Lexical
