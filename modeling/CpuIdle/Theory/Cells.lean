/-
# Theory.Cells — programs that work on one cell of a world that has many

A world is a family of cells. `Serves` says that a handler answers the requests about one
cell from that cell alone and changes no other; `see` is what the programs look at of an
answer. `Coupled` compares two programs that make only such requests, on two worlds that
agree in that cell: the same requests, related values, the same cell at the end. `sweep` runs
one operation for each item of a list; where each works on its own part of the state, the
order does not matter and no operation sees another.
-/
import CpuIdle.Theory.Run
import Mathlib.Data.List.Nodup
import Mathlib.Data.List.Perm.Basic
import Mathlib.Logic.Function.Basic

namespace CpuIdle.Theory

set_option autoImplicit false

universe u

variable {S : Signature} {α β γ δ : Type} {ι : Type} [DecidableEq ι]

/-! ## One cell -/

/-- What a program asked for, in order. -/
def Program.requests {W : Type u} (h : Handler S W) (p : Program S α) (w : W) : List S.Request :=
  (p.events h w).map Sigma.fst

@[simp] theorem Program.requests_done {W : Type u} {h : Handler S W} (value : α) (w : W) :
    (Program.done value).requests h w = [] := rfl

@[simp] theorem Program.requests_request {W : Type u} {h : Handler S W} (r : S.Request) (w : W) :
    (Program.request r).requests h w = [r] := rfl

@[simp] theorem Program.requests_bind {W : Type u} {h : Handler S W} (p : Program S α)
    (f : α → Program S β) (w : W) :
    (p >>= f).requests h w = p.requests h w ++ (f (p.run h w).1).requests h (p.run h w).2 := by
  simp [Program.requests]

/-- Requests about cell `i` are answered as `cell` answers them, and change nothing else. -/
structure Serves {σ : Type} (about : S.Request → Prop) (see : ∀ r, S.Answer r → S.Answer r) (i : ι)
    (cell : Handler S σ) (h : Handler S (ι → σ)) : Prop where
  answer : ∀ r, about r → ∀ w, see r (h w r).1 = see r (cell (w i) r).1
  state : ∀ r, about r → ∀ w, (h w r).2 = Function.update w i (cell (w i) r).2

section

variable {σ : Type} {about : S.Request → Prop} {see : ∀ r, S.Answer r → S.Answer r} {i : ι}

/-- Two runs that saw the same in the cell. -/
structure Together (about : S.Request → Prop) (i : ι) (R : α → β → Prop) (h₁ h₂ : Handler S (ι → σ))
    (p : Program S α) (q : Program S β) (w₁ w₂ : ι → σ) : Prop where
  value : R (p.run h₁ w₁).1 (q.run h₂ w₂).1
  cell : (p.run h₁ w₁).2 i = (q.run h₂ w₂).2 i
  left : ∀ j, j ≠ i → (p.run h₁ w₁).2 j = w₁ j
  right : ∀ j, j ≠ i → (q.run h₂ w₂).2 j = w₂ j
  requests : p.requests h₁ w₁ = q.requests h₂ w₂
  within : ∀ r ∈ p.requests h₁ w₁, about r

/-- Two programs that do the same wherever they see the same in the cell. -/
def Coupled (about : S.Request → Prop) (see : ∀ r, S.Answer r → S.Answer r) (i : ι) (R : α → β → Prop)
    (p : Program S α) (q : Program S β) : Prop :=
  ∀ (σ : Type) (cell : Handler S σ) (h₁ h₂ : Handler S (ι → σ)), Serves about see i cell h₁ →
    Serves about see i cell h₂ → ∀ w₁ w₂ : ι → σ, w₁ i = w₂ i → Together about i R h₁ h₂ p q w₁ w₂

theorem Coupled.pure {R : α → β → Prop} {a : α} {b : β} (related : R a b) :
    Coupled about see i R (Pure.pure a) (Pure.pure b) :=
  fun _ _ _ _ _ _ _ _ same => ⟨related, same, fun _ _ => rfl, fun _ _ => rfl, rfl, nofun⟩

/-- One request about the cell: both are answered alike. -/
theorem Coupled.request {r : S.Request} (is : about r) :
    Coupled about see i (fun a b => see r a = see r b) (Program.request r) (Program.request r) := by
  intro σ cell h₁ h₂ serves₁ serves₂ w₁ w₂ same
  have state₁ := serves₁.state r is w₁
  have state₂ := serves₂.state r is w₂
  refine ⟨?_, ?_, ?_, ?_, rfl, ?_⟩
  · rw [Program.run_request, Program.run_request, serves₁.answer r is, serves₂.answer r is, same]
  · rw [Program.run_request, Program.run_request, state₁, state₂, same]
    simp
  · intro j other
    rw [Program.run_request, state₁, Function.update_of_ne other]
  · intro j other
    rw [Program.run_request, state₂, Function.update_of_ne other]
  · intro r' member
    obtain rfl := List.mem_singleton.mp member
    exact is

theorem Coupled.bind {R : α → β → Prop} {Q : γ → δ → Prop} {p : Program S α} {q : Program S β}
    {f : α → Program S γ} {g : β → Program S δ} (first : Coupled about see i R p q)
    (rest : ∀ a b, R a b → Coupled about see i Q (f a) (g b)) :
    Coupled about see i Q (p >>= f) (q >>= g) := by
  intro σ cell h₁ h₂ serves₁ serves₂ w₁ w₂ same
  have before := first σ cell h₁ h₂ serves₁ serves₂ w₁ w₂ same
  have after := rest _ _ before.value σ cell h₁ h₂ serves₁ serves₂ _ _ before.cell
  refine ⟨?_, ?_, ?_, ?_, ?_, ?_⟩
  · simpa using after.value
  · simpa using after.cell
  · intro j other
    rw [Program.run_bind, after.left j other, before.left j other]
  · intro j other
    rw [Program.run_bind, after.right j other, before.right j other]
  · rw [Program.requests_bind, Program.requests_bind, before.requests, after.requests]
  · intro r member
    rw [Program.requests_bind] at member
    exact (List.mem_append.mp member).elim (before.within r) (after.within r)

/-- A common beginning. -/
theorem Coupled.after {Q : γ → δ → Prop} {p : Program S α} {f : α → Program S γ} {g : α → Program S δ}
    (first : Coupled about see i Eq p p) (rest : ∀ a, Coupled about see i Q (f a) (g a)) :
    Coupled about see i Q (p >>= f) (p >>= g) :=
  first.bind fun a _ same => same ▸ rest a

theorem Coupled.post {R Q : α → β → Prop} {p : Program S α} {q : Program S β}
    (coupled : Coupled about see i R p q) (weaker : ∀ a b, R a b → Q a b) : Coupled about see i Q p q :=
  fun σ cell h₁ h₂ serves₁ serves₂ w₁ w₂ same =>
    let known := coupled σ cell h₁ h₂ serves₁ serves₂ w₁ w₂ same
    ⟨weaker _ _ known.value, known.cell, known.left, known.right, known.requests, known.within⟩

theorem Coupled.ite {R : α → β → Prop} {c : Prop} [Decidable c] {p p' : Program S α} {q q' : Program S β}
    (holds : c → Coupled about see i R p q) (fails : ¬c → Coupled about see i R p' q') :
    Coupled about see i R (if c then p else p') (if c then q else q') := by
  by_cases h : c
  · rw [if_pos h, if_pos h]
    exact holds h
  · rw [if_neg h, if_neg h]
    exact fails h

end

/-! ## One operation for each item -/

section

variable {X τ : Type}

/-- `op` for each item, in order, with what each returned. -/
def sweep (op : α → X → β × X) : List α → X → List (α × β) × X
  | [], x => ([], x)
  | a :: rest, x =>
      let first := op a x
      let others := sweep op rest first.2
      ((a, first.1) :: others.1, others.2)

/-- From every state that shows item `a` what `x` shows it, `op` does the same, and it changes no
other part of the state. -/
structure Local (view : X → ι → τ) (key : α → ι) (op : α → X → β × X) (x : X) (a : α) : Prop where
  frame : ∀ y, view y (key a) = view x (key a) → ∀ j, j ≠ key a → view (op a y).2 j = view y j
  value : ∀ y, view y (key a) = view x (key a) → (op a y).1 = (op a x).1
  own : ∀ y, view y (key a) = view x (key a) → view (op a y).2 (key a) = view (op a x).2 (key a)

variable {view : X → ι → τ} {key : α → ι} {op : α → X → β × X} {x : X} {items : List α}

omit [DecidableEq ι] in
theorem Local.move {x' : X} {a : α} (isLocal : Local view key op x a)
    (same : view x' (key a) = view x (key a)) : Local view key op x' a where
  frame y shows := isLocal.frame y (shows.trans same)
  value y shows := (isLocal.value y (shows.trans same)).trans (isLocal.value x' same).symm
  own y shows := (isLocal.own y (shows.trans same)).trans (isLocal.own x' same).symm

/-- What a sweep over separate parts comes to. -/
structure Swept (view : X → ι → τ) (key : α → ι) (op : α → X → β × X) (x : X) (items : List α) : Prop where
  values : (sweep op items x).1 = items.map fun a => (a, (op a x).1)
  parts : ∀ a ∈ items, view (sweep op items x).2 (key a) = view (op a x).2 (key a)
  others : ∀ j, j ∉ items.map key → view (sweep op items x).2 j = view x j

omit [DecidableEq ι] in
/-- **Each operation works as if it were alone.** -/
theorem sweep_local (apart : (items.map key).Nodup) (isLocal : ∀ a ∈ items, Local view key op x a) :
    Swept view key op x items := by
  induction items generalizing x with
  | nil => exact ⟨rfl, nofun, fun _ _ => rfl⟩
  | cons a rest ih =>
      obtain ⟨here, later⟩ := List.forall_mem_cons.mp isLocal
      obtain ⟨fresh, apart⟩ := List.nodup_cons.mp apart
      have untouched : ∀ b ∈ rest, view (op a x).2 (key b) = view x (key b) := fun b member =>
        here.frame x rfl (key b) fun same => fresh (same ▸ List.mem_map_of_mem member)
      have swept := ih apart fun b member => (later b member).move (untouched b member)
      refine ⟨?_, ?_, ?_⟩
      · show (a, (op a x).1) :: (sweep op rest (op a x).2).1 = _
        rw [swept.values, List.map_cons]
        congr 1
        refine List.map_congr_left fun b member => ?_
        rw [(later b member).value _ (untouched b member)]
      · refine List.forall_mem_cons.mpr ⟨swept.others _ fresh, fun b member => ?_⟩
        show view (sweep op rest (op a x).2).2 (key b) = _
        rw [swept.parts b member, (later b member).own _ (untouched b member)]
      · intro j absent
        rw [List.map_cons, List.mem_cons, not_or] at absent
        show view (sweep op rest (op a x).2).2 j = _
        rw [swept.others j absent.2, here.frame x rfl j absent.1]

/-! ### Two sweeps -/

variable {op₁ op₂ : α → X → β × X} {x₁ x₂ : X} {items₁ items₂ : List α}

omit [DecidableEq ι] in
/-- Where both sweeps have the same items and find the same, they leave the same. -/
theorem Swept.agree (swept₁ : Swept view key op₁ x₁ items₁) (swept₂ : Swept view key op₂ x₂ items₂) {j : ι}
    (items : ∀ a, key a = j → (a ∈ items₁ ↔ a ∈ items₂)) (same : view x₁ j = view x₂ j)
    (parts : ∀ a ∈ items₁, key a = j → view (op₁ a x₁).2 (key a) = view (op₂ a x₂).2 (key a)) :
    view (sweep op₁ items₁ x₁).2 j = view (sweep op₂ items₂ x₂).2 j := by
  by_cases listed : j ∈ items₁.map key
  · obtain ⟨a, member, rfl⟩ := List.mem_map.mp listed
    rw [swept₁.parts a member, swept₂.parts a ((items a rfl).mp member), parts a member rfl]
  · have unlisted : j ∉ items₂.map key := by
      intro listed₂
      obtain ⟨a, member, rfl⟩ := List.mem_map.mp listed₂
      exact listed (List.mem_map_of_mem ((items a rfl).mpr member))
    rw [swept₁.others j listed, swept₂.others j unlisted, same]

omit [DecidableEq ι] in
/-- And they return the same there, in some order. -/
theorem Swept.perm (swept₁ : Swept view key op₁ x₁ items₁) (swept₂ : Swept view key op₂ x₂ items₂)
    (apart₁ : (items₁.map key).Nodup) (apart₂ : (items₂.map key).Nodup) (keep : α → Bool)
    (items : ∀ a, keep a → (a ∈ items₁ ↔ a ∈ items₂))
    (values : ∀ a ∈ items₁, keep a → (op₁ a x₁).1 = (op₂ a x₂).1) :
    ((sweep op₁ items₁ x₁).1.filter fun out => keep out.1).Perm
      ((sweep op₂ items₂ x₂).1.filter fun out => keep out.1) := by
  rw [swept₁.values, swept₂.values, List.filter_map, List.filter_map]
  have kept : (items₁.filter keep).Perm (items₂.filter keep) := by
    rw [List.perm_ext_iff_of_nodup (List.Nodup.filter _ (List.Nodup.of_map _ apart₁))
      (List.Nodup.filter _ (List.Nodup.of_map _ apart₂))]
    intro a
    rw [List.mem_filter, List.mem_filter]
    constructor
    · rintro ⟨member, kept⟩
      exact ⟨(items a kept).mp member, kept⟩
    · rintro ⟨member, kept⟩
      exact ⟨(items a kept).mpr member, kept⟩
  have same : (items₁.filter keep).map (fun a => (a, (op₁ a x₁).1)) =
      (items₁.filter keep).map (fun a => (a, (op₂ a x₂).1)) := by
    refine List.map_congr_left fun a member => ?_
    obtain ⟨member, kept⟩ := List.mem_filter.mp member
    rw [values a member kept]
  show ((items₁.filter keep).map _).Perm ((items₂.filter keep).map _)
  rw [same]
  exact kept.map _

end

/-! ## Loops of programs -/

section

variable {O M κ σ : Type}

/-- `loop` is `one` for each item, and adds up what they return. -/
structure Folds (loop : List α → O → M → Program S (M × O)) (one : α → O → Program S (M × O))
    (add : M → M → M) : Prop where
  nil : ∀ o m, loop [] o m = pure (m, o)
  cons : ∀ a rest o m, loop (a :: rest) o m = one a o >>= fun r => loop rest r.2 (add m r.1)

/-- One operation on the state of the program and the world, with what it asked for. -/
def operate {W : Type} (h : Handler S W) (one : α → O → Program S (M × O)) (a : α) (x : O × W) :
    (M × List S.Request) × (O × W) :=
  let result := (one a x.1).run h x.2
  ((result.1.1, (one a x.1).requests h x.2), (result.1.2, result.2))

omit [DecidableEq ι] in
/-- A loop is a sweep. -/
theorem Folds.run {W : Type} {h : Handler S W} {loop : List α → O → M → Program S (M × O)}
    {one : α → O → Program S (M × O)} {add : M → M → M} (folds : Folds loop one add) (items : List α)
    (o : O) (m : M) (w : W) {swept : List (α × (M × List S.Request)) × (O × W)}
    (sweeps : sweep (operate h one) items (o, w) = swept) :
    (loop items o m).run h w = ((swept.1.foldl (fun m out => add m out.2.1) m, swept.2.1), swept.2.2) ∧
      (loop items o m).requests h w = swept.1.flatMap fun out => out.2.2 := by
  subst sweeps
  induction items generalizing o m w with
  | nil =>
      rw [folds.nil]
      exact ⟨rfl, rfl⟩
  | cons a rest ih =>
      rw [folds.cons, Program.run_bind, Program.requests_bind]
      obtain ⟨runs, asks⟩ := ih ((one a o).run h w).1.2 (add m ((one a o).run h w).1.1) ((one a o).run h w).2
      rw [runs, asks]
      exact ⟨rfl, rfl⟩

/-- Both returned the same, and changed the entry at `i` alike and no other; a good entry stays
good. -/
structure Edited (look : O → ι → κ) (good : κ → Prop) (i : ι) (o₁ o₂ : O) (r₁ r₂ : M × O) : Prop where
  value : r₁.1 = r₂.1
  entry : look r₁.2 i = look r₂.2 i
  left : ∀ j, j ≠ i → look r₁.2 j = look o₁ j
  right : ∀ j, j ≠ i → look r₂.2 j = look o₂ j
  kept : good (look o₁ i) → good (look r₁.2 i)

variable {about : S.Request → Prop} {see : ∀ r, S.Answer r → S.Answer r} {look : O → ι → κ}
  {good : κ → Prop} {i : ι}

omit [DecidableEq ι] in
theorem Edited.same {o₁ o₂ : O} (value : M) (agree : look o₁ i = look o₂ i) :
    Edited look good i o₁ o₂ (value, o₁) (value, o₂) :=
  ⟨rfl, agree, fun _ _ => rfl, fun _ _ => rfl, id⟩

omit [DecidableEq ι] in
/-- One edit after the other. -/
theorem Edited.trans {N : Type} {o₁ o₂ : O} {first₁ first₂ : M × O} {second₁ second₂ : N × O}
    (first : Edited look good i o₁ o₂ first₁ first₂)
    (second : Edited look good i first₁.2 first₂.2 second₁ second₂) :
    Edited look good i o₁ o₂ second₁ second₂ where
  value := second.value
  entry := second.entry
  left j other := (second.left j other).trans (first.left j other)
  right j other := (second.right j other).trans (first.right j other)
  kept isGood := second.kept (first.kept isGood)

/-- The part of the whole state that belongs to `i`. -/
def part (look : O → ι → κ) (x : O × (ι → σ)) (i : ι) : κ × σ := (look x.1 i, x.2 i)

/-- An operation on one entry and one cell. -/
def Confined (about : S.Request → Prop) (see : ∀ r, S.Answer r → S.Answer r) (look : O → ι → κ)
    (good : κ → Prop) (i : ι) (p : O → Program S (M × O)) : Prop :=
  ∀ o₁ o₂, look o₁ i = look o₂ i → good (look o₁ i) →
    Coupled about see i (Edited look good i o₁ o₂) (p o₁) (p o₂)

variable {key : α → ι} {one : α → O → Program S (M × O)} {cell : Handler S σ} {a : α}

/-- What two such operations have in common. -/
structure Confined.Together (about : S.Request → Prop) (look : O → ι → κ) (good : κ → Prop) (i : ι)
    (out₁ out₂ : (M × List S.Request) × (O × (ι → σ))) (x : O × (ι → σ)) : Prop where
  value : out₁.1 = out₂.1
  own : part look out₁.2 i = part look out₂.2 i
  frame : ∀ j, j ≠ i → part look out₁.2 j = part look x j
  within : ∀ r ∈ out₁.1.2, about r
  kept : good (look out₁.2.1 i)

theorem Confined.together {h₁ h₂ : Handler S (ι → σ)}
    (confined : Confined about see look good (key a) (one a)) (serves₁ : Serves about see (key a) cell h₁)
    (serves₂ : Serves about see (key a) cell h₂) {x₁ x₂ : O × (ι → σ)}
    (same : part look x₁ (key a) = part look x₂ (key a)) (isGood : good (look x₁.1 (key a))) :
    Confined.Together about look good (key a) (operate h₁ one a x₁) (operate h₂ one a x₂) x₁ := by
  obtain ⟨entries, cells⟩ := Prod.mk.inj same
  have known := confined x₁.1 x₂.1 entries isGood σ cell h₁ h₂ serves₁ serves₂ x₁.2 x₂.2 cells
  refine ⟨Prod.ext known.value.value known.requests, Prod.ext known.value.entry known.cell, ?_,
    known.within, known.value.kept isGood⟩
  intro j other
  exact Prod.ext (known.value.left j other) (known.left j other)

theorem Confined.local {h : Handler S (ι → σ)} (confined : Confined about see look good (key a) (one a))
    (serves : Serves about see (key a) cell h) {x : O × (ι → σ)} (isGood : good (look x.1 (key a))) :
    Local (part look) key (operate h one) x a :=
  have good_of {y : O × (ι → σ)} (shows : part look y (key a) = part look x (key a)) :
      good (look y.1 (key a)) := by
    have entries : look y.1 (key a) = look x.1 (key a) := congrArg Prod.fst shows
    rwa [entries]
  { frame := fun y shows => (confined.together serves serves rfl (good_of shows)).frame
    value := fun y shows => (confined.together serves serves shows (good_of shows)).value
    own := fun y shows => (confined.together serves serves shows (good_of shows)).own }

end

/-! ## Two tours -/

section

variable {α β : Type}

/-- A filter that empties every chunk but those of `q`. -/
theorem filter_flatMap_of {p : β → Bool} {q : α → Bool} {f : α → List β} {l : List α}
    (drops : ∀ a ∈ l, q a = false → (f a).filter p = []) :
    (l.flatMap f).filter p = (l.filter q).flatMap fun a => (f a).filter p := by
  induction l with
  | nil => rfl
  | cons a rest ih =>
      obtain ⟨here, later⟩ := List.forall_mem_cons.mp drops
      rw [List.flatMap_cons, List.filter_append, ih later]
      cases kept : q a with
      | true => rw [List.filter_cons_of_pos kept, List.flatMap_cons]
      | false => rw [List.filter_cons_of_neg (by simp [kept]), here kept, List.nil_append]

/-- Chunks that are the item itself or nothing. -/
theorem flatMap_sublist {f : α → List α} {l : List α} (chunks : ∀ a ∈ l, f a = [] ∨ f a = [a]) :
    (l.flatMap f).Sublist l := by
  induction l with
  | nil => exact .slnil
  | cons a rest ih =>
      obtain ⟨here, later⟩ := List.forall_mem_cons.mp chunks
      rw [List.flatMap_cons]
      rcases here with none | self
      · rw [none, List.nil_append]
        exact (ih later).cons a
      · rw [self]
        exact (ih later).cons_cons a

theorem mem_flatMap_self {f : α → List α} {l : List α} (chunks : ∀ a ∈ l, f a = [] ∨ f a = [a]) {a : α} :
    a ∈ l.flatMap f ↔ a ∈ l ∧ f a = [a] := by
  rw [List.mem_flatMap]
  constructor
  · rintro ⟨b, member, inside⟩
    rcases chunks b member with none | self
    · rw [none] at inside
      cases inside
    · rw [self] at inside
      obtain rfl := List.mem_singleton.mp inside
      exact ⟨member, self⟩
  · rintro ⟨member, self⟩
    exact ⟨a, member, self ▸ List.mem_singleton_self a⟩

theorem eq_of_perm_short {l l' : List α} (perm : l.Perm l') (short : l.length ≤ 1) : l = l' := by
  cases l with
  | nil => exact perm.nil_eq
  | cons a rest =>
      have alone : rest = [] := List.eq_nil_of_length_eq_zero (by simpa using short)
      subst alone
      exact List.singleton_perm.mp perm

end

/-- A loop over `items` from a state, on a world whose cells behave as `cell` says. -/
structure Tour (S : Signature) (ι σ O M α : Type) where
  handler : Handler S (ι → σ)
  cell : ι → Handler S σ
  one : α → O → Program S (M × O)
  items : List α
  start : O × (ι → σ)

namespace Tour

variable {O M κ σ : Type}

/-- What each operation returned and asked for, and the state at the end. -/
def result (tour : Tour S ι σ O M α) : List (α × (M × List S.Request)) × (O × (ι → σ)) :=
  sweep (operate tour.handler tour.one) tour.items tour.start

/-- Every operation keeps to its own cell and entry. -/
structure Tidy (about : ι → S.Request → Prop) (see : ι → ∀ r, S.Answer r → S.Answer r) (look : O → ι → κ)
    (good : ι → κ → Prop) (key : α → ι) (tour : Tour S ι σ O M α) : Prop where
  serves : ∀ i, Serves (about i) (see i) i (tour.cell i) tour.handler
  confined : ∀ a ∈ tour.items, Confined (about (key a)) (see (key a)) look (good (key a)) (key a) (tour.one a)
  sane : ∀ i, good i (look tour.start.1 i)
  apart : (tour.items.map key).Nodup

variable {about : ι → S.Request → Prop} {see : ι → ∀ r, S.Answer r → S.Answer r} {look : O → ι → κ}
  {good : ι → κ → Prop} {key : α → ι} {tour tour₁ tour₂ : Tour S ι σ O M α}

theorem Tidy.swept (tidy : Tidy about see look good key tour) :
    Swept (part look) key (operate tour.handler tour.one) tour.start tour.items :=
  sweep_local tidy.apart fun a member => (tidy.confined a member).local (tidy.serves (key a)) (tidy.sane (key a))

theorem Tidy.together (tidy : Tidy about see look good key tour) {a : α} (member : a ∈ tour.items) :
    Confined.Together (about (key a)) look (good (key a)) (key a) (operate tour.handler tour.one a tour.start)
      (operate tour.handler tour.one a tour.start) tour.start :=
  (tidy.confined a member).together (tidy.serves (key a)) (tidy.serves (key a)) rfl (tidy.sane (key a))

theorem Tidy.within (tidy : Tidy about see look good key tour) {out : α × (M × List S.Request)}
    (member : out ∈ tour.result.1) : ∀ r ∈ out.2.2, about (key out.1) r := by
  rw [result, tidy.swept.values] at member
  obtain ⟨a, listed, rfl⟩ := List.mem_map.mp member
  exact (tidy.together listed).within

theorem Tidy.sane_end (tidy : Tidy about see look good key tour) (i : ι) :
    good i (look tour.result.2.1 i) := by
  by_cases listed : i ∈ tour.items.map key
  · obtain ⟨a, member, rfl⟩ := List.mem_map.mp listed
    have parts : look tour.result.2.1 (key a) = look (operate tour.handler tour.one a tour.start).2.1 (key a) :=
      congrArg Prod.fst (tidy.swept.parts a member)
    rw [parts]
    exact (tidy.together member).kept
  · have untouched : look tour.result.2.1 i = look tour.start.1 i :=
      congrArg Prod.fst (tidy.swept.others i listed)
    rw [untouched]
    exact tidy.sane i

/-- The two tours have in common what belongs to `Q`. -/
structure Alike (look : O → ι → κ) (key : α → ι) (Q : ι → Prop) (tour₁ tour₂ : Tour S ι σ O M α) : Prop where
  cells : ∀ i, Q i → tour₁.cell i = tour₂.cell i
  ones : ∀ a, Q (key a) → tour₁.one a = tour₂.one a
  items : ∀ a, Q (key a) → (a ∈ tour₁.items ↔ a ∈ tour₂.items)
  start : ∀ i, Q i → part look tour₁.start i = part look tour₂.start i

variable {Q : ι → Prop}

theorem Alike.together (alike : Alike look key Q tour₁ tour₂) (tidy₁ : Tidy about see look good key tour₁)
    (tidy₂ : Tidy about see look good key tour₂) {a : α} (member : a ∈ tour₁.items) (inQ : Q (key a)) :
    Confined.Together (about (key a)) look (good (key a)) (key a)
      (operate tour₁.handler tour₁.one a tour₁.start) (operate tour₂.handler tour₂.one a tour₂.start)
      tour₁.start := by
  have serves₂ := tidy₂.serves (key a)
  rw [← alike.cells _ inQ] at serves₂
  have known := (tidy₁.confined a member).together (tidy₁.serves (key a)) serves₂ (alike.start _ inQ)
    (tidy₁.sane (key a))
  have same : operate tour₂.handler tour₂.one a tour₂.start = operate tour₂.handler tour₁.one a tour₂.start := by
    unfold operate
    rw [alike.ones a inQ]
  rw [same]
  exact known

/-- **What belongs to `Q` ends alike.** -/
theorem Alike.parts (alike : Alike look key Q tour₁ tour₂) (tidy₁ : Tidy about see look good key tour₁)
    (tidy₂ : Tidy about see look good key tour₂) (i : ι) (inQ : Q i) :
    part look tour₁.result.2 i = part look tour₂.result.2 i :=
  tidy₁.swept.agree tidy₂.swept (fun a same => alike.items a (same ▸ inQ)) (alike.start i inQ)
    fun _ member same => (alike.together tidy₁ tidy₂ member (same ▸ inQ)).own

/-- And its operations return and ask for the same. -/
theorem Alike.outs (alike : Alike look key Q tour₁ tour₂) (tidy₁ : Tidy about see look good key tour₁)
    (tidy₂ : Tidy about see look good key tour₂) (keep : α → Bool) (inside : ∀ a, keep a → Q (key a)) :
    (tour₁.result.1.filter fun out => keep out.1).Perm (tour₂.result.1.filter fun out => keep out.1) :=
  tidy₁.swept.perm tidy₂.swept tidy₁.apart tidy₂.apart keep (fun a kept => alike.items a (inside a kept))
    fun _ member kept => (alike.together tidy₁ tidy₂ member (inside _ kept)).value

/-- One item's are the same lists. -/
theorem Alike.outs_at (alike : Alike look key Q tour₁ tour₂) (tidy₁ : Tidy about see look good key tour₁)
    (tidy₂ : Tidy about see look good key tour₂) (i : ι) (inQ : Q i) :
    (tour₁.result.1.filter fun out => key out.1 = i) = tour₂.result.1.filter fun out => key out.1 = i := by
  have perm := alike.outs tidy₁ tidy₂ (fun a => key a = i) fun a same => of_decide_eq_true same ▸ inQ
  have short : (tour₁.result.1.filter fun out => key out.1 = i).length ≤ 1 := by
    rw [result, tidy₁.swept.values, List.filter_map, List.length_map]
    have once := List.nodup_iff_count_le_one.mp tidy₁.apart i
    rw [List.count, List.countP_map, List.countP_eq_length_filter] at once
    exact once
  exact eq_of_perm_short perm short

end Tour

end CpuIdle.Theory
