/-
# Theory.Pool — any number of programs sharing one world

The threads of a pool take turns, one request at a time, while the others of the
arena move as well. A thread sees everybody else, the other threads included, as
moves of `Arena.shared`. So a thread that is `Safe` in the shared arena stays so along
every interleaving, and its guarantee holds at each of its requests (`Pool.guaranteed`).
`Pool.path` says that what a thread has done is a path of the program it started with.
-/
import CpuIdle.Theory.Program
import Mathlib.Logic.Function.Basic

namespace CpuIdle.Theory

set_option autoImplicit false

universe u

variable {S : Signature} {W : Type u} {α : Type} {ι : Type}

theorem Program.Path.snoc {p p' : Program S α} {events : List (Program.Event S)} {r : S.Request}
    {next : S.Answer r → Program S α} (path : Program.Path p events p') (asks : p' = .ask r next)
    (answer : S.Answer r) : Program.Path p (events ++ [⟨r, answer⟩]) (next answer) := by
  induction path with
  | here p =>
      subst asks
      exact .step answer (.here _)
  | step first rest ih => exact .step first (ih asks)

/-- One program under way: what it has asked so far and what is left of it. -/
structure Thread (S : Signature) (α : Type) where
  past : List (Program.Event S)
  rest : Program S α

/-- The moves of the others, as one thread sees them. -/
def Arena.shared (A : Arena S W) : Arena S W :=
  { act := A.act, rely := fun w w' => A.rely w w' ∨ ∃ r answer, A.act w r answer w' }

namespace Pool

/-- The threads and their world. -/
abbrev State (S : Signature) (W : Type u) (α ι : Type) := (ι → Thread S α) × W

variable [DecidableEq ι]

inductive Step (A : Arena S W) : State S W α ι → State S W α ι → Prop where
  | rely {threads : ι → Thread S α} {w w' : W} (move : A.rely w w') :
      Step A (threads, w) (threads, w')
  | act {threads : ι → Thread S α} {w w' : W} (i : ι) {r : S.Request}
      {next : S.Answer r → Program S α} {answer : S.Answer r}
      (asks : (threads i).rest = .ask r next) (acts : A.act w r answer w') :
      Step A (threads, w)
        (Function.update threads i ⟨(threads i).past ++ [⟨r, answer⟩], next answer⟩, w')

/-- All threads at the beginning of their programs. -/
def start (programs : ι → Program S α) : ι → Thread S α := fun i => ⟨[], programs i⟩

def Reaches (A : Arena S W) (programs : ι → Program S α) (w₀ : W) (s : State S W α ι) : Prop :=
  Relation.ReflTransGen (Step A) (start programs, w₀) s

variable {A : Arena S W} {G : ι → Guarantee S W} {Q : ι → α → W → Prop}
  {programs : ι → Program S α} {w₀ : W}

theorem path {s : State S W α ι} (run : Reaches A programs w₀ s) (i : ι) :
    Program.Path (programs i) (s.1 i).past (s.1 i).rest := by
  induction run with
  | refl => exact .here _
  | tail _ step ih =>
      cases step with
      | rely => exact ih
      | act j asks acts =>
          by_cases same : i = j
          · subst same
            simp only [Function.update_self]
            exact ih.snoc asks _
          · simpa only [Function.update_of_ne same] using ih

/-- **Every thread stays safe along every interleaving.** -/
theorem safe {s : State S W α ι} (run : Reaches A programs w₀ s)
    (stable : ∀ i a, A.shared.Stable (Q i a))
    (initially : ∀ i, Safe A.shared (G i) (programs i) (Q i) w₀) (i : ι) :
    Safe A.shared (G i) (s.1 i).rest (Q i) s.2 := by
  induction run with
  | refl => exact initially i
  | tail _ step ih =>
      cases step with
      | rely move => exact Safe.move (stable i) (.inl move) ih
      | @act threads w w' j r next answer asks acts =>
          by_cases same : i = j
          · subst same
            simp only [Function.update_self]
            simp only [asks] at ih
            exact (ih w .refl answer w' acts).2
          · simp only [Function.update_of_ne same]
            exact Safe.move (stable i) (.inr ⟨r, answer, acts⟩) ih

/-- **Each request of each thread meets that thread's guarantee.** -/
theorem guaranteed {s : State S W α ι} (run : Reaches A programs w₀ s)
    (stable : ∀ i a, A.shared.Stable (Q i a))
    (initially : ∀ i, Safe A.shared (G i) (programs i) (Q i) w₀) {i : ι} {r : S.Request}
    {next : S.Answer r → Program S α} {answer : S.Answer r} {w' : W}
    (asks : (s.1 i).rest = .ask r next) (acts : A.act s.2 r answer w') :
    G i s.2 r answer w' := by
  have now := safe run stable initially i
  rw [asks] at now
  exact (now s.2 .refl answer w' acts).1

end Pool

end CpuIdle.Theory
