/-
# Theory.Service — a process that runs passes, can be killed anywhere and starts again

A `Service` runs one program at a time over an arena. Between passes it only holds
its memory `M`; during a pass the memory is inside the running program. A process
may be killed at any point, between two requests of a pass included: what is left
is the world, and a fresh process begins with a boot program.

`Service.invariant` is the induction once and for all. To show that an invariant
`I` of the world and `J` of the memory hold along every run it is enough that both
survive the moves of the others, that every pass is `Safe` with a guarantee that
keeps `I`, and that every boot program is `Safe` knowing `I` alone.
`Service.guaranteed` then reads the guarantee at each answered request of a run.

`Underway` is a single pass on its way, with what it has been answered so far.
-/
import CpuIdle.Theory.Program

namespace CpuIdle.Theory

set_option autoImplicit false

universe u

/-- What a process may run: `start` from a memory, `boot` after a (re)start. -/
structure Service (S : Signature) (W : Type u) (M : Type) where
  arena : Arena S W
  start : W → M → Program S M → Prop
  boot : W → Program S M → Prop

/-- Between passes, or inside one. -/
inductive Process (S : Signature) (M : Type) where
  | idle (memory : M)
  | busy (pass : Program S M)

namespace Service

variable {S : Signature} {W : Type u} {M : Type}

/-- One step of a process in its world. -/
inductive Step (V : Service S W M) : Process S M × W → Process S M × W → Prop where
  | rely {c : Process S M} {w w' : W} (move : V.arena.rely w w') : Step V (c, w) (c, w')
  | start {m : M} {p : Program S M} {w : W} (begins : V.start w m p) :
      Step V (.idle m, w) (.busy p, w)
  | act {r : S.Request} {next : S.Answer r → Program S M} {answer : S.Answer r} {w w' : W}
      (acts : V.arena.act w r answer w') : Step V (.busy (.ask r next), w) (.busy (next answer), w')
  | finish {m : M} {w : W} : Step V (.busy (.done m), w) (.idle m, w)
  | restart {c : Process S M} {p : Program S M} {w : W} (boots : V.boot w p) :
      Step V (c, w) (.busy p, w)

/-- The configurations a run can be in. -/
def Reachable (V : Service S W M) (init : Process S M × W → Prop) (c : Process S M × W) : Prop :=
  ∃ c₀, init c₀ ∧ Relation.ReflTransGen V.Step c₀ c

/-- The others move while the process waits. -/
theorem waits {V : Service S W M} {c : Process S M} {w w' : W} (moves : V.arena.moves w w') :
    Relation.ReflTransGen V.Step (c, w) (c, w') := by
  induction moves with
  | refl => exact .refl
  | tail _ move waited => exact waited.tail (.rely move)

/-- A pass that runs to its end. -/
theorem steps_of_exec {V : Service S W M} {p : Program S M} {w w' : W} {m : M}
    (run : Exec V.arena p w m w') : Relation.ReflTransGen V.Step (.busy p, w) (.idle m, w') := by
  induction run with
  | done => exact .single .finish
  | ask moves act rest ih => exact ((waits moves).tail (.act act)).trans ih

/-- A pass that runs on a deterministic world up to some request. -/
theorem steps_of_pause {V : Service S W M} {σ : Type} {h : Handler S σ} (view : σ → W)
    (allowed : ∀ s r, V.arena.act (view s) r (h s r).1 (view (h s r).2)) (stop : S.Request → Bool)
    (p : Program S M) (s : σ) : Relation.ReflTransGen V.Step (.busy p, view s)
      (.busy (p.pause h stop s).1, view (p.pause h stop s).2) := by
  induction p generalizing s with
  | done value => exact .refl
  | ask r next ih =>
      unfold Program.pause
      split
      · exact .refl
      · exact .head (.act (allowed s r)) (ih _ _)

/-- What the invariant says of a process: a resting memory satisfies `J`, and
whatever is left of a pass is still safe. -/
def Sound (V : Service S W M) (G : Guarantee S W) (J : M → W → Prop) : Process S M → W → Prop
  | .idle m, w => J m w
  | .busy p, w => Safe V.arena G p J w

/-- The obligations of `Service.invariant`. -/
structure Preserves (V : Service S W M) (G : Guarantee S W) (I : W → Prop) (J : M → W → Prop) :
    Prop where
  world : V.arena.Stable I
  memory : ∀ m, V.arena.Stable (J m)
  keeps : ∀ w r answer w', I w → V.arena.act w r answer w' → G w r answer w' → I w'
  starts : ∀ w m p, I w → J m w → V.start w m p → Safe V.arena G p J w
  boots : ∀ w p, I w → V.boot w p → Safe V.arena G p J w

variable {V : Service S W M} {G : Guarantee S W} {I : W → Prop} {J : M → W → Prop}

theorem Preserves.step (obligations : Preserves V G I J) {c c' : Process S M × W}
    (step : V.Step c c') (holds : I c.2 ∧ V.Sound G J c.1 c.2) :
    I c'.2 ∧ V.Sound G J c'.1 c'.2 := by
  cases step with
  | @rely c w w' move =>
      refine ⟨obligations.world _ _ move holds.1, ?_⟩
      cases c with
      | idle m => exact obligations.memory m _ _ move holds.2
      | busy p => exact Safe.move obligations.memory move holds.2
  | start begins => exact ⟨holds.1, obligations.starts _ _ _ holds.1 holds.2 begins⟩
  | act acts =>
      obtain ⟨kept, rest⟩ := holds.2 _ .refl _ _ acts
      exact ⟨obligations.keeps _ _ _ _ holds.1 acts kept, rest⟩
  | finish => exact holds
  | restart boots => exact ⟨holds.1, obligations.boots _ _ holds.1 boots⟩

/-- **The run invariant.** -/
theorem invariant (obligations : Preserves V G I J) {init : Process S M × W → Prop}
    (initially : ∀ c, init c → I c.2 ∧ V.Sound G J c.1 c.2) {c : Process S M × W}
    (reachable : V.Reachable init c) : I c.2 ∧ V.Sound G J c.1 c.2 := by
  obtain ⟨c₀, start, run⟩ := reachable
  induction run with
  | refl => exact initially c₀ start
  | tail _ step ih => exact obligations.step step ih

/-- **Every answered request of a run meets the guarantee.** -/
theorem guaranteed (obligations : Preserves V G I J) {init : Process S M × W → Prop}
    (initially : ∀ c, init c → I c.2 ∧ V.Sound G J c.1 c.2) {r : S.Request}
    {next : S.Answer r → Program S M} {w w' : W} {answer : S.Answer r}
    (reachable : V.Reachable init (.busy (.ask r next), w)) (acts : V.arena.act w r answer w') :
    G w r answer w' :=
  ((invariant obligations initially reachable).2 w .refl answer w' acts).1

end Service

/-! ## A pass on its way -/

section

variable {S : Signature} {W : Type u} {α : Type} {A : Arena S W} {G : Guarantee S W}

/-- From `w`, the program has been answered these events and has come this far. -/
inductive Underway (A : Arena S W) (p : Program S α) (w : W) :
    List (Program.Event S) → Program S α → W → Prop where
  | begins : Underway A p w [] p w
  | rely {events : List (Program.Event S)} {q : Program S α} {w₁ w₂ : W}
      (before : Underway A p w events q w₁) (move : A.rely w₁ w₂) : Underway A p w events q w₂
  | act {events : List (Program.Event S)} {r : S.Request} {next : S.Answer r → Program S α}
      {answer : S.Answer r} {w₁ w₂ : W} (before : Underway A p w events (.ask r next) w₁)
      (acts : A.act w₁ r answer w₂) : Underway A p w (events ++ [⟨r, answer⟩]) (next answer) w₂

namespace Underway

variable {p q : Program S α} {events : List (Program.Event S)} {w w' : W}

/-- What is left of a safe program is safe. -/
theorem safe {Q : α → W → Prop} (stable : ∀ a, A.Stable (Q a)) (underway : Underway A p w events q w')
    (safe : Safe A G p Q w) : Safe A G q Q w' := by
  induction underway with
  | begins => exact safe
  | rely _ move ih => exact ih.move stable move
  | act _ acts ih => exact (ih _ .refl _ _ acts).2

/-- Answers that were all allowed are those of the restricted arena. -/
theorem restrict {allowed : (r : S.Request) → S.Answer r → Prop} (underway : Underway A p w events q w')
    (all : ∀ event ∈ events, allowed event.1 event.2) : Underway (A.restrict allowed) p w events q w' := by
  induction underway with
  | begins => exact .begins
  | rely _ move ih => exact .rely (ih all) move
  | act _ acts ih =>
      rw [List.forall_mem_append, List.forall_mem_singleton] at all
      exact .act (ih all.1) ⟨acts, all.2⟩

/-- A program gets as far as a deterministic world that the arena allows lets it. -/
theorem of_pause {σ : Type} {h : Handler S σ} (stop : S.Request → Bool) {R : σ → W → Prop}
    (allowed : ∀ s w r, R s w → ∃ w', A.act w r (h s r).1 w' ∧ R (h s r).2 w') {s : σ}
    (related : R s w') (before : Underway A p w events q w') :
    ∃ events' w'', Underway A p w events' (q.pause h stop s).1 w'' ∧ R (q.pause h stop s).2 w'' := by
  induction q generalizing events w' s with
  | done value => exact ⟨events, w', before, related⟩
  | ask r next ih =>
      unfold Program.pause
      split
      · exact ⟨events, w', before, related⟩
      · obtain ⟨w₁, acts, still⟩ := allowed s w' r related
        exact ih _ still (.act before acts)

end Underway

end

end CpuIdle.Theory
