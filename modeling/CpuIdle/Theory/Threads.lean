/-
# Theory.Threads — programs that wait for one another

The threads of a pool share a world in which a request may have no answer yet: whoever asks waits.
Each thread says what it `knows` of the world wherever it is about to ask, and may rely on the
others for what they know: they move the world from there only. A common invariant goes along.

* `Poised` — wherever the program asks, or waits, it knows; `Waits` is the triple;
* `Pool.poised` — every thread stays poised along every interleaving;
* `Pool.goes_on` — where each wait is for a thread of lower rank, one of them can go on;
* `Pool.turns_end` — no run is infinite, so `Pool.eventually`: what keeps going gets there;
* `Pool.play` — a run under a schedule.
-/
import CpuIdle.Theory.Pool
import Mathlib.Logic.Hydra

namespace CpuIdle.Theory

set_option autoImplicit false

universe u

variable {S : Signature} {W : Type u} {α β : Type} {ι : Type}

/-! ## One thread -/

/-- `Q` holds of what is returned, and `K` of every request, before it is answered. -/
def Poised (A : Arena S W) (K : W → S.Request → Prop) : Program S α → (α → W → Prop) → W → Prop
  | .done value, Q, w => Q value w
  | .ask r next, Q, w => ∀ w₁, A.moves w w₁ → K w₁ r ∧
      ∀ answer w₂, A.act w₁ r answer w₂ → Poised A K (next answer) Q w₂

section

variable {A : Arena S W} {K : W → S.Request → Prop}

theorem Poised.mono {p : Program S α} {Q Q' : α → W → Prop} {w : W} (poised : Poised A K p Q w)
    (weaker : ∀ a w, Q a w → Q' a w) : Poised A K p Q' w := by
  induction p generalizing w with
  | done value => exact weaker value w poised
  | ask r next ih =>
      intro w₁ moves
      obtain ⟨known, rest⟩ := poised w₁ moves
      exact ⟨known, fun answer w₂ act => ih answer (rest answer w₂ act)⟩

theorem Poised.bind {p : Program S α} {f : α → Program S β} {Q : β → W → Prop} {w : W}
    (poised : Poised A K p (fun a w => Poised A K (f a) Q w) w) : Poised A K (p >>= f) Q w := by
  induction p generalizing w with
  | done value => exact poised
  | ask r next ih =>
      intro w₁ moves
      obtain ⟨known, rest⟩ := poised w₁ moves
      exact ⟨known, fun answer w₂ act => ih answer (rest answer w₂ act)⟩

/-- What is left of a program stays poised when the others move. -/
theorem Poised.move {p : Program S α} {Q : α → W → Prop} (stable : ∀ a, A.Stable (Q a)) {w w' : W}
    (move : A.rely w w') (poised : Poised A K p Q w) : Poised A K p Q w' := by
  cases p with
  | done value => exact stable value w w' move poised
  | ask r next => exact fun w₁ moves => poised w₁ (.head move moves)

/-- From every world satisfying `P`. -/
def Waits (A : Arena S W) (K : W → S.Request → Prop) (P : W → Prop) (p : Program S α)
    (Q : α → W → Prop) : Prop :=
  ∀ w, P w → Poised A K p Q w

theorem Waits.pure {P : W → Prop} {Q : α → W → Prop} {value : α} (h : ∀ w, P w → Q value w) :
    Waits A K P (Pure.pure value) Q :=
  h

/-- One request from a stable precondition; `R` is what is known after each answer. -/
theorem Waits.request {P : W → Prop} {r : S.Request} {R : S.Answer r → W → Prop} (stable : A.Stable P)
    (knows : ∀ w, P w → K w r) (act : ∀ w, P w → ∀ answer w', A.act w r answer w' → R answer w') :
    Waits A K P (Program.request r) R :=
  fun _ holds w₁ moves =>
    have holds₁ := stable.moves moves holds
    ⟨knows w₁ holds₁, fun answer w₂ step => act w₁ holds₁ answer w₂ step⟩

theorem Waits.bind {P : W → Prop} {R : α → W → Prop} {Q : β → W → Prop} {p : Program S α}
    {f : α → Program S β} (first : Waits A K P p R) (rest : ∀ a, Waits A K (R a) (f a) Q) :
    Waits A K P (p >>= f) Q :=
  fun w holds => Poised.bind ((first w holds).mono fun a w' known => rest a w' known)

theorem Waits.ite {P : W → Prop} {Q : α → W → Prop} {c : Prop} [Decidable c] {p q : Program S α}
    (pos : c → Waits A K P p Q) (neg : ¬c → Waits A K P q Q) :
    Waits A K P (if c then p else q) Q := by
  split
  · exact pos ‹_›
  · exact neg ‹_›

theorem Waits.conseq {P P' : W → Prop} {Q Q' : α → W → Prop} {p : Program S α}
    (triple : Waits A K P p Q) (stronger : ∀ w, P' w → P w) (weaker : ∀ a w, Q a w → Q' a w) :
    Waits A K P' p Q' :=
  fun w holds => (triple w (stronger w holds)).mono weaker

theorem Waits.pre {P P' : W → Prop} {Q : α → W → Prop} {p : Program S α} (triple : Waits A K P p Q)
    (stronger : ∀ w, P' w → P w) : Waits A K P' p Q :=
  triple.conseq stronger fun _ _ h => h

end

/-- The world of thread `i`: the others ask only what they know may be asked, and the invariant stays. -/
def Arena.beside (A : Arena S W) (I : W → Prop) (K : ι → W → S.Request → Prop) (i : ι) : Arena S W where
  act w r answer w' := A.act w r answer w' ∧ I w'
  rely w w' := I w' ∧ (A.rely w w' ∨ ∃ j r answer, j ≠ i ∧ K j w r ∧ A.act w r answer w')

/-! ## All threads -/

namespace Pool

variable [DecidableEq ι] {A : Arena S W} {I : W → Prop} {K : ι → W → S.Request → Prop}
  {Q : ι → α → W → Prop} {programs : ι → Program S α} {w₀ : W}

/-- The obligations of `Pool.poised`. -/
structure Composes (A : Arena S W) (I : W → Prop) (K : ι → W → S.Request → Prop)
    (Q : ι → α → W → Prop) (programs : ι → Program S α) (w₀ : W) : Prop where
  initially : I w₀
  rely : ∀ w w', I w → A.rely w w' → I w'
  act : ∀ i w r answer w', I w → K i w r → A.act w r answer w' → I w'
  stable : ∀ i a, (A.beside I K i).Stable (Q i a)
  thread : ∀ i, Poised (A.beside I K i) (K i) (programs i) (Q i) w₀

/-- **Every thread stays poised along every interleaving**, and the invariant holds. -/
theorem poised (composes : Composes A I K Q programs w₀) {s : State S W α ι}
    (run : Reaches A programs w₀ s) :
    I s.2 ∧ ∀ i, Poised (A.beside I K i) (K i) (s.1 i).rest (Q i) s.2 := by
  induction run with
  | refl => exact ⟨composes.initially, composes.thread⟩
  | tail _ step ih =>
      obtain ⟨holds, threads⟩ := ih
      cases step with
      | @rely _ w w' move =>
          have kept := composes.rely w w' holds move
          exact ⟨kept, fun i => (threads i).move (composes.stable i) ⟨kept, .inl move⟩⟩
      | @act pool w w' j r next answer asks acts =>
          have own := threads j
          rw [asks] at own
          obtain ⟨known, rest⟩ := own w .refl
          have kept := composes.act j w r answer w' holds known acts
          refine ⟨kept, fun i => ?_⟩
          by_cases same : i = j
          · subst same
            simp only [Function.update_self]
            exact rest answer w' ⟨acts, kept⟩
          · simp only [Function.update_of_ne same]
            exact (threads i).move (composes.stable i)
              ⟨kept, .inr ⟨j, r, answer, Ne.symm same, known, acts⟩⟩

theorem returned (composes : Composes A I K Q programs w₀) {s : State S W α ι}
    (run : Reaches A programs w₀ s) {i : ι} {value : α} (ended : (s.1 i).rest = .done value) :
    Q i value s.2 := by
  have now := (poised composes run).2 i
  rwa [ended] at now

theorem knows (composes : Composes A I K Q programs w₀) {s : State S W α ι}
    (run : Reaches A programs w₀ s) {i : ι} {r : S.Request} {next : S.Answer r → Program S α}
    (asks : (s.1 i).rest = .ask r next) : K i s.2 r := by
  have now := (poised composes run).2 i
  rw [asks] at now
  exact (now s.2 .refl).1

/-! ## Going on -/

/-- The others of the arena move, and then one thread goes on. -/
inductive Turn (A : Arena S W) (s : State S W α ι) : State S W α ι → Prop where
  | act {w w' : W} (moves : A.moves s.2 w) (i : ι) {r : S.Request} {next : S.Answer r → Program S α}
      {answer : S.Answer r} (asks : (s.1 i).rest = .ask r next) (acts : A.act w r answer w') :
      Turn A s (Function.update s.1 i ⟨(s.1 i).past ++ [⟨r, answer⟩], next answer⟩, w')

/-- The threads wait while the others of the arena move. -/
theorem Reaches.waits {threads : ι → Thread S α} {w w' : W} (run : Reaches A programs w₀ (threads, w))
    (moves : A.moves w w') : Reaches A programs w₀ (threads, w') := by
  induction moves with
  | refl => exact run
  | tail _ move ih => exact ih.tail (.rely move)

theorem Turn.reaches {s s' : State S W α ι} (turn : Turn A s s') (run : Reaches A programs w₀ s) :
    Reaches A programs w₀ s' := by
  obtain ⟨moves, i, asks, acts⟩ := turn
  exact (Reaches.waits run moves).tail (.act i asks acts)

/-- **A chain of waits ends.** A thread that is `live` can go on, or waits for one of lower rank that
is live and not done. -/
theorem goes_on (composes : Composes A I K Q programs w₀) {urgent : (r : S.Request) → S.Answer r → Prop}
    {live : ι → W → Prop} (rank : ι → Nat)
    (waits : ∀ i w r, I w → K i w r → live i w →
      (∃ answer w', A.act w r answer w' ∧ urgent r answer) ∨
        ∃ j, rank j < rank i ∧ live j w ∧ ∀ value, ¬Q j value w)
    {s : State S W α ι} (run : Reaches A programs w₀ s) (i : ι) (alive : live i s.2)
    (busy : ∀ value, (s.1 i).rest ≠ .done value) : ∃ s', Turn (A.restrict urgent) s s' := by
  generalize bound : rank i = n
  induction n using Nat.strong_induction_on generalizing i with
  | h n ih =>
      cases asks : (s.1 i).rest with
      | done value => exact absurd asks (busy value)
      | ask r next =>
          rcases waits i s.2 r (poised composes run).1 (knows composes run asks) alive with
            ⟨answer, w', acts, now⟩ | ⟨j, lower, awake, unfinished⟩
          · exact ⟨_, .act .refl i asks ⟨acts, now⟩⟩
          · refine ih (rank j) (bound ▸ lower) j awake (fun value ended => ?_) rfl
            exact unfinished value (returned composes run ended)

/-! ## Coming to an end -/

/-- What a program may become with one answer. -/
inductive Next : Program S α → Program S α → Prop where
  | answered {r : S.Request} {next : S.Answer r → Program S α} (answer : S.Answer r) :
      Next (next answer) (.ask r next)

theorem next_wf : WellFounded (Next (S := S) (α := α)) := by
  refine ⟨fun p => ?_⟩
  induction p with
  | done value => exact ⟨_, fun _ step => by cases step⟩
  | ask r next ih =>
      refine ⟨_, fun q step => ?_⟩
      cases step with
      | answered answer => exact ih answer

/-- The programs of a pool, in no order. -/
def programsLeft [Fintype ι] (s : State S W α ι) : Multiset (Program S α) :=
  Finset.univ.val.map fun i => (s.1 i).rest

theorem Turn.cuts [Fintype ι] {s s' : State S W α ι} (turn : Turn A s s') :
    Relation.CutExpand Next (programsLeft s') (programsLeft s) := by
  obtain ⟨moves, i, asks, acts⟩ := turn
  rename_i r next answer
  have split : (Finset.univ : Finset ι).val = i ::ₘ (Finset.univ.erase i).val := by
    rw [Finset.erase_val]
    exact (Multiset.cons_erase (Finset.mem_univ i)).symm
  have others : ((Finset.univ.erase i).val.map fun j => (Function.update s.1 i
      ⟨(s.1 i).past ++ [⟨r, answer⟩], next answer⟩ j).rest) =
        (Finset.univ.erase i).val.map fun j => (s.1 j).rest := by
    refine Multiset.map_congr rfl fun j member => ?_
    rw [Function.update_of_ne (Finset.ne_of_mem_erase member)]
  refine ⟨{next answer}, (s.1 i).rest, fun q member => ?_, ?_⟩
  · rw [Multiset.mem_singleton.mp member, asks]
    exact .answered answer
  · unfold programsLeft
    rw [split, Multiset.map_cons, Multiset.map_cons, others]
    simp only [Function.update_self, ← Multiset.singleton_add]
    rw [add_comm {next answer}, add_assoc, add_comm {next answer}, ← add_assoc,
      add_comm _ {(s.1 i).rest}]

/-- **No pool takes turns for ever.** -/
theorem turns_end [Fintype ι] : WellFounded fun s' s : State S W α ι => Turn A s s' :=
  Subrelation.wf (fun turn => Turn.cuts turn) (InvImage.wf programsLeft next_wf.cutExpand)

/-- However it goes on, it gets to `P`, and until then it `can` go on. -/
inductive Eventually {σ : Type*} (may can : σ → σ → Prop) (P : σ → Prop) : σ → Prop where
  | now {s : σ} (holds : P s) : Eventually may can P s
  | later {s : σ} (onward : ∃ s', can s s') (rest : ∀ s', may s s' → Eventually may can P s') :
      Eventually may can P s

/-- What can go on until it gets to `P` gets to `P`. -/
theorem eventually [Fintype ι] {urgent : (r : S.Request) → S.Answer r → Prop}
    {C P : State S W α ι → Prop} (keeps : ∀ s s', C s → Turn A s s' → C s')
    (on : ∀ s, C s → P s ∨ ∃ s', Turn (A.restrict urgent) s s') {s : State S W α ι} (holds : C s) :
    Eventually (Turn A) (Turn (A.restrict urgent)) P s := by
  have wf : WellFounded fun s' s : State S W α ι => Turn A s s' := turns_end
  revert holds
  refine wf.induction (C := fun s => C s → Eventually (Turn A) (Turn (A.restrict urgent)) P s) s ?_
  intro s ih holds
  rcases on s holds with there | onward
  · exact .now there
  · exact .later onward fun s' turn => ih s' turn (keeps s s' holds turn)

/-! ## Under a schedule -/

/-- The threads of `schedule`, one request each, on a world that answers for itself. -/
def play (reply : (r : S.Request) → W → Option (S.Answer r × W)) :
    List ι → State S W α ι → Option (State S W α ι)
  | [], s => some s
  | i :: schedule, s =>
      match (s.1 i).rest with
      | .done _ => none
      | .ask r next => (reply r s.2).bind fun answered => play reply schedule
          (Function.update s.1 i ⟨(s.1 i).past ++ [⟨r, answered.1⟩], next answered.1⟩, answered.2)

/-- What is played is a run, where the world answers as it may. -/
theorem play_reaches {reply : (r : S.Request) → W → Option (S.Answer r × W)}
    (allowed : ∀ r w answer w', reply r w = some (answer, w') → A.act w r answer w') :
    ∀ {schedule : List ι} {s s' : State S W α ι}, play reply schedule s = some s' →
      Reaches A programs w₀ s → Reaches A programs w₀ s' := by
  intro schedule
  induction schedule with
  | nil => exact fun played run => Option.some.inj played ▸ run
  | cons i schedule ih =>
      intro s s' played run
      unfold play at played
      cases asks : (s.1 i).rest with
      | done value => simp [asks] at played
      | ask r next =>
          simp only [asks] at played
          obtain ⟨answered, replies, rest⟩ := Option.bind_eq_some_iff.mp played
          exact ih rest (run.tail (.act i asks (allowed r s.2 _ _ replies)))

end Pool

end CpuIdle.Theory
