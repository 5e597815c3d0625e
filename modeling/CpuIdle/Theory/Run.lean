/-
# Theory.Run — running a program on a deterministic world

`Program.run` threads a state through the requests of a program; `Program.events` is what it
asked and was answered on the way. Both are compositional. `Alike R h p q s` compares two
programs on one world: the same events, the same state at the end, results related by `R`.
`Program.replay` runs a program on a recorded transcript.
-/
import CpuIdle.Theory.Program

namespace CpuIdle.Theory

set_option autoImplicit false

universe u

variable {S : Signature} {σ : Type u} {α β γ δ : Type} {h : Handler S σ}

namespace Program

@[simp] theorem run_done (value : α) (s : σ) : (Program.done value).run h s = (value, s) := rfl

@[simp] theorem run_ask (r : S.Request) (next : S.Answer r → Program S α) (s : σ) :
    (Program.ask r next).run h s = (next (h s r).1).run h (h s r).2 := rfl

@[simp] theorem run_request (r : S.Request) (s : σ) : (request r).run h s = h s r := rfl

@[simp] theorem run_bind (p : Program S α) (f : α → Program S β) (s : σ) :
    (p >>= f).run h s = (f (p.run h s).1).run h (p.run h s).2 := by
  induction p generalizing s with
  | done value => rfl
  | ask r next ih => exact ih _ _

/-- What was asked and answered. -/
def events (h : Handler S σ) : Program S α → σ → List (Event S)
  | .done _, _ => []
  | .ask r next, s => ⟨r, (h s r).1⟩ :: (next (h s r).1).events h (h s r).2

@[simp] theorem events_done (value : α) (s : σ) : (Program.done value).events h s = [] := rfl

@[simp] theorem events_ask (r : S.Request) (next : S.Answer r → Program S α) (s : σ) :
    (Program.ask r next).events h s = ⟨r, (h s r).1⟩ :: (next (h s r).1).events h (h s r).2 := rfl

@[simp] theorem events_request (r : S.Request) (s : σ) : (request r).events h s = [⟨r, (h s r).1⟩] := rfl

@[simp] theorem events_bind (p : Program S α) (f : α → Program S β) (s : σ) :
    (p >>= f).events h s = p.events h s ++ (f (p.run h s).1).events h (p.run h s).2 := by
  induction p generalizing s with
  | done value => rfl
  | ask r next ih =>
      rw [ask_bind, events_ask, events_ask, ih, run_ask, List.cons_append]

/-- Whatever holds of every answer of the handler holds of every event of a run on it. -/
theorem forall_events {P : Event S → Prop} (answers : ∀ s r, P ⟨r, (h s r).1⟩) (p : Program S α) (s : σ) :
    ∀ event ∈ p.events h s, P event := by
  induction p generalizing s with
  | done value => simp
  | ask r next ih => exact List.forall_mem_cons.mpr ⟨answers s r, ih _ _⟩

end Program

/-- Two programs do the same and return related values. -/
structure Alike (R : α → β → Prop) (h : Handler S σ) (p : Program S α) (q : Program S β) (s : σ) : Prop where
  value : R (p.run h s).1 (q.run h s).1
  state : (p.run h s).2 = (q.run h s).2
  events : p.events h s = q.events h s

theorem Alike.pure {R : α → β → Prop} {a : α} {b : β} {s : σ} (related : R a b) :
    Alike R h (Pure.pure a) (Pure.pure b) s := ⟨related, rfl, rfl⟩

/-- A common beginning. -/
theorem Alike.after {R : α → β → Prop} {p : Program S γ} {f : γ → Program S α} {g : γ → Program S β}
    {s : σ} (rest : Alike R h (f (p.run h s).1) (g (p.run h s).1) (p.run h s).2) :
    Alike R h (p >>= f) (p >>= g) s := by
  refine ⟨?_, ?_, ?_⟩
  · simpa using rest.value
  · simpa using rest.state
  · simpa using rest.events

/-! ## Paths through a bind -/

theorem Program.Path.of_run (h : Handler S σ) (p : Program S α) (s : σ) :
    Program.Path p (p.events h s) (.done (p.run h s).1) := by
  induction p generalizing s with
  | done value => exact .here _
  | ask r next ih => exact .step _ (ih _ _)

theorem Program.Path.of_pure {value value' : α} {events : List (Program.Event S)}
    (path : Program.Path (Pure.pure value) events (.done value')) : events = [] ∧ value' = value := by
  obtain ⟨none, same⟩ := path.of_done
  exact ⟨none, Program.done.inj same⟩

/-- A complete path splits where the first program returns. -/
theorem Program.Path.of_bind {p : Program S α} {f : α → Program S β} {events : List (Program.Event S)}
    {value : β} (path : Program.Path (p >>= f) events (.done value)) :
    ∃ first a rest, events = first ++ rest ∧ Program.Path p first (.done a) ∧
      Program.Path (f a) rest (.done value) := by
  induction p generalizing events with
  | done a => exact ⟨[], a, events, rfl, .here _, path⟩
  | ask r next ih =>
      obtain ⟨answer, tail, rfl, onward⟩ := path.of_ask
      obtain ⟨first, a, rest, rfl, returns, after⟩ := ih answer onward
      exact ⟨⟨r, answer⟩ :: first, a, rest, rfl, .step answer returns, after⟩

/-- The answers decide what a program returns: whatever follows them is the continuation's. -/
theorem Program.Path.resume {p : Program S α} {f : α → Program S β} {first rest : List (Program.Event S)}
    {a : α} {p' : Program S β} (returns : Program.Path p first (.done a))
    (path : Program.Path (p >>= f) (first ++ rest) p') : Program.Path (f a) rest p' := by
  generalize stops : Program.done a = q at returns
  induction returns with
  | here p =>
      subst stops
      exact path
  | step answer onward ih =>
      cases path with
      | step _ path => exact ih path stops

/-- A path with the answers of a handler that never changes is its run. -/
theorem Program.Path.run_eq {h : Handler S Unit} {p : Program S α} {events : List (Program.Event S)} {value : α}
    (path : Program.Path p events (.done value)) (answers : ∀ event ∈ events, event.2 = (h () event.1).1) :
    value = (p.run h ()).1 := by
  induction p generalizing events with
  | done result =>
      obtain ⟨-, same⟩ := path.of_done
      exact Program.done.inj same
  | ask r next ih =>
      obtain ⟨answer, rest, rfl, onward⟩ := path.of_ask
      obtain ⟨here, later⟩ := List.forall_mem_cons.mp answers
      obtain rfl : answer = (h () r).1 := here
      exact ih _ onward later

/-! ## A recorded transcript -/

/-- What a program returns when it is answered as recorded, if the record begins with its requests. -/
def Program.replay [DecidableEq S.Request] : Program S α → List (Program.Event S) → Option α
  | .done value, _ => some value
  | .ask _ _, [] => none
  | .ask r next, ⟨asked, answer⟩ :: rest =>
      if same : asked = r then (next (same ▸ answer)).replay rest else none

theorem Program.Path.replay [DecidableEq S.Request] {p : Program S α} {events : List (Program.Event S)}
    {value : α} (path : Program.Path p events (.done value)) (rest : List (Program.Event S)) :
    p.replay (events ++ rest) = some value := by
  generalize ended : Program.done value = p' at path
  induction path with
  | here p =>
      subst ended
      rfl
  | step answer _ ih => simpa [Program.replay] using ih ended

end CpuIdle.Theory
