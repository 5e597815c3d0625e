/-
# Theory.Monitor — a world that only follows what is asked and answered

`Arena.monitor next` gives any answer. Its world is a reading of the transcript so far,
kept up to date by `next`; a triple over it is a statement about transcripts.

* `Accepts` — at every event of a transcript the reading allows it;
* `Holds.accepts`, `Holds.reading` — what a triple says of the paths of a program;
* `logging` — the reading that is the transcript itself, of some of the requests;
* `Arena.recorded` — any arena with the transcript beside its world;
* `permit` — a permit that some events grant and each guarded request uses up. Once nothing
  grants it any more at most one guarded request can follow (`Accepts.at_most_one`).
-/
import CpuIdle.Theory.Run
import Mathlib.Data.List.Basic

namespace CpuIdle.Theory

set_option autoImplicit false

universe u

variable {S : Signature} {M : Type u} {α : Type}

/-- Any answer, and the reading of the transcript moves on. -/
def Arena.monitor (next : M → Program.Event S → M) : Arena S M :=
  { act := fun m r answer m' => m' = next m ⟨r, answer⟩, rely := fun _ _ => False }

theorem Arena.monitor_stable {next : M → Program.Event S → M} (P : M → Prop) :
    (Arena.monitor next).Stable P :=
  fun _ _ move => move.elim

/-- Each event is allowed by the reading of those before it. -/
def Accepts (next : M → Program.Event S → M) (ok : M → S.Request → Prop) :
    M → List (Program.Event S) → Prop
  | _, [] => True
  | m, event :: rest => ok m event.1 ∧ Accepts next ok (next m event) rest

section

variable {next : M → Program.Event S → M} {ok : M → S.Request → Prop}

theorem Accepts.drop {before after : List (Program.Event S)} {m : M}
    (accepts : Accepts next ok m (before ++ after)) : Accepts next ok (before.foldl next m) after := by
  induction before generalizing m with
  | nil => exact accepts
  | cons event before ih => exact ih accepts.2

/-- The guarantee that every request is allowed. -/
def allowing (ok : M → S.Request → Prop) : Guarantee S M := fun m r _ _ => ok m r

theorem Holds.accepts {P : M → Prop} {p p' : Program S α} {Q : α → M → Prop}
    {events : List (Program.Event S)} {m : M}
    (triple : Holds (Arena.monitor next) (allowing ok) P p Q) (start : P m)
    (path : Program.Path p events p') : Accepts next ok m events := by
  have safe := triple m start
  clear triple start
  induction path generalizing m with
  | here p => trivial
  | step answer rest ih =>
      obtain ⟨allowed, later⟩ := safe m .refl answer _ rfl
      exact ⟨allowed, ih later⟩

theorem Safe.reading {G : Guarantee S M} {p : Program S α} {Q : α → M → Prop}
    {events : List (Program.Event S)} {m : M} {value : α} (safe : Safe (Arena.monitor next) G p Q m)
    (path : Program.Path p events (.done value)) : Q value (events.foldl next m) := by
  generalize ended : Program.done value = p' at path
  induction path generalizing m with
  | here p =>
      subst ended
      exact safe
  | step answer rest ih => exact ih (safe m .refl answer _ rfl).2 ended

/-- What the postcondition says at the end of a whole run. -/
theorem Holds.reading {G : Guarantee S M} {P : M → Prop} {p : Program S α} {Q : α → M → Prop}
    {events : List (Program.Event S)} {m : M} {value : α}
    (triple : Holds (Arena.monitor next) G P p Q) (start : P m)
    (path : Program.Path p events (.done value)) : Q value (events.foldl next m) :=
  (triple m start).reading path

end

/-- A run whose answers are all allowed. -/
theorem Program.Path.exec {next : M → Program.Event S → M} {allowed : (r : S.Request) → S.Answer r → Prop}
    {p : Program S α} {events : List (Program.Event S)} {value : α} (m : M)
    (path : Program.Path p events (.done value)) (all : ∀ event ∈ events, allowed event.1 event.2) :
    Exec ((Arena.monitor next).restrict allowed) p m value (events.foldl next m) := by
  generalize ended : Program.done value = p' at path
  induction path generalizing m with
  | here p =>
      subst ended
      exact .done
  | step answer rest ih =>
      exact .ask .refl ⟨rfl, all ⟨_, answer⟩ List.mem_cons_self⟩
        (ih _ (fun event member => all event (List.mem_cons_of_mem _ member)) ended)

/-! ## Logs -/

/-- Writes down the events of the requests that `kept` picks. -/
def logging (kept : S.Request → Bool) (log : List (Program.Event S)) (event : Program.Event S) :
    List (Program.Event S) :=
  if kept event.1 then log ++ [event] else log

theorem foldl_logging (kept : S.Request → Bool) (events log : List (Program.Event S)) :
    events.foldl (logging kept) log = log ++ events.filter (kept ·.1) := by
  induction events generalizing log with
  | nil => simp
  | cons event rest ih =>
      rw [List.foldl_cons, ih, logging]
      by_cases isKept : kept event.1 = true
      · simp [isKept]
      · simp [isKept]

/-- What a whole run adds to the log. -/
theorem Holds.extends {kept : S.Request → Bool} {G : Guarantee S (List (Program.Event S))}
    {P : List (Program.Event S) → Prop} {p : Program S α} {Q : α → List (Program.Event S) → Prop}
    {events log : List (Program.Event S)} {value : α}
    (triple : Holds (Arena.monitor (logging kept)) G P p Q) (start : P log)
    (path : Program.Path p events (.done value)) : Q value (log ++ events.filter (kept ·.1)) := by
  simpa only [foldl_logging] using triple.reading start path

/-- The log of a whole run. -/
theorem Holds.logged {kept : S.Request → Bool} {G : Guarantee S (List (Program.Event S))}
    {P : List (Program.Event S) → Prop} {p : Program S α} {Q : α → List (Program.Event S) → Prop}
    {events : List (Program.Event S)} {value : α}
    (triple : Holds (Arena.monitor (logging kept)) G P p Q) (start : P [])
    (path : Program.Path p events (.done value)) : Q value (events.filter (kept ·.1)) :=
  triple.extends start path

/-- The log of a run whose answers are all allowed. -/
theorem Holds.logged_allowed {kept : S.Request → Bool} {allowed : (r : S.Request) → S.Answer r → Prop}
    {G : Guarantee S (List (Program.Event S))} {P : List (Program.Event S) → Prop} {p : Program S α}
    {Q : α → List (Program.Event S) → Prop} {events : List (Program.Event S)} {value : α}
    (triple : Holds ((Arena.monitor (logging kept)).restrict allowed) G P p Q) (start : P [])
    (path : Program.Path p events (.done value)) (all : ∀ event ∈ events, allowed event.1 event.2) :
    Q value (events.filter (kept ·.1)) := by
  have ended := Safe.exec (path.exec [] all) (triple [] start)
  rwa [foldl_logging, List.nil_append] at ended

/-! ## A transcript beside a world -/

/-- The same arena, and everything that is asked and answered is written down. -/
def Arena.recorded {W : Type u} (A : Arena S W) : Arena S (W × List (Program.Event S)) where
  act w r answer w' := A.act w.1 r answer w'.1 ∧ w'.2 = w.2 ++ [⟨r, answer⟩]
  rely w w' := A.rely w.1 w'.1 ∧ w'.2 = w.2

section

variable {W : Type u} {A : Arena S W} {p : Program S α} {value : α}

theorem Arena.recorded_moves {w w' : W × List (Program.Event S)} (moves : A.recorded.moves w w') :
    A.moves w.1 w'.1 ∧ w'.2 = w.2 := by
  induction moves with
  | refl => exact ⟨.refl, rfl⟩
  | tail _ move ih => exact ⟨ih.1.tail move.1, move.2.trans ih.2⟩

theorem Exec.forget {w w' : W × List (Program.Event S)} (run : Exec A.recorded p w value w') :
    Exec A p w.1 value w'.1 := by
  induction run with
  | done => exact .done
  | ask moves act rest ih => exact .ask (Arena.recorded_moves moves).1 act.1 ih

/-- What was written down is a path of the program. -/
theorem Exec.transcript {w w' : W × List (Program.Event S)} (run : Exec A.recorded p w value w') :
    ∃ events, w'.2 = w.2 ++ events ∧ Program.Path p events (.done value) := by
  induction run with
  | done => exact ⟨[], by simp, .here _⟩
  | @ask r next w w₁ w₂ w₃ answer value moves act rest ih =>
      obtain ⟨events, added, path⟩ := ih
      refine ⟨⟨r, answer⟩ :: events, ?_, .step answer path⟩
      rw [added, act.2, (Arena.recorded_moves moves).2, List.append_assoc, List.singleton_append]

/-- Every run can be written down. -/
theorem Exec.record {w w' : W} (run : Exec A p w value w') (log : List (Program.Event S)) :
    ∃ events, Exec A.recorded p (w, log) value (w', log ++ events) := by
  have waits : ∀ {w w' : W} (log : List (Program.Event S)), A.moves w w' →
      A.recorded.moves (w, log) (w', log) := by
    intro w w' log moves
    induction moves with
    | refl => exact .refl
    | tail _ move ih => exact ih.tail ⟨move, rfl⟩
  induction run generalizing log with
  | done => exact ⟨[], by rw [List.append_nil]; exact .done⟩
  | @ask r next w w₁ w₂ w₃ answer value moves act rest ih =>
      obtain ⟨events, later⟩ := ih (log ++ [⟨r, answer⟩])
      have acts : A.recorded.act (w₁, log) r answer (w₂, log ++ [⟨r, answer⟩]) := ⟨act, rfl⟩
      rw [List.append_assoc] at later
      exact ⟨⟨r, answer⟩ :: events, .ask (waits log moves) acts later⟩

/-- A run on a handler is written down as its events. -/
theorem Exec.recorded_run {σ : Type} {h : Handler S σ} (view : σ → W)
    (allowed : ∀ s r, A.act (view s) r (h s r).1 (view (h s r).2)) (p : Program S α) (s : σ)
    (log : List (Program.Event S)) :
    Exec A.recorded p (view s, log) (p.run h s).1 (view (p.run h s).2, log ++ p.events h s) := by
  induction p generalizing s log with
  | done value =>
      rw [Program.events_done, List.append_nil]
      exact .done
  | ask r next ih =>
      have later := ih (h s r).1 (h s r).2 (log ++ [⟨r, (h s r).1⟩])
      rw [List.append_assoc] at later
      exact .ask .refl ⟨allowed s r, rfl⟩ later

end

/-! ## Permits -/

/-- Held after an event: used up by a guarded request, else kept or granted. -/
def permit (grants : Program.Event S → Bool) (guarded : S.Request → Bool) (held : Bool)
    (event : Program.Event S) : Bool :=
  !guarded event.1 && (held || grants event)

/-- A guarded request needs the permit. -/
def permitted (guarded : S.Request → Bool) (held : Bool) (r : S.Request) : Prop :=
  guarded r = true → held = true

variable {grants : Program.Event S → Bool} {guarded : S.Request → Bool}

/-- One guarded request for the permit that is held, and none without. -/
theorem Accepts.at_most_one {events : List (Program.Event S)} {held : Bool}
    (accepts : Accepts (permit grants guarded) (permitted guarded) held events)
    (stopped : ∀ event ∈ events, grants event = false) :
    events.countP (guarded ·.1) ≤ held.toNat := by
  induction events generalizing held with
  | nil => simp
  | cons event rest ih =>
      obtain ⟨allowed, later⟩ := accepts
      have ungranted := stopped event (by simp)
      have tail := ih later fun e member => stopped e (by simp [member])
      cases isGuarded : guarded event.1 with
      | true =>
          have isHeld : held = true := allowed isGuarded
          simp only [permit, isGuarded, Bool.not_true, Bool.false_and, Bool.toNat_false] at tail
          simp only [List.countP_cons, isGuarded, isHeld, if_true, Bool.toNat_true]
          omega
      | false =>
          simp only [permit, isGuarded, ungranted, Bool.not_false, Bool.true_and, Bool.or_false] at tail
          simpa [List.countP_cons, isGuarded] using tail

end CpuIdle.Theory
