/-
# Theory.Program — programs that ask a world one request at a time, and their logic

A `Program S α` is a finite tree of requests: at each node it asks one request of
the signature `S` and continues with whatever answer comes back. An `Arena` says
what the world may do: `act` relates a world, a request, an answer and the next
world, and `rely` is one move of everybody else. Requests are atomic; any number
of `rely` moves may happen before each of them.

* `Program.bind` and its monad laws;
* `Program.Returns`, `Program.Asks` — what a program returns and asks, whatever it is answered;
* `Safe A G p Q w` — from `w`, every request of `p` the arena answers meets the
  guarantee `G`, and every value returned meets `Q`. A prefix of a run meets `G`
  as well, so a process killed between two requests is covered;
* `Holds A G P p Q` — the triple over `Safe`, with `Holds.done`, `Holds.ask`,
  `Holds.bind` and `Holds.conseq`;
* `Exec` — complete runs; `Safe.exec` reads `Q` at their end, `Exec.of_bind` takes them apart,
  `Program.exec_exists` says an arena that always answers has one, `Exec.of_run` that a
  deterministic world which the arena allows runs it;
* `Program.Path` — the request/answer sequences of a program alone, with no world.
-/
import Mathlib.Logic.Relation

namespace CpuIdle.Theory

set_option autoImplicit false

universe u

/-- The requests a program can make and the type of answer to each. -/
structure Signature where
  Request : Type
  Answer : Request → Type

/-- A finite interactive program over `S` that returns an `α`. -/
inductive Program (S : Signature) (α : Type) where
  | done (value : α)
  | ask (request : S.Request) (next : S.Answer request → Program S α)

namespace Program

variable {S : Signature} {α β γ : Type}

def bind : Program S α → (α → Program S β) → Program S β
  | .done value, f => f value
  | .ask request next, f => .ask request fun answer => (next answer).bind f

/-- The program that makes one request and returns its answer. -/
def request (r : S.Request) : Program S (S.Answer r) :=
  .ask r .done

instance : Monad (Program S) where
  pure := .done
  bind := .bind

@[simp] theorem pure_eq (value : α) : (pure value : Program S α) = .done value := rfl

@[simp] theorem done_bind (value : α) (f : α → Program S β) : (.done value >>= f) = f value := rfl

@[simp] theorem ask_bind (r : S.Request) (next : S.Answer r → Program S α) (f : α → Program S β) :
    (.ask r next >>= f) = .ask r fun answer => next answer >>= f := rfl

@[simp] theorem request_bind (r : S.Request) (f : S.Answer r → Program S β) :
    (request r >>= f) = .ask r f := rfl

theorem bind_done (p : Program S α) : (p >>= .done) = p := by
  induction p with
  | done value => rfl
  | ask r next ih =>
      simp only [ask_bind]
      congr 1
      funext answer
      exact ih answer

theorem bind_assoc (p : Program S α) (f : α → Program S β) (g : β → Program S γ) :
    ((p >>= f) >>= g) = p >>= fun a => f a >>= g := by
  induction p with
  | done value => rfl
  | ask r next ih =>
      simp only [ask_bind]
      congr 1
      funext answer
      exact ih answer

instance : LawfulMonad (Program S) :=
  LawfulMonad.mk' (Program S) (fun p => bind_done p) (fun _ _ => rfl) bind_assoc

/-- One request together with the answer it got. -/
abbrev Event (S : Signature) := Σ r : S.Request, S.Answer r

/-- `Path p events p'`: after exactly these request/answer pairs `p` has become `p'`. -/
inductive Path : Program S α → List (Event S) → Program S α → Prop where
  | here (p : Program S α) : Path p [] p
  | step {r : S.Request} {next : S.Answer r → Program S α} {events : List (Event S)}
      {p' : Program S α} (answer : S.Answer r) (rest : Path (next answer) events p') :
      Path (.ask r next) (⟨r, answer⟩ :: events) p'

end Program

theorem Program.Path.of_done {S : Signature} {α : Type} {value : α} {events : List (Program.Event S)}
    {p' : Program S α} (path : Program.Path (.done value) events p') : events = [] ∧ p' = .done value := by
  cases path with
  | here => exact ⟨rfl, rfl⟩

/-- A path that ends in a value takes the first request. -/
theorem Program.Path.of_ask {S : Signature} {α : Type} {r : S.Request}
    {next : S.Answer r → Program S α} {events : List (Program.Event S)} {value : α}
    (path : Program.Path (.ask r next) events (.done value)) :
    ∃ answer rest, events = ⟨r, answer⟩ :: rest ∧ Program.Path (next answer) rest (.done value) := by
  cases path with
  | step answer rest => exact ⟨answer, _, rfl, rest⟩

/-- The same of a request that is bound. -/
theorem Program.Path.of_request {S : Signature} {α : Type} {r : S.Request}
    {next : S.Answer r → Program S α} {events : List (Program.Event S)} {value : α}
    (path : Program.Path (Program.request r >>= next) events (.done value)) :
    ∃ answer rest, events = ⟨r, answer⟩ :: rest ∧ Program.Path (next answer) rest (.done value) :=
  path.of_ask

/-- Whatever it is answered, the program returns an `E`. -/
def Program.Returns {S : Signature} {α : Type} (E : α → Prop) : Program S α → Prop
  | .done value => E value
  | .ask _ next => ∀ answer, (next answer).Returns E

theorem Program.Returns.bind {S : Signature} {α β : Type} {D : α → Prop} {E : β → Prop}
    {p : Program S α} {f : α → Program S β} (first : p.Returns D)
    (rest : ∀ a, D a → (f a).Returns E) : (p >>= f).Returns E := by
  induction p with
  | done value => exact rest value first
  | ask r next ih => exact fun answer => ih answer (first answer)

theorem Program.Returns.any {S : Signature} {α : Type} {p : Program S α} : p.Returns fun _ => True := by
  induction p with
  | done value => trivial
  | ask r next ih => exact ih

theorem Program.Returns.mono {S : Signature} {α : Type} {D E : α → Prop} {p : Program S α}
    (returns : p.Returns D) (weaker : ∀ a, D a → E a) : p.Returns E := by
  induction p with
  | done value => exact weaker value returns
  | ask r next ih => exact fun answer => ih answer (returns answer)

/-- Nothing need be known of what comes first. -/
theorem Program.Returns.after {S : Signature} {α β : Type} {E : β → Prop} {p : Program S α}
    {f : α → Program S β} (rest : ∀ a, (f a).Returns E) : (p >>= f).Returns E :=
  Returns.any.bind fun a _ => rest a

theorem Program.Returns.ite {S : Signature} {α : Type} {E : α → Prop} {c : Prop} [Decidable c]
    {p q : Program S α} (pos : c → p.Returns E) (neg : ¬c → q.Returns E) :
    (if c then p else q).Returns E := by
  split
  · exact pos ‹_›
  · exact neg ‹_›

/-- Whatever it is answered, the program only makes requests from `E`. -/
def Program.Asks {S : Signature} {α : Type} (E : S.Request → Prop) : Program S α → Prop
  | .done _ => True
  | .ask r next => E r ∧ ∀ answer, (next answer).Asks E

theorem Program.Asks.bind {S : Signature} {α β : Type} {E : S.Request → Prop} {p : Program S α}
    {f : α → Program S β} (first : p.Asks E) (rest : ∀ a, (f a).Asks E) : (p >>= f).Asks E := by
  induction p with
  | done value => exact rest value
  | ask r next ih => exact ⟨first.1, fun answer => ih answer (first.2 answer)⟩

theorem Program.Asks.ite {S : Signature} {α : Type} {E : S.Request → Prop} {c : Prop} [Decidable c]
    {p q : Program S α} (pos : c → p.Asks E) (neg : ¬c → q.Asks E) : (if c then p else q).Asks E := by
  split
  · exact pos ‹_›
  · exact neg ‹_›

/-- What is returned under any answers is returned at the end of a path. -/
theorem Program.Path.returns {S : Signature} {α : Type} {E : α → Prop} {p : Program S α}
    {events : List (Program.Event S)} {value : α} (path : Program.Path p events (.done value))
    (returns : p.Returns E) : E value := by
  generalize ended : Program.done value = p' at path
  induction path with
  | here p =>
      subst ended
      exact returns
  | step answer rest ih => exact ih (returns answer) ended

/-- What is asked under any answers is asked along a path. -/
theorem Program.Path.asks {S : Signature} {α : Type} {E : S.Request → Prop} {p p' : Program S α}
    {events : List (Program.Event S)} (path : Program.Path p events p') (asks : p.Asks E) :
    ∀ event ∈ events, E event.1 := by
  induction path with
  | here p => simp
  | step answer rest ih => exact List.forall_mem_cons.mpr ⟨asks.1, ih (asks.2 answer)⟩

theorem Program.Asks.mono {S : Signature} {α : Type} {D E : S.Request → Prop} {p : Program S α}
    (asks : p.Asks D) (weaker : ∀ r, D r → E r) : p.Asks E := by
  induction p with
  | done value => trivial
  | ask r next ih => exact ⟨weaker r asks.1, fun answer => ih answer (asks.2 answer)⟩

/-- What a world may do: answer requests, and move on its own in between. -/
structure Arena (S : Signature) (W : Type u) where
  act : W → (r : S.Request) → S.Answer r → W → Prop
  rely : W → W → Prop

section Logic

variable {S : Signature} {W : Type u} {α β : Type}

/-- Any number of moves of the others. -/
abbrev Arena.moves (A : Arena S W) : W → W → Prop := Relation.ReflTransGen A.rely

/-- `P` survives the moves of the others. -/
def Arena.Stable (A : Arena S W) (P : W → Prop) : Prop := ∀ w w', A.rely w w' → P w → P w'

theorem Arena.Stable.moves {A : Arena S W} {P : W → Prop} (stable : A.Stable P) {w w' : W}
    (moves : A.moves w w') (holds : P w) : P w' := by
  induction moves with
  | refl => exact holds
  | tail _ step ih => exact stable _ _ step ih

/-- What must be true of each answered request: the world before, the request,
its answer, the world after. -/
abbrev Guarantee (S : Signature) (W : Type u) := W → (r : S.Request) → S.Answer r → W → Prop

/-- Every answered request of `p` from `w` meets `G`; every value returned meets `Q`. -/
def Safe (A : Arena S W) (G : Guarantee S W) : Program S α → (α → W → Prop) → W → Prop
  | .done value, Q, w => Q value w
  | .ask r next, Q, w => ∀ w₁, A.moves w w₁ → ∀ answer w₂, A.act w₁ r answer w₂ →
      G w₁ r answer w₂ ∧ Safe A G (next answer) Q w₂

variable {A : Arena S W} {G : Guarantee S W}

theorem Safe.mono {p : Program S α} {Q R : α → W → Prop} {w : W}
    (safe : Safe A G p Q w) (weaker : ∀ a w, Q a w → R a w) : Safe A G p R w := by
  induction p generalizing w with
  | done value => exact weaker _ _ safe
  | ask r next ih =>
      intro w₁ moves answer w₂ act
      obtain ⟨kept, rest⟩ := safe w₁ moves answer w₂ act
      exact ⟨kept, ih answer rest⟩

/-- A weaker guarantee is met as well. -/
theorem Safe.weaken {G' : Guarantee S W} {p : Program S α} {Q : α → W → Prop} {w : W} (safe : Safe A G p Q w)
    (weaker : ∀ w r answer w', G w r answer w' → G' w r answer w') : Safe A G' p Q w := by
  induction p generalizing w with
  | done value => exact safe
  | ask r next ih =>
      intro w₁ moves answer w₂ act
      obtain ⟨kept, rest⟩ := safe w₁ moves answer w₂ act
      exact ⟨weaker _ _ _ _ kept, ih answer rest⟩

/-- What the moves of the others keep, and every step that meets the guarantee, goes along. -/
theorem Safe.along {p : Program S α} {Q : α → W → Prop} {R : W → Prop} {w : W} (stable : A.Stable R)
    (keeps : ∀ w r answer w', G w r answer w' → R w → R w') (holds : R w) (safe : Safe A G p Q w) :
    Safe A G p (fun a w => Q a w ∧ R w) w := by
  induction p generalizing w with
  | done value => exact ⟨safe, holds⟩
  | ask r next ih =>
      intro w₁ moves answer w₂ act
      obtain ⟨kept, rest⟩ := safe w₁ moves answer w₂ act
      exact ⟨kept, ih answer (keeps _ _ _ _ kept (stable.moves moves holds)) rest⟩

/-- What is returned under any answers is returned here. -/
theorem Safe.returns {p : Program S α} {Q : α → W → Prop} {E : α → Prop} {w : W} (returns : p.Returns E)
    (safe : Safe A G p Q w) : Safe A G p (fun a w => Q a w ∧ E a) w := by
  induction p generalizing w with
  | done value => exact ⟨safe, returns⟩
  | ask r next ih =>
      intro w₁ moves answer w₂ act
      obtain ⟨kept, rest⟩ := safe w₁ moves answer w₂ act
      exact ⟨kept, ih answer (returns answer) rest⟩

/-- Two things known of a program from one world hold together. -/
theorem Safe.and {G' : Guarantee S W} {p : Program S α} {Q R : α → W → Prop} {w : W}
    (first : Safe A G p Q w) (second : Safe A G' p R w) :
    Safe A (fun w r answer w' => G w r answer w' ∧ G' w r answer w') p (fun a w => Q a w ∧ R a w) w := by
  induction p generalizing w with
  | done value => exact ⟨first, second⟩
  | ask r next ih =>
      intro w₁ moves answer w₂ act
      obtain ⟨kept, rest⟩ := first w₁ moves answer w₂ act
      obtain ⟨kept', rest'⟩ := second w₁ moves answer w₂ act
      exact ⟨⟨kept, kept'⟩, ih answer rest rest'⟩

/-- In any arena. -/
theorem Program.Returns.safe {E : α → Prop} {p : Program S α} {w : W} (returns : p.Returns E) :
    Safe A (fun _ _ _ _ => True) p (fun a _ => E a) w := by
  induction p generalizing w with
  | done value => exact returns
  | ask r next ih => exact fun _ _ answer _ _ => ⟨trivial, ih answer (returns answer)⟩

/-- What every request from `E` meets, a program that only asks these meets. -/
theorem Safe.asks {E : S.Request → Prop} {p : Program S α} {w : W} (asks : p.Asks E)
    (meets : ∀ w r answer w', E r → A.act w r answer w' → G w r answer w') :
    Safe A G p (fun _ _ => True) w := by
  induction p generalizing w with
  | done value => trivial
  | ask r next ih => exact fun w₁ _ answer w₂ act => ⟨meets w₁ r answer w₂ asks.1 act, ih answer (asks.2 answer)⟩

/-- `A` is what `view` shows of `B`. -/
structure Arena.Shows {V : Type*} (B : Arena S V) (A : Arena S W) (view : V → W) : Prop where
  act : ∀ v r answer v', B.act v r answer v' → A.act (view v) r answer (view v')
  rely : ∀ v v', B.rely v v' → A.moves (view v) (view v')

theorem Arena.Shows.moves {V : Type*} {B : Arena S V} {view : V → W} (shows : B.Shows A view) {v v' : V}
    (moves : B.moves v v') : A.moves (view v) (view v') := by
  induction moves with
  | refl => exact .refl
  | tail _ step ih => exact ih.trans (shows.rely _ _ step)

/-- What is safe in the view is safe behind it. -/
theorem Arena.Shows.safe {V : Type*} {B : Arena S V} {view : V → W} (shows : B.Shows A view)
    {p : Program S α} {Q : α → W → Prop} {v : V} (safe : Safe A G p Q (view v)) :
    Safe B (fun v r answer v' => G (view v) r answer (view v')) p (fun a v => Q a (view v)) v := by
  induction p generalizing v with
  | done value => exact safe
  | ask r next ih =>
      intro v₁ moves answer v₂ act
      obtain ⟨kept, rest⟩ := safe _ (shows.moves moves) answer _ (shows.act _ _ _ _ act)
      exact ⟨kept, ih answer rest⟩

theorem Safe.bind {p : Program S α} {f : α → Program S β} {Q : β → W → Prop} {w : W}
    (safe : Safe A G p (fun a w => Safe A G (f a) Q w) w) : Safe A G (p >>= f) Q w := by
  induction p generalizing w with
  | done value => exact safe
  | ask r next ih =>
      intro w₁ moves answer w₂ act
      obtain ⟨kept, rest⟩ := safe w₁ moves answer w₂ act
      exact ⟨kept, ih answer rest⟩

/-- What is left of a program stays safe when the others move. -/
theorem Safe.move {p : Program S α} {Q : α → W → Prop} (stable : ∀ a, A.Stable (Q a)) {w w' : W}
    (move : A.rely w w') (safe : Safe A G p Q w) : Safe A G p Q w' := by
  cases p with
  | done value => exact stable value w w' move safe
  | ask r next => exact fun w₁ moves => safe w₁ (.head move moves)

/-- The triple: from every world satisfying `P`. -/
def Holds (A : Arena S W) (G : Guarantee S W) (P : W → Prop) (p : Program S α)
    (Q : α → W → Prop) : Prop :=
  ∀ w, P w → Safe A G p Q w

theorem Holds.done {P : W → Prop} {Q : α → W → Prop} {value : α} (h : ∀ w, P w → Q value w) :
    Holds A G P (.done value) Q :=
  h

/-- One request from a stable precondition. `R` is what is known after each answer. -/
theorem Holds.ask {P : W → Prop} {Q : α → W → Prop} {r : S.Request}
    {next : S.Answer r → Program S α} (R : S.Answer r → W → Prop) (stable : A.Stable P)
    (act : ∀ w, P w → ∀ answer w', A.act w r answer w' → G w r answer w' ∧ R answer w')
    (rest : ∀ answer, Holds A G (R answer) (next answer) Q) :
    Holds A G P (.ask r next) Q := by
  intro w holds w₁ moves answer w₂ step
  obtain ⟨kept, known⟩ := act w₁ (stable.moves moves holds) answer w₂ step
  exact ⟨kept, rest answer w₂ known⟩

theorem Holds.pure {P : W → Prop} {Q : α → W → Prop} {value : α} (h : ∀ w, P w → Q value w) :
    Holds A G P (Pure.pure value) Q :=
  h

theorem Holds.request {P : W → Prop} {r : S.Request} {Q : S.Answer r → W → Prop}
    (stable : A.Stable P)
    (act : ∀ w, P w → ∀ answer w', A.act w r answer w' → G w r answer w' ∧ Q answer w') :
    Holds A G P (Program.request r) Q :=
  .ask Q stable act fun _ => .done fun _ known => known

/-- A request that leaves the world alone and meets the guarantee. -/
def Arena.Inert (A : Arena S W) (G : Guarantee S W) (r : S.Request) : Prop :=
  ∀ w answer w', A.act w r answer w' → w' = w ∧ G w r answer w

/-- What an inert request tells: its answer was possible in this world. -/
theorem Holds.inert {P : W → Prop} {r : S.Request} (stable : A.Stable P) (inert : A.Inert G r) :
    Holds A G P (Program.request r) fun answer w => P w ∧ A.act w r answer w := by
  refine .request stable fun w holds answer w' act => ?_
  obtain ⟨rfl, kept⟩ := inert w answer w' act
  exact ⟨kept, holds, act⟩

/-- A request that keeps `P`. -/
def Arena.Keeps (A : Arena S W) (G : Guarantee S W) (P : W → Prop) (r : S.Request) : Prop :=
  ∀ w, P w → ∀ answer w', A.act w r answer w' → G w r answer w' ∧ P w'

theorem Arena.Inert.keeps {r : S.Request} (inert : A.Inert G r) (P : W → Prop) : A.Keeps G P r := by
  intro w holds answer w' act
  obtain ⟨rfl, kept⟩ := inert w answer w' act
  exact ⟨kept, holds⟩

theorem Holds.keeps {P : W → Prop} {r : S.Request} (stable : A.Stable P) (keeps : A.Keeps G P r) :
    Holds A G P (Program.request r) fun _ w => P w :=
  .request stable keeps

theorem Holds.ite {P : W → Prop} {Q : α → W → Prop} {c : Prop} [Decidable c] {p q : Program S α}
    (pos : c → Holds A G P p Q) (neg : ¬c → Holds A G P q Q) :
    Holds A G P (if c then p else q) Q := by
  split
  · exact pos ‹_›
  · exact neg ‹_›

theorem Holds.bind {P : W → Prop} {R : α → W → Prop} {Q : β → W → Prop} {p : Program S α}
    {f : α → Program S β} (first : Holds A G P p R) (rest : ∀ a, Holds A G (R a) (f a) Q) :
    Holds A G P (p >>= f) Q :=
  fun w holds => Safe.bind ((first w holds).mono fun a w' known => rest a w' known)

theorem Holds.conseq {P P' : W → Prop} {Q Q' : α → W → Prop} {p : Program S α}
    (triple : Holds A G P p Q) (stronger : ∀ w, P' w → P w) (weaker : ∀ a w, Q a w → Q' a w) :
    Holds A G P' p Q' :=
  fun w holds => (triple w (stronger w holds)).mono weaker

theorem Holds.pre {P P' : W → Prop} {Q : α → W → Prop} {p : Program S α}
    (triple : Holds A G P p Q) (stronger : ∀ w, P' w → P w) : Holds A G P' p Q :=
  triple.conseq stronger fun _ _ h => h

theorem Holds.post {P : W → Prop} {Q Q' : α → W → Prop} {p : Program S α}
    (triple : Holds A G P p Q) (weaker : ∀ a w, Q a w → Q' a w) : Holds A G P p Q' :=
  triple.conseq (fun _ h => h) weaker

/-- A precondition no world meets. -/
theorem Holds.absurd {P : W → Prop} {Q : α → W → Prop} {p : Program S α} (never : ∀ w, ¬ P w) :
    Holds A G P p Q :=
  fun w holds => (never w holds).elim

/-- A pure part of the precondition may be assumed. -/
theorem Holds.assume {φ : Prop} {P : W → Prop} {Q : α → W → Prop} {p : Program S α}
    (triple : φ → Holds A G P p Q) : Holds A G (fun w => φ ∧ P w) p Q :=
  fun w holds => triple holds.1 w holds.2

theorem Holds.exists {ι : Sort*} {P : ι → W → Prop} {Q : α → W → Prop} {p : Program S α}
    (triple : ∀ i, Holds A G (P i) p Q) : Holds A G (fun w => ∃ i, P i w) p Q :=
  fun w ⟨i, holds⟩ => triple i w holds

/-- A pure fact goes along. -/
theorem Holds.frame {φ : Prop} {P : W → Prop} {Q : α → W → Prop} {p : Program S α}
    (triple : Holds A G P p Q) : Holds A G (fun w => P w ∧ φ) p fun a w => Q a w ∧ φ :=
  fun w holds => (triple w holds.1).mono fun _ _ known => ⟨known, holds.2⟩

/-- What the others and the guarantee keep goes along. -/
theorem Holds.along {P R : W → Prop} {Q : α → W → Prop} {p : Program S α} (triple : Holds A G P p Q)
    (stable : A.Stable R) (keeps : ∀ w r answer w', G w r answer w' → R w → R w') :
    Holds A G (fun w => P w ∧ R w) p fun a w => Q a w ∧ R w :=
  fun w holds => (triple w holds.1).along stable keeps holds.2

theorem Holds.weaken {G' : Guarantee S W} {P : W → Prop} {Q : α → W → Prop} {p : Program S α}
    (triple : Holds A G P p Q) (weaker : ∀ w r answer w', G w r answer w' → G' w r answer w') :
    Holds A G' P p Q :=
  fun w holds => (triple w holds).weaken weaker

/-- One state to start from. -/
theorem Holds.of_forall {P : W → Prop} {Q : α → W → Prop} {p : Program S α}
    (h : ∀ w, P w → Holds A G (· = w) p Q) : Holds A G P p Q :=
  fun w holds => h w holds w rfl

/-- A complete run: the others may move before each request and at the end. -/
inductive Exec (A : Arena S W) : Program S α → W → α → W → Prop where
  | done {value : α} {w : W} : Exec A (.done value) w value w
  | ask {r : S.Request} {next : S.Answer r → Program S α} {w w₁ w₂ w₃ : W}
      {answer : S.Answer r} {value : α} (moves : A.moves w w₁) (act : A.act w₁ r answer w₂)
      (rest : Exec A (next answer) w₂ value w₃) : Exec A (.ask r next) w value w₃

theorem Safe.exec {p : Program S α} {Q : α → W → Prop} {w w' : W} {value : α}
    (run : Exec A p w value w') (safe : Safe A G p Q w) : Q value w' := by
  induction run with
  | done => exact safe
  | ask moves act rest ih => exact ih (safe _ moves _ _ act).2

/-- A run of two programs is one of each. -/
theorem Exec.of_bind {p : Program S α} {f : α → Program S β} {w w' : W} {value : β}
    (run : Exec A (p >>= f) w value w') : ∃ a w₁, Exec A p w a w₁ ∧ Exec A (f a) w₁ value w' := by
  induction p generalizing w with
  | done a => exact ⟨a, w, .done, run⟩
  | ask r next ih =>
      cases run with
      | ask moves act rest =>
          obtain ⟨a, w₁, first, later⟩ := ih _ rest
          exact ⟨a, w₁, .ask moves act first, later⟩

/-- A run of one request. -/
theorem Exec.of_request {r : S.Request} {w w' : W} {answer : S.Answer r}
    (run : Exec A (Program.request r) w answer w') : ∃ w₁, A.moves w w₁ ∧ A.act w₁ r answer w' := by
  cases run with
  | ask moves act rest =>
      cases rest
      exact ⟨_, moves, act⟩

/-- A program that returns at once. -/
theorem Exec.of_done {w w' : W} {value value' : α} (run : Exec A (.done value) w value' w') :
    value' = value ∧ w' = w := by
  cases run
  exact ⟨rfl, rfl⟩

/-- The same arena with fewer answers. -/
def Arena.restrict (A : Arena S W) (allowed : (r : S.Request) → S.Answer r → Prop) : Arena S W :=
  { A with act := fun w r answer w' => A.act w r answer w' ∧ allowed r answer }

theorem Arena.Stable.restrict {P : W → Prop} (stable : A.Stable P)
    (allowed : (r : S.Request) → S.Answer r → Prop) : (A.restrict allowed).Stable P :=
  stable

theorem Arena.restrict_all (A : Arena S W) : (A.restrict fun _ _ => True) = A := by
  simp [Arena.restrict]

theorem Arena.Inert.restrict {r : S.Request} (inert : A.Inert G r)
    (allowed : (r : S.Request) → S.Answer r → Prop) : (A.restrict allowed).Inert G r :=
  fun w answer w' act => inert w answer w' act.1

theorem Arena.Keeps.restrict {P : W → Prop} {r : S.Request} (keeps : A.Keeps G P r)
    (allowed : (r : S.Request) → S.Answer r → Prop) : (A.restrict allowed).Keeps G P r :=
  fun w holds answer w' act => keeps w holds answer w' act.1

theorem Safe.restrict {p : Program S α} {Q : α → W → Prop} {w : W}
    (allowed : (r : S.Request) → S.Answer r → Prop) (safe : Safe A G p Q w) :
    Safe (A.restrict allowed) G p Q w := by
  induction p generalizing w with
  | done value => exact safe
  | ask r next ih =>
      intro w₁ moves answer w₂ act
      obtain ⟨kept, rest⟩ := safe w₁ moves answer w₂ act.1
      exact ⟨kept, ih answer rest⟩

theorem Holds.restrict {P : W → Prop} {Q : α → W → Prop} {p : Program S α}
    (triple : Holds A G P p Q) (allowed : (r : S.Request) → S.Answer r → Prop) :
    Holds (A.restrict allowed) G P p Q :=
  fun w holds => (triple w holds).restrict allowed

/-- In an arena that always has an answer every program runs to its end. -/
theorem Program.exec_exists (total : ∀ w r, ∃ answer w', A.act w r answer w')
    (p : Program S α) (w : W) : ∃ value w', Exec A p w value w' := by
  induction p generalizing w with
  | done value => exact ⟨value, w, .done⟩
  | ask r next ih =>
      obtain ⟨answer, w₁, act⟩ := total w r
      obtain ⟨value, w₂, rest⟩ := ih answer w₁
      exact ⟨value, w₂, .ask .refl act rest⟩

/-- The arena where anything may be answered. -/
def Arena.free (S : Signature) : Arena S Unit :=
  { act := fun _ _ _ _ => True, rely := fun _ _ => False }

theorem Arena.free_stable (P : Unit → Prop) : (Arena.free S).Stable P := fun _ _ move => move.elim

/-- What holds of each event in the free arena holds along every path. -/
theorem Holds.events {E : Program.Event S → Prop} {P : Unit → Prop} {Q : α → Unit → Prop}
    {p p' : Program S α} {events : List (Program.Event S)}
    (triple : Holds (Arena.free S) (fun _ r answer _ => E ⟨r, answer⟩) P p Q) (holds : P ())
    (path : Program.Path p events p') : ∀ event ∈ events, E event := by
  have safe := triple () holds
  clear triple
  induction path with
  | here => simp
  | step answer rest ih =>
      obtain ⟨kept, later⟩ := safe () .refl answer () trivial
      exact List.forall_mem_cons.mpr ⟨kept, ih later⟩

/-- A deterministic world. -/
abbrev Handler (S : Signature) (W : Type u) := W → (r : S.Request) → S.Answer r × W

def Program.run (h : Handler S W) : Program S α → W → α × W
  | .done value, w => (value, w)
  | .ask r next, w => (next (h w r).1).run h (h w r).2

/-- Handlers run on states `σ` that show a world: what the arena allows of the view is a
run of the arena. -/
theorem Exec.of_run {σ : Type} {h : Handler S σ} (view : σ → W)
    (allowed : ∀ s r, A.act (view s) r (h s r).1 (view (h s r).2)) (p : Program S α) (s : σ) :
    Exec A p (view s) (p.run h s).1 (view (p.run h s).2) := by
  induction p generalizing s with
  | done value => exact .done
  | ask r next ih => exact .ask .refl (allowed s r) (ih _ _)

/-- Handlers that run on the worlds themselves. -/
theorem Exec.of_handler {σ : Type} {A : Arena S σ} {h : Handler S σ}
    (allowed : ∀ s r, A.act s r (h s r).1 (h s r).2) (p : Program S α) (s : σ) :
    Exec A p s (p.run h s).1 (p.run h s).2 :=
  .of_run id allowed p s

/-- Runs a program up to the first request `stop` picks. -/
def Program.pause {σ : Type} (h : Handler S σ) (stop : S.Request → Bool) :
    Program S α → σ → Program S α × σ
  | .done value, s => (.done value, s)
  | .ask r next, s =>
      if stop r then (.ask r next, s) else (next (h s r).1).pause h stop (h s r).2

/-- The request a program is about to make. -/
def Program.pending : Program S α → Option S.Request
  | .done _ => none
  | .ask r _ => some r

theorem Program.of_pending {p : Program S α} {r : S.Request} (asks : p.pending = some r) :
    ∃ next, p = .ask r next := by
  cases p with
  | done value => cases asks
  | ask r' next => exact ⟨Option.some.inj asks ▸ next, by cases asks; rfl⟩

end Logic

end CpuIdle.Theory
