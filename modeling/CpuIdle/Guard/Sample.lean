/-
# Guard.Sample — which samples reach the hysteresis

A tick compares what it counted with a baseline that earlier ticks left behind.

* `stableUsageDelta_path`, `stableUsageDelta_exact` — the delta of two maps is the integer sum or
  nothing, in every order of the walk;
* `Sight`, `Sees` — what one tick got to see, read off its answers;
* `Baseline` — the last complete sample, unless a failure has discarded it since;
* `Advances` — when two samples may be compared at all;
* `sound_samples_only` — over every run of ticks.
-/
import CpuIdle.Guard.Tick
import CpuIdle.Node.Sample
import CpuIdle.Theory.Run
import Mathlib.Algebra.BigOperators.Ring.Finset

namespace CpuIdle.Guard

open CpuIdle.Go CpuIdle.Kube CpuIdle.Node CpuIdle.Theory CpuIdle.Cgroup

set_option autoImplicit false

/-! ## The usage between two samples -/

/-- Microseconds of CPU by UID. -/
abbrev Usage := Finmap fun _ : String => Nat

def usageAt (usage : Usage) (uid : String) : Nat := (usage.lookup uid).getD 0

/-- What the pods of `current` used since `previous`. -/
def growth (previous current : Usage) : Int :=
  ∑ uid ∈ current.keys, ((usageAt current uid : Int) - usageAt previous uid)

/-- One set of pods, and no counter below where it was. -/
structure Monotone (previous current : Usage) : Prop where
  pods : previous.keys = current.keys
  counters : ∀ uid ∈ current.keys, usageAt previous uid ≤ usageAt current uid

theorem usageAt_of_mem {usage : Usage} {uid : String} (member : uid ∈ usage.keys) :
    usage.lookup uid = some (usageAt usage uid) := by
  obtain ⟨n, found⟩ := Finmap.mem_iff.mp (Finmap.mem_keys.mp member)
  simp [usageAt, found]

theorem lookup_of_not_mem {usage : Usage} {uid : String} (absent : uid ∉ usage.keys) :
    usage.lookup uid = none :=
  Finmap.lookup_eq_none.mpr fun member => absent (Finmap.mem_keys.mpr member)

/-- The loop, from any total: partial sums never exceed the whole one, so that checking each of
them is checking that. -/
theorem usageDelta_eq_some {previous current : Usage} {order : List String} {total d : Nat}
    (known : ∀ uid ∈ order, uid ∈ current.keys) (fits : total ≤ maxUint64) :
    usageDelta previous current order total = some d ↔
      (∀ uid ∈ order, uid ∈ previous.keys ∧ usageAt previous uid ≤ usageAt current uid) ∧
        d ≤ maxUint64 ∧ total + (order.map fun uid => usageAt current uid - usageAt previous uid).sum = d := by
  induction order generalizing total with
  | nil =>
      simp only [usageDelta, Option.some.injEq, List.map_nil, List.sum_nil, Nat.add_zero]
      constructor
      · rintro rfl
        exact ⟨nofun, fits, rfl⟩
      · exact fun all => all.2.2
  | cons uid rest ih =>
      obtain ⟨here, later⟩ := List.forall_mem_cons.mp known
      rw [usageDelta, usageAt_of_mem here]
      by_cases member : uid ∈ previous.keys
      · rw [usageAt_of_mem member]
        simp only [List.forall_mem_cons, List.map_cons, List.sum_cons, member, true_and]
        by_cases below : usageAt current uid < usageAt previous uid
        · simp only [if_pos below, reduceCtorEq, false_iff]
          omega
        · rw [if_neg below]
          by_cases overflows : usageAt current uid - usageAt previous uid > maxUint64 - total
          · simp only [if_pos overflows, reduceCtorEq, false_iff]
            omega
          · rw [if_neg overflows, ih later (by omega)]
            constructor
            · rintro ⟨all, bounded, sum⟩
              exact ⟨⟨by omega, all⟩, bounded, by omega⟩
            · rintro ⟨⟨-, all⟩, bounded, sum⟩
              exact ⟨all, bounded, by omega⟩
      · rw [lookup_of_not_mem member]
        simp [member]

/-- In natural numbers, where no counter went back. -/
theorem growth_eq {previous current : Usage} (monotone : Monotone previous current) :
    growth previous current =
      ((∑ uid ∈ current.keys, (usageAt current uid - usageAt previous uid) : Nat) : Int) := by
  rw [growth, Nat.cast_sum]
  refine Finset.sum_congr rfl fun uid member => ?_
  rw [Nat.cast_sub (monotone.counters uid member)]

/-- **The delta of two maps**, in whatever order they are walked. -/
theorem stableUsageDelta_path {previous current : Usage} {events : List (Program.Event nodeSignature)}
    {result : Option Nat}
    (path : Program.Path (stableUsageDelta previous current) events (.done result)) (d : Nat) :
    result = some d ↔ Monotone previous current ∧ growth previous current = d ∧ d ≤ maxUint64 := by
  unfold stableUsageDelta at path
  by_cases apart : previous.keys.card ≠ current.keys.card
  · rw [if_pos apart] at path
    obtain ⟨-, ended⟩ := path.of_done
    cases ended
    simp only [reduceCtorEq, false_iff]
    rintro ⟨monotone, -⟩
    exact apart (congrArg Finset.card monotone.pods)
  · rw [if_neg apart] at path
    obtain ⟨⟨order, nodup, exact⟩, rest, -, path⟩ := path.of_request
    obtain ⟨-, ended⟩ := path.of_done
    cases ended
    have members : ∀ uid, uid ∈ order ↔ uid ∈ current.keys := fun uid => by
      rw [← exact, List.mem_toFinset]
    rw [usageDelta_eq_some (fun uid member => (members uid).mp member) (Nat.zero_le _), Nat.zero_add,
      ← List.sum_toFinset _ nodup, exact]
    constructor
    · rintro ⟨all, bounded, sum⟩
      have included : current.keys ⊆ previous.keys := fun uid member =>
        (all uid ((members uid).mpr member)).1
      have pods := Finset.eq_of_subset_of_card_le included (le_of_eq (not_ne_iff.mp apart))
      have monotone : Monotone previous current :=
        ⟨pods.symm, fun uid member => (all uid ((members uid).mpr member)).2⟩
      exact ⟨monotone, by rw [growth_eq monotone, sum], bounded⟩
    · rintro ⟨monotone, sum, bounded⟩
      rw [growth_eq monotone] at sum
      refine ⟨fun uid member => ?_, bounded, Int.ofNat_inj.mp sum⟩
      have inCurrent := (members uid).mp member
      exact ⟨monotone.pods ▸ inCurrent, monotone.counters uid inCurrent⟩

/-- Whatever order the map is walked in, the call returns. -/
theorem stableUsageDelta_returns (previous current : Usage) (order : Walk current.keys) :
    ∃ events result, Program.Path (stableUsageDelta previous current) events (.done result) ∧
      ∀ event ∈ events, event = ⟨.rangeKeys current.keys, order⟩ := by
  unfold stableUsageDelta
  by_cases apart : previous.keys.card ≠ current.keys.card
  · rw [if_pos apart]
    exact ⟨[], none, .here _, by simp⟩
  · rw [if_neg apart]
    refine ⟨[⟨.rangeKeys current.keys, order⟩], usageDelta previous current order.val 0, ?_, ?_⟩
    · exact Program.Path.step (S := nodeSignature) (r := .rangeKeys current.keys) order (.here _)
    · simp

/-- **The delta is exact, and one for all orders.** Where the counters of one set of pods only
grew, and by no more than a uint64 holds, it is the integer sum of what they grew by. -/
theorem stableUsageDelta_exact (previous current : Usage) :
    ∃ delta : Option Nat,
      (∀ d : Nat, delta = some d ↔ previous.keys = current.keys ∧
        (∀ uid ∈ current.keys, usageAt previous uid ≤ usageAt current uid) ∧
        growth previous current ≤ maxUint64 ∧ growth previous current = d) ∧
      (∀ events result, Program.Path (stableUsageDelta previous current) events (.done result) →
        result = delta) ∧
      ∀ order : Walk current.keys, ∃ events,
        Program.Path (stableUsageDelta previous current) events (.done delta) ∧
          ∀ event ∈ events, event = ⟨.rangeKeys current.keys, order⟩ := by
  obtain ⟨_, delta, path, -⟩ := stableUsageDelta_returns previous current (sortedWalk current.keys)
  have agree : ∀ events result, Program.Path (stableUsageDelta previous current) events (.done result) →
      result = delta := by
    intro events result path'
    apply Option.ext
    intro d
    rw [stableUsageDelta_path path', stableUsageDelta_path path]
  refine ⟨delta, fun d => ?_, agree, fun order => ?_⟩
  · rw [stableUsageDelta_path path]
    constructor
    · rintro ⟨⟨pods, counters⟩, sum, bounded⟩
      exact ⟨pods, counters, by omega, sum⟩
    · rintro ⟨pods, counters, bounded, sum⟩
      exact ⟨⟨pods, counters⟩, sum, by omega⟩
  · obtain ⟨events, result, path', walked⟩ := stableUsageDelta_returns previous current order
    obtain rfl := agree events result path'
    exact ⟨events, path', walked⟩

/-! ## What a tick sees -/

/-- One complete sample. -/
structure Sample where
  total : Nat
  idle : Usage
  taken : Int

/-- How far a tick got. `cpus` is what it was or would have been told. -/
inductive Sight where
  | cancelled
  | unlisted
  | uncounted (pods candidates : List Pod)
  | untotalled (pods candidates : List Pod)
  | sampled (pods candidates : List Pod) (sample : Sample) (cpus : Int)

/-- The pods listed and the idle ones among them, where the tick got so far. -/
def Sight.listed : Sight → Option (List Pod × List Pod)
  | .cancelled => none
  | .unlisted => none
  | .uncounted pods candidates => some (pods, candidates)
  | .untotalled pods candidates => some (pods, candidates)
  | .sampled pods candidates _ _ => some (pods, candidates)

section

variable [PrintTable]

/-- What the answers to a tick show. -/
inductive Sees (cfg : TickConfig) : List (Program.Event nodeSignature) → Sight → Prop where
  | cancelled (rest : List (Program.Event nodeSignature)) : Sees cfg (⟨.ctxErr, true⟩ :: rest) .cancelled
  | unlisted (err : GoError) (rest : List (Program.Event nodeSignature)) :
      Sees cfg (⟨.ctxErr, false⟩ :: ⟨.listCache, .error err⟩ :: rest) .unlisted
  | uncounted {pods : List Pod} {inspected : List (Program.Event nodeSignature)} {idle : IdlePods}
      (inspect : Program.Path (idlePodsUsage cfg.toConfig pods ⟨[], ∅, []⟩) inspected (.done idle))
      (failed : idle.errs ≠ []) (rest : List (Program.Event nodeSignature)) :
      Sees cfg (⟨.ctxErr, false⟩ :: ⟨.listCache, .ok pods⟩ :: (inspected ++ rest))
        (.uncounted pods idle.candidates)
  | untotalled {pods : List Pod} {inspected read : List (Program.Event nodeSignature)} {idle : IdlePods}
      {err : GoError}
      (inspect : Program.Path (idlePodsUsage cfg.toConfig pods ⟨[], ∅, []⟩) inspected (.done idle))
      (counted : idle.errs = [])
      (reads : Program.Path (readUsageUsec cfg.layout.root) read (.done (.error err)))
      (rest : List (Program.Event nodeSignature)) :
      Sees cfg (⟨.ctxErr, false⟩ :: ⟨.listCache, .ok pods⟩ :: (inspected ++ (read ++ rest)))
        (.untotalled pods idle.candidates)
  | sampled {pods : List Pod} {inspected read : List (Program.Event nodeSignature)} {idle : IdlePods}
      {total : Nat}
      (inspect : Program.Path (idlePodsUsage cfg.toConfig pods ⟨[], ∅, []⟩) inspected (.done idle))
      (counted : idle.errs = [])
      (reads : Program.Path (readUsageUsec cfg.layout.root) read (.done (.ok total))) (now : Int)
      {rest : List (Program.Event nodeSignature)} {cpus : Int}
      (told : ∀ (n : Int) (later : List (Program.Event nodeSignature)),
        rest = ⟨.numCPU, n⟩ :: later → n = cpus) :
      Sees cfg (⟨.ctxErr, false⟩ :: ⟨.listCache, .ok pods⟩ ::
          (inspected ++ (read ++ ⟨.now, now⟩ :: rest)))
        (.sampled pods idle.candidates ⟨total, idle.usage, now⟩ cpus)

/-! ## The baseline -/

/-- The latest complete sample, and nothing since has discarded it. -/
def Baseline (history : List Sight) (base : Sample) : Prop :=
  ∃ before pods candidates cpus after, history = before ++ .sampled pods candidates base cpus :: after ∧
    ∀ sight ∈ after, sight = .cancelled ∨ sight = .unlisted

/-- The two samples are of one set of pods, contradict each other nowhere, and time has passed
between them. -/
structure Advances (base sample : Sample) (cpus : Int) : Prop where
  monotone : Monotone base.idle sample.idle
  node : base.total ≤ sample.total
  contained : growth base.idle sample.idle ≤ (sample.total : Int) - base.total
  elapsed : 0 < elapsedMicroseconds sample.taken base.taken
  cpus : 0 < cpus

/-- The sampler holds exactly this baseline. -/
def Sampler.Keeps (s : Sampler) (base : Sample) : Prop :=
  s.prevSampled = some base.taken ∧ s.prevTotal = base.total ∧ s.prevIdle = base.idle

omit [PrintTable] in
theorem Sampler.Keeps.unique {s : Sampler} {base base' : Sample} (keeps : s.Keeps base)
    (keeps' : s.Keeps base') : base = base' := by
  obtain ⟨total, idle, taken⟩ := base
  obtain ⟨total', idle', taken'⟩ := base'
  obtain ⟨sampled, totals, idles⟩ := keeps
  obtain ⟨sampled', totals', idles'⟩ := keeps'
  simp only at sampled totals idles sampled' totals' idles'
  simp [← totals, ← idles, totals', idles', Option.some.inj (sampled.symm.trans sampled')]

/-! ## One tick -/

/-- The utilization of the non-idle load between two samples, in exact integers. -/
def Feeds (base sample : Sample) (cpus : Int) (util : Float) : Prop :=
  ∃ nonIdle : Nat, (nonIdle : Int) = ((sample.total : Int) - base.total) - growth base.idle sample.idle ∧
    nonIdle ≤ maxUint64 ∧
    util = utilization nonIdle (elapsedMicroseconds sample.taken base.taken) cpus

/-- The decider takes one step where the samples may be compared, and none elsewhere; the
temperature is its own. -/
structure Decided (cfg : TickConfig) (s : Sampler) (sample : Sample) (cpus : Int)
    (result : Bool × Decider) : Prop where
  temperature : result.1 = result.2.hot
  advanced : ∀ base, s.Keeps base → Advances base sample cpus → ∃ util, Feeds base sample cpus util ∧
    result.2 = (s.dec.observe util cfg.high cfg.low).2
  unchanged : (∀ base, s.Keeps base → ¬ Advances base sample cpus) → result.2 = s.dec

omit [PrintTable] in
theorem Decided.stay {cfg : TickConfig} {s : Sampler} {sample : Sample} {cpus : Int}
    {result : Bool × Decider} {events : List (Program.Event nodeSignature)}
    (path : Program.Path (pure (s.dec.hot, s.dec) : Node (Bool × Decider)) events (.done result))
    (never : ∀ base, s.Keeps base → ¬ Advances base sample cpus) : Decided cfg s sample cpus result := by
  obtain ⟨-, ended⟩ := path.of_done
  cases ended
  exact ⟨rfl, fun base keeps advances => absurd advances (never base keeps), fun _ => rfl⟩

omit [PrintTable] in
theorem decideHot_path {cfg : TickConfig} {s : Sampler} (sample : Sample)
    {events : List (Program.Event nodeSignature)} {result : Bool × Decider} {cpus : Int}
    (path : Program.Path (decideHot cfg s sample.total sample.idle sample.taken) events (.done result))
    (told : ∀ (n : Int) (later : List (Program.Event nodeSignature)),
      events = ⟨.numCPU, n⟩ :: later → n = cpus) (counter : sample.total ≤ maxUint64) :
    Decided cfg s sample cpus result := by
  unfold decideHot at path
  cases sampled : s.prevSampled with
  | none =>
      rw [sampled] at path
      refine .stay path fun base keeps => ?_
      simp [Sampler.Keeps, sampled] at keeps
  | some taken =>
  rw [sampled] at path
  dsimp only at path
  by_cases reset : sample.total < s.prevTotal
  · rw [if_pos reset] at path
    refine .stay path fun base keeps advances => ?_
    rw [keeps.2.1] at reset
    exact absurd advances.node (by omega)
  rw [if_neg reset] at path
  obtain ⟨(n : Int), after, rfl, deltas⟩ := path.of_request
  obtain rfl := told n _ rfl
  obtain ⟨walked, idleDelta, last, -, walk, decides⟩ := deltas.of_bind
  have exact := stableUsageDelta_path walk
  cases idleDelta with
  | none =>
      refine .stay decides fun base keeps advances => ?_
      -- The sum is bounded by the node's own delta, so only the comparison can have failed.
      have sum := growth_eq advances.monotone
      have contained := advances.contained
      rw [keeps.2.2] at exact
      have found := (exact _).mpr ⟨advances.monotone, sum, by omega⟩
      cases found
  | some idleDelta =>
  obtain ⟨monotone, sum, bounded⟩ := (exact idleDelta).mp rfl
  dsimp only at decides
  by_cases sound : 0 < elapsedMicroseconds sample.taken taken ∧ 0 < n ∧
      idleDelta ≤ sample.total - s.prevTotal
  · rw [if_pos sound] at decides
    obtain ⟨-, ended⟩ := decides.of_done
    cases ended
    have keeps : s.Keeps ⟨s.prevTotal, s.prevIdle, taken⟩ := ⟨sampled, rfl, rfl⟩
    have advances : Advances ⟨s.prevTotal, s.prevIdle, taken⟩ sample n :=
      ⟨monotone, by show s.prevTotal ≤ _; omega, by show growth s.prevIdle _ ≤ _ - (s.prevTotal : Int); omega,
        sound.1, sound.2.1⟩
    refine ⟨rfl, fun base keeps' _ => ?_, fun never => absurd advances (never _ keeps)⟩
    obtain rfl := keeps.unique keeps'
    exact ⟨_, ⟨sample.total - s.prevTotal - idleDelta, by
      show _ = (_ : Int) - (s.prevTotal : Int) - growth s.prevIdle _
      omega, by omega, rfl⟩, rfl⟩
  · rw [if_neg sound] at decides
    refine .stay decides fun base keeps advances => sound ?_
    obtain ⟨taken', total, idle⟩ := keeps
    obtain rfl := Option.some.inj (sampled.symm.trans taken')
    have contained := advances.contained
    rw [← idle, sum, ← total] at contained
    exact ⟨advances.elapsed, advances.cpus, by omega⟩

/-- A counter is a uint64. -/
theorem readUsageUsec_le {dir : String} {events : List (Program.Event nodeSignature)} {n : Nat}
    (path : Program.Path (readUsageUsec dir) events (.done (.ok n))) : n ≤ maxUint64 := by
  unfold readUsageUsec at path
  obtain ⟨answer, rest, -, path⟩ := path.of_request
  cases answer with
  | notExist =>
      obtain ⟨-, ended⟩ := path.of_done
      cases ended
  | failed err =>
      obtain ⟨-, ended⟩ := path.of_done
      cases ended
  | data content =>
      dsimp only at path
      split at path
      · obtain ⟨-, ended⟩ := path.of_done
        cases ended
      · split at path
        · obtain ⟨-, ended⟩ := path.of_done
          cases ended
        · rename_i parsed
          obtain ⟨-, ended⟩ := path.of_done
          cases ended
          unfold parseUint at parsed
          split at parsed
          · cases parsed
          · exact parseDigits_le parsed (Nat.zero_le _)

/-- What a tick that saw this leaves of the sampler. -/
inductive Leaves (cfg : TickConfig) (s : Sampler) : Sight → Sampler → Prop where
  | cancelled : Leaves cfg s .cancelled s
  | unlisted : Leaves cfg s .unlisted s
  | uncounted (pods candidates : List Pod) : Leaves cfg s (.uncounted pods candidates) s.forget
  | untotalled (pods candidates : List Pod) : Leaves cfg s (.untotalled pods candidates) s.forget
  | sampled (pods candidates : List Pod) {sample : Sample} {cpus : Int} {dec : Decider}
      (decided : Decided cfg s sample cpus (dec.hot, dec)) :
      Leaves cfg s (.sampled pods candidates sample cpus) ⟨dec, sample.total, sample.idle, some sample.taken⟩

variable [Qos.ResourceHelper]

/-- The one pass of a tick, over what it listed, and none where it listed nothing. -/
def Converges (cfg : TickConfig) (owned : Owned) (hot : Bool) (events : List (Program.Event nodeSignature)) :
    Option (List Pod × List Pod) → Prop
  | none => ∀ event ∈ events, event.1 ∈ [.ctxErr, .listCache, .reportHealth false]
  | some (pods, candidates) => ∃ before pass healthy result,
      events = before ++ (pass ++ [⟨.reportHealth healthy, ()⟩]) ∧
        Program.Path (converge cfg.toConfig owned hot pods candidates) pass (.done result)

/-- The end of a tick: one pass and the report. -/
theorem Converges.pass (health : Option GoError → Bool) (left : Sampler)
    (before : List (Program.Event nodeSignature)) {cfg : TickConfig} {owned : Owned} {hot : Bool}
    {pods candidates : List Pod} {events : List (Program.Event nodeSignature)} {result : Sampler × Owned}
    (path : Program.Path (converge cfg.toConfig owned hot pods candidates >>= fun passed => do
      ask (.reportHealth (health passed.1))
      return (left, passed.2)) events (.done result)) :
    result.1 = left ∧ Converges cfg owned hot (before ++ events) (some (pods, candidates)) := by
  obtain ⟨pass, ⟨err, owned'⟩, rest, rfl, passes, closing⟩ := path.of_bind
  obtain ⟨⟨⟩, last, rfl, returns⟩ := closing.of_request
  obtain ⟨rfl, ended⟩ := returns.of_done
  cases ended
  exact ⟨rfl, before, pass, health err, _, rfl, passes⟩

/-- **One tick.** -/
theorem tick_leaves {cfg : TickConfig} {s : Sampler} {owned : Owned} {result : Sampler × Owned}
    {events : List (Program.Event nodeSignature)}
    (path : Program.Path (tick cfg s owned) events (.done result)) {sight : Sight}
    (sees : Sees cfg events sight) :
    Leaves cfg s sight result.1 ∧ Converges cfg owned result.1.dec.hot events sight.listed := by
  unfold tick at path
  cases sees with
  | cancelled rest =>
      obtain ⟨_, _, same, ended⟩ := path.of_request
      cases same
      obtain ⟨rfl, returned⟩ := ended.of_done
      cases returned
      exact ⟨.cancelled, by simp [Converges, Sight.listed]⟩
  | unlisted err rest =>
      obtain ⟨_, _, same, lists⟩ := path.of_request
      cases same
      obtain ⟨_, _, same, reports⟩ := lists.of_request
      cases same
      obtain ⟨⟨⟩, _, rfl, ended⟩ := reports.of_request
      obtain ⟨rfl, returned⟩ := ended.of_done
      cases returned
      exact ⟨.unlisted, by simp [Converges, Sight.listed]⟩
  | uncounted inspect failed rest =>
      obtain ⟨_, _, same, lists⟩ := path.of_request
      cases same
      obtain ⟨_, _, same, inspects⟩ := lists.of_request
      cases same
      have onward := inspect.resume inspects
      rw [if_pos failed] at onward
      obtain ⟨left, converges⟩ := Converges.pass (fun _ => false) s.forget (_ :: _ :: _) onward
      rw [left]
      exact ⟨.uncounted _ _, converges⟩
  | untotalled inspect counted reads rest =>
      obtain ⟨_, _, same, lists⟩ := path.of_request
      cases same
      obtain ⟨_, _, same, inspects⟩ := lists.of_request
      cases same
      have onward := inspect.resume inspects
      rw [if_neg (not_not.mpr counted)] at onward
      obtain ⟨left, converges⟩ := Converges.pass (fun _ => false) s.forget (_ :: _ :: (_ ++ _))
        (reads.resume onward)
      rw [left]
      simp only [List.cons_append, List.append_assoc] at converges
      exact ⟨.untotalled _ _, converges⟩
  | sampled inspect counted reads now told =>
      obtain ⟨_, _, same, lists⟩ := path.of_request
      cases same
      obtain ⟨_, _, same, inspects⟩ := lists.of_request
      cases same
      have onward := inspect.resume inspects
      rw [if_neg (not_not.mpr counted)] at onward
      obtain ⟨_, _, same, samples⟩ := (reads.resume onward).of_request
      cases same
      obtain ⟨decides, ⟨hot, dec⟩, last, rfl, decision, concludes⟩ := samples.of_bind
      have decided := decideHot_path ⟨_, _, _⟩ decision
        (fun n later asked => told n (later ++ last) (by rw [asked]; rfl)) (readUsageUsec_le reads)
      obtain rfl : hot = dec.hot := decided.temperature
      obtain ⟨left, converges⟩ := Converges.pass (fun err => err.isNone) ⟨dec, _, _, some now⟩
        (_ :: _ :: (_ ++ (_ ++ _ :: _))) concludes
      simp only [List.cons_append, List.append_assoc] at converges
      rw [left]
      exact ⟨.sampled _ _ decided, converges⟩

/-- A complete tick has seen something. -/
theorem tick_sees {cfg : TickConfig} {s : Sampler} {owned : Owned} {result : Sampler × Owned}
    {events : List (Program.Event nodeSignature)}
    (path : Program.Path (tick cfg s owned) events (.done result)) : ∃ sight, Sees cfg events sight := by
  unfold tick at path
  obtain ⟨(stopped : Bool), rest, rfl, lists⟩ := path.of_request
  cases stopped with
  | true => exact ⟨_, .cancelled rest⟩
  | false =>
  obtain ⟨(listed : Except GoError (List Pod)), rest, rfl, inspects⟩ := lists.of_request
  cases listed with
  | error err => exact ⟨_, .unlisted err rest⟩
  | ok pods =>
  obtain ⟨inspected, idle, rest, rfl, inspect, onward⟩ := inspects.of_bind
  by_cases failed : idle.errs ≠ []
  · exact ⟨_, .uncounted inspect failed rest⟩
  have counted := not_not.mp failed
  rw [if_neg failed] at onward
  obtain ⟨read, usage, rest, rfl, reads, samples⟩ := onward.of_bind
  cases usage with
  | error err => exact ⟨_, .untotalled inspect counted reads rest⟩
  | ok total =>
  obtain ⟨now, rest, rfl, decides⟩ := samples.of_request
  by_cases told : ∃ (n : Int) (later : List (Program.Event nodeSignature)), rest = ⟨.numCPU, n⟩ :: later
  · obtain ⟨n, later, rfl⟩ := told
    refine ⟨.sampled pods idle.candidates ⟨total, idle.usage, now⟩ n, .sampled inspect counted reads now ?_⟩
    intro n' later' same
    cases same
    rfl
  · exact ⟨.sampled pods idle.candidates ⟨total, idle.usage, now⟩ 0, .sampled inspect counted reads now
      fun n later asked => absurd ⟨n, later, asked⟩ told⟩

/-! ## Runs -/

omit [PrintTable] [Qos.ResourceHelper] in
theorem baseline_sampled {history : List Sight} {pods candidates : List Pod} {sample base : Sample} {cpus : Int} :
    Baseline (history ++ [.sampled pods candidates sample cpus]) base ↔ base = sample := by
  constructor
  · rintro ⟨before, pods', candidates', cpus', after, same, kept⟩
    rcases List.eq_nil_or_concat after with rfl | ⟨after, last, rfl⟩
    · have ends := List.append_inj_right' same rfl
      cases ends
      rfl
    · rw [List.concat_eq_append, ← List.cons_append, ← List.append_assoc] at same
      have ends := List.append_inj_right' same rfl
      have bad := kept last (by simp)
      cases ends
      simp at bad
  · rintro rfl
    exact ⟨history, pods, candidates, cpus, [], rfl, nofun⟩

omit [PrintTable] [Qos.ResourceHelper] in
/-- Ticks that see nothing keep the baseline, failed ones discard it. -/
theorem baseline_failed {history : List Sight} {sight : Sight} {base : Sample}
    (incomplete : ∀ pods candidates sample cpus, sight ≠ .sampled pods candidates sample cpus) :
    Baseline (history ++ [sight]) base ↔
      (sight = .cancelled ∨ sight = .unlisted) ∧ Baseline history base := by
  constructor
  · rintro ⟨before, pods, candidates, cpus, after, same, kept⟩
    rcases List.eq_nil_or_concat after with rfl | ⟨after, last, rfl⟩
    · have ends := List.append_inj_right' same rfl
      cases ends
      exact absurd rfl (incomplete _ _ _ _)
    · rw [List.concat_eq_append, ← List.cons_append, ← List.append_assoc] at same
      obtain ⟨starts, ends⟩ := List.append_inj' same rfl
      cases ends
      exact ⟨kept sight (by simp), before, pods, candidates, cpus, after, starts,
        fun sight' member => kept sight' (by simp [member])⟩
  · rintro ⟨blind, before, pods, candidates, cpus, after, rfl, kept⟩
    refine ⟨before, pods, candidates, cpus, after ++ [sight], by simp, fun sight' member => ?_⟩
    rcases List.mem_append.mp member with old | new
    · exact kept sight' old
    · exact List.mem_singleton.mp new ▸ blind

/-- A run of ticks from the start, with what each saw. The map of owned pods may change in between. -/
inductive Ticks (cfg : TickConfig) : List Sight → Sampler → Prop where
  | start : Ticks cfg [] .new
  | tick {history : List Sight} {s : Sampler} {owned : Owned} {result : Sampler × Owned}
      {events : List (Program.Event nodeSignature)} {sight : Sight} (run : Ticks cfg history s)
      (path : Program.Path (tick cfg s owned) events (.done result)) (sees : Sees cfg events sight) :
      Ticks cfg (history ++ [sight]) result.1

/-- After every run the sampler holds the baseline and nothing else. -/
theorem Ticks.keeps {cfg : TickConfig} {history : List Sight} {s : Sampler} (run : Ticks cfg history s)
    (base : Sample) : s.Keeps base ↔ Baseline history base := by
  induction run generalizing base with
  | start =>
      constructor
      · rintro ⟨sampled, -⟩
        cases sampled
      · rintro ⟨before, _, _, _, after, same, -⟩
        simp at same
  | @tick history s owned result events sight run path sees ih =>
      have leaves := (tick_leaves path sees).1
      generalize result.1 = left at leaves
      cases leaves with
      | cancelled => rw [ih, baseline_failed (by simp)]; simp
      | unlisted => rw [ih, baseline_failed (by simp)]; simp
      | uncounted pods candidates =>
          rw [baseline_failed (by simp)]
          simp [Sampler.Keeps, Sampler.forget]
      | untotalled pods candidates =>
          rw [baseline_failed (by simp)]
          simp [Sampler.Keeps, Sampler.forget]
      | @sampled pods candidates sample cpus dec decided =>
          rw [baseline_sampled]
          constructor
          · intro keeps
            exact keeps.unique ⟨rfl, rfl, rfl⟩
          · rintro rfl
            exact ⟨rfl, rfl, rfl⟩

/-- **Only sound samples reach the hysteresis**, after every run of ticks. -/
theorem sound_samples_only {cfg : TickConfig} {history : List Sight} {s : Sampler}
    (run : Ticks cfg history s) {owned : Owned} {result : Sampler × Owned}
    {events : List (Program.Event nodeSignature)}
    (path : Program.Path (tick cfg s owned) events (.done result)) :
    (∃ sight, Sees cfg events sight) ∧ ∀ sight, Sees cfg events sight →
      (∀ pods candidates sample cpus base, sight = .sampled pods candidates sample cpus →
        Baseline history base → Advances base sample cpus → ∃ util, Feeds base sample cpus util ∧
          result.1.dec = (s.dec.observe util cfg.high cfg.low).2) ∧
      ((∀ pods candidates sample cpus base, sight = .sampled pods candidates sample cpus →
        Baseline history base → ¬ Advances base sample cpus) → result.1.dec = s.dec) ∧
      Converges cfg owned result.1.dec.hot events sight.listed := by
  refine ⟨tick_sees path, fun sight sees => ?_⟩
  obtain ⟨leaves, converges⟩ := tick_leaves path sees
  refine ⟨?_, ?_, converges⟩
  · rintro pods candidates sample cpus base rfl isBase advances
    generalize result.1 = left at leaves
    cases leaves with
    | sampled _ _ decided => exact decided.advanced base ((run.keeps base).mpr isBase) advances
  · intro never
    generalize result.1 = left at leaves
    cases leaves with
    | cancelled => rfl
    | unlisted => rfl
    | uncounted => rfl
    | untotalled => rfl
    | sampled _ _ decided =>
        exact decided.unchanged fun base keeps =>
          never _ _ _ _ base rfl ((run.keeps base).mp keeps)

end

/-! ## Two ticks beside an idle pod -/

section

attribute [local instance] asciiTable Qos.containerRequests

def sampleTicks : TickConfig := ⟨⟨sampleLayout, "node-a"⟩, 0.9, 0.7⟩

/-- The sample pod, annotated idle. -/
def busyPod : Pod :=
  { samplePod with
    annotations := fun key =>
      if key = Annotations.tierKey then some Annotations.tierValueIdle else none }

/-- What is counted at first, and a second later: the pod has used 300 ms, the node 900 ms. -/
def busySample (later : Bool) : Sample :=
  if later then ⟨1900000, (∅ : Usage).insert busyPod.uid 700000, 1000000000⟩
  else ⟨1000000, (∅ : Usage).insert busyPod.uid 400000, 0⟩

/-- The node at one of these times. -/
def busyNode (later : Bool) : Handler nodeSignature Unit := fun s r =>
  match r with
  | .listCache => (.ok [busyPod], s)
  | .readFile dir name =>
      (.data (if name = "cpu.idle" then "1\n"
        else if dir = sampleTicks.layout.root then
          if later then "usage_usec 1900000\n" else "usage_usec 1000000\n"
        else if later then "usage_usec 700000\n" else "usage_usec 400000\n"), s)
  | .now => ((busySample later).taken, s)
  | r => bareNode s r

theorem busyNode_idle (later : Bool) :
    ((idlePodsUsage sampleTicks.toConfig [busyPod] ⟨[], ∅, []⟩).run (busyNode later) ()).1 =
      ⟨[busyPod], (busySample later).idle, []⟩ := by
  cases later <;> rfl

theorem busyNode_total (later : Bool) :
    ((readUsageUsec sampleTicks.layout.root).run (busyNode later) ()).1 = .ok (busySample later).total := by
  cases later <;> rfl

theorem busyNode_sees (later : Bool) (s : Sampler) :
    Sees sampleTicks ((tick sampleTicks s ∅).events (busyNode later) ())
      (.sampled [busyPod] [busyPod] (busySample later) 1) := by
  have answers := Program.forall_events (h := busyNode later)
    (P := fun event => event.2 = (busyNode later () event.1).1)
    (fun _ _ => rfl) (tick sampleTicks s ∅) ()
  obtain ⟨sight, sees⟩ := tick_sees (.of_run (busyNode later) (tick sampleTicks s ∅) ())
  generalize (tick sampleTicks s ∅).events (busyNode later) () = events at answers sees ⊢
  cases sees with
  | cancelled rest => cases answers _ (.head _)
  | unlisted err rest => cases answers ⟨.listCache, .error err⟩ (by simp)
  | @uncounted pods inspected idle inspect failed rest =>
      obtain rfl : pods = [busyPod] := Except.ok.inj (answers ⟨.listCache, .ok pods⟩ (by simp))
      have found := inspect.run_eq fun event member => answers event (by simp [member])
      rw [busyNode_idle] at found
      exact absurd (found ▸ rfl) failed
  | @untotalled pods inspected read idle err inspect counted reads rest =>
      have total := reads.run_eq fun event member => answers event (by simp [member])
      rw [busyNode_total] at total
      cases total
  | @sampled pods inspected read idle total inspect counted reads now rest cpus told =>
      obtain rfl : pods = [busyPod] := Except.ok.inj (answers ⟨.listCache, .ok pods⟩ (by simp))
      have found := inspect.run_eq fun event member => answers event (by simp [member])
      have totals := reads.run_eq fun event member => answers event (by simp [member])
      rw [busyNode_idle] at found
      rw [busyNode_total] at totals
      obtain rfl : now = (busySample later).taken := answers ⟨.now, now⟩ (by simp)
      obtain rfl := Except.ok.inj totals
      subst found
      exact .sampled inspect rfl reads _ fun n after asked => answers ⟨.numCPU, n⟩ (by simp [asked])

/-- The first tick has no baseline and decides nothing; the second one feeds the decider. -/
theorem sound_samples_only_second :
    ∃ util, Feeds (busySample false) (busySample true) 1 util ∧
      growth (busySample false).idle (busySample true).idle = 300000 ∧
      ((tick sampleTicks ((tick sampleTicks .new ∅).run (busyNode false) ()).1.1 ∅).run
          (busyNode true) ()).1.1.dec =
        (((tick sampleTicks .new ∅).run (busyNode false) ()).1.1.dec.observe util 0.9 0.7).2 := by
  have first : Ticks sampleTicks [.sampled [busyPod] [busyPod] (busySample false) 1] _ :=
    .tick .start (.of_run (busyNode false) (tick sampleTicks .new ∅) ()) (busyNode_sees false .new)
  have second := Program.Path.of_run (busyNode true)
    (tick sampleTicks ((tick sampleTicks .new ∅).run (busyNode false) ()).1.1 ∅) ()
  have isBase : Baseline [.sampled [busyPod] [busyPod] (busySample false) 1] (busySample false) :=
    ⟨[], [busyPod], [busyPod], 1, [], rfl, nofun⟩
  have grows : growth (busySample false).idle (busySample true).idle = 300000 := by decide +kernel
  have advances : Advances (busySample false) (busySample true) 1 :=
    ⟨⟨by decide +kernel, by decide +kernel⟩, by decide, by rw [grows]; decide, by decide, by decide⟩
  obtain ⟨util, feeds, fed⟩ := ((sound_samples_only first second).2 _ (busyNode_sees true _)).1 _ _ _ _ _ rfl
    isBase advances
  exact ⟨util, feeds, grows, fed⟩

end

end CpuIdle.Guard
