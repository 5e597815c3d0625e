/-
# Agent.Reported — which notices count as reported, and how often they are told

Over runs of `Reconcile` with any answers.

* `notices_published` — what is remembered as reported was told, in the runs where the
  cgroup neither vanishes nor gains a quota while the applier has something to tell;
* `notices_told_again` — notices are told to the same pod again only after the set of
  them changed, or the pod left the cache.
-/
import CpuIdle.Agent.Passes
import CpuIdle.Agent.Unsupported
import CpuIdle.Apply.Journal

namespace CpuIdle.Agent

open CpuIdle.Go CpuIdle.Kube CpuIdle.Node CpuIdle.Theory CpuIdle.Apply CpuIdle.Observe CpuIdle.Cgroup
  CpuIdle.Agent.Passes

set_option autoImplicit false

theorem lookup_recordPodNotice (state : State) (uid signature uid' : String) :
    (state.recordPodNotice uid signature).lastNotes.lookup uid' =
      if uid' = uid then if signature = "" then none else some signature
      else state.lastNotes.lookup uid' := by
  unfold State.recordPodNotice
  by_cases own : uid' = uid
  · subst own
    by_cases empty : signature = ""
    · simp [empty, Finmap.lookup_erase]
    · simp [empty, Finmap.lookup_insert]
  · by_cases empty : signature = ""
    · simp [empty, own, Finmap.lookup_erase_ne own]
    · simp [empty, own, Finmap.lookup_insert_of_ne _ own]

section

variable [PrintTable] [Qos.ResourceHelper] {cfg : Config}

/-! ## Runs -/

theorem PassRun.newest {pass : Pass} {passes : List Pass} {state : State}
    (run : PassRun cfg (pass :: passes) state) :
    PassRun cfg passes pass.before ∧ state = pass.after ∧ ∃ err,
      Program.Path (reconcile (.real cfg) cfg pass.before pass.key pass.resync) pass.events
        (.done (err, pass.after)) := by
  cases run with
  | pass run path => exact ⟨run, rfl, _, path⟩

theorem PassRun.drop {newer passes : List Pass} {state : State}
    (run : PassRun cfg (newer ++ passes) state) : ∃ state, PassRun cfg passes state := by
  induction newer generalizing state with
  | nil => exact ⟨state, run⟩
  | cons pass newer ih => exact ih run.newest.1

/-! ## What a pass tells a pod -/

/-- The pass told something about this UID. -/
def Pass.Tells (pass : Pass) (uid : String) : Prop := ∃ e ∈ noticesIn pass.events, e.uid = uid

/-- The Event of this notice was emitted for this UID. -/
def Pass.Publishes (pass : Pass) (uid : String) (notice : Notice) : Prop :=
  ∃ pod, pod.uid = uid ∧ notice.event pod ∈ noticesIn pass.events

omit [PrintTable] [Qos.ResourceHelper] in
theorem Notice.event_uid (pod : Pod) (notice : Notice) : (notice.event pod).uid = pod.uid := by
  cases notice with
  | note told =>
      by_cases unknown : told.code = Tier.noteUnknownTierValue
      · simp [Notice.event, unknown, podEvent]
      · simp [Notice.event, unknown, podEvent]
  | cgroupQuotaMissing => rfl

/-- Only about the pod itself. -/
theorem Passes.Told.uid {allowed : (r : Request) → Answer r → Prop} {dir : String} {pod : Pod}
    {report : Bool} {err : Option GoError} {told : List Event}
    (ended : Told allowed dir pod report err told) : ∀ e ∈ told, e.uid = pod.uid := by
  intro e member
  cases ended with
  | told _ snapshot _ =>
      obtain ⟨notice, -, rfl⟩ := List.mem_map.mp member
      exact notice.event_uid pod
  | _ => cases member

theorem Passes.Noted.uid {resync : Bool} {pod : Pod} {dir : String} {snapshot : Snapshot} {state : State}
    {events : List (Program.Event nodeSignature)} {notes : Finmap fun _ : String => String}
    (own : DirOf cfg pod dir) (noted : Noted cfg resync pod snapshot state events notes) :
    ∀ e ∈ noticesIn events, e.uid = pod.uid := by
  intro e member
  cases noted with
  | kept silent =>
      rw [silent] at member
      cases member
  | known silent _ =>
      rw [silent] at member
      cases member
  | reported path _ _ silent =>
      have told := (callApplier_tells (fun _ _ => True) cfg resync own snapshot
        (assess state.pending pod snapshot) true).logged_allowed rfl path fun _ _ => trivial
      rw [noticesIn_record] at told
      rw [noticesIn_append, silent, List.append_nil] at member
      exact told.uid e member

/-! ## Told again -/

/-- While these are the notices of the pod and it stays in the cache, it hears nothing. -/
theorem notes_stay {pass : Pass} {err : Option GoError} {pod : Pod} {snapshot : Snapshot}
    (path : Program.Path (reconcile (.real cfg) cfg pass.before pass.key pass.resync) pass.events
      (.done (err, pass.after)))
    (some : noticesFor pod snapshot ≠ [])
    (stored : pass.before.lastNotes.lookup pod.uid = .some (noticeSignature pod snapshot))
    (stays : ¬ pass.Loses pod.uid)
    (same : ∀ notices, pass.Shows cfg pod.uid notices → notices = noticesFor pod snapshot) :
    pass.after.lastNotes.lookup pod.uid = .some (noticeSignature pod snapshot) ∧ ¬ pass.Tells pod.uid := by
  have keeps : ∀ {state : State}, pass.Keeps state →
      state.lastNotes.lookup pod.uid = .some (noticeSignature pod snapshot) := fun kept =>
    ((kept pod.uid).resolve_right fun lost => stays lost.2).trans stored
  have signed : noticeSignature pod snapshot ≠ "" := fun empty => some (noticesFor_eq_nil.mpr empty)
  rcases pass_noted path with ⟨silent, kept⟩ | ⟨pod', dir, snapshot', state, seen, later, located, own, silent,
      kept, noted⟩
  · refine ⟨keeps kept, ?_⟩
    rintro ⟨e, member, -⟩
    rw [silent] at member
    cases member
  have before := keeps kept
  have heard : noticesIn pass.events = noticesIn later := by
    rw [located.events, noticesIn_append, silent, List.nil_append]
  rw [Pass.Tells, heard]
  by_cases about : pod'.uid = pod.uid
  · have signature : noticeSignature pod' snapshot' = noticeSignature pod snapshot :=
      noticesFor_congr.mp (same _ ⟨pod', dir, snapshot', state, seen, later, located, about, rfl⟩)
    revert noted
    generalize pass.after.lastNotes = notes
    intro noted
    cases noted with
    | kept silent => exact ⟨before, by simp [silent]⟩
    | known silent _ =>
        refine ⟨?_, by simp [silent]⟩
        rw [lookup_recordPodNotice, if_pos about.symm, signature, if_neg signed]
    | reported _ _ new _ =>
        rw [State.podNoticeNeedsReport, about, signature, before] at new
        simp at new
  · refine ⟨?_, fun told => ?_⟩
    case refine_2 =>
      obtain ⟨e, member, uid⟩ := told
      exact about ((noted.uid own e member).symm.trans uid)
    revert noted
    generalize pass.after.lastNotes = notes
    intro noted
    have other : pod.uid ≠ pod'.uid := Ne.symm about
    cases noted with
    | kept => exact before
    | known | reported => rw [lookup_recordPodNotice, if_neg other, before]

/-- A pass that tells something about a pod remembers all its notices. -/
theorem tells_remembers {pass : Pass} {err : Option GoError} {uid : String}
    (path : Program.Path (reconcile (.real cfg) cfg pass.before pass.key pass.resync) pass.events
      (.done (err, pass.after))) (tells : pass.Tells uid) :
    ∃ pod snapshot, pod.uid = uid ∧ pass.Shows cfg uid (noticesFor pod snapshot) ∧
      noticesFor pod snapshot ≠ [] ∧
      pass.after.lastNotes.lookup uid = some (noticeSignature pod snapshot) := by
  obtain ⟨e, member, uid⟩ := tells
  rcases pass_noted path with ⟨silent, -⟩ | ⟨pod, dir, snapshot, state, seen, later, located, own, silent,
      -, noted⟩
  · rw [silent] at member
    cases member
  rw [located.events, noticesIn_append, silent, List.nil_append] at member
  have about : pod.uid = e.uid := (noted.uid own e member).symm
  refine ⟨pod, snapshot, about.trans uid,
    ⟨pod, dir, snapshot, state, seen, later, located, about.trans uid, rfl⟩, ?_⟩
  revert noted
  generalize pass.after.lastNotes = notes
  intro noted
  cases noted with
  | kept silent =>
      rw [silent] at member
      cases member
  | known silent _ =>
      rw [silent] at member
      cases member
  | reported _ some _ _ =>
      refine ⟨some, ?_⟩
      have signed : noticeSignature pod snapshot ≠ "" := fun empty => some (noticesFor_eq_nil.mpr empty)
      rw [lookup_recordPodNotice, if_pos (uid.symm.trans about.symm), if_neg signed]

/-- **Notices are told again** only after a pass that showed other notices of the pod, or in which
the cache was without it. -/
theorem notices_told_again {passes newer between older : List Pass} {first second : Pass} {state : State}
    (run : PassRun cfg passes state) (split : passes = newer ++ second :: (between ++ first :: older))
    {uid : String} (once : first.Tells uid) (again : second.Tells uid) :
    ∃ notices, first.Shows cfg uid notices ∧
      ∃ pass ∈ second :: between, pass.Loses uid ∨ ∃ others, pass.Shows cfg uid others ∧ others ≠ notices := by
  subst split
  obtain ⟨_, late⟩ := run.drop
  obtain ⟨run, -, _, latest⟩ := late.newest
  obtain ⟨_, early⟩ := run.drop
  obtain ⟨-, -, _, earliest⟩ := early.newest
  obtain ⟨pod, snapshot, rfl, shows, some, stored⟩ := tells_remembers earliest once
  refine ⟨noticesFor pod snapshot, shows, ?_⟩
  by_contra never
  push Not at never
  have stays : ∀ between, (∀ pass ∈ between, ¬ pass.Loses pod.uid ∧
      ∀ notices, pass.Shows cfg pod.uid notices → notices = noticesFor pod snapshot) →
      ∀ state, PassRun cfg (between ++ first :: older) state →
        state.lastNotes.lookup pod.uid = .some (noticeSignature pod snapshot) := by
    intro between quiet
    induction between with
    | nil =>
        intro state run
        rw [run.newest.2.1, stored]
    | cons pass between ih =>
        intro state run
        obtain ⟨onward, rfl, _, path⟩ := run.newest
        have before := ih (fun later member => quiet later (by simp [member])) _ onward
        obtain ⟨present, same⟩ := quiet pass (by simp)
        exact (notes_stay path some before present same).1
  have before := stays between (fun pass member => never pass (by simp [member])) _ run
  obtain ⟨present, same⟩ := never second (by simp)
  exact (notes_stay latest some before present same).2 again

/-! ## What is remembered was told -/

/-- While the applier has something new to tell, neither does the cgroup vanish under it, nor does
its own look show a quota where the pass saw none. -/
def Pass.Undisturbed (cfg : Config) (pass : Pass) : Prop :=
  ∀ pod dir snapshot acted, pass.Reports cfg pod dir snapshot acted →
    ⟨.stat dir, StatResult.notExist⟩ ∉ acted ∧
      (actualBurstUnavailable (Tier.desired pod).1 snapshot = true →
        ∀ content, ⟨.readFile dir knobCPUMax, ReadResult.data content⟩ ∈ acted →
          ∀ quota, parseCPUMaxQuota (trimSpace content) ≠ .ok (some quota))

/-- Without a quota everything of the pass is told, whatever else the applier's look showed. -/
theorem noticesFor_subset {pod : Pod} {snapshot snapshot' : Snapshot}
    (unserved : actualBurstUnavailable (Tier.desired pod).1 snapshot = true → snapshot'.quota = none) :
    noticesFor pod snapshot ⊆ noticesFor pod snapshot' := by
  intro notice member
  rcases List.mem_append.mp member with note | quota
  · exact List.mem_append_left _ note
  · refine List.mem_append_right _ ?_
    split at quota
    · rename_i missing
      have same : actualBurstUnavailable (Tier.desired pod).1 snapshot' = true := by
        have active := missing
        simp only [actualBurstUnavailable, Bool.and_eq_true] at active ⊢
        exact ⟨active.1, by simp [Snapshot.hasQuota, unserved missing]⟩
      rwa [if_pos same]
    · cases quota

/-- An undisturbed call of the applier that returned nil told everything. -/
theorem reports_publish {pass : Pass} {pod : Pod} {dir : String} {snapshot : Snapshot} {state : State}
    {seen acted rest : List (Program.Event nodeSignature)} {pending : Pending} (own : DirOf cfg pod dir)
    (undisturbed : pass.Undisturbed cfg) (located : pass.Located cfg pod dir snapshot state seen (acted ++ rest))
    (path : Program.Path (callApplier (.real cfg) cfg pass.resync pod snapshot
      (assess state.pending pod snapshot) true) acted (.done (none, pending)))
    (some : noticesFor pod snapshot ≠ [])
    (new : state.podNoticeNeedsReport pod.uid (noticeSignature pod snapshot) = true) :
    ∀ notice ∈ noticesFor pod snapshot, pass.Publishes pod.uid notice := by
  obtain ⟨present, unserved⟩ :=
    undisturbed pod dir snapshot acted ⟨state, seen, rest, _, located, path, some, new⟩
  have told := (callApplier_tells (fun r answer => ⟨r, answer⟩ ∈ acted) cfg pass.resync own
    snapshot (assess state.pending pod snapshot) true).logged_allowed rfl path fun _ member => member
  rw [noticesIn_record, Bool.and_true, (hasNotice_eq state.pending pod snapshot).mpr some] at told
  intro notice member
  have heard : noticesIn acted ⊆ noticesIn pass.events := by
    rw [located.events, noticesIn_append, noticesIn_append]
    exact fun e told => List.mem_append_right _ (List.mem_append_left _ told)
  refine ⟨pod, rfl, heard ?_⟩
  revert told
  generalize noticesIn acted = events
  intro told
  cases told with
  | unasked silent => cases silent
  | vanished gone => exact absurd gone present
  | told _ snapshot' shown =>
      obtain ⟨content, read, parsed⟩ := shown
      refine List.mem_map_of_mem (noticesFor_subset (fun missing => ?_) member)
      cases quota : snapshot'.quota with
      | none => rfl
      | some amount => exact absurd (quota ▸ parsed) (unserved missing content read amount)

/-- Everything `signature` encodes was published by one pass, and is remembered since. -/
def Remembered (passes : List Pass) (uid signature : String) : Prop :=
  ∃ newer pass older, passes = newer ++ pass :: older ∧
    (∀ pod snapshot, noticeSignature pod snapshot = signature →
      ∀ notice ∈ noticesFor pod snapshot, pass.Publishes uid notice) ∧
    ∀ later ∈ newer ++ [pass], later.after.lastNotes.lookup uid = some signature

theorem Remembered.later {pass : Pass} {passes : List Pass} {uid signature : String}
    (remembered : Remembered passes uid signature)
    (still : pass.after.lastNotes.lookup uid = some signature) : Remembered (pass :: passes) uid signature := by
  obtain ⟨newer, first, older, rfl, published, since⟩ := remembered
  refine ⟨pass :: newer, first, older, rfl, published, fun later member => ?_⟩
  rcases List.mem_cons.mp member with rfl | member
  · exact still
  · exact since later member

/-- **What counts as reported was told**: by one pass, since when it has been remembered without a
break. -/
theorem notices_published {passes : List Pass} {state : State} (run : PassRun cfg passes state)
    (undisturbed : ∀ pass ∈ passes, pass.Undisturbed cfg) {uid signature : String}
    (stored : state.lastNotes.lookup uid = some signature) : Remembered passes uid signature := by
  induction run with
  | start => simp [State.new] at stored
  | @pass passes before after key resync events err run path ih =>
      have earlier := fun stored => ih (fun pass member => undisturbed pass (by simp [member])) stored
      have own := undisturbed ⟨key, resync, before, events, after⟩ (by simp)
      have kept : ∀ {state : State}, Pass.Keeps ⟨key, resync, before, events, after⟩ state →
          state.lastNotes.lookup uid = some signature →
          Remembered (⟨key, resync, before, events, after⟩ :: passes) uid signature := by
        intro state keeps remembered
        rcases keeps uid with same | ⟨gone, -⟩
        · exact (earlier (same.symm.trans remembered)).later stored
        · rw [gone] at remembered
          cases remembered
      let newest : Pass := ⟨key, resync, before, events, after⟩
      have newestPath : Program.Path (reconcile (.real cfg) cfg newest.before newest.key newest.resync)
        newest.events (.done (err, newest.after)) := path
      rcases pass_noted newestPath with ⟨-, keeps⟩ |
        ⟨pod, dir, snapshot, state, seen, later, located, dirOf, -, keeps, noted⟩
      · exact kept keeps stored
      have other : pod.uid ≠ uid → after.lastNotes =
          (state.recordPodNotice pod.uid (noticeSignature pod snapshot)).lastNotes →
          state.lastNotes.lookup uid = some signature := by
        intro other notes
        rw [notes, lookup_recordPodNotice, if_neg (Ne.symm other)] at stored
        exact stored
      have about : pod.uid = uid → after.lastNotes =
          (state.recordPodNotice pod.uid (noticeSignature pod snapshot)).lastNotes →
          noticeSignature pod snapshot ≠ "" ∧ signature = noticeSignature pod snapshot := by
        intro own notes
        rw [notes, lookup_recordPodNotice, if_pos own.symm] at stored
        split at stored
        · cases stored
        · rename_i signed
          exact ⟨signed, (Option.some.inj stored).symm⟩
      generalize notes : after.lastNotes = remembered at noted
      cases noted with
      | kept => exact kept keeps (notes ▸ stored)
      | known _ known =>
          refine kept keeps ?_
          by_cases same : pod.uid = uid
          · obtain ⟨signed, rfl⟩ := about same notes
            exact same ▸ known.resolve_left signed
          · exact other same notes
      | @reported acted rest pending path some new _ =>
          by_cases same : pod.uid = uid
          · obtain ⟨-, rfl⟩ := about same notes
            have published := reports_publish dirOf own located path some new
            refine ⟨[], _, passes, rfl, fun pod' snapshot' encodes => ?_, fun later member => ?_⟩
            · rw [noticesFor_congr.mpr encodes, ← same]
              exact published
            · rw [List.mem_singleton.mp member]
              exact stored
          · exact kept keeps (other same notes)

end

/-! ## Sample runs -/

section

attribute [local instance] asciiTable Qos.containerRequests

/-- The cache holds this pod, and nobody touches its cgroup. -/
def restingNode (pod : Pod) : Handler nodeSignature Unit := fun s r =>
  match r with
  | .getCache _ _ => (.found pod, s)
  | .listCache => (.ok [pod], s)
  | .readFile _ name => (match Journal.resetCgroup.content name with
      | some text => .data text
      | none => .notExist, s)
  | r => bareNode s r

/-- The same, but its ninth look at a file finds the directory gone for a moment. -/
def flickeringNode (pod : Pod) : Handler nodeSignature Nat := fun reads r =>
  match r with
  | .readFile dir name =>
      (if reads = 8 then .notExist else (restingNode pod () (.readFile dir name)).1, reads + 1)
  | .stat _ => (.notExist, reads)
  | r => ((restingNode pod () r).1, reads)

/-- A pass over the sample pod. -/
def passOver {σ : Type} (h : Handler nodeSignature σ) (s : σ) (before : State) : Pass :=
  let call := reconcile (.real Journal.sampleConfig) Journal.sampleConfig before "default/web" false
  ⟨"default/web", false, before, call.events h s, (call.run h s).1.2⟩

theorem passOver_run {σ : Type} (h : Handler nodeSignature σ) (s : σ) {passes : List Pass} {state : State}
    (run : PassRun Journal.sampleConfig passes state) :
    PassRun Journal.sampleConfig (passOver h s state :: passes) (passOver h s state).after :=
  .pass run (.of_run h _ s)

/-! ### The cgroup is gone for a moment -/

/-- A pod that asks for burst without a CPU limit. -/
def burstPod : Pod := restlessPod ""

/-- The signature that its burst is inactive. -/
def burstSignature : String := noticeSignature burstPod Journal.resetCgroup.snapshot

/-- The applier's own look finds no directory; before and after it is there. -/
def flickeringPass : Pass := passOver (flickeringNode burstPod) 0 .new

/-- The next pass, with everything in place. -/
def deafPass : Pass := passOver (restingNode burstPod) () flickeringPass.after

/-- The first pass remembers the notice although nothing was told, and because of that the second
one tells nothing either. -/
theorem notice_lost :
    PassRun Journal.sampleConfig [deafPass, flickeringPass] deafPass.after ∧ burstSignature ≠ "" ∧
      flickeringPass.after.lastNotes.lookup burstPod.uid = some burstSignature ∧
      deafPass.after.lastNotes.lookup burstPod.uid = some burstSignature ∧
      toldIn flickeringPass.events = [] ∧ toldIn deafPass.events = [] :=
  ⟨passOver_run _ _ (passOver_run _ _ .start), by decide +kernel⟩

/-- Nothing a resting node answers disturbs a pass. -/
theorem restingNode_undisturbed (pod : Pod) (before : State) :
    (passOver (restingNode pod) () before).Undisturbed Journal.sampleConfig := by
  have answers : ∀ event ∈ (passOver (restingNode pod) () before).events, ∃ s, event.2 =
      (restingNode pod s event.1).1 :=
    Program.forall_events (P := fun event => ∃ s, event.2 = (restingNode pod s event.1).1)
      (fun s r => ⟨s, rfl⟩) _ ()
  rintro pod' dir snapshot acted ⟨state, seen, rest, result, located, -, -, -⟩
  have within : ∀ event ∈ acted, event ∈ (passOver (restingNode pod) () before).events :=
    fun event member => by
      rw [located.events]
      exact List.mem_append_right _ (List.mem_append_left _ member)
  refine ⟨fun gone => ?_, fun _ content read quota parsed => ?_⟩
  · obtain ⟨s, answered⟩ := answers _ (within _ gone)
    cases answered
  · obtain ⟨s, answered⟩ := answers _ (within _ read)
    have shown : content = "max 100000\n" := ReadResult.data.inj answered
    have none : parseCPUMaxQuota (trimSpace "max 100000\n") = .ok none := by decide +kernel
    rw [shown, none] at parsed
    cases parsed

/-- On an untouched cgroup it is told. -/
theorem notices_published_resting :
    Remembered [passOver (restingNode burstPod) () .new] burstPod.uid burstSignature := by
  refine notices_published (passOver_run _ _ .start) (fun pass member => ?_)
    (by decide +kernel)
  rw [List.mem_singleton.mp member]
  exact restingNode_undisturbed burstPod .new

/-! ### A tier that keeps changing -/

def turboPass : Pass := passOver (restingNode (restlessPod "turbo")) () .new

/-- The tier has changed from one unknown value to another, the cgroup has not. -/
def futurePass : Pass := passOver (restingNode (restlessPod "future")) () turboPass.after

theorem futurePass_run : PassRun Journal.sampleConfig [futurePass, turboPass] futurePass.after :=
  passOver_run _ _ (passOver_run _ _ .start)

/-- The notice that there is no CPU limit. -/
def limitMissing : Notice := .note ⟨Tier.noteNoCPULimit,
  "annotation cpu.azalio.net/burst present but pod has no positive CPU limit; burst tier is inactive"⟩

theorem restless_publish : turboPass.Publishes samplePod.uid limitMissing ∧
    futurePass.Publishes samplePod.uid limitMissing := by
  have told : limitMissing.event (restlessPod "turbo") ∈ noticesIn turboPass.events ∧
      limitMissing.event (restlessPod "future") ∈ noticesIn futurePass.events := by decide +kernel
  exact ⟨⟨_, rfl, told.1⟩, ⟨_, rfl, told.2⟩⟩

/-- Two passes, one right after the other, with the limit missing in both, and both tell it. -/
theorem limit_told_twice :
    PassRun Journal.sampleConfig [futurePass, turboPass] futurePass.after ∧
      limitMissing ∈ noticesFor (restlessPod "turbo") Journal.resetCgroup.snapshot ∧
      limitMissing ∈ noticesFor (restlessPod "future") Journal.resetCgroup.snapshot ∧
      turboPass.Publishes samplePod.uid limitMissing ∧ futurePass.Publishes samplePod.uid limitMissing := by
  have missing : limitMissing ∈ noticesFor (restlessPod "turbo") Journal.resetCgroup.snapshot ∧
      limitMissing ∈ noticesFor (restlessPod "future") Journal.resetCgroup.snapshot := by decide +kernel
  exact ⟨futurePass_run, missing.1, missing.2, restless_publish⟩

theorem Pass.Publishes.tells {pass : Pass} {uid : String} {notice : Notice}
    (publishes : pass.Publishes uid notice) : pass.Tells uid := by
  obtain ⟨pod, rfl, told⟩ := publishes
  exact ⟨_, told, notice.event_uid pod⟩

/-- Its notices had changed in between. -/
theorem notices_told_again_restless :
    ∃ notices, turboPass.Shows Journal.sampleConfig samplePod.uid notices ∧
      ∃ pass ∈ [futurePass], pass.Loses samplePod.uid ∨
        ∃ others, pass.Shows Journal.sampleConfig samplePod.uid others ∧ others ≠ notices :=
  notices_told_again futurePass_run (rfl : _ = [] ++ futurePass :: ([] ++ turboPass :: []))
    restless_publish.1.tells restless_publish.2.tells

end

end CpuIdle.Agent
