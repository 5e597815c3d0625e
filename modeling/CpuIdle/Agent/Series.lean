/-
# Agent.Series — the exported gauge, and what each edit of the books does to it

`Gauge` is what a scrape shows. `published` is the gauge after the series of some labels
were brought in line with the counts. The rules hold in any arena that keeps a `J` of
the gauge; each edit's rule gives the next state exactly, its counts through `lookup`.
`Keeping` is all that the edits ask for.
-/
import CpuIdle.Agent.Reconciler
import CpuIdle.Theory.Tally
import Mathlib.Tactic.Ring

namespace CpuIdle.Agent

open CpuIdle.Go CpuIdle.Kube CpuIdle.Node CpuIdle.Theory CpuIdle.Apply

set_option autoImplicit false

universe u

/-- The exported value of each series of this node. -/
abbrev Gauge := TierLabel → Option Int

/-- A series is exported while its count is positive. -/
def shown (count : Int) : Option Int := if count ≤ 0 then none else some count

theorem shown_getD (count : Int) : shown ((shown count).getD 0) = shown count := by
  unfold shown
  split
  · simp
  · simp_all

theorem shown_natCast (n : Nat) : shown n = if n = 0 then none else some (n : Int) := by
  cases n with
  | zero => rfl
  | succ n =>
      rw [shown, if_neg (by omega), if_neg (by omega)]

/-- The gauge after the series of these labels were published. -/
def published (touched : Finset TierLabel) (counts : Counts) (gauge : Gauge) : Gauge := fun label =>
  if label ∈ touched then shown ((counts.lookup label).getD 0) else gauge label

/-! ## Counting -/

theorem lookup_countLabels (delta : Int) (labels : List TierLabel) (counts : Counts)
    (label : TierLabel) : (countLabels delta labels counts).lookup label =
      if label ∈ labels then some ((counts.lookup label).getD 0 + delta * labels.count label)
      else counts.lookup label := by
  induction labels generalizing counts with
  | nil => simp [countLabels]
  | cons head rest ih =>
      have step : countLabels delta (head :: rest) counts =
          countLabels delta rest (countLabel delta counts head) := rfl
      rw [step, ih]
      by_cases same : label = head
      · subst same
        simp only [countLabel, Finmap.lookup_insert, Option.getD_some, List.mem_cons_self, if_true,
          List.count_cons_self]
        split
        · congr 1
          push_cast
          ring
        · rename_i absent
          rw [List.count_eq_zero.mpr absent]
          congr 1
          push_cast
          ring
      · have rest_count : (head :: rest).count label = rest.count label :=
          List.count_cons_of_ne (Ne.symm same)
        simp only [countLabel, Finmap.lookup_insert_of_ne _ same, List.mem_cons, same, false_or,
          rest_count]

theorem getD_countLabels (delta : Int) (labels : List TierLabel) (counts : Counts)
    (label : TierLabel) : ((countLabels delta labels counts).lookup label).getD 0 =
      (counts.lookup label).getD 0 + delta * labels.count label := by
  rw [lookup_countLabels]
  split
  · rfl
  · rename_i absent
    simp [List.count_eq_zero.mpr absent]

/-! ## Publishing -/

variable {W : Type u} {A : Arena nodeSignature W} {G : Guarantee nodeSignature W} {J : Gauge → W → Prop}

/-- The arena keeps a gauge, and what is known besides. -/
structure SeriesRule (A : Arena nodeSignature W) (G : Guarantee nodeSignature W)
    (J : Gauge → W → Prop) : Prop where
  stable : ∀ gauge, A.Stable (J gauge)
  walk : ∀ labels, A.Inert G (.rangeLabels labels)
  set : ∀ gauge w, J gauge w → ∀ node label count answer w',
    A.act w (.setPodsInTier node label count) answer w' →
      G w (.setPodsInTier node label count) answer w' ∧
        J (Function.update gauge label (some count)) w'
  delete : ∀ gauge w, J gauge w → ∀ node label answer w',
    A.act w (.deletePodsInTier node label) answer w' →
      G w (.deletePodsInTier node label) answer w' ∧ J (Function.update gauge label none) w'

theorem publishLabels_holds (rule : SeriesRule A G J) (node : String) (labels : List TierLabel)
    (counts : Counts) (gauge : Gauge) :
    Holds A G (J gauge) (publishLabels node labels counts) fun counts' w =>
      (∀ label, counts'.lookup label = published labels.toFinset counts (counts.lookup ·) label) ∧
        J (published labels.toFinset counts gauge) w := by
  induction labels generalizing counts gauge with
  | nil =>
      have same : published [].toFinset counts gauge = gauge := by
        funext label
        simp [published]
      exact .pure fun w holds => ⟨fun label => by simp [published], same.symm ▸ holds⟩
  | cons head rest ih =>
      -- what the rest publishes over the head's new entry is what the whole list publishes
      have merge : ∀ (counts' : Counts) (value : Option Int) (gauge : Gauge),
          counts'.lookup head = value → (∀ label ≠ head, counts'.lookup label = counts.lookup label) →
          value = shown ((counts.lookup head).getD 0) →
          published rest.toFinset counts' (Function.update gauge head value) =
            published (head :: rest).toFinset counts gauge := by
        intro counts' value gauge atHead others isShown
        funext label
        simp only [published, List.toFinset_cons, Finset.mem_insert]
        by_cases same : label = head
        · subst same
          simp [atHead, isShown, shown_getD]
        · simp [same, others label same]
      unfold publishLabels
      refine .ite (fun low => ?_) fun high => ?_
      · have value : none = shown ((counts.lookup head).getD 0) := by simp [shown, low]
        refine .bind (.request (rule.stable gauge) fun w holds answer w' act =>
          rule.delete gauge w holds node head answer w' act) fun _ => ?_
        refine (ih (counts.erase head) _).post fun counts' w known => ?_
        have same := merge (counts.erase head) none
        refine ⟨fun label => ?_, same gauge (Finmap.lookup_erase _ _)
          (fun _ other => Finmap.lookup_erase_ne other) value ▸ known.2⟩
        rw [known.1 label, ← same (counts.lookup ·) (Finmap.lookup_erase _ _)
          (fun _ other => Finmap.lookup_erase_ne other) value]
        congr 1
        funext label
        by_cases here : label = head
        · rw [here, Finmap.lookup_erase, Function.update_self]
        · rw [Finmap.lookup_erase_ne here, Function.update_of_ne here]
      · have present : counts.lookup head = some ((counts.lookup head).getD 0) := by
          cases found : counts.lookup head with
          | none => simp [found] at high
          | some count => simp
        have value : counts.lookup head = shown ((counts.lookup head).getD 0) := by
          rw [shown, if_neg high]
          exact present
        refine .bind (.request (rule.stable gauge) fun w holds answer w' act =>
          rule.set gauge w holds node head _ answer w' act) fun _ => ?_
        refine (ih counts _).post fun counts' w known => ?_
        have same := merge counts (counts.lookup head)
        rw [← present] at known
        refine ⟨fun label => ?_, same gauge rfl (fun _ _ => rfl) value ▸ known.2⟩
        rw [known.1 label, ← same (counts.lookup ·) rfl (fun _ _ => rfl) value,
          Function.update_eq_self]

theorem publishTierCounts_holds (rule : SeriesRule A G J) (node : String)
    (touched : Finset TierLabel) (counts : Counts) (gauge : Gauge) :
    Holds A G (J gauge) (publishTierCounts node touched counts) fun counts' w =>
      (∀ label, counts'.lookup label = published touched counts (counts.lookup ·) label) ∧
        J (published touched counts gauge) w := by
  refine .bind (.keeps (rule.stable gauge) ((rule.walk touched).keeps _)) fun order => ?_
  have walked := publishLabels_holds rule node order.val counts gauge
  rw [order.property.2] at walked
  exact walked

/-! ## The edits -/

/-- The gauge after the labels `old` of one pod became `new`. -/
def recounted (old new : List TierLabel) (counts : Counts) (gauge : Gauge) : Gauge := fun label =>
  if label ∈ old ++ new then
    shown ((counts.lookup label).getD 0 - old.count label + new.count label)
  else gauge label

@[simp] theorem recounted_nil (counts : Counts) (gauge : Gauge) :
    recounted [] [] counts gauge = gauge := by
  funext label
  simp [recounted]

theorem published_countLabels (old new : List TierLabel) (counts : Counts) (gauge : Gauge) :
    published (old ++ new).toFinset (countLabels 1 new (countLabels (-1) old counts)) gauge =
      recounted old new counts gauge := by
  funext label
  simp only [published, recounted, List.mem_toFinset, getD_countLabels]
  congr 2
  ring

theorem recount_holds (rule : SeriesRule A G J) (node : String) (old new : List TierLabel)
    (counts : Counts) (gauge : Gauge) :
    Holds A G (J gauge) (publishTierCounts node (old ++ new).toFinset
        (countLabels 1 new (countLabels (-1) old counts))) fun counts' w =>
      (∀ label, counts'.lookup label = recounted old new counts (counts.lookup ·) label) ∧
        J (recounted old new counts gauge) w := by
  refine (publishTierCounts_holds rule node _ _ gauge).post fun counts' w known => ⟨fun label => ?_, ?_⟩
  · rw [known.1 label, published_countLabels]
    unfold recounted
    split
    · rfl
    · rename_i untouched
      rw [List.mem_append, not_or] at untouched
      dsimp only
      rw [lookup_countLabels, if_neg untouched.2, lookup_countLabels, if_neg untouched.1]
  · rw [← published_countLabels]
    exact known.2

/-- The keys after `uid` took over `key`. -/
def State.rekeyed (state : State) (uid key : String) : Finmap fun _ : String => String :=
  match state.podMemberships.lookup uid with
  | some previous =>
      if previous.key ≠ key then state.podUIDByKey.erase previous.key else state.podUIDByKey
  | none => state.podUIDByKey

theorem replacePodMembership_holds (rule : SeriesRule A G J) (node : String) (state : State)
    (uid : String) (next : Membership) (gauge : Gauge) :
    Holds A G (J gauge) (replacePodMembership node state uid next) fun state' w => ∃ counts',
      state' = { state with
        podMemberships := state.podMemberships.insert uid next
        podUIDByKey := (state.rekeyed uid next.key).insert next.key uid
        podsInTierCounts := counts' } ∧
      (∀ label, counts'.lookup label = recounted (lastKnownTiers state uid) next.tiers
        state.podsInTierCounts (state.podsInTierCounts.lookup ·) label) ∧
      J (recounted (lastKnownTiers state uid) next.tiers state.podsInTierCounts gauge) w := by
  unfold replacePodMembership
  refine .bind (recount_holds rule node (lastKnownTiers state uid) next.tiers _ gauge) fun counts' => ?_
  exact .pure fun w known => ⟨counts', rfl, known⟩

/-- The keys after `uid` left. -/
def State.unkeyed (state : State) (uid : String) : Finmap fun _ : String => String :=
  match state.podMemberships.lookup uid with
  | some membership => state.podUIDByKey.erase membership.key
  | none => state.podUIDByKey

theorem erase_absent {β : Type} {m : Finmap fun _ : String => β} {k : String}
    (absent : m.lookup k = none) : m.erase k = m := by
  refine Finmap.ext_lookup fun k' => ?_
  by_cases same : k' = k
  · rw [same, Finmap.lookup_erase, absent]
  · rw [Finmap.lookup_erase_ne same]

theorem removePod_holds (rule : SeriesRule A G J) (node : String) (state : State) (uid : String)
    (gauge : Gauge) :
    Holds A G (J gauge) (removePod node state uid) fun state' w => ∃ counts',
      state' = { state with
        podMemberships := state.podMemberships.erase uid
        podUIDByKey := state.unkeyed uid
        podsInTierCounts := counts' } ∧
      (∀ label, counts'.lookup label = recounted (lastKnownTiers state uid) []
        state.podsInTierCounts (state.podsInTierCounts.lookup ·) label) ∧
      J (recounted (lastKnownTiers state uid) [] state.podsInTierCounts gauge) w := by
  unfold removePod
  cases found : state.podMemberships.lookup uid with
  | none =>
      refine .pure fun w holds => ⟨state.podsInTierCounts, ?_, ?_, ?_⟩
      · simp [erase_absent found, State.unkeyed, found]
      · simp [lastKnownTiers, found]
      · simpa [lastKnownTiers, found] using holds
  | some membership =>
      have known : lastKnownTiers state uid = membership.tiers := by simp [lastKnownTiers, found]
      have recount := recount_holds rule node membership.tiers [] state.podsInTierCounts gauge
      rw [List.append_nil] at recount
      refine .bind recount fun counts' => .pure fun w holds => ⟨counts', ?_, known.symm ▸ holds⟩
      simp [State.unkeyed, found]

/-! ## What the bookkeeper asks -/

/-- What the bookkeeper asks for: it walks maps and moves series. -/
def Keeping : Request → Prop
  | .rangeKeys _ => True
  | .rangeLabels _ => True
  | .setPodsInTier _ _ _ => True
  | .deletePodsInTier _ _ => True
  | _ => False

theorem publishTierCounts_asks (node : String) (touched : Finset TierLabel) (counts : Counts) :
    (publishTierCounts node touched counts).Asks Keeping := by
  have publishes : ∀ (labels : List TierLabel) (counts : Counts),
      (publishLabels node labels counts).Asks Keeping := by
    intro labels
    induction labels with
    | nil => exact fun _ => trivial
    | cons label rest ih =>
        intro counts
        unfold publishLabels
        exact .ite (fun _ => ⟨trivial, fun _ => ih _⟩) fun _ => ⟨trivial, fun _ => ih _⟩
  exact ⟨trivial, fun order => publishes _ _⟩

theorem removePod_asks (node : String) (state : State) (uid : String) :
    (removePod node state uid).Asks Keeping := by
  unfold removePod
  cases state.podMemberships.lookup uid with
  | none => trivial
  | some membership => exact (publishTierCounts_asks _ _ _).bind fun _ => trivial

theorem observePodIdentity_asks (node : String) (state : State) (key uid : String) :
    (observePodIdentity node state key uid).Asks Keeping := by
  unfold observePodIdentity dropReplaced
  refine .bind ?_ fun _ => trivial
  cases state.podUIDByKey.lookup key with
  | none => trivial
  | some previous => exact .ite (fun _ => (removePod_asks _ _ _).bind fun _ => trivial) fun _ => trivial

theorem setPodActual_asks (node : String) (state : State) (key : String) (pod : Pod) (snapshot : Snapshot) :
    (setPodActual node state key pod snapshot).Asks Keeping :=
  (observePodIdentity_asks _ _ _ _).bind fun _ => (publishTierCounts_asks _ _ _).bind fun _ => trivial

theorem removePodByKey_asks (node : String) (state : State) (key : String) :
    (removePodByKey node state key).Asks Keeping := by
  unfold removePodByKey
  cases state.podUIDByKey.lookup key with
  | none => trivial
  | some holder => exact (removePod_asks _ _ _).bind fun _ => trivial

end CpuIdle.Agent
