import RateHerald.Proofs.Office.Calls
import RateHerald.Proofs.Office.Outages

/-!
# What a herald has served

A herald opens and is then called again and again, to tell a rate or to mail it. Between calls time
passes, and others may do with the disk and the world what they like. A history carries two things
along that the herald does not keep: the list of all services that were done by the deadlines of
their calls, with their success, and the number of questions that were put. The tally and the number
of published events agree with both at every point of every history, because every call adds to both
what it adds to the herald. For the same reason the listeners stay those who were registered at
first, so calls can fail as foreseen only.

## Main declarations

* `Herald.Served`: the histories of a herald.
* `Herald.Served.inOrder`: who listens, what is counted and what was published.
* `Herald.failures_of_served`: how calls fail.
* `Herald.books_of_served`: what the books say.
-/

namespace RateHerald

variable {W : Type}

/-! ## Failures of the bus -/

/-- The failure tells that events or channels were not used as they should be. -/
inductive BusError.IsInternal : BusError → Prop where
  /-- An event was given to somebody whom it is not for. -/
  | invalidEvent (expected : String) (actual : Kind) : IsInternal (.invalidEvent expected actual)
  /-- There was no channel for an answer. -/
  | noChannel : IsInternal .noChannel
  /-- A channel had no room for an answer. -/
  | channelFull : IsInternal .channelFull

theorem BusError.IsForeseen.not_isInternal {topic : Pair} {e : BusError} (h : e.IsForeseen topic) :
    ∀ inner ∈ e.flatten, ¬inner.IsInternal := by
  intro inner hinner hinternal
  cases h
  all_goals
    simp only [flatten, flattenAll, List.append_nil, List.mem_cons, List.not_mem_nil, or_false]
      at hinner
    rcases hinner with rfl | rfl
    all_goals cases hinternal

namespace Herald

/-! ## Histories -/

/-- The histories of a herald up to a moment: the services that were done by the deadlines of their
calls, with their success, and the number of questions that were put. -/
inductive Served (h : Herald W) : Moment → HeraldHub W → List (String × Bool) → Nat → Prop where
  /-- The herald opens. -/
  | opens (m : Moment) (disk : Disk) (world : W) : Served h m (h.openingHub disk world) [] 0
  /-- Time passes, and others change the disk and the world. -/
  | meanwhile {m m' : Moment} {hub : HeraldHub W} {outcomes : List (String × Bool)} {asks : Nat}
    (hserved : Served h m hub outcomes asks) (hle : m ≤ m') (disk : Disk) (world : W) :
    Served h m' (Office.diskPart.set disk (Office.worldPart.set world hub)) outcomes asks
  /-- The herald is called to tell a rate. -/
  | requestRate {m m' : Moment} {hub hub' : HeraldHub W} {outcomes : List (String × Bool)}
    {asks : Nat} (hserved : Served h m hub outcomes asks) {topic : Pair}
    {answer : Except NotifyError Float}
    (hends : (h.notifier.requestRate topic).Ends m hub answer m' hub') :
    Served h m' hub' (outcomes ++ h.attempts topic m hub.outside.world) (asks + 1)
  /-- The herald is called to mail a rate. -/
  | sendMails {m m' : Moment} {hub hub' : HeraldHub W} {outcomes : List (String × Bool)}
    {asks : Nat} (hserved : Served h m hub outcomes asks) {topic : Pair}
    {answer : Except NotifyError Nat}
    (hends : (h.notifier.sendMails topic).Ends m hub answer m' hub') :
    Served h m' hub' (outcomes ++ h.attempts topic m hub.outside.world)
      (asks + h.asksOfMails topic m hub.outside.world)

/-- A hub is in order: those listen who were registered at first, the tally counts the outcomes, and
every outcome and every question was published. -/
structure IsInOrder (outcomes : List (String × Bool)) (asks : Nat) (hub : HeraldHub W) : Prop where
  /-- Who listens. -/
  staffed : Office.IsStaffed hub
  /-- What is counted. -/
  tally : hub.outside.tally.Matches outcomes
  /-- What was published. -/
  published : (hub.bus Hub.mainBus).published = asks + outcomes.length

variable {h : Herald W} {hub hub' : HeraldHub W} {outcomes more : List (String × Bool)}
  {asks asks' : Nat} {m : Moment}

theorem isInOrder_openingHub (h : Herald W) (disk : Disk) (world : W) :
    IsInOrder [] 0 (h.openingHub disk world) where
  staffed := Office.isStaffed_register _ _
  tally := Tally.matches_empty
  published := rfl

theorem IsInOrder.of_records (horder : IsInOrder outcomes asks hub)
    (hrecords : Office.Records more asks' hub hub') :
    IsInOrder (outcomes ++ more) (asks + asks') hub' := by
  constructor
  · exact horder.staffed.of_records hrecords
  · rw [hrecords.tally]
    exact horder.tally.addAll more
  · rw [hrecords.published, horder.published, List.length_append]
    omega

theorem records_meanwhile (disk : Disk) (world : W) :
    Office.Records [] 0 hub (Office.diskPart.set disk (Office.worldPart.set world hub)) :=
  .of_same rfl rfl

variable {settings : Settings} {outside : Outside W}

/-- At every point of a history the hub is in order. -/
theorem Served.inOrder (hopen : open? settings outside = .ok h) (hsleeps : outside.OnlySleeps)
    (hserved : h.Served m hub outcomes asks) : IsInOrder outcomes asks hub := by
  obtain ⟨haccepted, rfl, rfl⟩ := of_open? hopen
  have htimeout := Nat.lt_of_lt_of_le haccepted.httpTimeout haccepted.timeouts
  induction hserved with
  | opens m disk world => exact isInOrder_openingHub h disk world
  | meanwhile hserved hle disk world ih =>
    have horder := ih.of_records (records_meanwhile disk world)
    rwa [List.append_nil] at horder
  | requestRate hserved hends ih =>
    exact ih.of_records
      (call_requestRate hsleeps haccepted.enabled htimeout ih.staffed hends).records
  | sendMails hserved hends ih =>
    exact ih.of_records (call_sendMails hsleeps haccepted.enabled htimeout ih.staffed hends).records

/-! ## Main results -/

/-- Whatever the services, the disk and the mailer do, and however often a herald was called before,
a call fails only as foreseen: nothing is missing in an answer, and a failure of the bus does not
come from events or channels that were not used as they should be. -/
theorem failures_of_served (hopen : open? settings outside = .ok h) (hsleeps : outside.OnlySleeps)
    (hserved : h.Served m hub outcomes asks) (topic : Pair) {e : NotifyError} {m' : Moment}
    {hub' : HeraldHub W}
    (hfails : (h.notifier.requestRate topic).Ends m hub (.error e) m' hub' ∨
      (h.notifier.sendMails topic).Ends m hub (.error e) m' hub') :
    (∀ what, e ≠ .missing what) ∧
    ∀ cause, e = .bus cause →
      (∀ inner ∈ cause.flatten, ¬inner.IsInternal) ∧ cause.IsForeseen topic := by
  have horder := hserved.inOrder hopen hsleeps
  obtain ⟨haccepted, rfl, rfl⟩ := of_open? hopen
  have htimeout := Nat.lt_of_lt_of_le haccepted.httpTimeout haccepted.timeouts
  have hforeseen : e.IsForeseen topic := by
    rcases hfails with hends | hends
    · exact (call_requestRate hsleeps haccepted.enabled htimeout horder.staffed hends).foreseen e rfl
    · exact (call_sendMails hsleeps haccepted.enabled htimeout horder.staffed hends).foreseen e rfl
  constructor
  · rintro what rfl
    cases hforeseen
  · rintro cause rfl
    obtain ⟨⟩ | ⟨⟩ | ⟨⟩ | ⟨hcause⟩ := hforeseen
    exact ⟨hcause.not_isInternal, hcause⟩

/-- With three more tries at each service, where the first of five services hangs: the second call
of two runs into its deadline like the first one. -/
theorem failures_of_served_stalled :
    ∃ m hub outcomes m' hub', (stalled 3).Served m hub outcomes 1 ∧
      ((stalled 3).notifier.requestRate (Pair.ofTexts "btc" "uah")).Ends m hub
        (.error (.bus (.timeout [.rateResponded]))) m' hub' ∧
      (∀ inner ∈ (BusError.timeout [.rateResponded]).flatten, ¬inner.IsInternal) ∧
      BusError.IsForeseen (Pair.ofTexts "btc" "uah") (.timeout [.rateResponded]) := by
  have hsleeps := Script.stalled.onlySleeps_outside (fun _ => .done (.ok ())) (.done ⟨0, 0⟩)
  have hopens := Served.opens (h := stalled 3) Moment.start Disk.empty ⟨(), []⟩
  obtain ⟨hub, hfirst⟩ := ends_requestRate_stalled
    (isStaffed_openingHub (stalled 3) Disk.empty ⟨(), []⟩)
    (by decide : Moment.start.deadline? 15000 = some ⟨15000, 0⟩)
  have hserved := hopens.requestRate hfirst
  obtain ⟨hub', hsecond⟩ := ends_requestRate_stalled
    (hserved.inOrder (open_stalled 3) hsleeps).staffed
    (by decide : Moment.deadline? ⟨15000, 0⟩ 15000 = some ⟨30000, 0⟩)
  obtain ⟨-, hbus⟩ := failures_of_served (open_stalled 3) hsleeps hserved
    (Pair.ofTexts "btc" "uah") (.inl hsecond)
  exact ⟨_, hub, _, _, hub', hserved, hsecond, hbus _ rfl⟩

/-- At every point of a history the counts of a service are the numbers of its successes and
failures, those are listed who were done at least once, and what was published are the questions and
all that is counted. -/
theorem books_of_served (hopen : open? settings outside = .ok h) (hsleeps : outside.OnlySleeps)
    (hserved : h.Served m hub outcomes asks) :
    (∀ p, hub.outside.tally.get p = ⟨outcomes.count (p, true), outcomes.count (p, false)⟩) ∧
    (hub.outside.tally.entries.map Prod.fst).Nodup ∧
    (∀ p, p ∈ hub.outside.tally.entries.map Prod.fst ↔ ∃ success, (p, success) ∈ outcomes) ∧
    (∀ p counts, (p, counts) ∈ hub.outside.tally.entries → hub.outside.tally.get p = counts) ∧
    (hub.bus Hub.mainBus).published =
      asks + (hub.outside.tally.entries.map fun e => e.2.fetched + e.2.failed).sum := by
  obtain ⟨-, htally, hpublished⟩ := hserved.inOrder hopen hsleeps
  refine ⟨htally.get, htally.ordered.nodup, htally.names, ?_, ?_⟩
  · intro p counts hmem
    exact Tally.get_of_mem htally.ordered hmem
  · rw [hpublished, htally.sum]

/-- With the standard settings, where the first of five services hangs: after one call the first one
has failed and the second one has given a rate, and nobody else was asked. -/
theorem books_of_served_stalled :
    ∃ m hub, (stalled 0).Served m hub [("exchangeratehost", false), ("ninjas", true)] 1 ∧
      hub.outside.tally.get "exchangeratehost" = ⟨0, 1⟩ ∧
      hub.outside.tally.get "ninjas" = ⟨1, 0⟩ ∧ hub.outside.tally.get "coinapi" = ⟨0, 0⟩ ∧
      (hub.bus Hub.mainBus).published =
        1 + (hub.outside.tally.entries.map fun e => e.2.fetched + e.2.failed).sum := by
  have hsleeps := Script.stalled.onlySleeps_outside (fun _ => .done (.ok ())) (.done ⟨0, 0⟩)
  have hopens := Served.opens (h := stalled 0) Moment.start Disk.empty ⟨(), []⟩
  obtain ⟨hung, others, henabled, hothers, hcan, hhangs, hanswers⟩ :=
    Script.exists_hangs_of_isStalled Script.isStalled_standard (stalled 0).settings.httpTimeout.ms
  obtain ⟨waits, rate, w, hlength, -, hwalk⟩ := Script.walk_of_hangs Script.drawsScale_stalled
    hhangs hcan hanswers hothers ⟨Moment.start, ⟨(), []⟩⟩
  obtain rfl : waits = [] := List.eq_nil_of_length_eq_zero hlength
  have hintime : Moment.start.after 5000 ≤ Moment.start.after 15000 := by decide
  obtain ⟨hub, hends, -⟩ := ends_requestRate_of_rate (open_stalled 0) validate_stalledPair
    (isStaffed_openingHub (stalled 0) Disk.empty ⟨(), []⟩)
    (by decide : Moment.start.deadline? 15000 = some (Moment.start.after 15000)) (henabled ▸ hwalk)
    hintime
  have hserved := hopens.requestRate hends
  have hattempts : (stalled 0).attempts (Pair.ofTexts "btc" "uah") Moment.start ⟨(), []⟩ =
      [("exchangeratehost", false), ("ninjas", true)] := by
    decide +kernel
  change (stalled 0).Served _ hub ([] ++ (stalled 0).attempts _ _ ⟨(), []⟩) 1 at hserved
  rw [hattempts] at hserved
  obtain ⟨hget, -, -, -, hpublished⟩ := books_of_served (open_stalled 0) hsleeps hserved
  refine ⟨_, hub, hserved, ?_, ?_, ?_, hpublished⟩
  · exact hget "exchangeratehost"
  · exact hget "ninjas"
  · exact hget "coinapi"

end Herald

end RateHerald
