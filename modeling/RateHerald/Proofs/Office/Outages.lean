import RateHerald.Proofs.Office.RateRequests
import RateHerald.Proofs.Rates.Outages

/-!
# Requests for a rate when a service hangs

A request for a rate has a deadline, and the time that services take counts against it. One service
that never answers does no harm as long as another is asked before it. If it is the first one to be
asked, the others are asked only when all tries at it are over, and the settings do not care whether
this is before the deadline: they only ask that one try is. So such a request may end at its
deadline, without a rate, although every other service would have answered at once.

## Main declarations

* `Herald.ends_requestRate_of_late`: a request that the services cannot settle in time ends at its
  deadline.
* `Herald.ends_requestRate_of_hangs`: when a request gets a rate although a service hangs.
* `Herald.requestRate_without_rate_of_stalled`: a request that gets none.
-/

namespace RateHerald

open Scripted (Point)

/-! ## A service that hangs -/

namespace Script

/-- The address at which the first service is asked for bitcoins in hryvnias. -/
def stalledAddress : String :=
  "https://api.exchangerate.host/latest?from=BTC&to=UAH"

/-- A text in which each of the other services finds a rate. -/
def anyRate : String :=
  (Json.object [("exchange_rate", .natural 2), ("rate", .natural 2), ("price", .text "2"),
    ("Realtime Currency Exchange Rate", .object [("5. Exchange Rate", .text "2")])]).compact

/-- One service never answers, and all others answer at once. -/
def stalled : Script Unit where
  reply _ q _ := (if q.url = stalledAddress then none else some (0, .ok ⟨200, anyRate⟩), ())
  draw _ := (1.0, ())

/-- Whether a service can be asked for a rate, is not the one that never answers, and finds a rate
in the answer. -/
def isServed (pair : Pair) (l : Service × Access) : Bool :=
  match l.1.question l.2 pair with
  | .ok q => q.url != stalledAddress && (l.1.readRate pair anyRate).isOk
  | .error _ => false

/-- Whether the first service is the one that never answers, and there are others, which all do. -/
def isStalled (pair : Pair) : List (Service × Access) → Bool
  | [] => false
  | hung :: others =>
    !others.isEmpty && others.all (isServed pair) &&
      (hung.1.question hung.2 pair).toOption.map Question.url == some stalledAddress

theorem drawsScale_stalled : stalled.DrawsScale := by
  intro _
  have hscale : (0.5 : Float) ≤ 1.0 ∧ (1.0 : Float) ≤ 1.5 := by decide +kernel
  exact hscale

theorem answers_stalled {pair : Pair} {l : Service × Access} (h : isServed pair l = true)
    (timeout : Nat) : stalled.Answers timeout pair l := by
  rw [isServed] at h
  rcases hq : l.1.question l.2 pair with e | q
  · rw [hq] at h
    exact absurd h Bool.false_ne_true
  · rw [hq] at h
    obtain ⟨haddress, hread⟩ := Bool.and_eq_true_iff.1 h
    rcases hrate : l.1.readRate pair anyRate with e | value
    · rw [hrate] at hread
      exact absurd hread Bool.false_ne_true
    · exact ⟨q, hq, fun _ _ => ⟨anyRate, value, if_neg (bne_iff_ne.1 haddress), hrate⟩⟩

theorem exists_hangs_of_isStalled {pair : Pair} {links : List (Service × Access)}
    (h : isStalled pair links = true) (timeout : Nat) :
    ∃ hung others, links = hung :: others ∧ others ≠ [] ∧
      (hung.1.question hung.2 pair).isOk = true ∧ stalled.Hangs timeout pair hung ∧
      ∀ l ∈ others, stalled.Answers timeout pair l := by
  rcases links with _ | ⟨hung, others⟩
  · exact absurd h Bool.false_ne_true
  · simp only [isStalled, Bool.and_eq_true, Bool.not_eq_true', List.isEmpty_eq_false_iff,
      List.all_eq_true, beq_iff_eq] at h
    obtain ⟨⟨hothers, hserved⟩, haddress⟩ := h
    rcases hq : hung.1.question hung.2 pair with e | q
    · rw [hq] at haddress
      exact absurd haddress (Option.some_ne_none _).symm
    · rw [hq] at haddress
      refine ⟨hung, others, rfl, hothers, by rw [hq]; rfl, ?_,
        fun l hl => answers_stalled (hserved l hl) _⟩
      intro q' hq' _ _
      rw [hq, Except.ok.injEq] at hq'
      exact if_pos (hq' ▸ Option.some_inj.1 haddress)

theorem isStalled_standard :
    isStalled (Pair.ofTexts "btc" "uah") Settings.standard.enabled = true := by
  decide +kernel

end Script

namespace Herald

/-- A herald whose first service never answers. -/
def stalled (retries : Nat) : Herald (Scripted Unit) where
  settings := { Settings.standard with retryMax := retries }
  sender := none
  outside := Script.stalled.outside (fun _ => .done (.ok ())) (.done ⟨0, 0⟩)

theorem validate_stalledPair : (Pair.ofTexts "btc" "uah").validate = .ok () := by
  rw [Pair.validate, if_pos (by decide +kernel)]

theorem open_stalled (retries : Nat) :
    open? (stalled retries).settings (stalled retries).outside = .ok (stalled retries) := by
  rw [open?]
  have hvalid : (stalled retries).settings.validate = .ok () :=
    Settings.validate_standard retries (by decide : 5000 ≤ Settings.standard.requestTimeout.ms)
  rw [hvalid]
  rfl

end Herald

variable {X : Type} {script : Script X}

namespace Herald

variable {h : Herald (Scripted X)} {mailer : Mailer (Scripted X)} {clock : Job (Scripted X) Stamp}

/-- If the services are asked through only after the deadline of a request, the request is given up
at its deadline. -/
theorem ends_requestRate_of_late {settings : Settings}
    (hopen : Herald.open? settings (script.outside mailer clock) = .ok h) {pair : Pair}
    (hpair : pair.validate = .ok ()) {hub : HeraldHub (Scripted X)}
    (hstaffed : Office.IsStaffed hub) {m deadline : Moment}
    (hdeadline : m.deadline? settings.requestTimeout = some deadline) {p' : Point X}
    {outcome : Except (List RateError) Rate}
    (hwalk : script.walk settings pair settings.enabled ⟨m, hub.outside.world⟩ =
      some (outcome, p'))
    (hlate : ¬p'.time ≤ deadline) :
    ∃ hub', (h.notifier.requestRate pair).Ends m hub (.error (.bus (.timeout [.rateResponded])))
      deadline hub' := by
  obtain ⟨haccepted, rfl, houtside⟩ := of_open? hopen
  have hsleeps := onlySleeps_staff houtside
  have hopened : Office.IsStaffed (hub.openChannel 1).2 := hstaffed.of_buses rfl
  have htimeout := Nat.lt_of_lt_of_le haccepted.httpTimeout haccepted.timeouts
  obtain ⟨hub₁, hfetch, -, -⟩ := ends_fetch houtside haccepted.httpTimeout hpair 998 hwalk
    (hopened.of_alike (Hub.alike_told _ _)) rfl
  obtain ⟨hub', hrequest⟩ := Staff.ends_request_rate_of_late hsleeps 999 hstaffed hdeadline htimeout
    hfetch hlate "subscription"
  exact ⟨hub', Job.Ends.bind (Job.Ends.bind hrequest (Job.ends_done _ _ _)) (Job.ends_done _ _ _)⟩

/-- One service never answers, and all others answer at once. If another is asked before it, or it
cannot be asked at all, a request gets a rate at once. If it is the first to be asked, the others
are asked when its tries are over: a request gets a rate if that is by its deadline, and else it
ends at its deadline without one. If no clock can show the deadline the request breaks off, and no
service is asked. -/
theorem ends_requestRate_of_hangs {settings : Settings}
    (hopen : Herald.open? settings (script.outside mailer clock) = .ok h) {pair : Pair}
    (hpair : pair.validate = .ok ()) (hdraw : script.DrawsScale)
    {before after : List (Service × Access)} {hung : Service × Access}
    (henabled : settings.enabled = before ++ hung :: after) (hothers : before ++ after ≠ [])
    (hhangs : script.Hangs settings.httpTimeout.ms pair hung)
    (hanswers : ∀ l ∈ before ++ after, script.Answers settings.httpTimeout.ms pair l)
    {hub : HeraldHub (Scripted X)} (hstaffed : Office.IsStaffed hub) (m : Moment) :
    (∀ deadline, m.deadline? settings.requestTimeout = some deadline →
      (before ≠ [] ∨ (hung.1.question hung.2 pair).isOk = false →
        ∃ value hub', (h.notifier.requestRate pair).Ends m hub (.ok value) m hub') ∧
      (before = [] → (hung.1.question hung.2 pair).isOk = true →
        ∃ waits : List Nat, waits.length = settings.retryMax ∧ AreWaits 0 waits ∧
          ((settings.retryMax + 1) * settings.httpTimeout.ms + waits.sum ≤
              settings.requestTimeout.ms →
            ∃ value hub', (h.notifier.requestRate pair).Ends m hub (.ok value)
              (m.after ((settings.retryMax + 1) * settings.httpTimeout.ms + waits.sum)) hub') ∧
          (settings.requestTimeout.ms <
              (settings.retryMax + 1) * settings.httpTimeout.ms + waits.sum →
            ∃ hub', (h.notifier.requestRate pair).Ends m hub
              (.error (.bus (.timeout [.rateResponded]))) deadline hub'))) ∧
    (m.deadline? settings.requestTimeout = none →
      (h.notifier.requestRate pair).BreaksOff Moment.overflow m hub) := by
  obtain ⟨haccepted, -, -⟩ := of_open? hopen
  have htimeout := Nat.lt_of_lt_of_le haccepted.httpTimeout haccepted.timeouts
  refine ⟨fun deadline hdeadline => ⟨?_, ?_⟩, ?_⟩
  · intro hspared
    obtain ⟨rate, w, hwalk⟩ :=
      Script.walk_of_spared hanswers hothers hspared ⟨m, hub.outside.world⟩
    rw [← henabled] at hwalk
    obtain ⟨hub', hrequest, -⟩ := ends_requestRate_of_rate hopen hpair hstaffed hdeadline hwalk
      (m.le_deadline hdeadline htimeout)
    exact ⟨rate.value, hub', hrequest⟩
  · obtain rfl := Moment.after_eq_of_deadline? hdeadline
    rintro rfl hcan
    rw [List.nil_append] at henabled hanswers hothers
    obtain ⟨waits, rate, w, hlength, hwaits, hwalk⟩ :=
      Script.walk_of_hangs hdraw hhangs hcan hanswers hothers ⟨m, hub.outside.world⟩
    rw [← henabled] at hwalk
    refine ⟨waits, hlength, hwaits, ?_, ?_⟩
    · intro hintime
      obtain ⟨hub', hrequest, -⟩ := ends_requestRate_of_rate hopen hpair hstaffed hdeadline hwalk
        (m.after_le_after hintime)
      exact ⟨rate.value, hub', hrequest⟩
    · intro hlate
      exact ends_requestRate_of_late hopen hpair hstaffed hdeadline hwalk
        (m.not_after_le_after hlate)
  · intro hdeadline
    exact breaksOff_requestRate hopen hdeadline pair hub

/-- With the standard settings, where the first of five services hangs. -/
theorem ends_requestRate_of_stalled :
    ∃ value hub', ((stalled 0).notifier.requestRate (Pair.ofTexts "btc" "uah")).Ends Moment.start
      ((stalled 0).openingHub Disk.empty ⟨(), []⟩) (.ok value) ⟨5000, 0⟩ hub' := by
  obtain ⟨hung, others, henabled, hothers, hcan, hhangs, hanswers⟩ :=
    Script.exists_hangs_of_isStalled Script.isStalled_standard (stalled 0).settings.httpTimeout.ms
  have hfirst : (stalled 0).settings.enabled = [] ++ hung :: others := henabled
  obtain ⟨hrequest, -⟩ := ends_requestRate_of_hangs (open_stalled 0) validate_stalledPair
    Script.drawsScale_stalled hfirst hothers hhangs hanswers
    (isStaffed_openingHub (stalled 0) Disk.empty ⟨(), []⟩) Moment.start
  obtain ⟨waits, hlength, -, hintime, -⟩ := (hrequest ⟨15000, 0⟩ (by decide)).2 rfl hcan
  obtain rfl : waits = [] := List.eq_nil_of_length_eq_zero hlength
  exact hintime (by decide)

/-- With three more tries at each service, where the first of five services hangs, every request
ends at its deadline. -/
theorem ends_requestRate_stalled {hub : HeraldHub (Scripted Unit)} (hstaffed : Office.IsStaffed hub)
    {m deadline : Moment} (hdeadline : m.deadline? 15000 = some deadline) :
    ∃ hub', ((stalled 3).notifier.requestRate (Pair.ofTexts "btc" "uah")).Ends m hub
      (.error (.bus (.timeout [.rateResponded]))) deadline hub' := by
  obtain ⟨hung, others, henabled, hothers, hcan, hhangs, hanswers⟩ :=
    Script.exists_hangs_of_isStalled Script.isStalled_standard (stalled 3).settings.httpTimeout.ms
  obtain ⟨waits, rate, w, -, -, hwalk⟩ := Script.walk_of_hangs Script.drawsScale_stalled hhangs hcan
    hanswers hothers ⟨m, hub.outside.world⟩
  -- four tries take twenty seconds, whatever the waits are, and the deadline is fifteen
  have hlate := m.not_after_le_after
    (Nat.lt_of_lt_of_le (by decide : 15000 < (3 + 1) * 5000) (Nat.le_add_right _ waits.sum))
  obtain rfl := Moment.after_eq_of_deadline? hdeadline
  exact ends_requestRate_of_late (open_stalled 3) validate_stalledPair hstaffed hdeadline
    (henabled ▸ hwalk) hlate

/-- With three more tries at each service, where the first of five services hangs: every other one
answers at once, and the request still gets no rate. -/
theorem requestRate_without_rate_of_stalled :
    (open? (stalled 3).settings (stalled 3).outside = .ok (stalled 3) ∧
      (Pair.ofTexts "btc" "uah").validate = .ok () ∧ Script.stalled.DrawsScale ∧
      ∃ hung others, (stalled 3).settings.enabled = hung :: others ∧ others ≠ [] ∧
        Script.stalled.Hangs (stalled 3).settings.httpTimeout.ms (Pair.ofTexts "btc" "uah") hung ∧
        ∀ l ∈ others, Script.stalled.Answers (stalled 3).settings.httpTimeout.ms
          (Pair.ofTexts "btc" "uah") l) ∧
    ¬∃ value m hub', ((stalled 3).notifier.requestRate (Pair.ofTexts "btc" "uah")).Ends
      Moment.start ((stalled 3).openingHub Disk.empty ⟨(), []⟩) (.ok value) m hub' := by
  obtain ⟨hung, others, henabled, hothers, hcan, hhangs, hanswers⟩ :=
    Script.exists_hangs_of_isStalled Script.isStalled_standard (stalled 3).settings.httpTimeout.ms
  refine ⟨⟨open_stalled 3, validate_stalledPair, Script.drawsScale_stalled, hung, others, henabled,
    hothers, hhangs, hanswers⟩, ?_⟩
  rintro ⟨value, m, hub', hrate⟩
  obtain ⟨hub'', hends⟩ := ends_requestRate_stalled
    (isStaffed_openingHub (stalled 3) Disk.empty ⟨(), []⟩)
    (by decide : Moment.start.deadline? 15000 = some ⟨15000, 0⟩)
  rw [Job.Ends, hrate] at hends
  cases hends

end Herald

end RateHerald
