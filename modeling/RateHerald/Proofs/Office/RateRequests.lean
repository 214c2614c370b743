import RateHerald.Proofs.Office.Desks
import RateHerald.Proofs.Office.Variables
import RateHerald.Proofs.Rates.Scripts

/-!
# Requests for a rate

A request for a rate goes over the bus to the rate desk, which asks the chain, which asks one
service after another, each again as often as the settings allow, and announces over the bus how
each of them did. All this ends as `Script.walk` says, which knows of no bus and no chain: if the
walk is over by the deadline of the request, the request comes to the same rate or to the last
failure, and the same questions were sent.

## Main declarations

* `Herald.ends_fetchFrom`: the chain ends as the walk does.
* `Outside.OnlySleeps.staff`: nobody at work in a herald pauses for anything but time, if those
  outside do not.
* `Herald.ends_requestRate`: the request ends as the walk does.
-/

namespace RateHerald

open Scripted (Point)

/-! ## Settings -/

/-- What accepted settings are like. -/
structure Settings.IsAccepted (s : Settings) : Prop where
  /-- A directory is named. -/
  dataDir : s.dataDir.isEmpty = false
  /-- A question may take some time. -/
  httpTimeout : 0 < s.httpTimeout.ms
  /-- A request may take at least the time of one question. -/
  timeouts : s.httpTimeout.ms ≤ s.requestTimeout.ms
  /-- Some service has an endpoint. -/
  enabled : s.enabled ≠ []
  /-- The pair that is meant when none is named can be asked for. -/
  topic : s.topic.isValid = true

theorem Settings.isAccepted_of_validate {s : Settings} (h : s.validate = .ok ()) :
    s.IsAccepted := by
  have hmet := s.checks_validate.exists_ok_iff.1 ⟨_, h⟩
  simp only [demandsOf, List.forall_mem_cons] at hmet
  obtain ⟨hdir, -, hhttp, htimeouts, henabled, htopic, -⟩ := hmet
  exact ⟨by simpa using hdir, Nat.pos_of_ne_zero hhttp, htimeouts, henabled, htopic⟩

/-- The standard settings are accepted, however often each service is to be asked and however long a
request may take beyond the time of one question. -/
theorem Settings.validate_standard (retries : Nat) {timeout : Span} (hle : 5000 ≤ timeout.ms) :
    { standard with retryMax := retries, requestTimeout := timeout }.validate = .ok () := by
  have hdir : standard.dataDir ≠ "" := by decide
  have hhttp : standard.httpTimeout.ms ≠ 0 := by decide
  have henabled : standard.enabled ≠ [] := by decide +kernel
  have htopic : standard.topic.isValid = true := by decide +kernel
  have hsender : ∀ text ∈ standard.sender, ∃ m, Mailbox.parse text = .ok m :=
    fun text h => absurd (Eq.symm h) (Option.some_ne_none text)
  obtain ⟨⟨⟩, hvalid⟩ := (checks_validate { standard with
    retryMax := retries, requestTimeout := timeout }).exists_ok_iff.2 (by
      simp only [demandsOf, List.forall_mem_cons]
      exact ⟨hdir, Nat.ne_of_gt (Nat.lt_of_lt_of_le (by decide) hle), hhttp, hle, henabled, htopic,
        hsender, fun _ h => absurd h List.not_mem_nil⟩)
  exact hvalid

theorem Herald.of_open? {W : Type} {settings : Settings} {outside : Outside W} {h : Herald W}
    (hopen : Herald.open? settings outside = .ok h) :
    settings.IsAccepted ∧ h.settings = settings ∧ h.outside = outside := by
  rw [Herald.open?] at hopen
  split at hopen
  · cases hopen
  · cases hopen
  · next hvalid hsender =>
    cases hopen
    exact ⟨Settings.isAccepted_of_validate hvalid, rfl, rfl⟩

/-! ## Pauses for time only -/

/-- Questions are answered after some time or never, and chance draws after some time or never.
What becomes of mails is left open, and so is the clock. -/
structure Outside.OnlySleeps {W : Type} (outside : Outside W) : Prop where
  /-- Questions. -/
  client : ∀ q, (outside.client q).OnlySleeps
  /-- Chance. -/
  draw : outside.draw.OnlySleeps

/-- Whatever a script says, its answers come after some time or never. -/
theorem Script.onlySleeps_outside {X : Type} (script : Script X) (mailer : Mailer (Scripted X))
    (clock : Job (Scripted X) Stamp) : (script.outside mailer clock).OnlySleeps :=
  ⟨script.onlySleeps_client, .change _⟩

theorem Chain.onlySleeps_fetchFrom {σ : Type} {announce : Payload → Job σ Unit} {pair : Pair}
    (hannounce : ∀ payload, (announce payload).OnlySleeps) {providers : List (Provider σ)}
    (hproviders : ∀ p ∈ providers, (p.fetch pair).OnlySleeps)
    (last : Option (String × RateError)) :
    (Chain.fetchFrom announce pair last providers).OnlySleeps := by
  induction providers generalizing last with
  | nil => exact .done _
  | cons p rest ih =>
    refine Job.OnlySleeps.bind (hproviders p List.mem_cons_self) fun answer => ?_
    cases answer with
    | ok rate => exact Job.OnlySleeps.bind (hannounce _) fun _ => .done _
    | error e =>
      exact Job.OnlySleeps.bind (hannounce _) fun _ =>
        ih (fun q hq => hproviders q (List.mem_cons_of_mem p hq)) _

section OnlySleeps

variable {W : Type} {h : Herald W} (hsleeps : h.outside.OnlySleeps)

include hsleeps

theorem Herald.onlySleeps_link (service : Service) (access : Access) (pair : Pair) :
    ((h.link service access).fetch pair).OnlySleeps := by
  have honce := service.onlySleeps_provider hsleeps.client access h.settings.httpTimeout.ms pair
  rw [Herald.link]
  split
  · exact honce
  · exact Provider.onlySleeps_askAgain honce hsleeps.draw _ _ _

/-- Nobody at work in a herald pauses for anything but time. -/
theorem Outside.OnlySleeps.staff : h.staff.OnlySleeps where
  provider publish hpublish pair := by
    change (Chain.fetch _ pair).OnlySleeps
    rw [Chain.fetch]
    split
    · exact .done _
    · refine Chain.onlySleeps_fetchFrom (fun payload => ?_) (fun p hp => ?_) none
      · exact Job.OnlySleeps.bind (hpublish.tell _ _ _ _ _) fun _ => .done _
      · obtain ⟨⟨service, access⟩, -, rfl⟩ := List.mem_map.1 hp
        exact (Herald.onlySleeps_link hsleeps service access pair).on Office.worldPart_lawful
  list := Office.onlySleeps_list _
  guest _ _ g := nomatch g

end OnlySleeps

/-! ## The chain -/

/-- The last failure when services failed one after another; `last` is the one before all of them.
-/
def Script.lastFailure : Option (String × RateError) → List (Service × Access) → List RateError →
    Option (String × RateError)
  | _, (service, _) :: rest, e :: errors => lastFailure (some (service.name, e)) rest errors
  | last, _, _ => last

theorem Script.lastFailure_eq {links : List (Service × Access)} {errors : List RateError}
    (hlength : errors.length = links.length) (hne : links ≠ [])
    (last : Option (String × RateError)) :
    ∃ service access cause, links.getLast? = some (service, access) ∧
      errors.getLast? = some cause ∧ lastFailure last links errors = some (service.name, cause) := by
  induction links generalizing errors last with
  | nil => exact absurd rfl hne
  | cons link rest ih =>
    obtain ⟨service, access⟩ := link
    cases errors with
    | nil => cases hlength
    | cons e errors =>
      rw [List.length_cons, List.length_cons, Nat.add_right_cancel_iff] at hlength
      cases rest with
      | nil =>
        rw [List.length_nil, List.length_eq_zero_iff] at hlength
        subst hlength
        exact ⟨service, access, e, rfl, rfl, rfl⟩
      | cons next rest =>
        obtain ⟨service', access', cause, hlast, hcause, hfailure⟩ :=
          ih hlength (List.cons_ne_nil _ _) (some (service.name, e))
        refine ⟨service', access', cause, ?_, ?_, hfailure⟩
        · rw [List.getLast?_cons_cons, hlast]
        · cases errors with
          | nil => cases hlength
          | cons e' errors => rw [List.getLast?_cons_cons, hcause]

variable {X : Type} {script : Script X}

/-- A walk ends at its first service, if that gives a rate, or else goes on from where the tries at
it ended. -/
theorem Script.walk_cons {settings : Settings} {pair : Pair} {service : Service} {access : Access}
    {rest : List (Service × Access)} {p p' : Point X} {outcome : Except (List RateError) Rate}
    (h : script.walk settings pair ((service, access) :: rest) p = some (outcome, p')) :
    (∃ rate, outcome = .ok rate ∧
      script.tries service access settings.httpTimeout.ms pair settings.retryMax 0 p =
        some (.ok rate, p')) ∨
    ∃ e p₁ outcome', outcome = outcome'.mapError (e :: ·) ∧
      script.tries service access settings.httpTimeout.ms pair settings.retryMax 0 p =
        some (.error e, p₁) ∧
      script.walk settings pair rest p₁ = some (outcome', p') := by
  rw [Script.walk] at h
  rcases htries : script.tries service access settings.httpTimeout.ms pair settings.retryMax 0 p
    with _ | ⟨e | rate, p₁⟩
  · rw [htries] at h
    cases h
  · rw [htries] at h
    obtain ⟨⟨outcome', p₂⟩, hrest, heq⟩ := Option.map_eq_some_iff.1 h
    cases heq
    exact .inr ⟨e, p₁, outcome', rfl, rfl, hrest⟩
  · rw [htries] at h
    cases h
    exact .inl ⟨rate, rfl, rfl⟩

/-- Where no service gives a rate, each has its failure. -/
theorem Script.length_of_walk {settings : Settings} {pair : Pair}
    {links : List (Service × Access)} {p p' : Point X} {errors : List RateError}
    (h : script.walk settings pair links p = some (.error errors, p')) :
    errors.length = links.length := by
  induction links generalizing p errors with
  | nil =>
    rw [Script.walk] at h
    cases h
    rfl
  | cons link rest ih =>
    obtain ⟨service, access⟩ := link
    rcases Script.walk_cons h with ⟨rate, houtcome, -⟩ | ⟨e, p₁, outcome', houtcome, -, hrest⟩
    · cases houtcome
    · rcases outcome' with errors' | rate
      · cases houtcome
        rw [List.length_cons, List.length_cons, ih hrest]
      · cases houtcome

namespace Herald

variable {h : Herald (Scripted X)} {mailer : Mailer (Scripted X)} {clock : Job (Scripted X) Stamp}

/-- However often a service is asked again, it is asked in the same way. -/
theorem link_fetch (houtside : h.outside = script.outside mailer clock) (service : Service)
    (access : Access) (pair : Pair) : (h.link service access).fetch pair =
      Provider.askAgain
        ((service.provider access h.settings.httpTimeout.ms script.client).fetch pair)
        Backoff.standard (Job.change script.chance) h.settings.retryMax 0 := by
  rw [link, houtside]
  by_cases hzero : h.settings.retryMax = 0
  · rw [if_pos hzero, hzero]
    rfl
  · rw [if_neg hzero]
    rfl

/-- A link of the chain works on the world only. -/
def linkInHub (h : Herald (Scripted X)) (l : Service × Access) :
    Provider (HeraldHub (Scripted X)) :=
  (h.link l.1 l.2).on Office.worldPart

theorem linkInHub_name (l : Service × Access) : (h.linkInHub l).name = l.1.name := by
  rw [linkInHub, Provider.on, link]
  split <;> rfl

theorem ends_linkInHub (houtside : h.outside = script.outside mailer clock)
    (htimeout : 0 < h.settings.httpTimeout.ms) {service : Service} {access : Access} {pair : Pair}
    {p p' : Point X} {result : Except RateError Rate}
    (htries : script.tries service access h.settings.httpTimeout.ms pair h.settings.retryMax 0 p =
      some (result, p')) {hub : HeraldHub (Scripted X)} (hworld : hub.outside.world = p.world) :
    ((h.linkInHub (service, access)).fetch pair).Ends p.time hub result p'.time
      (Office.worldPart.set p'.world hub) := by
  have hlink := script.ends_askAgain service access htimeout pair htries
  rw [← link_fetch houtside, ← hworld] at hlink
  exact hlink.on Office.worldPart_lawful

/-- The chain ends as the walk over its services does. -/
theorem ends_fetchFrom (houtside : h.outside = script.outside mailer clock)
    (htimeout : 0 < h.settings.httpTimeout.ms) {pair : Pair} (depth : Nat)
    {links : List (Service × Access)} {p p' : Point X} {outcome : Except (List RateError) Rate}
    (hwalk : script.walk h.settings pair links p = some (outcome, p'))
    {hub : HeraldHub (Scripted X)} (hstaffed : Office.IsStaffed hub)
    (hworld : hub.outside.world = p.world) (last : Option (String × RateError)) :
    ∃ hub', (Chain.fetchFrom ((h.staff.handler.publisher (depth + 1)).announce Hub.mainBus) pair
        last (links.map h.linkInHub)).Ends p.time hub
        (outcome.mapError fun errors => Chain.exhausted (Script.lastFailure last links errors))
        p'.time hub' ∧
      hub.Alike hub' ∧ hub'.outside.world = p'.world := by
  induction links generalizing p outcome hub last with
  | nil =>
    rw [Script.walk] at hwalk
    cases hwalk
    exact ⟨hub, Job.ends_done _ _ _, .refl hub, hworld⟩
  | cons link rest ih =>
    obtain ⟨service, access⟩ := link
    have halike := fun w => Office.alike_set_world w hub
    rcases Script.walk_cons hwalk with ⟨rate, rfl, htries⟩ | ⟨e, p₁, outcome', rfl, htries, hrest⟩
    · -- the service gives a rate: that is announced, and nobody else is asked
      have hlink := ends_linkInHub houtside htimeout htries hworld
      have hannounce := Staff.ends_announce h.staff depth
        (.providerFetched service.name rate) rfl
        (hstaffed.of_alike (halike p'.world)).fetched p'.time
      have hundisturbed := Office.undisturbed_noted service.name true
        (Office.worldPart.set p'.world hub)
      refine ⟨_, ?_, (halike p'.world).trans hundisturbed.alike, hundisturbed.world⟩
      rw [List.map_cons, Chain.fetchFrom, linkInHub_name]
      exact Job.Ends.bind hlink (Job.Ends.bind hannounce (Job.ends_done _ _ _))
    · -- the service fails: that is announced, and the others are asked
      have hlink := ends_linkInHub houtside htimeout htries hworld
      have hannounce := Staff.ends_announce h.staff depth
        (.providerFailed service.name pair e.message) rfl
        (hstaffed.of_alike (halike p₁.world)).failed p₁.time
      have hundisturbed := Office.undisturbed_noted service.name false
        (Office.worldPart.set p₁.world hub)
      have halike₂ := (halike p₁.world).trans hundisturbed.alike
      obtain ⟨hub₃, hothers, halike₃, hworld₃⟩ := ih hrest (hstaffed.of_alike halike₂)
        hundisturbed.world (some (service.name, e))
      refine ⟨hub₃, ?_, halike₂.trans halike₃, hworld₃⟩
      have hsame : (outcome'.mapError (e :: ·)).mapError (fun errors => Chain.exhausted
          (Script.lastFailure last ((service, access) :: rest) errors)) =
          outcome'.mapError fun errors => Chain.exhausted
            (Script.lastFailure (some (service.name, e)) rest errors) := by
        cases outcome' <;> rfl
      rw [hsame, List.map_cons, Chain.fetchFrom, linkInHub_name]
      exact Job.Ends.bind hlink (Job.Ends.bind hannounce hothers)

/-! ## The request -/

theorem onlySleeps_staff (houtside : h.outside = script.outside mailer clock) :
    h.staff.OnlySleeps :=
  Outside.OnlySleeps.staff (houtside ▸ script.onlySleeps_outside mailer clock)

/-- The rate desk of a herald asks the chain. -/
theorem ends_fetch (houtside : h.outside = script.outside mailer clock)
    (htimeout : 0 < h.settings.httpTimeout.ms) {pair : Pair} (hpair : pair.validate = .ok ())
    (depth : Nat) {p p' : Point X} {outcome : Except (List RateError) Rate}
    (hwalk : script.walk h.settings pair h.settings.enabled p = some (outcome, p'))
    {hub : HeraldHub (Scripted X)} (hstaffed : Office.IsStaffed hub)
    (hworld : hub.outside.world = p.world) :
    ∃ hub', ((h.staff.provider (h.staff.handler.publisher (depth + 1))).fetch pair).Ends p.time hub
        (outcome.mapError fun errors =>
          Chain.exhausted (Script.lastFailure none h.settings.enabled errors)) p'.time hub' ∧
      hub.Alike hub' ∧ hub'.outside.world = p'.world := by
  have hfetch := ends_fetchFrom houtside htimeout depth hwalk hstaffed hworld none
  change ∃ hub', (Chain.fetch _ pair).Ends _ _ _ _ _ ∧ _
  rw [Chain.fetch, hpair]
  exact hfetch

/-- When a herald opens its office is staffed. -/
theorem isStaffed_openingHub (h : Herald (Scripted X)) (disk : Disk) (world : Scripted X) :
    Office.IsStaffed (h.openingHub disk world) :=
  Office.isStaffed_register _ _

section Requests

variable {settings : Settings} (hopen : Herald.open? settings (script.outside mailer clock) = .ok h)
  {pair : Pair} (hpair : pair.validate = .ok ()) {hub : HeraldHub (Scripted X)}
  (hstaffed : Office.IsStaffed hub) {m deadline : Moment}
  (hdeadline : m.deadline? settings.requestTimeout = some deadline) {p' : Point X}

include hopen hpair hstaffed hdeadline

/-- If one of the services gives a rate by the deadline of a request, the request comes to it. -/
theorem ends_requestRate_of_rate {rate : Rate}
    (hwalk : script.walk settings pair settings.enabled ⟨m, hub.outside.world⟩ =
      some (.ok rate, p'))
    (hle : p'.time ≤ deadline) :
    ∃ hub', (h.notifier.requestRate pair).Ends m hub (.ok rate.value) p'.time hub' ∧
      hub'.outside.world.questions = p'.world.questions := by
  obtain ⟨haccepted, rfl, houtside⟩ := of_open? hopen
  have hopened : Office.IsStaffed (hub.openChannel 1).2 := hstaffed.of_buses rfl
  obtain ⟨hub₁, hfetch, halike, hworld⟩ := ends_fetch houtside haccepted.httpTimeout hpair 998 hwalk
    (hopened.of_alike (Hub.alike_told _ _)) rfl
  obtain ⟨hub', responses, hrequest, hrate, houtside', -⟩ := Staff.ends_request_rate
    (onlySleeps_staff houtside) 999 hstaffed hdeadline hfetch halike hle "subscription"
  refine ⟨hub', ?_, by rw [houtside', hworld]⟩
  have hanswer : (Except.ok responses : Except NotifyError Responses).bind Notifier.rateOf =
      .ok rate.value := by
    rw [Except.bind, Notifier.rateOf, hrate]
  rw [← hanswer]
  exact Job.Ends.bind (Job.Ends.bind hrequest (Job.ends_done _ _ _)) (Job.ends_done _ _ _)

/-- If all services have failed by the deadline of a request, the request comes to the last failure
of the last of them. -/
theorem ends_requestRate_of_errors {errors : List RateError}
    (hwalk : script.walk settings pair settings.enabled ⟨m, hub.outside.world⟩ =
      some (.error errors, p'))
    (hle : p'.time ≤ deadline) :
    ∃ hub' service access cause, settings.enabled.getLast? = some (service, access) ∧
      errors.getLast? = some cause ∧
      (h.notifier.requestRate pair).Ends m hub (.error (.bus (.dispatch .rateRequested
        [.listener (.rate (.unavailable service.name cause))]))) p'.time hub' ∧
      hub'.outside.world.questions = p'.world.questions := by
  obtain ⟨haccepted, rfl, houtside⟩ := of_open? hopen
  have hopened : Office.IsStaffed (hub.openChannel 1).2 := hstaffed.of_buses rfl
  obtain ⟨hub₁, hfetch, -, hworld⟩ := ends_fetch houtside haccepted.httpTimeout hpair 998 hwalk
    (hopened.of_alike (Hub.alike_told _ _)) rfl
  obtain ⟨service, access, cause, hlast, hcause, hfailure⟩ := Script.lastFailure_eq
    (Script.length_of_walk hwalk) haccepted.enabled none
  change Job.Ends _ _ _ (Except.error (Chain.exhausted _)) _ _ at hfetch
  rw [hfailure, Chain.exhausted] at hfetch
  obtain ⟨hub', hrequest, houtside'⟩ := Staff.ends_request_rate_of_error
    (onlySleeps_staff houtside) 999 hstaffed hdeadline hfetch hle "subscription"
  exact ⟨hub', service, access, cause, hlast, hcause,
    Job.Ends.bind (Job.Ends.bind hrequest (Job.ends_done _ _ _)) (Job.ends_done _ _ _),
    by rw [houtside', hworld]⟩

end Requests

/-- A request for which no clock can show the deadline breaks off. -/
theorem breaksOff_requestRate {settings : Settings} {outside : Outside (Scripted X)}
    (hopen : Herald.open? settings outside = .ok h) {m : Moment}
    (hdeadline : m.deadline? settings.requestTimeout = none) (pair : Pair)
    (hub : HeraldHub (Scripted X)) :
    (h.notifier.requestRate pair).BreaksOff Moment.overflow m hub := by
  obtain ⟨-, rfl, -⟩ := of_open? hopen
  exact (h.notifier.breaksOff_request hdeadline _ hub).bind _

/-- If the services are asked through by the deadline of a request, the request comes to the first
rate that one of them gives, or else to the last failure of the last of them. The questions that
were sent are those of the walk, in the same order. If no clock can show the deadline the request
breaks off, and no question is sent. -/
theorem ends_requestRate {settings : Settings}
    (hopen : Herald.open? settings (script.outside mailer clock) = .ok h) {pair : Pair}
    (hpair : pair.validate = .ok ()) {hub : HeraldHub (Scripted X)}
    (hstaffed : Office.IsStaffed hub) (m : Moment) :
    (∀ deadline outcome p', m.deadline? settings.requestTimeout = some deadline →
      script.walk settings pair settings.enabled ⟨m, hub.outside.world⟩ = some (outcome, p') →
      p'.time ≤ deadline →
      ∃ answer hub', (h.notifier.requestRate pair).Ends m hub answer p'.time hub' ∧
        hub'.outside.world.questions = p'.world.questions ∧
        (∀ rate, outcome = .ok rate → answer = .ok rate.value) ∧
        (∀ errors, outcome = .error errors → ∃ service access cause,
          settings.enabled.getLast? = some (service, access) ∧ errors.getLast? = some cause ∧
          answer = .error (.bus (.dispatch .rateRequested
            [.listener (.rate (.unavailable service.name cause))])))) ∧
    (m.deadline? settings.requestTimeout = none →
      (h.notifier.requestRate pair).BreaksOff Moment.overflow m hub) := by
  refine ⟨?_, ?_⟩
  · intro deadline outcome p' hdeadline hwalk hle
    cases outcome with
    | ok rate =>
      obtain ⟨hub', hends, hquestions⟩ :=
        ends_requestRate_of_rate hopen hpair hstaffed hdeadline hwalk hle
      refine ⟨_, hub', hends, hquestions, ?_, ?_⟩
      · rintro rate' ⟨⟩
        rfl
      · rintro errors ⟨⟩
    | error errors =>
      obtain ⟨hub', service, access, cause, hlast, hcause, hends, hquestions⟩ :=
        ends_requestRate_of_errors hopen hpair hstaffed hdeadline hwalk hle
      refine ⟨_, hub', hends, hquestions, ?_, ?_⟩
      · rintro rate ⟨⟩
      · rintro errors' ⟨⟩
        exact ⟨service, access, cause, hlast, hcause, rfl⟩
  · intro hdeadline
    exact breaksOff_requestRate hopen hdeadline pair hub

/-- With the standard settings, where every service is busy: five questions, ten milliseconds each.
With the longest timeout that there is the request breaks off. -/
theorem ends_requestRate_of_busy :
    let script : Script Unit := ⟨fun _ _ _ => (some (10, .ok ⟨503, ""⟩), ()), fun _ => (1.0, ())⟩
    let herald := fun timeout : Span => (⟨{ Settings.standard with requestTimeout := timeout },
      none, script.outside (fun _ => .done (.ok ())) (.done ⟨0, 0⟩)⟩ : Herald (Scripted Unit))
    let request := fun timeout => (herald timeout).notifier.requestRate (Pair.ofTexts "btc" "uah")
    let hub := fun timeout => (herald timeout).openingHub Disk.empty ⟨(), []⟩
    (∃ cause hub', (request 15000).Ends Moment.start (hub 15000)
        (.error (.bus (.dispatch .rateRequested
          [.listener (.rate (.unavailable "coinyep" cause))]))) ⟨50, 0⟩ hub' ∧
      hub'.outside.world.questions.length = 5) ∧
    (request .longest).BreaksOff Moment.overflow Moment.start (hub .longest) := by
  intro script herald request hub
  have hopen : ∀ timeout : Span, 5000 ≤ timeout.ms →
      open? (herald timeout).settings (herald timeout).outside = .ok (herald timeout) := by
    intro timeout hle
    have hvalid : (herald timeout).settings.validate = .ok () := Settings.validate_standard 0 hle
    rw [open?, hvalid]
    rfl
  have hpair : (Pair.ofTexts "btc" "uah").validate = .ok () := by
    rw [Pair.validate, if_pos (by decide +kernel)]
  have hrequests := fun timeout hle => ends_requestRate (hopen timeout hle) hpair
    (isStaffed_openingHub (herald timeout) Disk.empty ⟨(), []⟩) Moment.start
  refine ⟨?_, (hrequests .longest (by decide)).2 (by decide)⟩
  have hends : (script.walk .standard (Pair.ofTexts "btc" "uah") Settings.standard.enabled
      ⟨Moment.start, ⟨(), []⟩⟩).map (fun r => (r.1.isOk, r.2.time, r.2.world.questions.length)) =
      some (false, ⟨50, 0⟩, 5) := by
    decide +kernel
  obtain ⟨⟨outcome, p'⟩, hwalk, heq⟩ := Option.map_eq_some_iff.1 hends
  obtain ⟨hfailed, htime, hcount⟩ : outcome.isOk = false ∧ p'.time = ⟨50, 0⟩ ∧
      p'.world.questions.length = 5 := by simpa using heq
  obtain ⟨answer, hub', hrequest, hquestions, -, hfailure⟩ := (hrequests 15000 (by decide)).1
    ⟨15000, 0⟩ outcome p' (by decide) hwalk (by rw [htime]; decide)
  cases outcome with
  | ok rate => cases hfailed
  | error errors =>
    obtain ⟨service, access, cause, hlast, -, hanswer⟩ := hfailure errors rfl
    have hname : Settings.standard.enabled.getLast?.map (·.1.name) = some "coinyep" := by
      decide +kernel
    have hsame : Settings.standard.enabled.getLast? = some (service, access) := hlast
    rw [hsame, Option.map_some, Option.some_inj] at hname
    rw [hanswer, htime] at hrequest
    exact ⟨cause, hub', hname ▸ hrequest, by rw [hquestions, hcount]⟩

end Herald

end RateHerald
