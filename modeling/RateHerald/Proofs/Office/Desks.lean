import RateHerald.Office.Staff
import RateHerald.Proofs.Events.Deadlines

/-!
# How the desks of an office answer

An office is staffed if exactly those listen to its main bus who were registered when it opened. In
such an office every kind of event has its own listeners, so what publishing an event comes to can
be told for each kind: an announcement is noted and counted and disturbs nothing else, and a
question for a rate or for subscribers comes to what the provider or the repository comes to, with
the answer put into the channel of the question.

## Main declarations

* `Office.IsStaffed`, and `Office.isStaffed_register`: an office that opens is staffed.
* `Office.Undisturbed`: channels, listeners, disk and world are as they were.
* `Staff.ends_announce`, `Staff.ends_tell_rate`, `Staff.ends_tell_rate_of_error` and
  `Staff.ends_tell_subscribers`.
* `Staff.OnlySleeps`, and `Staff.OnlySleeps.publisher`: whoever publishes pauses for time only.
* `Staff.ends_request_rate`, `Staff.ends_request_rate_of_error` and `Staff.ends_request_bulletin`.
-/

namespace RateHerald

variable {G W : Type}

/-! ## Parts of the hub -/

namespace Office

theorem tallyPart_lawful : (tallyPart : Part (OfficeHub G W) Tally).Lawful :=
  ⟨fun _ _ => rfl, fun _ => rfl, fun _ _ _ => rfl⟩

theorem diskPart_lawful : (diskPart : Part (OfficeHub G W) Disk).Lawful :=
  ⟨fun _ _ => rfl, fun _ => rfl, fun _ _ _ => rfl⟩

theorem worldPart_lawful : (worldPart : Part (OfficeHub G W) W).Lawful :=
  ⟨fun _ _ => rfl, fun _ => rfl, fun _ _ _ => rfl⟩

theorem alike_set_world (w : W) (hub : OfficeHub G W) : hub.Alike (worldPart.set w hub) :=
  ⟨rfl, fun _ => rfl, fun _ => rfl⟩

/-- Listing what is kept on the disk pauses for time only. -/
theorem onlySleeps_list (records : Collection Subscription) :
    ((Repository.ofCollection records).on
      (diskPart : Part (OfficeHub G W) Disk)).list.OnlySleeps := by
  refine Job.OnlySleeps.on diskPart_lawful ?_
  refine Job.OnlySleeps.bind (.act _ fun _ _ => .done _) fun fetched => ?_
  exact Job.OnlySleeps.bind .yield fun _ => .done _

/-! ## Listeners -/

/-- The listeners to the main bus of an office without guests. -/
structure IsStaffed (hub : OfficeHub G W) : Prop where
  /-- The rate desk answers who asks for a rate. -/
  rates : (hub.bus Hub.mainBus).listenersTo .rateRequested = [.rateDesk]
  /-- The subscriber desk answers who asks for subscribers. -/
  subscribers : (hub.bus Hub.mainBus).listenersTo .subscribersRequested = [.subscriberDesk]
  /-- How a provider did is noted and counted, if it gave a rate. -/
  fetched : (hub.bus Hub.mainBus).listenersTo .providerFetched = [.outcomeNoter, .outcomeCounter]
  /-- How a provider did is noted and counted, if it failed. -/
  failed : (hub.bus Hub.mainBus).listenersTo .providerFailed = [.outcomeNoter, .outcomeCounter]

theorem isStaffed_register (dispatch : Dispatch) (office : Office W) :
    IsStaffed (registerSubscriberDesk (registerRateDesk
      (Hub.ofDispatch dispatch office : OfficeHub G W))) :=
  ⟨rfl, rfl, rfl, rfl⟩

theorem IsStaffed.of_alike {hub hub' : OfficeHub G W} (h : IsStaffed hub) (halike : hub.Alike hub') :
    IsStaffed hub' where
  rates := (halike.listenersTo _ _).trans h.rates
  subscribers := (halike.listenersTo _ _).trans h.subscribers
  fetched := (halike.listenersTo _ _).trans h.fetched
  failed := (halike.listenersTo _ _).trans h.failed

theorem IsStaffed.of_buses {hub hub' : OfficeHub G W} (h : IsStaffed hub)
    (hbuses : hub'.buses = hub.buses) : IsStaffed hub' := by
  have hbus : hub'.bus Hub.mainBus = hub.bus Hub.mainBus := by rw [Hub.bus, Hub.bus, hbuses]
  constructor
  · rw [hbus, h.rates]
  · rw [hbus, h.subscribers]
  · rw [hbus, h.fetched]
  · rw [hbus, h.failed]

/-- Channels, listeners, disk and world are as they were. -/
structure Undisturbed (hub hub' : OfficeHub G W) : Prop where
  /-- Channels and listeners. -/
  alike : hub.Alike hub'
  /-- The disk. -/
  disk : hub'.outside.disk = hub.outside.disk
  /-- The world. -/
  world : hub'.outside.world = hub.outside.world

/-- The hub when it was announced how a provider did, and that was noted and counted. -/
def noted (name : String) (success : Bool) (hub : OfficeHub G W) : OfficeHub G W :=
  tallyPart.modify (fun t => t.add name success) (hub.told Hub.mainBus)

theorem undisturbed_noted (name : String) (success : Bool) (hub : OfficeHub G W) :
    Undisturbed hub (noted name success hub) where
  alike := (hub.alike_told Hub.mainBus).trans ⟨rfl, fun _ => rfl, fun _ => rfl⟩
  disk := rfl
  world := rfl

end Office

/-! ## The notifier -/

/-- What the notifier requests without a clock that shows the deadline breaks off. -/
theorem Notifier.breaksOff_request {L X : Type} (n : Notifier L X) {m : Moment}
    (hdeadline : m.deadline? n.timeout = none) (asks : List (Payload × Kind)) (hub : Hub L X) :
    (n.request asks).BreaksOff Moment.overflow m hub :=
  (Publisher.breaksOff_request n.publish Hub.mainBus hdeadline hub).bind _

theorem Notifier.bulletinOf_eq {topic : Pair} {responses : Responses} {value : Float} {names : List String}
    (hrate : responses.rate? = some value) (hnames : responses.subscribers? = some names) :
    bulletinOf topic responses = .ok ⟨⟨value, topic⟩, names⟩ := by
  rw [bulletinOf, rateOf, hrate]
  dsimp only
  rw [hnames]

/-! ## Staff that only sleep -/

namespace Staff

variable {staff : Staff G W}

/-- Whoever the staff work with pauses for time only. -/
structure OnlySleeps (staff : Staff G W) : Prop where
  /-- The provider does, if publishing does. -/
  provider : ∀ publish : Publisher (Listener G) (Office W), publish.OnlySleeps →
    ∀ pair, ((staff.provider publish).fetch pair).OnlySleeps
  /-- The repository does. -/
  list : staff.repository.list.OnlySleeps
  /-- Guests do, if publishing does. -/
  guest : ∀ publish : Publisher (Listener G) (Office W), publish.OnlySleeps →
    ∀ g e, (staff.guest publish g e).OnlySleeps

theorem OnlySleeps.respondRate (h : staff.OnlySleeps) {publish : Publisher (Listener G) (Office W)}
    (hpublish : publish.OnlySleeps) (e : Event) :
    (Desk.respondRate (staff.provider publish) e).OnlySleeps := by
  rw [Desk.respondRate]
  split
  · split
    · exact .done _
    · refine Job.OnlySleeps.bind (h.provider publish hpublish _) fun answer => ?_
      cases answer with
      | error cause => exact .done _
      | ok rate => exact .change _
  · exact .done _

theorem OnlySleeps.respondSubscribers (h : staff.OnlySleeps) (e : Event) :
    (Desk.respondSubscribers staff.repository e).OnlySleeps := by
  rw [Desk.respondSubscribers]
  split
  · split
    · exact .done _
    · refine Job.OnlySleeps.bind h.list fun answer => ?_
      cases answer with
      | error cause => exact .done _
      | ok subscriptions => exact .change _
  · exact .done _

theorem OnlySleeps.handler (h : staff.OnlySleeps) : staff.handler.OnlySleeps := by
  intro publish hpublish listener e
  cases listener with
  | rateDesk => exact h.respondRate hpublish e
  | outcomeNoter => exact .done _
  | outcomeCounter => exact (Job.OnlySleeps.change _).on Office.tallyPart_lawful
  | subscriberDesk => exact h.respondSubscribers e
  | guest g => exact h.guest publish hpublish g e

theorem OnlySleeps.publisher (h : staff.OnlySleeps) (depth : Nat) :
    (staff.handler.publisher depth).OnlySleeps :=
  Handler.onlySleeps_publisher h.handler depth

/-! ## Announcements -/

/-- An announcement is noted and counted. -/
theorem ends_announce (staff : Staff G W) (depth : Nat) (payload : Payload) {name : String}
    {success : Bool} {hub : OfficeHub G W}
    (houtcome : Desk.outcome? ⟨hub.events, none, "rate.chain", payload.kind, payload, none⟩ =
      .ok (name, success))
    (hlisteners : (hub.bus Hub.mainBus).listenersTo payload.kind =
      [.outcomeNoter, .outcomeCounter]) (m : Moment) :
    ((staff.handler.publisher (depth + 1)).announce Hub.mainBus payload).Ends m hub () m
      (Office.noted name success hub) := by
  have hcount : (Office.count ⟨hub.events, none, "rate.chain", payload.kind, payload, none⟩).Ends m
      (hub.told Hub.mainBus) (.ok ()) m (Office.noted name success hub) := by
    have hchange := Job.ends_change (Desk.countOutcome
      ⟨hub.events, none, "rate.chain", payload.kind, payload, none⟩) m hub.outside.tally
    rw [Desk.countOutcome, houtcome] at hchange
    exact Job.Ends.on Office.tallyPart_lawful hchange
  have htell := Handler.ends_tell_pair staff.handler depth hlisteners
    (fun e => (Job.OnlySleeps.change _).on Office.tallyPart_lawful) rfl hcount
  exact Job.Ends.bind htell (Job.ends_done _ _ _)

/-! ## Questions -/

section Questions

variable (hsleeps : staff.OnlySleeps) (depth : Nat) {hub hub₁ : OfficeHub G W} {pair : Pair}
  {channel : Nat} {c : Channel} {m m' : Moment}

include hsleeps

/-- A question for a rate is answered with what the provider gives. -/
theorem ends_tell_rate (hstaffed : Office.IsStaffed hub) (hc : hub.channel? channel = some c)
    (hroom : c.HasRoom) {rate : Rate}
    (hfetch : ((staff.provider (staff.handler.publisher depth)).fetch pair).Ends m
      (hub.told Hub.mainBus) (.ok rate) m' hub₁)
    (halike : (hub.told Hub.mainBus).Alike hub₁) (source : String) :
    ∃ (hub' : OfficeHub G W) (answer : Event),
      ((staff.handler.publisher (depth + 1)).tell Hub.mainBus source .rateRequested
        (.rateRequested pair) (some channel)).Ends m hub (.ok ()) m' hub' ∧
      Office.IsStaffed hub' ∧ hub'.outside = hub₁.outside ∧
      hub'.channel? channel = some (c.holding answer) ∧ answer.Tells (.rateResponded rate) := by
  have halike' := (hub.alike_told Hub.mainBus).trans halike
  obtain ⟨hub', answer, hrespond, houtside, hbuses, hchannel, htells⟩ :=
    Hub.respond_eq (e := ⟨hub.events, none, source, .rateRequested, .rateRequested pair,
      some channel⟩) rfl ((halike'.channel? channel).trans hc) hroom "rate" (.rateResponded rate)
  have hdesk : (staff.handler (staff.handler.publisher depth) .rateDesk
      ⟨hub.events, none, source, .rateRequested, .rateRequested pair, some channel⟩).Ends m
      (hub.told Hub.mainBus) (.ok ()) m' hub' := by
    refine Job.Ends.bind hfetch ?_
    have hchange := Job.ends_change (Hub.respond ⟨hub.events, none, source, .rateRequested,
      .rateRequested pair, some channel⟩ "rate" (.rateResponded rate)) m' hub₁
    rwa [hrespond] at hchange
  have htell := Handler.ends_tell staff.handler depth hstaffed.rates
    (fun e => hsleeps.respondRate (hsleeps.publisher depth) e) hdesk
  exact ⟨hub', answer, htell, (hstaffed.of_alike halike').of_buses hbuses, houtside, hchannel,
    htells⟩

/-- A question for a rate ends when the provider does. -/
theorem exists_ends_tell_rate (hstaffed : Office.IsStaffed hub) {answer : Except RateError Rate}
    (hfetch : ((staff.provider (staff.handler.publisher depth)).fetch pair).Ends m
      (hub.told Hub.mainBus) answer m' hub₁) (source : String) (channel : Nat) :
    ∃ (result : Except BusError Unit) (hub' : OfficeHub G W),
      ((staff.handler.publisher (depth + 1)).tell Hub.mainBus source .rateRequested
        (.rateRequested pair) (some channel)).Ends m hub result m' hub' := by
  obtain ⟨result, hub', hdesk⟩ : ∃ (result : Except BusError Unit) (hub' : OfficeHub G W),
      (staff.handler (staff.handler.publisher depth) .rateDesk
        ⟨hub.events, none, source, .rateRequested, .rateRequested pair, some channel⟩).Ends m
        (hub.told Hub.mainBus) result m' hub' := by
    cases answer with
    | ok rate => exact ⟨_, _, Job.Ends.bind hfetch (Job.ends_change _ _ _)⟩
    | error cause => exact ⟨_, _, Job.Ends.bind hfetch (Job.ends_done _ _ _)⟩
  have htell := Handler.ends_tell staff.handler depth hstaffed.rates
    (fun e => hsleeps.respondRate (hsleeps.publisher depth) e) hdesk
  exact ⟨_, hub', htell⟩

/-- A question for a rate fails as the provider fails. -/
theorem ends_tell_rate_of_error (hstaffed : Office.IsStaffed hub) {cause : RateError}
    (hfetch : ((staff.provider (staff.handler.publisher depth)).fetch pair).Ends m
      (hub.told Hub.mainBus) (.error cause) m' hub₁) (source : String) :
    ((staff.handler.publisher (depth + 1)).tell Hub.mainBus source .rateRequested
        (.rateRequested pair) (some channel)).Ends m hub
      (.error (.dispatch .rateRequested [.listener (.rate cause)])) m' hub₁ := by
  have hdesk : (staff.handler (staff.handler.publisher depth) .rateDesk
      ⟨hub.events, none, source, .rateRequested, .rateRequested pair, some channel⟩).Ends m
      (hub.told Hub.mainBus) (.error (.listener (.rate cause))) m' hub₁ :=
    Job.Ends.bind hfetch (Job.ends_done _ _ _)
  exact Handler.ends_tell staff.handler depth hstaffed.rates
    (fun e => hsleeps.respondRate (hsleeps.publisher depth) e) hdesk

/-- A question for subscribers is answered with the shown forms of the mailboxes that follow the
pair. -/
theorem ends_tell_subscribers (hstaffed : Office.IsStaffed hub)
    (hc : hub.channel? channel = some c) (hroom : c.HasRoom) {subscriptions : List Subscription}
    (hlist : staff.repository.list.Ends m (hub.told Hub.mainBus) (.ok subscriptions) m' hub₁)
    (halike : (hub.told Hub.mainBus).Alike hub₁) (source : String) :
    ∃ (hub' : OfficeHub G W) (answer : Event),
      ((staff.handler.publisher (depth + 1)).tell Hub.mainBus source .subscribersRequested
        (.subscribersRequested pair) (some channel)).Ends m hub (.ok ()) m' hub' ∧
      Office.IsStaffed hub' ∧ hub'.outside = hub₁.outside ∧
      hub'.channel? channel = some (c.holding answer) ∧
      answer.Tells (.subscribersResponded pair
        ((subscriptions.filter fun s => s.topic == pair).map fun s => s.mailbox.toText)) := by
  have halike' := (hub.alike_told Hub.mainBus).trans halike
  obtain ⟨hub', answer, hrespond, houtside, hbuses, hchannel, htells⟩ :=
    Hub.respond_eq (e := ⟨hub.events, none, source, .subscribersRequested,
      .subscribersRequested pair, some channel⟩) rfl ((halike'.channel? channel).trans hc) hroom
      "subscription" (.subscribersResponded pair
        ((subscriptions.filter fun s => s.topic == pair).map fun s => s.mailbox.toText))
  have hdesk : (staff.handler (staff.handler.publisher depth) .subscriberDesk
      ⟨hub.events, none, source, .subscribersRequested, .subscribersRequested pair,
        some channel⟩).Ends m (hub.told Hub.mainBus) (.ok ()) m' hub' := by
    refine Job.Ends.bind hlist ?_
    have hchange := Job.ends_change (Hub.respond ⟨hub.events, none, source, .subscribersRequested,
      .subscribersRequested pair, some channel⟩ "subscription" (.subscribersResponded pair
        ((subscriptions.filter fun s => s.topic == pair).map fun s => s.mailbox.toText))) m' hub₁
    rwa [hrespond] at hchange
  have htell := Handler.ends_tell staff.handler depth hstaffed.subscribers
    (fun e => hsleeps.respondSubscribers e) hdesk
  exact ⟨hub', answer, htell, (hstaffed.of_alike halike').of_buses hbuses, houtside, hchannel,
    htells⟩

/-! ## Requests -/

/-- A request for a rate comes to what the provider gives, if that is in time. -/
theorem ends_request_rate (hstaffed : Office.IsStaffed hub) {rate : Rate} {timeout : Span}
    {deadline : Moment} (hdeadline : m.deadline? timeout = some deadline)
    (hfetch : ((staff.provider (staff.handler.publisher depth)).fetch pair).Ends m
      ((hub.openChannel 1).2.told Hub.mainBus) (.ok rate) m' hub₁)
    (halike : ((hub.openChannel 1).2.told Hub.mainBus).Alike hub₁) (hle : m' ≤ deadline)
    (source : String) :
    ∃ (hub' : OfficeHub G W) (responses : Responses),
      ((staff.handler.publisher (depth + 1)).request Hub.mainBus
        ⟨source, [Notifier.rateAsk pair], timeout⟩).Ends m hub (.ok responses) m' hub' ∧
      responses.rate? = some rate.value ∧ hub'.outside = hub₁.outside ∧ Office.IsStaffed hub' := by
  have hopened : Office.IsStaffed (hub.openChannel 1).2 := hstaffed.of_buses rfl
  obtain ⟨told, answer, htell, hstaffed', houtside, hchannel, htells⟩ := ends_tell_rate hsleeps
    depth hopened (hub.channel?_openChannel 1) ⟨rfl, rfl, by decide⟩ hfetch halike source
  have hkind : answer.kind = .rateResponded := htells.kind_eq
  obtain ⟨hub', hrequest, houtside', hbuses⟩ := Publisher.ends_request
    (r := ⟨source, [Notifier.rateAsk pair], timeout⟩) hdeadline
    (Publisher.ends_ask_cons (hsleeps.publisher (depth + 1)) (.rateRequested pair) htell hle
      (Publisher.ends_ask_nil _ _ _)) hchannel (Wait.moveUntil_singleton answer)
      (Wait.verdict?_singleton hkind)
  exact ⟨hub', ⟨[answer]⟩, hrequest, Responses.rate?_of_tells htells [], houtside'.trans houtside,
    hstaffed'.of_buses hbuses⟩

/-- A request for a rate fails as the provider fails, if that is in time. -/
theorem ends_request_rate_of_error (hstaffed : Office.IsStaffed hub) {cause : RateError}
    {timeout : Span} {deadline : Moment} (hdeadline : m.deadline? timeout = some deadline)
    (hfetch : ((staff.provider (staff.handler.publisher depth)).fetch pair).Ends m
      ((hub.openChannel 1).2.told Hub.mainBus) (.error cause) m' hub₁)
    (hle : m' ≤ deadline) (source : String) :
    ∃ hub', ((staff.handler.publisher (depth + 1)).request Hub.mainBus
        ⟨source, [Notifier.rateAsk pair], timeout⟩).Ends m hub
        (.error (.dispatch .rateRequested [.listener (.rate cause)])) m' hub' ∧
      hub'.outside = hub₁.outside := by
  have hopened : Office.IsStaffed (hub.openChannel 1).2 := hstaffed.of_buses rfl
  have htell : ((staff.handler.publisher (depth + 1)).tell Hub.mainBus source .rateRequested
      (.rateRequested pair) (some hub.channels.length)).Ends m (hub.openChannel 1).2 _ m' hub₁ :=
    ends_tell_rate_of_error hsleeps depth hopened hfetch source
  have hask : ((staff.handler.publisher (depth + 1)).ask Hub.mainBus hub.channels.length source
      [.rateResponded] deadline [.rateRequested pair]).Ends m (hub.openChannel 1).2 _ m'
      hub₁ :=
    Publisher.ends_ask_cons_error (hsleeps.publisher (depth + 1)) (.rateRequested pair) htell hle []
  refine ⟨hub₁.onChannel hub.channels.length Channel.close, ?_, Hub.outside_onChannel _ _ _⟩
  exact Publisher.ends_request_of_error (r := ⟨source, [Notifier.rateAsk pair], timeout⟩) hdeadline
    hask

/-- A request for a rate is given up at its deadline, if the provider ends only later. -/
theorem ends_request_rate_of_late (hstaffed : Office.IsStaffed hub)
    {answer : Except RateError Rate} {timeout : Span} {deadline : Moment}
    (hdeadline : m.deadline? timeout = some deadline) (htimeout : 0 < timeout.ms)
    (hfetch : ((staff.provider (staff.handler.publisher depth)).fetch pair).Ends m
      ((hub.openChannel 1).2.told Hub.mainBus) answer m' hub₁)
    (hlate : ¬m' ≤ deadline) (source : String) :
    ∃ hub', ((staff.handler.publisher (depth + 1)).request Hub.mainBus
        ⟨source, [Notifier.rateAsk pair], timeout⟩).Ends m hub
        (.error (.timeout [.rateResponded])) deadline hub' := by
  have hopened : Office.IsStaffed (hub.openChannel 1).2 := hstaffed.of_buses rfl
  obtain ⟨result, told, htell⟩ :=
    exists_ends_tell_rate hsleeps depth hopened hfetch source hub.channels.length
  obtain ⟨asked, hask⟩ : ∃ asked, ((staff.handler.publisher (depth + 1)).ask Hub.mainBus
      hub.channels.length source [.rateResponded] deadline [.rateRequested pair]).Ends m
      (hub.openChannel 1).2 (.error (.timeout [.rateResponded])) deadline asked :=
    Publisher.ends_ask_cons_late (hsleeps.publisher (depth + 1)) (.rateRequested pair) htell
      (m.le_deadline hdeadline htimeout) hlate []
  exact ⟨_, Publisher.ends_request_of_error (r := ⟨source, [Notifier.rateAsk pair], timeout⟩)
    hdeadline hask⟩

/-- A request for a rate and for subscribers comes to what the provider gives and the repository
lists, if both are in time. -/
theorem ends_request_bulletin (hstaffed : Office.IsStaffed hub) {rate : Rate} {timeout : Span}
    {deadline : Moment} (hdeadline : m.deadline? timeout = some deadline)
    (hfetch : ((staff.provider (staff.handler.publisher depth)).fetch pair).Ends m
      ((hub.openChannel 2).2.told Hub.mainBus) (.ok rate) m' hub₁)
    (halike : ((hub.openChannel 2).2.told Hub.mainBus).Alike hub₁) {m₂ : Moment}
    {disk : Disk} {subscriptions : List Subscription}
    (hlist : ∀ told : OfficeHub G W, told.outside = hub₁.outside →
      staff.repository.list.Ends m' told (.ok subscriptions) m₂ (Office.diskPart.set disk told))
    (hle : m₂ ≤ deadline) (source : String) :
    ∃ (hub' : OfficeHub G W) (responses : Responses),
      ((staff.handler.publisher (depth + 1)).request Hub.mainBus
        ⟨source, [Notifier.rateAsk pair, Notifier.subscribersAsk pair], timeout⟩).Ends m hub
        (.ok responses) m₂ hub' ∧
      responses.rate? = some rate.value ∧
      responses.subscribers? =
        some ((subscriptions.filter fun s => s.topic == pair).map fun s => s.mailbox.toText) ∧
      hub'.outside.disk = disk ∧ hub'.outside.world = hub₁.outside.world := by
  have hopened : Office.IsStaffed (hub.openChannel 2).2 := hstaffed.of_buses rfl
  have hroom : (Channel.ofCapacity 2).HasRoom := ⟨rfl, rfl, by decide⟩
  obtain ⟨told, answer, htell, hstaffed', houtside, hchannel, htells⟩ := ends_tell_rate hsleeps
    depth hopened (hub.channel?_openChannel 2) hroom hfetch halike source
  -- the second question is put while the first answer waits in the channel, which has room for both
  have hlist' := hlist (told.told Hub.mainBus) houtside
  obtain ⟨told₂, answer₂, htell₂, -, houtside₂, hchannel₂, htells₂⟩ := ends_tell_subscribers hsleeps
    depth hstaffed' hchannel (hroom.holding answer (by decide)) hlist'
    ⟨rfl, fun _ => rfl, fun _ => rfl⟩ source
  have hkind : answer.kind = .rateResponded := htells.kind_eq
  have hkind₂ : answer₂.kind = .subscribersResponded := htells₂.kind_eq
  have hask : ((staff.handler.publisher (depth + 1)).ask Hub.mainBus hub.channels.length source
      [.rateResponded, .subscribersResponded] deadline
      [.rateRequested pair, .subscribersRequested pair]).Ends m (hub.openChannel 2).2 (.ok ()) m₂
      told₂ :=
    Publisher.ends_ask_cons (hsleeps.publisher (depth + 1)) (.rateRequested pair) htell
      (Moment.le_trans hlist'.le hle) (Publisher.ends_ask_cons (hsleeps.publisher (depth + 1))
        (.subscribersRequested pair) htell₂ hle (Publisher.ends_ask_nil _ _ _))
  have hne : Kind.rateResponded ≠ Kind.subscribersResponded := by decide
  obtain ⟨hub', hrequest, houtside', -⟩ := Publisher.ends_request
    (r := ⟨source, [Notifier.rateAsk pair, Notifier.subscribersAsk pair], timeout⟩) hdeadline hask
    hchannel₂ (Wait.moveUntil_pair answer₂ hne hkind) (Wait.verdict?_pair hne hkind hkind₂)
  have hend : hub'.outside = (Office.diskPart.set disk (told.told Hub.mainBus)).outside :=
    houtside'.trans houtside₂
  refine ⟨hub', ⟨[answer, answer₂]⟩, hrequest, Responses.rate?_of_tells htells [answer₂],
    Responses.subscribers?_of_tells (hkind ▸ hne) htells₂, by rw [hend]; rfl, ?_⟩
  rw [hend, ← houtside]
  rfl

end Questions

end Staff

end RateHerald
