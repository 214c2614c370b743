import RateHerald.Proofs.Office.Ledger

/-!
# How calls of a herald fail, and what they leave

A herald is called to tell a rate, or to mail it. Whoever is asked may take as long as he likes and
answer what he likes, and the disk may hold anything. Nevertheless the channel of a request has room
for every answer that comes, every answer is one that is waited for, and no question is put that
nobody can answer. So what goes wrong on the bus is one of four things: the time is over, the pair
is refused, all services failed, or the records cannot be read.

## Main declarations

* `BusError.IsForeseen` and `NotifyError.IsForeseen` list what can go wrong.
* `Herald.attempts`: which services are done by the deadline of a call.
* `Herald.Told`, `Herald.Requested` and `Herald.Call`: what one question, one request and one call
  leave, and how they fail.
* `Herald.call_requestRate` and `Herald.call_sendMails`.
-/

namespace RateHerald

variable {W : Type}

/-! ## What can go wrong -/

/-- What can go wrong on the bus when a herald asks for the rate of a pair and for its subscribers.
-/
inductive BusError.IsForeseen (topic : Pair) : BusError → Prop where
  /-- The time is over. -/
  | timeout (missing : List Kind) : IsForeseen topic (.timeout missing)
  /-- The pair is refused. -/
  | invalidPair (text : String) (h : topic.isValid = false) :
    IsForeseen topic (.dispatch .rateRequested [.listener (.rate (.invalidPair text))])
  /-- All services failed. -/
  | unavailable (name : String) (cause : RateError) :
    IsForeseen topic (.dispatch .rateRequested [.listener (.rate (.unavailable name cause))])
  /-- The records cannot be read. -/
  | storage (cause : StoreError) :
    IsForeseen topic
      (.dispatch .subscribersRequested [.listener (.repository (.storage cause))])

/-- What can go wrong when a herald is called for a pair. -/
inductive NotifyError.IsForeseen (topic : Pair) : NotifyError → Prop where
  /-- The pair is refused. -/
  | invalid (cause : InputError) (h : topic.isValid = false) : IsForeseen topic (.invalid cause)
  /-- Nobody wants to hear about the pair. -/
  | noSubscribers : IsForeseen topic (.noSubscribers topic)
  /-- Some mails could not be sent. -/
  | delivery (sent : Nat) (errors : List MailError) : IsForeseen topic (.delivery sent errors)
  /-- The request fails. -/
  | bus {cause : BusError} (h : cause.IsForeseen topic) : IsForeseen topic (.bus cause)

/-! ## Listing -/

theorem Repository.storage_of_ofFetched {fetched : Except StoreError (List Subscription)}
    {cause : RepositoryError} (h : ofFetched fetched = .error cause) :
    ∃ e, cause = .storage e := by
  rcases fetched with e | subscriptions
  · cases e with
    | notFound _ => cases h
    | _ =>
      cases h
      exact ⟨_, rfl⟩
  · cases h

/-- Listing records fails only if they cannot be read. -/
theorem Repository.of_list_within (records : Collection Subscription) {deadline m m' : Moment}
    {disk disk' : Disk} {result : Option (Except RepositoryError (List Subscription))}
    (hle : m ≤ deadline)
    (h : ((ofCollection records).list.within deadline).Ends m disk result m' disk') :
    m' ≤ deadline ∧ ∀ cause, result = some (.error cause) → ∃ e, cause = .storage e := by
  have hsleeps : (ofCollection records).list.OnlySleeps :=
    Job.OnlySleeps.bind (.act _ fun _ _ => .done _) fun fetched =>
      Job.OnlySleeps.bind .yield fun _ => .done _
  rcases h.of_within hsleeps hle with ⟨listed, rfl, hintime, hends⟩ | ⟨rfl, rfl, -⟩
  · obtain ⟨fetched, m₁, disk₁, -, hyield⟩ := Job.Ends.of_bind hends
    obtain ⟨-, m₂, disk₂, -, hdone⟩ := Job.Ends.of_bind hyield
    refine ⟨hintime, ?_⟩
    rintro cause ⟨⟩
    exact storage_of_ofFetched ((Job.ends_done _ _ _).unique hdone).1
  · exact ⟨Moment.le_refl _, nofun⟩

/-! ## One question -/

/-- The event tells a rate. -/
def Event.TellsRate (e : Event) : Prop :=
  ∃ rate, e.Tells (.rateResponded rate)

/-- The event tells the subscribers of a pair. -/
def Event.TellsSubscribers (topic : Pair) (e : Event) : Prop :=
  ∃ names, e.Tells (.subscribersResponded topic names)

namespace Herald

variable {h : Herald W} {hub hub' : HeraldHub W} {m m' deadline : Moment} {topic : Pair}

/-- The services that are asked, in order. -/
def links (h : Herald W) : List (Provider W) :=
  h.settings.enabled.map fun (service, access) => h.link service access

theorem providers_chain (publish : Publisher (Listener Empty) (Office W)) :
    (h.chain publish).providers = h.links.map (Provider.on Office.worldPart) := by
  rw [links, List.map_map]
  rfl

/-- The services that are done by a deadline when they are asked one after another for the rate of a
pair, and whether each of them gave it. For a pair that is refused none is asked. -/
def attemptsBy (h : Herald W) (topic : Pair) (deadline m : Moment) (w : W) : List (String × Bool) :=
  if topic.isValid then Provider.attempts topic deadline h.links m w else []

/-- What a question on a channel comes to by the deadline; `isAnswer` says what answers it. -/
structure Told (topic : Pair) (isAnswer : Event → Prop) (outcomes : List (String × Bool))
    (channel : Nat) (c : Channel) (deadline : Moment) (hub : HeraldHub W)
    (result : Option (Except BusError Unit)) (m' : Moment) (hub' : HeraldHub W) : Prop where
  /-- One question, and the outcomes, are recorded. -/
  records : Office.Records outcomes 1 hub hub'
  /-- It ends by the deadline. -/
  inTime : m' ≤ deadline
  /-- If it fails this is foreseen. -/
  failure : ∀ e, result = some (.error e) → e.IsForeseen topic
  /-- If it does not fail the channel holds one answer more, and that is an answer to it. -/
  answer : result = some (.ok ()) →
    ∃ a, hub'.channel? channel = some (c.holding a) ∧ isAnswer a

namespace Told

variable {isAnswer : Event → Prop} {outcomes : List (String × Bool)} {channel : Nat} {c : Channel}

theorem late (hrecords : Office.Records outcomes 1 hub hub') (hintime : m' ≤ deadline) :
    Told topic isAnswer outcomes channel c deadline hub none m' hub' where
  records := hrecords
  inTime := hintime
  failure := nofun
  answer := nofun

theorem failed (hrecords : Office.Records outcomes 1 hub hub') (hintime : m' ≤ deadline)
    {e : BusError} (hforeseen : e.IsForeseen topic) :
    Told topic isAnswer outcomes channel c deadline hub (some (.error e)) m' hub' where
  records := hrecords
  inTime := hintime
  failure := by
    rintro e' ⟨⟩
    exact hforeseen
  answer := nofun

/-- Whoever answers puts the answer into the channel, in which there is room. -/
theorem answered (hrecords : Office.Records outcomes 1 hub hub') (hintime : m' ≤ deadline)
    (hc : hub'.channel? channel = some c) (hroom : c.HasRoom) {e : Event}
    (he : e.channel = some channel) (source : String) {payload : Payload}
    (hpayload : ∀ a : Event, a.Tells payload → isAnswer a) :
    (Hub.respond e source payload hub').1 = .ok () ∧
    Told topic isAnswer outcomes channel c deadline hub (some (.ok ())) m'
      (Hub.respond e source payload hub').2 := by
  obtain ⟨hub'', answer, hrespond, houtside, hbuses, hchannel, htells⟩ :=
    Hub.respond_eq he hc hroom source payload
  rw [hrespond]
  exact ⟨rfl, hrecords.concat_same hbuses (by rw [houtside]), hintime, nofun,
    fun _ => ⟨answer, hchannel, hpayload answer htells⟩⟩

/-- Either the question was answered, or it is the last one and the request fails as foreseen. -/
theorem answered_or_failed {result : Option (Except BusError Unit)} {expected : List Kind}
    {asked : Except BusError Unit} {answer : Except BusError Responses} {hub₁ hub₂ : HeraldHub W}
    (htold : Told topic isAnswer outcomes channel c deadline hub result m' hub')
    (hlate : result = none → asked = .error (.timeout expected) ∧ hub₁ = hub')
    (hfailed : ∀ e, result = some (.error e) → asked = .error e ∧ hub₁ = hub')
    (hasked : ∀ e, asked = .error e → answer = .error e ∧ hub₂ = hub₁) :
    result = some (.ok ()) ∨
    (result ≠ some (.ok ()) ∧ hub₂ = hub' ∧ ∃ e, answer = .error e ∧ e.IsForeseen topic) := by
  rcases result with _ | e | _
  · obtain ⟨htimeout, rfl⟩ := hlate rfl
    obtain ⟨rfl, rfl⟩ := hasked _ htimeout
    exact .inr ⟨nofun, rfl, _, rfl, .timeout _⟩
  · obtain ⟨herror, rfl⟩ := hfailed e rfl
    obtain ⟨rfl, rfl⟩ := hasked _ herror
    exact .inr ⟨nofun, rfl, e, rfl, htold.failure e rfl⟩
  · exact .inl rfl

end Told

section Questions

variable (hsleeps : h.outside.OnlySleeps) (depth : Nat) (hstaffed : Office.IsStaffed hub)
  (hle : m ≤ deadline)

include hsleeps hstaffed hle

/-- The rate desk asks the chain, unless the pair is refused. -/
theorem asked_fetch (henabled : h.settings.enabled ≠ [])
    {answer : Option (Except RateError Rate)}
    (hfetch : (((h.staff.provider (h.staff.handler.publisher (depth + 1))).fetch topic).within
      deadline).Ends m hub answer m' hub') :
    Office.Records (h.attemptsBy topic deadline m hub.outside.world) 0 hub hub' ∧
    hub'.channels = hub.channels ∧ m' ≤ deadline ∧
    ((∃ rate, answer = some (.ok rate)) ↔
      (h.attemptsBy topic deadline m hub.outside.world).any Prod.snd = true) ∧
    ∀ e, answer = some (.error e) →
      BusError.IsForeseen topic (.dispatch .rateRequested [.listener (.rate e)]) := by
  change ((Chain.fetch _ topic).within deadline).Ends _ _ _ _ _ at hfetch
  rw [Chain.fetch, Pair.validate] at hfetch
  by_cases hvalid : topic.isValid = true
  · rw [if_pos hvalid, providers_chain] at hfetch
    have hlinks : ∀ p ∈ h.links, (p.fetch topic).OnlySleeps := by
      intro p hp
      obtain ⟨⟨service, access⟩, -, rfl⟩ := List.mem_map.1 hp
      exact onlySleeps_link hsleeps service access topic
    have hne : h.links ≠ [] := fun hnil => henabled (List.map_eq_nil_iff.1 hnil)
    have hasked := Office.of_fetchFrom_within hsleeps.staff depth hlinks hstaffed hle hfetch
    rw [attemptsBy, if_pos hvalid]
    refine ⟨hasked.records, hasked.channels, hasked.inTime, hasked.rate, ?_⟩
    intro e he
    obtain ⟨name, cause, rfl⟩ := hasked.failure e he (.inl hne)
    exact .unavailable name cause
  · rw [if_neg hvalid] at hfetch
    cases hfetch
    rw [attemptsBy, if_neg hvalid]
    refine ⟨.of_same rfl rfl, rfl, hle, by simp, ?_⟩
    rintro e ⟨⟩
    exact .invalidPair _ (Bool.eq_false_iff.2 hvalid)

variable {channel : Nat} {c : Channel} (hc : hub.channel? channel = some c) (hroom : c.HasRoom)
  {source : String} {result : Option (Except BusError Unit)}

include hc hroom

/-- A question for a rate. -/
theorem told_rate (henabled : h.settings.enabled ≠ [])
    (htell : (((h.staff.handler.publisher (depth + 1 + 1)).tell Hub.mainBus source .rateRequested
      (.rateRequested topic) (some channel)).within deadline).Ends m hub result m' hub') :
    Told topic Event.TellsRate (h.attemptsBy topic deadline m hub.outside.world) channel c deadline
        hub result m' hub' ∧
      (result = some (.ok ()) ↔
        (h.attemptsBy topic deadline m hub.outside.world).any Prod.snd = true) := by
  obtain ⟨answer, hdesk, rfl⟩ := Handler.of_tell_within h.staff.handler (depth + 1) hstaffed.rates
    (fun e => hsleeps.staff.respondRate (hsleeps.staff.publisher _) e) htell
  change ((Job.bind ((h.staff.provider (h.staff.handler.publisher (depth + 1))).fetch topic)
    _).within deadline).Ends _ _ _ _ _ at hdesk
  rw [Job.within_bind] at hdesk
  obtain ⟨fetched, m₁, hub₁, hfetch, hrest⟩ := hdesk.of_bind
  obtain ⟨hrecords, hchannels, hintime, hrate, hfailure⟩ := asked_fetch hsleeps depth
    (hstaffed.of_records hstaffed.records_told) hle henabled hfetch
  have hboth := hstaffed.records_told.trans hrecords
  have hattempts : (h.attemptsBy topic deadline m hub.outside.world).any Prod.snd = true ↔
      ∃ rate, fetched = some (.ok rate) := hrate.symm
  rw [hattempts]
  rcases fetched with _ | e | rate
  · cases hrest
    exact ⟨.late hboth hintime, by simp⟩
  · cases hrest
    exact ⟨.failed hboth hintime (hfailure e rfl), by simp [gather, failures]⟩
  · cases hrest
    have hc' : hub₁.channel? channel = some c := by
      rw [Hub.channel?, hchannels]
      exact hc
    obtain ⟨hok, htold⟩ := Told.answered hboth hintime hc' hroom (e := ⟨hub.events, none, source,
      .rateRequested, .rateRequested topic, some channel⟩) rfl "rate"
      fun a ha => (⟨rate, ha⟩ : a.TellsRate)
    refine ⟨?_, ?_⟩
    · rw [Option.map_some, hok]
      exact htold
    · rw [Option.map_some, hok]
      simp [gather, failures]

/-- A question for subscribers. -/
theorem told_subscribers
    (htell : (((h.staff.handler.publisher (depth + 1)).tell Hub.mainBus source .subscribersRequested
      (.subscribersRequested topic) (some channel)).within deadline).Ends m hub result m' hub') :
    Told topic (Event.TellsSubscribers topic) [] channel c deadline hub result m' hub' := by
  obtain ⟨answer, hdesk, rfl⟩ := Handler.of_tell_within h.staff.handler depth hstaffed.subscribers
    (fun e => hsleeps.staff.respondSubscribers e) htell
  change ((Job.bind ((Repository.ofCollection h.records).list.on Office.diskPart) _).within
    deadline).Ends _ _ _ _ _ at hdesk
  rw [Job.within_bind, Job.within_on] at hdesk
  obtain ⟨listed, m₁, hub₁, hinHub, hrest⟩ := hdesk.of_bind
  obtain ⟨disk, hlist, rfl⟩ := hinHub.of_on Office.diskPart_lawful
  obtain ⟨hintime, hfailure⟩ := Repository.of_list_within h.records hle hlist
  have hboth : Office.Records [] 1 hub (Office.diskPart.set disk (hub.told Hub.mainBus)) :=
    hstaffed.records_told.concat_same rfl rfl
  rcases listed with _ | cause | subscriptions
  · cases hrest
    exact .late hboth hintime
  · cases hrest
    obtain ⟨e, rfl⟩ := hfailure cause rfl
    exact .failed hboth hintime (.storage e)
  · cases hrest
    obtain ⟨hok, htold⟩ := Told.answered hboth hintime hc hroom (e := ⟨hub.events, none, source,
      .subscribersRequested, .subscribersRequested topic, some channel⟩) rfl "subscription"
      fun a ha => (⟨_, ha⟩ : a.TellsSubscribers topic)
    rw [Option.map_some, hok]
    exact htold

end Questions

/-! ## Requests -/

/-- The services that are done by the deadline of a call, and whether each of them gave a rate. -/
def attempts (h : Herald W) (topic : Pair) (m : Moment) (w : W) : List (String × Bool) :=
  h.attemptsBy topic (m.after h.settings.requestTimeout.ms) m w

/-- What a request leaves, how it fails if it does, and what is told of its answers if not. -/
structure Requested (topic : Pair) (isAnswered : Responses → Prop) (outcomes : List (String × Bool))
    (asks : Nat) (hub : HeraldHub W) (answer : Except BusError Responses) (hub' : HeraldHub W) :
    Prop where
  /-- The outcomes and the questions are recorded. -/
  records : Office.Records outcomes asks hub hub'
  /-- A failure is foreseen. -/
  foreseen : ∀ e, answer = .error e → e.IsForeseen topic
  /-- What is told of the answers. -/
  answered : ∀ responses, answer = .ok responses → isAnswered responses

namespace Requested

variable {isAnswered : Responses → Prop} {outcomes : List (String × Bool)}
  {asks capacity channel : Nat}

/-- Opening a channel and closing it is not recorded. -/
theorem records_closed
    (hrecords : Office.Records outcomes asks (hub.openChannel capacity).2 hub') :
    Office.Records outcomes asks hub (hub'.onChannel channel Channel.close) := by
  have hopened : Office.Records [] 0 hub (hub.openChannel capacity).2 := .of_same rfl rfl
  have hboth := hopened.trans hrecords
  rw [List.nil_append, Nat.zero_add] at hboth
  exact hboth.concat_same rfl rfl

theorem failed (hrecords : Office.Records outcomes asks (hub.openChannel capacity).2 hub')
    {e : BusError} (hforeseen : e.IsForeseen topic) :
    Requested topic isAnswered outcomes asks hub (.error e)
      (hub'.onChannel channel Channel.close) := by
  refine ⟨records_closed hrecords, ?_, nofun⟩
  rintro e' ⟨⟩
  exact hforeseen

theorem settled (hrecords : Office.Records outcomes asks (hub.openChannel capacity).2 hub')
    {responses : Responses} (hanswered : isAnswered responses) :
    Requested topic isAnswered outcomes asks hub (.ok responses)
      (hub'.onChannel channel Channel.close) := by
  refine ⟨records_closed hrecords, nofun, ?_⟩
  rintro responses' ⟨⟩
  exact hanswered

end Requested

section Requests

variable (hsleeps : h.outside.OnlySleeps) (henabled : h.settings.enabled ≠ [])
  (htimeout : 0 < h.settings.requestTimeout.ms) (hstaffed : Office.IsStaffed hub)
  {answer : Except BusError Responses}

include hsleeps henabled htimeout hstaffed

/-- A request for a rate. -/
theorem requested_rate
    (hrequest : (h.staff.publisher.request Hub.mainBus
      ⟨"subscription", [Notifier.rateAsk topic], h.settings.requestTimeout⟩).Ends m hub answer m'
      hub') :
    Requested topic (fun responses => ∃ value, responses.rate? = some value)
      (h.attempts topic m hub.outside.world) 1 hub answer hub' := by
  have hopened : Office.IsStaffed (hub.openChannel 1).2 := hstaffed.of_buses rfl
  obtain ⟨deadline, asked, m₂, hub₁, hub₂, hdeadline, hask, rfl, hasked, hwait⟩ :=
    Publisher.of_request hrequest
  obtain rfl := Moment.after_eq_of_deadline? hdeadline
  obtain ⟨result, m₁, hub₃, htell, hlate, hfailed, hothers⟩ := Publisher.of_ask_cons hask
  obtain ⟨htold, -⟩ := told_rate hsleeps 998 hopened (m.le_after htimeout)
    (hub.channel?_openChannel 1) ⟨rfl, rfl, by decide⟩ henabled htell
  rcases htold.answered_or_failed hlate hfailed hasked with hok | ⟨-, rfl, e, rfl, hforeseen⟩
  · cases hothers hok
    obtain ⟨a, hchannel, rate, htells⟩ := htold.answer hok
    obtain ⟨rfl, houtside, hbuses⟩ := of_waitFor hchannel (Wait.moveUntil_singleton a)
      (Wait.verdict?_singleton htells.kind_eq) (hwait rfl)
    exact .settled (htold.records.concat_same hbuses (by rw [houtside]))
      ⟨rate.value, Responses.rate?_of_tells htells []⟩
  · exact .failed htold.records hforeseen

/-- A request for a rate and for subscribers. The second question is put only if there is a rate. -/
theorem requested_bulletin
    (hrequest : (h.staff.publisher.request Hub.mainBus ⟨"subscription",
      [Notifier.rateAsk topic, Notifier.subscribersAsk topic], h.settings.requestTimeout⟩).Ends m hub
      answer m' hub') :
    Requested topic (fun responses => ∃ value names, responses.rate? = some value ∧
        responses.subscribers? = some names)
      (h.attempts topic m hub.outside.world)
      (if (h.attempts topic m hub.outside.world).any Prod.snd then 2 else 1) hub answer hub' := by
  have hopened : Office.IsStaffed (hub.openChannel 2).2 := hstaffed.of_buses rfl
  have hroom : (Channel.ofCapacity 2).HasRoom := ⟨rfl, rfl, by decide⟩
  obtain ⟨deadline, asked, m₂, hub₁, hub₂, hdeadline, hask, rfl, hasked, hwait⟩ :=
    Publisher.of_request hrequest
  obtain rfl := Moment.after_eq_of_deadline? hdeadline
  obtain ⟨result, m₁, hub₃, htell, hlate, hfailed, hothers⟩ := Publisher.of_ask_cons hask
  obtain ⟨htold, hanswered⟩ := told_rate hsleeps 998 hopened (m.le_after htimeout)
    (hub.channel?_openChannel 2) hroom henabled htell
  have hany : result = some (.ok ()) ↔
    (h.attempts topic m hub.outside.world).any Prod.snd = true := hanswered
  rcases htold.answered_or_failed hlate hfailed hasked with hok | ⟨hnot, rfl, e, rfl, hforeseen⟩
  · rw [if_pos (hany.1 hok)]
    obtain ⟨a, hchannel, rate, htells⟩ := htold.answer hok
    obtain ⟨result', m₃, hub₄, htell', hlate', hfailed', hothers'⟩ :=
      Publisher.of_ask_cons (hothers hok)
    -- the first answer waits in the channel while the second question is put
    have htold' := told_subscribers hsleeps 999 (hopened.of_records htold.records) htold.inTime
      hchannel (hroom.holding a (by decide)) htell'
    have hrecords := htold.records.trans htold'.records
    rw [List.append_nil] at hrecords
    rcases htold'.answered_or_failed hlate' hfailed' hasked with hok' | ⟨-, rfl, e, rfl, hforeseen⟩
    · cases hothers' hok'
      obtain ⟨a', hchannel', names, htells'⟩ := htold'.answer hok'
      have hne : Kind.rateResponded ≠ Kind.subscribersResponded := by decide
      have hkind : a.kind = .rateResponded := htells.kind_eq
      obtain ⟨rfl, houtside, hbuses⟩ := of_waitFor hchannel' (Wait.moveUntil_pair a' hne hkind)
        (Wait.verdict?_pair hne hkind htells'.kind_eq) (hwait rfl)
      exact .settled (hrecords.concat_same hbuses (by rw [houtside]))
        ⟨rate.value, names, Responses.rate?_of_tells htells [a'],
          Responses.subscribers?_of_tells (hkind ▸ hne) htells'⟩
    · exact .failed hrecords hforeseen
  · rw [if_neg fun htrue => hnot (hany.2 htrue)]
    exact .failed htold.records hforeseen

end Requests

/-! ## Calls -/

/-- What one call for a pair leaves, and how it fails if it does. -/
structure Call {α : Type} (topic : Pair) (outcomes : List (String × Bool)) (asks : Nat)
    (hub : HeraldHub W) (answer : Except NotifyError α) (hub' : HeraldHub W) : Prop where
  /-- The outcomes and the questions are recorded. -/
  records : Office.Records outcomes asks hub hub'
  /-- A failure is foreseen. -/
  foreseen : ∀ e, answer = .error e → e.IsForeseen topic

/-- How many questions a call to mail a rate puts: none for a pair that is refused, and the one for
subscribers only if there is a rate. -/
def asksOfMails (h : Herald W) (topic : Pair) (m : Moment) (w : W) : Nat :=
  if topic.isValid then if (h.attempts topic m w).any Prod.snd then 2 else 1 else 0

section Calls

/-- A call that only requests something fails as the request does. -/
theorem call_of_requested {α : Type} {asked : List (Payload × Kind)}
    {isAnswered : Responses → Prop} {outcomes : List (String × Bool)} {asks : Nat}
    {pick : Responses → Except NotifyError α} {answer : Except NotifyError α}
    (hpick : ∀ responses, isAnswered responses → ∃ a, pick responses = .ok a)
    (hrequested : ∀ {answer m' hub'}, (h.staff.publisher.request Hub.mainBus
        ⟨"subscription", asked, h.settings.requestTimeout⟩).Ends m hub answer m' hub' →
      Requested topic isAnswered outcomes asks hub answer hub')
    (hends : ((h.notifier.request asked).bind fun responses =>
      .done (responses.bind pick)).Ends m hub answer m' hub') :
    Call topic outcomes asks hub answer hub' := by
  obtain ⟨told, m₁, hub₁, htold, hdone⟩ := hends.of_bind
  obtain ⟨responses, m₂, hub₂, hrequest, hdone'⟩ := Job.Ends.of_bind htold
  cases hdone'
  cases hdone
  have hcall := hrequested hrequest
  refine ⟨hcall.records, ?_⟩
  intro e he
  rcases responses with cause | responses
  · cases he
    exact .bus (hcall.foreseen cause rfl)
  · obtain ⟨a, ha⟩ := hpick responses (hcall.answered responses rfl)
    change pick responses = .error e at he
    rw [ha] at he
    cases he

/-- Mails that are sent change nothing but the world. -/
theorem of_sendAll {compose : Mailbox → Message} {subscribers : List String}
    {results : List (Except MailError Unit)}
    (hends : (Job.inTurn (subscribers.map (h.notifier.sendTo compose))).Ends m hub results m' hub') :
    ∃ w, hub' = Office.worldPart.set w hub := by
  induction subscribers generalizing m hub results with
  | nil =>
    cases hends
    exact ⟨Office.worldPart.get _, rfl⟩
  | cons subscriber rest ih =>
    obtain ⟨result, m₁, hub₁, hfirst, hothers⟩ := Job.Ends.of_bind hends
    obtain ⟨results', m₂, hub₂, hrest, hdone⟩ := Job.Ends.of_bind hothers
    cases hdone
    obtain ⟨w, rfl⟩ : ∃ w, hub₁ = Office.worldPart.set w hub := by
      rw [Notifier.sendTo] at hfirst
      split at hfirst
      · cases hfirst
        exact ⟨Office.worldPart.get _, rfl⟩
      · obtain ⟨w, -, hset⟩ := Job.Ends.of_on Office.worldPart_lawful hfirst
        exact ⟨w, hset⟩
    obtain ⟨w', hset⟩ := ih hrest
    exact ⟨w', hset⟩

theorem isForeseen_tellDeliveries {results : List (Except MailError Unit)} {e : NotifyError}
    (h : Notifier.tellDeliveries results = .error e) : e.IsForeseen topic := by
  rw [Notifier.tellDeliveries] at h
  split at h
  · cases h
  · cases h
    exact .delivery _ _

variable (hsleeps : h.outside.OnlySleeps) (henabled : h.settings.enabled ≠ [])
  (htimeout : 0 < h.settings.requestTimeout.ms) (hstaffed : Office.IsStaffed hub)

include hsleeps henabled htimeout hstaffed

theorem call_requestRate {answer : Except NotifyError Float}
    (hends : (h.notifier.requestRate topic).Ends m hub answer m' hub') :
    Call topic (h.attempts topic m hub.outside.world) 1 hub answer hub' := by
  refine call_of_requested ?_ (requested_rate hsleeps henabled htimeout hstaffed) hends
  rintro responses ⟨value, hvalue⟩
  exact ⟨value, by rw [Notifier.rateOf, hvalue]⟩

theorem call_requestBulletin {answer : Except NotifyError Bulletin}
    (hends : (h.notifier.requestBulletin topic).Ends m hub answer m' hub') :
    Call topic (h.attempts topic m hub.outside.world)
      (if (h.attempts topic m hub.outside.world).any Prod.snd then 2 else 1) hub answer hub' := by
  refine call_of_requested ?_ (requested_bulletin hsleeps henabled htimeout hstaffed) hends
  rintro responses ⟨value, names, hvalue, hnames⟩
  exact ⟨_, Notifier.bulletinOf_eq hvalue hnames⟩

theorem call_sendMails {answer : Except NotifyError Nat}
    (hends : (h.notifier.sendMails topic).Ends m hub answer m' hub') :
    Call topic (h.attempts topic m hub.outside.world) (h.asksOfMails topic m hub.outside.world) hub
      answer hub' := by
  rw [Notifier.sendMails, Pair.validate] at hends
  by_cases hvalid : topic.isValid = true
  · rw [if_pos hvalid] at hends
    obtain ⟨bulletin, m₁, hub₁, hrequest, hrest⟩ := Job.Ends.of_bind hends
    have hcall := call_requestBulletin hsleeps henabled htimeout hstaffed hrequest
    rw [asksOfMails, if_pos hvalid]
    rcases bulletin with e | bulletin
    · cases hrest
      refine ⟨hcall.records, ?_⟩
      rintro e' ⟨⟩
      exact hcall.foreseen e rfl
    · by_cases hnobody : bulletin.subscribers.isEmpty = true
      · simp only [hnobody, if_true] at hrest
        cases hrest
        refine ⟨hcall.records, ?_⟩
        rintro e ⟨⟩
        exact .noSubscribers
      · simp only [hnobody] at hrest
        obtain ⟨stamp, m₂, hub₂, hclock, hmails⟩ := Job.Ends.of_bind hrest
        obtain ⟨w, -, rfl⟩ := Job.Ends.of_on Office.worldPart_lawful hclock
        obtain ⟨results, m₃, hub₃, hsend, hdone⟩ := Job.Ends.of_bind hmails
        obtain ⟨w', rfl⟩ := of_sendAll hsend
        cases hdone
        refine ⟨hcall.records.concat_same rfl rfl, ?_⟩
        intro e he
        exact isForeseen_tellDeliveries he
  · rw [if_neg hvalid] at hends
    cases hends
    rw [asksOfMails, if_neg hvalid, attempts, attemptsBy, if_neg hvalid]
    refine ⟨.of_same rfl rfl, ?_⟩
    rintro e ⟨⟩
    exact .invalid _ (Bool.eq_false_iff.2 hvalid)

end Calls

end Herald

end RateHerald
