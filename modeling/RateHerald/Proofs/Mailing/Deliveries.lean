import RateHerald.Proofs.Mailing.Mailboxes
import RateHerald.Proofs.Office.Desks
import RateHerald.Proofs.Records.Runs

/-!
# Who is mailed

Whoever subscribes to a pair is mailed its rate, once and at the address that was given, and nobody
else is. A mail goes a long way: the subscription is a record under a key, the records are listed
and read, those of the pair are named to the notifier by the shown form of their mailbox, and that is
read again. Along this way the subscriptions are followed as one list, the records that were won.

Nothing is known of those outside but that they are reliable: somebody answers with a rate in time,
mails are accepted, the clock can be read.

## Main declarations

* `Post` and `Post.IsReliable`.
* `Post.accepted` and `Post.followers`: the subscriptions that were accepted, and those to a pair.
* `Post.ends_subscribeAll`: what subscribing one after another leaves.
* `Post.ends_sendMails`: who is mailed.
-/

namespace RateHerald

variable {W : Type}

/-- An office that keeps subscriptions on its disk and mails rates, with whomever outside. -/
structure Post (W : Type) where
  /-- The directory for records. -/
  base : String
  /-- The provider that the rate desk asks, given how it can publish. -/
  provider : Publisher (Listener Empty) (Office W) → Provider (OfficeHub Empty W)
  /-- Who sends the mails. -/
  mailer : Mailer W
  /-- What time it is. -/
  clock : Job W Stamp
  /-- The sender that mails name. -/
  sender : Option Mailbox
  /-- How long a request may take. -/
  timeout : Span

namespace Post

/-- Where subscriptions are kept. -/
def records (post : Post W) : Collection Subscription :=
  Collection.below Codec.subscription post.base

/-- The staff. -/
def staff (post : Post W) : Staff Empty W where
  provider := post.provider
  repository := (Repository.ofCollection post.records).on Office.diskPart
  guest _ g _ := nomatch g

/-- The notifier. -/
def notifier (post : Post W) : Notifier (Listener Empty) (Office W) where
  publish := post.staff.publisher
  repository := post.staff.repository
  mailer m := (post.mailer m).on Office.worldPart
  clock := post.clock.on Office.worldPart
  sender := post.sender
  timeout := post.timeout

/-- Those outside are reliable as far as a topic is concerned; `outbox` are the mails that were
accepted so far. -/
structure IsReliable (post : Post W) (topic : Pair) (outbox : W → List Message) : Prop where
  /-- Whoever gives rates pauses for time only. -/
  sleeps : ∀ publish : Publisher (Listener Empty) (Office W), publish.OnlySleeps →
    ∀ pair, ((post.provider publish).fetch pair).OnlySleeps
  /-- There is a rate before the time is over; disk and mails are left alone. -/
  answers : ∀ depth m hub, Office.IsStaffed hub → ∃ rate m' hub',
    ((post.provider (post.staff.handler.publisher (depth + 1))).fetch topic).Ends m hub (.ok rate) m'
      hub' ∧
    m'.ms < m.ms + post.timeout.ms ∧ hub.Alike hub' ∧ hub'.outside.disk = hub.outside.disk ∧
    outbox hub'.outside.world = outbox hub.outside.world
  /-- Every mail is accepted. -/
  accepts : ∀ message m w, ∃ m' w', (post.mailer message).Ends m w (.ok ()) m' w' ∧
    outbox w' = outbox w ++ [message]
  /-- The clock can be read. -/
  tells : ∀ m w, ∃ stamp m' w', post.clock.Ends m w stamp m' w' ∧ outbox w' = outbox w

variable {post : Post W}

theorem records_lawful (post : Post W) : post.records.codec.Lawful :=
  Codec.subscription_lawful

/-! ## Subscribing -/

/-- The subscriptions that were accepted, by what was answered. -/
def accepted (subscriptions : List Subscription) (results : List (Except NotifyError Unit)) :
    List Subscription :=
  ((subscriptions.zip results).filter fun r => r.2.isOk).map Prod.fst

theorem accepted_cons (s : Subscription) (subscriptions : List Subscription)
    (result : Except NotifyError Unit) (results : List (Except NotifyError Unit)) :
    accepted (s :: subscriptions) (result :: results) =
      (if result.isOk then [s] else []) ++ accepted subscriptions results := by
  rw [accepted, List.zip_cons_cons, List.filter_cons]
  split <;> rfl

theorem ends_add (post : Post W) (s : Subscription) (m : Moment) (hub : OfficeHub Empty W) :
    (post.staff.repository.add s).Ends m hub
      (Repository.ofStored s (post.records.store s.key s hub.outside.disk).1) m.nextRound
      (Office.diskPart.set (post.records.store s.key s hub.outside.disk).2 hub) := by
  refine Job.Ends.on Office.diskPart_lawful ?_
  refine Job.Ends.bind (Job.ends_change (post.records.store s.key s) m hub.outside.disk) ?_
  exact Job.Ends.bind (Job.ends_yield m _) (Job.ends_done _ _ _)

/-- A subscription to an acceptable pair is answered as its storing is, and its record is a new
winner exactly if it is accepted. -/
theorem ends_subscribe_of_ok {hub : OfficeHub Empty W}
    {past : List (Collection.Answered Subscription)}
    (hkeeps : post.records.Keeps hub.outside.disk past) {s : Subscription}
    (htopic : s.topic.validate = .ok ()) (m : Moment) :
    let result := (Repository.ofStored s (post.records.verdict past s.key)).mapError .ofRepository
    ∃ m' hub' past', (post.notifier.subscribe s).Ends m hub result m' hub' ∧
      hub.Alike hub' ∧ hub'.outside.world = hub.outside.world ∧
      post.records.Keeps hub'.outside.disk past' ∧
      Collection.winners past' =
        Collection.winners past ++ if result.isOk then [(s.key, s)] else [] := by
  intro result
  obtain ⟨hanswer, hkept⟩ := hkeeps.store post.records_lawful s.key s
  refine ⟨m.nextRound, Office.diskPart.set (post.records.store s.key s hub.outside.disk).2 hub, _,
    ?_, ⟨rfl, fun _ => rfl, fun _ => rfl⟩, rfl, hkept, ?_⟩
  · simp only [result]
    rw [Notifier.subscribe, htopic, ← hanswer]
    exact Job.Ends.bind (ends_add post s m hub) (Job.ends_done _ _ _)
  · have hwon : ∀ v : Except StoreError Unit, (Collection.Answered.stored s.key s v).won?.toList =
        if ((Repository.ofStored s v).mapError NotifyError.ofRepository).isOk then [(s.key, s)]
        else [] := by
      intro v
      rcases v with e | _
      · cases e <;> rfl
      · rfl
    rw [Collection.winners_concat]
    exact congrArg _ (hwon _)

/-- One subscription: it is accepted exactly if its record is a new winner. -/
theorem ends_subscribe {hub : OfficeHub Empty W} {past : List (Collection.Answered Subscription)}
    (hkeeps : post.records.Keeps hub.outside.disk past) (s : Subscription) (m : Moment) :
    ∃ result m' hub' past', (post.notifier.subscribe s).Ends m hub result m' hub' ∧
      hub.Alike hub' ∧ hub'.outside.world = hub.outside.world ∧
      post.records.Keeps hub'.outside.disk past' ∧
      Collection.winners past' =
        Collection.winners past ++ if result.isOk then [(s.key, s)] else [] := by
  cases hvalid : s.topic.validate with
  | error e =>
    rw [Notifier.subscribe, hvalid]
    refine ⟨_, m, hub, past, Job.ends_done _ _ _, .refl hub, rfl, hkeeps, ?_⟩
    exact (List.append_nil _).symm
  | ok u => exact ⟨_, ends_subscribe_of_ok hkeeps hvalid m⟩

/-- Subscribing one after another leaves the records of those that were accepted. -/
theorem ends_subscribeAll {hub : OfficeHub Empty W}
    {past : List (Collection.Answered Subscription)}
    (hkeeps : post.records.Keeps hub.outside.disk past) (subscriptions : List Subscription)
    (m : Moment) :
    ∃ results m' hub' past',
      (Job.inTurn (subscriptions.map post.notifier.subscribe)).Ends m hub results m' hub' ∧
      results.length = subscriptions.length ∧ hub.Alike hub' ∧ hub'.outside.world = hub.outside.world ∧
      post.records.Keeps hub'.outside.disk past' ∧
      Collection.winners past' =
        Collection.winners past ++ (accepted subscriptions results).map fun s => (s.key, s) := by
  induction subscriptions generalizing hub past m with
  | nil =>
    exact ⟨[], m, hub, past, Job.ends_inTurn_nil _ _, rfl, .refl hub, rfl, hkeeps,
      by simp [accepted]⟩
  | cons s rest ih =>
    obtain ⟨result, m₁, hub₁, past₁, hfirst, halike₁, hworld₁, hkeeps₁, hwon₁⟩ :=
      ends_subscribe hkeeps s m
    obtain ⟨results, m₂, hub₂, past₂, hothers, hlength, halike₂, hworld₂, hkeeps₂, hwon₂⟩ :=
      ih hkeeps₁ m₁
    refine ⟨result :: results, m₂, hub₂, past₂, hfirst.inTurn_cons hothers, congrArg _ hlength,
      halike₁.trans halike₂, hworld₂.trans hworld₁, hkeeps₂, ?_⟩
    rw [hwon₂, hwon₁, accepted_cons, List.map_append, List.append_assoc]
    split <;> rfl

/-- The accepted subscriptions to a pair. -/
def followers (topic : Pair) (subscriptions : List Subscription)
    (results : List (Except NotifyError Unit)) : List Subscription :=
  (accepted subscriptions results).filter fun s => s.topic == topic

theorem mem_of_mem_followers {topic : Pair} {subscriptions : List Subscription}
    {results : List (Except NotifyError Unit)} {s : Subscription}
    (h : s ∈ followers topic subscriptions results) : s ∈ subscriptions ∧ s.topic = topic := by
  obtain ⟨haccepted, htopic⟩ := List.mem_filter.1 h
  obtain ⟨⟨s', result⟩, hpair, rfl⟩ := List.mem_map.1 haccepted
  exact ⟨(List.of_mem_zip (List.mem_filter.1 hpair).1).1, beq_iff_eq.1 htopic⟩

/-- No two followers of a pair are known under the same address, since the records of all who were
accepted have keys of their own. -/
theorem nodup_followers {topic : Pair} {subscriptions : List Subscription}
    {results : List (Except NotifyError Unit)}
    (hkeys : ((accepted subscriptions results).map Subscription.key).Nodup) :
    ((followers topic subscriptions results).map fun s => s.mailbox.normalized).Nodup := by
  have hfollowers : ((followers topic subscriptions results).map Subscription.key).Nodup :=
    hkeys.sublist ((List.filter_sublist).map _)
  have hsplit : (followers topic subscriptions results).map Subscription.key =
      ((followers topic subscriptions results).map fun s => s.mailbox.normalized).map
        fun name => name ++ "_" ++ topic.base.code ++ "_" ++ topic.quote.code := by
    rw [List.map_map]
    refine List.map_congr_left fun s hs => ?_
    rw [Subscription.key, (mem_of_mem_followers hs).2]
    rfl
  rw [hsplit] at hfollowers
  exact List.Pairwise.of_map _ (fun _ _ hne heq => hne (heq ▸ rfl)) hfollowers

/-! ## Listing -/

/-- The records that were won are listed. -/
theorem ends_list {hub : OfficeHub Empty W} {past : List (Collection.Answered Subscription)}
    (hkeeps : post.records.Keeps hub.outside.disk past) (m : Moment) :
    post.staff.repository.list.Ends m hub (.ok ((Collection.winners past).map Prod.snd)) m.nextRound
      (Office.diskPart.set hub.outside.disk hub) := by
  have hfetched : Repository.ofFetched (post.records.fetchAll hub.outside.disk) =
      .ok ((Collection.winners past).map Prod.snd) := by
    rw [hkeeps.fetchAll post.records_lawful]
    by_cases htouched : Collection.isTouched past = true
    · rw [if_pos htouched]
      rfl
    · rw [if_neg htouched, hkeeps.winners_eq_nil (Bool.eq_false_iff.2 htouched)]
      rfl
  rw [← hfetched]
  refine Job.Ends.on Office.diskPart_lawful ?_
  refine Job.Ends.bind (Job.Ends.act (Job.ends_done _ _ _)) ?_
  exact Job.Ends.bind (Job.ends_yield m _) (Job.ends_done _ _ _)

theorem onlySleeps_staff {topic : Pair} {outbox : W → List Message}
    (hreliable : post.IsReliable topic outbox) : post.staff.OnlySleeps where
  provider := hreliable.sleeps
  list := Office.onlySleeps_list _
  guest _ _ g := nomatch g

/-! ## Mailing -/

theorem tellDeliveries_of_ok (mailboxes : List Mailbox) :
    Notifier.tellDeliveries (mailboxes.map fun _ => .ok ()) = .ok mailboxes.length := by
  have hnone : failures (mailboxes.map fun _ => (.ok () : Except MailError Unit)) = [] := by
    rw [failures, List.filterMap_map, List.filterMap_eq_nil_iff]
    exact fun _ _ => rfl
  rw [Notifier.tellDeliveries, hnone, List.length_map]

section Mailing

variable {topic : Pair} {outbox : W → List Message} (hreliable : post.IsReliable topic outbox)

include hreliable

/-- A mailbox that is named by its shown form is sent one mail. -/
theorem ends_sendTo {mailbox : Mailbox} (htyped : mailbox.IsTyped) (rate : Rate) (stamp : Stamp)
    (m : Moment) (hub : OfficeHub Empty W) :
    ∃ m' hub' message, (post.notifier.sendTo
        (fun recipient => Message.compose post.sender rate recipient stamp) mailbox.toText).Ends m hub
        (.ok ()) m' hub' ∧
      outbox hub'.outside.world = outbox hub.outside.world ++ [message] ∧
      message.recipient.address = mailbox.address := by
  obtain ⟨recipient, hparse, haddress⟩ := Mailbox.parse_toText htyped
  obtain ⟨m', w', hsend, houtbox⟩ := hreliable.accepts
    (Message.compose post.sender rate recipient stamp) m hub.outside.world
  refine ⟨m', Office.worldPart.set w' hub, Message.compose post.sender rate recipient stamp, ?_,
    houtbox, haddress⟩
  rw [Notifier.sendTo, hparse]
  exact hsend.on Office.worldPart_lawful

/-- Mailboxes are sent one mail each. -/
theorem ends_sendAll {mailboxes : List Mailbox} (htyped : ∀ mailbox ∈ mailboxes, mailbox.IsTyped)
    (rate : Rate) (stamp : Stamp) (m : Moment) (hub : OfficeHub Empty W) :
    ∃ m' hub' sent, (Job.inTurn ((mailboxes.map Mailbox.toText).map (post.notifier.sendTo
        fun recipient => Message.compose post.sender rate recipient stamp))).Ends m hub
        (mailboxes.map fun _ => .ok ()) m' hub' ∧
      outbox hub'.outside.world = outbox hub.outside.world ++ sent ∧
      (sent.map fun message => message.recipient.address) =
        mailboxes.map fun mailbox => mailbox.address := by
  induction mailboxes generalizing m hub with
  | nil => exact ⟨m, hub, [], Job.ends_inTurn_nil _ _, (List.append_nil _).symm, rfl⟩
  | cons mailbox rest ih =>
    obtain ⟨m₁, hub₁, message, hfirst, houtbox₁, haddress⟩ :=
      ends_sendTo hreliable (htyped mailbox List.mem_cons_self) rate stamp m hub
    obtain ⟨m₂, hub₂, sent, hothers, houtbox₂, haddresses⟩ :=
      ih (fun b hb => htyped b (List.mem_cons_of_mem mailbox hb)) m₁ hub₁
    refine ⟨m₂, hub₂, message :: sent, hfirst.inTurn_cons hothers, ?_, ?_⟩
    · rw [houtbox₂, houtbox₁, List.append_assoc, List.singleton_append]
    · rw [List.map_cons, List.map_cons, haddress, haddresses]

/-- The request that goes before the mails names the rate that is answered and the mailboxes of the
records that follow the pair, and sends nothing. -/
theorem ends_requestBulletin {hub : OfficeHub Empty W}
    {past : List (Collection.Answered Subscription)}
    (hkeeps : post.records.Keeps hub.outside.disk past) (hstaffed : Office.IsStaffed hub)
    {m deadline : Moment} (hdeadline : m.deadline? post.timeout = some deadline) :
    ∃ (rate : Rate) (m' : Moment) (hub' : OfficeHub Empty W),
      (post.notifier.requestBulletin topic).Ends m hub (.ok ⟨⟨rate.value, topic⟩,
        ((((Collection.winners past).map Prod.snd).filter fun s => s.topic == topic).map
          fun s => s.mailbox.toText)⟩) m' hub' ∧
      outbox hub'.outside.world = outbox hub.outside.world := by
  have hopened : Office.IsStaffed (hub.openChannel 2).2 := hstaffed.of_buses rfl
  obtain ⟨rate, m₁, hub₁, hfetch, htime, halike, hdisk, houtbox⟩ :=
    hreliable.answers 998 m _ (hopened.of_alike (Hub.alike_told Hub.mainBus _))
  -- the list is read while the answer about the rate is waiting in the channel
  have hlist : ∀ told : OfficeHub Empty W, told.outside = hub₁.outside →
      post.staff.repository.list.Ends m₁ told (.ok ((Collection.winners past).map Prod.snd))
        m₁.nextRound (Office.diskPart.set hub₁.outside.disk told) := by
    intro told houtside
    have hdisk' : hub.outside.disk = told.outside.disk := by
      rw [houtside, hdisk]
      rfl
    rw [hdisk'] at hkeeps
    have h := ends_list hkeeps m₁
    rwa [houtside] at h
  have hle : m₁.nextRound ≤ deadline := by
    rw [← Moment.after_eq_of_deadline? hdeadline]
    exact .inl htime
  obtain ⟨hub₂, responses, hrequest, hrate, hsubscribers, -, hworld⟩ :=
    Staff.ends_request_bulletin (onlySleeps_staff hreliable) 999 hstaffed hdeadline hfetch halike
      hlist hle "subscription"
  refine ⟨rate, m₁.nextRound, hub₂, ?_, by rw [hworld, houtbox]; rfl⟩
  rw [← Notifier.bulletinOf_eq hrate hsubscribers]
  exact Job.Ends.bind (Job.Ends.bind hrequest (Job.ends_done _ _ _)) (Job.ends_done _ _ _)

/-- What a request names is mailed: one mail to each mailbox. -/
theorem ends_sendMails_of_bulletin (htopic : topic.validate = .ok ()) {rate : Rate}
    {mailboxes : List Mailbox} {m m' : Moment} {hub hub' : OfficeHub Empty W}
    (hrequest : (post.notifier.requestBulletin topic).Ends m hub
      (.ok ⟨rate, mailboxes.map Mailbox.toText⟩) m' hub')
    (htyped : ∀ mailbox ∈ mailboxes, mailbox.IsTyped) :
    ∃ m'' hub'' sent, (post.notifier.sendMails topic).Ends m hub
        (if mailboxes.isEmpty then .error (.noSubscribers topic) else .ok mailboxes.length) m''
        hub'' ∧
      outbox hub''.outside.world = outbox hub'.outside.world ++ sent ∧
      (sent.map fun message => message.recipient.address) =
        mailboxes.map fun mailbox => mailbox.address := by
  rw [Notifier.sendMails, htopic]
  by_cases hempty : mailboxes = []
  · rw [hempty] at hrequest ⊢
    exact ⟨m', hub', [], Job.Ends.bind hrequest (Job.ends_done _ _ _), (List.append_nil _).symm,
      rfl⟩
  · obtain ⟨stamp, m₁, w, htell, hclock⟩ := hreliable.tells m' hub'.outside.world
    obtain ⟨m₂, hub₂, sent, hsend, hsent, haddresses⟩ := ends_sendAll hreliable htyped rate stamp m₁
      (Office.worldPart.set w hub')
    refine ⟨m₂, hub₂, sent, Job.Ends.bind hrequest ?_, ?_, haddresses⟩
    · have hnone : (mailboxes.map Mailbox.toText).isEmpty = false := by simp [hempty]
      have hnone' : mailboxes.isEmpty = false := by simp [hempty]
      dsimp only
      rw [hnone, hnone', ← tellDeliveries_of_ok]
      exact Job.Ends.bind (htell.on Office.worldPart_lawful)
        (Job.Ends.bind hsend (Job.ends_done _ _ _))
    · rw [hsent, ← hclock]
      rfl

/-- If the records that were won are those of the subscriptions that were accepted, their followers
are sent one mail each. -/
theorem ends_sendMails_of_keeps (htopic : topic.validate = .ok ()) {hub : OfficeHub Empty W}
    (hstaffed : Office.IsStaffed hub) {past : List (Collection.Answered Subscription)}
    (hkeeps : post.records.Keeps hub.outside.disk past) {subscriptions : List Subscription}
    {results : List (Except NotifyError Unit)}
    (hwon : Collection.winners past = (accepted subscriptions results).map fun s => (s.key, s))
    (htyped : ∀ s ∈ subscriptions, ∃ text, Mailbox.parse text = .ok s.mailbox)
    {m deadline : Moment} (hdeadline : m.deadline? post.timeout = some deadline) :
    ∃ answer m' hub' sent, (post.notifier.sendMails topic).Ends m hub answer m' hub' ∧
      outbox hub'.outside.world = outbox hub.outside.world ++ sent ∧
      (sent.map fun message => message.recipient.address).Perm
        ((followers topic subscriptions results).map fun s => s.mailbox.address) ∧
      answer = if (followers topic subscriptions results).isEmpty then .error (.noSubscribers topic)
        else .ok (followers topic subscriptions results).length := by
  obtain ⟨rate, m₁, hub₁, hrequest, houtbox⟩ :=
    ends_requestBulletin hreliable hkeeps hstaffed hdeadline
  -- what is read from the records is what was accepted, in the same order
  have hkept : (Collection.winners past).map Prod.snd = accepted subscriptions results := by
    rw [hwon, List.map_map]
    exact List.map_id _
  have hnamed : (((Collection.winners past).map Prod.snd).filter fun s => s.topic == topic).map
      (fun s => s.mailbox.toText) =
        ((followers topic subscriptions results).map Subscription.mailbox).map Mailbox.toText := by
    rw [hkept, List.map_map]
    rfl
  rw [hnamed] at hrequest
  have htyped' : ∀ mailbox ∈ (followers topic subscriptions results).map Subscription.mailbox,
      mailbox.IsTyped := by
    intro mailbox hmem
    obtain ⟨s, hs, rfl⟩ := List.mem_map.1 hmem
    obtain ⟨text, hparse⟩ := htyped s (mem_of_mem_followers hs).1
    exact Mailbox.isTyped_of_parse hparse
  obtain ⟨m₂, hub₂, sent, hsend, hsent, haddresses⟩ :=
    ends_sendMails_of_bulletin hreliable htopic hrequest htyped'
  refine ⟨_, m₂, hub₂, sent, hsend, by rw [hsent, houtbox], ?_, ?_⟩
  · rw [haddresses, List.map_map]
    exact .refl _
  · rw [List.isEmpty_map, List.length_map]

omit hreliable in
/-- Where no clock can show when the request for the rate is over, sending mails breaks off. -/
theorem breaksOff_sendMails (post : Post W) (htopic : topic.validate = .ok ()) {m : Moment}
    (hdeadline : m.deadline? post.timeout = none) (hub : OfficeHub Empty W) :
    (post.notifier.sendMails topic).BreaksOff Moment.overflow m hub := by
  rw [Notifier.sendMails, htopic]
  exact ((post.notifier.breaksOff_request hdeadline _ hub).bind _).bind _

/-- After subscriptions were asked for one after another, where nothing was kept before, every
address whose subscription to the pair was accepted is sent one mail, in the spelling in which it
was accepted, and nobody else is sent any. If no clock can show when the request for the rate is
over, sending breaks off before it does anything. -/
theorem ends_sendMails (htopic : topic.validate = .ok ()) {hub : OfficeHub Empty W}
    (hstaffed : Office.IsStaffed hub) (hvacant : hub.outside.disk.IsVacant post.records.place)
    {subscriptions : List Subscription}
    (htyped : ∀ s ∈ subscriptions, ∃ text, Mailbox.parse text = .ok s.mailbox) (m : Moment) :
    ∃ results m₁ hub₁,
      (Job.inTurn (subscriptions.map post.notifier.subscribe)).Ends m hub results m₁ hub₁ ∧
      results.length = subscriptions.length ∧
      outbox hub₁.outside.world = outbox hub.outside.world ∧
      ((followers topic subscriptions results).map fun s => s.mailbox.normalized).Nodup ∧
      ∀ later : Moment,
        (∀ deadline, later.deadline? post.timeout = some deadline → ∃ answer m₂ hub₂ sent,
          (post.notifier.sendMails topic).Ends later hub₁ answer m₂ hub₂ ∧
          outbox hub₂.outside.world = outbox hub₁.outside.world ++ sent ∧
          (sent.map fun message => message.recipient.address).Perm
            ((followers topic subscriptions results).map fun s => s.mailbox.address) ∧
          answer = if (followers topic subscriptions results).isEmpty then
              .error (.noSubscribers topic)
            else .ok (followers topic subscriptions results).length) ∧
        (later.deadline? post.timeout = none →
          (post.notifier.sendMails topic).BreaksOff Moment.overflow later hub₁) := by
  have hnothing : post.records.Keeps hub.outside.disk [] := .vacant rfl rfl hvacant
  obtain ⟨results, m₁, hub₁, past, hsubscribe, hlength, halike, hworld, hkeeps, hwon⟩ :=
    ends_subscribeAll hnothing subscriptions m
  replace hwon :
      Collection.winners past = (accepted subscriptions results).map fun s => (s.key, s) := hwon
  have hkeys : ((accepted subscriptions results).map Subscription.key).Nodup := by
    have h := hkeeps.nodup_winners
    rwa [hwon, List.map_map] at h
  refine ⟨results, m₁, hub₁, hsubscribe, hlength, by rw [hworld], nodup_followers hkeys,
    fun later => ⟨?_, ?_⟩⟩
  · intro deadline hdeadline
    exact ends_sendMails_of_keeps hreliable htopic (hstaffed.of_alike halike) hkeeps hwon htyped
      hdeadline
  · intro hdeadline
    exact breaksOff_sendMails post htopic hdeadline hub₁

end Mailing

/-- Somebody who subscribes twice, in two spellings of the address, to an office that opens on an
empty disk, and mails that are sent a minute later. -/
theorem ends_sendMails_of_two_spellings :
    let post : Post (List Message) :=
      { base := "data"
        provider := fun _ => ⟨"fixed", fun pair => .done (.ok ⟨1.0, pair⟩)⟩
        mailer := fun message => Job.change fun sent => (.ok (), sent ++ [message])
        clock := .done ⟨0, 0⟩
        sender := none
        timeout := 1000 }
    let hub : OfficeHub Empty (List Message) := Office.registerSubscriberDesk
      (Office.registerRateDesk (Hub.ofDispatch .sequential ⟨Tally.empty, Disk.empty, []⟩))
    let topic := Pair.ofTexts "btc" "uah"
    let subscriptions : List Subscription :=
      [⟨⟨some "Jane", "Jane@Example.com"⟩, topic⟩, ⟨⟨none, "jane@example.com"⟩, topic⟩]
    ∃ results m₁ hub₁ answer m₂ hub₂,
      (Job.inTurn (subscriptions.map post.notifier.subscribe)).Ends Moment.start hub results m₁
        hub₁ ∧
      (post.notifier.sendMails topic).Ends ⟨60000, 0⟩ hub₁ answer m₂ hub₂ ∧
      hub₂.outside.world.length = (followers topic subscriptions results).length := by
  intro post hub topic subscriptions
  have hreliable : post.IsReliable topic id :=
    { sleeps := fun _ _ _ => .done _
      answers := fun depth m hub' _ => ⟨⟨1.0, topic⟩, m, hub', Job.ends_done _ _ _,
        Nat.lt_add_of_pos_right (by decide), .refl hub', rfl, rfl⟩
      accepts := fun message m sent => ⟨m, sent ++ [message], Job.ends_change _ m sent, rfl⟩
      tells := fun m sent => ⟨⟨0, 0⟩, m, sent, Job.ends_done _ _ _, rfl⟩ }
  have htopic : topic.validate = .ok () := by
    rw [Pair.validate, if_pos (by decide +kernel)]
  have hvacant : hub.outside.disk.IsVacant post.records.place := by
    have hplace : post.records.place = ["data", "Subscription"] := by decide +kernel
    rw [hplace]
    exact Disk.isVacant_empty (by decide) (by decide)
  have htyped : ∀ s ∈ subscriptions, ∃ text, Mailbox.parse text = .ok s.mailbox := by
    intro s hs
    rcases List.mem_cons.1 hs with rfl | hs
    · exact ⟨"Jane <Jane@Example.com>", Mailbox.parse_of_toOption (by decide +kernel)⟩
    · rw [List.mem_singleton.1 hs]
      exact ⟨"jane@example.com", Mailbox.parse_of_toOption (by decide +kernel)⟩
  obtain ⟨results, m₁, hub₁, hsubscribe, -, hunsent, -, hmails⟩ := ends_sendMails hreliable htopic
    (Office.isStaffed_register .sequential ⟨Tally.empty, Disk.empty, []⟩) hvacant htyped
    Moment.start
  obtain ⟨answer, m₂, hub₂, sent, hsend, hsent, haddresses, -⟩ :=
    (hmails ⟨60000, 0⟩).1 ⟨61000, 0⟩ (by decide)
  refine ⟨results, m₁, hub₁, answer, m₂, hub₂, hsubscribe, hsend, ?_⟩
  have hcount := haddresses.length_eq
  rw [List.length_map, List.length_map] at hcount
  have hworld : hub₂.outside.world = sent := by
    have h : hub₂.outside.world = hub.outside.world ++ sent :=
      hsent.trans (congrArg (· ++ sent) hunsent)
    exact h
  rw [hworld, hcount]

end Post

end RateHerald
