import RateHerald.Mailing.Notifier
import RateHerald.Proofs.Events.Onlookers
import RateHerald.Proofs.Timed.Reports

/-!
# What becomes of all mails

The subscribers of a pair come over the bus as texts, and not every text need be a mailbox. Those
that are none are failures from the beginning; for each of the others the mailer is called, and what
it answers is what became of the mail. Nobody is left out and nobody is counted twice: what was sent
and what failed are together as many as there are subscribers.

The mailer is whoever it likes, as long as it answers; so is whoever answers on the bus. To tell who
was mailed, an onlooker takes a note whenever the mailer is called and whenever it answers.

## Main declarations

* `MailNote`, `Mailer.watched` and `Notifier.watched`: the onlooker.
* `Mailing`: a subscriber, and what became of the mail.
* `Account`: how subscribers, notes and result belong together.
* `Notifier.sendMails_accounts`: every run of mails is accounted for.
-/

namespace RateHerald

variable {L X : Type}

/-! ## The onlooker -/

/-- Something that an onlooker sees of a mailer. -/
inductive MailNote where
  /-- The mailer is called with a mail. -/
  | called (message : Message)
  /-- It answers. -/
  | answered (answer : Except MailError Unit)

/-- The mail that the mailer was called with. -/
def MailNote.message? : MailNote → Option Message
  | .called message => some message
  | .answered _ => none

/-- A mailer whom somebody watches. -/
def Mailer.watched (mailer : Mailer (Hub L X)) : Mailer (Hub L (X × List MailNote)) :=
  fun message => do
    Hub.takeNote (MailNote.called message)
    let answer ← (mailer message).on Hub.withoutNotes
    Hub.takeNote (MailNote.answered answer)
    return answer

/-- A notifier whose mailer somebody watches. -/
def Notifier.watched (n : Notifier L X) : Notifier L (X × List MailNote) where
  publish := n.publish.besideNotes
  repository := n.repository.on Hub.withoutNotes
  mailer := Mailer.watched n.mailer
  clock := n.clock.on Hub.withoutNotes
  sender := n.sender
  timeout := n.timeout

/-! ## Mailings -/

/-- A subscriber as the bus names it, and what became of the mail. -/
structure Mailing where
  /-- The subscriber. -/
  subscriber : String
  /-- What became of the mail. -/
  outcome : Except MailError Unit

namespace Mailing

/-- A subscriber whose mailbox cannot be read is told as a failure that lasts. -/
def IsFair (d : Mailing) : Prop :=
  ∀ e, Mailbox.parse d.subscriber = .error e → d.outcome = .error ⟨d.subscriber, e.message, false⟩

/-- What is seen of the mailer: it is called for a mailbox that can be read, and answers. -/
def notes (compose : Mailbox → Message) (d : Mailing) : List MailNote :=
  match Mailbox.parse d.subscriber with
  | .error _ => []
  | .ok mailbox => [.called (compose mailbox), .answered d.outcome]

/-- How many mails were sent. -/
def sent (mailings : List Mailing) : Nat :=
  mailings.countP fun d => d.outcome.isOk

/-- Why mails were not sent, in the order of the subscribers. -/
def errors (mailings : List Mailing) : List MailError :=
  failures (mailings.map outcome)

theorem mem_errors {mailings : List Mailing} {cause : MailError} :
    cause ∈ errors mailings ↔ ∃ d ∈ mailings, d.outcome = .error cause := by
  rw [errors, failures, List.mem_filterMap]
  constructor
  · rintro ⟨result, hresult, hcause⟩
    obtain ⟨d, hd, rfl⟩ := List.mem_map.1 hresult
    refine ⟨d, hd, ?_⟩
    rcases houtcome : d.outcome with e | _
    · rw [houtcome] at hcause
      exact congrArg Except.error (Option.some.inj hcause)
    · rw [houtcome] at hcause
      cases hcause
  · rintro ⟨d, hd, hfailed⟩
    exact ⟨d.outcome, List.mem_map_of_mem hd, by rw [hfailed]⟩

/-- Nobody is left out and nobody is counted twice. -/
theorem sent_add_length_errors (mailings : List Mailing) :
    sent mailings + (errors mailings).length = mailings.length := by
  induction mailings with
  | nil => rfl
  | cons d rest ih =>
    obtain ⟨subscriber, e | _⟩ := d
    · have hfailed : errors (⟨subscriber, .error e⟩ :: rest) = e :: errors rest := rfl
      have hunsent : sent (⟨subscriber, .error e⟩ :: rest) = sent rest :=
        List.countP_cons_of_neg Bool.false_ne_true
      rw [hfailed, hunsent, List.length_cons, List.length_cons, ← ih, Nat.add_assoc]
    · have hfine : errors (⟨subscriber, .ok ()⟩ :: rest) = errors rest := rfl
      have hsent : sent (⟨subscriber, .ok ()⟩ :: rest) = sent rest + 1 :=
        List.countP_cons_of_pos rfl
      rw [hfine, hsent, List.length_cons, ← ih, Nat.add_right_comm]

/-- The mailer is called for every mailbox that can be read, in order and once each. -/
theorem filterMap_message?_notes (compose : Mailbox → Message) (mailings : List Mailing) :
    (mailings.flatMap (notes compose)).filterMap MailNote.message? =
      ((mailings.map subscriber).filterMap fun s => (Mailbox.parse s).toOption).map compose := by
  induction mailings with
  | nil => rfl
  | cons d rest ih =>
    rw [List.flatMap_cons, List.filterMap_append, ih, List.map_cons, List.filterMap_cons, notes]
    cases Mailbox.parse d.subscriber <;> rfl

/-- A failure that may pass is one that the mailer reported. -/
theorem IsFair.failed_iff {d : Mailing} (hfair : d.IsFair) (compose : Mailbox → Message)
    {cause : MailError} (hpasses : cause.retryable = true) :
    d.outcome = .error cause ↔ MailNote.answered (.error cause) ∈ d.notes compose := by
  rw [notes]
  cases hparse : Mailbox.parse d.subscriber with
  | error e =>
    -- what cannot be read today cannot be read tomorrow
    rw [hfair e hparse]
    refine iff_of_false (fun heq => ?_) List.not_mem_nil
    cases heq
    cases hpasses
  | ok mailbox => simp [eq_comm]

theorem any_retryable_errors (compose : Mailbox → Message) {mailings : List Mailing}
    (hfair : ∀ d ∈ mailings, d.IsFair) :
    (errors mailings).any (·.retryable) = true ↔
      ∃ cause, MailNote.answered (.error cause) ∈ mailings.flatMap (notes compose) ∧
        cause.retryable = true := by
  rw [List.any_eq_true]
  refine exists_congr fun cause => and_congr_left fun hpasses => ?_
  rw [mem_errors, List.mem_flatMap]
  refine exists_congr fun d => and_congr_right fun hmem => ?_
  exact (hfair d hmem).failed_iff compose hpasses

end Mailing

/-! ## Accounts -/

/-- How subscribers, what is seen of the mailer, and the result belong together when mails about a
topic are sent. -/
structure Account (topic : Pair) (compose : Mailbox → Message) (subscribers : List String)
    (mailings : List Mailing) (seen : List MailNote) (result : Except NotifyError Nat) : Prop where
  /-- There is one mailing for each subscriber. -/
  named : mailings.map Mailing.subscriber = subscribers
  /-- A subscriber whose mailbox cannot be read is told as a failure that lasts. -/
  fair : ∀ d ∈ mailings, d.IsFair
  /-- What is seen are the calls of the mailer and its answers, one subscriber after another. -/
  seen_eq : seen = mailings.flatMap (Mailing.notes compose)
  /-- The mailer is called for every mailbox that can be read, in order and once each. -/
  called : seen.filterMap MailNote.message? =
    (subscribers.filterMap fun s => (Mailbox.parse s).toOption).map compose
  /-- Nobody is left out and nobody is counted twice. -/
  conserved : Mailing.sent mailings + (Mailing.errors mailings).length = subscribers.length
  /-- It succeeds if there are subscribers and nothing failed, with their number. -/
  ok_iff : ∀ count, result = .ok count ↔
    subscribers ≠ [] ∧ Mailing.errors mailings = [] ∧ count = subscribers.length
  /-- That there is nobody is told if there is nobody. -/
  noSubscribers_iff : result = .error (.noSubscribers topic) ↔ subscribers = []
  /-- If something failed it is told how many mails were sent, and why the others were not. -/
  delivery_iff : ∀ sent errors, result = .error (.delivery sent errors) ↔
    Mailing.errors mailings ≠ [] ∧ sent = Mailing.sent mailings ∧ errors = Mailing.errors mailings
  /-- Nothing else is told. -/
  error_cases : ∀ e, result = .error e →
    e = .noSubscribers topic ∨ e = .delivery (Mailing.sent mailings) (Mailing.errors mailings)
  /-- Asking again may succeed if the mailer reported a failure that may pass. -/
  retryable_iff : ∀ e, result = .error e →
    (e.isRetryable = true ↔
      ∃ cause, MailNote.answered (.error cause) ∈ seen ∧ cause.retryable = true)

theorem Account.nil (topic : Pair) (compose : Mailbox → Message) :
    Account topic compose [] [] [] (.error (.noSubscribers topic)) where
  named := rfl
  fair := List.forall_mem_nil _
  seen_eq := rfl
  called := rfl
  conserved := rfl
  ok_iff count := iff_of_false (by simp) fun h => h.1 rfl
  noSubscribers_iff := iff_of_true rfl rfl
  delivery_iff sent errors := iff_of_false (by simp) fun h => h.1 rfl
  error_cases e h := .inl (Except.error.inj h).symm
  retryable_iff e h := by
    cases h
    exact iff_of_false Bool.false_ne_true (by simp)

/-- What is told when mails were tried. -/
theorem Notifier.tellDeliveries_eq (mailings : List Mailing) :
    tellDeliveries (mailings.map Mailing.outcome) =
      if Mailing.errors mailings = [] then .ok mailings.length
      else .error (.delivery (Mailing.sent mailings) (Mailing.errors mailings)) := by
  have hconserved := Mailing.sent_add_length_errors mailings
  have hsent : mailings.length - (failures (mailings.map Mailing.outcome)).length =
      Mailing.sent mailings := by
    rw [← hconserved, Mailing.errors, Nat.add_sub_cancel]
  rw [tellDeliveries, Mailing.errors, List.length_map]
  split
  · next h => rw [if_pos h]
  · next h => rw [if_neg h, hsent]

theorem Account.of_mailings (topic : Pair) (compose : Mailbox → Message)
    {subscribers : List String} {mailings : List Mailing}
    (hnamed : mailings.map Mailing.subscriber = subscribers) (hsome : subscribers ≠ [])
    (hfair : ∀ d ∈ mailings, d.IsFair) :
    Account topic compose subscribers mailings (mailings.flatMap (Mailing.notes compose))
      (Notifier.tellDeliveries (mailings.map Mailing.outcome)) := by
  have hlength : subscribers.length = mailings.length := by rw [← hnamed, List.length_map]
  have hcalled := Mailing.filterMap_message?_notes compose mailings
  rw [hnamed] at hcalled
  rw [Notifier.tellDeliveries_eq, ← hlength]
  refine ⟨hnamed, hfair, rfl, hcalled, ?_, fun count => ?_, ?_, fun sent errors => ?_,
    fun e h => ?_, fun e h => ?_⟩
  · rw [Mailing.sent_add_length_errors, hlength]
  · split
    · next hnone => simp [hsome, hnone, eq_comm]
    · next hfailed => simp [hfailed]
  · split <;> simp [hsome]
  · split
    · next hnone => simp [hnone]
    · next hfailed => simp [hfailed, eq_comm]
  · split at h
    · cases h
    · exact .inr (Except.error.inj h).symm
  · split at h
    · cases h
    · cases h
      exact Mailing.any_retryable_errors compose hfair

/-! ## Sending -/

namespace Notifier

section Watching

variable {n : Notifier L X} {topic : Pair} {m m' : Moment} {hub hub' : Hub L X}

/-- The request for the rate and the subscribers of a pair. -/
def bulletinRequest (n : Notifier L X) (topic : Pair) : Request :=
  ⟨"subscription", [rateAsk topic, subscribersAsk topic], n.timeout⟩

/-- Nothing is seen of the mailer while the rate and the subscribers are asked for. -/
theorem noted_requestBulletin {answer : Except BusError Responses}
    (h : (n.publish.request Hub.mainBus (n.bulletinRequest topic)).Ends m hub answer m' hub') :
    (n.requestBulletin topic).Noted (n.watched.requestBulletin topic) m hub
      ((answer.mapError .bus).bind (bulletinOf topic)) m' hub' [] := by
  have hrequest : (n.publish.request Hub.mainBus (n.bulletinRequest topic)).Noted
      (n.watched.publish.request Hub.mainBus (n.bulletinRequest topic)) m hub answer m' hub'
      [] := by
    rw [watched, ← Publisher.request_on]
    exact .on h
  exact (hrequest.map (Except.mapError .bus)).map fun answer => answer.bind (bulletinOf topic)

variable (hmailer : ∀ message, (n.mailer message).Finishes)

include hmailer

theorem noted_sendTo (compose : Mailbox → Message) (subscriber : String) (m : Moment)
    (hub : Hub L X) :
    ∃ d : Mailing, d.subscriber = subscriber ∧ d.IsFair ∧ ∃ m' hub',
      (n.sendTo compose subscriber).Noted (n.watched.sendTo compose subscriber) m hub d.outcome m'
        hub' (d.notes compose) := by
  cases hparse : Mailbox.parse subscriber with
  | error e =>
    let refused : Mailing := ⟨subscriber, .error ⟨subscriber, e.message, false⟩⟩
    have hnotes : refused.notes compose = [] := by rw [Mailing.notes, hparse]
    refine ⟨refused, rfl, fun e' he' => ?_, m, hub, ?_⟩
    · cases hparse.symm.trans he'
      rfl
    · rw [hnotes, sendTo, sendTo, hparse]
      exact .done _ _ _
  | ok mailbox =>
    obtain ⟨answer, m', hub', hends⟩ := hmailer (compose mailbox) m hub
    have hnotes : Mailing.notes compose ⟨subscriber, answer⟩ =
        [.called (compose mailbox), .answered answer] := by rw [Mailing.notes, hparse]
    refine ⟨⟨subscriber, answer⟩, rfl, fun e' he' => ?_, m', hub', ?_⟩
    · cases hparse.symm.trans he'
    · rw [hnotes, sendTo, sendTo, hparse]
      exact Job.Noted.between hends _ _

theorem noted_sendAll (compose : Mailbox → Message) (subscribers : List String) (m : Moment)
    (hub : Hub L X) :
    ∃ mailings : List Mailing, mailings.map Mailing.subscriber = subscribers ∧
      (∀ d ∈ mailings, d.IsFair) ∧ ∃ m' hub',
        (Job.inTurn (subscribers.map (n.sendTo compose))).Noted
          (Job.inTurn (subscribers.map (n.watched.sendTo compose))) m hub
          (mailings.map Mailing.outcome) m' hub' (mailings.flatMap (Mailing.notes compose)) := by
  induction subscribers generalizing m hub with
  | nil => exact ⟨[], rfl, List.forall_mem_nil _, m, hub, .done _ _ _⟩
  | cons subscriber rest ih =>
    obtain ⟨d, rfl, hfair, m₁, hub₁, hfirst⟩ := noted_sendTo hmailer compose subscriber m hub
    obtain ⟨mailings, rfl, hfairs, m₂, hub₂, hothers⟩ := ih m₁ hub₁
    refine ⟨d :: mailings, rfl, List.forall_mem_cons.2 ⟨hfair, hfairs⟩, m₂, hub₂, ?_⟩
    rw [List.map_cons, List.map_cons, List.map_cons, List.flatMap_cons]
    exact hfirst.bind (hothers.map (d.outcome :: ·))

/-- Once the rate and the subscribers are known, the mails are accounted for. -/
theorem noted_sendMails_of_bulletin (htopic : topic.validate = .ok ()) (hclock : n.clock.Finishes)
    {bulletin : Bulletin}
    (h : (n.requestBulletin topic).Noted (n.watched.requestBulletin topic) m hub (.ok bulletin) m'
      hub' []) :
    ∃ (stamp : Stamp) (mailings : List Mailing) (seen : List MailNote)
      (result : Except NotifyError Nat) (m'' : Moment) (hub'' : Hub L X),
      (n.sendMails topic).Noted (n.watched.sendMails topic) m hub result m'' hub'' seen ∧
        Account topic (fun mailbox => Message.compose n.sender bulletin.rate mailbox stamp)
          bulletin.subscribers mailings seen result := by
  rw [sendMails, sendMails, htopic]
  cases hsubscribers : bulletin.subscribers with
  | nil =>
    refine ⟨⟨0, 0⟩, [], [], .error (.noSubscribers topic), m', hub', h.bind ?_, .nil _ _⟩
    dsimp only
    rw [hsubscribers]
    exact .done _ _ _
  | cons subscriber rest =>
    obtain ⟨stamp, m₁, hub₁, htime⟩ := hclock m' hub'
    obtain ⟨mailings, hnamed, hfair, m₂, hub₂, hsent⟩ := noted_sendAll hmailer
      (fun mailbox => Message.compose n.sender bulletin.rate mailbox stamp) (subscriber :: rest) m₁
      hub₁
    refine ⟨stamp, mailings, _, _, m₂, hub₂, h.bind ?_,
      .of_mailings topic _ hnamed (List.cons_ne_nil _ _) hfair⟩
    dsimp only
    rw [hsubscribers]
    exact (Job.Noted.on htime).bind (hsent.map tellDeliveries)

end Watching

/-- Every run of mails is accounted for. A topic that is refused, a request that fails and answers
that lack something are told, and the mailer is not called. If there is an answer, the mails to all
subscribers that it names are accounted for. They have the same sender, subject and text. -/
theorem sendMails_accounts (n : Notifier L X) (topic : Pair) (m : Moment) (hub : Hub L X) :
    let comesTo := (n.sendMails topic).Noted (n.watched.sendMails topic) m hub
    (∀ e, topic.validate = .error e → comesTo (.error (.invalid e)) m hub []) ∧
    ∀ answer m₁ hub₁, topic.validate = .ok () →
      (n.publish.request Hub.mainBus (n.bulletinRequest topic)).Ends m hub answer m₁ hub₁ →
      (∀ e, answer = .error e → comesTo (.error (.bus e)) m₁ hub₁ []) ∧
      ∀ responses, answer = .ok responses →
        (∀ e, bulletinOf topic responses = .error e → comesTo (.error e) m₁ hub₁ []) ∧
        ∀ value subscribers, responses.rate? = some value →
          responses.subscribers? = some subscribers → n.clock.Finishes →
          (∀ message, (n.mailer message).Finishes) →
          ∃ (stamp : Stamp) (mailings : List Mailing) (seen : List MailNote)
            (result : Except NotifyError Nat) (m' : Moment) (hub' : Hub L X),
            comesTo result m' hub' seen ∧
              Account topic (fun mailbox => ⟨n.sender, mailbox, Message.subjectOf topic stamp,
                Message.bodyOf value⟩) subscribers mailings seen result := by
  intro comesTo
  refine ⟨fun e htopic => ?_, fun answer m₁ hub₁ htopic hrequest => ?_⟩
  · simp only [comesTo]
    rw [sendMails, sendMails, htopic]
    exact .done _ _ _
  · have hbulletin := noted_requestBulletin hrequest
    -- without a bulletin the run is over before the mailer has its turn
    have hfailed : ∀ e, (answer.mapError .bus).bind (bulletinOf topic) = .error e →
        comesTo (.error e) m₁ hub₁ [] := by
      intro e he
      rw [he] at hbulletin
      simp only [comesTo]
      rw [sendMails, sendMails, htopic]
      exact hbulletin.bind (.done _ _ _)
    refine ⟨?_, ?_⟩
    · rintro e rfl
      exact hfailed _ rfl
    · rintro responses rfl
      refine ⟨fun e he => hfailed e he, fun value subscribers hrate hnamed hclock hmailer => ?_⟩
      have hanswer : bulletinOf topic responses = .ok ⟨⟨value, topic⟩, subscribers⟩ := by
        rw [bulletinOf, rateOf, hrate]
        dsimp only
        rw [hnamed]
      have hbound : ((Except.ok responses).mapError NotifyError.bus).bind (bulletinOf topic) = _ :=
        hanswer
      rw [hbound] at hbulletin
      obtain ⟨stamp, mailings, seen, result, m', hub', hnoted, haccount⟩ :=
        noted_sendMails_of_bulletin hmailer htopic hclock hbulletin
      exact ⟨stamp, mailings, seen, result, m', hub', hnoted, haccount⟩

/-- Somebody who answers every question at once: with a rate, or with the names of subscribers. -/
def answering (value : Float) (subscribers : List String) : Publisher Empty Unit := fun _ e =>
  Job.change (Hub.respond e "desk" (match e.payload with
    | .subscribersRequested topic => .subscribersResponded topic subscribers
    | payload => .rateResponded ⟨value, payload.pair⟩))

/-- A notifier who is answered at once, and whose mailer does not reach one of the mailboxes. -/
def ofNames (value : Float) (subscribers : List String) : Notifier Empty Unit where
  publish := answering value subscribers
  repository := ⟨fun _ => .done (.ok ()), .done (.ok [])⟩
  mailer message := .done (if message.recipient.address = "joe@example.com" then
    .error ⟨"joe@example.com", "mailbox full", true⟩ else .ok ())
  clock := .done ⟨0, 0⟩
  sender := none
  timeout := 1000

/-- One of three subscribers has no mailbox, and the last one is not reached. -/
theorem sendMails_accounts_of_three :
    let n := ofNames 1.0 ["jane@example.com", "nobody", "joe@example.com"]
    let topic := Pair.ofTexts "btc" "uah"
    ∃ stamp result m' hub' seen,
      (n.sendMails topic).Noted (n.watched.sendMails topic) Moment.start
        (Hub.ofDispatch .sequential ()) result m' hub' seen ∧
      seen.filterMap MailNote.message? =
        [Message.compose none ⟨1.0, topic⟩ ⟨none, "jane@example.com"⟩ stamp,
          Message.compose none ⟨1.0, topic⟩ ⟨none, "joe@example.com"⟩ stamp] ∧
      ∃ sent errors, result = .error (.delivery sent errors) ∧ sent + errors.length = 3 := by
  intro n topic
  have htopic : topic.validate = .ok () := by
    rw [Pair.validate, if_pos (by decide +kernel)]
  have hreadable : (["jane@example.com", "nobody", "joe@example.com"].filterMap fun s =>
      (Mailbox.parse s).toOption) = [⟨none, "jane@example.com"⟩, ⟨none, "joe@example.com"⟩] := by
    decide +kernel
  obtain ⟨-, hanswered⟩ := sendMails_accounts n topic Moment.start (Hub.ofDispatch .sequential ())
  obtain ⟨-, hmails⟩ := hanswered (.ok ⟨_⟩) _ _ htopic rfl
  obtain ⟨stamp, mailings, seen, result, m', hub', hnoted, haccount⟩ :=
    (hmails _ rfl).2 1.0 _ rfl rfl (Job.finishes_done _) fun _ => Job.finishes_done _
  refine ⟨stamp, result, m', hub', seen, hnoted, ?_, ?_⟩
  · rw [haccount.called, hreadable]
    rfl
  · have hfailed : Mailing.errors mailings ≠ [] := by
      have hnamed : "nobody" ∈ mailings.map Mailing.subscriber := by simp [haccount.named]
      obtain ⟨d, hd, hname⟩ := List.mem_map.1 hnamed
      have hunreadable : (Mailbox.parse d.subscriber).toOption = none := by
        rw [hname]
        decide +kernel
      cases hparse : Mailbox.parse d.subscriber with
      | error e =>
        have hrefused := haccount.fair d hd e hparse
        exact List.ne_nil_of_mem (Mailing.mem_errors.2 ⟨d, hd, hrefused⟩)
      | ok mailbox =>
        rw [hparse] at hunreadable
        cases hunreadable
    exact ⟨_, _, (haccount.delivery_iff _ _).2 ⟨hfailed, rfl, rfl⟩, haccount.conserved⟩

end Notifier

end RateHerald
