import Mathlib.Data.List.Forall2
import RateHerald.Mailing.Notifier
import RateHerald.Proofs.Events.Conduct
import RateHerald.Proofs.Events.Onlookers
import RateHerald.Proofs.Timed.Reports
import RateHerald.Rates.Desk

/-!
# Those who answer events

Two desks answer events: one asks a provider for a rate, the other one asks a repository for
subscriptions. They do it in the same way. An event that is not for the desk is refused, and so is
one without a channel, and then nobody is asked. For every other event the provider or the
repository is asked once. If that fails the failure is reported. Otherwise the answer is put into the
channel, which may be full by then; that nobody waits on it any more is no failure.

Whoever is asked may do to the hub what he likes while he is asked. What the desks themselves put
into channels is one answer for an event at the most, and none for an event that they report as
failed. So if those who are asked keep away from the channels, a channel holds in the end what it
held in the beginning and the answers to the events that were handled well, in order.

## Main declarations

* `Responder` is one of the two desks, `Responder.noted` the same with notes of who is asked.
* `Handling` and `Responder.Handled`: what handling one event comes to.
* `Responder.handled_iff`: that is all that can happen.
* `Responder.Course` and `Responder.course_iff`: events that are handled one after another.
* `Responder.handles_in_turn` says what becomes of the channels.
-/

namespace RateHerald

variable {L X N : Type}

/-! ## Answering beside notes -/

theorem Job.on_reporting {σ τ α β : Type} (part : Part σ τ) (p : Job τ α) (f : α → β) :
    (p.reporting f).on part = (p.on part).reporting f :=
  on_bind part p _

namespace Hub

theorem put_withNotes (i : Nat) (e : Event) (hub : Hub L X) (notes : List N) :
    put i e (hub.withNotes notes) = ((put i e hub).1, (put i e hub).2.withNotes notes) := by
  have hchannel : (hub.withNotes notes).channel? i = hub.channel? i := rfl
  rw [put, put, hchannel]
  cases hub.channel? i <;> rfl

theorem respond_withNotes (e : Event) (source : String) (payload : Payload) (hub : Hub L X)
    (notes : List N) : respond e source payload (hub.withNotes notes) =
      ((respond e source payload hub).1, (respond e source payload hub).2.withNotes notes) := by
  rw [respond, respond]
  rcases e.channel with _ | i
  · rfl
  · have hanswer : newEvent source payload.kind payload (some e.id) none (hub.withNotes notes) =
        ((newEvent source payload.kind payload (some e.id) none hub).1,
          (newEvent source payload.kind payload (some e.id) none hub).2.withNotes notes) := rfl
    rw [hanswer]
    dsimp only
    rw [put_withNotes]
    dsimp only
    split <;> rfl

end Hub

/-! ## What becomes of an answer -/

namespace Channel

/-- Somebody may still wait for what is put into the channel. -/
def IsHeard (c : Channel) : Prop :=
  c.isOpen = true ∧ c.isSealed = false

theorem put_of_room {c : Channel} (hheard : c.IsHeard) (hroom : c.queue.length < c.capacity)
    (e : Event) : c.put e = (.sent, { c with queue := c.queue ++ [e] }) := by
  simp [put, hheard.1, hheard.2, hroom]

theorem put_of_full {c : Channel} (hheard : c.IsHeard) (hfull : c.capacity ≤ c.queue.length)
    (e : Event) : c.put e = (.full, c) := by
  simp [put, hheard.1, hheard.2, hfull]

theorem put_of_not_isHeard {c : Channel} (h : ¬c.IsHeard) (e : Event) : c.put e = (.closed, c) := by
  have hgone : (!c.isOpen || c.isSealed) = true := by
    cases hopen : c.isOpen
    · rfl
    · simpa [IsHeard, hopen] using h
  rw [put, if_pos hgone]

end Channel

namespace Hub

/-- The hub when one more event has its number. -/
def numbered (hub : Hub L X) : Hub L X :=
  { hub with events := hub.events + 1 }

/-- The hub when an event stands behind the others in a channel. -/
def enqueue (i : Nat) (e : Event) (hub : Hub L X) : Hub L X :=
  hub.onChannel i fun c => { c with queue := c.queue ++ [e] }

/-- What is done to a channel depends on what the channel is. -/
theorem onChannel_congr {hub : Hub L X} {i : Nat} {f g : Channel → Channel}
    (h : ∀ c, hub.channel? i = some c → f c = g c) : hub.onChannel i f = hub.onChannel i g := by
  have hchannels : hub.channels.modify i f = hub.channels.modify i g := by
    apply List.ext_getElem?
    intro j
    by_cases hij : i = j
    · subst hij
      rw [List.getElem?_modify_eq, List.getElem?_modify_eq]
      exact Option.map_congr h
    · rw [List.getElem?_modify_ne _ _ hij, List.getElem?_modify_ne _ _ hij]
  rw [onChannel, onChannel, hchannels]

/-- A hub stays as it is when a channel does not take what is put into it. -/
theorem put_eq_self (hub : Hub L X) {i : Nat} {e : Event}
    (h : ∀ c, hub.channel? i = some c → (c.put e).2 = c) : (put i e hub).2 = hub := by
  rw [put]
  split
  · rfl
  · have hsame : hub.onChannel i (fun c => (c.put e).2) = hub.onChannel i id :=
      onChannel_congr h
    refine hsame.trans ?_
    rw [onChannel, List.modify_id]

/-- What becomes of an answer: what is reported, the answer if the channel takes it, and the hub. -/
inductive Delivered (hub : Hub L X) (i : Nat) (answer : Event) :
    Except BusError Unit → Option Event → Hub L X → Prop where
  /-- The channel has room, and somebody may wait on it. -/
  | taken {c : Channel} (hc : hub.channel? i = some c) (hheard : c.IsHeard)
      (hroom : c.queue.length < c.capacity) :
      Delivered hub i answer (.ok ()) (some answer) (hub.numbered.enqueue i answer)
  /-- The channel has no room. -/
  | full {c : Channel} (hc : hub.channel? i = some c) (hheard : c.IsHeard)
      (hfull : c.capacity ≤ c.queue.length) :
      Delivered hub i answer (.error .channelFull) none hub.numbered
  /-- Nobody waits on the channel any more, which is no failure. -/
  | unheard (hgone : ∀ c, hub.channel? i = some c → ¬c.IsHeard) :
      Delivered hub i answer (.ok ()) none hub.numbered

section Delivered

variable {e : Event} {i : Nat} {hub hub' : Hub L X} {source : String} {payload : Payload}
  {report : Except BusError Unit} {kept : Option Event}

/-- What becomes of an answer is told by the one who answers. -/
theorem Delivered.respond_eq (he : e.channel = some i)
    (h : hub.Delivered i (hub.replyTo e source payload).answer report kept hub') :
    respond e source payload hub = (report, hub') := by
  rw [respond_of_some he]
  cases h with
  | @taken c hc hheard hroom =>
    have hc' : hub.numbered.channel? i = some c := hc
    rw [delivery_replyTo source payload he hc, Channel.put_of_room hheard hroom, if_neg (by simp)]
    refine congrArg (Prod.mk _) ?_
    change (put i _ hub.numbered).2 = _
    -- `put` and `enqueue` change the same channel, and differ at channels that are full or gone
    rw [put, hc', enqueue]
    apply onChannel_congr
    intro d hd
    obtain rfl : c = d := Option.some.inj (hc'.symm.trans hd)
    rw [Channel.put_of_room hheard hroom]
  | @full c hc hheard hfull =>
    rw [delivery_replyTo source payload he hc, Channel.put_of_full hheard hfull, if_pos rfl]
    refine congrArg (Prod.mk _) (put_eq_self hub.numbered ?_)
    intro d hd
    obtain rfl : c = d := Option.some.inj (hc.symm.trans hd)
    rw [Channel.put_of_full hheard hfull]
  | unheard hgone =>
    have hdelivery : (hub.replyTo e source payload).delivery ≠ some .full := by
      rcases hc : hub.channel? i with _ | c
      · change e.channel.map (fun i => (hub.put i (hub.replyTo e source payload).answer).1) ≠ _
        rw [he, Option.map_some, put, hc]
        simp
      · rw [delivery_replyTo source payload he hc, Channel.put_of_not_isHeard (hgone c hc)]
        simp
    rw [if_neg hdelivery]
    refine congrArg (Prod.mk _) (put_eq_self hub.numbered ?_)
    intro d hd
    rw [Channel.put_of_not_isHeard (hgone d hd)]

/-- One of the three becomes of every answer. -/
theorem exists_delivered (hub : Hub L X) (i : Nat) (answer : Event) :
    ∃ report kept hub', hub.Delivered i answer report kept hub' := by
  by_cases hheard : ∃ c, hub.channel? i = some c ∧ c.IsHeard
  · obtain ⟨c, hc, hheard⟩ := hheard
    rcases Nat.lt_or_ge c.queue.length c.capacity with hroom | hfull
    · exact ⟨_, _, _, .taken hc hheard hroom⟩
    · exact ⟨_, _, _, .full hc hheard hfull⟩
  · exact ⟨_, _, _, .unheard fun c hc hc' => hheard ⟨c, hc, hc'⟩⟩

end Delivered

end Hub

/-! ## The two desks -/

theorem Payload.eq_rateRequested {p : Payload} (h : p.kind = .rateRequested) :
    p = .rateRequested p.pair := by
  cases p with
  | rateRequested pair => rfl
  | _ => cases h

theorem Payload.eq_subscribersRequested {p : Payload} (h : p.kind = .subscribersRequested) :
    p = .subscribersRequested p.pair := by
  cases p with
  | subscribersRequested topic => rfl
  | _ => cases h

/-- Somebody who answers events. -/
inductive Responder (L X : Type) where
  /-- A desk that asks a provider for rates. -/
  | rates (provider : Provider (Hub L X))
  /-- A desk that asks a repository for subscriptions. -/
  | subscribers (repository : Repository (Hub L X))

/-- What somebody is asked before an event is answered. -/
inductive Inquiry where
  /-- A provider is asked for the rate of a pair. -/
  | rate (pair : Pair)
  /-- A repository is asked for all subscriptions. -/
  | subscriptions
deriving DecidableEq

namespace Responder

/-- Handles an event. -/
def handle : Responder L X → Event → HubJob L X (Except BusError Unit)
  | rates provider => Desk.respondRate provider
  | subscribers repository => Desk.respondSubscribers repository

/-- What answers name as their source. -/
def source : Responder L X → String
  | rates _ => "rate"
  | subscribers _ => "subscription"

/-- The kind of payload that is for the desk. -/
def question : Responder L X → Kind
  | rates _ => .rateRequested
  | subscribers _ => .subscribersRequested

/-- That kind, as it is told to those who send something else. -/
def wanted : Responder L X → String
  | rates _ => "RateRequested"
  | subscribers _ => "SubscribersRequested"

/-- The kind of the answers. -/
def reply : Responder L X → Kind
  | rates _ => .rateResponded
  | subscribers _ => .subscribersResponded

/-- What is asked before an event is answered. -/
def inquiry (r : Responder L X) (e : Event) : Inquiry :=
  match r with
  | rates _ => .rate e.payload.pair
  | subscribers _ => .subscriptions

/-- Asks; what comes of it is what the answer tells, or why there is none. -/
def ask (r : Responder L X) (e : Event) : HubJob L X (Except BusError Payload) :=
  match r with
  | rates provider => (provider.fetch e.payload.pair).reporting fun answer =>
    (answer.mapError fun cause => .listener (.rate cause)).map .rateResponded
  | subscribers repository => repository.list.reporting fun answer =>
    (answer.mapError fun cause => .listener (.repository cause)).map fun subscriptions =>
      .subscribersResponded e.payload.pair
        ((subscriptions.filter fun s => s.topic == e.payload.pair).map fun s => s.mailbox.toText)

/-- What is done with what came of asking. -/
def settle (r : Responder L X) (e : Event) :
    Except BusError Payload → HubJob L X (Except BusError Unit)
  | .error cause => .done (.error cause)
  | .ok payload => Job.change (Hub.respond e r.source payload)

/-- Both desks handle events in the same way. -/
theorem handle_eq (r : Responder L X) (e : Event) :
    r.handle e =
      if e.payload.kind = r.question then
        if e.channel.isNone then .done (.error .noChannel) else (r.ask e).bind (r.settle e)
      else .done (.error (.invalidEvent r.wanted e.kind)) := by
  cases r with
  | rates provider =>
    rw [handle, Desk.respondRate]
    split
    · next pair hpayload =>
      have hkind : e.payload.kind = (rates provider).question := congrArg Payload.kind hpayload
      rw [if_pos hkind, ask, hpayload, Job.reporting_bind]
      refine congrArg (ite _ _) (congrArg (Job.bind _) (funext fun answer => ?_))
      rcases answer with cause | rate <;> rfl
    · next hother =>
      rw [if_neg]
      · rfl
      · intro hkind
        exact hother _ (Payload.eq_rateRequested hkind)
  | subscribers repository =>
    rw [handle, Desk.respondSubscribers]
    split
    · next topic hpayload =>
      have hkind : e.payload.kind = (subscribers repository).question :=
        congrArg Payload.kind hpayload
      rw [if_pos hkind, ask, hpayload, Job.reporting_bind]
      refine congrArg (ite _ _) (congrArg (Job.bind _) (funext fun answer => ?_))
      rcases answer with cause | subscriptions <;> rfl
    · next hother =>
      rw [if_neg]
      · rfl
      · intro hkind
        exact hother _ (Payload.eq_subscribersRequested hkind)

/-! ### Notes of who is asked -/

/-- A desk of which an onlooker takes a note whenever somebody is asked. -/
def noted : Responder L X → Responder L (X × List Inquiry)
  | rates provider => rates ⟨provider.name, fun pair =>
    (Hub.takeNote (.rate pair)).bind fun _ => (provider.fetch pair).on Hub.withoutNotes⟩
  | subscribers repository => subscribers ⟨fun s => (repository.add s).on Hub.withoutNotes,
    (Hub.takeNote .subscriptions).bind fun _ => repository.list.on Hub.withoutNotes⟩

theorem ask_noted (r : Responder L X) (e : Event) :
    r.noted.ask e =
      (Hub.takeNote (r.inquiry e)).bind fun _ => (r.ask e).on Hub.withoutNotes := by
  cases r with
  | rates provider =>
    rw [ask, Job.on_reporting]
    exact Job.bind_reporting _ _ _
  | subscribers repository =>
    rw [ask, Job.on_reporting]
    exact Job.bind_reporting _ _ _

/-- Asking is noted, and otherwise the same. -/
theorem ends_ask_noted_iff {r : Responder L X} {e : Event} {m m' : Moment} {hub : Hub L X}
    {notes : List Inquiry} {answer : Except BusError Payload} {after : Hub L (X × List Inquiry)} :
    (r.noted.ask e).Ends m (hub.withNotes notes) answer m' after ↔
      ∃ hub', (r.ask e).Ends m hub answer m' hub' ∧
        after = hub'.withNotes (notes ++ [r.inquiry e]) := by
  have hnote := Hub.ends_takeNote (r.inquiry e) m hub notes
  rw [ask_noted]
  constructor
  · intro h
    obtain ⟨_, m₁, noted, hnoted, hask⟩ := h.of_bind
    obtain ⟨-, rfl, rfl⟩ := hnote.unique hnoted
    exact hask.of_on Hub.withoutNotes_lawful
  · rintro ⟨hub', hask, rfl⟩
    exact hnote.bind (Job.Ends.on Hub.withoutNotes_lawful
      (s := hub.withNotes (notes ++ [r.inquiry e])) hask)

theorem question_noted (r : Responder L X) : r.noted.question = r.question := by
  cases r <;> rfl

theorem wanted_noted (r : Responder L X) : r.noted.wanted = r.wanted := by
  cases r <;> rfl

theorem source_noted (r : Responder L X) : r.noted.source = r.source := by
  cases r <;> rfl

end Responder

/-! ## Handling one event -/

/-- What handling an event comes to. -/
structure Handling where
  /-- What was asked. -/
  asked : List Inquiry
  /-- What is reported. -/
  report : Except BusError Unit
  /-- The answer, if its channel took it. -/
  kept : Option Event

namespace Responder

/-- The event comes to this when it is handled, at a moment and on a hub. -/
inductive Handled (r : Responder L X) (e : Event) (m : Moment) (hub : Hub L X) :
    Handling → Moment → Hub L X → Prop where
  /-- The event is not for the desk: it is refused, and nothing happens. -/
  | strange (h : e.payload.kind ≠ r.question) :
      Handled r e m hub ⟨[], .error (.invalidEvent r.wanted e.kind), none⟩ m hub
  /-- The event has no channel: it is refused, and nothing happens. -/
  | voiceless (h : e.payload.kind = r.question) (hchannel : e.channel = none) :
      Handled r e m hub ⟨[], .error .noChannel, none⟩ m hub
  /-- Whoever is asked fails, and that is reported. -/
  | failed {i : Nat} {cause : BusError} {m' : Moment} {hub' : Hub L X}
      (h : e.payload.kind = r.question) (hchannel : e.channel = some i)
      (hask : (r.ask e).Ends m hub (.error cause) m' hub') :
      Handled r e m hub ⟨[r.inquiry e], .error cause, none⟩ m' hub'
  /-- Whoever is asked knows, and the answer is delivered. -/
  | answered {i : Nat} {payload : Payload} {m' : Moment} {hub₁ hub' : Hub L X}
      {report : Except BusError Unit} {kept : Option Event}
      (h : e.payload.kind = r.question) (hchannel : e.channel = some i)
      (hask : (r.ask e).Ends m hub (.ok payload) m' hub₁)
      (hdelivered : hub₁.Delivered i (hub₁.replyTo e r.source payload).answer report kept hub') :
      Handled r e m hub ⟨[r.inquiry e], report, kept⟩ m' hub'

/-- These four are all that can happen when an event is handled, and each of them can. -/
theorem handled_iff {r : Responder L X} {e : Event} {m m' : Moment} {hub : Hub L X}
    {notes : List Inquiry} {report : Except BusError Unit} {after : Hub L (X × List Inquiry)} :
    (r.noted.handle e).Ends m (hub.withNotes notes) report m' after ↔
      ∃ x hub', r.Handled e m hub x m' hub' ∧ report = x.report ∧
        after = hub'.withNotes (notes ++ x.asked) := by
  rw [handle_eq, question_noted, wanted_noted]
  constructor
  · intro h
    by_cases hkind : e.payload.kind = r.question
    · rw [if_pos hkind] at h
      rcases hchannel : e.channel with _ | i
      · rw [hchannel, Option.isNone_none, if_pos rfl] at h
        obtain ⟨rfl, rfl, rfl⟩ := h.unique (Job.ends_done _ _ _)
        exact ⟨_, hub, .voiceless hkind hchannel, rfl, by rw [List.append_nil]⟩
      · rw [hchannel, Option.isNone_some, if_neg Bool.false_ne_true] at h
        obtain ⟨answer, m₁, after₁, hask, hsettle⟩ := h.of_bind
        obtain ⟨hub₁, hasked, rfl⟩ := ends_ask_noted_iff.1 hask
        rcases answer with cause | payload
        · obtain ⟨rfl, rfl, rfl⟩ := hsettle.unique (Job.ends_done _ _ _)
          exact ⟨_, hub₁, .failed hkind hchannel hasked, rfl, rfl⟩
        · obtain ⟨rfl, rfl, rfl⟩ := hsettle.unique (Job.ends_change _ _ _)
          obtain ⟨report, kept, hub', hdelivered⟩ :=
            hub₁.exists_delivered i (hub₁.replyTo e r.source payload).answer
          have hrespond := hdelivered.respond_eq hchannel
          rw [source_noted, Hub.respond_withNotes, hrespond]
          exact ⟨_, hub', .answered hkind hchannel hasked hdelivered, rfl, rfl⟩
    · rw [if_neg hkind] at h
      obtain ⟨rfl, rfl, rfl⟩ := h.unique (Job.ends_done _ _ _)
      exact ⟨_, hub, .strange hkind, rfl, by rw [List.append_nil]⟩
  · rintro ⟨x, hub', hhandled, rfl, rfl⟩
    cases hhandled with
    | strange hkind =>
      rw [if_neg hkind, List.append_nil]
      exact Job.ends_done _ _ _
    | voiceless hkind hchannel =>
      rw [if_pos hkind, hchannel, List.append_nil]
      exact Job.ends_done _ _ _
    | failed hkind hchannel hask =>
      rw [if_pos hkind, hchannel]
      exact (ends_ask_noted_iff.2 ⟨_, hask, rfl⟩).bind (Job.ends_done _ _ _)
    | @answered i payload m' hub₁ hub' report kept hkind hchannel hask hdelivered =>
      have hsettle : (r.noted.settle e (.ok payload)).Ends m'
          (hub₁.withNotes (notes ++ [r.inquiry e])) report m'
          (hub'.withNotes (notes ++ [r.inquiry e])) := by
        have hchange := Job.ends_change (Hub.respond e r.source payload) m'
          (hub₁.withNotes (notes ++ [r.inquiry e]))
        rw [Hub.respond_withNotes, hdelivered.respond_eq hchannel] at hchange
        rw [settle, source_noted]
        exact hchange
      rw [if_pos hkind, hchannel]
      exact (ends_ask_noted_iff.2 ⟨_, hask, rfl⟩).bind hsettle

/-- If whoever is asked comes to an end, so does the desk. -/
theorem exists_handled {r : Responder L X} {e : Event} (hfinishes : (r.ask e).Finishes) (m : Moment)
    (hub : Hub L X) : ∃ x m' hub', r.Handled e m hub x m' hub' := by
  by_cases hkind : e.payload.kind = r.question
  · rcases hchannel : e.channel with _ | i
    · exact ⟨_, _, _, .voiceless hkind hchannel⟩
    · obtain ⟨answer, m', hub₁, hask⟩ := hfinishes m hub
      rcases answer with cause | payload
      · exact ⟨_, _, _, .failed hkind hchannel hask⟩
      · obtain ⟨report, kept, hub', hdelivered⟩ :=
          hub₁.exists_delivered i (hub₁.replyTo e r.source payload).answer
        exact ⟨_, _, _, .answered hkind hchannel hask hdelivered⟩
  · exact ⟨_, _, _, .strange hkind⟩

/-- What can be said of an event that was handled, wherever that was. -/
structure Fits (r : Responder L X) (e : Event) (x : Handling) : Prop where
  /-- Somebody is asked once if the event is for the desk and has a channel, and otherwise not. -/
  asked : x.asked = if e.payload.kind = r.question ∧ e.channel ≠ none then [r.inquiry e] else []
  /-- What is not for the desk is refused. -/
  strange : e.payload.kind ≠ r.question → x.report = .error (.invalidEvent r.wanted e.kind)
  /-- What has no channel is refused. -/
  voiceless : e.payload.kind = r.question → e.channel = none → x.report = .error .noChannel
  /-- An answer that was kept belongs to the event, and the event was handled well. -/
  kept : ∀ a, x.kept = some a →
    x.report = .ok () ∧ a.answers = some e.id ∧ a.source = r.source ∧ a.kind = r.reply

/-- What comes of asking tells the kind of answer that the desk gives. -/
theorem kind_of_ask {r : Responder L X} {e : Event} {m m' : Moment} {hub hub' : Hub L X}
    {payload : Payload} (h : (r.ask e).Ends m hub (.ok payload) m' hub') :
    payload.kind = r.reply := by
  cases r with
  | rates provider =>
    obtain ⟨answer, m₁, hub₁, -, hdone⟩ := h.of_bind
    obtain ⟨hpayload, -, -⟩ := hdone.unique (Job.ends_done _ _ _)
    rcases answer with cause | rate
    · cases hpayload
    · cases hpayload
      rfl
  | subscribers repository =>
    obtain ⟨answer, m₁, hub₁, -, hdone⟩ := h.of_bind
    obtain ⟨hpayload, -, -⟩ := hdone.unique (Job.ends_done _ _ _)
    rcases answer with cause | subscriptions
    · cases hpayload
    · cases hpayload
      rfl

theorem Handled.fits {r : Responder L X} {e : Event} {m m' : Moment} {hub hub' : Hub L X}
    {x : Handling} (h : r.Handled e m hub x m' hub') : r.Fits e x := by
  cases h with
  | strange hkind =>
    constructor
    · simp [hkind]
    · exact fun _ => rfl
    · exact fun hfor => absurd hfor hkind
    · simp
  | voiceless hkind hchannel =>
    constructor
    · simp [hchannel]
    · exact fun hstrange => absurd hkind hstrange
    · exact fun _ _ => rfl
    · simp
  | failed hkind hchannel hask =>
    constructor
    · simp [hkind, hchannel]
    · exact fun hstrange => absurd hkind hstrange
    · simp [hchannel]
    · simp
  | answered hkind hchannel hask hdelivered =>
    constructor
    · simp [hkind, hchannel]
    · exact fun hstrange => absurd hkind hstrange
    · simp [hchannel]
    · intro a hkept
      cases hdelivered with
      | taken =>
        cases hkept
        exact ⟨rfl, rfl, rfl, kind_of_ask hask⟩
      | full => cases hkept
      | unheard => cases hkept

end Responder

/-! ## Channels that only answers reach -/

/-- The job leaves the channels as they are. -/
def Job.KeepsChannels {α : Type} (p : HubJob L X α) : Prop :=
  ∀ m hub a m' hub', p.Ends m hub a m' hub' → hub'.channels = hub.channels

/-- The channel with more events behind those that it holds. -/
def Channel.extend (c : Channel) (more : List Event) : Channel :=
  { c with queue := c.queue ++ more }

theorem Channel.extend_nil (c : Channel) : c.extend [] = c := by
  rw [extend, List.append_nil]

theorem Channel.extend_extend (c : Channel) (more further : List Event) :
    (c.extend more).extend further = c.extend (more ++ further) := by
  rw [extend, extend, extend, List.append_assoc]

/-- What a channel has kept of an event. -/
def Handling.keptOn (i : Nat) (e : Event) (x : Handling) : List Event :=
  if e.channel = some i then x.kept.toList else []

/-- The number of the event, if it was handled well and its answer goes into a channel. -/
def Handling.wellOn (i : Nat) (e : Event) (x : Handling) : List Nat :=
  if e.channel = some i ∧ x.report.isOk then [e.id] else []

theorem Hub.Delivered.channel? {hub hub' : Hub L X} {i : Nat} {answer : Event}
    {report : Except BusError Unit} {kept : Option Event}
    (h : hub.Delivered i answer report kept hub') (j : Nat) :
    hub'.channel? j = (hub.channel? j).map fun c =>
      c.extend (if some i = some j then kept.toList else []) := by
  cases h with
  | taken hc hheard hroom =>
    by_cases hij : i = j
    · subst hij
      rw [if_pos rfl, enqueue, channel?_onChannel]
      rfl
    · rw [if_neg (by simpa using hij), enqueue, channel?_onChannel_of_ne hij]
      simp only [Channel.extend_nil, Option.map_id']
      rfl
  | full hc hheard hfull =>
    simp only [Option.toList_none, ite_self, Channel.extend_nil, Option.map_id']
    rfl
  | unheard hgone =>
    simp only [Option.toList_none, ite_self, Channel.extend_nil, Option.map_id']
    rfl

namespace Responder

/-- One event adds to its channel what was kept, and to no other channel anything. -/
theorem Handled.channel? {r : Responder L X} {e : Event} {m m' : Moment} {hub hub' : Hub L X}
    {x : Handling} (h : r.Handled e m hub x m' hub') (hkeeps : (r.ask e).KeepsChannels) (i : Nat) :
    hub'.channel? i = (hub.channel? i).map fun c => c.extend (x.keptOn i e) := by
  have hsame : ∀ asked report,
      hub.channel? i = (hub.channel? i).map fun c =>
        c.extend ((⟨asked, report, none⟩ : Handling).keptOn i e) := by
    intro asked report
    simp [Handling.keptOn, Channel.extend_nil]
  cases h with
  | strange hkind => exact hsame _ _
  | voiceless hkind hchannel => exact hsame _ _
  | failed hkind hchannel hask =>
    rw [Hub.channel?, hkeeps _ _ _ _ _ hask]
    exact hsame _ _
  | @answered j payload m' hub₁ hub' report kept hkind hchannel hask hdelivered =>
    have hasked : hub₁.channel? i = hub.channel? i := by
      rw [Hub.channel?, hkeeps _ _ _ _ _ hask, ← Hub.channel?]
    rw [hdelivered.channel?, hasked, Handling.keptOn, hchannel]

/-- A channel on which somebody may wait keeps the answer to an event that was handled well. -/
theorem Handled.answers_keptOn {r : Responder L X} {e : Event} {m m' : Moment} {hub hub' : Hub L X}
    {x : Handling} (h : r.Handled e m hub x m' hub') (hkeeps : (r.ask e).KeepsChannels) {i : Nat}
    {c : Channel} (hc : hub.channel? i = some c) (hheard : c.IsHeard) :
    (x.keptOn i e).map Event.answers = (x.wellOn i e).map some := by
  cases h with
  | strange => simp [Handling.keptOn, Handling.wellOn, Except.isOk, Except.toBool]
  | voiceless => simp [Handling.keptOn, Handling.wellOn, Except.isOk, Except.toBool]
  | failed => simp [Handling.keptOn, Handling.wellOn, Except.isOk, Except.toBool]
  | @answered j payload m' hub₁ hub' report kept hkind hchannel hask hdelivered =>
    by_cases hij : j = i
    · subst hij
      cases hdelivered with
      | taken =>
        simp [Handling.keptOn, Handling.wellOn, hchannel, Except.isOk, Except.toBool,
          Rejoinder.answer, Hub.replyTo]
      | full => simp [Handling.keptOn, Handling.wellOn, Except.isOk, Except.toBool]
      | unheard hgone =>
        rw [Hub.channel?, ← hkeeps _ _ _ _ _ hask] at hc
        exact absurd hheard (hgone c hc)
    · simp [Handling.keptOn, Handling.wellOn, hchannel, hij]

/-- A channel on which nobody waits keeps nothing. -/
theorem Handled.keptOn_eq_nil {r : Responder L X} {e : Event} {m m' : Moment} {hub hub' : Hub L X}
    {x : Handling} (h : r.Handled e m hub x m' hub') (hkeeps : (r.ask e).KeepsChannels) {i : Nat}
    {c : Channel} (hc : hub.channel? i = some c) (hgone : ¬c.IsHeard) : x.keptOn i e = [] := by
  cases h with
  | strange => simp [Handling.keptOn]
  | voiceless => simp [Handling.keptOn]
  | failed => simp [Handling.keptOn]
  | @answered j payload m' hub₁ hub' report kept hkind hchannel hask hdelivered =>
    cases hdelivered with
    | @taken d hd hheard =>
      rw [Handling.keptOn, if_neg]
      rintro hij
      rw [hchannel, Option.some_inj] at hij
      rw [Hub.channel?, ← hkeeps _ _ _ _ _ hask, ← hij] at hc
      obtain rfl : d = c := Option.some.inj (hd.symm.trans hc)
      exact hgone hheard
    | full => simp [Handling.keptOn]
    | unheard => simp [Handling.keptOn]

/-! ## Handling events one after another -/

/-- Events are handled one after another. -/
inductive Course : List (Responder L X × Event) → Moment → Hub L X → List Handling → Moment →
    Hub L X → Prop where
  | nil (m : Moment) (hub : Hub L X) : Course [] m hub [] m hub
  | cons {r : Responder L X} {e : Event} {rest : List (Responder L X × Event)} {m m₁ m' : Moment}
      {hub hub₁ hub' : Hub L X} {x : Handling} {xs : List Handling}
      (h : r.Handled e m hub x m₁ hub₁) (hrest : Course rest m₁ hub₁ xs m' hub') :
      Course ((r, e) :: rest) m hub (x :: xs) m' hub'

variable {rs : List (Responder L X × Event)} {m m' : Moment} {hub hub' : Hub L X}
  {xs : List Handling}

/-- The run of desks that handle events in turn, with notes of who is asked. -/
theorem course_iff {notes : List Inquiry} {reports : List (Except BusError Unit)}
    {after : Hub L (X × List Inquiry)} :
    (Job.inTurn (rs.map fun x => x.1.noted.handle x.2)).Ends m (hub.withNotes notes) reports m'
        after ↔
      ∃ xs hub', Course rs m hub xs m' hub' ∧ reports = xs.map Handling.report ∧
        after = hub'.withNotes (notes ++ xs.flatMap Handling.asked) := by
  induction rs generalizing m hub notes reports after with
  | nil =>
    constructor
    · intro h
      obtain ⟨rfl, rfl, rfl⟩ := h.unique (Job.ends_inTurn_nil _ _)
      exact ⟨[], hub, .nil _ _, rfl, by rw [List.flatMap_nil, List.append_nil]⟩
    · rintro ⟨xs, hub', hcourse, rfl, rfl⟩
      cases hcourse
      rw [List.flatMap_nil, List.append_nil]
      exact Job.ends_inTurn_nil _ _
  | cons first rest ih =>
    obtain ⟨r, e⟩ := first
    constructor
    · intro h
      obtain ⟨report, m₁, after₁, hfirst, hothers⟩ := h.of_bind
      obtain ⟨others, m₂, after₂, hrest, hdone⟩ := hothers.of_bind
      obtain ⟨rfl, rfl, rfl⟩ := hdone.unique (Job.ends_done _ _ _)
      obtain ⟨x, hub₁, hhandled, rfl, rfl⟩ := handled_iff.1 hfirst
      obtain ⟨xs, hub', hcourse, rfl, rfl⟩ := ih.1 hrest
      refine ⟨x :: xs, hub', .cons hhandled hcourse, rfl, ?_⟩
      rw [List.flatMap_cons, List.append_assoc]
    · rintro ⟨xs, hub', hcourse, rfl, rfl⟩
      cases hcourse with
      | @cons _ _ _ _ m₁ _ _ hub₁ _ x xs hhandled hrest =>
        have hfirst : (r.noted.handle e).Ends m (hub.withNotes notes) x.report m₁
            (hub₁.withNotes (notes ++ x.asked)) := handled_iff.2 ⟨x, hub₁, hhandled, rfl, rfl⟩
        have hothers : (Job.inTurn (rest.map fun x => x.1.noted.handle x.2)).Ends m₁
            (hub₁.withNotes (notes ++ x.asked)) (xs.map Handling.report) m'
            (hub'.withNotes (notes ++ x.asked ++ xs.flatMap Handling.asked)) :=
          ih.2 ⟨xs, hub', hrest, rfl, rfl⟩
        rw [List.append_assoc, ← List.flatMap_cons] at hothers
        exact hfirst.inTurn_cons hothers

/-- What a channel has kept of all events, in the order in which they were handled. -/
def keptOn (i : Nat) (rs : List (Responder L X × Event)) (xs : List Handling) : List Event :=
  (List.zipWith (fun x handling => handling.keptOn i x.2) rs xs).flatten

/-- The numbers of the events that were handled well and whose answers go into a channel. -/
def wellOn (i : Nat) (rs : List (Responder L X × Event)) (xs : List Handling) : List Nat :=
  (List.zipWith (fun x handling => handling.wellOn i x.2) rs xs).flatten

theorem Course.fits (h : Course rs m hub xs m' hub') :
    List.Forall₂ (fun x handling => Fits x.1 x.2 handling) rs xs := by
  induction h with
  | nil m hub => exact .nil
  | cons hhandled _ ih => exact .cons hhandled.fits ih

/-- If those who are asked keep away from the channels, channels gain what they have kept. -/
theorem Course.channel? (h : Course rs m hub xs m' hub')
    (hkeeps : ∀ x ∈ rs, (x.1.ask x.2).KeepsChannels) (i : Nat) :
    hub'.channel? i = (hub.channel? i).map fun c => c.extend (keptOn i rs xs) := by
  induction h with
  | nil m hub => simp [keptOn, Channel.extend_nil]
  | cons hhandled _ ih =>
    have hfirst := hhandled.channel? (hkeeps _ List.mem_cons_self) i
    rw [ih fun x hx => hkeeps x (List.mem_cons_of_mem _ hx), hfirst, Option.map_map]
    refine congrArg (Option.map · _) (funext fun c => ?_)
    exact c.extend_extend _ _

/-- A channel on which somebody may wait has kept one answer to each event that was handled well,
and none to others. -/
theorem Course.answers_keptOn (h : Course rs m hub xs m' hub')
    (hkeeps : ∀ x ∈ rs, (x.1.ask x.2).KeepsChannels) {i : Nat} {c : Channel}
    (hc : hub.channel? i = some c) (hheard : c.IsHeard) :
    (keptOn i rs xs).map Event.answers = (wellOn i rs xs).map some := by
  -- an event changes what the channel holds, not whether somebody may wait on it
  induction h generalizing c with
  | nil m hub => rfl
  | cons hhandled _ ih =>
    have hkeepsFirst := hkeeps _ List.mem_cons_self
    have hfirst := hhandled.channel? hkeepsFirst i
    rw [hc, Option.map_some] at hfirst
    have hrest := ih (fun x hx => hkeeps x (List.mem_cons_of_mem _ hx)) hfirst hheard
    have hanswers := hhandled.answers_keptOn hkeepsFirst hc hheard
    simp only [keptOn, wellOn, List.zipWith_cons_cons, List.flatten_cons, List.map_append]
      at hrest ⊢
    rw [hanswers, hrest]

theorem Course.keptOn_eq_nil (h : Course rs m hub xs m' hub')
    (hkeeps : ∀ x ∈ rs, (x.1.ask x.2).KeepsChannels) {i : Nat} {c : Channel}
    (hc : hub.channel? i = some c) (hgone : ¬c.IsHeard) : keptOn i rs xs = [] := by
  induction h generalizing c with
  | nil m hub => rfl
  | cons hhandled _ ih =>
    have hkeepsFirst := hkeeps _ List.mem_cons_self
    have hfirst := hhandled.channel? hkeepsFirst i
    rw [hc, Option.map_some] at hfirst
    have hrest := ih (fun x hx => hkeeps x (List.mem_cons_of_mem _ hx)) hfirst hgone
    have hnone := hhandled.keptOn_eq_nil hkeepsFirst hc hgone
    simp only [keptOn, List.zipWith_cons_cons, List.flatten_cons] at hrest ⊢
    rw [hnone, hrest, List.nil_append]

/-- If those who are asked come to an end, all events are handled. -/
theorem exists_course (rs : List (Responder L X × Event))
    (hfinishes : ∀ x ∈ rs, (x.1.ask x.2).Finishes) (m : Moment) (hub : Hub L X) :
    ∃ xs m' hub', Course rs m hub xs m' hub' := by
  induction rs generalizing m hub with
  | nil => exact ⟨[], m, hub, .nil m hub⟩
  | cons first rest ih =>
    obtain ⟨r, e⟩ := first
    obtain ⟨x, m₁, hub₁, hhandled⟩ := exists_handled (hfinishes _ List.mem_cons_self) m hub
    obtain ⟨xs, m', hub', hcourse⟩ :=
      ih (fun x hx => hfinishes x (List.mem_cons_of_mem _ hx)) m₁ hub₁
    exact ⟨x :: xs, m', hub', .cons hhandled hcourse⟩

/-- Events are handled one after another by desks that ask whom they like. For each of them one of
the four things of `Handled` happens, and that is all: who is asked, what is reported and what is
left are known from it. If all who are asked come to an end, so do the desks. And if they keep away
from the channels, a channel holds in the end what it held before and the answers that it has kept:
one to each event that was handled well, if somebody may wait on the channel, and none otherwise. -/
theorem handles_in_turn (rs : List (Responder L X × Event)) (m : Moment) (hub : Hub L X)
    (notes : List Inquiry) :
    (∀ reports m' after,
      (Job.inTurn (rs.map fun x => x.1.noted.handle x.2)).Ends m (hub.withNotes notes) reports m'
          after ↔
        ∃ xs hub', Course rs m hub xs m' hub' ∧ reports = xs.map Handling.report ∧
          after = hub'.withNotes (notes ++ xs.flatMap Handling.asked)) ∧
    ((∀ x ∈ rs, (x.1.ask x.2).Finishes) → ∃ xs m' hub', Course rs m hub xs m' hub') ∧
    ∀ xs m' hub', Course rs m hub xs m' hub' →
      List.Forall₂ (fun x handling => Fits x.1 x.2 handling) rs xs ∧
      ((∀ x ∈ rs, (x.1.ask x.2).KeepsChannels) → ∀ i,
        hub'.channel? i = (hub.channel? i).map (fun c => c.extend (keptOn i rs xs)) ∧
        ∀ c, hub.channel? i = some c →
          (c.IsHeard → (keptOn i rs xs).map Event.answers = (wellOn i rs xs).map some) ∧
          (¬c.IsHeard → keptOn i rs xs = [])) := by
  refine ⟨fun _ _ _ => course_iff, fun hfinishes => exists_course rs hfinishes m hub, ?_⟩
  intro xs m' hub' hcourse
  refine ⟨hcourse.fits, ?_⟩
  intro hkeeps i
  refine ⟨hcourse.channel? hkeeps i, ?_⟩
  intro c hc
  exact ⟨hcourse.answers_keptOn hkeeps hc, hcourse.keptOn_eq_nil hkeeps hc⟩

/-- Three events share a channel that has room for one answer. Nobody knows the rate, so nothing is
said about it. The first list of subscribers is put into the channel, and for the second one there is
no room left. -/
theorem handles_in_turn_of_full_channel :
    let pair := Pair.ofTexts "btc" "uah"
    let clueless : Responder Unit Unit := rates ⟨"clueless", fun _ => .done (.error .noProviders)⟩
    let desk : Responder Unit Unit := subscribers ⟨fun _ => .done (.ok ()), .done (.ok [])⟩
    let asked (id : Nat) : Event :=
      ⟨id, none, "test", .subscribersRequested, .subscribersRequested pair, some 0⟩
    let rs := [(clueless, ⟨0, none, "test", .rateRequested, .rateRequested pair, some 0⟩),
      (desk, asked 1), (desk, asked 2)]
    ∃ xs m' hub', Course rs .start ⟨[], [Channel.ofCapacity 1], 3, ()⟩ xs m' hub' ∧
      xs.map Handling.report =
        [.error (.listener (.rate .noProviders)), .ok (), .error .channelFull] ∧
      xs.flatMap Handling.asked = [.rate pair, .subscriptions, .subscriptions] ∧
      (hub'.channel? 0).map (fun c => c.queue.map Event.answers) = some [some 1] := by
  intro pair clueless desk asked rs
  let hub : Hub Unit Unit := ⟨[], [Channel.ofCapacity 1], 3, ()⟩
  obtain ⟨hruns, hends, hcourses⟩ := handles_in_turn rs .start hub []
  have hdone : ∀ x ∈ rs, ∃ answer, x.1.ask x.2 = .done answer := by
    intro x hx
    simp only [rs, List.mem_cons, List.not_mem_nil, or_false] at hx
    rcases hx with rfl | rfl | rfl
    · exact ⟨_, rfl⟩
    · exact ⟨_, rfl⟩
    · exact ⟨_, rfl⟩
  have hfinishes : ∀ x ∈ rs, (x.1.ask x.2).Finishes := by
    intro x hx
    obtain ⟨answer, hanswer⟩ := hdone x hx
    rw [hanswer]
    exact Job.finishes_done answer
  have hkeeps : ∀ x ∈ rs, (x.1.ask x.2).KeepsChannels := by
    intro x hx m hub a m' hub' hask
    obtain ⟨answer, hanswer⟩ := hdone x hx
    rw [hanswer] at hask
    obtain ⟨-, -, rfl⟩ := hask.unique (Job.ends_done _ _ _)
    rfl
  obtain ⟨xs, m', hub', hcourse⟩ := hends hfinishes
  have hrun : (Job.inTurn (rs.map fun x => x.1.noted.handle x.2)).Ends .start (hub.withNotes [])
      [.error (.listener (.rate .noProviders)), .ok (), .error .channelFull] .start _ := rfl
  obtain ⟨hreports, -, hafter⟩ := ((hruns _ _ _).2 ⟨xs, hub', hcourse, rfl, rfl⟩).unique hrun
  obtain ⟨-, hkept⟩ := hcourses xs m' hub' hcourse
  obtain ⟨hchannel, hanswers⟩ := hkept hkeeps 0
  obtain ⟨hheard, -⟩ := hanswers (Channel.ofCapacity 1) rfl
  have hwell : wellOn 0 rs xs = [1] := by
    obtain ⟨x, ys, rfl, hx, hys⟩ := List.map_eq_cons_iff.1 hreports
    obtain ⟨y, zs, rfl, hy, hzs⟩ := List.map_eq_cons_iff.1 hys
    obtain ⟨z, rest, rfl, hz, hrest⟩ := List.map_eq_cons_iff.1 hzs
    obtain rfl := List.map_eq_nil_iff.1 hrest
    simp [rs, asked, wellOn, Handling.wellOn, hx, hy, hz, Except.isOk, Except.toBool]
  refine ⟨xs, m', hub', hcourse, hreports, ?_, ?_⟩
  · exact congrArg (fun hub => hub.outside.2) hafter
  · rw [hchannel]
    change some ((keptOn 0 rs xs).map Event.answers) = _
    rw [hheard ⟨rfl, rfl⟩, hwell]
    rfl

end Responder

end RateHerald
