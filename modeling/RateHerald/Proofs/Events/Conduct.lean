import RateHerald.Proofs.Events.Publishing
import RateHerald.Proofs.Timed.Watched

/-!
# Listeners that answer what they are given

A listener is given an event, and the only way to put something into a channel is to answer it. A
listener may do so at once or later, several times or not at all, and it may put the event on a
shelf, from which anybody takes it to answer it when the listener has long been done. Besides it may
publish events of its own, request something in turn, register listeners, work on the world outside,
wait as long as it likes, and do several things at once. Jobs that do nothing else are honest:
`Honest`.

So that it can be told what was answered to which event, every answer is written down in a diary
that lies in the world outside. Nobody but the one who answers or uses the shelf writes into it.

An honest job is kept in line by every watch that knows how a hub is used. What such a watch has to
know is told once, in `Regime`; that listeners are honest then carries over to publishing, to
requesting, and to all that honest listeners do in turn.

## Main declarations

* `Rejoinder` and `Diary`, and `Hub.answer`, which answers an event and writes it down.
* `Honest` and `Handler.IsHonest`.
* `Regime`, a watch on hubs.
* `Regime.isKept_publisher` and `Regime.keeps_request`: publishing to honest listeners and
  requesting are kept in line.
-/

namespace RateHerald

variable {L X W α β : Type}

/-! ## The diary -/

/-- An answer to an event, and what became of it. -/
structure Rejoinder where
  /-- The event that was answered. -/
  event : Event
  /-- Who answered. -/
  source : String
  /-- What the answer tells. -/
  payload : Payload
  /-- The number that the answer was given. -/
  number : Nat
  /-- What became of the answer, if there was a channel for it. -/
  delivery : Option Delivery
  /-- What the one who answered was told. -/
  result : Except BusError Unit

/-- The answer as an event. -/
def Rejoinder.answer (r : Rejoinder) : Event :=
  ⟨r.number, some r.event.id, r.source, r.payload.kind, r.payload, none⟩

/-- What was answered, and which events may still be answered by anybody. -/
structure Diary where
  /-- The answers, in the order in which they were given. -/
  replies : List Rejoinder
  /-- The events that were put on the shelf. -/
  shelf : List Event

namespace Hub

/-- The diary of a hub. -/
def diary (hub : Hub L (X × Diary)) : Diary :=
  hub.outside.2

/-- Writes into the diary. -/
def onDiary (f : Diary → Diary) (hub : Hub L (X × Diary)) : Hub L (X × Diary) :=
  { hub with outside := (hub.outside.1, f hub.outside.2) }

/-- What the diary tells of an answer. -/
def replyTo (hub : Hub L X) (e : Event) (source : String) (payload : Payload) : Rejoinder where
  event := e
  source := source
  payload := payload
  number := hub.events
  delivery := e.channel.map fun i =>
    (hub.put i ⟨hub.events, some e.id, source, payload.kind, payload, none⟩).1
  result := (respond e source payload hub).1

/-- Answers an event and writes it down. -/
def answer (e : Event) (source : String) (payload : Payload) (hub : Hub L (X × Diary)) :
    Except BusError Unit × Hub L (X × Diary) :=
  ((respond e source payload hub).1, (respond e source payload hub).2.onDiary fun diary =>
    { diary with replies := diary.replies ++ [hub.replyTo e source payload] })

/-- Puts an event on the shelf. -/
def shelve (e : Event) (hub : Hub L (X × Diary)) : Hub L (X × Diary) :=
  hub.onDiary fun diary => { diary with shelf := e :: diary.shelf }

/-- Answers an event that is on the shelf. -/
def answerFromShelf (e : Event) (source : String) (payload : Payload) (hub : Hub L (X × Diary)) :
    Except BusError Unit × Hub L (X × Diary) :=
  if e ∈ hub.diary.shelf then hub.answer e source payload else (.ok (), hub)

/-- Channels, events and diary are left as they were. -/
structure Aside (hub hub' : Hub L (X × Diary)) : Prop where
  /-- The channels are the same. -/
  channels : hub'.channels = hub.channels
  /-- There were no more events. -/
  events : hub'.events = hub.events
  /-- The diary is the same. -/
  diary : hub'.diary = hub.diary

end Hub

/-! ## What answering leaves -/

namespace Hub

variable {e : Event} {i j : Nat}

theorem channel?_onChannel_of_ne (h : i ≠ j) (f : Channel → Channel) (hub : Hub L X) :
    (hub.onChannel i f).channel? j = hub.channel? j := by
  rw [Hub.channel?, Hub.channel?, onChannel, List.getElem?_modify_ne _ _ h]

/-- Putting something into a channel changes this channel only. -/
theorem channel?_put (hub : Hub L X) (i : Nat) (e : Event) (j : Nat) :
    (hub.put i e).2.channel? j =
      if i = j then (hub.channel? j).map fun c => (c.put e).2 else hub.channel? j := by
  by_cases h : i = j
  · subst h
    rw [if_pos rfl, put]
    cases hc : hub.channel? i with
    | none => exact hc
    | some c =>
      change (hub.onChannel i fun c => (c.put e).2).channel? i = _
      rw [channel?_onChannel, hc]
  · rw [if_neg h, put]
    split
    · rfl
    · exact channel?_onChannel_of_ne h _ hub

theorem events_put (hub : Hub L X) (i : Nat) (e : Event) : (hub.put i e).2.events = hub.events := by
  rw [put]
  split <;> rfl

theorem outside_put (hub : Hub L X) (i : Nat) (e : Event) :
    (hub.put i e).2.outside = hub.outside := by
  rw [put]
  split <;> rfl

theorem length_channels_put (hub : Hub L X) (i : Nat) (e : Event) :
    (hub.put i e).2.channels.length = hub.channels.length := by
  rw [put]
  split
  · rfl
  · exact List.length_modify _ _ _

/-- Without a channel nothing happens. -/
theorem respond_of_none (he : e.channel = none) (source : String) (payload : Payload)
    (hub : Hub L X) : respond e source payload hub = (.error .noChannel, hub) := by
  rw [respond, he]

/-- With a channel the answer is put into it, and only that there is no room is a failure. -/
theorem respond_of_some (he : e.channel = some i) (source : String) (payload : Payload)
    (hub : Hub L X) :
    respond e source payload hub =
      (if (hub.replyTo e source payload).delivery = some .full then .error .channelFull else .ok (),
        (put i (hub.replyTo e source payload).answer
          { hub with events := hub.events + 1 }).2) := by
  have hput : (hub.replyTo e source payload).delivery =
      some (put i (hub.replyTo e source payload).answer
        { hub with events := hub.events + 1 }).1 := by
    have hchannel : Hub.channel? { hub with events := hub.events + 1 } i = hub.channel? i := rfl
    rw [replyTo, he, Option.map_some, put, put, hchannel]
    cases hub.channel? i <;> rfl
  rw [respond, he, hput]
  rcases hafter : put i (hub.replyTo e source payload).answer
    { hub with events := hub.events + 1 } with ⟨delivery, hub'⟩
  have hsent : (hub.newEvent source payload.kind payload (some e.id) none).2.put i
      (hub.newEvent source payload.kind payload (some e.id) none).1 = (delivery, hub') := hafter
  dsimp only
  rw [hsent]
  cases delivery <;> rfl

variable (e : Event) (source : String) (payload : Payload) (hub : Hub L X)

/-- Answering an event changes its channel only. -/
theorem channel?_respond (j : Nat) :
    (respond e source payload hub).2.channel? j =
      if e.channel = some j then
        (hub.channel? j).map fun c => (c.put (hub.replyTo e source payload).answer).2
      else hub.channel? j := by
  cases he : e.channel with
  | none => rw [respond_of_none he, if_neg (by simp)]
  | some i =>
    rw [respond_of_some he, channel?_put]
    simp only [Option.some_inj]
    rfl

theorem outside_respond : (respond e source payload hub).2.outside = hub.outside := by
  cases he : e.channel with
  | none => rw [respond_of_none he]
  | some i => rw [respond_of_some he, outside_put]

theorem length_channels_respond :
    (respond e source payload hub).2.channels.length = hub.channels.length := by
  cases he : e.channel with
  | none => rw [respond_of_none he]
  | some i => rw [respond_of_some he, length_channels_put]

/-- An answer takes a number if there is a channel for it. -/
theorem events_respond :
    (respond e source payload hub).2.events =
      hub.events + if e.channel = none then 0 else 1 := by
  cases he : e.channel with
  | none => rw [respond_of_none he, if_pos rfl, Nat.add_zero]
  | some i => rw [respond_of_some he, events_put, if_neg (by simp)]

/-- What becomes of an answer is what becomes of it in the channel of the event. -/
theorem delivery_replyTo {e : Event} {hub : Hub L X} {i : Nat} {c : Channel}
    (he : e.channel = some i) (hc : hub.channel? i = some c) :
    (hub.replyTo e source payload).delivery =
      some (c.put (hub.replyTo e source payload).answer).1 := by
  change e.channel.map (fun i => (hub.put i (hub.replyTo e source payload).answer).1) = _
  rw [he, Option.map_some, put, hc]

/-- Answering writes one line into the diary. -/
theorem diary_answer (hub : Hub L (X × Diary)) :
    (hub.answer e source payload).2.diary =
      { hub.diary with replies := hub.diary.replies ++ [hub.replyTo e source payload] } := by
  change (fun diary : Diary => { diary with replies := diary.replies ++ _ : Diary })
    (respond e source payload hub).2.outside.2 = _
  rw [outside_respond]
  rfl

end Hub

/-! ## Honest jobs -/

/-- The job answers only events that it is given, or that are on the shelf. -/
inductive Honest (publish : Publisher L (X × Diary)) (given : Event → Prop) :
    ∀ {α : Type}, HubJob L (X × Diary) α → Prop where
  | done {α : Type} (a : α) : Honest publish given (.done a)
  | halt {α : Type} (why : String) : Honest publish given (.halt why : HubJob L (X × Diary) α)
  /-- It works on something else. -/
  | act {α : Type} {change : Moment → Hub L (X × Diary) → Hub L (X × Diary)}
      {next : Moment → Hub L (X × Diary) → HubJob L (X × Diary) α}
      (haside : ∀ m (hub : Hub L (X × Diary)), hub.Aside (change m hub))
      (h : ∀ m hub, Honest publish given (next m hub)) :
      Honest publish given (.act change next)
  /-- It waits for something else. -/
  | wait {α : Type} {pause : Pause (Hub L (X × Diary))}
      {next : Moment → Hub L (X × Diary) → HubJob L (X × Diary) α}
      (hlook : ∀ m (hub : Hub L (X × Diary)), hub.Aside (pause.look m hub))
      (hdrop : ∀ hub : Hub L (X × Diary), hub.Aside (pause.drop hub))
      (h : ∀ m hub, Honest publish given (next m hub)) : Honest publish given (.wait pause next)
  | answer {e : Event} (h : given e) (source : String) (payload : Payload) :
      Honest publish given (Job.change (Hub.answer e source payload))
  | shelve {e : Event} (h : given e) : Honest publish given (Job.modify (Hub.shelve e))
  | answerFromShelf (e : Event) (source : String) (payload : Payload) :
      Honest publish given (Job.change (Hub.answerFromShelf e source payload))
  /-- It publishes an event that it was given once more. -/
  | forward {e : Event} (h : given e) (bus : Nat) : Honest publish given (publish bus e)
  /-- It publishes a new event. -/
  | tell (bus : Nat) (source : String) (kind : Kind) (payload : Payload) :
      Honest publish given (publish.tell bus source kind payload none)
  | request (bus : Nat) (r : Request) : Honest publish given (publish.request bus r)
  | bind {α β : Type} {p : HubJob L (X × Diary) α} {f : α → HubJob L (X × Diary) β}
      (hp : Honest publish given p) (hf : ∀ a, Honest publish given (f a)) :
      Honest publish given (p.bind f)
  | within {α : Type} {p : HubJob L (X × Diary) α} (hp : Honest publish given p)
      (deadline : Moment) : Honest publish given (p.within deadline)
  | both {α β : Type} {p : HubJob L (X × Diary) α} {q : HubJob L (X × Diary) β}
      (hp : Honest publish given p) (hq : Honest publish given q) :
      Honest publish given (p.both q)

/-- Listeners answer only the event that they are given, or what is on the shelf. -/
def Handler.IsHonest (handle : Handler L (X × Diary)) : Prop :=
  ∀ publish listener e, Honest publish (e = ·) (handle publish listener e)

/-! ## Watching a hub -/

namespace Channel

/-- What a channel holds, and what was taken out of it in the present wait. -/
def contents (c : Channel) : List Event :=
  c.taken ++ c.queue

/-- Nothing is put into the channel, and if nobody waits on it nobody will. -/
structure Drains (f : Channel → Channel) : Prop where
  /-- Nothing is put in. -/
  mem_of_mem : ∀ c, ∀ e ∈ (f c).contents, e ∈ c.contents
  /-- It is not opened. -/
  closed : ∀ c, c.isOpen = false → (f c).isOpen = false

theorem drains_beginWait : Drains beginWait :=
  ⟨fun _ _ he => List.mem_append_right _ he, fun _ h => h⟩

theorem drains_close : Drains close :=
  ⟨fun c e he => List.mem_append_left _ (by simpa [contents, close] using he), fun _ _ => rfl⟩

theorem drains_takeUntil (enough : List Event → Bool) : Drains (takeUntil enough) := by
  refine ⟨fun c e he => ?_, fun _ h => h⟩
  change e ∈ (moveUntil enough c.taken c.queue).1 ++ (moveUntil enough c.taken c.queue).2 at he
  rwa [moveUntil_append] at he

end Channel

theorem Wait.mem_of_mem_firsts {taken : List Event} {e : Event} (h : e ∈ firsts taken) :
    e ∈ taken := by
  induction taken with
  | nil => exact h
  | cons a rest ih =>
    rw [firsts, List.mem_cons, List.mem_filter] at h
    obtain rfl | ⟨hrest, -⟩ := h
    · exact List.mem_cons_self
    · exact List.mem_cons_of_mem a (ih hrest)

/-- All answers were taken out of the channel. -/
theorem Wait.mem_of_outcome {expected : List Kind} {taken : List Event} {responses : Responses}
    (h : outcome expected taken = .ok responses) : ∀ e ∈ responses.events, e ∈ taken := by
  intro e he
  rw [outcome, verdict?] at h
  split at h
  · cases h
  · split at h
    · cases h
      exact mem_of_mem_firsts he
    · cases h

namespace Publisher

variable (publish : Publisher L X)

/-- What becomes of a request when all is published: it waits for the answers. -/
def hearOn (i : Nat) (r : Request) (deadline : Moment) :
    Except BusError Unit → HubJob L X (Except BusError Responses)
  | .error e => .done (.error e)
  | .ok () => waitFor i r.expected deadline

/-- A request on a given channel. -/
def requestOn (bus i : Nat) (r : Request) (deadline : Moment) :
    HubJob L X (Except BusError Responses) :=
  Job.ensuring (Hub.onChannel i Channel.close)
    ((publish.ask bus i r.source r.expected deadline (r.asks.map Prod.fst)).bind
      (hearOn i r deadline))

/-- A request that has its deadline opens a channel of its own. -/
theorem requestUntil_eq (deadline : Moment) (bus : Nat) (r : Request) :
    publish.requestUntil deadline bus r =
      Job.act (fun _ hub => (hub.openChannel r.expected.length).2) fun _ hub =>
        publish.requestOn bus (hub.openChannel r.expected.length).1 r deadline :=
  rfl

end Publisher

/-- All listeners that are called are kept in line if each of them is. -/
theorem Dispatch.isKept_perform {watch : Watch W (Hub L X)} {w : W} (d : Dispatch)
    {calls : List (HubJob L X α)} (h : ∀ p ∈ calls, p.IsKept watch w) :
    (d.perform calls).IsKept watch w := by
  cases d with
  | sequential => exact .inTurn h
  | concurrent => exact .all h

/-- Somebody who watches a hub, and knows which events were told, on which channels requests wait,
what was put into them, and which of them are closed. -/
structure Regime (L X W : Type) where
  /-- The book. -/
  watch : Watch W (Hub L (X × Diary))
  /-- The event was told. -/
  Knows : W → Event → Prop
  /-- Requests may wait on the channel. -/
  Lends : W → Nat → Prop
  /-- The event was put into the channel. -/
  Holds : W → Nat → Event → Prop
  /-- The channel is closed. -/
  Ended : W → Nat → Prop
  knows_mono : ∀ {w w' : W} {e}, watch.Extends w w' → Knows w e → Knows w' e
  lends_mono : ∀ {w w' i}, watch.Extends w w' → Lends w i → Lends w' i
  holds_mono : ∀ {w w' i e}, watch.Extends w w' → Holds w i e → Holds w' i e
  ended_mono : ∀ {w w' i}, watch.Extends w w' → Ended w i → Ended w' i
  quiet_of_aside : ∀ {hub hub'}, hub.Aside hub' → watch.Quiet hub hub'
  quiet_of_drains : ∀ {w i f} hub, Lends w i → Channel.Drains f →
    watch.Quiet hub (hub.onChannel i f)
  agrees_shelve : ∀ {w hub e}, watch.Agrees w hub → Knows w e →
    watch.Agrees (watch.note w hub (hub.shelve e)) (hub.shelve e)
  knows_of_mem_shelf : ∀ {w hub e}, watch.Agrees w hub → e ∈ hub.diary.shelf → Knows w e
  agrees_answer : ∀ {w hub e} source payload, watch.Agrees w hub → Knows w e →
    watch.Agrees (watch.note w hub (hub.answer e source payload).2) (hub.answer e source payload).2
  agrees_newEvent : ∀ {w hub channel} source kind payload, watch.Agrees w hub →
    (∀ i, channel = some i → Lends w i) →
    let told := hub.newEvent source kind payload none channel
    watch.Agrees (watch.note w hub told.2) told.2 ∧ Knows (watch.note w hub told.2) told.1
  agrees_openChannel : ∀ {w hub} capacity, watch.Agrees w hub →
    let opened := hub.openChannel capacity
    watch.Agrees (watch.note w hub opened.2) opened.2 ∧ Lends (watch.note w hub opened.2) opened.1
  holds_of_mem_taken : ∀ {w hub i e}, watch.Agrees w hub → Lends w i → e ∈ hub.taken i → Holds w i e
  ended_of_close : ∀ {w hub i}, watch.Agrees w hub → Lends w i →
    Ended (watch.note w hub (hub.onChannel i Channel.close)) i

namespace Regime

variable (regime : Regime L X W) {w : W} {publish : Publisher L (X × Diary)}

/-- Publishing is kept in line, as long as what is published was told. -/
def IsKeptBy (publish : Publisher L (X × Diary)) : Prop :=
  ∀ w i e, regime.Knows w e → (publish i e).IsKept regime.watch w

/-- A change that leaves channels, events and diary alone is kept in line. -/
theorem keeps_act {post : W → α → Prop} {change : Moment → Hub L (X × Diary) → Hub L (X × Diary)}
    {next : Moment → Hub L (X × Diary) → HubJob L (X × Diary) α}
    (hquiet : ∀ m hub, regime.watch.Quiet hub (change m hub))
    (h : ∀ w' m hub, regime.watch.Extends w w' → (next m hub).Keeps regime.watch post w') :
    (Job.act change next).Keeps regime.watch post w :=
  .act (fun _ m hub _ hw => regime.watch.agrees_note_of_quiet hw (hquiet m hub))
    fun _ m hub hle _ =>
      h _ m hub (regime.watch.extends_trans hle (regime.watch.extends_note _ _ _))

theorem isKept_tell (h : regime.IsKeptBy publish) {channel : Option Nat}
    (hchannel : ∀ i, channel = some i → regime.Lends w i) (bus : Nat) (source : String)
    (kind : Kind) (payload : Payload) :
    (publish.tell bus source kind payload channel).IsKept regime.watch w := by
  have hlends : ∀ w', regime.watch.Extends w w' → ∀ i, channel = some i → regime.Lends w' i :=
    fun w' hle i hi => regime.lends_mono hle (hchannel i hi)
  refine Job.Keeps.act (fun w' _ hub hle hw => ?_) fun w' _ hub hle hw => ?_
  · exact (regime.agrees_newEvent source kind payload hw (hlends w' hle)).1
  · exact h _ bus _ (regime.agrees_newEvent source kind payload hw (hlends w' hle)).2

/-! ### Requesting -/

/-- What a wait on a channel comes to was put into it. -/
theorem keeps_waitFor {i : Nat} (hi : regime.Lends w i) (expected : List Kind) (deadline : Moment) :
    (waitFor i expected deadline).Keeps regime.watch
      (fun w result => ∀ responses, result = .ok responses → ∀ e ∈ responses.events,
        regime.Holds w i e) w := by
  refine regime.keeps_act (fun _ hub => regime.quiet_of_drains hub hi Channel.drains_beginWait)
    fun v _ _ hv => ?_
  refine Job.Keeps.wait
    (fun _ hub => regime.quiet_of_drains hub hi (Channel.drains_takeUntil _))
    (fun hub => regime.quiet_of_aside ⟨rfl, rfl, rfl⟩) fun w' m hub hle hw => .done ?_
  intro responses hok e he
  have hlends := regime.lends_mono (regime.watch.extends_trans hv hle) hi
  exact regime.holds_of_mem_taken hw hlends (Wait.mem_of_outcome hok e he)

theorem isKept_ask (h : regime.IsKeptBy publish) {i : Nat} (hi : regime.Lends w i) (bus : Nat)
    (source : String) (expected : List Kind) (deadline : Moment) (payloads : List Payload) :
    (publish.ask bus i source expected deadline payloads).IsKept regime.watch w := by
  induction payloads generalizing w with
  | nil => exact .done trivial
  | cons payload rest ih =>
    have hown : ∀ j, some i = some j → regime.Lends w j := by
      rintro j ⟨⟩
      exact hi
    have htell := regime.isKept_tell h hown bus source payload.kind payload
    refine (htell.within deadline).bind fun w' result hle _ => ?_
    match result with
    | none => exact .done trivial
    | some (.error _) => exact .done trivial
    | some (.ok ()) => exact ih (regime.lends_mono hle hi)

/-- A request waits on a channel of its own, and leaves it closed. What it comes to was put into
that channel. -/
theorem keeps_requestOn (h : regime.IsKeptBy publish) {i : Nat} (hi : regime.Lends w i) (bus : Nat)
    (r : Request) (deadline : Moment) :
    (publish.requestOn bus i r deadline).Keeps regime.watch
      (fun w result => regime.Ended w i ∧ ∀ responses, result = .ok responses →
        ∀ e ∈ responses.events, regime.Holds w i e) w := by
  have hhear : ∀ w' result, regime.watch.Extends w w' →
      (Publisher.hearOn i r deadline result).Keeps regime.watch (fun w result => ∀ responses,
        result = .ok responses → ∀ e ∈ responses.events, regime.Holds w i e) w' := by
    intro w' result hle
    match result with
    | .error _ => exact .done nofun
    | .ok () => exact regime.keeps_waitFor (regime.lends_mono hle hi) _ _
  have hbody := (regime.isKept_ask h hi bus r.source r.expected deadline (r.asks.map Prod.fst)).bind
    fun w' result hle _ => hhear w' result hle
  refine hbody.ensuring (fun hub => regime.quiet_of_drains hub hi Channel.drains_close)
    fun w' v hub result hle hpost hv hw => ⟨?_, fun responses hok e he => ?_⟩
  · exact regime.ended_of_close hw (regime.lends_mono (regime.watch.extends_trans hle hv) hi)
  · exact regime.holds_mono (regime.watch.extends_trans hv (regime.watch.extends_note v _ _))
      (hpost responses hok e he)

theorem isKept_requestUntil (h : regime.IsKeptBy publish) (deadline : Moment) (bus : Nat)
    (r : Request) : (publish.requestUntil deadline bus r).IsKept regime.watch w := by
  rw [Publisher.requestUntil_eq]
  refine Job.Keeps.act (fun _ _ _ _ hw => (regime.agrees_openChannel _ hw).1) fun _ _ hub _ hw => ?_
  exact (regime.keeps_requestOn h (regime.agrees_openChannel _ hw).2 bus r _).isKept

theorem isKept_request (h : regime.IsKeptBy publish) (bus : Nat) (r : Request) :
    (publish.request bus r).IsKept regime.watch w := by
  rw [Publisher.request_eq]
  refine regime.keeps_act (fun _ _ => regime.quiet_of_aside ⟨rfl, rfl, rfl⟩) fun _ m _ _ => ?_
  cases m.deadline? r.timeout with
  | none => exact .halt _
  | some deadline => exact regime.isKept_requestUntil h deadline bus r

/-! ### Honest jobs -/

/-- Honest jobs are kept in line, as long as publishing is and the events they are given were
told. -/
theorem isKept_of_honest (hpublish : regime.IsKeptBy publish) {given : Event → Prop}
    {p : HubJob L (X × Diary) α} (h : Honest publish given p)
    (hgiven : ∀ e, given e → regime.Knows w e) : p.IsKept regime.watch w := by
  have hlater : ∀ {w w'}, regime.watch.Extends w w' → (∀ e, given e → regime.Knows w e) →
      ∀ e, given e → regime.Knows w' e := fun hle hknows e he => regime.knows_mono hle (hknows e he)
  induction h generalizing w with
  | done a => exact .done trivial
  | halt why => exact .halt why
  | act haside _ ih =>
    exact regime.keeps_act (fun m hub => regime.quiet_of_aside (haside m hub)) fun w' m hub hle =>
      ih m hub (hlater hle hgiven)
  | wait hlook hdrop _ ih =>
    exact .wait (fun m hub => regime.quiet_of_aside (hlook m hub))
      (fun hub => regime.quiet_of_aside (hdrop hub)) fun w' m hub hle _ =>
        ih m hub (hlater hle hgiven)
  | answer he source payload =>
    exact .act (fun w' _ hub hle hw =>
      regime.agrees_answer source payload hw (hlater hle hgiven _ he))
      fun _ _ _ _ _ => .done trivial
  | shelve he =>
    exact .act (fun w' _ hub hle hw => regime.agrees_shelve hw (hlater hle hgiven _ he))
      fun _ _ _ _ _ => .done trivial
  | answerFromShelf e source payload =>
    refine .act (fun w' _ hub _ hw => ?_) fun _ _ _ _ _ => .done trivial
    rw [Hub.answerFromShelf]
    split
    · next hmem => exact regime.agrees_answer source payload hw (regime.knows_of_mem_shelf hw hmem)
    · exact regime.watch.agrees_note_of_quiet hw (regime.quiet_of_aside ⟨rfl, rfl, rfl⟩)
  | forward he bus => exact hpublish _ bus _ (hgiven _ he)
  | tell bus source kind payload =>
    exact regime.isKept_tell hpublish (by rintro _ ⟨⟩) bus source kind payload
  | request bus r => exact regime.isKept_request hpublish bus r
  | bind _ _ ihp ihf => exact (ihp hgiven).bind fun w' a hle _ => ihf a (hlater hle hgiven)
  | within _ deadline ih => exact ((ih hgiven).within deadline).isKept
  | both _ _ ihp ihq => exact (ihp hgiven).both (ihq hgiven)

/-- Publishing to honest listeners is kept in line, however deep events are nested. -/
theorem isKept_publisher {handle : Handler L (X × Diary)} (h : handle.IsHonest) (depth : Nat) :
    regime.IsKeptBy (handle.publisher depth) := by
  induction depth with
  | zero =>
    intro w i e _
    exact .wait (fun _ _ => regime.quiet_of_aside ⟨rfl, rfl, rfl⟩)
      (fun _ => regime.quiet_of_aside ⟨rfl, rfl, rfl⟩) fun _ _ _ _ _ => .halt _
  | succ depth ih =>
    intro w i e he
    refine regime.keeps_act (fun _ _ => regime.quiet_of_aside ⟨rfl, rfl, rfl⟩)
      fun w' _ hub hle => ?_
    have hcalls : ∀ p ∈ (((hub.bus i).listenersTo e.kind).map fun listener =>
        handle (handle.publisher depth) listener e), p.IsKept regime.watch w' := by
      intro p hp
      obtain ⟨listener, -, rfl⟩ := List.mem_map.1 hp
      refine regime.isKept_of_honest ih (h _ listener e) ?_
      rintro _ rfl
      exact regime.knows_mono hle he
    exact (Dispatch.isKept_perform _ hcalls).bind fun _ _ _ _ => .done trivial

end Regime

end RateHerald
