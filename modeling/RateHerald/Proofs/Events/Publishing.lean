import RateHerald.Events.Request
import RateHerald.Proofs.Timed.Ends

/-!
# How publishing and requesting end

The rules of `Job.Ends` for the bus. Publishing ends as the calls of the listeners end, and a
request ends as its publishing ends and then as the answers in its channel demand. What others do
while an event is published is of no concern as long as the hub stays alike: the same channels, and
the same listeners called in the same way.

If listeners only sleep whenever publishing only sleeps, then publishing only sleeps, however deep
events are nested: `Handler.onlySleeps_publisher`. A request can therefore be followed up to its
deadline without looking at the listeners again.

## Main declarations

* `Hub.Alike`, and what the operations of the hub keep alike.
* `Publisher.ends_ofCall` and `Publisher.ends_tell`.
* `ends_waitFor`, `Publisher.ends_ask_cons` and `Publisher.ends_request`.
-/

namespace RateHerald

variable {L X σ α : Type}

/-! ## Channels -/

/-- The event tells something, and is of the kind that belongs to it. -/
structure Event.Tells (e : Event) (payload : Payload) : Prop where
  /-- What it tells. -/
  payload_eq : e.payload = payload
  /-- Its kind. -/
  kind_eq : e.kind = payload.kind

namespace Channel

/-- Somebody waits on the channel, and it can hold one more event. -/
structure HasRoom (c : Channel) : Prop where
  /-- Somebody waits. -/
  isOpen : c.isOpen = true
  /-- Somebody is left to put something in. -/
  notSealed : c.isSealed = false
  /-- It is not full. -/
  room : c.queue.length < c.capacity

/-- The channel with one more event. -/
def holding (c : Channel) (e : Event) : Channel :=
  { c with queue := c.queue ++ [e] }

theorem HasRoom.holding {c : Channel} (h : c.HasRoom) (e : Event)
    (hroom : c.queue.length + 1 < c.capacity) : (c.holding e).HasRoom :=
  ⟨h.isOpen, h.notSealed, by rwa [Channel.holding, List.length_append]⟩

end Channel

/-! ## Hubs -/

namespace Hub

variable {hub hub' hub'' : Hub L X}

/-- The same channels, and the same listeners called in the same way. -/
structure Alike (hub hub' : Hub L X) : Prop where
  /-- The channels are the same. -/
  channels : hub'.channels = hub.channels
  /-- The listeners are the same. -/
  listeners : ∀ i, (hub'.bus i).listeners = (hub.bus i).listeners
  /-- They are called in the same way. -/
  dispatch : ∀ i, (hub'.bus i).dispatch = (hub.bus i).dispatch

theorem Alike.refl (hub : Hub L X) : hub.Alike hub :=
  ⟨rfl, fun _ => rfl, fun _ => rfl⟩

theorem Alike.trans (h : hub.Alike hub') (h' : hub'.Alike hub'') : hub.Alike hub'' where
  channels := h'.channels.trans h.channels
  listeners i := (h'.listeners i).trans (h.listeners i)
  dispatch i := (h'.dispatch i).trans (h.dispatch i)

theorem bus_onBus (i j : Nat) (f : Bus L → Bus L) (hub : Hub L X) :
    (hub.onBus i f).bus j = if i = j ∧ i < hub.buses.length then f (hub.bus j) else hub.bus j := by
  rw [bus, bus, onBus, List.getD_eq_getElem?_getD, List.getD_eq_getElem?_getD, List.getElem?_modify]
  by_cases hij : i = j
  · subst hij
    by_cases hlt : i < hub.buses.length
    · rw [List.getElem?_eq_getElem hlt]
      simp [hlt]
    · rw [List.getElem?_eq_none (Nat.not_lt.1 hlt)]
      simp [hlt]
  · cases hub.buses[j]? <;> simp [hij]

theorem alike_countPublished (i : Nat) (hub : Hub L X) :
    hub.Alike (hub.onBus i Bus.countPublished) := by
  refine ⟨rfl, fun j => ?_, fun j => ?_⟩
  · rw [bus_onBus]
    split <;> rfl
  · rw [bus_onBus]
    split <;> rfl

/-- The hub when one more event was published on a bus and nobody has been called yet. -/
def told (i : Nat) (hub : Hub L X) : Hub L X :=
  { hub with events := hub.events + 1 }.onBus i Bus.countPublished

theorem alike_told (i : Nat) (hub : Hub L X) : hub.Alike (hub.told i) := by
  have h : hub.Alike { hub with events := hub.events + 1 } := ⟨rfl, fun _ => rfl, fun _ => rfl⟩
  exact h.trans (alike_countPublished i _)

theorem Alike.channel? (h : hub.Alike hub') (i : Nat) : hub'.channel? i = hub.channel? i := by
  rw [Hub.channel?, Hub.channel?, h.channels]

theorem Alike.listenersTo (h : hub.Alike hub') (i : Nat) (kind : Kind) :
    (hub'.bus i).listenersTo kind = (hub.bus i).listenersTo kind := by
  rw [Bus.listenersTo, Bus.listenersTo, h.listeners]

theorem channel?_onChannel (i : Nat) (f : Channel → Channel) (hub : Hub L X) :
    (hub.onChannel i f).channel? i = (hub.channel? i).map f := by
  rw [Hub.channel?, Hub.channel?, onChannel, List.getElem?_modify_eq]
  rfl

theorem outside_onChannel (i : Nat) (f : Channel → Channel) (hub : Hub L X) :
    (hub.onChannel i f).outside = hub.outside :=
  rfl

theorem channel?_openChannel (capacity : Nat) (hub : Hub L X) :
    (hub.openChannel capacity).2.channel? hub.channels.length =
      some (Channel.ofCapacity capacity) := by
  simp [Hub.channel?, openChannel]

/-- An answer is put into the channel that the event names, if there is room in it. -/
theorem respond_eq {e : Event} {i : Nat} {c : Channel} (he : e.channel = some i)
    (hc : hub.channel? i = some c) (hroom : c.HasRoom) (source : String) (payload : Payload) :
    ∃ (hub' : Hub L X) (answer : Event), respond e source payload hub = (.ok (), hub') ∧
      hub'.outside = hub.outside ∧ hub'.buses = hub.buses ∧
      hub'.channel? i = some (c.holding answer) ∧ answer.Tells payload := by
  have hput : ∀ a : Event, c.put a = (.sent, c.holding a) := fun a => by
    simp [Channel.put, Channel.holding, hroom.isOpen, hroom.notSealed, hroom.room]
  have hnew : (hub.newEvent source payload.kind payload (some e.id) none).2.channel? i = some c :=
    hc
  rw [respond, he]
  simp only [put, hnew, hput]
  -- the answer takes the next number of the hub
  refine ⟨_, ⟨hub.events, some e.id, source, payload.kind, payload, none⟩, rfl, rfl, rfl, ?_, rfl,
    rfl⟩
  rw [channel?_onChannel, hnew, Option.map_some, hput]
  rfl

end Hub

/-! ## Calls -/

namespace Dispatch

variable {m m' : Moment} {s s' : σ} {a b : α} {p : Job σ α}

theorem ends_singleton (d : Dispatch) (hp : p.OnlySleeps) (h : p.Ends m s a m' s') :
    (d.perform [p]).Ends m s [a] m' s' := by
  cases d with
  | sequential => exact h.inTurn_cons (Job.ends_inTurn_nil _ _)
  | concurrent => exact h.all_singleton hp

theorem ends_done_cons (d : Dispatch) (hp : p.OnlySleeps) (h : p.Ends m s b m' s') (a : α) :
    (d.perform [.done a, p]).Ends m s [a, b] m' s' := by
  cases d with
  | sequential =>
    exact (Job.ends_done a m s).inTurn_cons (h.inTurn_cons (Job.ends_inTurn_nil _ _))
  | concurrent => exact (h.all_singleton hp).all_done_cons a

theorem onlySleeps_perform (d : Dispatch) {calls : List (Job σ α)}
    (h : ∀ p ∈ calls, p.OnlySleeps) : (d.perform calls).OnlySleeps := by
  cases d with
  | sequential => exact .inTurn h
  | concurrent => exact .all h

end Dispatch

/-! ## Publishing -/

namespace Publisher

variable {m m' : Moment} {hub hub' : Hub L X}

theorem ends_ofCall {call : L → Event → HubJob L X (Except BusError Unit)} {i : Nat} {e : Event}
    {results : List (Except BusError Unit)}
    (h : ((hub.bus i).dispatch.perform
      (((hub.bus i).listenersTo e.kind).map fun listener => call listener e)).Ends
        m (hub.onBus i Bus.countPublished) results m' hub') :
    (ofCall call i e).Ends m hub (gather e.kind results) m' hub' :=
  Job.Ends.bind (Job.Ends.act (Job.ends_done _ _ _)) (Job.Ends.bind h (Job.ends_done _ _ _))

theorem ends_tell {publish : Publisher L X} {i : Nat} {source : String} {kind : Kind}
    {payload : Payload} {channel : Option Nat} {result : Except BusError Unit}
    (h : (publish i (hub.newEvent source kind payload none channel).1).Ends m
      (hub.newEvent source kind payload none channel).2 result m' hub') :
    (publish.tell i source kind payload channel).Ends m hub result m' hub' :=
  Job.Ends.bind (Job.Ends.act (Job.ends_done _ _ _)) h

/-- Publishing with pauses for time only. -/
def OnlySleeps (publish : Publisher L X) : Prop :=
  ∀ i e, (publish i e).OnlySleeps

theorem OnlySleeps.ofCall {call : L → Event → HubJob L X (Except BusError Unit)}
    (h : ∀ listener e, (call listener e).OnlySleeps) : (Publisher.ofCall call).OnlySleeps := by
  intro i e
  refine Job.OnlySleeps.bind (.change _) fun bus => ?_
  refine Job.OnlySleeps.bind (Dispatch.onlySleeps_perform _ ?_) fun _ => .done _
  intro p hp
  obtain ⟨listener, -, rfl⟩ := List.mem_map.1 hp
  exact h listener e

theorem OnlySleeps.tell {publish : Publisher L X} (h : publish.OnlySleeps) (i : Nat)
    (source : String) (kind : Kind) (payload : Payload) (channel : Option Nat) :
    (publish.tell i source kind payload channel).OnlySleeps :=
  Job.OnlySleeps.bind (.change _) fun e => h i e

end Publisher

/-- What listeners do pauses for time only if publishing does. -/
def Handler.OnlySleeps (handle : Handler L X) : Prop :=
  ∀ publish : Publisher L X, publish.OnlySleeps → ∀ listener e,
    (handle publish listener e).OnlySleeps

/-- Events may be nested as deep as they like. -/
theorem Handler.onlySleeps_publisher {handle : Handler L X} (h : handle.OnlySleeps) (depth : Nat) :
    (handle.publisher depth).OnlySleeps := by
  induction depth with
  | zero => exact fun _ _ => .never
  | succ depth ih => exact .ofCall (h _ ih)

namespace Handler

variable (handle : Handler L X) (depth : Nat) {i : Nat} {listener first : L} {source : String}
  {kind : Kind}
  {payload : Payload} {channel : Option Nat} {m m' : Moment} {hub hub' : Hub L X}
  {result : Except BusError Unit}

/-- A new event that has one listener. -/
theorem ends_tell (hlisteners : (hub.bus i).listenersTo kind = [listener])
    (hsleeps : ∀ e, (handle (handle.publisher depth) listener e).OnlySleeps)
    (h : (handle (handle.publisher depth) listener
      ⟨hub.events, none, source, kind, payload, channel⟩).Ends m (hub.told i) result m' hub') :
    ((handle.publisher (depth + 1)).tell i source kind payload channel).Ends m hub
      (gather kind [result]) m' hub' := by
  refine Publisher.ends_tell (Publisher.ends_ofCall ?_)
  have hcalled : ((hub.newEvent source kind payload none channel).2.bus i).listenersTo
      (hub.newEvent source kind payload none channel).1.kind = [listener] := hlisteners
  rw [hcalled]
  exact Dispatch.ends_singleton _ (hsleeps _) h

/-- A new event that has two listeners, of which the first has nothing to do but to answer. -/
theorem ends_tell_pair (hlisteners : (hub.bus i).listenersTo kind = [first, listener])
    (hsleeps : ∀ e, (handle (handle.publisher depth) listener e).OnlySleeps)
    {answer : Except BusError Unit}
    (hfirst : handle (handle.publisher depth) first
      ⟨hub.events, none, source, kind, payload, channel⟩ = .done answer)
    (h : (handle (handle.publisher depth) listener
      ⟨hub.events, none, source, kind, payload, channel⟩).Ends m (hub.told i) result m' hub') :
    ((handle.publisher (depth + 1)).tell i source kind payload channel).Ends m hub
      (gather kind [answer, result]) m' hub' := by
  refine Publisher.ends_tell (Publisher.ends_ofCall ?_)
  have hcalled : ((hub.newEvent source kind payload none channel).2.bus i).listenersTo
      (hub.newEvent source kind payload none channel).1.kind = [first, listener] := hlisteners
  rw [hcalled, List.map_cons]
  change (Dispatch.perform _ (handle (handle.publisher depth) first
    ⟨hub.events, none, source, kind, payload, channel⟩ :: _)).Ends _ _ _ _ _
  rw [hfirst]
  exact Dispatch.ends_done_cons _ (hsleeps _) h answer

end Handler

/-! ## Requesting -/

/-- The one answer that is expected settles a wait. -/
theorem Wait.verdict?_singleton {kind : Kind} {e : Event} (h : e.kind = kind) :
    Wait.verdict? [kind] [e] = some (.ok ⟨[e]⟩) := by
  simp [Wait.verdict?, Wait.missing, Wait.firsts, h]

theorem Wait.moveUntil_singleton {kind : Kind} (e : Event) :
    Channel.moveUntil (Wait.isSettled [kind]) [] [e] = ([e], []) := by
  simp [Channel.moveUntil, Wait.isSettled, Wait.verdict?, Wait.missing]

/-- The two answers that are expected settle a wait. -/
theorem Wait.verdict?_pair {kind kind' : Kind} {e e' : Event} (hne : kind ≠ kind')
    (h : e.kind = kind) (h' : e'.kind = kind') :
    Wait.verdict? [kind, kind'] [e, e'] = some (.ok ⟨[e, e']⟩) := by
  have hne' : (kind' != kind) = true := bne_iff_ne.2 hne.symm
  simp [Wait.verdict?, Wait.missing, Wait.firsts, h, h', hne']

theorem Wait.moveUntil_pair {kind kind' : Kind} {e : Event} (e' : Event) (hne : kind ≠ kind')
    (h : e.kind = kind) :
    Channel.moveUntil (Wait.isSettled [kind, kind']) [] [e, e'] = ([e, e'], []) := by
  have hne' : (kind == kind') = false := beq_eq_false_iff_ne.2 hne
  simp [Channel.moveUntil, Wait.isSettled, Wait.verdict?, Wait.missing, h, hne']

/-- The first answer tells the rate. -/
theorem Responses.rate?_of_tells {e : Event} {rate : Rate} (h : e.Tells (.rateResponded rate))
    (others : List Event) : Responses.rate? ⟨e :: others⟩ = some rate.value := by
  have hfind : Responses.ofKind? ⟨e :: others⟩ .rateResponded = some e :=
    List.find?_cons_of_pos (beq_iff_eq.2 h.kind_eq)
  rw [Responses.rate?, hfind, Option.bind_some, h.payload_eq]
  rfl

/-- The second answer tells the subscribers. -/
theorem Responses.subscribers?_of_tells {first e : Event} {topic : Pair} {names : List String}
    (hfirst : first.kind ≠ .subscribersResponded)
    (h : e.Tells (.subscribersResponded topic names)) :
    Responses.subscribers? ⟨[first, e]⟩ = some names := by
  have hfind : Responses.ofKind? ⟨[first, e]⟩ .subscribersResponded = some e := by
    rw [Responses.ofKind?, List.find?_cons_of_neg (by simpa using hfirst)]
    exact List.find?_cons_of_pos (beq_iff_eq.2 h.kind_eq)
  rw [Responses.subscribers?, hfind, Option.bind_some, h.payload_eq]
  rfl

/-- A wait is over at once if the answers in the channel settle it. -/
theorem ends_waitFor {channel : Nat} {expected : List Kind} {c : Channel} {hub : Hub L X}
    {taken left : List Event} {result : Except BusError Responses}
    (hc : hub.channel? channel = some c)
    (htaken : Channel.moveUntil (Wait.isSettled expected) [] c.queue = (taken, left))
    (hverdict : Wait.verdict? expected taken = some result) (m deadline : Moment) :
    ∃ hub', (waitFor channel expected deadline).Ends m hub result m hub' ∧
      hub'.outside = hub.outside ∧ hub'.buses = hub.buses := by
  refine ⟨(hub.onChannel channel Channel.beginWait).onChannel channel
    (Channel.takeUntil (Wait.isSettled expected)), ?_, rfl, rfl⟩
  have hseen : ((hub.onChannel channel Channel.beginWait).onChannel channel
      (Channel.takeUntil (Wait.isSettled expected))).taken channel = taken := by
    rw [Hub.taken, Hub.channel?_onChannel, Hub.channel?_onChannel, hc]
    simp [Channel.takeUntil, Channel.beginWait, htaken]
  have hready : Wait.isSettled expected taken = true := by
    rw [Wait.isSettled, hverdict]
    rfl
  refine Job.Ends.bind (Job.Ends.act (Job.ends_done () m _)) ?_
  -- the pause is over at its first look, and this look has taken the answers
  rw [Job.Ends, Job.run]
  simp only [hseen, hready, Bool.true_or, if_true]
  rw [Job.run, Wait.outcome, hverdict]
  rfl

namespace Publisher

variable {publish : Publisher L X} {m m' m'' : Moment} {hub hub' hub'' : Hub L X}
  {bus channel : Nat} {source : String} {expected : List Kind} {deadline : Moment}
  {rest : List Payload}

theorem ends_ask_nil (publish : Publisher L X) (m : Moment) (hub : Hub L X) :
    (publish.ask bus channel source expected deadline []).Ends m hub (.ok ()) m hub :=
  rfl

/-- The first event is published in time, and then the others. -/
theorem ends_ask_cons (hsleeps : publish.OnlySleeps) (payload : Payload)
    {result : Except BusError Unit}
    (h : (publish.tell bus source payload.kind payload (some channel)).Ends m hub (.ok ()) m' hub')
    (hle : m' ≤ deadline)
    (hrest :
      (publish.ask bus channel source expected deadline rest).Ends m' hub' result m'' hub'') :
    (publish.ask bus channel source expected deadline (payload :: rest)).Ends m hub result m''
      hub'' :=
  Job.Ends.bind (h.within (hsleeps.tell _ _ _ _ _) hle) hrest

/-- Nothing else is published after a failure. -/
theorem ends_ask_cons_error (hsleeps : publish.OnlySleeps) (payload : Payload) {e : BusError}
    (h : (publish.tell bus source payload.kind payload (some channel)).Ends m hub (.error e) m'
      hub') (hle : m' ≤ deadline) (rest : List Payload) :
    (publish.ask bus channel source expected deadline (payload :: rest)).Ends m hub (.error e) m'
      hub' :=
  Job.Ends.bind (h.within (hsleeps.tell _ _ _ _ _) hle) (Job.ends_done _ _ _)

/-- What would be published after the deadline is given up at it. -/
theorem ends_ask_cons_late (hsleeps : publish.OnlySleeps) (payload : Payload)
    {result : Except BusError Unit}
    (h : (publish.tell bus source payload.kind payload (some channel)).Ends m hub result m' hub')
    (hle : m ≤ deadline) (hlate : ¬m' ≤ deadline) (rest : List Payload) :
    ∃ hub'', (publish.ask bus channel source expected deadline (payload :: rest)).Ends m hub
      (.error (.timeout expected)) deadline hub'' := by
  obtain ⟨hub'', hgiven⟩ := h.within_of_late (hsleeps.tell _ _ _ _ _) hle hlate
  exact ⟨hub'', Job.Ends.bind hgiven (Job.ends_done _ _ _)⟩

/-- A request looks at the clock first. -/
theorem request_eq (bus : Nat) (r : Request) :
    publish.request bus r = Job.act (fun _ hub => hub) fun m _ =>
      match m.deadline? r.timeout with
      | none => .halt Moment.overflow
      | some deadline => publish.requestUntil deadline bus r :=
  rfl

/-- A request that has a deadline runs until then, and one that has none breaks off. -/
theorem run_request (bus : Nat) (r : Request) (m : Moment) (hub : Hub L X) :
    (publish.request bus r).run m hub =
      match m.deadline? r.timeout with
      | none => .halted Moment.overflow
      | some deadline => (publish.requestUntil deadline bus r).run m hub := by
  rw [request_eq, Job.run]
  cases m.deadline? r.timeout <;> rfl

/-- A request comes to what it comes to until its deadline. -/
theorem ends_request_iff {r : Request} {answer : Except BusError Responses} :
    (publish.request bus r).Ends m hub answer m' hub' ↔ ∃ deadline,
      m.deadline? r.timeout = some deadline ∧
      (publish.requestUntil deadline bus r).Ends m hub answer m' hub' := by
  rw [Job.Ends, run_request]
  cases m.deadline? r.timeout with
  | none => simp
  | some deadline => simp [Job.Ends]

/-- What is asked in a request is asked on a new channel. -/
theorem ends_request_of_error {r : Request} {e : BusError}
    (hdeadline : m.deadline? r.timeout = some deadline)
    (h : (publish.ask bus hub.channels.length r.source r.expected deadline
      (r.asks.map Prod.fst)).Ends m (hub.openChannel r.expected.length).2 (.error e) m' hub') :
    (publish.request bus r).Ends m hub (.error e) m'
      (hub'.onChannel hub.channels.length Channel.close) := by
  refine ends_request_iff.2 ⟨deadline, hdeadline, ?_⟩
  refine Job.Ends.bind (Job.Ends.act (Job.ends_done _ _ _)) ?_
  refine Job.Ends.ensuring ?_ _
  refine Job.Ends.bind h ?_
  exact Job.ends_done _ _ _

/-- A request whose events are published in time ends as the answers in its channel demand. -/
theorem ends_request {r : Request} {c : Channel} {taken left : List Event}
    {result : Except BusError Responses} (hdeadline : m.deadline? r.timeout = some deadline)
    (h : (publish.ask bus hub.channels.length r.source r.expected deadline
      (r.asks.map Prod.fst)).Ends m (hub.openChannel r.expected.length).2 (.ok ()) m' hub')
    (hc : hub'.channel? hub.channels.length = some c)
    (htaken : Channel.moveUntil (Wait.isSettled r.expected) [] c.queue = (taken, left))
    (hverdict : Wait.verdict? r.expected taken = some result) :
    ∃ hub'', (publish.request bus r).Ends m hub result m' hub'' ∧ hub''.outside = hub'.outside ∧
      hub''.buses = hub'.buses := by
  obtain ⟨waited, hwait, houtside, hbuses⟩ := ends_waitFor hc htaken hverdict m' deadline
  refine ⟨waited.onChannel hub.channels.length Channel.close, ?_, houtside, hbuses⟩
  refine ends_request_iff.2 ⟨deadline, hdeadline, ?_⟩
  refine Job.Ends.bind (Job.Ends.act (Job.ends_done _ _ _)) ?_
  refine Job.Ends.ensuring ?_ _
  refine Job.Ends.bind h ?_
  exact hwait

end Publisher

end RateHerald
