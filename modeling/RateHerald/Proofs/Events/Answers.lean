import Mathlib.Data.List.Nodup
import Mathlib.Data.List.Perm.Subperm
import RateHerald.Proofs.Events.Conduct
import RateHerald.Proofs.Events.Deadlines

/-!
# Requests that are answered

All answers to a request are put into its channel before anybody takes one out, and the channel has
room for as many as there are questions. While the questions are published the channel therefore
holds the answers to them, one after another, as the diary tells, and nothing else: `Collects`. If
every question is answered once, and the answers are of the kinds that are expected, they all fit
in, and the wait that follows takes all of them at once.

## Main declarations

* `Collects`, what a channel holds while the questions are published, and `collecting`, the watch
  that keeps to it.
* `Wait.moveUntil_perm` and `Wait.verdict?_perm`: a wait for different kinds takes the answers of
  all kinds, whatever their order.
* `Publisher.ends_ask_of_tellAll`: questions that are published in time.
* `Handler.ends_request_of_answered`: a request that is answered comes to its answers.
-/

namespace RateHerald

variable {L X : Type}

/-! ## Runs that can be computed -/

/-- What a run comes to, when and in which state, if it does. -/
def Ending.done? {σ α : Type} : Ending σ α → Option (α × Moment × σ)
  | .done a m s => some (a, m, s)
  | .halted _ => none
  | .stuck _ _ => none

theorem Job.ends_of_done? {σ α : Type} {p : Job σ α} {m m' : Moment} {s s' : σ} {a : α}
    (h : (p.run m s).done? = some (a, m', s')) : p.Ends m s a m' s' := by
  rw [Ends]
  cases hrun : p.run m s with
  | done a' m'' s'' =>
    rw [hrun] at h
    cases h
    rfl
  | halted why =>
    rw [hrun] at h
    cases h
  | stuck m'' s'' =>
    rw [hrun] at h
    cases h

/-! ## Waiting for different kinds -/

namespace Wait

/-- Events of different kinds are the first of their kinds. -/
theorem firsts_eq_self {taken : List Event} (h : (taken.map Event.kind).Nodup) :
    firsts taken = taken := by
  induction taken with
  | nil => rfl
  | cons e rest ih =>
    rw [List.map_cons, List.nodup_cons] at h
    rw [firsts, ih h.2, List.filter_eq_self.2]
    intro later hlater
    exact bne_iff_ne.2 fun heq => h.1 (heq ▸ List.mem_map_of_mem hlater)

theorem find?_unexpected {expected : List Kind} {taken : List Event}
    (h : ∀ e ∈ taken, e.kind ∈ expected) :
    (taken.find? fun e => !expected.contains e.kind) = none := by
  rw [List.find?_eq_none]
  intro e he
  simpa using h e he

/-- Answers of all kinds that are expected, and of no other, settle a wait. -/
theorem verdict?_perm {expected : List Kind} {taken : List Event} (hexpected : expected.Nodup)
    (h : (taken.map Event.kind).Perm expected) :
    verdict? expected taken = some (.ok ⟨taken⟩) := by
  have hmem : ∀ e ∈ taken, e.kind ∈ expected := fun e he =>
    h.subset (List.mem_map_of_mem he)
  have hmissing : missing expected taken = [] := by
    rw [missing, List.filter_eq_nil_iff]
    intro kind hkind
    obtain ⟨e, he, rfl⟩ := List.mem_map.1 (h.symm.subset hkind)
    simpa using ⟨e, he, rfl⟩
  rw [verdict?, find?_unexpected hmem, hmissing, firsts_eq_self (h.nodup_iff.2 hexpected)]
  rfl

/-- As long as an answer is missing the wait is not settled. -/
theorem not_isSettled {expected : List Kind} {taken : List Event} {kind : Kind}
    (hmem : ∀ e ∈ taken, e.kind ∈ expected) (hkind : kind ∈ expected)
    (hnot : kind ∉ taken.map Event.kind) : isSettled expected taken = false := by
  have hmissing : kind ∈ missing expected taken := by
    rw [missing, List.mem_filter]
    refine ⟨hkind, ?_⟩
    rw [Bool.not_eq_true', List.any_eq_false]
    intro e he heq
    rw [← beq_iff_eq.1 heq] at hnot
    exact hnot (List.mem_map_of_mem he)
  rw [isSettled, verdict?, find?_unexpected hmem]
  cases hm : missing expected taken with
  | nil =>
    rw [hm] at hmissing
    cases hmissing
  | cons => rfl

/-- A wait takes the answers of all kinds, whatever their order. -/
theorem moveUntil_perm {expected : List Kind} (hexpected : expected.Nodup) {queue : List Event}
    (taken : List Event) (h : ((taken ++ queue).map Event.kind).Perm expected) :
    Channel.moveUntil (isSettled expected) taken queue = (taken ++ queue, []) := by
  induction queue generalizing taken with
  | nil => rw [Channel.moveUntil, List.append_nil]
  | cons e rest ih =>
    have hnodup := h.nodup_iff.2 hexpected
    rw [List.map_append, List.map_cons, List.nodup_append] at hnodup
    have hnot : e.kind ∉ taken.map Event.kind := fun hmem =>
      hnodup.2.2 _ hmem _ List.mem_cons_self rfl
    have hmem : ∀ a ∈ taken ++ e :: rest, a.kind ∈ expected := fun a ha =>
      h.subset (List.mem_map_of_mem ha)
    have hsettled := not_isSettled (fun a ha => hmem a (List.mem_append_left _ ha))
      (hmem e (List.mem_append_right _ List.mem_cons_self)) hnot
    rw [Channel.moveUntil, hsettled, if_neg Bool.false_ne_true, ih, ← List.append_cons]
    rwa [← List.append_cons]

end Wait

/-! ## Collecting answers -/

/-- The answers to what is asked on a channel. -/
def onChannel (i : Nat) (replies : List Rejoinder) : List Rejoinder :=
  replies.filter fun reply => reply.event.channel = some i

theorem onChannel_concat (i : Nat) (replies : List Rejoinder) (reply : Rejoinder) :
    onChannel i (replies ++ [reply]) =
      if reply.event.channel = some i then onChannel i replies ++ [reply]
      else onChannel i replies := by
  simp only [onChannel, List.filter_append, List.filter_cons, List.filter_nil, decide_eq_true_eq]
  split
  · rfl
  · rw [List.append_nil]

/-- What a channel holds while the questions are published: the answers to them, as far as there is
room. The questions satisfy `asked`, and `replies` are the answers since the channel was opened. -/
structure Collects (i room : Nat) (asked : Event → Prop) (before : List Rejoinder)
    (hub : Hub L (X × Diary)) (replies : List Rejoinder) (c : Channel) : Prop where
  /-- The replies are the last ones in the diary. -/
  diary : hub.diary.replies = before ++ replies
  /-- Every question on the channel was asked. -/
  asked_of_mem : ∀ reply ∈ onChannel i replies, asked reply.event
  /-- So was every question on the shelf. -/
  asked_of_mem_shelf : ∀ e ∈ hub.diary.shelf, e.channel = some i → asked e
  /-- The channel is there. -/
  channel : hub.channel? i = some c
  /-- Somebody waits, or will. -/
  isOpen : c.isOpen = true
  /-- Somebody may put something in. -/
  notSealed : c.isSealed = false
  /-- It has room for as many answers as there are questions. -/
  capacity : c.capacity = room
  /-- As long as there is room it holds all answers, and none has failed. -/
  queue : (onChannel i replies).length ≤ room →
    c.queue = (onChannel i replies).map Rejoinder.answer ∧
      ∀ reply ∈ onChannel i replies, reply.result = .ok ()

namespace Collects

variable {i room : Nat} {asked : Event → Prop} {before : List Rejoinder}
  {hub hub' : Hub L (X × Diary)} {replies : List Rejoinder} {c : Channel}

/-- A change that touches neither the channel nor the diary. -/
theorem of_quiet (h : Collects i room asked before hub replies c)
    (hchannel : hub'.channel? i = hub.channel? i) (hdiary : hub'.diary = hub.diary) :
    Collects i room asked before hub' replies c := by
  refine ⟨?_, h.asked_of_mem, ?_, ?_, h.isOpen, h.notSealed, h.capacity, h.queue⟩
  · rw [hdiary, h.diary]
  · rw [hdiary]
    exact h.asked_of_mem_shelf
  · rw [hchannel, h.channel]

/-- An answer to something else. -/
theorem answer_of_ne (h : Collects i room asked before hub replies c) {e : Event}
    (he : e.channel ≠ some i) (source : String) (payload : Payload) :
    Collects i room asked before (hub.answer e source payload).2
      (replies ++ [hub.replyTo e source payload]) c := by
  have hon : onChannel i (replies ++ [hub.replyTo e source payload]) = onChannel i replies := by
    rw [onChannel_concat]
    exact if_neg he
  have hchannel : (hub.answer e source payload).2.channel? i = hub.channel? i :=
    (Hub.channel?_respond e source payload hub i).trans (if_neg he)
  refine ⟨?_, ?_, ?_, ?_, h.isOpen, h.notSealed, h.capacity, ?_⟩
  · rw [Hub.diary_answer, h.diary, List.append_assoc]
  · rw [hon]
    exact h.asked_of_mem
  · rw [Hub.diary_answer]
    exact h.asked_of_mem_shelf
  · rw [hchannel, h.channel]
  · rw [hon]
    exact h.queue

/-- An answer fits in as long as there is room. -/
theorem put_eq (h : Collects i room asked before hub replies c) (a : Event) :
    c.put a = if c.queue.length < room then (.sent, { c with queue := c.queue ++ [a] })
      else (.full, c) := by
  rw [Channel.put, h.isOpen, h.notSealed, h.capacity]
  rfl

/-- An answer that fits in is no failure. -/
theorem result_replyTo (h : Collects i room asked before hub replies c)
    (hlt : c.queue.length < room) {e : Event} (he : e.channel = some i) (source : String)
    (payload : Payload) : (hub.replyTo e source payload).result = .ok () := by
  have hdelivery : (hub.replyTo e source payload).delivery = some .sent := by
    rw [Hub.delivery_replyTo source payload he h.channel, h.put_eq, if_pos hlt]
  change (Hub.respond e source payload hub).1 = _
  rw [Hub.respond_of_some he, hdelivery]
  rfl

/-- One more answer to what is asked on the channel. -/
theorem answer (h : Collects i room asked before hub replies c) {e : Event}
    (he : e.channel = some i) (hasked : asked e) (source : String) (payload : Payload) :
    Collects i room asked before (hub.answer e source payload).2
      (replies ++ [hub.replyTo e source payload])
      (c.put (hub.replyTo e source payload).answer).2 := by
  have hon : onChannel i (replies ++ [hub.replyTo e source payload]) =
      onChannel i replies ++ [hub.replyTo e source payload] := by
    rw [onChannel_concat]
    exact if_pos he
  have hchannel : (hub.answer e source payload).2.channel? i =
      some (c.put (hub.replyTo e source payload).answer).2 := by
    have hput := Hub.channel?_respond e source payload hub i
    rw [if_pos he, h.channel] at hput
    exact hput
  refine ⟨?_, ?_, ?_, hchannel, ?_, ?_, ?_, ?_⟩
  · rw [Hub.diary_answer, h.diary, List.append_assoc]
  · rw [hon]
    intro reply hreply
    obtain hreply | hreply := List.mem_append.1 hreply
    · exact h.asked_of_mem reply hreply
    · rw [List.mem_singleton.1 hreply]
      exact hasked
  · rw [Hub.diary_answer]
    exact h.asked_of_mem_shelf
  · rw [h.put_eq]
    split <;> exact h.isOpen
  · rw [h.put_eq]
    split <;> exact h.notSealed
  · rw [h.put_eq]
    split <;> exact h.capacity
  · rw [hon, List.length_append, List.length_singleton]
    intro hroom
    obtain ⟨hqueue, hok⟩ := h.queue (Nat.le_of_succ_le hroom)
    have hlt : c.queue.length < room := by
      rw [hqueue, List.length_map]
      exact hroom
    refine ⟨?_, fun reply hreply => ?_⟩
    · rw [h.put_eq, if_pos hlt, List.map_append, ← hqueue]
      rfl
    · obtain hreply | hreply := List.mem_append.1 hreply
      · exact hok reply hreply
      · rw [List.mem_singleton.1 hreply]
        exact h.result_replyTo hlt he source payload

end Collects

/-- The watch on a channel while the questions are published. There is nothing to write down that is
not in the diary. -/
def collecting (L X : Type) (i room : Nat) (asked : Event → Prop) (before : List Rejoinder) :
    Regime L X Unit where
  watch :=
    { Agrees := fun _ hub => ∃ replies c, Collects i room asked before hub replies c
      note := fun _ _ _ => ()
      Extends := fun _ _ => True
      Quiet := fun hub hub' => hub'.channel? i = hub.channel? i ∧ hub'.diary = hub.diary
      extends_refl := fun _ => trivial
      extends_trans := fun _ _ => trivial
      extends_note := fun _ _ _ => trivial
      quiet_trans := fun h h' => ⟨h'.1.trans h.1, h'.2.trans h.2⟩
      agrees_of_quiet := fun ⟨replies, c, h⟩ hquiet => ⟨replies, c, h.of_quiet hquiet.1 hquiet.2⟩
      agrees_note_of_quiet := fun ⟨replies, c, h⟩ hquiet =>
        ⟨replies, c, h.of_quiet hquiet.1 hquiet.2⟩ }
  Knows _ e := e.channel = some i → asked e
  Lends _ j := j ≠ i
  Holds _ _ _ := True
  Ended _ _ := True
  knows_mono _ h := h
  lends_mono _ h := h
  holds_mono _ h := h
  ended_mono _ h := h
  quiet_of_aside h := ⟨by rw [Hub.channel?, h.channels]; rfl, h.diary⟩
  quiet_of_drains hub hne _ := ⟨Hub.channel?_onChannel_of_ne hne _ hub, rfl⟩
  agrees_shelve := by
    rintro _ hub e ⟨replies, c, h⟩ he
    refine ⟨replies, c, h.diary, h.asked_of_mem, fun e' he' => ?_, h.channel, h.isOpen, h.notSealed,
      h.capacity, h.queue⟩
    obtain rfl | he' := List.mem_cons.1 he'
    · exact he
    · exact h.asked_of_mem_shelf e' he'
  knows_of_mem_shelf := fun ⟨_, _, h⟩ he => h.asked_of_mem_shelf _ he
  agrees_answer := by
    rintro _ hub e source payload ⟨replies, c, h⟩ he
    by_cases hon : e.channel = some i
    · exact ⟨_, _, h.answer hon (he hon) source payload⟩
    · exact ⟨_, _, h.answer_of_ne hon source payload⟩
  agrees_newEvent := by
    rintro _ hub channel source kind payload ⟨replies, c, h⟩ hlends
    exact ⟨⟨replies, c, h.of_quiet rfl rfl⟩, fun hon => (hlends i hon rfl).elim⟩
  agrees_openChannel := by
    rintro _ hub capacity ⟨replies, c, h⟩
    have hlt : i < hub.channels.length := (List.getElem?_eq_some_iff.1 h.channel).1
    refine ⟨⟨replies, c, h.of_quiet ?_ rfl⟩, Nat.ne_of_gt hlt⟩
    exact List.getElem?_append_left hlt
  holds_of_mem_taken _ _ _ := trivial
  ended_of_close _ _ := trivial

/-! ## Questions that are answered -/

/-- The questions of a request, as they are asked on a channel. -/
def Request.Asks (r : Request) (e : Event) : Prop :=
  ∃ ask ∈ r.asks, e.source = r.source ∧ e.kind = ask.1.kind ∧ e.payload = ask.1

namespace Publisher

variable (publish : Publisher L X)

/-- Publishes what is asked without a deadline. -/
def tellAll (bus i : Nat) (r : Request) (payloads : List Payload) :
    HubJob L X (List (Except BusError Unit)) :=
  Job.inTurn (payloads.map fun payload => publish.tell bus r.source payload.kind payload (some i))

variable {publish} {bus i : Nat} {r : Request} {m m' deadline : Moment} {hub hub' : Hub L X}

/-- Questions that are published in time, one after another, are not given up. -/
theorem ends_ask_of_tellAll (hpunctual : publish.IsPunctual deadline) (expected : List Kind)
    (hintime : m' ≤ deadline) {payloads : List Payload} {results : List (Except BusError Unit)}
    (h : (publish.tellAll bus i r payloads).Ends m hub results m' hub')
    (hok : ∀ result ∈ results, result = .ok ()) :
    (publish.ask bus i r.source expected deadline payloads).Ends m hub (.ok ()) m' hub' := by
  induction payloads generalizing m hub results with
  | nil =>
    cases h
    rfl
  | cons payload rest ih =>
    obtain ⟨result, m₁, hub₁, htell, hrest⟩ := Job.Ends.of_bind h
    obtain ⟨others, m₂, hub₂, hothers, hdone⟩ := Job.Ends.of_bind hrest
    cases hdone
    have hresult := hok result List.mem_cons_self
    subst hresult
    have hle := Moment.le_trans hothers.le hintime
    refine Job.Ends.bind (htell.within_of_isPunctual ?_ hle) ?_
    · exact (hpunctual.tell _ _ _ _ _).isPunctual
    · exact ih hothers fun result hmem => hok result (List.mem_cons_of_mem _ hmem)

end Publisher

/-- Every question of the request was answered once on the channel, and as expected. -/
def Request.IsAnswered (r : Request) (i : Nat) (replies : List Rejoinder) : Prop :=
  ∀ ask ∈ r.asks, ∃ reply,
    ((onChannel i replies).filter fun reply => reply.event.kind == ask.1.kind) = [reply] ∧
      reply.payload.kind = ask.2

theorem exists_singleton_iff {l : List Rejoinder} {kind : Kind} :
    (∃ reply, l = [reply] ∧ reply.payload.kind = kind) ↔
      l.map (fun reply => reply.payload.kind) = [kind] := by
  constructor
  · rintro ⟨reply, rfl, rfl⟩
    rfl
  · intro h
    obtain ⟨reply, rest, rfl, hkind, hrest⟩ := List.map_eq_cons_iff.1 h
    rw [List.map_eq_nil_iff.1 hrest]
    exact ⟨reply, rfl, hkind⟩

instance (r : Request) (i : Nat) (replies : List Rejoinder) : Decidable (r.IsAnswered i replies) :=
  decidable_of_iff (∀ ask ∈ r.asks,
    (((onChannel i replies).filter fun reply => reply.event.kind == ask.1.kind).map
      fun reply => reply.payload.kind) = [ask.2])
    (forall₂_congr fun _ _ => exists_singleton_iff.symm)

/-- Publishing the questions is kept in line, and the channel collects the answers. -/
theorem isKept_tellAll {publish : Publisher L (X × Diary)} {i room : Nat} {r : Request}
    {before : List Rejoinder}
    (h : (collecting L X i room r.Asks before).IsKeptBy publish) (bus : Nat) :
    (publish.tellAll bus i r (r.asks.map Prod.fst)).IsKept
      (collecting L X i room r.Asks before).watch () := by
  refine .inTurn fun p hp => ?_
  obtain ⟨payload, hpayload, rfl⟩ := List.mem_map.1 hp
  obtain ⟨ask, hask, rfl⟩ := List.mem_map.1 hpayload
  refine .act (fun _ _ hub _ hw => ?_) fun _ _ hub _ _ => ?_
  · obtain ⟨replies, c, hcollects⟩ := hw
    exact ⟨replies, c, hcollects.of_quiet rfl rfl⟩
  · exact h () bus _ fun _ => ⟨ask, hask, rfl, rfl, rfl⟩

/-- If every question is answered once, there are as many answers as there are questions. -/
theorem perm_of_answered {r : Request} {i : Nat} {replies : List Rejoinder}
    (hkinds : (r.asks.map fun ask => ask.1.kind).Nodup)
    (hasked : ∀ reply ∈ onChannel i replies, r.Asks reply.event)
    (honce : r.IsAnswered i replies) :
    ((onChannel i replies).map fun reply => reply.event.kind).Perm
      (r.asks.map fun ask => ask.1.kind) := by
  rw [List.perm_iff_count]
  intro kind
  rw [hkinds.count, List.count_eq_countP, List.countP_map, List.countP_eq_length_filter]
  split
  · next hmem =>
    obtain ⟨ask, hask, rfl⟩ := List.mem_map.1 hmem
    obtain ⟨reply, hreply, -⟩ := honce ask hask
    change ((onChannel i replies).filter fun reply => reply.event.kind == ask.1.kind).length = 1
    rw [hreply]
    rfl
  · next hnot =>
    rw [List.length_eq_zero_iff, List.filter_eq_nil_iff]
    intro reply hreply heq
    obtain ⟨ask, hask, -, hkind, -⟩ := hasked reply hreply
    refine hnot (List.mem_map.2 ⟨ask, hask, ?_⟩)
    rw [← hkind]
    exact beq_iff_eq.1 heq

/-- What the channel of a request holds when all questions were asked and each was answered once, as
expected: one answer of every kind. -/
theorem Collects.perm_expected {r : Request} {i room : Nat} {before replies : List Rejoinder}
    {hub : Hub L (X × Diary)} {c : Channel} (h : Collects i room r.Asks before hub replies c)
    (hroom : r.asks.length ≤ room) (hkinds : (r.asks.map fun ask => ask.1.kind).Nodup)
    (hexpected : r.expected.Nodup) (honce : r.IsAnswered i replies) :
    c.queue = (onChannel i replies).map Rejoinder.answer ∧
      (∀ reply ∈ onChannel i replies, reply.result = .ok ()) ∧
      (c.queue.map Event.kind).Perm r.expected := by
  have hperm := perm_of_answered hkinds h.asked_of_mem honce
  have hlength : (onChannel i replies).length = r.asks.length := by
    simpa using hperm.length_eq
  obtain ⟨hqueue, hok⟩ := h.queue (hlength ▸ hroom)
  refine ⟨hqueue, hok, ?_⟩
  have hmap : c.queue.map Event.kind =
      (onChannel i replies).map fun reply => reply.payload.kind := by
    rw [hqueue, List.map_map]
    rfl
  have hsubset : r.expected ⊆ c.queue.map Event.kind := by
    intro kind hkind
    obtain ⟨ask, hask, rfl⟩ := List.mem_map.1 hkind
    obtain ⟨reply, hfilter, hexpects⟩ := honce ask hask
    have hmem : reply ∈ onChannel i replies :=
      (List.mem_filter.1 (hfilter ▸ List.mem_singleton_self reply)).1
    rw [hmap]
    exact List.mem_map.2 ⟨reply, hmem, hexpects⟩
  have hsame : (c.queue.map Event.kind).length = r.expected.length := by
    rw [hmap, List.length_map, hlength, Request.expected, List.length_map]
  exact ((List.subperm_of_subset hexpected hsubset).perm_of_length_le (Nat.le_of_eq hsame)).symm

/-- When the questions are published the channel has collected the answers. -/
theorem Collects.tellAll {handle : Handler L (X × Diary)} (hhonest : handle.IsHonest)
    {depth bus : Nat} {r : Request} {m m' : Moment} {i room : Nat} {before replies : List Rejoinder}
    {hub hub' : Hub L (X × Diary)} {c : Channel} {results : List (Except BusError Unit)}
    (h : Collects i room r.Asks before hub replies c)
    (htold : ((handle.publisher depth).tellAll bus i r (r.asks.map Prod.fst)).Ends m hub results m'
      hub') : ∃ replies' c', Collects i room r.Asks before hub' replies' c' := by
  have hkept := isKept_tellAll (r := r) ((collecting L X i room r.Asks before).isKept_publisher
    hhonest depth) bus
  have hagrees : (collecting L X i room r.Asks before).watch.Agrees () hub := ⟨replies, c, h⟩
  obtain ⟨_, -, hagrees', -⟩ := Job.Keeps.of_ends hkept hagrees htold
  exact hagrees'

/-- If the questions of a request are of different kinds, and so are the answers that are expected,
if they are published in time and without a failure, and if each is answered once, as expected, then
no answer fails, and the request comes to these answers. -/
theorem Handler.ends_request_of_answered {handle : Handler L (X × Diary)} {m m' deadline : Moment}
    (hhonest : handle.IsHonest) (hpunctual : handle.IsPunctual deadline) {depth bus : Nat}
    {r : Request} {hub hub' : Hub L (X × Diary)} {results : List (Except BusError Unit)}
    {replies : List Rejoinder}
    (hkinds : (r.asks.map fun ask => ask.1.kind).Nodup) (hexpected : r.expected.Nodup)
    (hshelf : ∀ e ∈ hub.diary.shelf, ∀ i, e.channel = some i → i < hub.channels.length)
    (htold : ((handle.publisher depth).tellAll bus hub.channels.length r (r.asks.map Prod.fst)).Ends
      m (hub.openChannel r.expected.length).2 results m' hub')
    (hdeadline : m.deadline? r.timeout = some deadline) (hintime : m' ≤ deadline)
    (hsucceed : ∀ result ∈ results, result = .ok ())
    (hreplies : hub'.diary.replies = hub.diary.replies ++ replies)
    (honce : r.IsAnswered hub.channels.length replies) :
    ∃ responses hub'',
      ((handle.publisher depth).request bus r).Ends m hub (.ok responses) m' hub'' ∧
      hub''.diary = hub'.diary ∧
      (∀ reply ∈ onChannel hub.channels.length replies, reply.result = .ok ()) ∧
      (responses.events.map Event.kind).Perm r.expected ∧
      ∀ ask ∈ r.asks, ∃ reply ∈ onChannel hub.channels.length replies,
        reply.event.payload = ask.1 ∧ reply.event.source = r.source ∧ reply.payload.kind = ask.2 ∧
          reply.answer ∈ responses.events := by
  have hpublish := Handler.isPunctual_publisher hpunctual depth
  -- the channel is new, so nothing was asked on it, and it is empty
  have hstart : Collects hub.channels.length (max r.expected.length 1) r.Asks hub.diary.replies
      (hub.openChannel r.expected.length).2 [] (Channel.ofCapacity r.expected.length) := by
    have hnone : ∀ reply, reply ∉ onChannel hub.channels.length [] := fun _ => List.not_mem_nil
    refine ⟨(List.append_nil _).symm, fun reply h => (hnone reply h).elim, fun e he hon => ?_,
      Hub.channel?_openChannel _ hub, rfl, rfl, rfl,
      fun _ => ⟨rfl, fun reply h => (hnone reply h).elim⟩⟩
    exact absurd (hshelf e he _ hon) (Nat.lt_irrefl _)
  obtain ⟨replies', c, hcollects⟩ := hstart.tellAll hhonest htold
  obtain rfl : replies' = replies :=
    List.append_cancel_left (hcollects.diary.symm.trans hreplies)
  have hroom : r.asks.length ≤ max r.expected.length 1 := by
    rw [Request.expected, List.length_map]
    exact Nat.le_max_left _ _
  obtain ⟨hqueue, hok, hperm⟩ := hcollects.perm_expected hroom hkinds hexpected honce
  have hmove : Channel.moveUntil (Wait.isSettled r.expected) [] c.queue = (c.queue, []) :=
    Wait.moveUntil_perm hexpected [] hperm
  obtain ⟨hub'', hrequest, houtside, -⟩ := Publisher.ends_request hdeadline
    (Publisher.ends_ask_of_tellAll hpublish r.expected hintime htold hsucceed) hcollects.channel
    hmove (Wait.verdict?_perm hexpected hperm)
  refine ⟨⟨c.queue⟩, hub'', hrequest, ?_, hok, hperm, fun ask hask => ?_⟩
  · rw [Hub.diary, houtside]
    rfl
  · obtain ⟨reply, hfilter, hexpects⟩ := honce ask hask
    obtain ⟨hmem, hkind⟩ := List.mem_filter.1 (hfilter ▸ List.mem_singleton_self reply)
    obtain ⟨ask', hask', hsource, hkind', hpayload⟩ := hcollects.asked_of_mem reply hmem
    -- the questions are of different kinds, so there is only one of the kind of the event
    have hsame : ask' = ask := List.inj_on_of_nodup_map hkinds hask' hask
      (hkind'.symm.trans (beq_iff_eq.1 hkind))
    rw [hsame] at hpayload
    refine ⟨reply, hmem, hpayload, hsource, hexpects, ?_⟩
    rw [hqueue]
    exact List.mem_map_of_mem hmem

/-- Listeners that take some milliseconds, and then answer or do not. -/
def Handler.answering : Handler (Nat × Option Payload) (Unit × Diary) := fun _ listener e =>
  (Job.sleep listener.1).bind fun _ =>
    match listener.2 with
    | none => .done (.ok ())
    | some payload => Job.change (Hub.answer e "desk" payload)

theorem Handler.isHonest_answering : Handler.answering.IsHonest := by
  intro publish listener e
  refine .bind (.act (fun _ _ => ⟨rfl, rfl, rfl⟩) fun m _ => ?_) fun _ => ?_
  · exact .wait (fun _ _ => ⟨rfl, rfl, rfl⟩) (fun _ => ⟨rfl, rfl, rfl⟩) fun _ _ => .done ()
  · cases listener.2 with
    | none => exact .done _
    | some payload =>
      exact .answer rfl "desk" payload

theorem Handler.isPunctual_answering {limit : Moment} : Handler.answering.IsPunctual limit := by
  intro publish _ listener e
  refine (Job.IsPunctual.sleep listener.1).bind fun _ _ => ?_
  cases listener.2 with
  | none => exact .done trivial
  | some payload => exact Job.IsPunctual.change _

/-- Two questions on a bus with three listeners, of which the slowest does not answer. -/
theorem Handler.ends_request_of_two_answers :
    let topic := Pair.ofTexts "btc" "uah"
    let told := Payload.rateResponded ⟨2.5, topic⟩
    let listed := Payload.subscribersResponded topic ["me@here.org"]
    let hub : Hub (Nat × Option Payload) (Unit × Diary) :=
      (((Hub.ofDispatch .concurrent ((), ⟨[], []⟩)).listen 0 .rateRequested
        (2000, some told)).listen 0 .rateRequested (3000, none)).listen 0 .subscribersRequested
          (0, some listed)
    let r : Request := ⟨"herald", [(.rateRequested topic, .rateResponded),
      (.subscribersRequested topic, .subscribersResponded)], 5000⟩
    ∃ responses hub', ((Handler.answering.publisher 1).request 0 r).Ends Moment.start hub
        (.ok responses) ⟨3000, 0⟩ hub' ∧
      (responses.events.map Event.kind).Perm [.rateResponded, .subscribersResponded] := by
  intro topic told listed hub r
  have hrun : (((Handler.answering.publisher 1).tellAll 0 0 r (r.asks.map Prod.fst)).run
      Moment.start (hub.openChannel 2).2).done?.map (fun done => (done.1.map Except.isOk, done.2.1,
        decide (r.IsAnswered 0 done.2.2.diary.replies))) =
      some ([true, true], ⟨3000, 0⟩, true) := by
    decide +kernel
  obtain ⟨⟨results, m', hub'⟩, hdone, hsummary⟩ := Option.map_eq_some_iff.1 hrun
  obtain ⟨hok, rfl, honce⟩ : results.map Except.isOk = [true, true] ∧ m' = ⟨3000, 0⟩ ∧
      r.IsAnswered 0 hub'.diary.replies := by simpa using hsummary
  have htold := Job.ends_of_done? hdone
  have hkinds : (r.asks.map fun ask => ask.1.kind).Nodup := by
    change [Kind.rateRequested, .subscribersRequested].Nodup
    decide
  have hexpected : r.expected.Nodup := by
    change [Kind.rateResponded, .subscribersResponded].Nodup
    decide
  have hsucceed : ∀ result ∈ results, result = .ok () := by
    intro result hmem
    have hall : ∀ b ∈ results.map Except.isOk, b = true := by
      rw [hok]
      decide
    cases result with
    | ok => rfl
    | error e => exact Bool.noConfusion (hall _ (List.mem_map_of_mem hmem))
  have hdeadline : Moment.start.deadline? r.timeout = some ⟨5000, 0⟩ := by decide
  have hintime : (⟨3000, 0⟩ : Moment) ≤ ⟨5000, 0⟩ := by decide
  have hshelf : ∀ e ∈ hub.diary.shelf, ∀ i, e.channel = some i → i < hub.channels.length :=
    fun _ he => absurd he List.not_mem_nil
  obtain ⟨responses, hub'', hends, -, -, hperm, -⟩ := Handler.ends_request_of_answered
    Handler.isHonest_answering Handler.isPunctual_answering hkinds hexpected hshelf htold hdeadline
    hintime hsucceed rfl honce
  exact ⟨responses, hub'', hends, hperm⟩

end RateHerald
