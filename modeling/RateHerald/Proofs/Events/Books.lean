import RateHerald.Proofs.Events.Conduct

/-!
# The books of a hub

When several are at work on one hub, the books tell who opened which channel, who gave which event
its number, what was answered, and from when on a channel was closed. An event that asks for an
answer is numbered by the one who opened its channel, and whatever is in a channel was put there by
an answer to such an event. This is the invariant: `Booked`.

All that anybody does to a hub is one of a few things, and each of them adds at most one answer,
takes nothing back, opens no channel that is closed, and puts nothing into a channel but that
answer. This is told once, by `Hub.Grows`, and the invariant follows from that alone, whoever takes
the step.

## Main declarations

* `Books`, and `Books.note` for what is written down after a step.
* `Hub.Grows`, with one lemma for each thing that is done to a hub.
* `Booked` and `Booked.note`: the invariant, and that a step keeps it.
* `traffic`: the watch on a hub on which somebody works among others.
-/

namespace RateHerald

variable {L X : Type}

/-! ## What a hub holds -/

namespace Hub

/-- What a channel holds, and what was taken out of it in the last wait. -/
def contents (hub : Hub L X) (i : Nat) : List Event :=
  ((hub.channel? i).map Channel.contents).getD []

/-- Nobody waits on the channel any more. -/
def IsClosed (hub : Hub L X) (i : Nat) : Prop :=
  ∃ c, hub.channel? i = some c ∧ c.isOpen = false

theorem mem_contents_of_mem_taken {hub : Hub L X} {i : Nat} {e : Event} (h : e ∈ hub.taken i) :
    e ∈ hub.contents i := by
  rw [taken] at h
  rw [contents]
  cases hc : hub.channel? i with
  | none =>
    rw [hc] at h
    cases h
  | some c =>
    rw [hc] at h
    exact List.mem_append_left _ h

theorem mem_contents_of_drains {hub : Hub L X} {i j : Nat} {f : Channel → Channel}
    (hf : Channel.Drains f) {e : Event} (h : e ∈ (hub.onChannel i f).contents j) :
    e ∈ hub.contents j := by
  by_cases hij : i = j
  · subst hij
    rw [contents, channel?_onChannel] at h
    rw [contents]
    cases hc : hub.channel? i with
    | none =>
      rw [hc] at h
      cases h
    | some c =>
      rw [hc] at h
      exact hf.mem_of_mem c e h
  · rwa [contents, channel?_onChannel_of_ne hij] at h

theorem IsClosed.of_drains {hub : Hub L X} {i j : Nat} (h : hub.IsClosed j) {f : Channel → Channel}
    (hf : Channel.Drains f) : (hub.onChannel i f).IsClosed j := by
  obtain ⟨c, hc, hclosed⟩ := h
  by_cases hij : i = j
  · subst hij
    exact ⟨f c, by rw [channel?_onChannel, hc, Option.map_some], hf.closed c hclosed⟩
  · exact ⟨c, by rw [channel?_onChannel_of_ne hij, hc], hclosed⟩

theorem IsClosed.of_lt {hub : Hub L X} {i : Nat} (h : i < hub.channels.length) :
    (hub.onChannel i Channel.close).IsClosed i := by
  refine ⟨hub.channels[i].close, ?_, rfl⟩
  rw [channel?_onChannel, Hub.channel?, List.getElem?_eq_getElem h, Option.map_some]

end Hub

theorem Channel.mem_contents_put {c : Channel} {a e : Event} (h : e ∈ (c.put a).2.contents) :
    e ∈ c.contents ∨ ((c.put a).1 = .sent ∧ e = a) := by
  rw [put] at h ⊢
  split
  · next hclosed =>
    rw [if_pos hclosed] at h
    exact .inl h
  · next hopen =>
    rw [if_neg hopen] at h
    split
    · next hroom =>
      rw [if_pos hroom, contents, ← List.append_assoc] at h
      obtain h | h := List.mem_append.1 h
      · exact .inl h
      · exact .inr ⟨rfl, List.mem_singleton.1 h⟩
    · next hfull =>
      rw [if_neg hfull] at h
      exact .inl h

theorem Channel.isOpen_put (c : Channel) (a : Event) : (c.put a).2.isOpen = c.isOpen := by
  rw [put]
  split
  · rfl
  · split <;> rfl

theorem Channel.put_of_closed {c : Channel} (h : c.isOpen = false) (a : Event) :
    c.put a = (.closed, c) := by
  rw [put, h]
  rfl

/-! ## What one step does to a hub -/

/-- What one step does to a hub: it adds at most one answer, to an event that is known, it takes
nothing back, and it puts nothing into a channel but that answer. -/
structure Hub.Grows (known : Event → Prop) (hub hub' : Hub L (X × Diary)) (new : Option Rejoinder) :
    Prop where
  /-- No channel is gone. -/
  channels : hub.channels.length ≤ hub'.channels.length
  /-- No number is given twice. -/
  events : hub.events ≤ hub'.events
  /-- The answer is written down. -/
  replies : hub'.diary.replies = hub.diary.replies ++ new.toList
  /-- It answers an event that is known. -/
  known_event : ∀ reply ∈ new, known reply.event
  /-- What is new on the shelf is known. -/
  known_shelf : ∀ e ∈ hub'.diary.shelf, e ∈ hub.diary.shelf ∨ known e
  /-- If there was a channel for the answer, it has a new number. -/
  number : ∀ reply ∈ new, reply.delivery ≠ none →
    reply.number = hub.events ∧ hub.events < hub'.events
  /-- If nobody waits for the answer any more, it is lost, but this is no failure. -/
  late : ∀ reply ∈ new, ∀ i, reply.event.channel = some i → hub.IsClosed i →
    reply.delivery = some .closed ∧ reply.result = .ok ()
  /-- No channel is opened that is closed. -/
  closed : ∀ i, hub.IsClosed i → hub'.IsClosed i
  /-- Nothing else is put into a channel. -/
  contents : ∀ i, ∀ e ∈ hub'.contents i, e ∈ hub.contents i ∨
    ∃ reply ∈ new, reply.delivery = some .sent ∧ reply.event.channel = some i ∧ reply.answer = e

/-- A change that adds nothing at all. -/
structure Hub.IsQuiet (hub hub' : Hub L (X × Diary)) : Prop where
  /-- There are no more channels. -/
  channels : hub'.channels.length = hub.channels.length
  /-- There were no more events. -/
  events : hub'.events = hub.events
  /-- The diary is the same. -/
  diary : hub'.diary = hub.diary
  /-- No channel is opened that is closed. -/
  closed : ∀ i, hub.IsClosed i → hub'.IsClosed i
  /-- Nothing is put into a channel. -/
  contents : ∀ i, ∀ e ∈ hub'.contents i, e ∈ hub.contents i

namespace Hub

variable {hub hub' hub'' : Hub L (X × Diary)} {known : Event → Prop}

theorem IsQuiet.trans (h : hub.IsQuiet hub') (h' : hub'.IsQuiet hub'') : hub.IsQuiet hub'' where
  channels := h'.channels.trans h.channels
  events := h'.events.trans h.events
  diary := h'.diary.trans h.diary
  closed i hi := h'.closed i (h.closed i hi)
  contents i e he := h.contents i e (h'.contents i e he)

theorem Aside.isQuiet (h : hub.Aside hub') : hub.IsQuiet hub' := by
  have hchannel : ∀ i, hub'.channel? i = hub.channel? i := fun i => by
    rw [Hub.channel?, h.channels]
    rfl
  refine ⟨by rw [h.channels], h.events, h.diary, fun i hi => ?_, fun i e he => ?_⟩
  · rwa [IsClosed, hchannel]
  · rwa [contents, hchannel] at he

theorem isQuiet_of_drains {f : Channel → Channel} (hf : Channel.Drains f) (i : Nat)
    (hub : Hub L (X × Diary)) : hub.IsQuiet (hub.onChannel i f) where
  channels := List.length_modify _ _ _
  events := rfl
  diary := rfl
  closed _ hj := hj.of_drains hf
  contents _ _ he := mem_contents_of_drains hf he

/-- A step without an answer. -/
theorem grows_of_replies_eq (hchannels : hub.channels.length ≤ hub'.channels.length)
    (hevents : hub.events ≤ hub'.events) (hreplies : hub'.diary.replies = hub.diary.replies)
    (hshelf : ∀ e ∈ hub'.diary.shelf, e ∈ hub.diary.shelf ∨ known e)
    (hclosed : ∀ i, hub.IsClosed i → hub'.IsClosed i)
    (hcontents : ∀ i, ∀ e ∈ hub'.contents i, e ∈ hub.contents i) : hub.Grows known hub' none where
  channels := hchannels
  events := hevents
  replies := by rw [hreplies, Option.toList_none, List.append_nil]
  known_event reply h := (Option.not_mem_none reply h).elim
  known_shelf := hshelf
  number reply h := (Option.not_mem_none reply h).elim
  late reply h := (Option.not_mem_none reply h).elim
  closed := hclosed
  contents i e he := .inl (hcontents i e he)

theorem IsQuiet.grows (h : hub.IsQuiet hub') : hub.Grows known hub' none :=
  grows_of_replies_eq (Nat.le_of_eq h.channels.symm) (Nat.le_of_eq h.events.symm) (by rw [h.diary])
    (fun _ he => .inl (h.diary ▸ he)) h.closed h.contents

theorem grows_shelve {e : Event} (he : known e) (hub : Hub L (X × Diary)) :
    hub.Grows known (hub.shelve e) none := by
  refine grows_of_replies_eq (Nat.le_refl _) (Nat.le_refl _) rfl (fun e' he' => ?_)
    (fun _ hi => hi) fun _ _ he => he
  obtain rfl | he' := List.mem_cons.1 he'
  · exact .inr he
  · exact .inl he'

theorem grows_newEvent (source : String) (kind : Kind) (payload : Payload)
    (answers channel : Option Nat) (hub : Hub L (X × Diary)) :
    hub.Grows known (hub.newEvent source kind payload answers channel).2 none :=
  grows_of_replies_eq (Nat.le_refl _) (Nat.le_succ _) rfl (fun _ he => .inl he) (fun _ hi => hi)
    fun _ _ he => he

theorem channel?_openChannel_of_ne (capacity : Nat) {i : Nat} (h : i ≠ hub.channels.length) :
    (hub.openChannel capacity).2.channel? i = hub.channel? i := by
  obtain hlt | hgt := Nat.lt_or_gt_of_ne h
  · exact List.getElem?_append_left hlt
  · rw [Hub.channel?, Hub.channel?, List.getElem?_eq_none (Nat.le_of_lt hgt)]
    exact List.getElem?_eq_none (by rw [openChannel, List.length_append]; exact hgt)

/-- A new channel is empty. -/
theorem grows_openChannel (capacity : Nat) (hub : Hub L (X × Diary)) :
    hub.Grows known (hub.openChannel capacity).2 none := by
  refine grows_of_replies_eq ?_ (Nat.le_refl _) rfl (fun _ he => .inl he) (fun i hi => ?_)
    fun i e he => ?_
  · rw [openChannel, List.length_append]
    exact Nat.le_add_right _ _
  · obtain ⟨c, hc, hclosed⟩ := hi
    have hlt := (List.getElem?_eq_some_iff.1 hc).1
    exact ⟨c, by rw [channel?_openChannel_of_ne capacity (Nat.ne_of_lt hlt), hc], hclosed⟩
  · by_cases hi : i = hub.channels.length
    · rw [contents, hi, channel?_openChannel] at he
      cases he
    · rwa [contents, channel?_openChannel_of_ne capacity hi] at he

section Answer

variable {e : Event} {i : Nat} (source : String) (payload : Payload)

/-- An answer on a channel that is closed is lost, but it is no failure. -/
theorem replyTo_of_isClosed (hi : e.channel = some i) (h : hub.IsClosed i) :
    (hub.replyTo e source payload).delivery = some .closed ∧
      (hub.replyTo e source payload).result = .ok () := by
  obtain ⟨c, hc, hclosed⟩ := h
  have hdelivery : (hub.replyTo e source payload).delivery = some .closed := by
    rw [delivery_replyTo source payload hi hc, Channel.put_of_closed hclosed]
  refine ⟨hdelivery, ?_⟩
  change (respond e source payload hub).1 = _
  rw [respond_of_some hi, hdelivery]
  rfl

theorem IsClosed.of_answer (h : hub.IsClosed i) (e : Event) :
    (hub.answer e source payload).2.IsClosed i := by
  obtain ⟨c, hc, hclosed⟩ := h
  have hresponded := channel?_respond e source payload hub i
  split at hresponded
  · rw [hc, Option.map_some] at hresponded
    exact ⟨_, hresponded, by rw [Channel.isOpen_put, hclosed]⟩
  · exact ⟨c, hresponded.trans hc, hclosed⟩

/-- Nothing but the answer is put into a channel. -/
theorem mem_contents_answer {a : Event} (h : a ∈ (hub.answer e source payload).2.contents i) :
    a ∈ hub.contents i ∨ ((hub.replyTo e source payload).delivery = some .sent ∧
      e.channel = some i ∧ (hub.replyTo e source payload).answer = a) := by
  change a ∈ (((respond e source payload hub).2.channel? i).map Channel.contents).getD [] at h
  rw [channel?_respond e source payload hub i] at h
  split at h
  · next hi =>
    rcases hc : hub.channel? i with _ | c
    · rw [hc] at h
      exact absurd h List.not_mem_nil
    · rw [hc] at h
      obtain hold | ⟨hsent, rfl⟩ := Channel.mem_contents_put h
      · refine .inl ?_
        rw [contents, hc]
        exact hold
      · refine .inr ⟨?_, hi, rfl⟩
        rw [delivery_replyTo source payload hi hc, hsent]
  · exact .inl h

theorem grows_answer (he : known e) (hub : Hub L (X × Diary)) :
    hub.Grows known (hub.answer e source payload).2 (some (hub.replyTo e source payload)) where
  channels := Nat.le_of_eq (length_channels_respond e source payload hub).symm
  events := by
    change hub.events ≤ (respond e source payload hub).2.events
    rw [events_respond]
    exact Nat.le_add_right _ _
  replies := by
    rw [diary_answer]
    rfl
  known_event := by
    rintro _ ⟨⟩
    exact he
  known_shelf e' he' := by
    rw [diary_answer] at he'
    exact .inl he'
  number := by
    rintro _ ⟨⟩ hdelivery
    refine ⟨rfl, ?_⟩
    change hub.events < (respond e source payload hub).2.events
    have hchannel : e.channel ≠ none := fun hnone => hdelivery (by rw [replyTo, hnone]; rfl)
    rw [events_respond, if_neg hchannel]
    exact Nat.lt_succ_self _
  late := by
    rintro _ ⟨⟩ i hi hclosed
    exact replyTo_of_isClosed source payload hi hclosed
  closed i hi := hi.of_answer source payload e
  contents i a ha := (mem_contents_answer source payload ha).imp_right
    fun ⟨hsent, hi, hanswer⟩ => ⟨_, rfl, hsent, hi, hanswer⟩

end Answer

end Hub

/-! ## The books -/

/-- Somebody who works on a hub. -/
inductive Author where
  /-- A request. -/
  | request (j : Nat)
  /-- Somebody else. -/
  | helper (k : Nat)
deriving Repr, DecidableEq

/-- What is known about a hub on which several are at work. -/
structure Books where
  /-- Who opened the channels. -/
  openers : List Author
  /-- Who gave the events their numbers. -/
  issuers : List Author
  /-- What was answered. -/
  replies : List Rejoinder
  /-- Whether a channel was closed when there were so many answers. -/
  closed : Nat → Nat → Prop

namespace Books

/-- The books when nobody has been at work. -/
def empty : Books :=
  ⟨[], [], [], fun _ _ => False⟩

/-- What is written down after somebody took a step from one hub to another. -/
def note (who : Author) (books : Books) (hub hub' : Hub L (X × Diary)) : Books where
  openers := books.openers ++ List.replicate (hub'.channels.length - hub.channels.length) who
  issuers := books.issuers ++ List.replicate (hub'.events - hub.events) who
  replies := books.replies ++ hub'.diary.replies.drop hub.diary.replies.length
  closed i n := books.closed i n ∨ (hub'.IsClosed i ∧ n = hub'.diary.replies.length)

/-- What is in the first books is in the second. -/
structure Extends (books books' : Books) : Prop where
  /-- Those who opened channels. -/
  openers : books.openers <+: books'.openers
  /-- Those who numbered events. -/
  issuers : books.issuers <+: books'.issuers
  /-- The answers. -/
  replies : books.replies <+: books'.replies
  /-- The channels that are closed. -/
  closed : ∀ i n, books.closed i n → books'.closed i n

/-- The event was given its number by somebody, and by the one who opened its channel if it asks for
an answer. -/
def Knows (books : Books) (e : Event) : Prop :=
  ∃ who, books.issuers[e.id]? = some who ∧
    ∀ i, e.channel = some i → books.openers[i]? = some who

/-- The event was put into the channel, as an answer to an event that names the channel. -/
def Holds (books : Books) (i : Nat) (e : Event) : Prop :=
  ∃ reply ∈ books.replies, reply.delivery = some .sent ∧ reply.event.channel = some i ∧
    reply.answer = e

variable {books books' books'' : Books} {hub hub' : Hub L (X × Diary)} {i : Nat} {e : Event}
  {who : Author}

namespace Extends

theorem refl (books : Books) : books.Extends books :=
  ⟨List.prefix_refl _, List.prefix_refl _, List.prefix_refl _, fun _ _ h => h⟩

theorem trans (h : books.Extends books') (h' : books'.Extends books'') : books.Extends books'' where
  openers := h.openers.trans h'.openers
  issuers := h.issuers.trans h'.issuers
  replies := h.replies.trans h'.replies
  closed i n hi := h'.closed i n (h.closed i n hi)

theorem note (who : Author) (books : Books) (hub hub' : Hub L (X × Diary)) :
    books.Extends (books.note who hub hub') :=
  ⟨List.prefix_append _ _, List.prefix_append _ _, List.prefix_append _ _, fun _ _ => .inl⟩

theorem opener (h : books.Extends books') (hi : books.openers[i]? = some who) :
    books'.openers[i]? = some who := by
  obtain ⟨more, hmore⟩ := h.openers
  rw [← hmore, List.getElem?_append_left (List.getElem?_eq_some_iff.1 hi).1, hi]

theorem issuer (h : books.Extends books') (hi : books.issuers[i]? = some who) :
    books'.issuers[i]? = some who := by
  obtain ⟨more, hmore⟩ := h.issuers
  rw [← hmore, List.getElem?_append_left (List.getElem?_eq_some_iff.1 hi).1, hi]

theorem knows (h : books.Extends books') (he : books.Knows e) : books'.Knows e := by
  obtain ⟨who, hissuer, hopener⟩ := he
  exact ⟨who, h.issuer hissuer, fun i hi => h.opener (hopener i hi)⟩

theorem holds (h : books.Extends books') (he : books.Holds i e) : books'.Holds i e := by
  obtain ⟨reply, hreply, hsent⟩ := he
  exact ⟨reply, h.replies.subset hreply, hsent⟩

end Extends

end Books

/-- The books agree with the hub: every event that was answered or is on the shelf is known, answers
are told apart by their numbers, every channel holds answers only to the events that name it, and
whatever is answered when a channel is closed is lost. -/
structure Booked (books : Books) (hub : Hub L (X × Diary)) : Prop where
  /-- Every channel was opened by somebody. -/
  openers : books.openers.length = hub.channels.length
  /-- Every number was given by somebody. -/
  issuers : books.issuers.length = hub.events
  /-- The answers are those in the diary. -/
  replies : books.replies = hub.diary.replies
  /-- Every event that was answered is known. -/
  knows : ∀ reply ∈ books.replies, books.Knows reply.event
  /-- Every event that is on the shelf is known. -/
  knows_shelf : ∀ e ∈ hub.diary.shelf, books.Knows e
  /-- Answers have been given their numbers. -/
  number_lt : ∀ reply ∈ books.replies, reply.delivery ≠ none → reply.number < hub.events
  /-- No two answers have the same number. -/
  eq_of_number : ∀ reply ∈ books.replies, ∀ reply' ∈ books.replies, reply.delivery ≠ none →
    reply'.delivery ≠ none → reply.number = reply'.number → reply = reply'
  /-- Channels hold what was put into them. -/
  holds : ∀ i, ∀ e ∈ hub.contents i, books.Holds i e
  /-- Channels stay closed, and what is answered later is lost. -/
  closed : ∀ i n, books.closed i n → hub.IsClosed i ∧ n ≤ books.replies.length ∧
    ∀ reply ∈ books.replies.drop n, reply.event.channel = some i →
      reply.delivery = some .closed ∧ reply.result = .ok ()

namespace Booked

variable {books : Books} {hub hub' : Hub L (X × Diary)} {new : Option Rejoinder} {who : Author}

/-- A change that adds nothing need not be written down. -/
theorem of_isQuiet (h : Booked books hub) (hquiet : hub.IsQuiet hub') : Booked books hub' where
  openers := h.openers.trans hquiet.channels.symm
  issuers := h.issuers.trans hquiet.events.symm
  replies := by rw [hquiet.diary, h.replies]
  knows := h.knows
  knows_shelf := by
    rw [hquiet.diary]
    exact h.knows_shelf
  number_lt := by
    rw [hquiet.events]
    exact h.number_lt
  eq_of_number := h.eq_of_number
  holds i e he := h.holds i e (hquiet.contents i e he)
  closed i n hn := (h.closed i n hn).imp_left (hquiet.closed i)

theorem replies_note {known : Event → Prop} (hgrows : hub.Grows known hub' new) (who : Author)
    (books : Books) : (books.note who hub hub').replies = books.replies ++ new.toList := by
  rw [Books.note, hgrows.replies, List.drop_left]

theorem mem_replies_note (hgrows : hub.Grows books.Knows hub' new) {reply : Rejoinder}
    (hreply : reply ∈ (books.note who hub hub').replies) : reply ∈ books.replies ∨ reply ∈ new := by
  rwa [replies_note hgrows, List.mem_append, Option.mem_toList] at hreply

/-- An answer that is new has a number that no other has. -/
theorem eq_of_number_note (h : Booked books hub) (hgrows : hub.Grows books.Knows hub' new)
    {reply reply' : Rejoinder} (hreply : reply ∈ (books.note who hub hub').replies)
    (hreply' : reply' ∈ (books.note who hub hub').replies) (hdelivery : reply.delivery ≠ none)
    (hdelivery' : reply'.delivery ≠ none) (heq : reply.number = reply'.number) :
    reply = reply' := by
  have hfresh : ∀ reply ∈ books.replies, reply.delivery ≠ none → ∀ reply' ∈ new,
      reply'.delivery ≠ none → reply.number ≠ reply'.number := by
    intro reply hreply hdelivery reply' hreply' hdelivery' heq
    have hlt := h.number_lt reply hreply hdelivery
    have hnew := (hgrows.number reply' hreply' hdelivery').1
    omega
  obtain hold | hnew := mem_replies_note hgrows hreply
  · obtain hold' | hnew' := mem_replies_note hgrows hreply'
    · exact h.eq_of_number reply hold reply' hold' hdelivery hdelivery' heq
    · exact (hfresh reply hold hdelivery reply' hnew' hdelivery' heq).elim
  · obtain hold' | hnew' := mem_replies_note hgrows hreply'
    · exact (hfresh reply' hold' hdelivery' reply hnew hdelivery heq.symm).elim
    · exact Option.mem_unique hnew hnew'

/-- A channel that is closed stays so, and what is answered in this step or later is lost. -/
theorem closed_note (h : Booked books hub) (hgrows : hub.Grows books.Knows hub' new) {i n : Nat}
    (hn : (books.note who hub hub').closed i n) :
    hub'.IsClosed i ∧ n ≤ (books.note who hub hub').replies.length ∧
      ∀ reply ∈ (books.note who hub hub').replies.drop n, reply.event.channel = some i →
        reply.delivery = some .closed ∧ reply.result = .ok () := by
  rw [replies_note hgrows]
  obtain hold | ⟨hclosed, rfl⟩ := hn
  · obtain ⟨hclosed, hlength, hlost⟩ := h.closed i n hold
    refine ⟨hgrows.closed i hclosed, ?_, fun reply hreply hi => ?_⟩
    · rw [List.length_append]
      exact Nat.le_trans hlength (Nat.le_add_right _ _)
    · rw [List.drop_append_of_le_length hlength, List.mem_append, Option.mem_toList] at hreply
      obtain hreply | hnew := hreply
      · exact hlost reply hreply hi
      · exact hgrows.late reply hnew i hi hclosed
  · -- the channel is found closed only now, so there is nothing yet that was answered later
    have hall : books.replies ++ new.toList = hub'.diary.replies := by
      rw [h.replies, hgrows.replies]
    rw [hall]
    refine ⟨hclosed, Nat.le_refl _, fun reply hreply => ?_⟩
    rw [List.drop_length] at hreply
    cases hreply

/-- Whoever takes a step, the books agree with the hub when it is written down. -/
theorem note (h : Booked books hub) (hgrows : hub.Grows books.Knows hub' new) (who : Author) :
    Booked (books.note who hub hub') hub' := by
  have hle := Books.Extends.note who books hub hub'
  have hreplies := replies_note hgrows who books
  refine ⟨?_, ?_, ?_, fun reply hreply => ?_, fun e he => ?_, fun reply hreply hdelivery => ?_,
    fun reply hreply reply' hreply' => h.eq_of_number_note hgrows hreply hreply',
    fun i e he => ?_, fun i n => h.closed_note hgrows⟩
  · have := hgrows.channels
    rw [Books.note, List.length_append, List.length_replicate, h.openers]
    omega
  · have := hgrows.events
    rw [Books.note, List.length_append, List.length_replicate, h.issuers]
    omega
  · rw [hreplies, h.replies, hgrows.replies]
  · obtain hold | hnew := mem_replies_note hgrows hreply
    · exact hle.knows (h.knows reply hold)
    · exact hle.knows (hgrows.known_event reply hnew)
  · obtain hold | hnew := hgrows.known_shelf e he
    · exact hle.knows (h.knows_shelf e hold)
    · exact hle.knows hnew
  · obtain hold | hnew := mem_replies_note hgrows hreply
    · exact Nat.lt_of_lt_of_le (h.number_lt reply hold hdelivery) hgrows.events
    · obtain ⟨hfresh, hlt⟩ := hgrows.number reply hnew hdelivery
      rwa [hfresh]
  · obtain hold | ⟨reply, hnew, hsent⟩ := hgrows.contents i e he
    · exact hle.holds (h.holds i e hold)
    · refine ⟨reply, ?_, hsent⟩
      rw [hreplies, List.mem_append, Option.mem_toList]
      exact .inr hnew

end Booked

/-! ## The watch -/

/-- The watch on a hub on which somebody works among others. -/
def traffic (L X : Type) (who : Author) : Regime L X Books where
  watch :=
    { Agrees := Booked
      note := fun books hub hub' => books.note who hub hub'
      Extends := Books.Extends
      Quiet := Hub.IsQuiet
      extends_refl := .refl
      extends_trans := .trans
      extends_note := .note who
      quiet_trans := .trans
      agrees_of_quiet := .of_isQuiet
      agrees_note_of_quiet := fun h hquiet => h.note hquiet.grows who }
  Knows := Books.Knows
  Lends books i := books.openers[i]? = some who
  Holds := Books.Holds
  Ended books i := ∃ n, books.closed i n
  knows_mono := Books.Extends.knows
  lends_mono := Books.Extends.opener
  holds_mono := Books.Extends.holds
  ended_mono := fun hle ⟨n, hn⟩ => ⟨n, hle.closed _ n hn⟩
  quiet_of_aside := Hub.Aside.isQuiet
  quiet_of_drains := fun hub _ hf => Hub.isQuiet_of_drains hf _ hub
  agrees_shelve := fun h he => h.note (Hub.grows_shelve he _) who
  knows_of_mem_shelf := fun h he => h.knows_shelf _ he
  agrees_answer := fun source payload h he => h.note (Hub.grows_answer source payload he _) who
  agrees_newEvent := by
    intro books hub channel source kind payload h hlends
    refine ⟨h.note (Hub.grows_newEvent source kind payload none channel hub) who, who, ?_,
      fun i hi => Books.Extends.opener (.note who _ _ _) (hlends i hi)⟩
    change (books.issuers ++ List.replicate (hub.events + 1 - hub.events) who)[hub.events]? =
      some who
    rw [Nat.add_sub_cancel_left, ← h.issuers, List.replicate_one, List.getElem?_concat_length]
  agrees_openChannel := by
    intro books hub capacity h
    refine ⟨h.note (Hub.grows_openChannel capacity hub) who, ?_⟩
    change (books.openers ++ List.replicate ((hub.channels ++
      [Channel.ofCapacity capacity]).length - hub.channels.length) who)[hub.channels.length]? =
        some who
    rw [List.length_append, Nat.add_sub_cancel_left, ← h.openers, List.length_singleton,
      List.replicate_one, List.getElem?_concat_length]
  holds_of_mem_taken := fun h _ he => h.holds _ _ (Hub.mem_contents_of_mem_taken he)
  ended_of_close := by
    intro books hub i h hi
    have hlt : i < hub.channels.length := h.openers ▸ (List.getElem?_eq_some_iff.1 hi).1
    exact ⟨_, .inr ⟨.of_lt hlt, rfl⟩⟩

end RateHerald
