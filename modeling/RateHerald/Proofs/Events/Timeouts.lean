import RateHerald.Proofs.Events.Answers
import RateHerald.Proofs.Timed.Neighbours

/-!
# What a timeout tells

A request that runs into its deadline tells which kinds of answer are missing. Of the two ways into
the deadline only one leads to the truth. If the questions were published and the request waits,
the missing kinds are those of which no answer was put into its channel. If a question is still
being published, all kinds that are expected are told as missing, also those that were answered.

Beside the request others may be at work. They answer whatever events they like, also those of the
request, and otherwise leave its channel alone. The listeners that the request calls are honest. As
long as questions are published nobody takes an answer out, so the channel holds what was put into
it, `Gathers`, and this is still so while the request waits, counting what it has taken.

## Main declarations

* `sentTo`: the answers that were put into a channel, as the diary tells.
* `Gathers` and `gathering`, a watch on the channel while the questions are published.
* `Publisher.Halves` and `Publisher.halves_of_endsAmid`: a request publishes, and then it waits.
* `Handler.missing_of_timeout`: what is told as missing on either way into the deadline.
-/

namespace RateHerald

variable {L X : Type}

/-! ## What was put into a channel -/

/-- The answers that were put into a channel, in the order in which they were. -/
def sentTo (i : Nat) (replies : List Rejoinder) : List Event :=
  ((onChannel i replies).filter fun reply => reply.delivery = some .sent).map Rejoinder.answer

theorem sentTo_concat (i : Nat) (replies : List Rejoinder) (reply : Rejoinder) :
    sentTo i (replies ++ [reply]) =
      if reply.event.channel = some i ∧ reply.delivery = some .sent then
        sentTo i replies ++ [reply.answer]
      else sentTo i replies := by
  rw [sentTo, sentTo, onChannel_concat]
  by_cases hon : reply.event.channel = some i
  · by_cases hsent : reply.delivery = some .sent
    · simp [hon, hsent]
    · simp [hon, hsent]
  · simp [hon]

/-- The kinds that a request expects and of which no answer was put in, in the order in which they
are expected. -/
def Request.unanswered (r : Request) (sent : List Event) : List Kind :=
  r.expected.filter fun kind => ∀ e ∈ sent, e.kind ≠ kind

namespace Channel

/-- An answer that is put in comes last, and any other leaves the channel as it is. -/
theorem contents_put (c : Channel) (e : Event) :
    (c.put e).2.contents = if (c.put e).1 = .sent then c.contents ++ [e] else c.contents := by
  rw [put]
  split
  · rfl
  · split
    · exact (List.append_assoc _ _ _).symm
    · rfl

theorem taken_put (c : Channel) (e : Event) : (c.put e).2.taken = c.taken := by
  rw [put]
  split
  · rfl
  · split <;> rfl

theorem contents_takeUntil (enough : List Event → Bool) (c : Channel) :
    (c.takeUntil enough).contents = c.contents :=
  moveUntil_append enough c.taken c.queue

/-- Who has not taken enough has taken all. -/
theorem moveUntil_of_not_enough {enough : List Event → Bool} {taken queue : List Event}
    (h : enough (moveUntil enough taken queue).1 = false) :
    (moveUntil enough taken queue).2 = [] := by
  induction queue generalizing taken with
  | nil => rfl
  | cons e queue ih =>
    rw [moveUntil] at h ⊢
    by_cases henough : enough taken = true
    · rw [if_pos henough] at h
      exact absurd henough (Bool.eq_false_iff.1 h)
    · rw [if_neg henough] at h ⊢
      exact ih h

theorem taken_takeUntil_of_not_enough {enough : List Event → Bool} {c : Channel}
    (h : enough (c.takeUntil enough).taken = false) : (c.takeUntil enough).taken = c.contents := by
  have hall := contents_takeUntil enough c
  have hempty : (c.takeUntil enough).queue = [] := moveUntil_of_not_enough h
  rwa [contents, hempty, List.append_nil] at hall

end Channel

/-- What a channel holds, and what was taken out of it in the present wait, is what was put into it;
`replies` are the answers since the channel was opened. -/
structure Gathers (i : Nat) (before : List Rejoinder) (hub : Hub L (X × Diary))
    (replies : List Rejoinder) (c : Channel) : Prop where
  /-- The replies are the last ones in the diary. -/
  diary : hub.diary.replies = before ++ replies
  /-- The channel is there. -/
  channel : hub.channel? i = some c
  /-- What it holds, and what was taken out, was put in. -/
  contents : c.contents = sentTo i replies

namespace Gathers

variable {i : Nat} {before : List Rejoinder} {hub hub' : Hub L (X × Diary)}
  {replies : List Rejoinder} {c : Channel}

/-- A change that touches neither the channel nor what is told in the diary. -/
theorem of_quiet (h : Gathers i before hub replies c)
    (hchannel : hub'.channel? i = hub.channel? i)
    (hdiary : hub'.diary.replies = hub.diary.replies) : Gathers i before hub' replies c :=
  ⟨hdiary.trans h.diary, hchannel.trans h.channel, h.contents⟩

/-- One more answer, to whatever event. -/
theorem answer (h : Gathers i before hub replies c) (e : Event) (source : String)
    (payload : Payload) :
    ∃ c', Gathers i before (hub.answer e source payload).2
      (replies ++ [hub.replyTo e source payload]) c' ∧ c'.taken = c.taken := by
  have hreplies : (hub.answer e source payload).2.diary.replies =
      before ++ (replies ++ [hub.replyTo e source payload]) := by
    rw [Hub.diary_answer, ← List.append_assoc, ← h.diary]
  have hchannel := Hub.channel?_respond e source payload hub i
  by_cases hon : e.channel = some i
  · rw [if_pos hon, h.channel, Option.map_some] at hchannel
    refine ⟨_, ⟨hreplies, hchannel, ?_⟩, Channel.taken_put _ _⟩
    have hdelivery := Hub.delivery_replyTo source payload hon h.channel
    rw [Channel.contents_put, sentTo_concat, hdelivery, h.contents]
    simp only [Option.some_inj]
    exact if_congr (and_iff_right hon).symm rfl rfl
  · rw [if_neg hon] at hchannel
    refine ⟨c, ⟨hreplies, hchannel.trans h.channel, ?_⟩, rfl⟩
    rw [sentTo_concat, if_neg fun hboth => hon hboth.1]
    exact h.contents

end Gathers

/-- Others answer events, and otherwise leave a channel and what is told in the diary alone. -/
inductive Hub.OnlyAnswers (i : Nat) : Hub L (X × Diary) → Hub L (X × Diary) → Prop where
  | answer (hub : Hub L (X × Diary)) (e : Event) (source : String) (payload : Payload) :
      OnlyAnswers i hub (hub.answer e source payload).2
  | aside {hub hub' : Hub L (X × Diary)} (hchannel : hub'.channel? i = hub.channel? i)
      (hdiary : hub'.diary.replies = hub.diary.replies) : OnlyAnswers i hub hub'

theorem Gathers.others {i : Nat} {before : List Rejoinder} {hub hub' : Hub L (X × Diary)}
    {replies : List Rejoinder} {c : Channel} (h : Gathers i before hub replies c)
    (hothers : hub.OnlyAnswers i hub') :
    ∃ replies' c', Gathers i before hub' replies' c' ∧ c'.taken = c.taken := by
  cases hothers with
  | answer e source payload => exact ⟨_, h.answer e source payload⟩
  | aside hchannel hdiary => exact ⟨replies, c, h.of_quiet hchannel hdiary, rfl⟩

/-! ## While questions are published -/

/-- The watch on a channel while the questions are published: nobody takes anything out. There is
nothing to write down that is not in the diary. -/
def gathering (L X : Type) (i : Nat) (before : List Rejoinder) : Regime L X Unit where
  watch :=
    { Agrees := fun _ hub => ∃ replies c, Gathers i before hub replies c ∧ c.taken = []
      note := fun _ _ _ => ()
      Extends := fun _ _ => True
      Quiet := fun hub hub' => hub'.channel? i = hub.channel? i ∧
        hub'.diary.replies = hub.diary.replies
      extends_refl := fun _ => trivial
      extends_trans := fun _ _ => trivial
      extends_note := fun _ _ _ => trivial
      quiet_trans := fun h h' => ⟨h'.1.trans h.1, h'.2.trans h.2⟩
      agrees_of_quiet := fun ⟨replies, c, h, hnone⟩ hquiet =>
        ⟨replies, c, h.of_quiet hquiet.1 hquiet.2, hnone⟩
      agrees_note_of_quiet := fun ⟨replies, c, h, hnone⟩ hquiet =>
        ⟨replies, c, h.of_quiet hquiet.1 hquiet.2, hnone⟩ }
  Knows _ _ := True
  Lends _ j := j ≠ i
  Holds _ _ _ := True
  Ended _ _ := True
  knows_mono _ h := h
  lends_mono _ h := h
  holds_mono _ h := h
  ended_mono _ h := h
  quiet_of_aside h := by
    refine ⟨?_, by rw [h.diary]⟩
    rw [Hub.channel?, h.channels]
    rfl
  quiet_of_drains hub hne _ := ⟨Hub.channel?_onChannel_of_ne hne _ hub, rfl⟩
  agrees_shelve := by
    rintro _ hub e ⟨replies, c, h, hnone⟩ _
    exact ⟨replies, c, h.of_quiet rfl rfl, hnone⟩
  knows_of_mem_shelf _ _ := trivial
  agrees_answer := by
    rintro _ hub e source payload ⟨replies, c, h, hnone⟩ _
    obtain ⟨c', h', htaken⟩ := h.answer e source payload
    exact ⟨_, c', h', htaken.trans hnone⟩
  agrees_newEvent := by
    rintro _ hub channel source kind payload ⟨replies, c, h, hnone⟩ _
    exact ⟨⟨replies, c, h.of_quiet rfl rfl, hnone⟩, trivial⟩
  agrees_openChannel := by
    rintro _ hub capacity ⟨replies, c, h, hnone⟩
    have hlt : i < hub.channels.length := (List.getElem?_eq_some_iff.1 h.channel).1
    refine ⟨⟨replies, c, h.of_quiet ?_ rfl, hnone⟩, Nat.ne_of_gt hlt⟩
    exact List.getElem?_append_left hlt
  holds_of_mem_taken _ _ _ := trivial
  ended_of_close _ _ := trivial

namespace Publisher

variable {publish : Publisher L (X × Diary)} {bus i : Nat} {source : String} {expected : List Kind}
  {deadline m m' : Moment} {before : List Rejoinder} {hub hub' : Hub L (X × Diary)}

/-- Publishing questions is kept in line also on the channel that is watched. -/
theorem isKept_ask_gathering (h : (gathering L X i before).IsKeptBy publish) (bus : Nat)
    (source : String) (expected : List Kind) (deadline : Moment) (payloads : List Payload) :
    (publish.ask bus i source expected deadline payloads).IsKept (gathering L X i before).watch
      () := by
  induction payloads with
  | nil => exact .done trivial
  | cons payload rest ih =>
    have htell : (publish.tell bus source payload.kind payload (some i)).IsKept
        (gathering L X i before).watch () := by
      refine .act (fun _ _ hub _ hw => ?_) fun _ _ _ _ _ => h () bus _ trivial
      obtain ⟨replies, c, hgathers, hnone⟩ := hw
      exact ⟨replies, c, hgathers.of_quiet rfl rfl, hnone⟩
    refine (htell.within deadline).bind fun _ result _ _ => ?_
    match result with
    | none => exact .done trivial
    | some (.error _) => exact .done trivial
    | some (.ok ()) => exact ih

/-- Publishing questions ends by the deadline, and if it is given up, all kinds are told as
missing. -/
theorem of_endsAmid_ask {publish : Publisher L X} {others : Hub L X → Hub L X → Prop}
    {hub hub' : Hub L X}
    (hpublish : ∀ {i e m s result m' s'}, (publish i e).EndsAmid others m s result m' s' →
      ¬IsTimeout result)
    {payloads : List Payload} {result : Except BusError Unit}
    (h : (publish.ask bus i source expected deadline payloads).EndsAmid others m hub result m'
      hub') :
    m' ≤ m.later deadline ∧
      ∀ missing, result = .error (.timeout missing) → missing = expected ∧ deadline ≤ m' := by
  induction payloads generalizing m hub with
  | nil =>
    cases h
    exact ⟨Moment.le_later_left _ _, nofun⟩
  | cons payload rest ih =>
    obtain ⟨told, m₁, hub₁, htell, hrest⟩ := Job.EndsAmid.of_bind h
    obtain ⟨hle, hlate, hdone⟩ := htell.of_within
    match told with
    | none =>
      cases hrest
      refine ⟨hle, ?_⟩
      rintro missing ⟨⟩
      exact ⟨rfl, hlate rfl⟩
    | some (.error e) =>
      cases hrest
      refine ⟨hle, ?_⟩
      rintro missing ⟨⟩
      -- to publish never fails because the time was over
      obtain ⟨e, m₂, hub₂, -, hpublished⟩ := Job.EndsAmid.of_bind (hdone _ rfl)
      exact (hpublish hpublished ⟨missing, rfl⟩).elim
    | some (.ok ()) =>
      obtain ⟨hle', hmissing⟩ := ih hrest
      exact ⟨Moment.le_trans hle' (Moment.later_le hle (Moment.le_later_right _ _)), hmissing⟩

end Publisher

/-- To publish never fails because the time was over. -/
theorem Handler.not_isTimeout_publisher (handle : Handler L X) (depth : Nat) {i : Nat} {e : Event}
    {others : Hub L X → Hub L X → Prop} {m m' : Moment} {hub hub' : Hub L X}
    {result : Except BusError Unit}
    (h : (handle.publisher depth i e).EndsAmid others m hub result m' hub') :
    ¬IsTimeout result := by
  cases depth with
  | zero => exact (Job.EndsAmid.not_never h).elim
  | succ depth =>
    obtain ⟨called, m₁, hub₁, -, hcalls⟩ := Job.EndsAmid.of_bind h
    obtain ⟨results, m₂, hub₂, -, hdone⟩ := Job.EndsAmid.of_bind hcalls
    cases hdone
    exact not_isTimeout_gather e.kind results

/-! ## While the request waits -/

theorem Wait.missing_eq_unanswered (r : Request) (taken : List Event) :
    Wait.missing r.expected taken = r.unanswered taken := by
  refine List.filter_congr fun kind _ => ?_
  rw [Bool.eq_iff_iff]
  simp

/-- A wait comes to a timeout only if it is not settled, and tells what is missing. -/
theorem Wait.eq_missing_of_outcome {expected missing : List Kind} {taken : List Event}
    (h : outcome expected taken = .error (.timeout missing)) :
    isSettled expected taken = false ∧ missing = Wait.missing expected taken := by
  rw [outcome] at h
  cases hverdict : verdict? expected taken with
  | none =>
    rw [hverdict] at h
    cases h
    exact ⟨by rw [isSettled, hverdict]; rfl, rfl⟩
  | some result =>
    rw [hverdict, Option.getD_some] at h
    exact (not_isTimeout_of_verdict? hverdict ⟨missing, h⟩).elim

/-- Taking events out of a channel loses nothing. -/
theorem Gathers.takeUntil {i : Nat} {before replies : List Rejoinder} {hub : Hub L (X × Diary)}
    {c : Channel} (h : Gathers i before hub replies c) (enough : List Event → Bool) :
    Gathers i before (hub.onChannel i (Channel.takeUntil enough)) replies (c.takeUntil enough) := by
  refine ⟨h.diary, ?_, ?_⟩
  · rw [Hub.channel?_onChannel, h.channel]
    rfl
  · rw [Channel.contents_takeUntil, h.contents]

/-- While a request waits, what its channel holds and what was taken is what was put in. -/
theorem Gathers.lasts {i : Nat} {before replies : List Rejoinder} {enough : List Event → Bool}
    {pause : Pause (Hub L (X × Diary))} {m m' : Moment} {hub hub' : Hub L (X × Diary)} {c : Channel}
    (h : Gathers i before hub replies c)
    (hlook : ∀ m hub, pause.look m hub = hub.onChannel i (Channel.takeUntil enough))
    (hlasts : pause.Lasts (Hub.OnlyAnswers i) m hub m' hub') :
    ∃ replies' c', Gathers i before hub' replies' c' := by
  induction hlasts with
  | start => exact ⟨replies, c, h⟩
  | look _ _ ih =>
    obtain ⟨replies', c', h'⟩ := ih
    rw [hlook]
    exact ⟨replies', _, h'.takeUntil enough⟩
  | others _ hothers ih =>
    obtain ⟨replies', c', h'⟩ := ih
    obtain ⟨more, c'', h'', -⟩ := h'.others hothers
    exact ⟨more, c'', h''⟩
  | passes _ _ _ ih => exact ih

/-- A wait that is in vain ends at its deadline, and tells the kinds of which no answer was put into
the channel. -/
theorem missing_of_endsAmid_waitFor {i : Nat} {expected missing : List Kind}
    {deadline m m' : Moment} {before replies : List Rejoinder} {hub hub' : Hub L (X × Diary)}
    {c : Channel} (hgathers : Gathers i before hub replies c) (hnone : c.taken = [])
    (h : (waitFor i expected deadline).EndsAmid (Hub.OnlyAnswers i) m hub
      (.error (.timeout missing)) m' hub') :
    m' ≤ m.later deadline ∧ deadline ≤ m' ∧ ∃ replies',
      hub'.diary.replies = before ++ replies' ∧
        missing = Wait.missing expected (sentTo i replies') := by
  obtain ⟨_, m₁, hub₁, hbegin, hwait⟩ := Job.EndsAmid.of_bind h
  cases hbegin with
  | act hbegin =>
    cases hbegin
    -- nothing was taken yet, so the wait begins with all that was put in
    have hbegun : Gathers i before (hub.onChannel i Channel.beginWait) replies c := by
      refine ⟨hgathers.diary, ?_, hgathers.contents⟩
      rw [Hub.channel?_onChannel, hgathers.channel, Option.map_some, Channel.beginWait, ← hnone]
    cases hwait with
    | @wait _ _ _ m₂ _ _ hub₂ _ _ hlasts hready hdone =>
      obtain ⟨replies', c', h'⟩ := hbegun.lasts (fun _ _ => rfl) hlasts
      have hseen := h'.takeUntil (Wait.isSettled expected)
      have htaken : (hub₂.onChannel i (Channel.takeUntil (Wait.isSettled expected))).taken i =
          (c'.takeUntil (Wait.isSettled expected)).taken := by
        rw [Hub.taken, hseen.channel]
        rfl
      obtain ⟨hresult, rfl, rfl⟩ := hdone.of_done
      dsimp only at hready hresult
      obtain ⟨hnot, hmissing⟩ := Wait.eq_missing_of_outcome hresult.symm
      rw [htaken] at hnot hmissing
      rw [Channel.taken_takeUntil_of_not_enough hnot, h'.contents] at hmissing
      refine ⟨hlasts.le_later rfl (Moment.le_later_right _ _), ?_, replies', h'.diary, hmissing⟩
      rw [htaken, hnot, Bool.false_or] at hready
      exact of_decide_eq_true hready

/-! ## Both ways into the deadline -/

/-- The two halves of a request: publishing its questions came to `asked` at the moment `m₁`, and
then it waited, if it did. -/
structure Publisher.Halves (publish : Publisher L X) (others : Hub L X → Hub L X → Prop)
    (bus : Nat) (r : Request) (m : Moment) (hub : Hub L X) (asked : Except BusError Unit)
    (m₁ : Moment) (hub₁ : Hub L X) (result : Except BusError Responses) (m' : Moment)
    (hub' : Hub L X) : Prop where
  /-- The questions were published on a new channel. -/
  ask : (publish.ask bus hub.channels.length r.source r.expected (m.after r.timeout.ms)
    (r.asks.map Prod.fst)).EndsAmid others m (hub.openChannel r.expected.length).2 asked m₁ hub₁
  /-- The request waited on that channel, and closed it in the end. -/
  hear : ∃ hub₂, (Publisher.hearOn hub.channels.length r (m.after r.timeout.ms) asked).EndsAmid others
    m₁ hub₁ result m' hub₂ ∧ hub' = hub₂.onChannel hub.channels.length Channel.close

/-- A request that comes to a result publishes its questions, and then it waits. -/
theorem Publisher.halves_of_endsAmid {publish : Publisher L X}
    {others : Hub L X → Hub L X → Prop} {bus : Nat} {r : Request} {m m' : Moment}
    {hub hub' : Hub L X} {result : Except BusError Responses}
    (h : (publish.request bus r).EndsAmid others m hub result m' hub') :
    ∃ asked m₁ hub₁, publish.Halves others bus r m hub asked m₁ hub₁ result m' hub' := by
  rw [request_eq] at h
  cases h with
  | act h =>
    cases hdeadline : m.deadline? r.timeout with
    | none =>
      simp only [hdeadline] at h
      cases h
    | some deadline =>
      obtain rfl := Moment.after_eq_of_deadline? hdeadline
      simp only [hdeadline] at h
      cases h with
      | act h =>
        obtain ⟨hub₂, hbody, hclosed⟩ := h.of_ensuring
        obtain ⟨asked, m₁, hub₁, hask, hhear⟩ := hbody.of_bind
        exact ⟨asked, m₁, hub₁, hask, hub₂, hhear, hclosed⟩

/-- A request that runs into its deadline ends when the time is over. If its questions were
published it tells the kinds of which no answer was put into its channel; if one of them was still
being published it tells all that it expects. -/
theorem Handler.missing_of_timeout {handle : Handler L (X × Diary)} (hhonest : handle.IsHonest)
    {depth bus : Nat} {r : Request} {m m' : Moment} {hub hub' : Hub L (X × Diary)}
    {missing : List Kind}
    (h : ((handle.publisher depth).request bus r).EndsAmid (Hub.OnlyAnswers hub.channels.length) m
      hub (.error (.timeout missing)) m' hub') :
    m'.ms = m.ms + r.timeout.ms ∧ ∃ replies asked m₁ hub₁,
      hub'.diary.replies = hub.diary.replies ++ replies ∧
      (handle.publisher depth).Halves (Hub.OnlyAnswers hub.channels.length) bus r m hub asked m₁
        hub₁ (.error (.timeout missing)) m' hub' ∧
      ((asked = .ok () ∧ missing = r.unanswered (sentTo hub.channels.length replies)) ∨
        (asked = .error (.timeout r.expected) ∧ missing = r.expected)) := by
  obtain ⟨asked, m₁, hub₁, hhalves⟩ := Publisher.halves_of_endsAmid h
  obtain ⟨hub₂, hhear, rfl⟩ := hhalves.hear
  -- the channel is new, so nothing was put into it
  have hstart : Gathers hub.channels.length hub.diary.replies
      (hub.openChannel r.expected.length).2 [] (Channel.ofCapacity r.expected.length) :=
    ⟨(List.append_nil _).symm, Hub.channel?_openChannel _ hub, rfl⟩
  have hkept := Publisher.isKept_ask_gathering
    ((gathering L X hub.channels.length hub.diary.replies).isKept_publisher hhonest depth) bus
    r.source r.expected (m.after r.timeout.ms) (r.asks.map Prod.fst)
  obtain ⟨_, -, ⟨replies, c, hgathers, hnone⟩, -⟩ := hkept.of_endsAmid (fun _ _ _ hw hothers => by
    obtain ⟨replies, c, hgathers, hnone⟩ := hw
    obtain ⟨replies', c', hgathers', htaken⟩ := hgathers.others hothers
    exact ⟨(), trivial, replies', c', hgathers', htaken.trans hnone⟩)
    ⟨[], _, hstart, rfl⟩ hhalves.ask
  obtain ⟨hle, hlate⟩ := Publisher.of_endsAmid_ask (handle.not_isTimeout_publisher depth)
    hhalves.ask
  have hms : ∀ t, t ≤ m.later (m.after r.timeout.ms) → m.after r.timeout.ms ≤ t →
      t.ms = m.ms + r.timeout.ms := fun t hle hlate =>
    Nat.le_antisymm (m.ms_later_after r.timeout.ms ▸ Moment.ms_le_of_le hle) (Moment.ms_le_of_le hlate)
  match asked with
  | .error e =>
    obtain ⟨heq, rfl, rfl⟩ := hhear.of_done
    cases heq
    obtain ⟨rfl, hdeadline⟩ := hlate missing rfl
    exact ⟨hms _ hle hdeadline, replies, _, _, _, hgathers.diary, hhalves, .inr ⟨rfl, rfl⟩⟩
  | .ok () =>
    obtain ⟨hle', hdeadline, replies', hdiary, hmissing⟩ :=
      missing_of_endsAmid_waitFor hgathers hnone hhear
    have hin := Moment.later_le hle (Moment.le_later_right m (m.after r.timeout.ms))
    refine ⟨hms _ (Moment.le_trans hle' hin) hdeadline, replies', _, _, _, hdiary, hhalves,
      .inl ⟨rfl, ?_⟩⟩
    rw [hmissing, Wait.missing_eq_unanswered]

/-- The kinds that a result tells as missing, if it is a timeout. -/
def missing? : Except BusError Responses → Option (List Kind)
  | .error (.timeout missing) => some missing
  | _ => none

theorem eq_of_missing? {result : Except BusError Responses} {missing : List Kind}
    (h : missing? result = some missing) : result = .error (.timeout missing) := by
  unfold missing? at h
  split at h
  · cases h
    rfl
  · cases h

/-- Two questions, of which the first is answered at once and the second never. -/
theorem Handler.missing_of_timeout_of_silence :
    let topic := Pair.ofTexts "btc" "uah"
    let told := Payload.rateResponded ⟨2.5, topic⟩
    let hub : Hub (Nat × Option Payload) (Unit × Diary) :=
      ((Hub.ofDispatch .sequential ((), ⟨[], []⟩)).listen 0 .rateRequested (0, some told)).listen 0
        .subscribersRequested (1000, none)
    let r : Request := ⟨"herald", [(.rateRequested topic, .rateResponded),
      (.subscribersRequested topic, .subscribersResponded)], 5000⟩
    ∃ m' hub', ((Handler.answering.publisher 1).request 0 r).Ends Moment.start hub
        (.error (.timeout [.subscribersResponded])) m' hub' ∧
      m'.ms = 5000 ∧ ∃ replies, hub'.diary.replies = replies ∧
        [.subscribersResponded] = r.unanswered (sentTo 0 replies) := by
  intro topic told hub r
  have hrun : (((Handler.answering.publisher 1).request 0 r).run Moment.start hub).done?.map
      (fun done => (missing? done.1, done.2.1)) = some (some [.subscribersResponded], ⟨5000, 0⟩) := by
    decide +kernel
  obtain ⟨⟨result, m', hub'⟩, hdone, hsummary⟩ := Option.map_eq_some_iff.1 hrun
  obtain ⟨hresult, rfl⟩ := Prod.mk.inj hsummary
  obtain rfl := eq_of_missing? hresult
  have hends := Job.ends_of_done? hdone
  have hpunctual : ((Handler.answering.publisher 1).request 0 r).IsPunctual ⟨5000, 0⟩ :=
    Publisher.isPunctual_request (Handler.isPunctual_publisher Handler.isPunctual_answering 1) 0
      (by decide)
  obtain ⟨-, replies, _, _, _, hdiary, -, ⟨-, hmissing⟩ | ⟨-, hall⟩⟩ :=
    Handler.missing_of_timeout Handler.isHonest_answering
      (hends.endsAmid hpunctual (Moment.le_refl _) _)
  · exact ⟨_, hub', hends, rfl, replies, hdiary, hmissing⟩
  · exact absurd hall (by decide)

/-- If the second question is still being published at the deadline, the answer to the first is told
as missing although it was put into the channel. -/
theorem Handler.missing_although_answered :
    let topic := Pair.ofTexts "btc" "uah"
    let told := Payload.rateResponded ⟨2.5, topic⟩
    let hub : Hub (Nat × Option Payload) (Unit × Diary) :=
      ((Hub.ofDispatch .sequential ((), ⟨[], []⟩)).listen 0 .rateRequested (0, some told)).listen 0
        .subscribersRequested (7000, none)
    let r : Request := ⟨"herald", [(.rateRequested topic, .rateResponded),
      (.subscribersRequested topic, .subscribersResponded)], 5000⟩
    ∃ m' hub', ((Handler.answering.publisher 1).request 0 r).Ends Moment.start hub
        (.error (.timeout [.rateResponded, .subscribersResponded])) m' hub' ∧
      [.rateResponded, .subscribersResponded] ≠ r.unanswered (sentTo 0 hub'.diary.replies) := by
  intro topic told hub r
  have hrun : (((Handler.answering.publisher 1).request 0 r).run Moment.start hub).done?.map
      (fun done => (missing? done.1, r.unanswered (sentTo 0 done.2.2.diary.replies))) =
      some (some [.rateResponded, .subscribersResponded], [.subscribersResponded]) := by
    decide +kernel
  obtain ⟨⟨result, m', hub'⟩, hdone, hsummary⟩ := Option.map_eq_some_iff.1 hrun
  obtain ⟨hresult, hunanswered⟩ := Prod.mk.inj hsummary
  obtain rfl := eq_of_missing? hresult
  refine ⟨m', hub', Job.ends_of_done? hdone, ?_⟩
  rw [hunanswered]
  decide

end RateHerald
