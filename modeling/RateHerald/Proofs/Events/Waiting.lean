import RateHerald.Proofs.Events.Courses
import RateHerald.Proofs.Timed.GivenUp
import RateHerald.Proofs.Timed.Vigils

/-!
# How a wait ends

Somebody waits on a channel for events of certain kinds while somebody else brings events to it at
set times, and may at some time seal it. Which events arrive, and when, is seen by the one who
brings them. What the wait comes to depends on the arrivals alone, on those that count before the
deadline, and on the first of them that matter: nothing is taken out of the channel once the wait is
settled.

A wait looks at a channel when it has its turn, and takes out all that is there until that settles
it. It comes to the same as its course, `Wait.course`, in which each arrival is looked at as soon as
it arrives: what the courier brings at one time is a piece of that course, and the rules for vigils
say how the wait goes on from one time to the next.

## Main declarations

* `Hub.bring` and `courier`: events are brought to a channel, and it is sealed.
* `BringsAlone`: what the courier does when nobody waits.
* `WaitTells`, with a rule for each way in which the wait goes on, and `WaitComes`.
* `waitComes_courier`: a wait beside a courier comes to what its course tells.
* `ends_waitFor_beside`: it comes to what it should come to.
-/

namespace RateHerald

variable {L X : Type}

/-! ## What is brought to a channel -/

/-- Brings an event to a channel, or seals the channel, and tells which event has arrived. -/
def Hub.bring (i : Nat) (brought : Option Event) (hub : Hub L X) : Option Event × Hub L X :=
  match brought with
  | none => (none, hub.onChannel i Channel.shut)
  | some e => (if (hub.put i e).1 = .sent then some e else none, (hub.put i e).2)

/-- Brings events to a channel at their times, one after another, and tells when which of them
arrived; without an event the channel is sealed. -/
def courier (i : Nat) : List (Moment × Option Event) → List (Moment × Event) →
    HubJob L X (List (Moment × Event))
  | [], arrived => .done arrived
  | (t, brought) :: rest, arrived => do
    Job.sleepUntil t
    let arrival ← Job.change (Hub.bring i brought)
    let now ← Job.now
    courier i rest (arrived ++ arrival.toList.map fun e => (now, e))

/-- What has arrived is in the channel, behind what was there, and nothing was taken out. -/
theorem Hub.bring_eq {i : Nat} {c : Channel} {hub : Hub L X} (hc : hub.channel? i = some c)
    (brought : Option Event) :
    ∃ c', (hub.bring i brought).2.channel? i = some c' ∧ c'.taken = c.taken ∧
      c'.queue = c.queue ++ (hub.bring i brought).1.toList := by
  match brought with
  | none =>
    refine ⟨c.shut, ?_, rfl, (List.append_nil _).symm⟩
    exact (channel?_onChannel i _ hub).trans (by rw [hc, Option.map_some])
  | some e =>
    have hput : hub.put i e = ((c.put e).1, hub.onChannel i fun c => (c.put e).2) := by
      rw [put, hc]
    refine ⟨(c.put e).2, ?_, Channel.taken_put c e, ?_⟩
    · rw [bring, hput, channel?_onChannel, hc, Option.map_some]
    · rw [bring, hput]
      dsimp only
      rw [Channel.put]
      split
      · exact (List.append_nil _).symm
      · split
        · rfl
        · exact (List.append_nil _).symm

/-! ## The courier alone -/

section Alone

variable {i : Nat} {m t : Moment} {hub : Hub L X} {c : Channel}

/-- Nobody takes anything out while the courier brings, alone, what there is to be brought: whatever
arrives is in the channel in the end, and it arrives in order and not before `since`. -/
def BringsAlone (i : Nat) (sends : List (Moment × Option Event)) (arrived : List (Moment × Event))
    (m : Moment) (hub : Hub L X) (queue : List Event) (since : Moment) : Prop :=
  ∃ more m' hub' c', (courier i sends arrived).Ends m hub (arrived ++ more) m' hub' ∧
    hub'.channel? i = some c' ∧ c'.queue = queue ++ more.map Prod.snd ∧
    (∀ a ∈ more, since ≤ a.1) ∧ more.Pairwise fun a b => a.1 ≤ b.1

/-- The courier sleeps until it is time. -/
theorem bringsAlone_cons (hc : hub.channel? i = some c) {sends : List (Moment × Option Event)}
    (h : ∀ {hub : Hub L X} {c : Channel} (arrived : List (Moment × Event)),
      hub.channel? i = some c → BringsAlone i sends arrived (m.later t) hub c.queue (m.later t))
    (brought : Option Event) (arrived : List (Moment × Event)) :
    BringsAlone i ((t, brought) :: sends) arrived m hub c.queue (m.later t) := by
  obtain ⟨c₁, hc₁, -, hqueue⟩ := Hub.bring_eq hc brought
  obtain ⟨more, m', hub', c', hends, hc', hqueue', hsince, hordered⟩ :=
    h (arrived ++ (hub.bring i brought).1.toList.map fun e => (m.later t, e)) hc₁
  refine ⟨(hub.bring i brought).1.toList.map (fun e => (m.later t, e)) ++ more, m', hub', c', ?_,
    hc', ?_, ?_, ?_⟩
  · rw [List.append_assoc] at hends
    exact Job.Ends.bind (Job.ends_sleepUntil t m hub) hends
  · rw [hqueue', hqueue, List.map_append, List.map_map]
    simp
  · intro a ha
    rcases List.mem_append.1 ha with hnow | hmore
    · obtain ⟨e, -, rfl⟩ := List.mem_map.1 hnow
      exact Moment.le_refl _
    · exact hsince a hmore
  · refine List.pairwise_append.2 ⟨?_, hordered, ?_⟩
    · rcases (hub.bring i brought).1 with _ | e
      · exact .nil
      · exact List.pairwise_singleton _ _
    · intro a ha b hb
      obtain ⟨e, -, rfl⟩ := List.mem_map.1 ha
      exact hsince b hb

theorem bringsAlone (sends : List (Moment × Option Event)) (arrived : List (Moment × Event))
    (m : Moment) (hc : hub.channel? i = some c) :
    BringsAlone i sends arrived m hub c.queue m := by
  induction sends generalizing arrived m hub c with
  | nil =>
    refine ⟨[], m, hub, c, ?_, hc, (List.append_nil _).symm, List.forall_mem_nil _, .nil⟩
    rw [List.append_nil]
    exact Job.ends_done _ _ _
  | cons send sends ih =>
    obtain ⟨more, m', hub', c', hends, hc', hqueue, hsince, hordered⟩ :=
      bringsAlone_cons (t := send.1) hc (fun arrived hc => ih arrived _ hc) send.2 arrived
    exact ⟨more, m', hub', c', hends, hc', hqueue, fun a ha =>
      Moment.le_trans (Moment.le_later_left _ _) (hsince a ha), hordered⟩

end Alone

/-- What arrives in order is first what counts before the deadline and then what does not. -/
theorem exists_split_of_pairwise {arrived : List (Moment × Event)}
    (h : arrived.Pairwise fun a b => a.1 ≤ b.1) (first : Bool) (late : Moment) :
    ∃ inTime afterwards, arrived = inTime ++ afterwards ∧
      (∀ a ∈ inTime, a.1.isBefore first late = true) ∧
      ∀ a ∈ afterwards, a.1.isBefore first late = false := by
  induction arrived with
  | nil => exact ⟨[], [], rfl, List.forall_mem_nil _, List.forall_mem_nil _⟩
  | cons a arrived ih =>
    obtain ⟨hfirst, hordered⟩ := List.pairwise_cons.1 h
    by_cases hbefore : a.1.isBefore first late = true
    · obtain ⟨inTime, afterwards, rfl, hin, hout⟩ := ih hordered
      exact ⟨a :: inTime, afterwards, rfl, List.forall_mem_cons.2 ⟨hbefore, hin⟩, hout⟩
    · have hnot := Bool.eq_false_iff.2 hbefore
      refine ⟨[], a :: arrived, rfl, List.forall_mem_nil _, List.forall_mem_cons.2 ⟨hnot, ?_⟩⟩
      intro b hb
      exact Moment.not_isBefore_of_le (hfirst b hb) hnot

/-! ## The wait beside the courier -/

/-- What a wait comes to that looks at a channel at the moment `m`, and what is in the channel when
all is over; some events are `taken` already, others are in the `queue`, and `more` is what arrives
from then on. -/
def WaitTells (first : Bool) (i : Nat) (expected : List Kind) (late m : Moment)
    (taken queue : List Event) (more : List (Moment × Event))
    (told : Except BusError Responses × Moment) (hub' : Hub L X) : Prop :=
  ∃ left inTime afterwards c', more = inTime ++ afterwards ∧
    (∀ a ∈ inTime, a.1.isBefore first late = true) ∧
    (∀ a ∈ afterwards, a.1.isBefore first late = false) ∧
    Wait.course expected late m taken (queue.map (m, ·) ++ inTime) = (told.1, told.2, left) ∧
    hub'.channel? i = some c' ∧ c'.queue = (left ++ afterwards).map Prod.snd

section Tells

variable {first : Bool} {i : Nat} {expected : List Kind} {deadline late m t : Moment}
  {hub hub' : Hub L X} {c c' : Channel} {more : List (Moment × Event)}
  {told : Except BusError Responses × Moment} {taken queue : List Event}

/-- What arrives before the wait looks is looked at as if it had been there. -/
theorem WaitTells.of_arrival {arrival : List Event}
    (h : WaitTells first i expected late m taken (queue ++ arrival) more told hub')
    (hm : m.isBefore first late = true) :
    WaitTells first i expected late m taken queue (arrival.map (m, ·) ++ more) told hub' := by
  obtain ⟨left, inTime, afterwards, c'', rfl, hin, hout, hcourse, hc'', hleft⟩ := h
  refine ⟨left, arrival.map (m, ·) ++ inTime, afterwards, c'', (List.append_assoc _ _ _).symm, ?_,
    hout, ?_, hc'', hleft⟩
  · intro a ha
    rcases List.mem_append.1 ha with hnow | hlater
    · obtain ⟨e, -, rfl⟩ := List.mem_map.1 hnow
      exact hm
    · exact hin a hlater
  · rw [← hcourse, List.map_append, List.append_assoc]

/-- A wait that is settled by what it looks at is over. -/
theorem waitTells_of_isSettled
    (hsettled : Wait.isSettled expected (c.takeUntil (Wait.isSettled expected)).taken = true)
    (hordered : more.Pairwise fun a b => a.1 ≤ b.1) (hc' : hub'.channel? i = some c')
    (hqueue : c'.queue = (c.takeUntil (Wait.isSettled expected)).queue ++ more.map Prod.snd) :
    WaitTells first i expected late m c.taken c.queue more
      (Wait.outcome expected (c.takeUntil (Wait.isSettled expected)).taken, m) hub' := by
  obtain ⟨inTime, afterwards, rfl, hin, hout⟩ := exists_split_of_pairwise hordered first late
  refine ⟨(c.takeUntil (Wait.isSettled expected)).queue.map (m, ·) ++ inTime, inTime, afterwards,
    c', rfl, hin, hout, ?_, hc', ?_⟩
  · rw [Wait.course_append]
    exact Wait.course_of_isSettled hsettled _ _
  · rw [hqueue]
    simp [Function.comp_def]

/-- A wait that is not settled by what it looks at has taken all there is. -/
theorem Wait.course_of_not_settled_yet
    (hnot : isSettled expected (c.takeUntil (isSettled expected)).taken = false)
    (inTime : List (Moment × Event)) :
    course expected late m c.taken (c.queue.map (m, ·) ++ inTime) =
      course expected late m (c.takeUntil (isSettled expected)).taken inTime := by
  have hempty : (Channel.moveUntil (isSettled expected) c.taken c.queue).2 = [] :=
    Channel.moveUntil_of_not_enough hnot
  rw [course_append, hempty]
  rfl

/-- If nothing more arrives in time, the wait lasts until it is too late. -/
theorem waitTells_of_late
    (hnot : Wait.isSettled expected (c.takeUntil (Wait.isSettled expected)).taken = false)
    (hafter : ∀ a ∈ more, a.1.isBefore first late = false) (hc' : hub'.channel? i = some c')
    (hqueue : c'.queue = (c.takeUntil (Wait.isSettled expected)).queue ++ more.map Prod.snd) :
    WaitTells first i expected late m c.taken c.queue more
      (Wait.outcome expected (c.takeUntil (Wait.isSettled expected)).taken, late) hub' := by
  have hempty : (c.takeUntil (Wait.isSettled expected)).queue = [] :=
    Channel.moveUntil_of_not_enough hnot
  refine ⟨[], [], more, c', rfl, List.forall_mem_nil _, hafter, ?_, hc', ?_⟩
  · rw [Wait.course_of_not_settled_yet hnot, Wait.course, hnot]
    rfl
  · rw [hqueue, hempty]
    rfl

/-- A wait is over if it is settled or its deadline has come. -/
theorem waitTells_of_ready (hlate : m.later deadline = late)
    (hready : (Wait.isSettled expected (c.takeUntil (Wait.isSettled expected)).taken ||
      decide (deadline ≤ m)) = true)
    (hordered : more.Pairwise fun a b => a.1 ≤ b.1)
    (hafter : ∀ a ∈ more, a.1.isBefore first m = false) (hc' : hub'.channel? i = some c')
    (hqueue : c'.queue = (c.takeUntil (Wait.isSettled expected)).queue ++ more.map Prod.snd) :
    WaitTells first i expected late m c.taken c.queue more
      (Wait.outcome expected (c.takeUntil (Wait.isSettled expected)).taken, m) hub' := by
  by_cases hsettled : Wait.isSettled expected (c.takeUntil (Wait.isSettled expected)).taken = true
  · exact waitTells_of_isSettled hsettled hordered hc' hqueue
  · have hnot := Bool.eq_false_iff.2 hsettled
    rw [hnot, Bool.false_or] at hready
    obtain rfl : m = late := (Moment.later_of_ge (of_decide_eq_true hready)).symm.trans hlate
    exact waitTells_of_late hnot hafter hc' hqueue

/-- If the wait is not settled it goes on as it does later on. -/
theorem WaitTells.of_later
    (h : WaitTells first i expected late t (c.takeUntil (Wait.isSettled expected)).taken
      (c.takeUntil (Wait.isSettled expected)).queue more told hub')
    (hnot : Wait.isSettled expected (c.takeUntil (Wait.isSettled expected)).taken = false) :
    WaitTells first i expected late m c.taken c.queue more told hub' := by
  have hempty : (c.takeUntil (Wait.isSettled expected)).queue = [] :=
    Channel.moveUntil_of_not_enough hnot
  obtain ⟨left, inTime, afterwards, c'', rfl, hin, hout, hcourse, hc'', hleft⟩ := h
  refine ⟨left, inTime, afterwards, c'', rfl, hin, hout, ?_, hc'', hleft⟩
  rw [hempty] at hcourse
  rw [Wait.course_of_not_settled_yet hnot, Wait.course_of_not_isSettled hnot m t]
  exact hcourse

end Tells

/-! ## The wait beside the courier -/

section Beside

variable {first : Bool} {i : Nat} {expected : List Kind} {deadline late m t : Moment}
  {hub : Hub L X} {c : Channel} {arrived : List (Moment × Event)}
  {sends : List (Moment × Option Event)}

/-- What the one who waits does whenever it has its turn. -/
def lookOn (i : Nat) (expected : List Kind) : Hub L X → Hub L X :=
  Hub.onChannel i (Channel.takeUntil (Wait.isSettled expected))

/-- A wait as a vigil. -/
def vigilOn (i : Nat) (expected : List Kind) (deadline : Moment) :
    HubJob L X (Except BusError Responses × Moment) :=
  Job.vigil (lookOn i expected) (fun hub => Wait.isSettled expected (hub.taken i)) deadline
    fun hub => Wait.outcome expected (hub.taken i)

/-- A wait goes on beside somebody at work. -/
def WaitGoes {α : Type} (first : Bool) (i : Nat) (expected : List Kind) (deadline : Moment)
    (work : HubJob L X α) (m : Moment) (hub : Hub L X) (told : Except BusError Responses × Moment)
    (a : α) (m' : Moment) (hub' : Hub L X) : Prop :=
  Job.Goes (lookOn i expected) (fun hub => Wait.isSettled expected (hub.taken i)) deadline
    (fun hub => Wait.outcome expected (hub.taken i)) first work m hub told a m' hub'

theorem channel?_lookOn (hc : hub.channel? i = some c) (expected : List Kind) :
    (lookOn i expected hub).channel? i = some (c.takeUntil (Wait.isSettled expected)) := by
  rw [lookOn, Hub.channel?_onChannel, hc, Option.map_some]

theorem taken_lookOn (hc : hub.channel? i = some c) (expected : List Kind) :
    (lookOn i expected hub).taken i = (c.takeUntil (Wait.isSettled expected)).taken := by
  rw [Hub.taken, channel?_lookOn hc]
  rfl

theorem Hub.onChannel_eq_self {f : Channel → Channel} (hc : hub.channel? i = some c)
    (hf : f c = c) : hub.onChannel i f = hub := by
  have hsame : hub.channels.modify i f = hub.channels := by
    refine List.ext_getElem? fun j => ?_
    rw [List.getElem?_modify]
    by_cases hij : i = j
    · subst hij
      rw [Hub.channel?] at hc
      simp [hc, hf]
    · simp [hij]
  rw [onChannel, hsame]

/-- Who has taken all there is takes nothing more. -/
theorem lookOn_lookOn (hc : hub.channel? i = some c)
    (hnot : Wait.isSettled expected (c.takeUntil (Wait.isSettled expected)).taken = false) :
    lookOn i expected (lookOn i expected hub) = lookOn i expected hub := by
  refine Hub.onChannel_eq_self (channel?_lookOn hc expected) ?_
  have hempty : (c.takeUntil (Wait.isSettled expected)).queue = [] :=
    Channel.moveUntil_of_not_enough hnot
  generalize c.takeUntil (Wait.isSettled expected) = c' at hempty
  obtain ⟨capacity, queue, taken, isOpen, isSealed⟩ := c'
  subst hempty
  rfl

/-- What the courier does when it is time. -/
def courierAwake (i : Nat) (brought : Option Event) (sends : List (Moment × Option Event))
    (arrived : List (Moment × Event)) : HubJob L X (List (Moment × Event)) := do
  let arrival ← Job.change (Hub.bring i brought)
  let now ← Job.now
  courier i sends (arrived ++ arrival.toList.map fun e => (now, e))

theorem courier_cons (i : Nat) (t : Moment) (brought : Option Event)
    (sends : List (Moment × Option Event)) (arrived : List (Moment × Event)) :
    (courier i ((t, brought) :: sends) arrived : HubJob L X (List (Moment × Event))) =
      .wait (.asleep t) fun _ _ => courierAwake i brought sends arrived :=
  rfl

/-- Somebody at work has seen some events arrive already, and what comes of a wait beside the work,
in the sense of `E`, is what its course tells. -/
def WaitComes (E : HubJob L X (List (Moment × Event)) → Moment → Hub L X →
      Except BusError Responses × Moment → List (Moment × Event) → Moment → Hub L X → Prop)
    (first : Bool) (i : Nat) (expected : List Kind) (late : Moment)
    (work : HubJob L X (List (Moment × Event))) (arrived : List (Moment × Event)) (m : Moment)
    (hub : Hub L X) (taken queue : List Event) : Prop :=
  ∃ told more m' hub', E work m hub told (arrived ++ more) m' hub' ∧
    WaitTells first i expected late m taken queue more told hub'

/-- What is brought arrives at once, and then the courier goes on. -/
theorem waitComes_courierAwake {E : HubJob L X (List (Moment × Event)) → Moment → Hub L X →
      Except BusError Responses × Moment → List (Moment × Event) → Moment → Hub L X → Prop}
    (hact : ∀ {change next m hub told a m' hub'}, E (next m hub) m (change m hub) told a m' hub' →
      E (.act change next) m hub told a m' hub')
    (hc : hub.channel? i = some c) (hm : m.isBefore first late = true) {taken : List Event}
    (h : ∀ {hub : Hub L X} {c₁ : Channel} (arrived : List (Moment × Event)),
      hub.channel? i = some c₁ → c₁.taken = c.taken →
      WaitComes E first i expected late (courier i sends arrived) arrived m hub taken c₁.queue)
    (brought : Option Event) (arrived : List (Moment × Event)) :
    WaitComes E first i expected late (courierAwake i brought sends arrived) arrived m hub taken
      c.queue := by
  obtain ⟨c₁, hc₁, htaken, hqueue⟩ := Hub.bring_eq hc brought
  obtain ⟨told, more, m', hub', hends, htells⟩ :=
    h (arrived ++ (hub.bring i brought).1.toList.map fun e => (m, e)) hc₁ htaken
  refine ⟨told, (hub.bring i brought).1.toList.map (fun e => (m, e)) ++ more, m', hub', ?_, ?_⟩
  · rw [List.append_assoc] at hends
    exact hact (hact hends)
  · rw [hqueue] at htells
    exact htells.of_arrival hm

/-- When nobody is left to bring anything the wait goes on alone. -/
theorem waitComes_done (hc : hub.channel? i = some c) (hlate : m.later deadline = late)
    (arrived : List (Moment × Event)) :
    WaitComes (WaitGoes first i expected deadline) first i expected late (.done arrived) arrived m
      hub c.taken c.queue := by
  have hlook := channel?_lookOn hc expected
  have htaken := taken_lookOn hc expected
  have hqueue : (c.takeUntil (Wait.isSettled expected)).queue =
      (c.takeUntil (Wait.isSettled expected)).queue ++ ([] : List (Moment × Event)).map Prod.snd :=
    (List.append_nil _).symm
  by_cases hready : (Wait.isSettled expected ((lookOn i expected hub).taken i) ||
      decide (deadline ≤ m)) = true
  · have hvigil : (vigilOn i expected deadline).Ends m hub
        (Wait.outcome expected ((lookOn i expected hub).taken i), m) m (lookOn i expected hub) :=
      Job.ends_vigil_of_ready hready
    refine ⟨_, [], m, _, by rw [List.append_nil]; exact Job.Goes.done hvigil, ?_⟩
    rw [htaken] at hready ⊢
    exact waitTells_of_ready hlate hready .nil (List.forall_mem_nil _) hlook hqueue
  · rw [Bool.not_eq_true, Bool.or_eq_false_iff, decide_eq_false_iff_not] at hready
    obtain ⟨hnot, hover⟩ := hready
    have hnot' : Wait.isSettled expected (c.takeUntil (Wait.isSettled expected)).taken = false :=
      htaken ▸ hnot
    obtain rfl : late = deadline := hlate.symm.trans (Moment.later_of_not_le hover)
    have hvigil : (vigilOn i expected late).Ends m hub
        (Wait.outcome expected ((lookOn i expected hub).taken i), late) late
        (lookOn i expected hub) :=
      Job.ends_vigil_of_not_ready hover hnot (lookOn_lookOn hc hnot')
    refine ⟨_, [], late, _, by rw [List.append_nil]; exact Job.Goes.done hvigil, ?_⟩
    rw [htaken]
    exact waitTells_of_late hnot' (List.forall_mem_nil _) hlook hqueue

/-- A wait beside a courier comes to what its course tells. -/
theorem waitComes_courier (hc : hub.channel? i = some c) (hm : m.isBefore first late = true)
    (hlate : m.later deadline = late) (expected : List Kind) (sends : List (Moment × Option Event))
    (arrived : List (Moment × Event)) :
    WaitComes (WaitGoes first i expected deadline) first i expected late (courier i sends arrived)
      arrived m hub c.taken c.queue := by
  induction sends generalizing arrived m hub c with
  | nil => exact waitComes_done hc hlate arrived
  | cons send sends ih =>
    obtain ⟨t, brought⟩ := send
    rw [courier_cons]
    by_cases ht : t ≤ m
    · obtain ⟨told, more, m', hub', hgoes, htells⟩ := waitComes_courierAwake Job.Goes.act hc hm
        (fun arrived hc htaken => htaken ▸ ih hc hm hlate arrived) brought arrived
      exact ⟨told, more, m', hub', hgoes.soon ht, htells⟩
    have hlook := channel?_lookOn hc expected
    have htaken := taken_lookOn hc expected
    have hmt : m.later t = t := Moment.later_of_not_le ht
    by_cases hready : (Wait.isSettled expected ((lookOn i expected hub).taken i) ||
        decide (deadline ≤ m)) = true
    · -- the wait is over, and the courier goes on alone
      obtain ⟨more, m', hub', c', hends, hc', hqueue, hsince, hordered⟩ :=
        bringsAlone_cons (m := m) (t := t) hlook
          (fun arrived hc => bringsAlone sends arrived (m.later t) hc) brought arrived
      refine ⟨_, more, m', hub', Job.Goes.ready ht hready hends, ?_⟩
      rw [htaken] at hready ⊢
      refine waitTells_of_ready hlate hready hordered (fun a ha => ?_) hc' hqueue
      refine Bool.eq_false_iff.2 fun hbefore => ht (Moment.le_trans (Moment.le_later_right m t) ?_)
      exact Moment.le_trans (hsince a ha) (Moment.le_of_isBefore hbefore)
    rw [Bool.not_eq_true, Bool.or_eq_false_iff, decide_eq_false_iff_not] at hready
    obtain ⟨hnot, hover⟩ := hready
    have hnot' : Wait.isSettled expected (c.takeUntil (Wait.isSettled expected)).taken = false :=
      htaken ▸ hnot
    have hsame := lookOn_lookOn hc hnot'
    obtain rfl : late = deadline := hlate.symm.trans (Moment.later_of_not_le hover)
    by_cases hbefore : t.isBefore first late = true
    · -- the courier comes once more before the deadline
      have hwoken : t.later late = late := Moment.later_of_le (Moment.le_of_isBefore hbefore)
      obtain ⟨told, more, m', hub', hgoes, htells⟩ := waitComes_courierAwake Job.Goes.act hlook
        hbefore (fun arrived hc htaken => htaken ▸ ih hc hbefore hwoken arrived) brought arrived
      exact ⟨told, more, m', hub', hgoes.later ht hover hnot hsame hbefore, htells.of_later hnot'⟩
    · -- the deadline comes first
      have hafter := Bool.eq_false_iff.2 hbefore
      obtain ⟨more, m', hub', c', hends, hc', hqueue, hsince, -⟩ :=
        bringsAlone_cons (m := late) (t := t) hlook
          (fun arrived hc => bringsAlone sends arrived (late.later t) hc) brought arrived
      refine ⟨_, more, m', hub', Job.Goes.late ht hover hnot hsame hafter hends, ?_⟩
      rw [htaken]
      refine waitTells_of_late hnot' (fun a ha => ?_) hc' hqueue
      exact Moment.not_isBefore_of_le (Moment.le_trans (Moment.le_later_right _ _) (hsince a ha))
        hafter

/-! ## From the beginning -/

/-- A wait has not begun yet. -/
def WaitBegins (i : Nat) (expected : List Kind) (deadline : Moment)
    (work : HubJob L X (List (Moment × Event))) (m : Moment) (hub : Hub L X)
    (told : Except BusError Responses × Moment) (arrived : List (Moment × Event)) (m' : Moment)
    (hub' : Hub L X) : Prop :=
  Job.Begins (Hub.onChannel i Channel.beginWait) (lookOn i expected)
    (fun hub => Wait.isSettled expected (hub.taken i)) deadline
    (fun hub => Wait.outcome expected (hub.taken i)) work m hub told arrived m' hub'

theorem WaitGoes.begins_nil {told : Except BusError Responses × Moment} {a : List (Moment × Event)}
    {m' : Moment} {hub' : Hub L X}
    (h : WaitGoes true i expected deadline (courier i [] arrived) m
      (hub.onChannel i Channel.beginWait) told a m' hub') :
    WaitBegins i expected deadline (courier i [] arrived) m hub told a m' hub' :=
  Job.Begins.of_done h

theorem WaitGoes.begins_courier (ht : ¬t ≤ m) {brought : Option Event}
    {told : Except BusError Responses × Moment} {a : List (Moment × Event)} {m' : Moment}
    {hub' : Hub L X}
    (h : WaitGoes true i expected deadline (courier i ((t, brought) :: sends) arrived) m
      (hub.onChannel i Channel.beginWait) told a m' hub') :
    WaitBegins i expected deadline (courier i ((t, brought) :: sends) arrived) m hub told a m'
      hub' :=
  Job.Begins.of_asleep ht h

theorem channel?_beginWait (hc : hub.channel? i = some c) :
    (hub.onChannel i Channel.beginWait).channel? i = some c.beginWait := by
  rw [Hub.channel?_onChannel, hc, Option.map_some]

/-- What the courier brings at once is there when the wait begins. -/
theorem waitComes_of_begins (hc : hub.channel? i = some c) (hm : m.isBefore true late = true)
    (hlate : m.later deadline = late) (expected : List Kind) (sends : List (Moment × Option Event))
    (arrived : List (Moment × Event)) :
    WaitComes (WaitBegins i expected deadline) true i expected late (courier i sends arrived)
      arrived m hub [] c.queue := by
  induction sends generalizing arrived hub c with
  | nil =>
    obtain ⟨told, more, m', hub', hgoes, htells⟩ :=
      waitComes_courier (channel?_beginWait hc) hm hlate expected [] arrived
    exact ⟨told, more, m', hub', hgoes.begins_nil, htells⟩
  | cons send sends ih =>
    obtain ⟨t, brought⟩ := send
    by_cases ht : t ≤ m
    · obtain ⟨told, more, m', hub', hbegins, htells⟩ := waitComes_courierAwake Job.Begins.act hc hm
        (fun arrived hc _ => ih hc arrived) brought arrived
      exact ⟨told, more, m', hub', hbegins.soon ht, htells⟩
    · obtain ⟨told, more, m', hub', hgoes, htells⟩ :=
        waitComes_courier (channel?_beginWait hc) hm hlate expected ((t, brought) :: sends) arrived
      exact ⟨told, more, m', hub', hgoes.begins_courier ht, htells⟩

/-- A wait that has the first turn begins before anything is brought. -/
theorem waitComes_both (hc : hub.channel? i = some c) (hlate : m.later deadline = late)
    (expected : List Kind) (sends : List (Moment × Option Event))
    (arrived : List (Moment × Event)) :
    WaitComes (fun work m hub told arrived m' hub' =>
        (Job.both (waitFor i expected deadline).timed work).Ends m hub (told, arrived) m' hub')
      false i expected late (courier i sends arrived) arrived m hub [] c.queue := by
  have hlook := channel?_lookOn (channel?_beginWait hc) expected
  have htaken := taken_lookOn (channel?_beginWait hc) expected
  by_cases hready : (Wait.isSettled expected
      ((lookOn i expected (hub.onChannel i Channel.beginWait)).taken i) ||
        decide (deadline ≤ m)) = true
  · obtain ⟨more, m', hub', c', hends, hc', hqueue, hsince, hordered⟩ :=
      bringsAlone sends arrived m hlook
    have hvigil : (Job.both (vigilOn i expected deadline) (courier i sends arrived)).Ends m
        (hub.onChannel i Channel.beginWait) _ m' hub' := Job.ends_both_vigil_of_ready hready hends
    refine ⟨_, more, m', hub', Job.Ends.act hvigil, ?_⟩
    rw [htaken] at hready ⊢
    refine waitTells_of_ready (c := c.beginWait) hlate hready hordered (fun a ha => ?_) hc' hqueue
    simpa [Moment.isBefore] using hsince a ha
  · rw [Bool.not_eq_true, Bool.or_eq_false_iff, decide_eq_false_iff_not] at hready
    obtain ⟨hnot, hover⟩ := hready
    obtain rfl : late = deadline := hlate.symm.trans (Moment.later_of_not_le hover)
    have hm : m.isBefore false late = true := by simpa [Moment.isBefore] using hover
    obtain ⟨told, more, m', hub', hgoes, htells⟩ :=
      waitComes_courier hlook hm hlate expected sends arrived
    have hvigil : (Job.both (vigilOn i expected late) (courier i sends arrived)).Ends m
        (hub.onChannel i Channel.beginWait) (told, arrived ++ more) m' hub' :=
      Job.Goes.ends_both_vigil hover hnot hgoes
    exact ⟨told, more, m', hub', Job.Ends.act hvigil, htells.of_later (htaken ▸ hnot)⟩

/-- A wait beside a courier comes to what its course tells, whoever has the first turn. -/
theorem waitTells_beside (hc : hub.channel? i = some c) (first : Bool) (expected : List Kind)
    (deadline : Moment) (sends : List (Moment × Option Event)) (m : Moment) :
    ∃ told arrived m' hub',
      (Job.beside first (waitFor i expected deadline).timed (courier i sends [])).Ends m hub
        (told, arrived) m' hub' ∧
      WaitTells first i expected (m.later deadline) m [] c.queue arrived told hub' := by
  cases first with
  | true =>
    have hm : m.isBefore true (m.later deadline) = true :=
      decide_eq_true (Moment.le_later_left m deadline)
    obtain ⟨told, more, m', hub', hbegins, htells⟩ :=
      waitComes_of_begins hc hm rfl expected sends []
    exact ⟨told, more, m', hub', Job.Ends.bind hbegins (Job.ends_done _ _ _), htells⟩
  | false =>
    obtain ⟨told, more, m', hub', hends, htells⟩ := waitComes_both hc rfl expected sends []
    exact ⟨told, more, m', hub', hends, htells⟩

/-- A wait beside a courier comes to what it should come to, whoever has the first turn: the events
count that are in the channel when it begins, and those that arrive before it is too late. -/
theorem ends_waitFor_beside (hc : hub.channel? i = some c) (first : Bool) (expected : List Kind)
    (deadline : Moment) (sends : List (Moment × Option Event)) (m : Moment) :
    ∃ result ended arrived m' hub' c',
      (Job.beside first (waitFor i expected deadline).timed (courier i sends [])).Ends m hub
        ((result, ended), arrived) m' hub' ∧
      hub'.channel? i = some c' ∧
      Wait.IsOutcome expected m (m.later deadline) (c.queue.map (m, ·) ++ arrived)
        (c.queue.map (m, ·) ++ arrived.filter fun a => a.1.isBefore first (m.later deadline)) result
        ended c'.queue := by
  obtain ⟨⟨result, ended⟩, arrived, m', hub', hends, left, inTime, afterwards, c', rfl, hin, hout,
    hcourse, hc', hqueue⟩ := waitTells_beside hc first expected deadline sends m
  have hfilter : (inTime ++ afterwards).filter (fun a => a.1.isBefore first (m.later deadline)) =
      inTime := by
    rw [List.filter_append, List.filter_eq_self.2 hin,
      List.filter_eq_nil_iff.2 fun a ha => Bool.eq_false_iff.1 (hout a ha), List.append_nil]
  refine ⟨result, ended, inTime ++ afterwards, m', hub', c', hends, hc', ?_⟩
  rw [hfilter, hqueue, ← List.append_assoc]
  exact Wait.isOutcome_of_course hcourse afterwards

end Beside

/-- Two answers of one kind arrive, then nobody is left to put anything in, and still the wait for
an answer of another kind lasts until its deadline. -/
theorem ends_waitFor_beside_of_sealed :
    let hub : Hub Unit Unit := ((Hub.ofDispatch .sequential ()).openChannel 2).2
    let told : Nat → Event := fun id =>
      ⟨id, none, "herald", .rateResponded, .rateResponded ⟨2.5, Pair.ofTexts "btc" "uah"⟩, none⟩
    let sends : List (Moment × Option Event) :=
      [(⟨10, 0⟩, some (told 0)), (⟨10, 0⟩, some (told 1)), (⟨20, 0⟩, none)]
    let expected : List Kind := [.rateResponded, .subscribersResponded]
    ∃ result arrived m' hub' c',
      (Job.beside true (waitFor 0 expected ⟨50, 0⟩).timed (courier 0 sends [])).Ends Moment.start
        hub ((result, ⟨50, 0⟩), arrived) m' hub' ∧
      missing? result = some [.subscribersResponded] ∧ hub'.channel? 0 = some c' ∧
      Wait.IsOutcome expected Moment.start ⟨50, 0⟩ arrived
        (arrived.filter fun a => a.1.isBefore true ⟨50, 0⟩) result ⟨50, 0⟩ c'.queue := by
  intro hub told sends expected
  have hrun : ((Job.beside true (waitFor 0 expected ⟨50, 0⟩).timed (courier 0 sends [])).run
      Moment.start hub).done?.map (fun done => (missing? done.1.1.1, done.1.1.2)) =
      some (some [.subscribersResponded], ⟨50, 0⟩) := by
    decide +kernel
  obtain ⟨⟨⟨⟨result, ended⟩, arrived⟩, m', hub'⟩, hdone, hsummary⟩ := Option.map_eq_some_iff.1 hrun
  obtain ⟨hmissing, hended⟩ := Prod.mk.inj hsummary
  dsimp only at hended
  subst hended
  obtain ⟨result₁, ended₁, arrived₁, m₁, hub₁, c', hends, hc', houtcome⟩ :=
    ends_waitFor_beside (i := 0) (c := Channel.ofCapacity 2) (rfl : hub.channel? 0 = _) true
      expected ⟨50, 0⟩ sends Moment.start
  obtain ⟨heq, rfl, rfl⟩ := Job.Ends.unique (Job.ends_of_done? hdone) hends
  cases heq
  exact ⟨result, arrived, m', hub', c', hends, hmissing, hc', houtcome⟩

end RateHerald
