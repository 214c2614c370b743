import RateHerald.Proofs.Events.Publishing
import RateHerald.Proofs.Timed.GivenUp

/-!
# What is known of a request that ended

From how a request ended it is inferred how its parts did: how the one listener to each question
did by the deadline, and how the wait ended. Nothing is assumed of the listener but that it pauses
for time only, so this holds whether it answered, failed or was given up.

## Main declarations

* `Handler.of_tell_within`: publishing to one listener under a deadline.
* `Publisher.of_ask_cons`: one question after another.
* `Publisher.of_request`: the questions, and the wait if they were all put.
-/

namespace RateHerald

variable {L X σ α : Type}

section Calls

variable {m m' deadline : Moment} {s s' : σ} {p : Job σ α}

/-- Of one call under a deadline the one result is known, if it came in time. -/
theorem Dispatch.of_perform_within (d : Dispatch) (hp : p.OnlySleeps) {results : Option (List α)}
    (h : ((d.perform [p]).within deadline).Ends m s results m' s') :
    ∃ result, (p.within deadline).Ends m s result m' s' ∧ results = result.map fun a => [a] := by
  have halone : ((p.bind fun a => .done [a]).within deadline).Ends m s results m' s' := by
    cases d with
    | sequential => exact h
    | concurrent =>
      change ((Job.bind (Job.both p (.done [])) _).within deadline).Ends m s results m' s' at h
      rw [Job.within_bind, Job.Ends, Job.run_bind, Job.run_within_both_done hp, ← Job.run_bind,
        ← Job.within_bind, Job.bind_assoc] at h
      exact h
  rw [Job.within_bind] at halone
  obtain ⟨result, m₁, s₁, hcall, hdone⟩ := halone.of_bind
  rcases result with _ | a
  · cases hdone
    exact ⟨none, hcall, rfl⟩
  · cases hdone
    exact ⟨some a, hcall, rfl⟩

end Calls

variable {m m' deadline : Moment} {hub hub' : Hub L X}

/-- Publishing a new event that has one listener comes to what that listener comes to, by the
deadline. -/
theorem Handler.of_tell_within (handle : Handler L X) (depth : Nat) {i : Nat} {listener : L}
    {source : String} {kind : Kind} {payload : Payload} {channel : Option Nat}
    {result : Option (Except BusError Unit)}
    (hlisteners : (hub.bus i).listenersTo kind = [listener])
    (hsleeps : ∀ e, (handle (handle.publisher depth) listener e).OnlySleeps)
    (h : (((handle.publisher (depth + 1)).tell i source kind payload channel).within deadline).Ends m
      hub result m' hub') :
    ∃ answer, ((handle (handle.publisher depth) listener
        ⟨hub.events, none, source, kind, payload, channel⟩).within deadline).Ends m (hub.told i)
        answer m' hub' ∧
      result = answer.map fun a => gather kind [a] := by
  have hcalls : ((((hub.bus i).dispatch.perform (((hub.bus i).listenersTo kind).map fun listener =>
      handle (handle.publisher depth) listener
        ⟨hub.events, none, source, kind, payload, channel⟩)).bind fun results =>
      .done (gather kind results)).within deadline).Ends m (hub.told i) result m' hub' := h
  rw [hlisteners, List.map_singleton, Job.within_bind] at hcalls
  obtain ⟨results, m₁, hub₁, hperform, hdone⟩ := hcalls.of_bind
  obtain ⟨answer, hanswer, rfl⟩ := Dispatch.of_perform_within _ (hsleeps _) hperform
  rcases answer with _ | a
  · cases hdone
    exact ⟨none, hanswer, rfl⟩
  · cases hdone
    exact ⟨some a, hanswer, rfl⟩

/-- The first question under the deadline, and then the others if it did not fail in time. -/
theorem Publisher.of_ask_cons {publish : Publisher L X} {i channel : Nat} {source : String}
    {expected : List Kind} {payload : Payload} {rest : List Payload} {asked : Except BusError Unit}
    (h : (publish.ask i channel source expected deadline (payload :: rest)).Ends m hub asked m'
      hub') :
    ∃ result m₁ hub₁, ((publish.tell i source payload.kind payload (some channel)).within
        deadline).Ends m hub result m₁ hub₁ ∧
      (result = none → asked = .error (.timeout expected) ∧ hub' = hub₁) ∧
      (∀ e, result = some (.error e) → asked = .error e ∧ hub' = hub₁) ∧
      (result = some (.ok ()) →
        (publish.ask i channel source expected deadline rest).Ends m₁ hub₁ asked m' hub') := by
  obtain ⟨result, m₁, hub₁, htell, hrest⟩ := Job.Ends.of_bind h
  refine ⟨result, m₁, hub₁, htell, ?_, ?_, ?_⟩
  · rintro rfl
    cases hrest
    exact ⟨rfl, rfl⟩
  · rintro e rfl
    cases hrest
    exact ⟨rfl, rfl⟩
  · rintro rfl
    exact hrest

/-- A wait is settled by the answers that are in the channel, if they settle it. -/
theorem of_waitFor {channel : Nat} {expected : List Kind} {c : Channel} {taken left : List Event}
    {result answer : Except BusError Responses} (hc : hub.channel? channel = some c)
    (htaken : Channel.moveUntil (Wait.isSettled expected) [] c.queue = (taken, left))
    (hverdict : Wait.verdict? expected taken = some result)
    (h : (waitFor channel expected deadline).Ends m hub answer m' hub') :
    answer = result ∧ hub'.outside = hub.outside ∧ hub'.buses = hub.buses := by
  obtain ⟨hub'', hends, houtside, hbuses⟩ := ends_waitFor hc htaken hverdict m deadline
  obtain ⟨rfl, -, rfl⟩ := hends.unique h
  exact ⟨rfl, houtside, hbuses⟩

/-- A request puts its questions on a channel of its own, and if all were put in time it waits. -/
theorem Publisher.of_request {publish : Publisher L X} {i : Nat} {r : Request}
    {answer : Except BusError Responses} (h : (publish.request i r).Ends m hub answer m' hub') :
    ∃ deadline asked m₁ hub₁ hub₂, m.deadline? r.timeout = some deadline ∧
      (publish.ask i hub.channels.length r.source r.expected deadline
        (r.asks.map Prod.fst)).Ends m (hub.openChannel r.expected.length).2 asked m₁ hub₁ ∧
      hub' = hub₂.onChannel hub.channels.length Channel.close ∧
      (∀ e, asked = .error e → answer = .error e ∧ hub₂ = hub₁) ∧
      (asked = .ok () → (waitFor hub.channels.length r.expected deadline).Ends m₁ hub₁
        answer m' hub₂) := by
  obtain ⟨deadline, hdeadline, huntil⟩ := ends_request_iff.1 h
  have hensured : (Job.ensuring (Hub.onChannel hub.channels.length Channel.close)
      (Job.bind (publish.ask i hub.channels.length r.source r.expected deadline
        (r.asks.map Prod.fst)) _)).Ends m (hub.openChannel r.expected.length).2 answer m' hub' :=
    huntil
  obtain ⟨hub₂, hends, hclosed⟩ := hensured.of_ensuring
  obtain ⟨asked, m₁, hub₁, hask, hrest⟩ := hends.of_bind
  refine ⟨deadline, asked, m₁, hub₁, hub₂, hdeadline, hask, hclosed, ?_, ?_⟩
  · rintro e rfl
    cases hrest
    exact ⟨rfl, rfl⟩
  · rintro rfl
    exact hrest

end RateHerald
