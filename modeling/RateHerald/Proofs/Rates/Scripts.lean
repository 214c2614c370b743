import RateHerald.Office.Herald
import RateHerald.Proofs.Timed.Ends

/-!
# Asking services by a script

A script says of every question what becomes of it: after some time there is an answer or a failure
of the way, or nothing ever comes. It may depend on everything that was asked before and on the
moment. It draws random factors too. The world of a script records the questions that were sent.

What asking comes to is told here without jobs: one try at a service, the tries at one service with
the waits between them, and the services one after another until one of them gives a rate. The jobs
of a herald end exactly so.

## Main declarations

* `Script`, `Scripted` and `Script.outside`.
* `Script.attempt`, `Script.tries` and `Script.walk` tell what asking comes to.
* `Script.ends_provider` and `Script.ends_askAgain`: the jobs end so.
* `Service.onlySleeps_provider` and `Provider.onlySleeps_askAgain`: asking pauses for time only, if
  those who are asked do.
-/

namespace RateHerald

/-! ## Asking pauses for time only -/

section OnlySleeps

variable {σ : Type}

theorem Service.onlySleeps_provider {client : Client σ} (hclient : ∀ q, (client q).OnlySleeps)
    (service : Service) (access : Access) (timeout : Nat) (pair : Pair) :
    ((service.provider access timeout client).fetch pair).OnlySleeps := by
  rw [Service.provider]
  dsimp only
  split
  · exact .done _
  · refine Job.OnlySleeps.bind .now fun m => ?_
    exact Job.OnlySleeps.bind ((hclient _).within _) fun _ => .done _

namespace Provider

variable {ask : Job σ (Except RateError Rate)} {draw : Job σ Float}

theorem onlySleeps_waitBefore (hdraw : draw.OnlySleeps) (backoff : Backoff) (attempt : Nat) :
    (waitBefore backoff draw attempt).OnlySleeps := by
  rw [waitBefore]
  -- the factor is drawn or not, and the wait is the same job of it in either case
  split
  · refine Job.OnlySleeps.bind hdraw fun scale => ?_
    dsimp only
    split
    · exact .halt _
    · exact .sleep _
  · refine Job.OnlySleeps.bind (.done 1.0) fun scale => ?_
    dsimp only
    split
    · exact .halt _
    · exact .sleep _

theorem onlySleeps_askAgain (hask : ask.OnlySleeps) (hdraw : draw.OnlySleeps) (backoff : Backoff)
    (retries attempt : Nat) : (askAgain ask backoff draw retries attempt).OnlySleeps := by
  induction retries generalizing attempt with
  | zero => exact hask
  | succ retries ih =>
    refine Job.OnlySleeps.bind hask fun answer => ?_
    cases answer with
    | ok rate => exact .done _
    | error e =>
      dsimp only
      split
      · exact Job.OnlySleeps.bind (onlySleeps_waitBefore hdraw backoff attempt) fun _ =>
          ih (attempt + 1)
      · exact .done _

end Provider

end OnlySleeps

/-! ## Scripts -/

/-- What becomes of questions, and what chance draws; `X` is what the script remembers. -/
structure Script (X : Type) where
  /-- What becomes of a question, and after how many milliseconds; maybe nothing ever. -/
  reply : Moment → Question → X → Option (Nat × Except TransportError Answer) × X
  /-- What chance draws. -/
  draw : X → Float × X

/-- The world of a script. -/
structure Scripted (X : Type) where
  /-- What the script remembers. -/
  memory : X
  /-- The questions that were sent, first things first. -/
  questions : List Question

/-- A moment and a world. -/
structure Scripted.Point (X : Type) where
  /-- The moment. -/
  time : Moment
  /-- The world. -/
  world : Scripted X

namespace Script

open Scripted (Point)

variable {X : Type} (script : Script X)

/-! ## The world of a script -/

/-- Sends a question. -/
def send (m : Moment) (q : Question) (w : Scripted X) :
    Option (Nat × Except TransportError Answer) × Scripted X :=
  ((script.reply m q w.memory).1, ⟨(script.reply m q w.memory).2, w.questions ++ [q]⟩)

/-- Draws a random factor. -/
def chance (w : Scripted X) : Float × Scripted X :=
  ((script.draw w.memory).1, { w with memory := (script.draw w.memory).2 })

/-- Brings an answer or a failure when its time has come. -/
def bring : Option (Nat × Except TransportError Answer) →
    Job (Scripted X) (Except TransportError Answer)
  | none => Job.never
  | some (delay, answer) => (Job.sleep delay).bind fun _ => .done answer

/-- Sends questions and brings what the script says. -/
def client : Client (Scripted X) := fun q =>
  .act (fun m w => (script.send m q w).2) fun m w => bring (script.send m q w).1

/-- A world outside that follows the script. -/
def outside (mailer : Mailer (Scripted X)) (clock : Job (Scripted X) Stamp) :
    Outside (Scripted X) :=
  ⟨script.client, mailer, Job.change script.chance, clock⟩

/-! ## What asking comes to -/

/-- What comes back within a time limit, and the moment when it comes or the time is over. -/
def hear (timeout : Nat) (m : Moment) :
    Option (Nat × Except TransportError Answer) → Option (Except TransportError Answer) × Moment
  | none => (none, m.after timeout)
  | some (delay, answer) =>
    if delay ≤ timeout then (some answer, m.later (m.after delay)) else (none, m.after timeout)

/-- One try at a service: if a question can be put it is sent, and what comes back within the time
limit is judged. -/
def attempt (service : Service) (access : Access) (timeout : Nat) (pair : Pair) (p : Point X) :
    Except RateError Rate × Point X :=
  match service.question access pair with
  | .error e => (.error e, p)
  | .ok q =>
    let sent := script.send p.time (q.withTimeout timeout) p.world
    let heard := hear timeout p.time sent.1
    (service.judge pair heard.1, ⟨heard.2, sent.2⟩)

/-- The tries at one service, at most `retries` more after the first, with a wait after each failure
that may pass; `none` if there is no delay for a wait. -/
def tries (service : Service) (access : Access) (timeout : Nat) (pair : Pair) :
    (retries count : Nat) → Point X → Option (Except RateError Rate × Point X)
  | 0, _, p => some (script.attempt service access timeout pair p)
  | retries + 1, count, p =>
    match script.attempt service access timeout pair p with
    | (.ok rate, p) => some (.ok rate, p)
    | (.error e, p) =>
      if e.isRetryable then
        match Backoff.standard.delay count (script.chance p.world).1 with
        | .error _ => none
        | .ok nanos =>
          tries service access timeout pair retries (count + 1)
            ⟨p.time.later (p.time.after (Provider.wholeMilliseconds nanos)),
              (script.chance p.world).2⟩
      else some (.error e, p)

/-- The services one after another until one gives a rate; if none does, the last failure of each of
them. -/
def walk (settings : Settings) (pair : Pair) :
    List (Service × Access) → Point X → Option (Except (List RateError) Rate × Point X)
  | [], p => some (.error [], p)
  | (service, access) :: rest, p =>
    match script.tries service access settings.httpTimeout.ms pair settings.retryMax 0 p with
    | none => none
    | some (.ok rate, p) => some (.ok rate, p)
    | some (.error e, p) =>
      (walk settings pair rest p).map fun (outcome, p) => (outcome.mapError (e :: ·), p)

/-! ## The jobs end so -/

theorem onlySleeps_bring (reply : Option (Nat × Except TransportError Answer)) :
    (bring reply : Job (Scripted X) _).OnlySleeps := by
  rcases reply with _ | ⟨delay, answer⟩
  · exact .never
  · exact (Job.OnlySleeps.sleep delay).bind fun _ => .done answer

theorem onlySleeps_client (q : Question) : (script.client q).OnlySleeps :=
  .act _ fun _ _ => onlySleeps_bring _

/-- What a script says is heard within the time limit or not, and never before the moment when the
question is sent. -/
theorem ends_within_bring (timeout : Nat) (reply : Option (Nat × Except TransportError Answer))
    (m : Moment) (w : Scripted X) :
    (Job.within (m.after timeout) (bring reply)).Ends m w (hear timeout m reply).1
      (m.later (hear timeout m reply).2) w := by
  rcases reply with _ | ⟨delay, answer⟩
  · exact Job.ends_within_of_late Job.isTimed_never _ rfl
  · rw [hear]
    by_cases hin : delay ≤ timeout
    · rw [if_pos hin]
      refine Job.Ends.act (Job.Ends.within_wait (Job.isTimed_sleepUntil _) rfl
        (m.after_le_after hin) ?_)
      rw [Moment.later_of_le (Moment.le_later_left m (m.after delay))]
      exact Job.ends_done _ _ _
    · rw [if_neg hin]
      have hlate : ¬m.after delay ≤ m.later (m.after timeout) := by
        rw [Moment.later]
        split <;> simp only [Moment.le_def, Moment.after] at * <;> omega
      exact Job.Ends.act (Job.ends_within_of_late (Job.isTimed_sleepUntil _) _
        (decide_eq_false hlate))

theorem le_hear {timeout : Nat} (htimeout : 0 < timeout) (m : Moment)
    (reply : Option (Nat × Except TransportError Answer)) : m ≤ (hear timeout m reply).2 := by
  have hle := m.le_after htimeout
  rcases reply with _ | ⟨delay, answer⟩
  · exact hle
  · rw [hear]
    split
    · exact Moment.le_later_left _ _
    · exact hle

theorem ends_provider_of_error {service : Service} {access : Access} {pair : Pair} {e : RateError}
    (h : service.question access pair = .error e) (timeout : Nat) (m : Moment) (w : Scripted X) :
    ((service.provider access timeout script.client).fetch pair).Ends m w (.error e) m w := by
  rw [Service.provider]
  dsimp only
  rw [h]
  exact Job.ends_done _ _ _

/-- A question that can be put is sent, and what is heard is judged. -/
theorem ends_provider_of_ok {service : Service} {access : Access} {pair : Pair} {q : Question}
    (h : service.question access pair = .ok q) (timeout : Nat) (m : Moment) (w : Scripted X) :
    ((service.provider access timeout script.client).fetch pair).Ends m w
      (service.judge pair (hear timeout m (script.send m (q.withTimeout timeout) w).1).1)
      (m.later (hear timeout m (script.send m (q.withTimeout timeout) w).1).2)
      (script.send m (q.withTimeout timeout) w).2 := by
  rw [Service.provider]
  dsimp only
  rw [h]
  refine Job.Ends.bind (Job.Ends.act (Job.ends_done _ _ _)) ?_
  exact Job.Ends.bind (Job.Ends.act (ends_within_bring timeout _ m _)) (Job.ends_done _ _ _)

/-- One try at a service ends as the script says. -/
theorem ends_provider (service : Service) (access : Access) {timeout : Nat}
    (htimeout : 0 < timeout) (pair : Pair) (p : Point X) :
    ((service.provider access timeout script.client).fetch pair).Ends p.time p.world
      (script.attempt service access timeout pair p).1
      (script.attempt service access timeout pair p).2.time
      (script.attempt service access timeout pair p).2.world := by
  rw [attempt]
  cases hq : service.question access pair with
  | error e => exact script.ends_provider_of_error hq timeout p.time p.world
  | ok q =>
    have hends := script.ends_provider_of_ok hq timeout p.time p.world
    rw [Moment.later_of_le (le_hear htimeout p.time _)] at hends
    exact hends

theorem ends_waitBefore {count nanos : Nat} {w : Scripted X}
    (h : Backoff.standard.delay count (script.chance w).1 = .ok nanos) (m : Moment) :
    (Provider.waitBefore Backoff.standard (Job.change script.chance) count).Ends m w ()
      (m.later (m.after (Provider.wholeMilliseconds nanos))) (script.chance w).2 := by
  refine Job.Ends.bind (Job.ends_change script.chance m w) ?_
  dsimp only
  rw [h]
  exact Job.ends_sleep _ _ _

/-- The tries at a service end as the script says. -/
theorem ends_askAgain (service : Service) (access : Access) {timeout : Nat}
    (htimeout : 0 < timeout) (pair : Pair) {retries count : Nat} {p p' : Point X}
    {result : Except RateError Rate}
    (h : script.tries service access timeout pair retries count p = some (result, p')) :
    (Provider.askAgain ((service.provider access timeout script.client).fetch pair)
      Backoff.standard (Job.change script.chance) retries count).Ends p.time p.world result p'.time
      p'.world := by
  have hask := fun p => script.ends_provider service access htimeout pair p
  -- by induction on the retries that are left, since both sides use up one with each wait
  induction retries generalizing count p with
  | zero =>
    rw [tries, Option.some_inj] at h
    have hlast := hask p
    rw [h] at hlast
    exact hlast
  | succ retries ih =>
    have hfirst := hask p
    rw [tries] at h
    rcases hattempt : script.attempt service access timeout pair p with ⟨e | rate, p₁⟩
    · rw [hattempt] at h hfirst
      dsimp only at h
      refine Job.Ends.bind hfirst ?_
      dsimp only
      by_cases hagain : e.isRetryable = true
      · rw [if_pos hagain] at h ⊢
        rcases hdelay : Backoff.standard.delay count (script.chance p₁.world).1 with fault | nanos
        · rw [hdelay] at h
          cases h
        · rw [hdelay] at h
          exact Job.Ends.bind (script.ends_waitBefore hdelay p₁.time) (ih h)
      · rw [if_neg hagain] at h ⊢
        cases h
        exact Job.ends_done _ _ _
    · rw [hattempt] at h hfirst
      cases h
      exact Job.Ends.bind hfirst (Job.ends_done _ _ _)

end Script

end RateHerald
