import RateHerald.Proofs.Rates.Delays
import RateHerald.Proofs.Rates.Scripts

/-!
# Services that hang

A service that never answers is asked again as often as the settings allow, each time until the time
limit of a question is over, with a wait before each further try. Only then is the next service
asked. What this costs is told here: the time limit for every try, and the waits.

## Main declarations

* `Script.Hangs`, `Script.Answers` and `Script.DrawsScale` say what a script does.
* `AreWaits` says that some waits are standard ones.
* `Script.tries_of_hangs`: what it costs to ask a service that hangs.
* `Script.tries_of_answers`: a service that answers at once costs no time.
* `Script.walk_of_spared` and `Script.walk_of_hangs`: when the others are asked although one hangs.
-/

namespace RateHerald

open Scripted (Point)

/-! ## Moments -/

namespace Moment

theorem after_after (m : Moment) (ms ms' : Nat) :
    (m.after ms).after ms' = m.after (ms + ms') := by
  rw [after, after, after, Nat.add_assoc]

theorem later_after_after (m : Moment) (ms ms' : Nat) :
    (m.after ms).later ((m.after ms).after ms') = m.after (ms + ms') := by
  have hle : m.after ms ≤ (m.after ms).after ms' := by
    rw [after_after]
    exact m.after_le_after (Nat.le_add_right _ _)
  rw [later_of_le hle, after_after]

theorem later_after_zero (m : Moment) : m.later (m.after 0) = m :=
  later_of_ge (.inr ⟨rfl, Nat.zero_le _⟩)

end Moment

/-! ## Waits -/

/-- A wait of so many milliseconds may come before the try after try number `count`. -/
def IsWait (count ms : Nat) : Prop :=
  ∃ scale nanos, (0.5 : Float) ≤ scale ∧ scale ≤ 1.5 ∧
    Backoff.standard.delay count scale = .ok nanos ∧ ms = Provider.wholeMilliseconds nanos

/-- Waits before one try after another, the first after try number `count`. -/
def AreWaits : (count : Nat) → List Nat → Prop
  | _, [] => True
  | count, ms :: rest => IsWait count ms ∧ AreWaits (count + 1) rest

/-! ## What a script does -/

namespace Script

variable {X : Type} (script : Script X)

/-- A service never answers. -/
def Hangs (timeout : Nat) (pair : Pair) (l : Service × Access) : Prop :=
  ∀ q, l.1.question l.2 pair = .ok q → ∀ m x, (script.reply m (q.withTimeout timeout) x).1 = none

/-- A service can be asked, and answers at once with success and a text in which there is a rate. -/
def Answers (timeout : Nat) (pair : Pair) (l : Service × Access) : Prop :=
  ∃ q, l.1.question l.2 pair = .ok q ∧ ∀ m x, ∃ body value,
    (script.reply m (q.withTimeout timeout) x).1 = some (0, .ok ⟨200, body⟩) ∧
      l.1.readRate pair body = .ok value

/-- Random factors are between a half and one and a half. -/
def DrawsScale : Prop :=
  ∀ x, (0.5 : Float) ≤ (script.draw x).1 ∧ (script.draw x).1 ≤ 1.5

variable {script} {timeout : Nat} {pair : Pair} {service : Service} {access : Access}

/-- A try at a service that hangs takes as long as the time limit allows. -/
theorem attempt_of_hangs (h : script.Hangs timeout pair (service, access))
    (hcan : (service.question access pair).isOk = true) (p : Point X) :
    ∃ w, script.attempt service access timeout pair p =
      (.error (.timeout service.name), ⟨p.time.after timeout, w⟩) := by
  rw [attempt]
  cases hq : service.question access pair with
  | error e =>
    rw [hq] at hcan
    cases hcan
  | ok q =>
    refine ⟨(script.send p.time (q.withTimeout timeout) p.world).2, ?_⟩
    have hnone : (script.send p.time (q.withTimeout timeout) p.world).1 = none := h q hq _ _
    dsimp only
    rw [hnone]
    rfl

/-- A service that hangs is asked again and again, until no try is left. -/
theorem tries_of_hangs (hdraw : script.DrawsScale) (h : script.Hangs timeout pair (service, access))
    (hcan : (service.question access pair).isOk = true) (retries count : Nat) (p : Point X) :
    ∃ waits p', script.tries service access timeout pair retries count p =
        some (.error (.timeout service.name), p') ∧
      waits.length = retries ∧ AreWaits count waits ∧
      p'.time = p.time.after ((retries + 1) * timeout + waits.sum) := by
  induction retries generalizing count p with
  | zero =>
    obtain ⟨w, hattempt⟩ := attempt_of_hangs h hcan p
    refine ⟨[], ⟨p.time.after timeout, w⟩, by rw [tries, hattempt], rfl, trivial, ?_⟩
    simp
  | succ retries ih =>
    obtain ⟨w, hattempt⟩ := attempt_of_hangs h hcan p
    obtain ⟨hlo, hhi⟩ := hdraw w.memory
    obtain ⟨nanos, hdelay⟩ := Backoff.exists_delay_standard count hlo hhi
    obtain ⟨waits, p', htries, hlength, hwaits, htime⟩ := ih (count + 1)
      ⟨(p.time.after timeout).later ((p.time.after timeout).after
        (Provider.wholeMilliseconds nanos)), (script.chance w).2⟩
    refine ⟨Provider.wholeMilliseconds nanos :: waits, p', ?_, congrArg (· + 1) hlength,
      ⟨⟨_, nanos, hlo, hhi, hdelay, rfl⟩, hwaits⟩, ?_⟩
    · have hchance : Backoff.standard.delay count (script.chance w).1 = .ok nanos := hdelay
      have hagain : (RateError.timeout service.name).isRetryable = true := rfl
      rw [tries, hattempt]
      dsimp only
      rw [if_pos hagain, hchance]
      exact htries
    · rw [htime, Moment.later_after_after, Moment.after_after, List.sum_cons]
      congr 1
      ring

/-- A question that cannot be put is not put again. -/
theorem not_isRetryable_of_question {e : RateError} (h : service.question access pair = .error e) :
    e.isRetryable = false := by
  rw [Service.question, Service.endpoint] at h
  cases hparse : Url.parse access.endpoint with
  | error fault =>
    rw [hparse] at h
    cases h
    rfl
  | ok url =>
    rw [hparse] at h
    cases hcredentials : access.credentials with
    | none =>
      simp only [hcredentials] at h
      cases h
    | some credentials =>
      simp only [hcredentials] at h
      cases h

/-- A service that cannot be asked costs no time. -/
theorem tries_of_question_error {e : RateError} (h : service.question access pair = .error e)
    (retries count : Nat) (p : Point X) :
    script.tries service access timeout pair retries count p = some (.error e, p) := by
  have hattempt : script.attempt service access timeout pair p = (.error e, p) := by
    rw [attempt, h]
  cases retries with
  | zero => rw [tries, hattempt]
  | succ retries =>
    rw [tries, hattempt]
    dsimp only
    rw [not_isRetryable_of_question h, if_neg Bool.false_ne_true]

/-- A try at a service that answers at once takes no time. -/
theorem attempt_of_answers (h : script.Answers timeout pair (service, access)) (p : Point X) :
    ∃ rate w, script.attempt service access timeout pair p = (.ok rate, ⟨p.time, w⟩) := by
  obtain ⟨q, hq, hanswers⟩ := h
  obtain ⟨body, value, hreply, hread⟩ := hanswers p.time p.world.memory
  have hsent : (script.send p.time (q.withTimeout timeout) p.world).1 =
      some (0, .ok ⟨200, body⟩) := hreply
  have hjudge : service.judge pair (some (.ok ⟨200, body⟩)) = .ok ⟨value, pair⟩ := by
    have hsuccess : Answer.isSuccess ⟨200, body⟩ = true := rfl
    dsimp only at hread
    rw [Service.judge]
    dsimp only
    rw [if_pos hsuccess, hread]
    rfl
  refine ⟨⟨value, pair⟩, (script.send p.time (q.withTimeout timeout) p.world).2, ?_⟩
  rw [attempt, hq]
  dsimp only
  rw [hsent, hear, if_pos (Nat.zero_le _), hjudge, Moment.later_after_zero]

/-- A service that answers at once is not asked again. -/
theorem tries_of_answers (h : script.Answers timeout pair (service, access)) (retries count : Nat)
    (p : Point X) :
    ∃ rate w, script.tries service access timeout pair retries count p =
      some (.ok rate, ⟨p.time, w⟩) := by
  obtain ⟨rate, w, hattempt⟩ := attempt_of_answers h p
  refine ⟨rate, w, ?_⟩
  cases retries with
  | zero => rw [tries, hattempt]
  | succ retries => rw [tries, hattempt]

/-! ## All services -/

section Walk

variable {settings : Settings} {hung : Service × Access} {before after : List (Service × Access)}

/-- Where the first service answers at once, no other is asked. -/
theorem walk_of_answers {l : Service × Access} (h : script.Answers settings.httpTimeout.ms pair l)
    (rest : List (Service × Access)) (p : Point X) :
    ∃ rate w, script.walk settings pair (l :: rest) p = some (.ok rate, ⟨p.time, w⟩) := by
  obtain ⟨service, access⟩ := l
  obtain ⟨rate, w, htries⟩ := tries_of_answers h settings.retryMax 0 p
  refine ⟨rate, w, ?_⟩
  rw [walk, htries]

/-- Where the tries at the first service end in a failure, the second is asked at that moment. -/
theorem walk_of_error {l : Service × Access} (h : script.Answers settings.httpTimeout.ms pair l)
    {e : RateError} {p p₁ : Point X}
    (htries : script.tries service access settings.httpTimeout.ms pair settings.retryMax 0 p =
      some (.error e, p₁)) (rest : List (Service × Access)) :
    ∃ rate w, script.walk settings pair ((service, access) :: l :: rest) p =
      some (.ok rate, ⟨p₁.time, w⟩) := by
  obtain ⟨rate, w, hwalk⟩ := walk_of_answers h rest p₁
  refine ⟨rate, w, ?_⟩
  rw [walk, htries]
  dsimp only
  rw [hwalk]
  rfl

/-- A service that hangs costs no time if another comes before it, or if it cannot be asked at all.
-/
theorem walk_of_spared
    (hanswers : ∀ l ∈ before ++ after, script.Answers settings.httpTimeout.ms pair l)
    (hothers : before ++ after ≠ [])
    (hspared : before ≠ [] ∨ (hung.1.question hung.2 pair).isOk = false) (p : Point X) :
    ∃ rate w, script.walk settings pair (before ++ hung :: after) p =
      some (.ok rate, ⟨p.time, w⟩) := by
  cases before with
  | cons l rest => exact walk_of_answers (hanswers l List.mem_cons_self) _ p
  | nil =>
    cases after with
    | nil => exact absurd rfl hothers
    | cons l rest =>
      cases hq : hung.1.question hung.2 pair with
      | ok q =>
        rw [hq] at hspared
        exact absurd (hspared.resolve_left fun hne => hne rfl) (Bool.noConfusion ·)
      | error e =>
        exact walk_of_error (hanswers l List.mem_cons_self)
          (tries_of_question_error hq settings.retryMax 0 p) rest

/-- If the first service hangs the others are asked when all tries at it are over: this takes the
time limit for each try, and the waits. -/
theorem walk_of_hangs (hdraw : script.DrawsScale)
    (hhangs : script.Hangs settings.httpTimeout.ms pair hung)
    (hcan : (hung.1.question hung.2 pair).isOk = true)
    (hanswers : ∀ l ∈ after, script.Answers settings.httpTimeout.ms pair l) (hothers : after ≠ [])
    (p : Point X) :
    ∃ waits rate w, waits.length = settings.retryMax ∧ AreWaits 0 waits ∧
      script.walk settings pair (hung :: after) p = some (.ok rate,
        ⟨p.time.after ((settings.retryMax + 1) * settings.httpTimeout.ms + waits.sum), w⟩) := by
  cases after with
  | nil => exact absurd rfl hothers
  | cons l rest =>
    obtain ⟨waits, p', htries, hlength, hwaits, htime⟩ :=
      tries_of_hangs hdraw hhangs hcan settings.retryMax 0 p
    obtain ⟨rate, w, hwalk⟩ := walk_of_error (hanswers l List.mem_cons_self) htries rest
    exact ⟨waits, rate, w, hlength, hwaits, htime ▸ hwalk⟩

end Walk

end Script

end RateHerald
