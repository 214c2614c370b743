import RateHerald.Proofs.Rates.Scripts
import RateHerald.Proofs.Timed.Steady

/-!
# What one try at a service comes to

A service is asked once. If no question can be put with the settings, none is sent and no time
passes. Otherwise one question is sent, and what becomes of it is judged: it came too late, it was
lost on the way, it was refused by its status, it could not be read, or it holds the rate. Which of
these it is depends on the answer and its delay alone, and each of them is told apart from the
others. The time limit may be zero: what comes at once is in time even then.

## Main declarations

* `RateError.provider?` is the service that a failure names.
* `Script.Arrives` and `Script.span`: what comes within the time limit, and how long that takes.
* `Service.Classified` tells the five verdicts apart; `Service.classified_judge`.
* `Script.Tried` is all that there is to say about one try, and `Script.tried_provider` says it.
-/

namespace RateHerald

variable {X : Type}

/-! ## Failures name the service -/

/-- The service that a failure names. -/
def RateError.provider? : RateError → Option String
  | .invalidPair _ => none
  | .noProviders => none
  | .unavailable provider _ => some provider
  | .transport provider _ _ => some provider
  | .status provider _ => some provider
  | .malformed provider _ => some provider
  | .misconfigured provider _ => some provider
  | .timeout provider => some provider

namespace Service

variable {s : Service} {access : Access} {pair : Pair} {body : String} {e : RateError}

theorem endpoint_eq_error (h : s.endpoint access = .error e) :
    ∃ text, e = .misconfigured s.name text := by
  rw [endpoint] at h
  split at h
  · exact absurd h (by simp)
  · exact ⟨_, (Except.error.inj h).symm⟩

/-- Before a question is sent only the settings can be wrong. -/
theorem question_eq_error (h : s.question access pair = .error e) :
    ∃ text, e = .misconfigured s.name text := by
  rw [question] at h
  rcases hendpoint : s.endpoint access with fault | url
  · rw [hendpoint] at h
    obtain rfl : fault = e := Except.error.inj h
    exact endpoint_eq_error hendpoint
  · rw [hendpoint] at h
    simp only [bind, Except.bind] at h
    split at h <;> exact absurd h (by simp)

theorem decodeAnswer_eq_error {α : Type} {reader : Json.Reader α}
    (h : s.decodeAnswer reader body = .error e) : ∃ text, e = .malformed s.name text := by
  rw [decodeAnswer] at h
  split at h
  · exact absurd h (by simp)
  · exact ⟨_, (Except.error.inj h).symm⟩

theorem readNumber_eq_error {text : String} (h : s.readNumber text = .error e) :
    ∃ text, e = .malformed s.name text := by
  rw [readNumber] at h
  split at h
  · exact absurd h (by simp)
  · exact ⟨_, (Except.error.inj h).symm⟩

/-- What is decoded first and then read fails in one of the two. -/
theorem decodeAnswer_bind_eq_error {α : Type} {reader : Json.Reader α}
    {f : α → Except RateError Float}
    (hf : ∀ x e, f x = .error e → ∃ text, e = .malformed s.name text)
    (h : (s.decodeAnswer reader body >>= f) = .error e) : ∃ text, e = .malformed s.name text := by
  rcases hdecoded : s.decodeAnswer reader body with fault | x
  · rw [hdecoded] at h
    obtain rfl : fault = e := Except.error.inj h
    exact decodeAnswer_eq_error hdecoded
  · rw [hdecoded] at h
    exact hf x e h

/-- An answer that is not understood is malformed, whatever the service. -/
theorem readRate_eq_error (h : s.readRate pair body = .error e) :
    ∃ text, e = .malformed s.name text := by
  cases s with
  | exchangeRateHost =>
    refine decodeAnswer_bind_eq_error (fun rates e he => ?_) h
    split at he
    · exact absurd he (by simp)
    · exact ⟨_, (Except.error.inj he).symm⟩
  | ninjas => exact decodeAnswer_eq_error h
  | alphaVantage => exact decodeAnswer_bind_eq_error (fun _ _ => readNumber_eq_error) h
  | coinApi => exact decodeAnswer_eq_error h
  | coinYep => exact decodeAnswer_bind_eq_error (fun _ _ => readNumber_eq_error) h

end Service

/-! ## What comes within the time limit -/

namespace Script

variable {timeout : Nat} {reply : Option (Nat × Except TransportError Answer)}
  {back : Except TransportError Answer}

/-- Something comes back within the time limit; what comes exactly at its end is in time. -/
def Arrives (timeout : Nat) (reply : Option (Nat × Except TransportError Answer))
    (back : Except TransportError Answer) : Prop :=
  ∃ delay ≤ timeout, reply = some (delay, back)

/-- How many milliseconds a question takes: the delay, or the time limit if it is smaller. -/
def span (timeout : Nat) : Option (Nat × Except TransportError Answer) → Nat
  | none => timeout
  | some (delay, _) => min delay timeout

theorem hear_eq_some {m : Moment} : (hear timeout m reply).1 = some back ↔
    Arrives timeout reply back := by
  rcases reply with _ | ⟨delay, answer⟩
  · simp [hear, Arrives]
  · by_cases hin : delay ≤ timeout
    · simp [hear, Arrives, hin]
    · simp [hear, Arrives, hin]

theorem forall_not_arrives : (∀ back, ¬Arrives timeout reply back) ↔
    ∀ delay back, reply = some (delay, back) → timeout < delay := by
  constructor
  · intro h delay back hreply
    exact Nat.lt_of_not_le fun hin => h back ⟨delay, hin, hreply⟩
  · rintro h back ⟨delay, hin, hreply⟩
    exact Nat.not_lt_of_le hin (h delay back hreply)

theorem ms_later_hear (timeout : Nat) (m : Moment)
    (reply : Option (Nat × Except TransportError Answer)) :
    (m.later (hear timeout m reply).2).ms = m.ms + span timeout reply := by
  rcases reply with _ | ⟨delay, answer⟩
  · simp [hear, span, Moment.ms_later, Moment.after]
  · rw [hear, span]
    split
    · next hin => simp [Moment.ms_later, Moment.after, Nat.min_eq_left hin]
    · next hin =>
      simp [Moment.ms_later, Moment.after, Nat.min_eq_right (Nat.le_of_not_le hin)]

end Script

/-! ## Verdicts -/

theorem Answer.isSuccess_iff (a : Answer) :
    a.isSuccess = true ↔ 200 ≤ a.status ∧ a.status ≤ 299 := by
  simp only [Answer.isSuccess, Bool.and_eq_true, decide_eq_true_eq]
  omega

namespace Service

variable {s : Service} {pair : Pair} {heard : Option (Except TransportError Answer)}

theorem judge_ok (s : Service) (pair : Pair) (n : Nat) (body : String) :
    s.judge pair (some (.ok ⟨n, body⟩)) =
      if 200 ≤ n ∧ n ≤ 299 then (s.readRate pair body).map fun value => ⟨value, pair⟩
      else .error (.status s.name n) := by
  rw [judge]
  exact if_congr (Answer.isSuccess_iff ⟨n, body⟩) rfl rfl

/-- What is not read is said to be malformed, and nothing else is. -/
theorem map_readRate_eq_error_iff {value : Float → Rate} {body : String} {e : RateError} :
    (s.readRate pair body).map value = .error e ↔
      (∃ text, e = .malformed s.name text) ∧ s.readRate pair body = .error e := by
  rcases hread : s.readRate pair body with fault | x
  · obtain ⟨text, rfl⟩ := readRate_eq_error hread
    simp only [Except.map, Except.error.injEq]
    constructor
    · rintro rfl
      exact ⟨⟨text, rfl⟩, rfl⟩
    · exact And.right
  · simp [Except.map]

/-- Every failure that is told of an answer, or of its absence, names the service. -/
theorem provider?_of_judge {e : RateError} (h : s.judge pair heard = .error e) :
    e.provider? = some s.name := by
  rcases heard with _ | fault | ⟨n, body⟩
  · cases h
    rfl
  · cases h
    rfl
  · rw [judge_ok] at h
    split at h
    · obtain ⟨⟨text, rfl⟩, -⟩ := map_readRate_eq_error_iff.1 h
      rfl
    · cases h
      rfl

theorem judge_ne_misconfigured {text : String} :
    s.judge pair heard ≠ .error (.misconfigured s.name text) := by
  rcases heard with _ | fault | ⟨n, body⟩
  · simp [judge]
  · simp [judge]
  · rw [judge_ok]
    split
    · simp [map_readRate_eq_error_iff]
    · simp

theorem judge_eq_timeout_iff :
    s.judge pair heard = .error (.timeout s.name) ↔ heard = none := by
  rcases heard with _ | ⟨text, retryable⟩ | ⟨n, body⟩
  · simp [judge]
  · simp [judge]
  · rw [judge_ok]
    split
    · simp [map_readRate_eq_error_iff]
    · simp

theorem judge_eq_transport_iff {text : String} {retryable : Bool} :
    s.judge pair heard = .error (.transport s.name text retryable) ↔
      heard = some (.error ⟨text, retryable⟩) := by
  rcases heard with _ | ⟨text, retryable⟩ | ⟨n, body⟩
  · simp [judge]
  · simp [judge]
  · rw [judge_ok]
    split
    · simp [map_readRate_eq_error_iff]
    · simp

theorem judge_eq_status_iff {n : Nat} :
    s.judge pair heard = .error (.status s.name n) ↔
      ¬(200 ≤ n ∧ n ≤ 299) ∧ ∃ body, heard = some (.ok ⟨n, body⟩) := by
  rcases heard with _ | ⟨text, retryable⟩ | ⟨n', body⟩
  · simp [judge]
  · simp [judge]
  · rw [judge_ok]
    split
    · next hrange =>
      -- within the range neither side holds: what is said is about the text
      refine iff_of_false (by simp [map_readRate_eq_error_iff]) ?_
      rintro ⟨hout, body', heq⟩
      cases heq
      exact hout hrange
    · next hout =>
      simp only [Except.error.injEq, RateError.status.injEq, true_and, Option.some_inj,
        Except.ok.injEq, Answer.mk.injEq, exists_and_left, exists_eq', and_true]
      constructor
      · rintro rfl
        exact ⟨hout, rfl⟩
      · exact And.right

theorem judge_eq_malformed_iff {e : RateError} :
    (s.judge pair heard = .error e ∧ ∃ text, e = .malformed s.name text) ↔
      ∃ n body, heard = some (.ok ⟨n, body⟩) ∧ (200 ≤ n ∧ n ≤ 299) ∧
        s.readRate pair body = .error e := by
  constructor
  · rintro ⟨hjudge, text, rfl⟩
    rcases heard with _ | ⟨text', retryable⟩ | ⟨n, body⟩
    · simp [judge] at hjudge
    · simp [judge] at hjudge
    · rw [judge_ok] at hjudge
      split at hjudge
      · next hrange =>
        exact ⟨n, body, rfl, hrange, (map_readRate_eq_error_iff.1 hjudge).2⟩
      · simp at hjudge
  · rintro ⟨n, body, rfl, hrange, hread⟩
    have hmalformed := readRate_eq_error hread
    rw [judge_ok, if_pos hrange]
    exact ⟨map_readRate_eq_error_iff.2 ⟨hmalformed, hread⟩, hmalformed⟩

theorem judge_eq_ok_iff {rate : Rate} :
    s.judge pair heard = .ok rate ↔ rate.pair = pair ∧
      ∃ n body, heard = some (.ok ⟨n, body⟩) ∧ (200 ≤ n ∧ n ≤ 299) ∧
        s.readRate pair body = .ok rate.value := by
  constructor
  · intro hjudge
    rcases heard with _ | ⟨text, retryable⟩ | ⟨n, body⟩
    · cases hjudge
    · cases hjudge
    · rw [judge_ok] at hjudge
      split at hjudge
      · next hrange =>
        rcases hread : s.readRate pair body with e | value
        · rw [hread] at hjudge
          cases hjudge
        · rw [hread] at hjudge
          cases hjudge
          exact ⟨rfl, n, body, rfl, hrange, hread⟩
      · cases hjudge
  · rintro ⟨rfl, n, body, rfl, hrange, hread⟩
    rw [judge_ok, if_pos hrange, hread]
    rfl

end Service

open Script (Arrives)

/-- What is said about a rate after a question was sent and `reply` became of it. -/
structure Service.Classified (s : Service) (pair : Pair) (timeout : Nat)
    (reply : Option (Nat × Except TransportError Answer)) (outcome : Except RateError Rate) :
    Prop where
  /-- It is too late exactly if whatever comes needs more time than there is. -/
  timeout_iff : outcome = .error (.timeout s.name) ↔
    ∀ delay back, reply = some (delay, back) → timeout < delay
  /-- It is lost exactly if the way fails in time, and it may be tried again as the way says. -/
  transport_iff : ∀ text retryable, outcome = .error (.transport s.name text retryable) ↔
    Arrives timeout reply (.error ⟨text, retryable⟩)
  /-- It is refused exactly if a status other than success comes in time, whatever the text. -/
  status_iff : ∀ n, outcome = .error (.status s.name n) ↔
    ¬(200 ≤ n ∧ n ≤ 299) ∧ ∃ body, Arrives timeout reply (.ok ⟨n, body⟩)
  /-- It is malformed exactly if an answer with success comes in time and is not understood. -/
  malformed_iff : ∀ e, (outcome = .error e ∧ ∃ text, e = .malformed s.name text) ↔
    ∃ n body, Arrives timeout reply (.ok ⟨n, body⟩) ∧ (200 ≤ n ∧ n ≤ 299) ∧
      s.readRate pair body = .error e
  /-- It is a rate exactly if an answer with success comes in time and the rate is read off it; the
  rate is for the pair that was asked for. -/
  ok_iff : ∀ rate, outcome = .ok rate ↔ rate.pair = pair ∧
    ∃ n body, Arrives timeout reply (.ok ⟨n, body⟩) ∧ (200 ≤ n ∧ n ≤ 299) ∧
      s.readRate pair body = .ok rate.value

/-- What is heard within the time limit is all that is judged. -/
theorem Service.classified_judge (s : Service) (pair : Pair) (timeout : Nat)
    (reply : Option (Nat × Except TransportError Answer)) (m : Moment) :
    s.Classified pair timeout reply (s.judge pair (Script.hear timeout m reply).1) where
  timeout_iff := by
    rw [judge_eq_timeout_iff, ← Script.forall_not_arrives]
    simp only [← Script.hear_eq_some (m := m), Option.eq_none_iff_forall_ne_some, ne_eq]
  transport_iff text retryable := by rw [judge_eq_transport_iff, Script.hear_eq_some]
  status_iff n := by simp only [judge_eq_status_iff, Script.hear_eq_some]
  malformed_iff e := by simp only [judge_eq_malformed_iff, Script.hear_eq_some]
  ok_iff rate := by simp only [judge_eq_ok_iff, Script.hear_eq_some]

namespace Script

/-- One try at a service for the rate of a pair, from a moment and a world; `outcome`, `m'` and `w'`
are what it comes to, the moment of that and the world then. -/
structure Tried (script : Script X) (s : Service) (access : Access) (timeout : Nat) (pair : Pair)
    (m : Moment) (w : Scripted X) (outcome : Except RateError Rate) (m' : Moment)
    (w' : Scripted X) : Prop where
  /-- Every failure names the service. -/
  provider?_eq : ∀ e, outcome = .error e → e.provider? = some s.name
  /-- No more than one question is sent. -/
  sent_le_one : ∃ sent, w'.questions = w.questions ++ sent ∧ sent.length ≤ 1
  /-- None is sent exactly if none can be put with the settings. -/
  unsent_iff : w'.questions = w.questions ↔
    ∃ text, s.question access pair = .error (.misconfigured s.name text)
  /-- This is said exactly if it is so. -/
  misconfigured_iff : ∀ text, outcome = .error (.misconfigured s.name text) ↔
    s.question access pair = .error (.misconfigured s.name text)
  /-- If none can be put, nothing happens and no time passes. -/
  unsent : ∀ e, s.question access pair = .error e → m' = m ∧ w' = w
  /-- A question that can be put is sent, with the time limit. The try takes as long as what becomes
  of the question, or as the time limit, and it comes to what is said of that. -/
  sent : ∀ q, s.question access pair = .ok q →
    w' = (script.send m (q.withTimeout timeout) w).2 ∧
    m'.ms = m.ms + span timeout (script.send m (q.withTimeout timeout) w).1 ∧
    s.Classified pair timeout (script.send m (q.withTimeout timeout) w).1 outcome

/-- Asking any service once comes to an end, whatever the script, the settings and the time limit
are, and it is known to which. -/
theorem tried_provider (script : Script X) (s : Service) (access : Access) (timeout : Nat)
    (pair : Pair) (m : Moment) (w : Scripted X) :
    ∃ outcome m' w',
      ((s.provider access timeout script.client).fetch pair).Ends m w outcome m' w' ∧
      script.Tried s access timeout pair m w outcome m' w' := by
  rcases hquestion : s.question access pair with e | q
  · obtain ⟨text, rfl⟩ := Service.question_eq_error hquestion
    refine ⟨_, _, _, script.ends_provider_of_error hquestion timeout m w, ?_⟩
    constructor
    · rintro e he
      cases he
      rfl
    · exact ⟨[], (List.append_nil _).symm, Nat.zero_le _⟩
    · exact iff_of_true rfl ⟨text, hquestion⟩
    · simp [hquestion]
    · exact fun _ _ => ⟨rfl, rfl⟩
    · intro q hq
      rw [hquestion] at hq
      cases hq
  · have hsent : (script.send m (q.withTimeout timeout) w).2.questions =
        w.questions ++ [q.withTimeout timeout] := rfl
    refine ⟨_, _, _, script.ends_provider_of_ok hquestion timeout m w, ?_⟩
    constructor
    · exact fun e he => Service.provider?_of_judge he
    · exact ⟨_, hsent, Nat.le_refl 1⟩
    · simp [hquestion, hsent]
    · simp [hquestion, Service.judge_ne_misconfigured]
    · intro e he
      rw [hquestion] at he
      cases he
    · intro q' hq'
      rw [hquestion, Except.ok.injEq] at hq'
      subst hq'
      exact ⟨rfl, ms_later_hear timeout m _, s.classified_judge pair timeout _ m⟩

end Script

end RateHerald
