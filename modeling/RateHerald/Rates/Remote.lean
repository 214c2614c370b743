import RateHerald.Rates.Provider
import RateHerald.Rates.Service

/-!
# Web services as providers

A web service is asked by sending it a question; a `Client` brings the answer, or the failure of the
way there and back, or nothing in time. What comes back is a rate, or one of five failures: too
late, lost on the way, refused by status, not understood, or no question could be made at all.

## Main declarations

* `Client` sends questions.
* `Service.provider` is a web service as a provider.
-/

namespace RateHerald

/-- Somebody who sends questions and brings answers. -/
abbrev Client (σ : Type) := Question → Job σ (Except TransportError Answer)

namespace Service

variable {σ : Type}

/-- What an answer, or its absence, says about the rate. -/
def judge (s : Service) (pair : Pair) :
    Option (Except TransportError Answer) → Except RateError Rate
  | none => .error (.timeout s.name)
  | some (.error e) => .error (.transport s.name e.text e.retryable)
  | some (.ok answer) =>
    if answer.isSuccess then (s.readRate pair answer.body).map fun value => ⟨value, pair⟩
    else .error (.status s.name answer.status)

/-- A web service as a provider; an answer counts if it comes within `timeout` milliseconds. -/
def provider (s : Service) (access : Access) (timeout : Nat) (client : Client σ) : Provider σ where
  name := s.name
  fetch pair :=
    match s.question access pair with
    | .error e => .done (.error e)
    | .ok question => do
      let deadline := (← Job.now).after timeout
      return s.judge pair (← Job.within deadline (client (question.withTimeout timeout)))

end Service

end RateHerald
