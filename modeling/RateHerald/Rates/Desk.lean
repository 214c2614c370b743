import RateHerald.Rates.Counts
import RateHerald.Rates.Provider
import RateHerald.Events.Publish

/-!
# What the rate side does with events

Somebody who asks for a rate is answered with what a provider says. What a provider announces is
noted in the log and counted. Each of the three refuses events that are not for it.

## Main declarations

* `Desk.respondRate` answers, `Desk.noteOutcome` notes, `Desk.countOutcome` counts.
-/

namespace RateHerald.Desk

variable {L X : Type}

/-- Answers an event that asks for a rate; without a channel for the answer nobody is asked. -/
def respondRate (provider : Provider (Hub L X)) (e : Event) : HubJob L X (Except BusError Unit) :=
  match e.payload with
  | .rateRequested pair =>
    if e.channel.isNone then .done (.error .noChannel)
    else do
      match ← provider.fetch pair with
      | .error cause => return .error (.listener (.rate cause))
      | .ok rate => Job.change (Hub.respond e "rate" (.rateResponded rate))
  | _ => .done (.error (.invalidEvent "RateRequested" e.kind))

/-- The provider that an event tells of and whether it gave a rate. -/
def outcome? (e : Event) : Except BusError (String × Bool) :=
  match e.payload with
  | .providerFetched provider _ => .ok (provider, true)
  | .providerFailed provider _ _ => .ok (provider, false)
  | _ => .error (.invalidEvent "ProviderFetched or ProviderFailed" e.kind)

/-- Notes in the log how a provider did. -/
def noteOutcome (e : Event) : Except BusError Unit :=
  (outcome? e).map fun _ => ()

/-- Counts how a provider did. -/
def countOutcome (e : Event) (t : Tally) : Except BusError Unit × Tally :=
  match outcome? e with
  | .ok (provider, success) => (.ok (), t.add provider success)
  | .error cause => (.error cause, t)

end RateHerald.Desk
