import RateHerald.Events.Publish

/-!
# Requests

To request something is to publish events that name one channel, to wait until an answer of every
expected kind has come, and to give up when the time is over. Publishing and waiting share the
deadline; a request for which no clock can show it breaks off before it does anything. Answers of a
kind that has been answered already are passed over; an answer of a kind that was not asked for is a
failure.

## Main declarations

* `Request`, `Responses` and `Responses.rate?`, `Responses.subscribers?`.
* `Wait.verdict?` says whether the events that were taken from a channel settle the wait, and how.
* `waitFor` waits on a channel, `Publisher.requestUntil` requests something until a deadline, and
  `Publisher.request` does all of a request.
-/

namespace RateHerald

/-- Events that are published together and answered on one channel. -/
structure Request where
  /-- Who asks. -/
  source : String
  /-- What is asked, and the kind of the answer to each. -/
  asks : List (Payload × Kind)
  /-- How long publishing and waiting may take together. -/
  timeout : Span

/-- The kinds of answer that are waited for. -/
def Request.expected (r : Request) : List Kind :=
  r.asks.map Prod.snd

/-- The answers to a request, at most one of each kind, in the order in which they came. -/
structure Responses where
  /-- The answers. -/
  events : List Event
deriving DecidableEq

namespace Responses

/-- The answer of a kind. -/
def ofKind? (r : Responses) (kind : Kind) : Option Event :=
  r.events.find? fun e => e.kind == kind

/-- The rate that was told. -/
def rate? (r : Responses) : Option Float :=
  (r.ofKind? .rateResponded).bind fun e => e.payload.rate?

/-- The subscribers that were told. -/
def subscribers? (r : Responses) : Option (List String) :=
  (r.ofKind? .subscribersResponded).bind fun e => e.payload.subscribers?

end Responses

/-! ## Waiting -/

namespace Wait

/-- The expected kinds of which no event was taken, in the order in which they are expected. -/
def missing (expected : List Kind) (taken : List Event) : List Kind :=
  expected.filter fun kind => !taken.any fun e => e.kind == kind

/-- The first event of each kind. -/
def firsts : List Event → List Event
  | [] => []
  | e :: rest => e :: (firsts rest).filter fun later => later.kind != e.kind

/-- How the events that were taken settle the wait, if they do. -/
def verdict? (expected : List Kind) (taken : List Event) : Option (Except BusError Responses) :=
  match taken.find? fun e => !expected.contains e.kind with
  | some e => some (.error (.invalidEvent "a requested response" e.kind))
  | none =>
    if (missing expected taken).isEmpty then some (.ok ⟨firsts taken⟩) else none

/-- Whether the events that were taken settle the wait. -/
def isSettled (expected : List Kind) (taken : List Event) : Bool :=
  (verdict? expected taken).isSome

/-- How the wait ends with the events that were taken until its deadline. -/
def outcome (expected : List Kind) (taken : List Event) : Except BusError Responses :=
  (verdict? expected taken).getD (.error (.timeout (missing expected taken)))

end Wait

variable {L X : Type}

/-- The events that the present wait has taken out of a channel. -/
def Hub.taken (hub : Hub L X) (channel : Nat) : List Event :=
  ((hub.channel? channel).map Channel.taken).getD []

/-- Waits on a channel until an event of every expected kind has come, or until a deadline. A
channel that is sealed does not end the wait. -/
def waitFor (channel : Nat) (expected : List Kind) (deadline : Moment) :
    HubJob L X (Except BusError Responses) := do
  Job.modify (Hub.onChannel channel Channel.beginWait)
  .wait
    { look := fun _ => Hub.onChannel channel (Channel.takeUntil (Wait.isSettled expected))
      ready := fun m hub => Wait.isSettled expected (hub.taken channel) || deadline ≤ m
      due := some deadline
      drop := id }
    fun _ hub => .done (Wait.outcome expected (hub.taken channel))

/-! ## Requesting -/

namespace Publisher

variable (publish : Publisher L X)

/-- Publishes what is asked, one after another, and gives up at the deadline. -/
def ask (bus channel : Nat) (source : String) (expected : List Kind) (deadline : Moment) :
    List Payload → HubJob L X (Except BusError Unit)
  | [] => .done (.ok ())
  | payload :: rest => do
    match ← Job.within deadline (publish.tell bus source payload.kind payload (some channel)) with
    | none => return .error (.timeout expected)
    | some (.error e) => return .error e
    | some (.ok ()) => ask bus channel source expected deadline rest

/-- Requests something on a bus until a deadline. The channel is closed at the end, however the
request ends. -/
def requestUntil (deadline : Moment) (bus : Nat) (r : Request) :
    HubJob L X (Except BusError Responses) := do
  let channel ← Job.change (Hub.openChannel r.expected.length)
  Job.ensuring (Hub.onChannel channel Channel.close) do
    match ← publish.ask bus channel r.source r.expected deadline (r.asks.map Prod.fst) with
    | .error e => return .error e
    | .ok () => waitFor channel r.expected deadline

/-- Requests something on a bus. -/
def request (bus : Nat) (r : Request) : HubJob L X (Except BusError Responses) := do
  match (← Job.now).deadline? r.timeout with
  | none => .halt Moment.overflow
  | some deadline => publish.requestUntil deadline bus r

end Publisher

end RateHerald
