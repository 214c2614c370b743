import RateHerald.Office.Herald

/-!
# The stage of a rehearsal

In a rehearsal the world outside is played from scripts: providers say their lines, web services
send prepared replies, mails are taken or refused by the name of the recipient, and subscriptions
may be kept on a list instead of a disk. The stage keeps how far every script has come and what was
noted, asked and mailed.

## Main declarations

* `Stage` and `Note`.
* `Line` and `Stage.speaker`: a provider that speaks from a script.
* `Reply` and `Stage.correspondent`: a client that sends prepared replies.
* `Stage.postman` takes mails, `Stage.register` keeps subscriptions on a list.
-/

namespace RateHerald

/-- Something that was noted on the stage. -/
inductive Note where
  /-- A listener was called. -/
  | heard (listener : String) (kind : Kind) (source : String) (time : Nat)
  /-- A listener to a kind of event woke up. -/
  | woke (kind : Kind) (time : Nat)
  /-- An event was written down. -/
  | written (kind : Kind) (source : String) (payload : Payload)
deriving DecidableEq

/-- What is kept on the stage. -/
structure Stage where
  /-- What was noted, first things first. -/
  notes : List Note
  /-- The providers that speak from a script, and how often each was called. -/
  calls : List (String × Nat)
  /-- How many questions each correspondent was asked. -/
  turns : List Nat
  /-- The questions that were asked, first things first. -/
  questions : List Question
  /-- The mails that were sent, first things first. -/
  outbox : List Message
  /-- The subscriptions on the list. -/
  members : List Subscription
deriving DecidableEq

namespace Stage

/-- A stage on which nothing has happened. -/
def empty : Stage :=
  ⟨[], [], [], [], [], []⟩

/-- Makes a note. -/
def note (n : Note) (s : Stage) : Stage :=
  { s with notes := s.notes ++ [n] }

/-! ## Providers -/

end Stage

/-- What a provider says when it is called. -/
inductive Line where
  /-- A rate, of another pair if one is named. -/
  | gives (value : Float) (pair : Option Pair)
  /-- A failure. -/
  | fails (cause : RateError)
deriving DecidableEq

/-- What a line says of a pair. -/
def Line.outcome (pair : Pair) : Line → Except RateError Rate
  | .gives value other => .ok ⟨value, other.getD pair⟩
  | .fails cause => .error cause

namespace Stage

/-- How often a provider was called before, and the stage after one more call. -/
def countCall (i : Nat) (s : Stage) : Nat × Stage :=
  ((s.calls[i]?.map Prod.snd).getD 0,
    { s with calls := s.calls.modify i fun (name, n) => (name, n + 1) })

/-- The provider at place `i` of the list of calls. After some milliseconds it says its next line,
and when it has none left, gives `lasting` or tells that the service is not available. -/
def speaker (i : Nat) (name : String) (lines : List Line) (lasting : Option Float) (delay : Nat) :
    Provider Stage where
  name := name
  fetch pair := do
    Job.sleep delay
    let turn ← Job.change (countCall i)
    match lines[turn]?, lasting with
    | some line, _ => return line.outcome pair
    | none, some value => return .ok ⟨value, pair⟩
    | none, none => return .error (.status name 503)

end Stage

/-- A prepared reply and the milliseconds after which it comes. -/
structure Reply where
  /-- The reply. -/
  outcome : Except TransportError Answer
  /-- How long it takes. -/
  delay : Nat

namespace Stage

/-- How many questions a correspondent was asked before, and the stage after one more. -/
def ask (i : Nat) (q : Question) (s : Stage) : Nat × Stage :=
  ((s.turns[i]?).getD 0,
    { s with turns := s.turns.modify i (· + 1), questions := s.questions ++ [q] })

/-- The correspondent at place `i` of the list of turns. It sends its replies one after another and
repeats the last; if it has none nothing ever comes. -/
def correspondent (i : Nat) (replies : List Reply) : Client Stage := fun q => do
  let turn ← Job.change (ask i q)
  match replies[min turn (replies.length - 1)]? with
  | none => Job.never
  | some reply =>
    Job.sleep reply.delay
    return reply.outcome

/-! ## Mails -/

/-- Takes mails, but not for `reject` and not for those in `flaky`, each with a reason of its own
that may pass. -/
def postman (flaky : List (String × String)) (reject : List String) : Mailer Stage := fun m =>
  let address := m.recipient.address
  match flaky.lookup address with
  | some reason => .done (.error ⟨address, reason, true⟩)
  | none =>
    if reject.contains address then .done (.error ⟨address, "mailbox unavailable", false⟩)
    else do
      Job.modify fun s => { s with outbox := s.outbox ++ [m] }
      return .ok ()

/-- Takes all mails and keeps none. -/
def shredder : Mailer Stage := fun _ => .done (.ok ())

/-- What lies outside of an office in a rehearsal: one correspondent, whose replies are `replies`,
no chance, and a clock that stands still. -/
def outside (replies : List Reply) (mailer : Mailer Stage) : Outside Stage where
  client := correspondent 0 replies
  mailer := mailer
  draw := .done 1.0
  clock := .done ⟨0, 0⟩

/-- The stage of a rehearsal with one correspondent. -/
def ofOutside : Stage :=
  { empty with turns := [0] }

/-! ## Subscriptions -/

/-- Keeps subscriptions on a list; a `broken` one cannot be read. -/
def register (broken : Bool) : Repository Stage where
  add subscription := Job.change fun s =>
    if s.members.any fun other => other.key == subscription.key then
      (.error (.alreadySubscribed subscription.mailbox.address subscription.topic), s)
    else (.ok (), { s with members := s.members ++ [subscription] })
  list := Job.get fun s => if broken then .error (.missing "repository") else .ok s.members

end Stage

end RateHerald
