import RateHerald.CommandLine.Arguments
import RateHerald.CommandLine.Complaint
import RateHerald.CommandLine.Help
import RateHerald.Office.Herald

/-!
# Sessions

A session opens an office as the environment and the arguments say, does one thing, prints what came
of it and closes. Nothing but the disk outlives it.

## Main declarations

* `Command.perform` does what is asked for in an office.
* `Outcome` is what a session leaves, `Session.run` the whole session.
* `Session.directory?` is the directory on the disk that a session may look at.
* `Outside.offline` is a world outside with which there is no contact.
-/

namespace RateHerald

variable {W : Type}

/-- A world outside with which there is no contact: no question is answered, mails go nowhere. -/
def Outside.offline : Outside Unit where
  client _ := .done (.error ⟨"no connection", true⟩)
  mailer _ := .done (.ok ())
  draw := .done 1.0
  clock := .done ⟨0, 0⟩

/-! ## Commands -/

/-- Does what is asked for; tells the lines to be printed. -/
def Command.perform (h : Herald W) (topic : Pair) :
    Command → HubJob (Listener Empty) (Office W) (Except Complaint (List String))
  | .rate stats => do
    match ← h.notifier.requestRate topic with
    | .error e => return .error (.during ("fetching " ++ topic.toText) e)
    | .ok value =>
      let tally ← (Job.get id).on Office.tallyPart
      let counts := if stats then tally.toJson.pretty.splitOn "\n" else []
      return .ok ((topic.toText ++ " " ++ Decimal.plain value) :: counts)
  | .subscribe mailbox => do
    let subscription : Subscription := ⟨mailbox, topic⟩
    match ← h.notifier.subscribe subscription with
    | .error (.alreadySubscribed address other) =>
      return .error (.during "already subscribed" (.alreadySubscribed address other))
    | .error e => return .error (.ofFailure e)
    | .ok () => return .ok ["subscribed " ++ subscription.toText]
  | .subscribers => do
    match ← h.notifier.subscriptions with
    | .error e => return .error (.ofFailure e)
    | .ok subscriptions => return .ok (subscriptions.map Subscription.toText)
  | .send => do
    match ← h.notifier.sendMails topic with
    | .error e => return .error (.during ("notifying " ++ topic.toText ++ " subscribers") e)
    | .ok sent => return .ok ["sent " ++ toString sent]

/-! ## Sessions -/

/-- What a session leaves. -/
structure Outcome where
  /-- The exit code. -/
  code : Nat
  /-- The printed lines. -/
  lines : List String
  /-- What is told of a failure. -/
  complaint : String
deriving Repr, DecidableEq

namespace Outcome

/-- All went well. -/
def success (lines : List String) : Outcome :=
  ⟨0, lines, ""⟩

/-- Something went wrong. -/
def failure (c : Complaint) : Outcome :=
  ⟨1, [], c.toText⟩

/-- There is nothing to be done: help is printed, misuse is an error. -/
def unfit : Unfit → Outcome
  | .help topic => ⟨0, topic.lines, ""⟩
  | .misuse =>
    ⟨2, [], "Usage: " ++ HelpTopic.program.usage ++ "\n\nFor more information, try '--help'.\n"⟩

/-- The program was halted. -/
def halted (why : String) : Outcome :=
  ⟨101, [], why ++ "\n"⟩

end Outcome

namespace Session

/-- The settings of a session: those of the environment, but the arguments may name another
directory. -/
def settings (lookup : String → Option String) (a : Arguments) : Settings :=
  let s := Settings.ofLookup lookup
  { s with dataDir := a.dataDir.getD s.dataDir }

/-- The directory for subscriptions that the arguments ask for, if they fit. -/
def directory? (lookup : String → Option String) (words : List String) : Option String :=
  (Arguments.parse words).toOption.map fun a =>
    (Collection.below Codec.subscription (settings lookup a).dataDir).directory

/-- Does what the arguments ask for. -/
def perform (lookup : String → Option String) (a : Arguments) (outside : Outside W) (disk : Disk)
    (world : W) : Outcome × Disk :=
  match Herald.open? (settings lookup a) outside with
  | .error e => (.failure (.ofSettings e), disk)
  | .ok h =>
    match (a.command.perform h (h.topic a.topic)).run Moment.start (h.openingHub disk world) with
    | .done (.ok lines) _ hub => (.success lines, hub.outside.disk)
    | .done (.error complaint) _ hub => (.failure complaint, hub.outside.disk)
    | .halted why => (.halted why, disk)
    | .stuck _ hub => (.halted "nothing more can happen", hub.outside.disk)

/-- A whole session. -/
def run (lookup : String → Option String) (words : List String) (outside : Outside W)
    (disk : Disk) (world : W) : Outcome × Disk :=
  match Arguments.parse words with
  | .error e => (.unfit e, disk)
  | .ok a => perform lookup a outside disk world

end Session

end RateHerald
