import RateHerald.Access
import RateHerald.Mailbox
import RateHerald.Pair
import RateHerald.Decimal.Reader
import RateHerald.Events.Dispatch
import RateHerald.Rates.Service
import RateHerald.Timed.Moment

/-!
# Settings

The program is set up by variables of its environment, each of which replaces one standard value. A
value that cannot be read is passed over, so that the standard value stays. Settings that fit no
running program are refused afterwards; of several faults the first in a fixed order is told.

## Main declarations

* `Settings` and `Settings.standard`.
* `Settings.ofLookup` reads the variables.
* `Settings.validate` accepts or refuses settings.
-/

namespace RateHerald

/-- The form of log lines. -/
inductive LogFormat where
  /-- Text. -/
  | text
  /-- JSON. -/
  | json
deriving Repr, DecidableEq

namespace LogFormat

/-- The name of a form. -/
def name : LogFormat → String
  | .text => "text"
  | .json => "json"

/-- Reads the name of a form. -/
def parse (s : String) : Except UnknownChoice LogFormat :=
  choose "log format" [("text", .text), ("pretty", .text), ("plain", .text), ("json", .json)] s

end LogFormat

/-- Why settings are refused. -/
inductive SettingsError where
  /-- There is no directory for records. -/
  | emptyDataDir
  /-- A time limit is zero. -/
  | zeroTimeout (subject : String)
  /-- The time limit of one question exceeds that of a request. -/
  | httpTimeoutTooLong
  /-- No service has an endpoint. -/
  | noProviders
  /-- The sender of mails is no mailbox. -/
  | invalidSender (text : String)
  /-- The pair that is meant when none is named is not acceptable. -/
  | invalidTopic (text : String)
deriving Repr, DecidableEq

namespace SettingsError

/-- The name of the fault. -/
def code : SettingsError → String
  | .emptyDataDir => "EmptyDataDir"
  | .zeroTimeout _ => "ZeroTimeout"
  | .httpTimeoutTooLong => "HttpTimeoutTooLong"
  | .noProviders => "NoProviders"
  | .invalidSender _ => "InvalidMailFrom"
  | .invalidTopic _ => "InvalidTopic"

/-- The fault in words. -/
def message : SettingsError → String
  | .emptyDataDir => "data directory cannot be empty"
  | .zeroTimeout subject => subject ++ " cannot be zero"
  | .httpTimeoutTooLong => "HTTP timeout cannot exceed request timeout"
  | .noProviders => "no rate provider has an endpoint"
  | .invalidSender text => "invalid sender address: " ++ text
  | .invalidTopic text => "invalid default topic: " ++ text

end SettingsError

/-- The settings of the program. -/
structure Settings where
  /-- The directory for records. -/
  dataDir : String
  /-- The time limit of a request over the bus. -/
  requestTimeout : Span
  /-- The time limit of one question to a web service. -/
  httpTimeout : Span
  /-- How listeners are called. -/
  dispatch : Dispatch
  /-- How often a service is asked again after a failure. -/
  retryMax : Nat
  /-- The sender of mails, as it was typed. -/
  sender : Option String
  /-- The pair that is meant when none is named. -/
  topic : Pair
  /-- The services and how they are reached. -/
  services : List (Service × Access)
  /-- How much is logged. -/
  logLevel : String
  /-- The form of log lines. -/
  logFormat : LogFormat
deriving Repr, DecidableEq

namespace Settings

/-- The settings when no variable is set. -/
def standard : Settings where
  dataDir := "./data"
  requestTimeout := 15000
  httpTimeout := 5000
  dispatch := .sequential
  retryMax := 0
  sender := none
  topic := Pair.ofTexts "BTC" "UAH"
  services := Service.all.map fun s => (s, s.standardAccess)
  logLevel := "info"
  logFormat := .text

/-! ## Reading -/

/-- A natural number below `bound`: decimal digits, maybe after a plus sign. -/
def natural? (bound : Nat) (s : String) : Option Nat :=
  let cs := match s.toList with
    | '+' :: rest => rest
    | cs => cs
  if cs.isEmpty || !cs.all Char.isDigit then none
  else
    let n := Decimal.digitsValue cs
    if n < bound then some n else none

/-- A span of time in milliseconds, a number of 64 bits. -/
def span? (s : String) : Option Span :=
  (natural? UInt64.size s).map Span.ofMs

/-- The value of a variable, if it is set and can be read. -/
def read? {α : Type} (lookup : String → Option String) (name : String)
    (parse : String → Option α) : Option α :=
  (lookup name).bind parse

/-- The name of a variable of a service. -/
def variableOf (s : Service) (part : String) : String :=
  "XRATE_" ++ Text.asciiUpper s.name ++ "_" ++ part

/-- The names of all variables that are read. -/
def variableNames : List String :=
  ["XRATE_DATA_DIR", "XRATE_REQUEST_TIMEOUT_MS", "XRATE_HTTP_TIMEOUT_MS", "XRATE_DISPATCH",
    "XRATE_RETRY_MAX", "XRATE_MAIL_FROM", "XRATE_TOPIC", "LOG_LEVEL", "XRATE_LOG_FORMAT"] ++
  Service.all.flatMap fun s => ["ENDPOINT", "HEADER", "KEY"].map (variableOf s)

/-- How a service is reached, by its three variables. -/
def accessOf (lookup : String → Option String) (s : Service) (a : Access) : Access where
  endpoint := (lookup (variableOf s "ENDPOINT")).getD a.endpoint
  header := (lookup (variableOf s "HEADER")).getD a.header
  key := (lookup (variableOf s "KEY")).getD a.key

/-- The settings by the variables that `lookup` knows. -/
def ofLookup (lookup : String → Option String) : Settings where
  dataDir := (lookup "XRATE_DATA_DIR").getD standard.dataDir
  requestTimeout := (read? lookup "XRATE_REQUEST_TIMEOUT_MS" span?).getD standard.requestTimeout
  httpTimeout := (read? lookup "XRATE_HTTP_TIMEOUT_MS" span?).getD standard.httpTimeout
  dispatch :=
    (read? lookup "XRATE_DISPATCH" fun s => (Dispatch.parse s).toOption).getD standard.dispatch
  retryMax := (read? lookup "XRATE_RETRY_MAX" (natural? UInt32.size)).getD standard.retryMax
  sender := (lookup "XRATE_MAIL_FROM").filter Text.isFilled
  topic := (read? lookup "XRATE_TOPIC" fun s => (Pair.parse s).toOption).getD standard.topic
  services := standard.services.map fun (s, a) => (s, accessOf lookup s a)
  logLevel := (lookup "LOG_LEVEL").getD standard.logLevel
  logFormat :=
    (read? lookup "XRATE_LOG_FORMAT" fun s => (LogFormat.parse s).toOption).getD standard.logFormat

/-! ## Checking -/

/-- The services that have an endpoint. -/
def enabled (s : Settings) : List (Service × Access) :=
  s.services.filter fun (_, a) => a.isEnabled

/-- The mailbox of the sender, if one is set. -/
def senderMailbox (s : Settings) : Except SettingsError (Option Mailbox) :=
  match s.sender with
  | none => .ok none
  | some text =>
    match Mailbox.parse text with
    | .ok m => .ok (some m)
    | .error _ => .error (.invalidSender text)

/-- Accepts settings that fit a running program. -/
def validate (s : Settings) : Except SettingsError Unit :=
  if s.dataDir.isEmpty then .error .emptyDataDir
  else if s.requestTimeout.ms = 0 then .error (.zeroTimeout "request timeout")
  else if s.httpTimeout.ms = 0 then .error (.zeroTimeout "HTTP timeout")
  else if s.requestTimeout.ms < s.httpTimeout.ms then .error .httpTimeoutTooLong
  else if s.enabled.isEmpty then .error .noProviders
  else if !s.topic.isValid then .error (.invalidTopic s.topic.toText)
  else s.senderMailbox.map fun _ => ()

end Settings

end RateHerald
