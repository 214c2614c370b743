import RateHerald.Office.Staff
import RateHerald.Rates.Remote
import RateHerald.Settings

/-!
# The herald

The herald is the office as settings describe it: a chain of the enabled web services, each of which
is asked again if the settings say so, subscriptions in the directory for records, mails from the
set sender. What lies outside is given to it: how questions are sent, how mails are sent, chance and
the clock.

## Main declarations

* `Outside` is what lies outside, `Herald` the herald.
* `Herald.open?` checks the settings and opens the office.
* `Herald.chain`, `Herald.notifier` and `Herald.topic`.
-/

namespace RateHerald

/-- What lies outside of the office. -/
structure Outside (W : Type) where
  /-- Sends questions to web services. -/
  client : Client W
  /-- Sends mails. -/
  mailer : Mailer W
  /-- Draws a random factor. -/
  draw : Job W Float
  /-- Tells the time. -/
  clock : Job W Stamp

/-- An office as settings describe it. -/
structure Herald (W : Type) where
  /-- The settings. -/
  settings : Settings
  /-- The sender of mails. -/
  sender : Option Mailbox
  /-- What lies outside. -/
  outside : Outside W

namespace Herald

variable {W : Type}

/-- The hub of the herald, to which no guests listen. -/
abbrev HeraldHub (W : Type) := OfficeHub Empty W

/-- Checks the settings. -/
def open? (settings : Settings) (outside : Outside W) : Except SettingsError (Herald W) :=
  match settings.validate, settings.senderMailbox with
  | .error e, _ => .error e
  | .ok (), .error e => .error e
  | .ok (), .ok sender => .ok ⟨settings, sender, outside⟩

variable (h : Herald W)

/-- A web service as the settings say that it is to be asked. -/
def link (service : Service) (access : Access) : Provider W :=
  let once := service.provider access h.settings.httpTimeout.ms h.outside.client
  if h.settings.retryMax = 0 then once
  else once.retrying h.settings.retryMax Backoff.standard h.outside.draw

/-- The enabled web services, in order. -/
def chain (publish : Publisher (Listener Empty) (Office W)) : Chain (HeraldHub W) where
  providers := h.settings.enabled.map fun (service, access) =>
    (h.link service access).on Office.worldPart
  announce := publish.announce Hub.mainBus

/-- Where the herald keeps subscriptions. -/
def records : Collection Subscription :=
  Collection.below Codec.subscription h.settings.dataDir

/-- The staff of the herald. -/
def staff : Staff Empty W where
  provider publish := (h.chain publish).provider
  repository := (Repository.ofCollection h.records).on Office.diskPart
  guest _ g _ := nomatch g

/-- The notifier of the herald. -/
def notifier : Notifier (Listener Empty) (Office W) where
  publish := h.staff.publisher
  repository := h.staff.repository
  mailer m := (h.outside.mailer m).on Office.worldPart
  clock := h.outside.clock.on Office.worldPart
  sender := h.sender
  timeout := h.settings.requestTimeout

/-- The hub when the office opens. -/
def openingHub (disk : Disk) (world : W) : HeraldHub W :=
  Office.registerSubscriberDesk <| Office.registerRateDesk <|
    Hub.ofDispatch h.settings.dispatch ⟨Tally.empty, disk, world⟩

/-- The pair that is meant. -/
def topic (named : Option Pair) : Pair :=
  named.getD h.settings.topic

end Herald

end RateHerald
