import RateHerald.Mailbox
import RateHerald.Rate
import RateHerald.Stamp

/-!
# Messages

The mail that tells a subscriber the current rate of a pair.
-/

namespace RateHerald

/-- A mail. -/
structure Message where
  /-- The sender, if one is set. -/
  sender : Option Mailbox
  /-- The recipient. -/
  recipient : Mailbox
  /-- The subject line. -/
  subject : String
  /-- The text. -/
  body : String
deriving Repr, DecidableEq

namespace Message

/-- The subject of a mail about `pair`. -/
def subjectOf (pair : Pair) (stamp : Stamp) : String :=
  pair.toText ++ " exchange rate at " ++ stamp.toText

/-- The text of a mail about a rate: the number has six places. -/
def bodyOf (value : Float) : String :=
  "Current exchange rate: " ++ Decimal.fixed 6 value

/-- The mail that tells `recipient` the rate of a pair. -/
def compose (sender : Option Mailbox) (rate : Rate) (recipient : Mailbox) (stamp : Stamp) :
    Message where
  sender := sender
  recipient := recipient
  subject := subjectOf rate.pair stamp
  body := bodyOf rate.value

/-- The record of a mail. -/
def toJson (m : Message) : Json :=
  .object [
    ("from", match m.sender with
      | some sender => sender.toJson
      | none => .null),
    ("to", m.recipient.toJson), ("subject", .text m.subject), ("body", .text m.body)]

end Message

end RateHerald
