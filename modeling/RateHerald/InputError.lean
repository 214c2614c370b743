/-!
# Faults in what a person typed

Currency codes and mail addresses come from people, by hand or from a file they wrote. There are
three ways in which such a text can be refused, each with a code for programs and a sentence for
people.
-/

namespace RateHerald

/-- Why a currency pair or a mail address is refused. -/
inductive InputError where
  /-- The text is not a currency pair, or a code in it is not acceptable. -/
  | invalidCurrency (text : String)
  /-- There is no mail address. -/
  | missingAddress
  /-- The text is not a mail address. -/
  | invalidAddress (text : String)
deriving Repr, DecidableEq

namespace InputError

/-- The code of the fault. -/
def code : InputError → String
  | .invalidCurrency _ => "INVALID_CURRENCY"
  | .missingAddress => "MISSING_EMAIL"
  | .invalidAddress _ => "INVALID_EMAIL"

/-- The fault in words. -/
def message : InputError → String
  | .invalidCurrency text => "invalid currency: " ++ text
  | .missingAddress => "missing email"
  | .invalidAddress text => "invalid email address: " ++ text

end InputError

end RateHerald
