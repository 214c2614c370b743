import RateHerald.Access
import RateHerald.Rate
import RateHerald.Decimal.Reader
import RateHerald.Rates.Exchange
import RateHerald.Rates.RateError
import RateHerald.Url.Reader

/-!
# Web services that know rates

Five services can be asked. Each has its own form of question, which carries the two codes and the
key where one is wanted, and its own form of answer, a JSON record in which the rate is a number or
a text.

## Main declarations

* `Service` lists the services; `Service.name` and `Service.standardAccess`.
* `Service.question` puts the question.
* `Service.readRate` reads the answer.
-/

namespace RateHerald

/-- A web service that knows rates. -/
inductive Service where
  /-- Rates of one base, as a table. -/
  | exchangeRateHost
  /-- The rate of one pair, with a key in a header. -/
  | ninjas
  /-- The rate of one pair, with a key among the parameters. -/
  | alphaVantage
  /-- The rate of one pair that is named in the path. -/
  | coinApi
  /-- The price of a coin, as a text. -/
  | coinYep
deriving Repr, DecidableEq

namespace Service

/-- All services, in the order in which they are asked. -/
def all : List Service :=
  [.exchangeRateHost, .ninjas, .alphaVantage, .coinApi, .coinYep]

/-- The name of a service. -/
def name : Service → String
  | .exchangeRateHost => "exchangeratehost"
  | .ninjas => "ninjas"
  | .alphaVantage => "alphavantage"
  | .coinApi => "coinapi"
  | .coinYep => "coinyep"

/-- The service with a given name. -/
def ofName? (s : String) : Option Service :=
  all.find? (·.name == s)

/-- How a service is reached when nothing else is set; keys are never known in advance. -/
def standardAccess : Service → Access
  | .exchangeRateHost => ⟨"https://api.exchangerate.host/latest", "-", ""⟩
  | .ninjas => ⟨"https://api.api-ninjas.com/v1/exchangerate", "X-Api-Key", ""⟩
  | .alphaVantage =>
    ⟨"https://www.alphavantage.co/query?function=CURRENCY_EXCHANGE_RATE", "apikey", ""⟩
  | .coinApi => ⟨"https://rest.coinapi.io/v1/exchangerate", "X-CoinAPI-Key", ""⟩
  | .coinYep => ⟨"https://coinyep.com/api/v1/", "-", ""⟩

/-! ## Questions -/

/-- The endpoint of a service. -/
def endpoint (s : Service) (a : Access) : Except RateError Url :=
  match Url.parse a.endpoint with
  | .ok u => .ok u
  | .error e =>
    .error (.misconfigured s.name ("endpoint " ++ Text.quoted a.endpoint ++ ": " ++ e.message))

/-- The parameters by which a service is told the pair, and the key where it is a parameter. -/
def parameters (s : Service) (a : Access) (p : Pair) : List (String × String) :=
  match s with
  | .exchangeRateHost => [("from", p.base.code), ("to", p.quote.code)]
  | .ninjas => [("pair", p.base.code ++ "_" ++ p.quote.code)]
  | .alphaVantage =>
    [("from_currency", p.base.code), ("to_currency", p.quote.code)] ++ a.credentials.toList
  | .coinApi => []
  | .coinYep => [("from", p.base.code), ("to", p.quote.code), ("lang", "en"), ("format", "json")]

/-- The path that names a pair below another path, whose slashes at the end do not count. -/
def pathOfPair (path : List Char) (p : Pair) : List Char :=
  (path.reverse.dropWhile (· == '/')).reverse ++ '/' :: p.base.code.toList ++
    '/' :: p.quote.code.toList

/-- The address that is fetched. -/
def address (s : Service) (a : Access) (p : Pair) (u : Url) : Url :=
  match s with
  | .coinApi => u.withPath (pathOfPair u.pathChars p)
  | _ => u.appendQuery (s.parameters a p)

/-- Whether the key is sent in a header. -/
def keyInHeader : Service → Bool
  | .exchangeRateHost => true
  | .ninjas => true
  | .coinApi => true
  | _ => false

/-- The question for the rate of a pair. -/
def question (s : Service) (a : Access) (p : Pair) : Except RateError Question := do
  let u ← s.endpoint a
  let q := Question.get (s.address a p u).toText
  match a.credentials with
  | some (header, key) => .ok (if s.keyInHeader then q.withHeader header key else q)
  | none => .ok q

/-! ## Answers -/

/-- A table of rates; without one there are no rates. -/
def tableShape : Json.Shape (Option (List (String × Float))) (List (String × Float)) where
  name := "LatestResponse"
  fields := [
    { name := "rates"
      required := false
      isSet := Option.isSome
      read := fun _ c => do
        let (rates, c) ← Json.readMap Json.readFloat c
        .ok (some rates, c) }]
  empty := none
  finish := fun s => some (s.getD [])

/-- A record of one field. -/
def singleShape {α : Type} (name field : String) (reader : Json.Reader α) :
    Json.Shape (Option α) α where
  name := name
  fields := [.ofReader field reader id fun _ x => some x]
  empty := none
  finish := id

/-- The answer in which the rate is a text two records deep. -/
def realtimeShape : Json.Shape (Option String) String :=
  singleShape "ExchangeRateResponse" "Realtime Currency Exchange Rate"
    (singleShape "RealtimeRate" "5. Exchange Rate" Json.readText).read

/-- Reads an answer that has the form of a record. -/
def decodeAnswer {α : Type} (s : Service) (reader : Json.Reader α) (body : String) :
    Except RateError α :=
  match Json.decode reader body with
  | .ok x => .ok x
  | .error f => .error (.malformed s.name (f.describe body))

/-- Reads a rate from its text. -/
def readNumber (s : Service) (text : String) : Except RateError Float :=
  match Decimal.parse (Text.trimmed text) with
  | .ok x => .ok x
  | .error f => .error (.malformed s.name ("rate " ++ Text.quoted text ++ ": " ++ f.message))

/-- Reads the rate of a pair from an answer. -/
def readRate (s : Service) (p : Pair) (body : String) : Except RateError Float :=
  match s with
  | .exchangeRateHost => do
    let rates ← s.decodeAnswer tableShape.read body
    match rates.lookup p.quote.code with
    | some x => .ok x
    | none => .error (.malformed s.name ("no " ++ p.quote.code ++ " rate in response"))
  | .ninjas => s.decodeAnswer (singleShape "PairResponse" "exchange_rate" Json.readFloat).read body
  | .alphaVantage => do
    let text ← s.decodeAnswer realtimeShape.read body
    s.readNumber text
  | .coinApi => s.decodeAnswer (singleShape "RateResponse" "rate" Json.readFloat).read body
  | .coinYep => do
    let text ← s.decodeAnswer (singleShape "PriceResponse" "price" Json.readText).read body
    s.readNumber text

end Service

end RateHerald
