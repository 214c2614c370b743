import RateHerald.Events.Publish
import RateHerald.Rates.Provider

/-!
# Chains of providers

A chain asks its providers one after another until one knows the rate. After each of them was asked
the chain announces how that went; what becomes of the announcement does not matter to the chain. A
chain is a provider itself, so chains can be links of chains.

## Main declarations

* `Chain`, `Chain.next`, `Chain.drop` and `Chain.names`.
* `Chain.fetch` asks the providers, `Chain.provider` is the chain as a provider.
* `Publisher.announce` announces on a bus.
-/

namespace RateHerald

/-- Providers to be asked in order. -/
structure Chain (σ : Type) where
  /-- The providers. -/
  providers : List (Provider σ)
  /-- Tells how a provider did. -/
  announce : Payload → Job σ Unit

namespace Chain

variable {σ : Type}

/-- The chain without its first provider. -/
def next (c : Chain σ) : Chain σ :=
  { c with providers := c.providers.tail }

/-- The chain without its first `n` providers. -/
def drop (c : Chain σ) : Nat → Chain σ
  | 0 => c
  | n + 1 => c.next.drop n

/-- The names of the providers. -/
def names (c : Chain σ) : List String :=
  c.providers.map Provider.name

/-- The chain in words. -/
def toText (c : Chain σ) : String :=
  "ProviderChain \x7b providers: [" ++ Text.joinWith ", " (c.names.map Text.quoted) ++ "] \x7d"

/-- What is to be said when no provider is left; `last` is the last one that was asked. -/
def exhausted (last : Option (String × RateError)) : RateError :=
  match last with
  | some (name, e) => .unavailable name e
  | none => .noProviders

/-- Asks providers in order, announcing how each of them did. -/
def fetchFrom (announce : Payload → Job σ Unit) (pair : Pair) (last : Option (String × RateError)) :
    List (Provider σ) → Job σ (Except RateError Rate)
  | [] => .done (.error (exhausted last))
  | p :: rest => do
    match ← p.fetch pair with
    | .ok rate =>
      announce (.providerFetched p.name rate)
      return .ok rate
    | .error e =>
      announce (.providerFailed p.name pair e.message)
      fetchFrom announce pair (some (p.name, e)) rest

/-- Asks for the rate of a pair, if that is a pair of currencies. -/
def fetch (c : Chain σ) (pair : Pair) : Job σ (Except RateError Rate) :=
  match pair.validate with
  | .error e => .done (.error (.ofInput e))
  | .ok () => fetchFrom c.announce pair none c.providers

/-- The chain as a provider. -/
def provider (c : Chain σ) : Provider σ :=
  ⟨"chain", c.fetch⟩

end Chain

/-- Announces on a bus how a provider did, whether or not the listeners fail. -/
def Publisher.announce {L X : Type} (publish : Publisher L X) (bus : Nat) (payload : Payload) :
    HubJob L X Unit := do
  let _ ← publish.tell bus "rate.chain" payload.kind payload none

end RateHerald
