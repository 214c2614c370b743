import RateHerald.Rehearsal.Act

/-!
# The cast of a rehearsal

The providers of a rehearsal are described by scripts: one that speaks from lines, a web service
that is answered from prepared replies, a chain of others, or another that is asked again. To cast
them is to give everyone who speaks a place in the list of calls, every correspondent a place in the
list of turns, and every chain that wants one a bus of its own.

## Main declarations

* `ProviderScript` describes a provider.
* `Casting` counts the places that are taken, `ProviderScript.cast` takes places.
* `Rehearsal` is all of a rehearsal, `Rehearsal.scene` how it begins.
-/

namespace RateHerald

/-- The description of a provider. -/
inductive ProviderScript where
  /-- Speaks from lines, then gives `lasting` or fails; each call takes some milliseconds. -/
  | speaker (name : String) (lines : List Line) (lasting : Option Float) (delay : Nat)
  /-- A web service that is answered from prepared replies. -/
  | service (which : Service) (access : Access) (timeout : Nat) (replies : List Reply)
  /-- A chain, which announces on the main bus or on a bus of its own. -/
  | chain (links : List ProviderScript) (ownBus : Bool)
  /-- Another that is asked again. -/
  | retried (inner : ProviderScript) (maxRetries : Nat) (backoff : Backoff)

/-- A provider in a rehearsal, given how it can publish. -/
abbrev SceneProvider := ScenePublisher → Provider Scene

/-- The places that are taken. -/
structure Casting where
  /-- The names of those who speak. -/
  speakers : List String
  /-- How many correspondents there are. -/
  correspondents : Nat
  /-- How many buses there are. -/
  buses : Nat
deriving Repr, DecidableEq

namespace ProviderScript

mutual

/-- The provider that a script describes, and the places that are taken then. -/
def cast : ProviderScript → Casting → SceneProvider × Casting
  | .speaker name lines lasting delay, c =>
    (fun _ => (Stage.speaker c.speakers.length name lines lasting delay).on Office.worldPart,
      { c with speakers := c.speakers ++ [name] })
  | .service which access timeout replies, c =>
    (fun _ => (which.provider access timeout
        (Stage.correspondent c.correspondents replies)).on Office.worldPart,
      { c with correspondents := c.correspondents + 1 })
  | .chain links ownBus, c =>
    let bus := if ownBus then c.buses else Hub.mainBus
    let (links, after) := castAll links { c with buses := c.buses + (if ownBus then 1 else 0) }
    (fun publish => (Chain.mk (links.map fun link => link publish) (publish.announce bus)).provider,
      after)
  | .retried inner maxRetries backoff, c =>
    let (inner, after) := cast inner c
    (fun publish => (inner publish).retrying maxRetries backoff (.done 1.0), after)

/-- The providers that scripts describe, and the places that are taken then. -/
def castAll : List ProviderScript → Casting → List SceneProvider × Casting
  | [], c => ([], c)
  | script :: rest, c =>
    let (first, c) := cast script c
    let (others, c) := castAll rest c
    (first :: others, c)

end

end ProviderScript

/-- Who plays in a rehearsal. -/
structure Rehearsal where
  /-- The providers. -/
  providers : List SceneProvider
  /-- The places that they take. -/
  casting : Casting
  /-- Where subscriptions are kept. -/
  repository : Repository Scene

namespace Rehearsal

/-- A rehearsal with the providers that scripts describe. -/
def ofScripts (scripts : List ProviderScript) (repository : Repository Scene) : Rehearsal :=
  let (providers, casting) := ProviderScript.castAll scripts ⟨[], 0, 1⟩
  ⟨providers, casting, repository⟩

variable (r : Rehearsal)

/-- The chain of all providers. -/
def chain (publish : ScenePublisher) : Chain Scene :=
  ⟨r.providers.map fun p => p publish, publish.announce Hub.mainBus⟩

/-- The staff of the office in which the rehearsal takes place. -/
def staff : Staff Guest Stage where
  provider publish := (r.chain publish).provider
  repository := r.repository
  guest publish guest e := guest.hear publish e

/-- How events are published. -/
def publisher : ScenePublisher :=
  r.staff.publisher

/-- The stage when the rehearsal begins. -/
def stage (members : List Subscription) : Stage :=
  { Stage.empty with
    calls := r.casting.speakers.map fun name => (name, 0)
    turns := List.replicate r.casting.correspondents 0
    members := members }

/-- The scene when the rehearsal begins, before anybody listens. -/
def scene (dispatch : Dispatch) (disk : Disk) (members : List Subscription) : Scene :=
  let hub := Hub.ofDispatch dispatch ⟨Tally.empty, disk, r.stage members⟩
  { hub with
    buses := hub.buses ++ List.replicate (r.casting.buses - 1) (Bus.empty .sequential) }

/-- Registers a guest. -/
def invite (kind : Kind) (guest : Guest) (scene : Scene) : Scene :=
  scene.listen Hub.mainBus kind (.guest guest)

/-- The scene with those who listen: one who writes down how providers did, the rate desk if
`rates`, guests, and the subscriber desk if `subscribers`, in this order. -/
def attend (rates subscribers : Bool) (guests : List (Kind × Guest)) (scene : Scene) : Scene :=
  let scene := invite .providerFailed .writer (invite .providerFetched .writer scene)
  let scene := if rates then Office.registerRateDesk scene else scene
  let scene := guests.foldl (fun scene (kind, guest) => invite kind guest scene) scene
  if subscribers then Office.registerSubscriberDesk scene else scene

/-- The notifier of a rehearsal, whose clock stands still. -/
def notifier (mailer : Mailer Stage) (sender : Option Mailbox) (timeout : Nat) :
    Notifier Attendant (Office Stage) where
  publish := r.publisher
  repository := r.repository
  mailer m := (mailer m).on Office.worldPart
  clock := .done ⟨0, 0⟩
  sender := sender
  timeout := .ofMs timeout

end Rehearsal

end RateHerald
