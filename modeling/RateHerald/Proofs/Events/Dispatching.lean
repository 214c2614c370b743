import Mathlib.Algebra.Order.Group.Multiset
import RateHerald.Proofs.Events.Answers
import RateHerald.Proofs.Timed.Steady

/-!
# The two ways to call listeners

The listeners to an event are called one after another or all at once. If what a listener comes to
depends on the event alone, the two ways differ in nothing but the time that passes. To tell who was
called, every call is written down before the listener does anything else, `Handler.noting`; the
listeners are free to change the hub as they like, and may register others while the event is being
published.

## Main declarations

* `Dispatch.span`: how long calls take that take so long each.
* `Handler.noting`: listeners that are written down when they are called.
* `Handler.publishes_either_way`: what publishing comes to, who is called, and how long it takes.
-/

namespace RateHerald

variable {L X σ α κ N : Type} [AddCommMonoid N]

/-! ## Durations -/

/-- How long calls take that take so long each. -/
def Dispatch.span : Dispatch → List Nat → Nat
  | .sequential, delays => delays.sum
  | .concurrent, delays => delays.foldr max 0

theorem Dispatch.takes_perform [Nonempty σ] (d : Dispatch) {log : σ → N} {keys : List κ}
    {call : κ → Job σ α} {delay : κ → Nat} {result : κ → α} {added : κ → N}
    (h : ∀ k ∈ keys, (call k).Takes log (delay k) (result k) (added k)) :
    (d.perform (keys.map call)).Takes log (d.span (keys.map delay)) (keys.map result)
      (keys.map added).sum := by
  cases d with
  | sequential => exact .inTurn h
  | concurrent => exact .all h

/-! ## Failures -/

theorem failures_map_eq_nil {ε : Type} {keys : List κ} {outcome : κ → Except ε Unit} :
    failures (keys.map outcome) = [] ↔ ∀ k ∈ keys, outcome k = .ok () := by
  rw [failures, List.filterMap_eq_nil_iff, List.forall_mem_map]
  refine forall₂_congr fun k _ => ?_
  cases outcome k <;> simp

/-- All listeners succeed, or their failures are told in order. -/
theorem gather_eq (kind : Kind) (results : List (Except BusError Unit)) :
    gather kind results =
      if failures results = [] then .ok () else .error (.dispatch kind (failures results)) := by
  rw [gather]
  split
  · next h => rw [if_pos h]
  · next errors h => rw [if_neg h]

/-! ## Calls that are written down -/

/-- The calls that were written down: who was called, and for which event. -/
def Hub.calls (hub : Hub L (X × List (L × Event))) : List (L × Event) :=
  hub.outside.2

/-- The calls that were written down, in any order. -/
def Hub.callBag (hub : Hub L (X × List (L × Event))) : Multiset (L × Event) :=
  hub.calls

/-- Writes down a call. -/
def Hub.noteCall (listener : L) (e : Event) (hub : Hub L (X × List (L × Event))) :
    Hub L (X × List (L × Event)) :=
  { hub with outside := (hub.outside.1, hub.outside.2 ++ [(listener, e)]) }

/-- Every listener is written down when it is called, before it does anything else. -/
def Handler.noting (handle : Handler L (X × List (L × Event))) :
    Handler L (X × List (L × Event)) := fun publish listener e =>
  .act (fun _ => Hub.noteCall listener e) fun _ _ => handle publish listener e

/-- The hub when the listeners on a bus are called in the given way. -/
def Hub.dispatching (i : Nat) (d : Dispatch) (hub : Hub L X) : Hub L X :=
  hub.onBus i fun bus => { bus with dispatch := d }

/-- What a listener comes to and how long it takes is settled by the event; whatever else it does,
it calls nobody. -/
def Handler.Settles (handle : Handler L (X × List (L × Event))) (depth : Nat) (listener : L)
    (e : Event) (delay : Nat) (outcome : Except BusError Unit) : Prop :=
  (handle (handle.noting.publisher depth) listener e).Takes Hub.callBag delay outcome 0

/-- The listeners are the same however they are called. -/
theorem Hub.listenersTo_dispatching (i : Nat) (d : Dispatch) (hub : Hub L X) (kind : Kind) :
    ((hub.dispatching i d).bus i).listenersTo kind = (hub.bus i).listenersTo kind := by
  rw [dispatching, bus_onBus]
  split <;> rfl

/-- A bus that nobody listens to may be called in any way. -/
theorem Hub.span_dispatching (i : Nat) (d : Dispatch) (hub : Hub L X) (kind : Kind)
    (delay : L → Nat) :
    ((hub.dispatching i d).bus i).dispatch.span (((hub.bus i).listenersTo kind).map delay) =
      d.span (((hub.bus i).listenersTo kind).map delay) := by
  rw [dispatching, bus_onBus]
  split
  · rfl
  · next hnone =>
    have hempty : hub.bus i = Bus.empty .sequential := by
      have hle : hub.buses.length ≤ i := Nat.not_lt.1 fun hlt => hnone ⟨rfl, hlt⟩
      rw [bus, List.getD_eq_getElem?_getD, List.getElem?_eq_none hle, Option.getD_none]
    rw [hempty]
    cases d <;> rfl

/-- What is written down of several calls, one record for each. -/
theorem sum_map_singleton {ι : Type} (keys : List κ) (f : κ → ι) :
    (keys.map fun k => ({f k} : Multiset ι)).sum = (keys.map f : Multiset ι) := by
  induction keys with
  | nil => rfl
  | cons k keys ih =>
    rw [List.map_cons, List.sum_cons, ih, List.map_cons, Multiset.singleton_add, Multiset.cons_coe]

/-- Calls that are written down take as long as without. -/
theorem Handler.Settles.noting {handle : Handler L (X × List (L × Event))} {depth : Nat}
    {listener : L} {e : Event} {delay : Nat} {outcome : Except BusError Unit}
    (h : handle.Settles depth listener e delay outcome) :
    (handle.noting (handle.noting.publisher depth) listener e).Takes Hub.callBag delay outcome
      {(listener, e)} := by
  have hnoted : ∀ hub : Hub L (X × List (L × Event)),
      (hub.noteCall listener e).callBag = hub.callBag + {(listener, e)} :=
    fun hub => (Multiset.coe_add hub.calls [(listener, e)]).symm
  have hact := Job.Takes.act hnoted h
  rwa [add_zero] at hact

/-- Publishing to listeners that each depend on the event alone comes to the same in both ways to
call them. Those who are called are the listeners that were registered for the kind of the event
when publishing began, each of them once; all of them succeed, or their failures are told in the
order in which they were registered. -/
theorem Handler.publishes_either_way (handle : Handler L (X × List (L × Event))) (depth i : Nat)
    (e : Event) (delay : L → Nat) (outcome : L → Except BusError Unit) (m : Moment)
    (hub : Hub L (X × List (L × Event)))
    (h : ∀ listener ∈ (hub.bus i).listenersTo e.kind,
      handle.Settles depth listener e (delay listener) (outcome listener)) :
    let called := (hub.bus i).listenersTo e.kind
    ∃ result : Except BusError Unit,
      (∀ d : Dispatch, ∃ m' hub',
        (handle.noting.publisher (depth + 1) i e).Ends m (hub.dispatching i d) result m' hub' ∧
          m'.ms = m.ms + d.span (called.map delay) ∧
          hub'.calls.Perm (hub.calls ++ called.map fun listener => (listener, e))) ∧
      (result = .ok () ↔ ∀ listener ∈ called, outcome listener = .ok ()) ∧
      ∀ error, result = .error error →
        error = .dispatch e.kind (failures (called.map outcome)) := by
  intro called
  refine ⟨gather e.kind (called.map outcome), fun d => ?_, ?_, fun error herror => ?_⟩
  · have : Nonempty (Hub L (X × List (L × Event))) := ⟨hub⟩
    have hcalls := Dispatch.takes_perform ((hub.dispatching i d).bus i).dispatch
      fun listener hmem => (h listener hmem).noting
    obtain ⟨m', hub', hends, hms, hlog⟩ :=
      hcalls.ends m ((hub.dispatching i d).onBus i Bus.countPublished)
    refine ⟨m', hub', Publisher.ends_ofCall ?_, ?_, ?_⟩
    · rwa [Hub.listenersTo_dispatching]
    · rw [hms, Hub.span_dispatching]
    · rw [sum_map_singleton] at hlog
      exact Multiset.coe_eq_coe.1 (hlog.trans (Multiset.coe_add _ _))
  · rw [gather_eq, ← failures_map_eq_nil]
    by_cases hnone : failures (called.map outcome) = [] <;> simp [hnone]
  · rw [gather_eq] at herror
    split at herror
    · cases herror
    · cases herror
      rfl

/-- Listeners that register themselves once more for whatever they are called for, and are done
after some milliseconds. -/
def Handler.rejoining :
    Handler (Nat × Except BusError Unit) (Unit × List ((Nat × Except BusError Unit) × Event)) :=
  fun _ listener e =>
    .act (fun _ => Hub.listen 0 e.kind listener) fun _ _ =>
      (Job.sleep listener.1).bind fun _ => .done listener.2

theorem Handler.settles_rejoining (depth : Nat) (listener : Nat × Except BusError Unit)
    (e : Event) : Handler.rejoining.Settles depth listener e listener.1 listener.2 := by
  refine .act_silent (fun _ => rfl) ?_
  exact (Job.Takes.sleep Hub.callBag listener.1).map fun _ => listener.2

/-- Three listeners to one event, of which two fail, and the one that fails first in the list is
the last to finish. A fourth one listens to something else. -/
theorem Handler.publishes_either_way_of_failures :
    let topic := Pair.ofTexts "btc" "uah"
    let slow : Nat × Except BusError Unit := (30, .error .noChannel)
    let quick : Nat × Except BusError Unit := (10, .error .channelFull)
    let fine : Nat × Except BusError Unit := (20, .ok ())
    let hub : Hub (Nat × Except BusError Unit) (Unit × List _) :=
      ((((Hub.ofDispatch .sequential ((), [])).listen 0 .rateRequested slow).listen 0
        .rateRequested quick).listen 0 .providerFailed fine).listen 0 .rateRequested fine
    let e : Event := ⟨0, none, "herald", .rateRequested, .rateRequested topic, none⟩
    ∃ result : Except BusError Unit,
      (∀ d : Dispatch, ∃ m' hub',
        (Handler.rejoining.noting.publisher 1 0 e).Ends Moment.start (hub.dispatching 0 d) result m'
          hub' ∧
          m'.ms = (match d with | .sequential => 60 | .concurrent => 30) ∧
          hub'.calls.Perm [(slow, e), (quick, e), (fine, e)]) ∧
      result = .error (.dispatch .rateRequested [.noChannel, .channelFull]) := by
  intro topic slow quick fine hub e
  obtain ⟨result, hends, hok, herror⟩ := Handler.publishes_either_way Handler.rejoining 0 0 e
    Prod.fst Prod.snd Moment.start hub fun listener _ => Handler.settles_rejoining 0 listener e
  refine ⟨result, fun d => ?_, ?_⟩
  · obtain ⟨m', hub', hend, hms, hcalls⟩ := hends d
    refine ⟨m', hub', hend, ?_, hcalls⟩
    rw [hms]
    cases d <;> rfl
  · cases result with
    | ok _ => exact nomatch hok.1 rfl slow (List.mem_cons_self (l := [quick, fine]))
    | error error => exact congrArg Except.error (herror error rfl)

end RateHerald
