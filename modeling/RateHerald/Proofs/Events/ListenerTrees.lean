import RateHerald.Proofs.Events.Dispatching
import RateHerald.Proofs.Timed.Sure

/-!
# Trees of listeners

A listener may publish in turn, and the listeners to what it publishes may do the same, so those who
are reached by an event form a tree. At its leaves are listeners that publish nothing and have
results of their own; the others publish something on the same bus and return what comes of it.

What comes of the whole tree is settled, although it is not settled in which order those who are
called all at once do their work. A failure at a leaf fails everybody above it, and the failure that
is returned at the root tells all of them: gone through from itself to those it was gathered from,
it names the failures at the leaves from left to right, in the order in which the listeners were
registered.

## Main declarations

* `ListenerTree`, with its `results` at the leaves, its `outcome`, and the `errors` in it.
* `ListenerTree.Fits`: a tree is the one that the listeners on a bus form.
* `ListenerTree.sure_noting`: who stands at the root of a tree is sure of its outcome.
* `ListenerTree.allErrors_outcome` and `ListenerTree.filterMap_errors`: what its outcome tells.
* `Handler.publishes_tree`: publishing to trees of listeners.
-/

namespace RateHerald

variable {L X : Type}

/-! ## What is gathered -/

/-- The failures that a result tells, itself first. -/
def allErrors : Except BusError Unit → List BusError
  | .ok () => []
  | .error e => e.flatten

theorem flattenAll_failures (results : List (Except BusError Unit)) :
    BusError.flattenAll (failures results) = results.flatMap allErrors := by
  induction results with
  | nil => rfl
  | cons result results ih =>
    rw [List.flatMap_cons, ← ih]
    rcases result with e | _ <;> rfl

/-- What is gathered tells that it was gathered, and then all that it was gathered from. -/
theorem allErrors_gather (kind : Kind) (results : List (Except BusError Unit)) :
    allErrors (gather kind results) =
      failures [gather kind results] ++ results.flatMap allErrors := by
  rw [← flattenAll_failures, gather]
  cases failures results <;> rfl

theorem failures_append {ε : Type} (results more : List (Except ε Unit)) :
    failures (results ++ more) = failures results ++ failures more :=
  List.filterMap_append

/-- That something was gathered is not reported by a listener itself. -/
theorem filterMap_failures_gather (kind : Kind) (results : List (Except BusError Unit)) :
    (failures [gather kind results]).filterMap BusError.listenerError? = [] := by
  rw [gather]
  cases failures results <;> rfl

theorem failures_eq_nil {ε : Type} {results : List (Except ε Unit)} :
    failures results = [] ↔ ∀ result ∈ results, result = .ok () := by
  have hmap : failures (results.map id) = [] ↔ ∀ result ∈ results, id result = .ok () :=
    failures_map_eq_nil
  rwa [List.map_id] at hmap

theorem gather_eq_ok_iff {kind : Kind} {results : List (Except BusError Unit)} :
    gather kind results = .ok () ↔ ∀ result ∈ results, result = .ok () := by
  rw [gather_eq, ← failures_eq_nil]
  split
  · next hnone => exact iff_of_true rfl hnone
  · next hsome => exact iff_of_false (by simp) hsome

/-- To wrap a failure makes no success of it. -/
theorem mapError_eq_ok_iff {ε ε' α : Type} {f : ε → ε'} {result : Except ε α} {a : α} :
    result.mapError f = .ok a ↔ result = .ok a := by
  constructor
  · intro h
    rcases result with e | b
    · cases h
    · cases h
      rfl
  · rintro rfl
    rfl

/-! ## Trees -/

/-- Something to be told on a bus. -/
structure Telling where
  /-- Who tells it. -/
  source : String
  /-- Its kind. -/
  kind : Kind
  /-- What it tells. -/
  payload : Payload
  /-- The channel on which an answer is expected. -/
  channel : Option Nat

/-- The event tells this. -/
def Telling.IsToldBy (told : Telling) (e : Event) : Prop :=
  ∃ id, e = ⟨id, none, told.source, told.kind, told.payload, told.channel⟩

/-- The listeners that are reached through one of them. -/
inductive ListenerTree (L : Type) where
  /-- A listener that has a result of its own. -/
  | leaf (listener : L) (result : Except ListenerError Unit)
  /-- A listener that tells something, and those who listen to that. -/
  | node (listener : L) (told : Telling) (branches : List (ListenerTree L))

namespace ListenerTree

/-- The listener at the root. -/
def root : ListenerTree L → L
  | .leaf listener _ => listener
  | .node listener _ _ => listener

mutual

/-- The results at the leaves, from left to right. -/
def results : ListenerTree L → List (Except ListenerError Unit)
  | .leaf _ result => [result]
  | .node _ _ branches => resultsOf branches

/-- The results at the leaves of several trees. -/
def resultsOf : List (ListenerTree L) → List (Except ListenerError Unit)
  | [] => []
  | t :: rest => t.results ++ resultsOf rest

end

mutual

/-- The listeners in the tree. -/
def members : ListenerTree L → List L
  | .leaf listener _ => [listener]
  | .node listener _ branches => listener :: membersOf branches

/-- The listeners in several trees. -/
def membersOf : List (ListenerTree L) → List L
  | [] => []
  | t :: rest => t.members ++ membersOf rest

end

mutual

/-- How deep events are nested below the root. -/
def height : ListenerTree L → Nat
  | .leaf _ _ => 0
  | .node _ _ branches => heightOf branches + 1

/-- How deep events are nested below the roots of several trees. -/
def heightOf : List (ListenerTree L) → Nat
  | [] => 0
  | t :: rest => max t.height (heightOf rest)

end

mutual

/-- What the listener at the root returns. -/
def outcome : ListenerTree L → Except BusError Unit
  | .leaf _ result => result.mapError .listener
  | .node _ told branches => gather told.kind (outcomes branches)

/-- What the listeners at the roots of several trees return. -/
def outcomes : List (ListenerTree L) → List (Except BusError Unit)
  | [] => []
  | t :: rest => t.outcome :: outcomes rest

end

mutual

/-- The failures that listeners in the tree return, each before those below it. -/
def errors : ListenerTree L → List BusError
  | .leaf listener result => failures [(leaf listener result).outcome]
  | .node listener told branches =>
    failures [(node listener told branches).outcome] ++ errorsOf branches

/-- The failures that listeners in several trees return. -/
def errorsOf : List (ListenerTree L) → List BusError
  | [] => []
  | t :: rest => t.errors ++ errorsOf rest

end

theorem outcomes_eq_map (ts : List (ListenerTree L)) : outcomes ts = ts.map outcome := by
  induction ts with
  | nil => rfl
  | cons t ts ih => rw [outcomes, ih, List.map_cons]

/-! ## What the outcome tells -/

mutual

/-- The outcome of a tree tells the failures in it. -/
theorem allErrors_outcome (t : ListenerTree L) : allErrors t.outcome = t.errors := by
  match t with
  | .leaf _ (.ok ()) => rfl
  | .leaf _ (.error _) => rfl
  | .node listener told branches =>
    rw [errors, ← allErrors_outcomes branches, outcome, allErrors_gather]

theorem allErrors_outcomes (ts : List (ListenerTree L)) :
    (outcomes ts).flatMap allErrors = errorsOf ts := by
  match ts with
  | [] => rfl
  | t :: rest =>
    rw [outcomes, List.flatMap_cons, errorsOf, allErrors_outcome t, allErrors_outcomes rest]

end

mutual

/-- Of the failures in a tree, those that listeners reported are those at the leaves. -/
theorem filterMap_errors (t : ListenerTree L) :
    t.errors.filterMap BusError.listenerError? = failures t.results := by
  match t with
  | .leaf _ (.ok ()) => rfl
  | .leaf _ (.error _) => rfl
  | .node listener told branches =>
    rw [errors, results, List.filterMap_append, outcome, filterMap_failures_gather, List.nil_append,
      filterMap_errorsOf branches]

theorem filterMap_errorsOf (ts : List (ListenerTree L)) :
    (errorsOf ts).filterMap BusError.listenerError? = failures (resultsOf ts) := by
  match ts with
  | [] => rfl
  | t :: rest =>
    rw [errorsOf, resultsOf, List.filterMap_append, failures_append, filterMap_errors t,
      filterMap_errorsOf rest]

end

mutual

/-- A tree succeeds if all its leaves do. -/
theorem outcome_eq_ok_iff (t : ListenerTree L) :
    t.outcome = .ok () ↔ ∀ result ∈ t.results, result = .ok () := by
  match t with
  | .leaf _ result =>
    rw [results, List.forall_mem_singleton, outcome]
    exact mapError_eq_ok_iff
  | .node listener told branches =>
    rw [outcome, results, gather_eq_ok_iff]
    exact outcomes_eq_ok_iff branches

theorem outcomes_eq_ok_iff (ts : List (ListenerTree L)) :
    (∀ result ∈ outcomes ts, result = .ok ()) ↔ ∀ result ∈ resultsOf ts, result = .ok () := by
  match ts with
  | [] => exact iff_of_true (List.forall_mem_nil _) (List.forall_mem_nil _)
  | t :: rest =>
    rw [outcomes, resultsOf, List.forall_mem_cons, List.forall_mem_append, outcome_eq_ok_iff t,
      outcomes_eq_ok_iff rest]

end

end ListenerTree

/-! ## Trees on a bus -/

/-- The listeners on a bus are those of a given one. -/
def Hub.KeepsListeners (i : Nat) (bus : Bus L) (hub : Hub L X) : Prop :=
  (hub.bus i).listeners = bus.listeners

/-- Those who were called, as often as they were, in any order. -/
def Hub.calledBag (hub : Hub L (X × List (L × Event))) : Multiset L :=
  hub.calls.map Prod.fst

theorem Hub.KeepsListeners.listenersTo {i : Nat} {bus : Bus L} {hub : Hub L X}
    (h : hub.KeepsListeners i bus) (kind : Kind) :
    (hub.bus i).listenersTo kind = bus.listenersTo kind := by
  rw [Bus.listenersTo, h, Bus.listenersTo]

theorem Hub.KeepsListeners.countPublished {i : Nat} {bus : Bus L} {hub : Hub L X}
    (h : hub.KeepsListeners i bus) : (hub.onBus i Bus.countPublished).KeepsListeners i bus :=
  ((Hub.alike_countPublished i hub).listeners i).trans h

theorem Hub.keepsListeners_dispatching (i : Nat) (d : Dispatch) (hub : Hub L X) :
    (hub.dispatching i d).KeepsListeners i (hub.bus i) := by
  rw [KeepsListeners, dispatching, bus_onBus]
  split <;> rfl

theorem Hub.calledBag_noteCall (listener : L) (e : Event) (hub : Hub L (X × List (L × Event))) :
    (hub.noteCall listener e).calledBag = hub.calledBag + {listener} := by
  have hcalls : (hub.noteCall listener e).calls = hub.calls ++ [(listener, e)] := rfl
  rw [calledBag, hcalls, List.map_append, ← Multiset.coe_add]
  rfl

namespace ListenerTree

mutual

/-- A tree is the one that listeners on a bus form, when the listener at its root is called for what
it hears: a leaf comes to its result by itself, and the others tell something on the bus and return
what comes of it. -/
def Fits (handle : Handler L (X × List (L × Event))) (i : Nat) (bus : Bus L) :
    (Event → Prop) → ListenerTree L → Prop
  | heard, .leaf listener result => ∀ publish e, heard e →
    (handle publish listener e).Sure (Hub.KeepsListeners i bus) Hub.calledBag
      (result.mapError .listener) 0
  | heard, .node listener told branches =>
    (∀ publish e, heard e → handle publish listener e =
      publish.tell i told.source told.kind told.payload told.channel) ∧
      bus.listenersTo told.kind = branches.map root ∧
      AllFit handle i bus told.IsToldBy branches

/-- Several trees are those that listeners on a bus form. -/
def AllFit (handle : Handler L (X × List (L × Event))) (i : Nat) (bus : Bus L) :
    (Event → Prop) → List (ListenerTree L) → Prop
  | _, [] => True
  | heard, t :: rest => Fits handle i bus heard t ∧ AllFit handle i bus heard rest

end

theorem sum_members (ts : List (ListenerTree L)) :
    (ts.map fun t => (t.members : Multiset L)).sum = membersOf ts := by
  induction ts with
  | nil => rfl
  | cons t ts ih => rw [List.map_cons, List.sum_cons, ih, membersOf, Multiset.coe_add]

variable {handle : Handler L (X × List (L × Event))} {i : Nat} {bus : Bus L}

/-- What comes of an event is sure if what comes of the trees below it is. -/
theorem sure_ofCall {call : L → Event → HubJob L (X × List (L × Event)) (Except BusError Unit)}
    {e : Event} {ts : List (ListenerTree L)} (hroots : bus.listenersTo e.kind = ts.map root)
    (h : ∀ t ∈ ts, (call t.root e).Sure (Hub.KeepsListeners i bus) Hub.calledBag t.outcome
      (t.members : Multiset L)) :
    (Publisher.ofCall call i e).Sure (Hub.KeepsListeners i bus) Hub.calledBag
      (gather e.kind (outcomes ts)) (membersOf ts : Multiset L) := by
  have hperform : ∀ d : Dispatch,
      (d.perform (ts.map fun t => call t.root e)).Sure (Hub.KeepsListeners i bus) Hub.calledBag
        (outcomes ts) (membersOf ts : Multiset L) := by
    intro d
    rw [← sum_members, outcomes_eq_map]
    cases d with
    | sequential => exact .inTurn h
    | concurrent => exact .all h
  refine .act_silent (fun _ hub hkept => ⟨hkept.countPublished, rfl⟩) fun _ hub hkept => ?_
  have hcalled : (hub.bus i).listenersTo e.kind = ts.map root := (hkept.listenersTo _).trans hroots
  have hcalls := (hperform (hub.bus i).dispatch).map (gather e.kind)
  rw [Job.done_bind, hcalled, List.map_map]
  exact hcalls

/-- A listener that is sure of its result is so when its calls are written down. -/
theorem sure_noted {publish : Publisher L (X × List (L × Event))} {listener : L} {e : Event}
    {outcome : Except BusError Unit} {more : List L}
    (h : (handle publish listener e).Sure (Hub.KeepsListeners i bus) Hub.calledBag outcome
      (more : Multiset L)) :
    (handle.noting publish listener e).Sure (Hub.KeepsListeners i bus) Hub.calledBag outcome
      (listener :: more : List L) := by
  rw [← Multiset.cons_coe, ← Multiset.singleton_add]
  exact .act (fun _ _ hkept => hkept) (fun _ hub _ => hub.calledBag_noteCall listener e)
    fun _ _ _ => h

mutual

/-- Whoever stands at the root of a tree is sure of its outcome, and that all its members are
called. -/
theorem sure_noting {heard : Event → Prop} {depth : Nat} {e : Event} (t : ListenerTree L)
    (hfits : Fits handle i bus heard t) (hdepth : t.height ≤ depth) (hheard : heard e) :
    (handle.noting (handle.noting.publisher depth) t.root e).Sure (Hub.KeepsListeners i bus)
      Hub.calledBag t.outcome (t.members : Multiset L) := by
  match t, depth, hfits, hdepth with
  | .leaf listener result, _, hfits, _ => exact sure_noted (hfits _ e hheard)
  | .node listener told branches, depth + 1, ⟨htells, hroots, hbranches⟩, hdepth =>
    refine sure_noted ?_
    rw [htells _ e hheard]
    refine .act_silent (fun _ _ hkept => ⟨hkept, rfl⟩) fun _ hub _ => ?_
    exact sure_ofCall hroots
      (all_sure_noting branches hbranches (Nat.le_of_succ_le_succ hdepth) ⟨hub.events, rfl⟩)

theorem all_sure_noting {heard : Event → Prop} {depth : Nat} {e : Event}
    (ts : List (ListenerTree L)) (hfit : AllFit handle i bus heard ts)
    (hdepth : heightOf ts ≤ depth) (hheard : heard e) :
    ∀ t ∈ ts, (handle.noting (handle.noting.publisher depth) t.root e).Sure
      (Hub.KeepsListeners i bus) Hub.calledBag t.outcome (t.members : Multiset L) := by
  match ts, hfit, hdepth with
  | [], _, _ => exact List.forall_mem_nil _
  | t :: rest, ⟨hfits, hrest⟩, hdepth =>
    rw [heightOf, Nat.max_le] at hdepth
    refine List.forall_mem_cons.2 ⟨sure_noting t hfits hdepth.1 hheard, ?_⟩
    exact all_sure_noting rest hrest hdepth.2 hheard

end

end ListenerTree

/-- Publishing to trees of listeners, in both ways to call them. Everybody in the trees is called
once. All leaves succeed, or the failure that is returned tells the failures of the leaves in order;
what it is asked is answered from all failures in the trees. -/
theorem Handler.publishes_tree (handle : Handler L (X × List (L × Event))) (depth i : Nat)
    (e : Event) (ts : List (ListenerTree L)) (m : Moment) (hub : Hub L (X × List (L × Event)))
    (hroots : (hub.bus i).listenersTo e.kind = ts.map ListenerTree.root)
    (hfit : ListenerTree.AllFit handle i (hub.bus i) (· = e) ts)
    (hdepth : ListenerTree.heightOf ts ≤ depth) :
    let failed := failures (ListenerTree.resultsOf ts)
    ∃ result : Except BusError Unit,
      (∀ d : Dispatch, ∃ m' hub',
        (handle.noting.publisher (depth + 1) i e).Ends m (hub.dispatching i d) result m' hub' ∧
          (hub'.calls.map Prod.fst).Perm
            (hub.calls.map Prod.fst ++ ListenerTree.membersOf ts)) ∧
      (result = .ok () ↔ ∀ own ∈ ListenerTree.resultsOf ts, own = .ok ()) ∧
      ∀ error, result = .error error →
        error.flatten = error :: ListenerTree.errorsOf ts ∧
        error.flatten.filterMap BusError.listenerError? = failed ∧
        (∀ p : BusError → Bool, error.any p = true ↔
          ∃ inner ∈ error :: ListenerTree.errorsOf ts, p inner = true) ∧
        ∀ {α : Type} (pick : ListenerError → Option α),
          error.findListenerError? pick = failed.findSome? pick ∧
          (error.findListenerError? pick = none ↔ ∀ cause ∈ failed, pick cause = none) := by
  intro failed
  have hsure := ListenerTree.sure_ofCall hroots
    (ListenerTree.all_sure_noting ts hfit hdepth (rfl : e = e))
  refine ⟨gather e.kind (ListenerTree.outcomes ts), fun d => ?_, ?_, fun error herror => ?_⟩
  · obtain ⟨m', hub', hends, -, hlog⟩ := hsure.ends m (hub.keepsListeners_dispatching i d)
    refine ⟨m', hub', hends, Multiset.coe_eq_coe.1 (hlog.trans ?_)⟩
    exact Multiset.coe_add _ _
  · rw [gather_eq_ok_iff]
    exact ListenerTree.outcomes_eq_ok_iff ts
  · have hflatten : error.flatten = error :: ListenerTree.errorsOf ts := by
      have htold := allErrors_gather e.kind (ListenerTree.outcomes ts)
      rwa [ListenerTree.allErrors_outcomes, herror] at htold
    -- the failure at the root was gathered, so that no listener reported it itself
    have hnested : error.listenerError? = none := by
      rw [gather_eq] at herror
      split at herror
      · cases herror
      · cases herror
        rfl
    have hfailed : error.flatten.filterMap BusError.listenerError? = failed := by
      rw [hflatten, List.filterMap_cons_none hnested, ListenerTree.filterMap_errorsOf]
    have hfind : ∀ {α : Type} (pick : ListenerError → Option α),
        error.findListenerError? pick = failed.findSome? pick := by
      intro α pick
      rw [← hfailed, ← List.head?_filterMap, List.filterMap_filterMap, List.head?_filterMap]
      rfl
    refine ⟨hflatten, hfailed, fun p => ?_, fun pick => ⟨hfind pick, ?_⟩⟩
    · rw [BusError.any, hflatten, List.any_eq_true]
    · rw [hfind, List.findSome?_eq_none_iff]

/-- Listeners that have a result of their own after some milliseconds, and others that tell of a
provider that failed. -/
def Handler.relaying : Handler (Option (Nat × Except ListenerError Unit))
    (Unit × List (Option (Nat × Except ListenerError Unit) × Event)) := fun publish listener _ =>
  match listener with
  | some own => (Job.sleep own.1).bind fun _ => .done (own.2.mapError .listener)
  | none => publish.tell 0 "relay" .providerFailed
      (.providerFailed "stub" (Pair.ofTexts "btc" "uah") "down") none

theorem ListenerTree.fits_relaying (bus : Bus (Option (Nat × Except ListenerError Unit)))
    (heard : Event → Prop) (own : Nat × Except ListenerError Unit) :
    Fits Handler.relaying 0 bus heard (.leaf (some own) own.2) := fun _ _ _ =>
  (Job.Sure.sleep (Hub.KeepsListeners 0 bus) Hub.calledBag own.1).map fun _ =>
    own.2.mapError BusError.listener

/-- Three listeners, of which the one in the middle tells of a provider that failed to two more. One
of these fails before the first of the three does, and yet its failure is told after that one. -/
theorem Handler.publishes_tree_of_relay :
    let slow : Nat × Except ListenerError Unit := (30, .error (.rate .noProviders))
    let fine : Nat × Except ListenerError Unit := (5, .ok ())
    let inner : Nat × Except ListenerError Unit := (20, .error (.repository (.missing "rate")))
    let quick : Nat × Except ListenerError Unit := (10, .error (.input .missingAddress))
    let hub : Hub (Option (Nat × Except ListenerError Unit)) (Unit × List _) :=
      (((((Hub.ofDispatch .sequential ((), [])).listen 0 .rateRequested (some slow)).listen 0
        .rateRequested none).listen 0 .rateRequested (some quick)).listen 0 .providerFailed
        (some fine)).listen 0 .providerFailed (some inner)
    let e : Event :=
      ⟨0, none, "herald", .rateRequested, .rateRequested (Pair.ofTexts "btc" "uah"), none⟩
    ∃ error : BusError,
      (∀ d : Dispatch, ∃ m' hub',
        (Handler.relaying.noting.publisher 2 0 e).Ends Moment.start (hub.dispatching 0 d)
          (.error error) m' hub' ∧
          (hub'.calls.map Prod.fst).Perm [some slow, none, some fine, some inner, some quick]) ∧
      error.flatten.filterMap BusError.listenerError? =
        [.rate .noProviders, .repository (.missing "rate"), .input .missingAddress] ∧
      error.inputError? = some .missingAddress := by
  intro slow fine inner quick hub e
  let told : Telling := ⟨"relay", .providerFailed,
    .providerFailed "stub" (Pair.ofTexts "btc" "uah") "down", none⟩
  let ts : List (ListenerTree (Option (Nat × Except ListenerError Unit))) :=
    [.leaf (some slow) slow.2,
      .node none told [.leaf (some fine) fine.2, .leaf (some inner) inner.2],
      .leaf (some quick) quick.2]
  have hleaf := fun heard => ListenerTree.fits_relaying (hub.bus 0) heard
  have hfit : ListenerTree.AllFit Handler.relaying 0 (hub.bus 0) (· = e) ts :=
    ⟨hleaf _ slow, ⟨fun _ _ _ => rfl, rfl, hleaf _ fine, hleaf _ inner, trivial⟩,
      hleaf _ quick, trivial⟩
  obtain ⟨result, hends, hok, herror⟩ := Handler.publishes_tree Handler.relaying 1 0 e ts
    Moment.start hub rfl hfit (by decide)
  cases result with
  | ok _ => exact nomatch hok.1 rfl slow.2 List.mem_cons_self
  | error error =>
    obtain ⟨-, hfailed, -, hfind⟩ := herror error rfl
    exact ⟨error, hends, hfailed, (hfind _).1⟩

end RateHerald
