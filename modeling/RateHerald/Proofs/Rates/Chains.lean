import RateHerald.Proofs.Events.Onlookers
import RateHerald.Proofs.Events.Publishing
import RateHerald.Proofs.Timed.Reports
import RateHerald.Rates.Chain

/-!
# What a chain does

A chain asks its providers in order, stops at the first that knows the rate, and tells of each of
them how it did, before it asks the next. All of this can be seen by an onlooker who takes a note
whenever a provider is asked, whenever one answers, and whenever something is published. The notes
are kept beside the world and nobody reads them, so that a chain that is watched runs as it does
otherwise; what it does is then what is found in the notes.

Providers and listeners are whoever they like. Nothing is asked of them, except for the chain to come
to an end, that they do.

## Main declarations

* `Chain.Note`, `Provider.watched` and `Publisher.watched`: the onlooker.
* `Chain.Stops` and `Chain.outcome`: who is asked, and what it comes to.
* `Publisher.announce_eq_of_silent`: what listeners report is not seen.
* `Chain.fetch_drop`: what the rest of a chain does.
-/

namespace RateHerald

variable {L X σ α : Type}

/-! ## Silent listeners -/

/-- Of jobs that are called one after another or all at once only the silent parts count, if nobody
looks at their reports. -/
theorem Dispatch.silent_perform {f g : L → Job σ α} (h : ∀ k, (f k).silent = (g k).silent)
    (d : Dispatch) (ks : List L) : (d.perform (ks.map f)).silent = (d.perform (ks.map g)).silent := by
  cases d with
  | sequential => exact Job.silent_inTurn h ks
  | concurrent => exact Job.silent_all h ks

/-- An announcement does not depend on what the listeners report. -/
theorem Publisher.announce_eq_of_silent {call call' : L → Event → HubJob L X (Except BusError Unit)}
    (h : ∀ l e, (call' l e).silent = (call l e).silent) :
    (ofCall call').announce = (ofCall call).announce := by
  have hof : ∀ (c : L → Event → HubJob L X (Except BusError Unit)) i e, (ofCall c i e).silent =
      (Job.change fun hub : Hub L X => (hub.bus i, hub.onBus i Bus.countPublished)).bind fun bus =>
        (bus.dispatch.perform ((bus.listenersTo e.kind).map fun l => c l e)).silent := by
    intro c i e
    refine (Job.bind_reporting _ _ _).trans (congrArg _ (funext fun bus => ?_))
    exact Job.silent_reporting _ _
  have hpublish : ∀ i e, (ofCall call' i e).silent = (ofCall call i e).silent := by
    intro i e
    rw [hof, hof]
    exact congrArg _ (funext fun bus => Dispatch.silent_perform (fun l => h l e) _ _)
  funext bus payload
  refine (Job.bind_reporting _ _ _).trans (Eq.trans ?_ (Job.bind_reporting _ _ _).symm)
  exact congrArg _ (funext fun e => hpublish bus e)

namespace Chain

/-! ## Parts of a chain -/

theorem drop_eq (c : Chain σ) (n : Nat) : c.drop n = ⟨c.providers.drop n, c.announce⟩ := by
  induction n generalizing c with
  | zero => rfl
  | succ n ih =>
    rw [drop, ih, next, List.drop_tail]

theorem fetch_of_isValid (c : Chain σ) {pair : Pair} (h : pair.isValid = true) :
    c.fetch pair = fetchFrom c.announce pair none c.providers := by
  rw [fetch, Pair.validate_eq_ok_iff.2 h]

/-- What is announced of a provider. -/
def report (pair : Pair) (name : String) : Except RateError Rate → Payload
  | .ok rate => .providerFetched name rate
  | .error e => .providerFailed name pair e.message

theorem fetchFrom_cons (announce : Payload → Job σ Unit) (pair : Pair)
    (last : Option (String × RateError)) (p : Provider σ) (rest : List (Provider σ)) :
    fetchFrom announce pair last (p :: rest) = (p.fetch pair).bind fun
      | .ok rate => (announce (.providerFetched p.name rate)).bind fun _ => .done (.ok rate)
      | .error e => (announce (.providerFailed p.name pair e.message)).bind fun _ =>
          fetchFrom announce pair (some (p.name, e)) rest :=
  rfl

/-- One provider is asked, and how it did is announced. -/
def attempt (announce : Payload → Job σ Unit) (pair : Pair) (p : Provider σ) :
    Job σ (Except RateError Rate) :=
  (p.fetch pair).bind fun answer =>
    (announce (report pair p.name answer)).bind fun _ => .done answer

/-- After an attempt that failed the others are asked. -/
theorem fetchFrom_eq_attempt (announce : Payload → Job σ Unit) (pair : Pair)
    (last : Option (String × RateError)) (p : Provider σ) (rest : List (Provider σ)) :
    fetchFrom announce pair last (p :: rest) = (attempt announce pair p).bind fun
      | .ok rate => .done (.ok rate)
      | .error e => fetchFrom announce pair (some (p.name, e)) rest := by
  rw [fetchFrom_cons, attempt, Job.bind_assoc]
  refine congrArg _ (funext fun answer => ?_)
  rw [Job.bind_assoc]
  cases answer <;> rfl

/-- A chain comes to an end if all to whom it leaves the work do. -/
theorem finishes_fetchFrom {announce : Payload → Job σ Unit} {pair : Pair}
    (hannounce : ∀ payload, (announce payload).Finishes) {providers : List (Provider σ)}
    (hproviders : ∀ p ∈ providers, (p.fetch pair).Finishes) (last : Option (String × RateError)) :
    (fetchFrom announce pair last providers).Finishes := by
  induction providers generalizing last with
  | nil => exact Job.finishes_done _
  | cons p rest ih =>
    have hattempt : (attempt announce pair p).Finishes :=
      (hproviders p List.mem_cons_self).bind fun _ => (hannounce _).bind fun _ => Job.finishes_done _
    rw [fetchFrom_eq_attempt]
    refine hattempt.bind fun answer => ?_
    rcases answer with e | rate
    · exact ih (fun q hq => hproviders q (List.mem_cons_of_mem p hq)) _
    · exact Job.finishes_done _

/-! ## Who is asked -/

/-- Some are asked in order, beginning with the first, until one gives a rate; each of those who are
asked stands beside the answer. -/
structure Stops (links : List α) (asked : List (α × Except RateError Rate)) : Prop where
  /-- The first are asked, in order and each once. -/
  inOrder : asked.map Prod.fst <+: links
  /-- Whoever is asked before another has failed. -/
  failed : ∀ one ∈ asked.dropLast, one.2.isOk = false
  /-- Somebody is not asked only if the last who was asked gave a rate. -/
  all : asked.map Prod.fst = links ∨ ∃ link rate, asked.getLast? = some (link, .ok rate)

theorem Stops.nil : Stops ([] : List α) [] :=
  ⟨List.prefix_refl _, fun _ h => absurd h List.not_mem_nil, .inl rfl⟩

theorem Stops.ok (link : α) (links : List α) (rate : Rate) :
    Stops (link :: links) [(link, .ok rate)] :=
  ⟨⟨links, rfl⟩, fun _ h => absurd h List.not_mem_nil, .inr ⟨link, rate, rfl⟩⟩

theorem Stops.error {links : List α} {asked : List (α × Except RateError Rate)}
    (h : Stops links asked) (link : α) (e : RateError) :
    Stops (link :: links) ((link, .error e) :: asked) where
  inOrder := by
    rw [List.map_cons, List.prefix_cons_inj]
    exact h.inOrder
  failed := by
    intro one hmem
    cases asked with
    | nil => exact absurd hmem List.not_mem_nil
    | cons first rest =>
      rw [List.dropLast_cons_cons] at hmem
      rcases List.mem_cons.1 hmem with rfl | hmem
      · rfl
      · exact h.failed one hmem
  all := by
    rcases h.all with hall | ⟨final, rate, hlast⟩
    · exact .inl (by rw [List.map_cons, hall])
    · refine .inr ⟨final, rate, ?_⟩
      cases asked with
      | nil => cases hlast
      | cons first rest => rwa [List.getLast?_cons_cons]

/-- What it comes to when providers at their places were asked and answered so, and `last` is the
last who had failed before. -/
def outcome (last : Option (String × RateError))
    (asked : List ((Provider σ × Nat) × Except RateError Rate)) : Except RateError Rate :=
  match asked.getLast? with
  | none => .error (exhausted last)
  | some (_, .ok rate) => .ok rate
  | some (link, .error e) => .error (.unavailable link.1.name e)

theorem outcome_cons_error (last : Option (String × RateError)) (link : Provider σ × Nat)
    (e : RateError) (asked : List ((Provider σ × Nat) × Except RateError Rate)) :
    outcome last ((link, .error e) :: asked) = outcome (some (link.1.name, e)) asked := by
  cases asked with
  | nil => rfl
  | cons first rest =>
    rw [outcome, outcome, List.getLast?_cons_cons,
      List.getLast?_eq_some_getLast (List.cons_ne_nil _ _)]
    rcases (first :: rest).getLast (List.cons_ne_nil _ _) with ⟨_, _ | _⟩ <;> rfl

/-! ## The onlooker -/

/-- Something that an onlooker sees. -/
inductive Note where
  /-- The provider at this place was asked for the rate of a pair. -/
  | asked (place : Nat) (pair : Pair)
  /-- It answered. -/
  | answered (place : Nat) (answer : Except RateError Rate)
  /-- Something was published on a bus. -/
  | published (bus : Nat) (source : String) (kind : Kind) (payload : Payload)

end Chain

/-- A provider whom somebody watches. -/
def Provider.watched (place : Nat) (p : Provider (Hub L X)) :
    Provider (Hub L (X × List Chain.Note)) where
  name := p.name
  fetch pair := do
    Hub.takeNote (.asked place pair)
    let answer ← (p.fetch pair).on Hub.withoutNotes
    Hub.takeNote (.answered place answer)
    return answer

/-- Publishing that somebody watches. -/
def Publisher.watched (publish : Publisher L X) : Publisher L (X × List Chain.Note) := fun bus e => do
  Hub.takeNote (.published bus e.source e.kind e.payload)
  (publish bus e).on Hub.withoutNotes

section Watching

variable {m m' : Moment} {hub hub' : Hub L X} {pair : Pair} {publish : Publisher L X} {bus : Nat}

/-- A provider who is watched answers as ever, and that it was asked and answered is noted. -/
theorem Provider.noted_watched {p : Provider (Hub L X)} {answer : Except RateError Rate}
    (h : (p.fetch pair).Ends m hub answer m' hub') (place : Nat) :
    (p.fetch pair).Noted ((p.watched place).fetch pair) m hub answer m' hub'
      [.asked place pair, .answered place answer] :=
  Job.Noted.between h (Chain.Note.asked place pair) (Chain.Note.answered place)

/-- An announcement that is watched is made as ever, and what is published is noted. -/
theorem Publisher.noted_announce_watched {payload : Payload}
    (h : (publish.announce bus payload).Ends m hub () m' hub') :
    (publish.announce bus payload).Noted (publish.watched.announce bus payload) m hub () m' hub'
      [.published bus "rate.chain" payload.kind payload] := by
  refine ⟨h, fun notes => ?_⟩
  obtain ⟨result, m₁, hub₁, htell, hdone⟩ := Job.Ends.of_bind h
  cases hdone
  obtain ⟨e, m₂, hub₂, hnew, hpublish⟩ := Job.Ends.of_bind htell
  cases hnew
  have hpublished := Hub.ends_takeNote (Chain.Note.published bus "rate.chain" payload.kind payload) m
    (hub.newEvent "rate.chain" payload.kind payload none none).2 notes
  have hwatched := Job.Ends.on Hub.withoutNotes_lawful
    (s := Hub.withNotes (notes ++ [.published bus "rate.chain" payload.kind payload])
      (hub.newEvent "rate.chain" payload.kind payload none none).2) hpublish
  exact Job.Ends.bind (ends_tell (hpublished.bind hwatched)) (Job.ends_done _ _ _)

namespace Chain

/-- A provider watched at its place. -/
def watchedLink (link : Provider (Hub L X) × Nat) : Provider (Hub L (X × List Note)) :=
  link.1.watched link.2

/-- What is noted of a provider at its place that is asked and answers. -/
def notesOf (bus : Nat) (pair : Pair) (one : (Provider (Hub L X) × Nat) × Except RateError Rate) :
    List Note :=
  let told := report pair one.1.1.name one.2
  [.asked one.1.2 pair, .answered one.1.2 one.2, .published bus "rate.chain" told.kind told]

/-- An attempt that is watched goes as ever, and is noted. -/
theorem noted_attempt_watched {link : Provider (Hub L X) × Nat} {answer : Except RateError Rate}
    (h : (attempt (publish.announce bus) pair link.1).Ends m hub answer m' hub') :
    (attempt (publish.announce bus) pair link.1).Noted
      (attempt (publish.watched.announce bus) pair (watchedLink link)) m hub answer m' hub'
      (notesOf bus pair (link, answer)) := by
  obtain ⟨given, m₁, hub₁, hfetch, htold⟩ := h.of_bind
  obtain ⟨_, m₂, hub₂, hannounce, hdone⟩ := htold.of_bind
  cases hdone
  exact (Provider.noted_watched hfetch link.2).bind
    ((Publisher.noted_announce_watched hannounce).map fun _ => answer)

/-- What providers at their places do when a chain asks them, and what is noted of it. -/
theorem noted_fetchFrom_watched {last : Option (String × RateError)}
    {links : List (Provider (Hub L X) × Nat)} {result : Except RateError Rate}
    (h : (fetchFrom (publish.announce bus) pair last (links.map Prod.fst)).Ends m hub result m' hub') :
    ∃ asked, Stops links asked ∧ result = outcome last asked ∧
      (fetchFrom (publish.announce bus) pair last (links.map Prod.fst)).Noted
        (fetchFrom (publish.watched.announce bus) pair last (links.map watchedLink)) m hub result m'
        hub' (asked.flatMap (notesOf bus pair)) := by
  induction links generalizing last m hub with
  | nil =>
    cases h
    exact ⟨[], .nil, rfl, .done _ _ _⟩
  | cons link links ih =>
    rw [List.map_cons, fetchFrom_eq_attempt] at h
    obtain ⟨answer, m₁, hub₁, hattempt, hrest⟩ := h.of_bind
    have hnoted := noted_attempt_watched hattempt
    rcases answer with e | rate
    · obtain ⟨asked, hstops, houtcome, hothers⟩ := ih hrest
      refine ⟨(link, .error e) :: asked, hstops.error link e, ?_, ?_⟩
      · rw [houtcome, outcome_cons_error]
      · rw [List.map_cons, List.map_cons, fetchFrom_eq_attempt, fetchFrom_eq_attempt]
        exact hnoted.bind hothers
    · cases hrest
      refine ⟨[(link, .ok rate)], .ok link links rate, rfl, ?_⟩
      rw [List.map_cons, List.map_cons, fetchFrom_eq_attempt, fetchFrom_eq_attempt]
      exact hnoted.bind (.done _ _ _)

end Chain

end Watching

/-! ## The rest of a chain -/

/-- What a chain does from which `n` providers are dropped, whatever providers, listeners and bus it
has. A pair that is no pair is refused, and nobody is asked and nothing published. For any other
pair the providers that are left are asked in order, at most once each, until one gives a rate, and
each of them is followed by one announcement before the next is asked. It comes to that rate, or to
the last failure, or to the lack of providers. It ends if the providers do and the events are done
with. And what listeners report does not matter. -/
theorem Chain.fetch_drop (call : L → Event → HubJob L X (Except BusError Unit))
    (providers : List (Provider (Hub L X))) (n bus : Nat) (pair : Pair) :
    let publish := Publisher.ofCall call
    let chain := (Chain.mk providers (publish.announce bus)).drop n
    let links := providers.zipIdx
    let watched := (Chain.mk (links.map watchedLink) (publish.watched.announce bus)).drop n
    (pair.isValid = false → ∃ text, chain.fetch pair = .done (.error (.invalidPair text)) ∧
      watched.fetch pair = .done (.error (.invalidPair text))) ∧
    (pair.isValid = true → ∀ m hub result m' hub', (chain.fetch pair).Ends m hub result m' hub' →
      ∃ asked, Stops (links.drop n) asked ∧ result = outcome none asked ∧
        ∀ notes, (watched.fetch pair).Ends m (hub.withNotes notes) result m'
          (hub'.withNotes (notes ++ asked.flatMap (notesOf bus pair)))) ∧
    ((∀ p ∈ providers.drop n, (p.fetch pair).Finishes) → (∀ e, (publish bus e).Finishes) →
      (chain.fetch pair).Finishes) ∧
    ∀ call' : L → Event → HubJob L X (Except BusError Unit),
      (∀ l e, (call' l e).silent = (call l e).silent) →
      ((Chain.mk providers ((Publisher.ofCall call').announce bus)).drop n).fetch pair =
        chain.fetch pair := by
  intro publish chain links watched
  have hchain : chain = ⟨providers.drop n, publish.announce bus⟩ := drop_eq _ n
  have hwatched : watched = ⟨(links.drop n).map watchedLink, publish.watched.announce bus⟩ := by
    rw [List.map_drop]
    exact drop_eq _ n
  have hlinks : (links.drop n).map Prod.fst = providers.drop n := by
    rw [List.map_drop, List.zipIdx_map_fst]
  rw [hchain, hwatched]
  refine ⟨fun hinvalid => ?_, fun hvalid => ?_, fun hproviders hpublish => ?_, fun call' hcall => ?_⟩
  · have hrefused : pair.validate = .error (.invalidCurrency
        (Text.quoted pair.base.code ++ "/" ++ Text.quoted pair.quote.code)) := by
      rw [Pair.validate, hinvalid]
      rfl
    exact ⟨_, by rw [fetch, hrefused]; rfl, by rw [fetch, hrefused]; rfl⟩
  · intro m hub result m' hub' hends
    rw [fetch_of_isValid _ hvalid, ← hlinks] at hends
    rw [fetch_of_isValid _ hvalid]
    obtain ⟨asked, hstops, hresult, hnoted⟩ := noted_fetchFrom_watched hends
    exact ⟨asked, hstops, hresult, hnoted.2⟩
  · rw [fetch]
    split
    · exact Job.finishes_done _
    · refine finishes_fetchFrom (fun payload => ?_) hproviders none
      exact Job.Finishes.bind (Job.Finishes.bind (Job.finishes_change _) hpublish) fun _ =>
        Job.finishes_done _
  · rw [drop_eq, Publisher.announce_eq_of_silent hcall]

/-- The rest of a chain of three, of which one fails and the other gives a rate, with a listener that
counts failures and fails itself. -/
theorem Chain.fetch_drop_of_three :
    let broken : Provider (Hub Unit Nat) := ⟨"broken", fun _ => .done (.error (.timeout "broken"))⟩
    let steady : Provider (Hub Unit Nat) := ⟨"steady", fun pair => .done (.ok ⟨1.0, pair⟩)⟩
    let call : Unit → Event → HubJob Unit Nat (Except BusError Unit) := fun _ _ =>
      Job.change fun hub => (.error .noChannel, { hub with outside := hub.outside + 1 })
    let hub := (Hub.ofDispatch .sequential 0).listen Hub.mainBus .providerFailed ()
    let pair := Pair.ofTexts "btc" "uah"
    let providers := [steady, broken, steady]
    ∃ m' hub' asked,
      (((Chain.mk providers ((Publisher.ofCall call).announce Hub.mainBus)).drop 1).fetch pair).Ends
        Moment.start hub (.ok ⟨1.0, pair⟩) m' hub' ∧
      hub'.outside = 1 ∧ Stops (providers.zipIdx.drop 1) asked ∧
      (((Chain.mk (providers.zipIdx.map watchedLink)
        ((Publisher.ofCall call).watched.announce Hub.mainBus)).drop 1).fetch pair).Ends
          Moment.start (hub.withNotes []) (.ok ⟨1.0, pair⟩) m'
          (hub'.withNotes (asked.flatMap (notesOf Hub.mainBus pair))) := by
  intro broken steady call hub pair providers
  have hvalid : pair.isValid = true := by decide +kernel
  obtain ⟨m', hub', hends, hcount⟩ : ∃ m' hub',
      (((Chain.mk providers ((Publisher.ofCall call).announce Hub.mainBus)).drop 1).fetch pair).Ends
        Moment.start hub (.ok ⟨1.0, pair⟩) m' hub' ∧ hub'.outside = 1 := by
    rw [fetch_of_isValid _ hvalid]
    exact ⟨_, _, rfl, rfl⟩
  obtain ⟨asked, hstops, -, hnotes⟩ :=
    (fetch_drop call providers 1 Hub.mainBus pair).2.1 hvalid _ _ _ _ _ hends
  exact ⟨m', hub', asked, hends, hcount, hstops, hnotes []⟩

end RateHerald
