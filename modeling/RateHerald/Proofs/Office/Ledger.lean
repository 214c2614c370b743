import RateHerald.Proofs.Events.Asking
import RateHerald.Proofs.Office.RateRequests
import RateHerald.Proofs.Rates.Chains
import RateHerald.Proofs.Rates.Counting

/-!
# What a chain leaves in the books

When a chain asks providers by a deadline, exactly those of them are counted that were done in time.
`Provider.attempts` says who that is, without bus and chain: it runs one provider after another on
the world alone, until one gives a rate or is not done by the deadline. What a call leaves in the
tally and in the number of published events is told by one relation, `Office.Records`, which adds up
over calls that follow each other.

## Main declarations

* `Provider.attempts`: who is done by the deadline, and with what success.
* `Office.Records`, with `Office.Records.trans`.
* `Office.of_fetchFrom_within`: a chain under a deadline records the attempts.
-/

namespace RateHerald

variable {G W : Type}

/-! ## Attempts -/

/-- The providers that are done by the deadline when they are asked one after another, and whether
each of them gave a rate, after which no other is asked. A provider that is asked again and again
is done once. -/
def Provider.attempts (pair : Pair) (deadline : Moment) :
    List (Provider W) → Moment → W → List (String × Bool)
  | [], _, _ => []
  | p :: rest, m, w =>
    match (p.fetch pair).run m w with
    | .done (.ok _) m' _ => if m' ≤ deadline then [(p.name, true)] else []
    | .done (.error _) m' w' =>
      if m' ≤ deadline then (p.name, false) :: attempts pair deadline rest m' w' else []
    | _ => []

section Attempts

variable {pair : Pair} {deadline m m' : Moment} {w w' : W} {p : Provider W} {rest : List (Provider W)}

theorem Provider.attempts_of_rate {rate : Rate} (h : (p.fetch pair).Ends m w (.ok rate) m' w')
    (hle : m' ≤ deadline) : attempts pair deadline (p :: rest) m w = [(p.name, true)] := by
  rw [attempts, h]
  exact if_pos hle

theorem Provider.attempts_of_failure {e : RateError}
    (h : (p.fetch pair).Ends m w (.error e) m' w') (hle : m' ≤ deadline) :
    attempts pair deadline (p :: rest) m w =
      (p.name, false) :: attempts pair deadline rest m' w' := by
  rw [attempts, h]
  exact if_pos hle

/-- A provider that is not done in time is not counted, nor is anybody after it. -/
theorem Provider.attempts_of_late
    (h : ∀ answer m' w', (p.fetch pair).Ends m w answer m' w' → ¬m' ≤ deadline) :
    attempts pair deadline (p :: rest) m w = [] := by
  rw [attempts]
  split
  · next hends => exact if_neg (h _ _ _ hends)
  · next hends => exact if_neg (h _ _ _ hends)
  · rfl

end Attempts

/-! ## Records -/

namespace Office

variable {hub hub' hub'' : OfficeHub G W} {outcomes outcomes' : List (String × Bool)}
  {asks asks' : Nat}

/-- From one hub to another these outcomes were counted and so many questions were asked; listeners
are the same. -/
structure Records (outcomes : List (String × Bool)) (asks : Nat) (hub hub' : OfficeHub G W) :
    Prop where
  /-- The listeners are the same. -/
  listeners : ∀ i, (hub'.bus i).listeners = (hub.bus i).listeners
  /-- The outcomes are counted in the tally. -/
  tally : hub'.outside.tally = hub.outside.tally.addAll outcomes
  /-- Every outcome and every question is an event. -/
  published : (hub'.bus Hub.mainBus).published =
    (hub.bus Hub.mainBus).published + asks + outcomes.length

theorem Records.of_same (hbuses : hub'.buses = hub.buses)
    (htally : hub'.outside.tally = hub.outside.tally) : Records [] 0 hub hub' := by
  have hbus : ∀ i, hub'.bus i = hub.bus i := fun i => by rw [Hub.bus, Hub.bus, hbuses]
  constructor
  · intro i
    rw [hbus]
  · exact htally
  · rw [hbus]
    rfl

theorem Records.trans (h : Records outcomes asks hub hub')
    (h' : Records outcomes' asks' hub' hub'') :
    Records (outcomes ++ outcomes') (asks + asks') hub hub'' := by
  constructor
  · intro i
    rw [h'.listeners, h.listeners]
  · rw [h'.tally, h.tally, Tally.addAll_append]
  · rw [h'.published, h.published, List.length_append]
    omega

/-- What follows is not recorded. -/
theorem Records.concat_same (h : Records outcomes asks hub hub') (hbuses : hub''.buses = hub'.buses)
    (htally : hub''.outside.tally = hub'.outside.tally) : Records outcomes asks hub hub'' := by
  have hboth := h.trans (.of_same hbuses htally)
  rwa [List.append_nil] at hboth

theorem IsStaffed.of_records (hstaffed : IsStaffed hub) (h : Records outcomes asks hub hub') :
    IsStaffed hub' := by
  have hlisteners : ∀ kind, (hub'.bus Hub.mainBus).listenersTo kind =
      (hub.bus Hub.mainBus).listenersTo kind := fun kind => by
    rw [Bus.listenersTo, Bus.listenersTo, h.listeners]
  constructor
  · rw [hlisteners, hstaffed.rates]
  · rw [hlisteners, hstaffed.subscribers]
  · rw [hlisteners, hstaffed.fetched]
  · rw [hlisteners, hstaffed.failed]

/-- There is a main bus, since somebody listens to it. -/
theorem IsStaffed.buses_pos (h : IsStaffed hub) : Hub.mainBus < hub.buses.length := by
  by_contra hnone
  have hempty : hub.bus Hub.mainBus = Bus.empty .sequential := by
    rw [Hub.bus, List.getD_eq_getElem?_getD, List.getElem?_eq_none (Nat.not_lt.1 hnone)]
    rfl
  have hrates := h.rates
  rw [hempty] at hrates
  cases hrates

theorem IsStaffed.published_told (h : IsStaffed hub) :
    ((hub.told Hub.mainBus).bus Hub.mainBus).published =
      (hub.bus Hub.mainBus).published + 1 := by
  have hbus : (hub.told Hub.mainBus).bus Hub.mainBus =
      (hub.bus Hub.mainBus).countPublished := by
    rw [Hub.told, Hub.bus_onBus]
    exact if_pos ⟨rfl, h.buses_pos⟩
  rw [hbus]
  rfl

theorem IsStaffed.records_told (h : IsStaffed hub) : Records [] 1 hub (hub.told Hub.mainBus) :=
  ⟨(hub.alike_told Hub.mainBus).listeners, rfl, h.published_told⟩

theorem IsStaffed.records_noted (h : IsStaffed hub) (name : String) (success : Bool) :
    Records [(name, success)] 0 hub (noted name success hub) :=
  ⟨(undisturbed_noted name success hub).alike.listeners, rfl, h.published_told⟩

/-! ## Chains -/

/-- What asking providers one after another by a deadline comes to; `last` is the one that failed
before all of them. -/
structure Asked (pair : Pair) (deadline : Moment) (providers : List (Provider W))
    (last : Option (String × RateError)) (m : Moment) (hub : OfficeHub G W)
    (result : Option (Except RateError Rate)) (m' : Moment) (hub' : OfficeHub G W) : Prop where
  /-- Those who were done are counted. -/
  records : Records (Provider.attempts pair deadline providers m hub.outside.world) 0 hub hub'
  /-- Channels are left alone. -/
  channels : hub'.channels = hub.channels
  /-- It ends by the deadline. -/
  inTime : m' ≤ deadline
  /-- There is a rate exactly if somebody gave one. -/
  rate : (∃ rate, result = some (.ok rate)) ↔
    (Provider.attempts pair deadline providers m hub.outside.world).any Prod.snd = true
  /-- If all failed, the last of them is named. -/
  failure : ∀ e, result = some (.error e) → providers ≠ [] ∨ last.isSome = true →
    ∃ name cause, e = .unavailable name cause

namespace Asked

variable {pair : Pair} {deadline m m₁ m' : Moment} {p : Provider W} {rest : List (Provider W)}
  {last : Option (String × RateError)} {w : W}

theorem nil (hle : m ≤ deadline) :
    Asked pair deadline [] last m hub (some (.error (Chain.exhausted last))) m hub := by
  refine ⟨.of_same rfl rfl, rfl, hle, by simp [Provider.attempts], ?_⟩
  rintro e ⟨⟩ (hne | hlast)
  · exact absurd rfl hne
  · obtain ⟨⟨name, cause⟩, rfl⟩ := Option.isSome_iff_exists.1 hlast
    exact ⟨name, cause, rfl⟩

/-- The first provider fails: that is counted, and the others are asked. -/
theorem cons_of_failure (hstaffed : IsStaffed hub) {e : RateError}
    (hends : (p.fetch pair).Ends m hub.outside.world (.error e) m₁ w) (hle : m₁ ≤ deadline)
    {result : Option (Except RateError Rate)}
    (hothers : Asked pair deadline rest (some (p.name, e)) m₁
      (noted p.name false (worldPart.set w hub)) result m' hub') :
    Asked pair deadline (p :: rest) last m hub result m' hub' := by
  have hset : Records [] 0 hub (worldPart.set w hub) := .of_same rfl rfl
  have hnoted := hset.trans ((hstaffed.of_records hset).records_noted p.name false)
  have hattempts : Provider.attempts pair deadline (p :: rest) m hub.outside.world =
      (p.name, false) :: Provider.attempts pair deadline rest m₁ w :=
    Provider.attempts_of_failure hends hle
  constructor
  · rw [hattempts]
    exact hnoted.trans hothers.records
  · exact hothers.channels
  · exact hothers.inTime
  · rw [hattempts, List.any_cons, Bool.false_or]
    exact hothers.rate
  · intro e' he' _
    exact hothers.failure e' he' (.inr rfl)

/-- The first provider gives a rate: that is counted, and nobody else is asked. -/
theorem cons_of_rate (hstaffed : IsStaffed hub) {rate : Rate}
    (hends : (p.fetch pair).Ends m hub.outside.world (.ok rate) m₁ w) (hle : m₁ ≤ deadline) :
    Asked pair deadline (p :: rest) last m hub (some (.ok rate)) m₁
      (noted p.name true (worldPart.set w hub)) := by
  have hset : Records [] 0 hub (worldPart.set w hub) := .of_same rfl rfl
  have hattempts : Provider.attempts pair deadline (p :: rest) m hub.outside.world =
      [(p.name, true)] :=
    Provider.attempts_of_rate hends hle
  constructor
  · rw [hattempts]
    exact hset.trans ((hstaffed.of_records hset).records_noted p.name true)
  · rfl
  · exact hle
  · rw [hattempts]
    simp
  · rintro e ⟨⟩

/-- The first provider is given up, and with it the chain. -/
theorem cons_of_late
    (hlate : ∀ answer m' w', (p.fetch pair).Ends m hub.outside.world answer m' w' → ¬m' ≤ deadline)
    (w : W) : Asked pair deadline (p :: rest) last m hub none deadline (worldPart.set w hub) := by
  have hattempts : Provider.attempts pair deadline (p :: rest) m hub.outside.world = [] :=
    Provider.attempts_of_late hlate
  constructor
  · rw [hattempts]
    exact .of_same rfl rfl
  · rfl
  · exact Moment.le_refl _
  · rw [hattempts]
    simp
  · rintro e ⟨⟩

end Asked

/-- A chain of providers that work on the world alone records those of them that were done by the
deadline. -/
theorem of_fetchFrom_within {staff : Staff G W} (hsleeps : staff.OnlySleeps) (depth : Nat)
    {pair : Pair} {deadline : Moment} {providers : List (Provider W)}
    (hproviders : ∀ p ∈ providers, (p.fetch pair).OnlySleeps) (hstaffed : IsStaffed hub)
    {last : Option (String × RateError)} {m m' : Moment} {result : Option (Except RateError Rate)}
    (hle : m ≤ deadline)
    (h : ((Chain.fetchFrom ((staff.handler.publisher (depth + 1)).announce Hub.mainBus) pair last
      (providers.map (Provider.on worldPart))).within deadline).Ends m hub result m' hub') :
    Asked pair deadline providers last m hub result m' hub' := by
  induction providers generalizing m hub last with
  | nil =>
    cases h
    exact .nil hle
  | cons p rest ih =>
    have hannounce : ∀ payload, ((staff.handler.publisher (depth + 1)).announce Hub.mainBus
        payload).OnlySleeps := fun payload =>
      Job.OnlySleeps.bind ((hsleeps.publisher (depth + 1)).tell _ _ _ _ _) fun _ => .done _
    rw [List.map_cons, Chain.fetchFrom_cons, Job.within_bind] at h
    obtain ⟨answer, m₁, hub₁, hinHub, hrest⟩ := h.of_bind
    rw [Provider.on, Job.within_on] at hinHub
    obtain ⟨w, hfetch, rfl⟩ := hinHub.of_on worldPart_lawful
    have hstaffed₁ : IsStaffed (worldPart.set w hub) := hstaffed.of_alike (alike_set_world w hub)
    rcases hfetch.of_within (hproviders p List.mem_cons_self) hle with
      ⟨answer, rfl, hle₁, hends⟩ | ⟨rfl, rfl, hlate⟩
    · rcases answer with e | rate
      · have hnoted := staff.ends_announce depth (.providerFailed p.name pair e.message) rfl
          hstaffed₁.failed m₁
        have hothers := ih (fun q hq => hproviders q (List.mem_cons_of_mem p hq))
          (hstaffed₁.of_alike (undisturbed_noted _ _ _).alike) hle₁
          (hnoted.of_within_bind (hannounce _) hle₁ hrest)
        exact .cons_of_failure hstaffed hends hle₁ hothers
      · have hnoted := staff.ends_announce depth (.providerFetched p.name rate) rfl
          hstaffed₁.fetched m₁
        cases hnoted.of_within_bind (hannounce _) hle₁ hrest
        exact .cons_of_rate hstaffed hends hle₁
    · cases hrest
      exact .cons_of_late hlate w

end Office

end RateHerald
