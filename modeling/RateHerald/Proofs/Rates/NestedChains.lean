import RateHerald.Proofs.Rates.Chains

/-!
# Chains in chains

A chain is a provider, so chains can be links of chains, to any depth. Whoever asks the outermost one
cannot tell: it asks the same providers in the same order, and gives the same rate, as the one chain
of all providers that are no chains, from left to right. The failures differ, since an inner chain
that fails is named instead of its last provider, and an inner chain without providers fails without
asking anybody.

What the providers answer is told by a script. It may depend on a part of the world, which they may
change, so that a provider may answer differently when it is asked again; but announcements have to
leave that part alone, for there are more of them when chains are nested.

## Main declarations

* `Chain.Nest`, with its `leaves`, and its `provider` given what the leaves are.
* `Provider.Follows` and `Job.LeavesAlone`: what is asked of providers and of announcements.
* `Chain.walk`: the leaves, asked in order by the script.
* `Chain.Walks`: a job goes as such a walk, and so it does when it is watched.
* `Chain.Nest.walks_provider` and `Chain.Nest.walks_fetchFrom`: nested chains do.
* `Chain.fetch_nested`: nested chains against the flat chain.
-/

namespace RateHerald

variable {L X σ α V W : Type}

/-! ## Nests of chains -/

/-- Chains in chains. -/
inductive Chain.Nest (α : Type) where
  /-- A provider that is no chain. -/
  | leaf (link : α)
  /-- A chain on its bus. -/
  | chain (bus : Nat) (links : List (Nest α))

namespace Chain.Nest

mutual

/-- The leaves, from left to right. -/
def leaves : Nest α → List α
  | .leaf link => [link]
  | .chain _ links => leavesOf links

/-- The leaves of several nests, from left to right. -/
def leavesOf : List (Nest α) → List α
  | [] => []
  | t :: rest => t.leaves ++ leavesOf rest

end

mutual

/-- The nest as a provider: `ask` is the provider that stands at a leaf, and `announce` how a chain
announces on its bus. -/
def provider (announce : Nat → Payload → Job σ Unit) (ask : α → Provider σ) : Nest α → Provider σ
  | .leaf link => ask link
  | .chain bus links => (Chain.mk (providersOf announce ask links) (announce bus)).provider

/-- Several nests as providers. -/
def providersOf (announce : Nat → Payload → Job σ Unit) (ask : α → Provider σ) :
    List (Nest α) → List (Provider σ)
  | [] => []
  | t :: rest => t.provider announce ask :: providersOf announce ask rest

end

theorem leavesOf_map_leaf (links : List α) : leavesOf (links.map leaf) = links := by
  induction links with
  | nil => rfl
  | cons link links ih => rw [List.map_cons, leavesOf, leaves, ih, List.singleton_append]

theorem providersOf_map_leaf (announce : Nat → Payload → Job σ Unit) (ask : α → Provider σ)
    (links : List α) : providersOf announce ask (links.map leaf) = links.map ask := by
  induction links with
  | nil => rfl
  | cons link links ih => rw [List.map_cons, providersOf, provider, ih, List.map_cons]

end Chain.Nest

/-! ## Scripts -/

/-- The provider answers as a script says, which may depend on what is looked at and change it. -/
def Provider.Follows (look : σ → V) (pair : Pair) (p : Provider σ)
    (script : V → Except RateError Rate × V) : Prop :=
  ∀ m s, ∃ m' s', (p.fetch pair).Ends m s (script (look s)).1 m' s' ∧ look s' = (script (look s)).2

/-- The job ends, and what is looked at stays as it is. -/
def Job.LeavesAlone (look : σ → V) (p : Job σ Unit) : Prop :=
  ∀ m s, ∃ m' s', p.Ends m s () m' s' ∧ look s' = look s

namespace Chain

/-- Who is asked and what they answer when those at the leaves are asked in order by their scripts,
until one gives a rate, and what is left then. -/
def walk (script : α → V → Except RateError Rate × V) :
    List α → V → List (α × Except RateError Rate) × V
  | [], v => ([], v)
  | a :: rest, v =>
    match script a v with
    | (.ok rate, v') => ([(a, .ok rate)], v')
    | (.error e, v') => ((a, .error e) :: (walk script rest v').1, (walk script rest v').2)

/-- The rate among answers. -/
def rateAmong (asked : List (α × Except RateError Rate)) : Option Rate :=
  asked.findSome? fun one => one.2.toOption

section Walk

variable {script : α → V → Except RateError Rate × V} {a : α} {links rest : List α} {v v' : V}

theorem walk_cons_ok {rate : Rate} (h : script a v = (.ok rate, v')) :
    walk script (a :: rest) v = ([(a, .ok rate)], v') := by
  rw [walk, h]

theorem walk_cons_error {e : RateError} (h : script a v = (.error e, v')) :
    walk script (a :: rest) v =
      ((a, .error e) :: (walk script rest v').1, (walk script rest v').2) := by
  rw [walk, h]

theorem walk_singleton (script : α → V → Except RateError Rate × V) (a : α) (v : V) :
    walk script [a] v = ([(a, (script a v).1)], (script a v).2) := by
  rcases h : script a v with ⟨e | rate, v'⟩
  · exact walk_cons_error h
  · exact walk_cons_ok h

theorem rateAmong_singleton (a : α) (answer : Except RateError Rate) :
    rateAmong [(a, answer)] = answer.toOption := by
  cases answer <;> rfl

theorem stops_walk (script : α → V → Except RateError Rate × V) (links : List α) (v : V) :
    Stops links (walk script links v).1 := by
  induction links generalizing v with
  | nil => exact .nil
  | cons a rest ih =>
    rcases h : script a v with ⟨e | rate, v'⟩
    · rw [walk_cons_error h]
      exact (ih v').error a e
    · rw [walk_cons_ok h]
      exact .ok a rest rate

/-- Where there is no rate everybody was asked. -/
theorem Stops.map_fst_of_none {asked : List (α × Except RateError Rate)} (h : Stops links asked)
    (hnone : rateAmong asked = none) : asked.map Prod.fst = links := by
  rcases h.all with hall | ⟨link, rate, hlast⟩
  · exact hall
  · have hfailed := List.findSome?_eq_none_iff.1 hnone _ (List.mem_of_getLast? hlast)
    cases hfailed

/-- A walk goes no further once there is a rate. -/
theorem walk_append_of_some {rate : Rate} (h : rateAmong (walk script links v).1 = some rate)
    (more : List α) : walk script (links ++ more) v = walk script links v := by
  induction links generalizing v with
  | nil => cases h
  | cons a rest ih =>
    rcases hscript : script a v with ⟨e | found, v'⟩
    · rw [walk_cons_error hscript] at h ⊢
      rw [List.cons_append, walk_cons_error hscript, ih h]
    · rw [List.cons_append, walk_cons_ok hscript, walk_cons_ok hscript]

/-- A walk goes on where a first part ended that gave no rate. -/
theorem walk_append_of_none (h : rateAmong (walk script links v).1 = none) (more : List α) :
    walk script (links ++ more) v =
      ((walk script links v).1 ++ (walk script more (walk script links v).2).1,
        (walk script more (walk script links v).2).2) := by
  induction links generalizing v with
  | nil => rfl
  | cons a rest ih =>
    rcases hscript : script a v with ⟨e | found, v'⟩
    · rw [walk_cons_error hscript] at h
      rw [List.cons_append, walk_cons_error hscript, walk_cons_error hscript, ih h]
      rfl
    · rw [walk_cons_ok hscript] at h
      cases h

theorem rateAmong_append_of_none {asked : List (α × Except RateError Rate)}
    (h : rateAmong asked = none) (more : List (α × Except RateError Rate)) :
    rateAmong (asked ++ more) = rateAmong more := by
  rw [rateAmong, List.findSome?_append]
  rw [rateAmong] at h
  rw [h, Option.none_or]
  rfl

end Walk

/-! ## Nests are walks -/

/-- What is noted of providers at their places that are asked and answer. -/
def noteAsked (pair : Pair) (asked : List ((Provider (Hub L X) × Nat) × Except RateError Rate)) :
    List Note :=
  asked.flatMap fun one => [.asked one.1.2 pair, .answered one.1.2 one.2]

end Chain

/-- Announcements beside notes, which are not noted themselves. -/
def Publisher.announceAside (publish : Publisher L X) (bus : Nat) (payload : Payload) :
    HubJob L (X × List Chain.Note) Unit :=
  (publish.announce bus payload).on Hub.withoutNotes

namespace Chain

/-- A job goes as the walk through some leaves; `watched` is the job under watch, which goes so as
well while it is noted who is asked and answers. -/
def Walks (look : Hub L X → W) (pair : Pair)
    (script : Provider (Hub L X) × Nat → W → Except RateError Rate × W)
    (links : List (Provider (Hub L X) × Nat)) (plain : HubJob L X (Except RateError Rate))
    (watched : HubJob L (X × List Note) (Except RateError Rate)) : Prop :=
  ∀ m hub, ∃ result m' hub', plain.Noted watched m hub result m' hub'
      (noteAsked pair (walk script links (look hub)).1) ∧
    result.toOption = rateAmong (walk script links (look hub)).1 ∧
    look hub' = (walk script links (look hub)).2

namespace Nest

variable {look : Hub L X → W} {pair : Pair} {publish : Publisher L X}
  {script : Provider (Hub L X) × Nat → W → Except RateError Rate × W}

theorem walks_leaf {link : Provider (Hub L X) × Nat}
    (h : link.1.Follows look pair (script link)) :
    Walks look pair script [link] (link.1.fetch pair) ((watchedLink link).fetch pair) := by
  intro m hub
  obtain ⟨m', hub', hends, hlook⟩ := h m hub
  rw [walk_singleton, rateAmong_singleton]
  exact ⟨_, m', hub', Provider.noted_watched hends link.2, rfl, hlook⟩

theorem name_provider_watched (t : Nest (Provider (Hub L X) × Nat)) :
    (t.provider publish.announceAside watchedLink).name =
      (t.provider publish.announce Prod.fst).name := by
  cases t <;> rfl

mutual

/-- A nest that is asked walks its leaves. -/
theorem walks_provider (hvalid : pair.isValid = true)
    (hannounce : ∀ bus payload, (publish.announce bus payload).LeavesAlone look)
    (t : Nest (Provider (Hub L X) × Nat))
    (hscript : ∀ link ∈ t.leaves, link.1.Follows look pair (script link)) :
    Walks look pair script t.leaves ((t.provider publish.announce Prod.fst).fetch pair)
      ((t.provider publish.announceAside watchedLink).fetch pair) := by
  match t with
  | .leaf link => exact walks_leaf (hscript link (List.mem_singleton_self link))
  | .chain bus links =>
    have hlinks := walks_fetchFrom hvalid hannounce bus links hscript none
    change Walks look pair script _ (Chain.fetch _ pair) (Chain.fetch _ pair)
    rw [fetch_of_isValid _ hvalid, fetch_of_isValid _ hvalid]
    exact hlinks

/-- Nests that are asked in order walk their leaves. -/
theorem walks_fetchFrom (hvalid : pair.isValid = true)
    (hannounce : ∀ bus payload, (publish.announce bus payload).LeavesAlone look) (bus : Nat)
    (links : List (Nest (Provider (Hub L X) × Nat)))
    (hscript : ∀ link ∈ leavesOf links, link.1.Follows look pair (script link))
    (last : Option (String × RateError)) :
    Walks look pair script (leavesOf links)
      (fetchFrom (publish.announce bus) pair last (providersOf publish.announce Prod.fst links))
      (fetchFrom (publish.announceAside bus) pair last
        (providersOf publish.announceAside watchedLink links)) := by
  match links with
  | [] =>
    exact fun m hub => ⟨_, m, hub, .done _ _ _, rfl, rfl⟩
  | t :: rest =>
    intro m hub
    rw [leavesOf] at hscript ⊢
    obtain ⟨answer, m₁, hub₁, hfetch, hanswer, hlook₁⟩ := walks_provider hvalid hannounce t
      (fun link hlink => hscript link (List.mem_append_left _ hlink)) m hub
    obtain ⟨m₂, hub₂, htold, hlook₂⟩ :=
      hannounce bus (report pair (t.provider publish.announce Prod.fst).name answer) m₁ hub₁
    have hattempt : (attempt (publish.announce bus) pair (t.provider publish.announce Prod.fst)).Noted
        (attempt (publish.announceAside bus) pair (t.provider publish.announceAside watchedLink))
        m hub answer m₂ hub₂ (noteAsked pair (walk script t.leaves (look hub)).1) := by
      rw [attempt, attempt, name_provider_watched, ← List.append_nil (noteAsked pair _)]
      exact hfetch.bind ((Job.Noted.on htold).map fun _ => answer)
    rw [providersOf, providersOf, fetchFrom_eq_attempt, fetchFrom_eq_attempt]
    rcases answer with e | rate
    · -- the first nest has no rate, and the others go on where it ended
      obtain ⟨result, m₃, hub₃, hothers, hresult, hlook₃⟩ := walks_fetchFrom hvalid
        hannounce bus rest (fun link hlink => hscript link (List.mem_append_right _ hlink))
        (some ((t.provider publish.announce Prod.fst).name, e)) m₂ hub₂
      rw [hlook₂, hlook₁] at hresult hlook₃ hothers
      rw [walk_append_of_none hanswer.symm, rateAmong_append_of_none hanswer.symm]
      refine ⟨result, m₃, hub₃, ?_, hresult, hlook₃⟩
      rw [noteAsked, List.flatMap_append, name_provider_watched]
      exact hattempt.bind hothers
    · rw [walk_append_of_some hanswer.symm, ← hanswer, ← hlook₁]
      refine ⟨.ok rate, m₂, hub₂, ?_, rfl, hlook₂⟩
      rw [← List.append_nil (noteAsked pair _)]
      exact hattempt.bind (.done _ _ _)

end

end Nest

/-! ## Nested and flat -/

open Nest in
/-- Nested chains ask the leaves as the flat chain of all leaves does: the same ones, in the same
order, each at most once, and all of them if there is no rate. And there is a rate exactly if the flat
chain has one, and it is the same. Every chain may announce on a bus of its own; no announcement
may touch what the answers of the leaves depend on. -/
theorem fetch_nested {look : Hub L X → W} {pair : Pair} (hvalid : pair.isValid = true)
    {publish : Publisher L X}
    (hannounce : ∀ bus payload, (publish.announce bus payload).LeavesAlone look)
    {script : Provider (Hub L X) × Nat → W → Except RateError Rate × W}
    {links : List (Nest (Provider (Hub L X) × Nat))}
    (hscript : ∀ link ∈ leavesOf links, link.1.Follows look pair (script link))
    (bus flatBus : Nat) (m : Moment) (hub : Hub L X) :
    let nested := Chain.mk (providersOf publish.announce Prod.fst links) (publish.announce bus)
    let nestedWatched := Chain.mk (providersOf publish.announceAside watchedLink links)
      (publish.announceAside bus)
    let flat := Chain.mk ((leavesOf links).map Prod.fst) (publish.announce flatBus)
    let flatWatched := Chain.mk ((leavesOf links).map watchedLink) (publish.announceAside flatBus)
    ∃ result m₁ hub₁ result' m₂ hub₂ asked,
      (nested.fetch pair).Ends m hub result m₁ hub₁ ∧
      (flat.fetch pair).Ends m hub result' m₂ hub₂ ∧
      result.toOption = result'.toOption ∧ look hub₁ = look hub₂ ∧
      (∀ notes, (nestedWatched.fetch pair).Ends m (hub.withNotes notes) result m₁
        (hub₁.withNotes (notes ++ noteAsked pair asked))) ∧
      (∀ notes, (flatWatched.fetch pair).Ends m (hub.withNotes notes) result' m₂
        (hub₂.withNotes (notes ++ noteAsked pair asked))) ∧
      Stops (leavesOf links) asked ∧
      (result.toOption = none → asked.map Prod.fst = leavesOf links) := by
  intro nested nestedWatched flat flatWatched
  obtain ⟨result, m₁, hub₁, hnoted, hresult, hlook⟩ :=
    walks_fetchFrom hvalid hannounce bus links hscript none m hub
  -- the flat chain is a nest as well, whose leaves are its links
  have hflat := walks_fetchFrom hvalid hannounce flatBus ((leavesOf links).map leaf)
    ((leavesOf_map_leaf (leavesOf links)).symm ▸ hscript) none
  rw [leavesOf_map_leaf, providersOf_map_leaf, providersOf_map_leaf] at hflat
  obtain ⟨result', m₂, hub₂, hnoted', hresult', hlook'⟩ := hflat m hub
  have hfetch : ∀ {Y : Type} (c : Chain (Hub L Y)),
      c.fetch pair = fetchFrom c.announce pair none c.providers := fun c =>
    fetch_of_isValid c hvalid
  simp only [hfetch]
  exact ⟨result, m₁, hub₁, result', m₂, hub₂, (walk script (leavesOf links) (look hub)).1, hnoted.1,
    hnoted'.1, hresult.trans hresult'.symm, hlook.trans hlook'.symm, hnoted.2, hnoted'.2,
    stops_walk _ _ _, fun hnone => (stops_walk _ _ _).map_fst_of_none (hresult.symm.trans hnone)⟩

open Nest in
/-- A chain whose first link is a chain of a provider that fails and counts its failures and of a
chain without providers, where every announcement fails. -/
theorem fetch_nested_of_two :
    let broken : Provider (Hub Unit Nat) := ⟨"broken", fun _ => Job.change fun hub =>
      (.error (.timeout "broken"), { hub with outside := hub.outside + 1 })⟩
    let steady : Provider (Hub Unit Nat) := ⟨"steady", fun pair => .done (.ok ⟨1.0, pair⟩)⟩
    let publish : Publisher Unit Nat := fun _ _ => .done (.error .noChannel)
    let pair := Pair.ofTexts "btc" "uah"
    let links := [chain 1 [leaf (broken, 0), chain 2 []], leaf (steady, 1)]
    let hub := Hub.ofDispatch .sequential 0
    ∃ result m₁ hub₁ result' m₂ hub₂,
      ((Chain.mk (providersOf publish.announce Prod.fst links) (publish.announce 0)).fetch pair).Ends
        Moment.start hub result m₁ hub₁ ∧
      ((Chain.mk [broken, steady] (publish.announce 3)).fetch pair).Ends Moment.start hub result' m₂
        hub₂ ∧
      result.toOption = result'.toOption ∧ hub₁.outside = hub₂.outside := by
  intro broken steady publish pair links hub
  have hvalid : pair.isValid = true := by decide +kernel
  have hannounce : ∀ bus payload, (publish.announce bus payload).LeavesAlone Hub.outside :=
    fun _ _ m _ => ⟨m, _, rfl, rfl⟩
  let script : Provider (Hub Unit Nat) × Nat → Nat → Except RateError Rate × Nat := fun link count =>
    if link.2 = 0 then (.error (.timeout "broken"), count + 1) else (.ok ⟨1.0, pair⟩, count)
  have hscript : ∀ link ∈ leavesOf links, link.1.Follows Hub.outside pair (script link) := by
    intro link hlink
    rcases List.mem_cons.1 hlink with rfl | hlink
    · exact fun m _ => ⟨m, _, rfl, rfl⟩
    · rw [List.mem_singleton.1 hlink]
      exact fun m _ => ⟨m, _, rfl, rfl⟩
  obtain ⟨result, m₁, hub₁, result', m₂, hub₂, -, hends, hends', hsame, hleft, -⟩ :=
    fetch_nested hvalid hannounce hscript 0 3 Moment.start hub
  exact ⟨result, m₁, hub₁, result', m₂, hub₂, hends, hends', hsame, hleft⟩

end Chain

end RateHerald
