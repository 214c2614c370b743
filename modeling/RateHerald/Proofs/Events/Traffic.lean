import Mathlib.Logic.Relation
import RateHerald.Proofs.Events.Answers
import RateHerald.Proofs.Events.Books

/-!
# Requests at the same time

Any number of requests may be under way on one hub, each with the listeners that it calls and all
that they request in turn, and others may be at work beside them. They take their steps in any
order, and time passes as it likes. What is told here holds whatever the order: an answer reaches
the request that asked for it, and no other, and an answer that comes too late reaches nobody.

A request is recognised by its channel. It opens one before it does anything else, so its channel is
the first one that it opens; those that it opens later are those of requests that its listeners
make.

## Main declarations

* `Crew` and `Crew.Step`: several at work on one hub, and what one of them does.
* `Crew.Runs`: any number of steps, in any order. `Crew.ComesTo` lets one request
  go on alone.
* `Crew.InLine`, the invariant, with the step lemma `Crew.InLine.step`.
* `Crew.IsOrderly`: what can be told about the answers to requests at the same time.
* `Crew.isOrderly_of_runs`: it always can.
-/

namespace RateHerald

variable {L X : Type}

/-- Several at work on one hub. -/
structure Crew (L X : Type) where
  /-- What time it is. -/
  time : Moment
  /-- The hub. -/
  hub : Hub L (X × Diary)
  /-- The requests, as far as they have come. -/
  requests : List (HubJob L (X × Diary) (Except BusError Responses))
  /-- Those who do something else. -/
  helpers : List (HubJob L (X × Diary) Unit)
  /-- What was written down. -/
  books : Books

namespace Crew

/-- Nobody at work on a hub where nothing has happened yet. -/
def new (time : Moment) (buses : List (Bus L)) (outside : X) : Crew L X :=
  ⟨time, ⟨buses, [], 0, (outside, ⟨[], []⟩)⟩, [], [], .empty⟩

/-- One step. -/
inductive Step (publish : Publisher L (X × Diary)) : Crew L X → Crew L X → Prop where
  /-- Somebody begins a request. -/
  | ask (crew : Crew L X) (bus : Nat) (r : Request) :
      Step publish crew { crew with requests := crew.requests ++ [publish.request bus r] }
  /-- Somebody begins to do something else: it may answer what is on the shelf. -/
  | join (crew : Crew L X) {p : HubJob L (X × Diary) Unit} (h : Honest publish (fun _ => False) p) :
      Step publish crew { crew with helpers := crew.helpers ++ [p] }
  /-- A request takes a step. -/
  | request (crew : Crew L X) {j : Nat} {p p' : HubJob L (X × Diary) (Except BusError Responses)}
      {hub' : Hub L (X × Diary)} (hj : crew.requests[j]? = some p)
      (hmove : p.Move crew.time crew.hub hub' p') :
      Step publish crew
        { crew with
          hub := hub'
          requests := crew.requests.set j p'
          books := crew.books.note (.request j) crew.hub hub' }
  /-- Somebody else takes a step. -/
  | helper (crew : Crew L X) {k : Nat} {p p' : HubJob L (X × Diary) Unit}
      {hub' : Hub L (X × Diary)} (hk : crew.helpers[k]? = some p)
      (hmove : p.Move crew.time crew.hub hub' p') :
      Step publish crew
        { crew with
          hub := hub'
          helpers := crew.helpers.set k p'
          books := crew.books.note (.helper k) crew.hub hub' }
  /-- Something happens that has nothing to do with channels and answers. -/
  | aside (crew : Crew L X) {hub' : Hub L (X × Diary)} (h : crew.hub.Aside hub') :
      Step publish crew { crew with hub := hub' }
  /-- Time passes. -/
  | pass (crew : Crew L X) {m : Moment} (h : crew.time ≤ m) :
      Step publish crew { crew with time := m }

/-- Any number of steps. -/
abbrev Runs (publish : Publisher L (X × Diary)) : Crew L X → Crew L X → Prop :=
  Relation.ReflTransGen (Step publish)

end Crew

/-! ## How far a request has come -/

namespace Books

/-- The channel is the first one that somebody opened. -/
structure OpensFirst (books : Books) (who : Author) (i : Nat) : Prop where
  /-- He opened it. -/
  opener : books.openers[i]? = some who
  /-- He opened no other before. -/
  first : ∀ i' < i, books.openers[i']? ≠ some who

variable {books books' : Books} {who who' : Author} {i : Nat} {hub hub' : Hub L (X × Diary)}

theorem OpensFirst.mono (h : books.OpensFirst who i) (hle : books.Extends books') :
    books'.OpensFirst who i := by
  refine ⟨hle.opener h.opener, fun i' hi' hopener => h.first i' hi' ?_⟩
  obtain ⟨more, hmore⟩ := hle.openers
  have hlt := Nat.lt_trans hi' (List.getElem?_eq_some_iff.1 h.opener).1
  rwa [← hmore, List.getElem?_append_left hlt] at hopener

/-- A step opens channels for the one who takes it. -/
theorem mem_openers_note (h : who' ∈ (books.note who hub hub').openers) :
    who' ∈ books.openers ∨ who' = who := by
  rw [note, List.mem_append] at h
  exact h.imp_right List.eq_of_mem_replicate

end Books

/-- How far a request has come: it begins, it breaks off without a deadline, it is about to open its
channel, or it has one, and then it will end with answers from that channel. -/
inductive Underway (publish : Publisher L (X × Diary)) (books : Books) (j : Nat) :
    HubJob L (X × Diary) (Except BusError Responses) → Prop where
  | begins (hnone : Author.request j ∉ books.openers) (bus : Nat) (r : Request) :
      Underway publish books j (publish.request bus r)
  | breaks (why : String) : Underway publish books j (.halt why)
  | opens (hnone : Author.request j ∉ books.openers) (bus : Nat) (r : Request) (deadline : Moment) :
      Underway publish books j (publish.requestUntil deadline bus r)
  | waits {p : HubJob L (X × Diary) (Except BusError Responses)} {i : Nat}
      (hfirst : books.OpensFirst (.request j) i)
      (h : p.Keeps (traffic L X (.request j)).watch (fun books result =>
        (∃ n, books.closed i n) ∧ ∀ responses, result = .ok responses → ∀ e ∈ responses.events,
          books.Holds i e) books) : Underway publish books j p

namespace Underway

variable {publish : Publisher L (X × Diary)} {books books' : Books} {j : Nat}
  {p p' : HubJob L (X × Diary) (Except BusError Responses)} {hub hub' : Hub L (X × Diary)}
  {m : Moment}

/-- What a request comes to stays true while the others are at work. -/
theorem post_mono {i : Nat} {result : Except BusError Responses} (hle : books.Extends books')
    (h : (∃ n, books.closed i n) ∧ ∀ responses, result = .ok responses → ∀ e ∈ responses.events,
      books.Holds i e) :
    (∃ n, books'.closed i n) ∧ ∀ responses, result = .ok responses → ∀ e ∈ responses.events,
      books'.Holds i e :=
  ⟨h.1.imp fun n => hle.closed i n, fun responses hok e he => hle.holds (h.2 responses hok e he)⟩

/-- A request stays where it is while the others are at work. -/
theorem mono (h : Underway publish books j p) (hle : books.Extends books')
    (hnone : Author.request j ∈ books'.openers → Author.request j ∈ books.openers) :
    Underway publish books' j p := by
  cases h with
  | begins h bus r => exact .begins (mt hnone h) bus r
  | breaks why => exact .breaks why
  | opens h bus r deadline => exact .opens (mt hnone h) bus r deadline
  | waits hfirst h => exact .waits (hfirst.mono hle) (h.mono post_mono hle)

/-- A step of the request brings it further, and the books agree with the hub again. -/
theorem move (hpublish : (traffic L X (.request j)).IsKeptBy publish)
    (h : Underway publish books j p) (hbooked : Booked books hub) (hmove : p.Move m hub hub' p') :
    Booked (books.note (.request j) hub hub') hub' ∧
      Underway publish (books.note (.request j) hub hub') j p' := by
  cases h with
  | begins hnone bus r =>
    rw [Publisher.request_eq] at hmove
    cases hmove with
    | act change next =>
      have hquiet : hub.IsQuiet hub := Hub.Aside.isQuiet ⟨rfl, rfl, rfl⟩
      refine ⟨hbooked.note hquiet.grows _, ?_⟩
      dsimp only
      cases m.deadline? r.timeout with
      | none => exact .breaks _
      | some deadline =>
        refine .opens ?_ bus r deadline
        rw [Books.note, Nat.sub_self, List.replicate_zero, List.append_nil]
        exact hnone
  | breaks why => cases hmove
  | opens hnone bus r deadline =>
    rw [Publisher.requestUntil_eq] at hmove
    cases hmove with
    | act change next =>
      obtain ⟨hagrees, hlends⟩ :=
        (traffic L X (.request j)).agrees_openChannel r.expected.length hbooked
      refine ⟨hagrees, .waits (i := hub.channels.length) ⟨hlends, fun i hi hopener => ?_⟩ ?_⟩
      · rw [← hbooked.openers] at hi
        rw [Books.note, List.getElem?_append_left hi] at hopener
        exact hnone (List.mem_of_getElem? hopener)
      · exact (traffic L X (.request j)).keeps_requestOn hpublish hlends bus r deadline
  | waits hfirst h =>
    obtain ⟨hagrees, hkeeps⟩ := h.move post_mono hbooked hmove
    exact ⟨hagrees, .waits (hfirst.mono (.note _ _ _ _)) hkeeps⟩

end Underway

/-! ## Steps without company -/

namespace Crew

/-- There is a run in which nobody but this request takes steps, until it stands like this. -/
def ComesTo (publish : Publisher L (X × Diary)) (crew : Crew L X) (j : Nat) (m : Moment)
    (hub : Hub L (X × Diary)) (p : HubJob L (X × Diary) (Except BusError Responses)) : Prop :=
  ∃ crew', Runs publish crew crew' ∧ crew'.time = m ∧ crew'.hub = hub ∧
    crew'.requests = crew.requests.set j p

namespace ComesTo

variable {publish : Publisher L (X × Diary)} {crew : Crew L X} {j : Nat} {m m' : Moment}
  {hub hub' : Hub L (X × Diary)} {p p' : HubJob L (X × Diary) (Except BusError Responses)}

theorem start (hj : crew.requests[j]? = some p) : ComesTo publish crew j crew.time crew.hub p := by
  obtain ⟨hlt, rfl⟩ := List.getElem?_eq_some_iff.1 hj
  exact ⟨crew, .refl, rfl, rfl, List.set_getElem_self hlt |>.symm⟩

theorem move (h : ComesTo publish crew j m hub p) (hj : j < crew.requests.length)
    (hmove : p.Move m hub hub' p') : ComesTo publish crew j m hub' p' := by
  obtain ⟨crew', hruns, rfl, rfl, hrequests⟩ := h
  have hp : crew'.requests[j]? = some p := by
    rw [hrequests, List.getElem?_set_self hj]
  refine ⟨_, hruns.tail (.request crew' hp hmove), rfl, rfl, ?_⟩
  rw [hrequests, List.set_set]

theorem pass (h : ComesTo publish crew j m hub p) (hle : m ≤ m') :
    ComesTo publish crew j m' hub p := by
  obtain ⟨crew', hruns, rfl, rfl, hrequests⟩ := h
  exact ⟨_, hruns.tail (.pass crew' hle), rfl, rfl, hrequests⟩

/-- Without company a request comes to what it comes to alone. -/
theorem ends {limit : Moment} (hp : p.IsPunctual limit) (h : ComesTo publish crew j m hub p)
    (hj : j < crew.requests.length) {result : Except BusError Responses}
    (hends : p.Ends m hub result m' hub') (hle : m' ≤ limit) :
    ComesTo publish crew j m' hub' (.done result) := by
  have hm : m ≤ limit := Moment.le_trans hends.le hle
  induction hp generalizing m hub with
  | done _ =>
    cases hends
    exact h
  | act _ ih => exact ih _ _ hm (h.move hj (.act _ _)) hends hm
  | @wait pause next hpause _ ih =>
    obtain ⟨hready, hnext⟩ | ⟨due, hready, -, hnotcome, hwoken, hnext⟩ := hends.of_isPunctual hpause
    · exact ih _ _ hm hready (h.move hj (.go next hready)) hnext hm
    · -- the request looks in vain, time passes until it is due, and then it goes on
      have hin := Moment.le_trans hnext.le hle
      have hlooked := h.move hj (.look next hready)
      have hdue := hlooked.pass ((Moment.le_total due m).resolve_left hnotcome)
      exact ih _ _ hin hwoken (hdue.move hj (.go next hwoken)) hnext hin

end ComesTo

end Crew

/-! ## The invariant -/

namespace Crew

/-- The books agree with the hub, every request is under way on a channel of its own, and all others
are kept in line. -/
structure InLine (publish : Publisher L (X × Diary)) (crew : Crew L X) : Prop where
  /-- The books agree with the hub. -/
  booked : Booked crew.books crew.hub
  /-- Every request is under way. -/
  requests : ∀ j p, crew.requests[j]? = some p → Underway publish crew.books j p
  /-- Everybody else is kept in line. -/
  helpers : ∀ k (p : HubJob L (X × Diary) Unit), crew.helpers[k]? = some p →
    p.IsKept (traffic L X (.helper k)).watch crew.books
  /-- Channels were opened by requests that are there. -/
  present : ∀ j, Author.request j ∈ crew.books.openers → j < crew.requests.length

variable {publish : Publisher L (X × Diary)} {crew crew' crew'' : Crew L X}

theorem inLine_new (publish : Publisher L (X × Diary)) (time : Moment) (buses : List (Bus L))
    (outside : X) : InLine publish (new time buses outside) where
  booked :=
    { openers := rfl
      issuers := rfl
      replies := rfl
      knows := fun _ h => absurd h List.not_mem_nil
      knows_shelf := fun _ h => absurd h List.not_mem_nil
      number_lt := fun _ h => absurd h List.not_mem_nil
      eq_of_number := fun _ h => absurd h List.not_mem_nil
      holds := fun _ _ h => absurd h List.not_mem_nil
      closed := fun _ _ h => h.elim }
  requests _ _ h := by cases h
  helpers _ _ h := by cases h
  present _ h := absurd h List.not_mem_nil

theorem of_getElem?_concat {α : Type} {xs : List α} {x y : α} {k : Nat}
    (h : (xs ++ [x])[k]? = some y) : xs[k]? = some y ∨ (¬k < xs.length ∧ y = x) := by
  rw [List.getElem?_append] at h
  split at h
  · exact .inl h
  · next hlt =>
    obtain ⟨-, rfl⟩ := List.getElem?_eq_some_iff.1 h
    exact .inr ⟨hlt, List.getElem_singleton _⟩

theorem of_getElem?_set {α : Type} {xs : List α} {x y : α} {j k : Nat}
    (h : (xs.set j x)[k]? = some y) : (j = k ∧ y = x) ∨ (j ≠ k ∧ xs[k]? = some y) := by
  by_cases hsame : j = k
  · subst hsame
    have hlt : j < (xs.set j x).length := (List.getElem?_eq_some_iff.1 h).1
    rw [List.length_set] at hlt
    rw [List.getElem?_set_self hlt, Option.some_inj] at h
    exact .inl ⟨rfl, h.symm⟩
  · rw [List.getElem?_set_ne hsame] at h
    exact .inr ⟨hsame, h⟩

namespace InLine

/-- Those who are not at work stay in line while the books grow. -/
theorem helpers_of_extends (h : InLine publish crew) {books : Books}
    (hle : crew.books.Extends books) {k : Nat} {p : HubJob L (X × Diary) Unit}
    (hk : crew.helpers[k]? = some p) : p.IsKept (traffic L X (.helper k)).watch books :=
  (h.helpers k p hk).mono (fun _ _ => trivial) hle

/-- A request that begins has no channel yet. -/
theorem ask (h : InLine publish crew) (bus : Nat) (r : Request) :
    InLine publish { crew with requests := crew.requests ++ [publish.request bus r] } := by
  refine ⟨h.booked, fun j p hj => ?_, h.helpers, fun j hj => ?_⟩
  · obtain hold | ⟨hlt, rfl⟩ := of_getElem?_concat hj
    · exact h.requests j p hold
    · exact .begins (mt (h.present j) hlt) bus r
  · change j < (crew.requests ++ [publish.request bus r]).length
    rw [List.length_append]
    exact Nat.lt_add_right _ (h.present j hj)

/-- Whoever begins to do something honest will be kept in line. -/
theorem join (hpublish : ∀ who, (traffic L X who).IsKeptBy publish) (h : InLine publish crew)
    {p : HubJob L (X × Diary) Unit} (hhonest : Honest publish (fun _ => False) p) :
    InLine publish { crew with helpers := crew.helpers ++ [p] } := by
  refine ⟨h.booked, h.requests, fun k q hk => ?_, h.present⟩
  obtain hold | ⟨-, rfl⟩ := of_getElem?_concat hk
  · exact h.helpers k q hold
  · exact (traffic L X (.helper k)).isKept_of_honest (hpublish _) hhonest fun _ hno => hno.elim

/-- A step of a request opens channels for that request only. -/
theorem request (hpublish : ∀ who, (traffic L X who).IsKeptBy publish) (h : InLine publish crew)
    {j : Nat} {p p' : HubJob L (X × Diary) (Except BusError Responses)} {hub' : Hub L (X × Diary)}
    (hj : crew.requests[j]? = some p) (hmove : p.Move crew.time crew.hub hub' p') :
    InLine publish
      { crew with
        hub := hub'
        requests := crew.requests.set j p'
        books := crew.books.note (.request j) crew.hub hub' } := by
  obtain ⟨hbooked, hunderway⟩ := (h.requests j p hj).move (hpublish _) h.booked hmove
  have hle := Books.Extends.note (.request j) crew.books crew.hub hub'
  refine ⟨hbooked, fun j' q hj' => ?_, fun k q hk => h.helpers_of_extends hle hk,
    fun j' hj' => ?_⟩
  · obtain ⟨rfl, rfl⟩ | ⟨hother, hold⟩ := of_getElem?_set hj'
    · exact hunderway
    · refine (h.requests j' q hold).mono hle fun hmem => ?_
      obtain hmem | heq := Books.mem_openers_note hmem
      · exact hmem
      · exact absurd (Author.request.inj heq).symm hother
  · change j' < (crew.requests.set j p').length
    rw [List.length_set]
    obtain hold | heq := Books.mem_openers_note hj'
    · exact h.present j' hold
    · rw [Author.request.inj heq]
      exact (List.getElem?_eq_some_iff.1 hj).1

/-- A step of anybody else opens no channel for a request that is there. -/
theorem helper (h : InLine publish crew) {k : Nat} {p p' : HubJob L (X × Diary) Unit}
    {hub' : Hub L (X × Diary)} (hk : crew.helpers[k]? = some p)
    (hmove : p.Move crew.time crew.hub hub' p') :
    InLine publish
      { crew with
        hub := hub'
        helpers := crew.helpers.set k p'
        books := crew.books.note (.helper k) crew.hub hub' } := by
  obtain ⟨hbooked, hkeeps⟩ := (h.helpers k p hk).move (fun _ _ => trivial) h.booked hmove
  have hle := Books.Extends.note (.helper k) crew.books crew.hub hub'
  have hnone : ∀ j, Author.request j ∈ (crew.books.note (.helper k) crew.hub hub').openers →
      Author.request j ∈ crew.books.openers :=
    fun j hmem => (Books.mem_openers_note hmem).resolve_right nofun
  refine ⟨hbooked, fun j q hj => (h.requests j q hj).mono hle (hnone j), fun k' q hk' => ?_,
    fun j hj => h.present j (hnone j hj)⟩
  obtain ⟨rfl, rfl⟩ | ⟨-, hold⟩ := of_getElem?_set hk'
  · exact hkeeps
  · exact h.helpers_of_extends hle hold

/-- Every step keeps the invariant. -/
theorem step (hpublish : ∀ who, (traffic L X who).IsKeptBy publish) (h : InLine publish crew)
    (hstep : Step publish crew crew') : InLine publish crew' := by
  cases hstep with
  | ask bus r => exact h.ask bus r
  | join hhonest => exact h.join hpublish hhonest
  | request hj hmove => exact h.request hpublish hj hmove
  | helper hk hmove => exact h.helper hk hmove
  | aside haside => exact ⟨h.booked.of_isQuiet haside.isQuiet, h.requests, h.helpers, h.present⟩
  | pass hle => exact ⟨h.booked, h.requests, h.helpers, h.present⟩

end InLine

/-- Whatever is in the books stays there. -/
theorem Step.extends (hstep : Step publish crew crew') : crew.books.Extends crew'.books := by
  cases hstep with
  | request => exact .note _ _ _ _
  | helper => exact .note _ _ _ _
  | _ => exact .refl _

/-- However many steps are taken, and in whatever order, the invariant holds. -/
theorem InLine.runs (hpublish : ∀ who, (traffic L X who).IsKeptBy publish)
    (h : InLine publish crew) (hruns : Runs publish crew crew') :
    InLine publish crew' ∧ crew.books.Extends crew'.books := by
  induction hruns with
  | refl => exact ⟨h, .refl _⟩
  | tail _ hstep ih => exact ⟨ih.1.step hpublish hstep, ih.2.trans hstep.extends⟩

/-- What is written down has no influence on the steps. -/
theorem Step.withBooks (hstep : Step publish crew crew') (books : Books) :
    ∃ books', Step publish { crew with books := books } { crew' with books := books' } := by
  cases hstep with
  | ask bus r => exact ⟨_, .ask { crew with books := books } bus r⟩
  | join h => exact ⟨_, .join { crew with books := books } h⟩
  | request hj hmove => exact ⟨_, .request { crew with books := books } hj hmove⟩
  | helper hk hmove => exact ⟨_, .helper { crew with books := books } hk hmove⟩
  | aside h => exact ⟨_, .aside { crew with books := books } h⟩
  | pass h => exact ⟨_, .pass { crew with books := books } h⟩

theorem Runs.withBooks (hruns : Runs publish crew crew') (books : Books) :
    ∃ books', Runs publish { crew with books := books } { crew' with books := books' } := by
  induction hruns with
  | refl => exact ⟨books, .refl⟩
  | tail _ hstep ih =>
    obtain ⟨books', hruns'⟩ := ih
    obtain ⟨books'', hstep'⟩ := hstep.withBooks books'
    exact ⟨books'', hruns'.tail hstep'⟩

/-- One may write down at any time which channels are closed. -/
theorem InLine.noted (h : InLine publish crew) :
    InLine publish { crew with books := crew.books.note (.helper 0) crew.hub crew.hub } := by
  have hle := Books.Extends.note (.helper 0) crew.books crew.hub crew.hub
  have hopeners : (crew.books.note (.helper 0) crew.hub crew.hub).openers = crew.books.openers := by
    rw [Books.note, Nat.sub_self, List.replicate_zero, List.append_nil]
  have hquiet : crew.hub.IsQuiet crew.hub := Hub.Aside.isQuiet ⟨rfl, rfl, rfl⟩
  refine ⟨h.booked.note hquiet.grows _, fun j p hj => ?_, fun k p hk => ?_, fun j hj => ?_⟩
  · exact (h.requests j p hj).mono hle fun hmem => hopeners ▸ hmem
  · exact h.helpers_of_extends hle hk
  · exact h.present j (hopeners ▸ hj)

/-! ## What can be told -/

/-- The request has ended. -/
def HasEnded (crew : Crew L X) (j : Nat) : Prop :=
  ∃ result, crew.requests[j]? = some (.done result)

/-- The request has ended, and the event is among the answers that it got. -/
def Received (crew : Crew L X) (j : Nat) (e : Event) : Prop :=
  ∃ responses, crew.requests[j]? = some (.done (.ok responses)) ∧ e ∈ responses.events

/-- The event answers an event that somebody published on a channel that he had opened. -/
structure Answers (crew : Crew L X) (who : Author) (i : Nat) (e : Event) (reply : Rejoinder) :
    Prop where
  /-- Somebody gave this answer. -/
  mem : reply ∈ crew.hub.diary.replies
  /-- It was sent. -/
  sent : reply.delivery = some .sent
  /-- The event is this answer. -/
  eq_answer : e = reply.answer
  /-- It names the event that it answers. -/
  answers : e.answers = some reply.event.id
  /-- Its kind is that of what it tells. -/
  kind : e.kind = e.payload.kind
  /-- The event that it answers asks for an answer on the channel. -/
  channel : reply.event.channel = some i
  /-- The channel was opened by the one who is answered. -/
  opener : crew.books.openers[i]? = some who
  /-- The event that it answers was published by him as well. -/
  issuer : crew.books.issuers[reply.event.id]? = some who

/-- What can be told about the answers to requests at the same time. -/
structure IsOrderly (publish : Publisher L (X × Diary)) (crew : Crew L X) : Prop where
  /-- What a request got answers an event that it published itself, on its own channel. -/
  received : ∀ j e, crew.Received j e → ∃ i reply, crew.books.OpensFirst (.request j) i ∧
    crew.Answers (.request j) i e reply
  /-- The same holds of whatever a wait comes to, also that of a request that a listener made. -/
  waited : ∀ i expected responses, Wait.outcome expected (crew.hub.taken i) = .ok responses →
    ∀ e ∈ responses.events, ∃ who reply, crew.Answers who i e reply
  /-- No answer is received by two requests. -/
  received_once : ∀ j j' e, crew.Received j e → crew.Received j' e → j = j'
  /-- No answer is taken out of two channels. -/
  taken_once : ∀ i i' e, e ∈ crew.hub.taken i → e ∈ crew.hub.taken i' → i = i'
  /-- When a request has ended its channel is closed. -/
  closed : ∀ j, crew.HasEnded j → ∃ i, crew.books.OpensFirst (.request j) i ∧ crew.hub.IsClosed i
  /-- An answer on a channel that is closed is no failure, and nobody gets it. -/
  late : ∀ i crew', crew.hub.IsClosed i → Runs publish crew crew' →
    ∃ late, crew'.hub.diary.replies = crew.hub.diary.replies ++ late ∧
      ∀ reply ∈ late, reply.event.channel = some i → reply.result = .ok () ∧
        (∀ j, ¬crew'.Received j reply.answer) ∧ ∀ i', reply.answer ∉ crew'.hub.contents i'

namespace InLine

theorem answers_of_holds (h : InLine publish crew) {i : Nat} {e : Event}
    (he : crew.books.Holds i e) : ∃ who reply, crew.Answers who i e reply := by
  obtain ⟨reply, hreply, hsent, hchannel, rfl⟩ := he
  obtain ⟨who, hissuer, hopener⟩ := h.booked.knows reply hreply
  exact ⟨who, reply, h.booked.replies ▸ hreply, hsent, rfl, rfl, rfl, hchannel, hopener i hchannel,
    hissuer⟩

/-- A request that has ended had a channel of its own, which is closed, and what it got was put into
it. -/
theorem ended (h : InLine publish crew) {j : Nat} {result : Except BusError Responses}
    (hj : crew.requests[j]? = some (.done result)) :
    ∃ i, crew.books.OpensFirst (.request j) i ∧ (∃ n, crew.books.closed i n) ∧
      ∀ responses, result = .ok responses → ∀ e ∈ responses.events, crew.books.Holds i e := by
  have hunderway := h.requests j _ hj
  generalize hp : (Job.done result : HubJob L (X × Diary) _) = p at hunderway
  cases hunderway with
  | begins => cases hp
  | breaks => cases hp
  | opens => cases hp
  | waits hfirst hkeeps =>
    subst hp
    cases hkeeps with
    | done hpost => exact ⟨_, hfirst, hpost⟩

theorem holds_of_received (h : InLine publish crew) {j : Nat} {e : Event}
    (he : crew.Received j e) :
    ∃ i, crew.books.OpensFirst (.request j) i ∧ crew.books.Holds i e := by
  obtain ⟨responses, hj, he⟩ := he
  obtain ⟨i, hfirst, -, hholds⟩ := h.ended hj
  exact ⟨i, hfirst, hholds responses rfl e he⟩

/-- An answer that was sent was sent on one channel. -/
theorem eq_of_holds (h : InLine publish crew) {i i' : Nat} {e : Event} (he : crew.books.Holds i e)
    (he' : crew.books.Holds i' e) : i = i' := by
  obtain ⟨reply, hreply, hsent, hchannel, rfl⟩ := he
  obtain ⟨reply', hreply', hsent', hchannel', hanswer⟩ := he'
  obtain rfl := h.booked.eq_of_number reply hreply reply' hreply' (hsent ▸ nofun) (hsent' ▸ nofun)
    (congrArg Event.id hanswer).symm
  exact Option.some_inj.1 (hchannel.symm.trans hchannel')

/-- An answer that was lost was not sent. -/
theorem not_holds_of_lost (h : InLine publish crew) {reply : Rejoinder}
    (hreply : reply ∈ crew.books.replies) (hlost : reply.delivery = some .closed) (i : Nat) :
    ¬crew.books.Holds i reply.answer := by
  rintro ⟨reply', hreply', hsent, -, hanswer⟩
  obtain rfl := h.booked.eq_of_number reply' hreply' reply hreply (hsent ▸ nofun) (hlost ▸ nofun)
    (congrArg Event.id hanswer)
  rw [hlost] at hsent
  cases hsent

/-- If the channel was closed when there were `n` answers, then those that came later and are meant
for it are lost. -/
theorem not_received_of_lost (h : InLine publish crew) {i n : Nat} (hn : crew.books.closed i n)
    {reply : Rejoinder} (hreply : reply ∈ crew.hub.diary.replies.drop n)
    (hchannel : reply.event.channel = some i) :
    reply.result = .ok () ∧ (∀ j, ¬crew.Received j reply.answer) ∧
      ∀ i', reply.answer ∉ crew.hub.contents i' := by
  rw [← h.booked.replies] at hreply
  obtain ⟨hlost, hok⟩ := (h.booked.closed i n hn).2.2 reply hreply hchannel
  have hnot := h.not_holds_of_lost (List.mem_of_mem_drop hreply) hlost
  refine ⟨hok, fun j hreceived => ?_, fun i' hmem => hnot i' (h.booked.holds i' _ hmem)⟩
  obtain ⟨i', -, hholds⟩ := h.holds_of_received hreceived
  exact hnot i' hholds

theorem isOrderly (hpublish : ∀ who, (traffic L X who).IsKeptBy publish)
    (h : InLine publish crew) : IsOrderly publish crew where
  received j e he := by
    obtain ⟨i, hfirst, hholds⟩ := h.holds_of_received he
    obtain ⟨who, reply, hanswers⟩ := h.answers_of_holds hholds
    have hwho : who = .request j := Option.some_inj.1 (hanswers.opener.symm.trans hfirst.opener)
    exact ⟨i, reply, hfirst, hwho ▸ hanswers⟩
  waited i expected responses hok e he := by
    have htaken := Wait.mem_of_outcome hok e he
    exact h.answers_of_holds (h.booked.holds i e (Hub.mem_contents_of_mem_taken htaken))
  received_once j j' e he he' := by
    obtain ⟨i, hfirst, hholds⟩ := h.holds_of_received he
    obtain ⟨i', hfirst', hholds'⟩ := h.holds_of_received he'
    obtain rfl := h.eq_of_holds hholds hholds'
    have hwho := Option.some_inj.1 (hfirst.opener.symm.trans hfirst'.opener)
    cases hwho
    rfl
  taken_once i i' e he he' :=
    h.eq_of_holds (h.booked.holds i e (Hub.mem_contents_of_mem_taken he))
      (h.booked.holds i' e (Hub.mem_contents_of_mem_taken he'))
  closed j hended := by
    obtain ⟨result, hj⟩ := hended
    obtain ⟨i, hfirst, ⟨n, hn⟩, -⟩ := h.ended hj
    exact ⟨i, hfirst, (h.booked.closed i n hn).1⟩
  late i crew' hclosed hruns := by
    obtain ⟨books', hruns'⟩ := hruns.withBooks (crew.books.note (.helper 0) crew.hub crew.hub)
    obtain ⟨h', hle⟩ := h.noted.runs hpublish hruns'
    obtain ⟨late, hlate⟩ := hle.replies
    have hreplies : crew'.hub.diary.replies = crew.hub.diary.replies ++ late := by
      rw [← h'.booked.replies, ← h.noted.booked.replies]
      exact hlate.symm
    refine ⟨late, hreplies, fun reply hreply hchannel => ?_⟩
    have hnoted := hle.closed i _ (.inr ⟨hclosed, rfl⟩)
    refine h'.not_received_of_lost hnoted ?_ hchannel
    rwa [hreplies, List.drop_left]

end InLine

/-- The first answer that a request came to. -/
def firstAnswer? : Except BusError Responses → Option Event
  | .ok responses => responses.events.head?
  | .error _ => none

theorem received_of_firstAnswer? {j : Nat} {result : Except BusError Responses} {e : Event}
    (hj : crew.requests[j]? = some (.done result)) (he : firstAnswer? result = some e) :
    crew.Received j e := by
  cases result with
  | ok responses => exact ⟨responses, hj, List.mem_of_mem_head? he⟩
  | error _ => cases he

/-- Whatever requests there are at the same time, whatever listeners they call that answer only what
they are given, and in whatever order all take their steps: answers reach the requests that asked
for them. -/
theorem isOrderly_of_runs {handle : Handler L (X × Diary)} (h : handle.IsHonest) (depth : Nat)
    {time : Moment} {buses : List (Bus L)} {outside : X}
    (hruns : Runs (handle.publisher depth) (new time buses outside) crew) :
    crew.IsOrderly (handle.publisher depth) := by
  have hpublish : ∀ who, (traffic L X who).IsKeptBy (handle.publisher depth) :=
    fun who => (traffic L X who).isKept_publisher h depth
  have hinline := ((inLine_new _ time buses outside).runs hpublish hruns).1
  exact hinline.isOrderly hpublish

/-- Two requests at the same time, which one listener answers. -/
theorem isOrderly_of_two_requests :
    let publish := Handler.answering.publisher 1
    let told := Payload.rateResponded ⟨2.5, Pair.ofTexts "btc" "uah"⟩
    let buses := ((Hub.ofDispatch .concurrent ()).listen 0 .rateRequested (2000, some told)).buses
    ∃ crew e e', Runs publish (new Moment.start buses ()) crew ∧ crew.IsOrderly publish ∧
      crew.Received 0 e ∧ crew.Received 1 e' := by
  intro publish told buses
  let r : Request :=
    ⟨"herald", [(.rateRequested (Pair.ofTexts "btc" "uah"), .rateResponded)], 5000⟩
  have hpunctual : (publish.request 0 r).IsPunctual ⟨4000, 0⟩ :=
    Publisher.isPunctual_request (Handler.isPunctual_publisher Handler.isPunctual_answering 1) 0
      (by decide)
  let asked : Crew (Nat × Option Payload) Unit :=
    { new Moment.start buses () with requests := [publish.request 0 r, publish.request 0 r] }
  have hasked : Runs publish (new Moment.start buses ()) asked :=
    (Relation.ReflTransGen.single (.ask _ 0 r)).tail (.ask _ 0 r)
  have hrun : (((publish.request 0 r).run asked.time asked.hub).done?.bind fun first =>
      ((publish.request 0 r).run first.2.1 first.2.2).done?.map fun second =>
        ((firstAnswer? first.1).isSome, (firstAnswer? second.1).isSome, first.2.1, second.2.1)) =
      some (true, true, ⟨2000, 0⟩, ⟨4000, 0⟩) := by
    decide +kernel
  obtain ⟨⟨result, m, hub⟩, hfirst, hrest⟩ := Option.bind_eq_some_iff.1 hrun
  obtain ⟨⟨result', m', hub'⟩, hsecond, hsummary⟩ := Option.map_eq_some_iff.1 hrest
  obtain ⟨hanswer, hanswer', hm, hm'⟩ : (firstAnswer? result).isSome ∧
      (firstAnswer? result').isSome ∧ m = ⟨2000, 0⟩ ∧ m' = ⟨4000, 0⟩ := by
    simpa using hsummary
  have hin : m ≤ ⟨4000, 0⟩ := by
    rw [hm]
    decide
  have hin' : m' ≤ ⟨4000, 0⟩ := hm' ▸ Moment.le_refl _
  obtain ⟨e, he⟩ := Option.isSome_iff_exists.1 hanswer
  obtain ⟨e', he'⟩ := Option.isSome_iff_exists.1 hanswer'
  -- the first request runs to its end, and then the second
  have hbegins : ComesTo publish asked 0 asked.time asked.hub (publish.request 0 r) := .start rfl
  obtain ⟨crew₁, hruns, rfl, rfl, hrequests⟩ :=
    hbegins.ends hpunctual Nat.two_pos (Job.ends_of_done? hfirst) hin
  have hj : crew₁.requests[1]? = some (publish.request 0 r) := by
    rw [hrequests]
    rfl
  obtain ⟨crew₂, hruns', -, -, hrequests'⟩ := (ComesTo.start hj).ends hpunctual
    (List.getElem?_eq_some_iff.1 hj).1 (Job.ends_of_done? hsecond) hin'
  rw [hrequests] at hrequests'
  have hall := (hasked.trans hruns).trans hruns'
  refine ⟨crew₂, e, e', hall, isOrderly_of_runs Handler.isHonest_answering 1 hall, ?_, ?_⟩
  · exact received_of_firstAnswer? (by rw [hrequests']; rfl) he
  · exact received_of_firstAnswer? (by rw [hrequests']; rfl) he'

end Crew

end RateHerald
