import RateHerald.Events.Request
import RateHerald.Proofs.Timed.GivenUp

/-!
# Onlookers

An onlooker takes notes of what somebody does on a hub. The notes are kept beside the world, and
those who work on the hub know nothing of them: they work on the hub without the notes. To do so
goes through whatever jobs are put together from, and a request is the same whether it is made
beside notes or by a publisher who works beside them.

## Main declarations

* `Hub.withNotes`, and `Hub.withoutNotes`, the part of such a hub that everybody knows.
* `Job.on_bind`, `Job.ensuring_on` and `Publisher.request_on`.
* `Job.Noted`: what comes of a job, and which notes are taken when it is watched.
-/

namespace RateHerald

variable {L X N σ τ α β : Type}

/-! ## Jobs on a part of the state -/

namespace Job

theorem on_bind (part : Part σ τ) (p : Job τ α) (f : α → Job τ β) :
    (p.bind f).on part = (p.on part).bind fun a => (f a).on part := by
  induction p with
  | done a => rfl
  | halt why => rfl
  | act change next ih => simp only [Job.bind, Job.on, ih]
  | wait pause next ih => simp only [Job.bind, Job.on, ih]

theorem ensuring_on {part : Part σ τ} (hpart : part.Lawful) (last : τ → τ) (p : Job τ α) :
    (ensuring last p).on part = ensuring (part.modify last) (p.on part) := by
  induction p with
  | done a => rfl
  | halt why => rfl
  | act change next ih => simp only [ensuring, Job.on, ih]
  | wait pause next ih =>
    have hdrop : ∀ s, part.modify (fun t => last (pause.drop t)) s =
        part.modify last (part.modify pause.drop s) := fun s => by
      rw [Part.modify, Part.modify, Part.modify, hpart.get_set, hpart.set_set]
    simp only [ensuring, Job.on, ih, Pause.on, ← hdrop]

end Job

/-! ## Notes beside the world -/

/-- The hub with notes beside the world. -/
def Hub.withNotes (notes : List N) (hub : Hub L X) : Hub L (X × List N) :=
  ⟨hub.buses, hub.channels, hub.events, (hub.outside, notes)⟩

/-- The hub without the notes. -/
def Hub.withoutNotes : Part (Hub L (X × List N)) (Hub L X) where
  get hub := ⟨hub.buses, hub.channels, hub.events, hub.outside.1⟩
  set hub noted := hub.withNotes noted.outside.2

theorem Hub.withoutNotes_lawful : (Hub.withoutNotes (L := L) (X := X) (N := N)).Lawful :=
  ⟨fun _ _ => rfl, fun _ => rfl, fun _ _ _ => rfl⟩

/-- Somebody who publishes beside notes. -/
def Publisher.besideNotes (publish : Publisher L X) : Publisher L (X × List N) := fun i e =>
  (publish i e).on Hub.withoutNotes

namespace Publisher

variable (publish : Publisher L X)

theorem tell_on (i : Nat) (source : String) (kind : Kind) (payload : Payload)
    (channel : Option Nat) :
    (publish.tell i source kind payload channel).on (Hub.withoutNotes (N := N)) =
      publish.besideNotes.tell i source kind payload channel :=
  Job.on_bind _ _ _

theorem ask_on (bus channel : Nat) (source : String) (expected : List Kind) (deadline : Moment)
    (payloads : List Payload) :
    (publish.ask bus channel source expected deadline payloads).on (Hub.withoutNotes (N := N)) =
      publish.besideNotes.ask bus channel source expected deadline payloads := by
  induction payloads with
  | nil => rfl
  | cons payload rest ih =>
    rw [ask, ask]
    refine (Job.on_bind _ _ _).trans ?_
    rw [← Job.within_on, tell_on]
    refine congrArg _ (funext fun answer => ?_)
    rcases answer with _ | e | _
    · rfl
    · rfl
    · exact ih

theorem requestUntil_on (deadline : Moment) (bus : Nat) (r : Request) :
    (publish.requestUntil deadline bus r).on (Hub.withoutNotes (N := N)) =
      publish.besideNotes.requestUntil deadline bus r := by
  refine (Job.on_bind _ _ _).trans (congrArg _ (funext fun channel => ?_))
  refine (Job.ensuring_on Hub.withoutNotes_lawful _ _).trans (congrArg _ ?_)
  refine (Job.on_bind _ _ _).trans ?_
  rw [ask_on]
  refine congrArg _ (funext fun answer => ?_)
  rcases answer with e | _ <;> rfl

/-- A request beside notes. -/
theorem request_on (bus : Nat) (r : Request) :
    (publish.request bus r).on (Hub.withoutNotes (N := N)) =
      publish.besideNotes.request bus r := by
  refine (Job.on_bind _ _ _).trans (congrArg _ (funext fun now => ?_))
  cases now.deadline? r.timeout with
  | none => rfl
  | some deadline => exact requestUntil_on publish deadline bus r

end Publisher

/-! ## Jobs that are watched -/

/-- A note is taken. -/
def Hub.takeNote (note : N) : HubJob L (X × List N) Unit :=
  Job.modify fun hub => { hub with outside := (hub.outside.1, hub.outside.2 ++ [note]) }

theorem Hub.ends_takeNote (note : N) (m : Moment) (hub : Hub L X) (notes : List N) :
    (Hub.takeNote note).Ends m (hub.withNotes notes) () m (hub.withNotes (notes ++ [note])) :=
  rfl

namespace Job

/-- The job comes to a result; if it is watched it does the same, and these notes are taken. -/
def Noted (p : HubJob L X α) (watched : HubJob L (X × List N) α) (m : Moment) (hub : Hub L X)
    (a : α) (m' : Moment) (hub' : Hub L X) (seen : List N) : Prop :=
  p.Ends m hub a m' hub' ∧
    ∀ notes, watched.Ends m (hub.withNotes notes) a m' (hub'.withNotes (notes ++ seen))

namespace Noted

variable {p : HubJob L X α} {watched : HubJob L (X × List N) α} {m m' m'' : Moment}
  {hub hub' hub'' : Hub L X} {a : α} {b : β} {seen more : List N}

theorem done (a : α) (m : Moment) (hub : Hub L X) :
    Noted (.done a) (.done a : HubJob L (X × List N) α) m hub a m hub [] :=
  ⟨ends_done a m hub, fun notes => by rw [List.append_nil]; exact ends_done _ _ _⟩

theorem bind {f : α → HubJob L X β} {f' : α → HubJob L (X × List N) β}
    (hp : p.Noted watched m hub a m' hub' seen) (hf : (f a).Noted (f' a) m' hub' b m'' hub'' more) :
    (p.bind f).Noted (watched.bind f') m hub b m'' hub'' (seen ++ more) :=
  ⟨hp.1.bind hf.1, fun notes => by
    rw [← List.append_assoc]
    exact (hp.2 notes).bind (hf.2 _)⟩

/-- A job with another report. -/
theorem map (h : p.Noted watched m hub a m' hub' seen) (f : α → β) :
    (p.bind fun a => .done (f a)).Noted (watched.bind fun a => .done (f a)) m hub (f a) m' hub'
      seen := by
  exact ⟨h.1.bind (ends_done _ _ _), fun notes => (h.2 notes).bind (ends_done _ _ _)⟩

/-- Nothing is seen of a job that knows nothing of the notes. -/
theorem on (h : p.Ends m hub a m' hub') :
    p.Noted (p.on (Hub.withoutNotes (N := N))) m hub a m' hub' [] :=
  ⟨h, fun notes => by
    rw [List.append_nil]
    exact Ends.on Hub.withoutNotes_lawful (s := hub.withNotes notes) h⟩

/-- A note is taken before a job and another one after it. -/
theorem between (h : p.Ends m hub a m' hub') (before : N) (after : α → N) :
    p.Noted (do
      Hub.takeNote before
      let a ← p.on Hub.withoutNotes
      Hub.takeNote (after a)
      return a) m hub a m' hub' [before, after a] := by
  refine ⟨h, fun notes => ?_⟩
  have hbefore := Hub.ends_takeNote before m hub notes
  have hafter := Hub.ends_takeNote (after a) m' hub' (notes ++ [before])
  have hjob := Ends.on Hub.withoutNotes_lawful (s := hub.withNotes (notes ++ [before])) h
  rw [List.append_cons]
  exact hbefore.bind (hjob.bind (hafter.bind (ends_done _ _ _)))

end Noted

end Job

end RateHerald
