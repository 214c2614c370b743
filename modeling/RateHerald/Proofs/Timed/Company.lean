import RateHerald.Proofs.Timed.Punctual

/-!
# A job in any company

`Job.run` runs a job alone. Here a job shares its state with others of whom nothing is known:
between any two of its steps they may put any state in place of the present one. Time passes as on a
clock that jumps: never while the job has work at hand, and never beyond the moment when it wants to
be woken. The history of a job in company keeps the moments of the job's own steps.

Whatever the company does, a job that ends by a limit does so: no step of it comes after the limit,
and time cannot get past the limit before the job has come to its result. A job that runs alone is a
special case.

## Main declarations

* `Job.Move` is one step of a job, `Job.LetsPass` tells how far time may pass meanwhile.
* `Job.Among` is the history of a job in company.
* `Job.EndsBy.among`: a job that ends by a limit ends when it is alone.
* `Job.Among.kept`: what the limit of a job says about its history.
* `Job.BreaksOff`: a job cannot go on, and has changed nothing; `Job.BreaksOff.bind`: neither can
  whatever begins with it.
-/

namespace RateHerald

variable {σ α : Type}

namespace Job

/-! ## Histories -/

/-- One step of a job in a moment and a state: it works, or it looks whether it can go on. -/
inductive Move (m : Moment) (s : σ) : Job σ α → σ → Job σ α → Prop where
  /-- The job changes the state. -/
  | act (change : Moment → σ → σ) (next : Moment → σ → Job σ α) :
      Move m s (.act change next) (change m s) (next m s)
  /-- The job looks and cannot go on. -/
  | look {pause : Pause σ} (next : Moment → σ → Job σ α)
      (h : pause.ready m (pause.look m s) = false) :
      Move m s (.wait pause next) (pause.look m s) (.wait pause next)
  /-- The job looks and goes on. -/
  | go {pause : Pause σ} (next : Moment → σ → Job σ α)
      (h : pause.ready m (pause.look m s) = true) :
      Move m s (.wait pause next) (pause.look m s) (next m (pause.look m s))

/-- Time may pass up to a moment while the job stands as it does: it has no work at hand, and need
not be woken before. -/
def LetsPass (m : Moment) : Job σ α → Prop
  | .done _ => True
  | .halt _ => True
  | .act _ _ => False
  | .wait pause _ => ∀ due, pause.due = some due → m ≤ due

/-- The history of a job in company, from a moment and a state on: the moments of its own steps, and
the moment, the state and the job as they are now. -/
inductive Among (p₀ : Job σ α) (m₀ : Moment) (s₀ : σ) :
    List Moment → Moment → σ → Job σ α → Prop where
  | start : Among p₀ m₀ s₀ [] m₀ s₀ p₀
  /-- The job takes a step. -/
  | works {steps : List Moment} {m : Moment} {s s' : σ} {p p' : Job σ α}
      (h : Among p₀ m₀ s₀ steps m s p) (hmove : p.Move m s s' p') :
      Among p₀ m₀ s₀ (steps ++ [m]) m s' p'
  /-- Others are at work. -/
  | others {steps : List Moment} {m : Moment} {s : σ} {p : Job σ α}
      (h : Among p₀ m₀ s₀ steps m s p) (s' : σ) : Among p₀ m₀ s₀ steps m s' p
  /-- Time passes. -/
  | passes {steps : List Moment} {m m' : Moment} {s : σ} {p : Job σ α}
      (h : Among p₀ m₀ s₀ steps m s p) (hle : m ≤ m') (hlets : p.LetsPass m') :
      Among p₀ m₀ s₀ steps m' s p

variable {limit m₀ m m' : Moment} {s₀ s s' : σ} {steps : List Moment} {p p₀ p' : Job σ α} {a : α}
  {post : Moment → α → Prop}

/-! ## Jobs that follow each other -/

section Bind

variable {β : Type} {f : α → Job σ β} {b : β} {q : Job σ β}

/-- As long as the first of two jobs is not done, a step of both is one of the first. -/
theorem Move.of_bind (h : (p.bind f).Move m s s' q) :
    (∃ a, p = .done a) ∨ ∃ p', p.Move m s s' p' ∧ p'.bind f = q := by
  cases p with
  | done a => exact .inl ⟨a, rfl⟩
  | halt why => cases h
  | act change next =>
    cases h
    exact .inr ⟨_, .act change next, rfl⟩
  | wait pause next =>
    cases h with
    | look _ hready => exact .inr ⟨_, .look next hready, rfl⟩
    | go _ hready => exact .inr ⟨_, .go next hready, rfl⟩

/-- Time that passes while two jobs are at hand passes while the first is. -/
theorem LetsPass.of_bind (h : (p.bind f).LetsPass m) : p.LetsPass m := by
  cases p with
  | done a => trivial
  | halt why => trivial
  | act change next => exact h
  | wait pause next => exact h

/-- Two jobs are not done before the first is. -/
theorem exists_done_of_bind (h : p.bind f = .done b) : ∃ a, p = .done a := by
  cases p with
  | done a => exact ⟨a, rfl⟩
  | halt why => cases h
  | act change next => cases h
  | wait pause next => cases h

end Bind

/-! ## Limits -/

/-- A job that ends by a limit still does after one step more; `t` is the moment of the step
before. -/
theorem EndsBy.move {t : Moment} (h : p.EndsBy limit post t) (hmove : p.Move m s s' p')
    (hle : t ≤ m) (hlimit : m ≤ limit) (hact : ∀ change next, p = .act change next → m = t) :
    p'.EndsBy limit post m := by
  cases hmove with
  | act change next =>
    cases h with
    | act h =>
      obtain rfl := hact _ _ rfl
      exact h s
  | look next hready =>
    cases h with
    | wait hpause hdue hlim h =>
      exact .wait hpause hdue hlim fun m' s' hle' => h m' s' (Moment.le_trans hle hle')
  | go next hready =>
    cases h with
    | wait _ _ _ h => exact h _ _ hle hlimit hready

/-- What the limit of a job says about its history; `t` is the moment of its last step. -/
structure Kept (limit m₀ : Moment) (post : Moment → α → Prop) (steps : List Moment) (m : Moment)
    (p : Job σ α) (t : Moment) : Prop where
  /-- The job ends by the limit. -/
  endsBy : p.EndsBy limit post t
  /-- The last step is the last one in the history, if there was a step. -/
  last : steps.getLast?.getD m₀ = t
  /-- No step comes after the last. -/
  le_last : ∀ u ∈ steps, u ≤ t
  /-- No step comes after the limit. -/
  le_limit : t ≤ limit
  /-- The last step is not yet to come. -/
  le_now : t ≤ m
  /-- No time has passed since the last step if there is work at hand. -/
  at_work : ∀ change next, p = .act change next → m = t
  /-- Time is not past the limit as long as the job pauses. -/
  at_pause : ∀ pause next, p = .wait pause next → m ≤ limit

namespace Kept

variable {t : Moment}

/-- A job is as it should be when it begins. -/
theorem start (h : p.EndsBy limit post m₀) (hm : m₀ ≤ limit) : Kept limit m₀ post [] m₀ p m₀ where
  endsBy := h
  last := rfl
  le_last := nofun
  le_limit := hm
  le_now := Moment.le_refl _
  at_work _ _ _ := rfl
  at_pause _ _ _ := hm

/-- A step is in time. -/
theorem works (h : Kept limit m₀ post steps m p t) (hmove : p.Move m s s' p') :
    Kept limit m₀ post (steps ++ [m]) m p' m := by
  have hin : m ≤ limit := by
    cases hmove with
    | act change next => exact h.at_work _ _ rfl ▸ h.le_limit
    | look next _ => exact h.at_pause _ _ rfl
    | go next _ => exact h.at_pause _ _ rfl
  refine ⟨h.endsBy.move hmove h.le_now hin h.at_work, ?_, fun u hu => ?_, hin, Moment.le_refl m,
    fun _ _ _ => rfl, fun _ _ _ => hin⟩
  · rw [List.getLast?_concat]
    rfl
  · obtain hu | rfl := List.mem_append.1 hu |>.imp_right List.mem_singleton.1
    · exact Moment.le_trans (h.le_last u hu) h.le_now
    · exact Moment.le_refl u

/-- Time does not pass the limit. -/
theorem passes (h : Kept limit m₀ post steps m p t) (hle : m ≤ m') (hlets : p.LetsPass m') :
    Kept limit m₀ post steps m' p t := by
  refine ⟨h.endsBy, h.last, h.le_last, h.le_limit, Moment.le_trans h.le_now hle, ?_, ?_⟩
  · rintro change next rfl
    exact hlets.elim
  · rintro pause next rfl
    cases h.endsBy with
    | wait _ hdue hlim _ => exact Moment.le_trans (hlets _ hdue) hlim

end Kept

/-- In any company a job that ends by a limit keeps to it. -/
theorem Among.kept (h : p₀.Among m₀ s₀ steps m s p) (hp : p₀.EndsBy limit post m₀)
    (hm : m₀ ≤ limit) : ∃ t, Kept limit m₀ post steps m p t := by
  induction h with
  | start => exact ⟨m₀, .start hp hm⟩
  | works _ hmove ih =>
    obtain ⟨t, hkept⟩ := ih
    exact ⟨_, hkept.works hmove⟩
  | others _ _ ih => exact ih
  | passes _ hle hlets ih =>
    obtain ⟨t, hkept⟩ := ih
    exact ⟨t, hkept.passes hle hlets⟩

/-! ## Breaking off -/

/-- A job that begins at a moment and in a state breaks off at once, and nothing is changed. -/
structure BreaksOff (why : String) (p : Job σ α) (m : Moment) (s : σ) : Prop where
  /-- Alone it breaks off. -/
  alone : p.run m s = .halted why
  /-- In any company it takes its steps at once, and they change nothing. -/
  unchanged : ∀ steps now s' p' s'' p'', p.Among m s steps now s' p' → p'.Move now s' s'' p'' →
    now = m ∧ s'' = s'
  /-- In any company it comes to no result. -/
  no_result : ∀ steps now s' a, ¬p.Among m s steps now s' (.done a)

/-- A job breaks off that looks at the clock and then cannot go on. -/
theorem breaksOff_of_look {why : String} {next : Moment → σ → Job σ α}
    (h : ∀ s, next m s = .halt why) (s : σ) : (Job.act (fun _ s => s) next).BreaksOff why m s := by
  have hstands : ∀ {steps now s' p'}, (Job.act (fun _ s => s) next).Among m s steps now s' p' →
      (p' = .act (fun _ s => s) next ∧ now = m) ∨ p' = .halt why := by
    intro steps now s' p' hamong
    induction hamong with
    | start => exact .inl ⟨rfl, rfl⟩
    | works _ hmove ih =>
      obtain ⟨rfl, rfl⟩ | rfl := ih
      · cases hmove
        exact .inr (h _)
      · cases hmove
    | others _ _ ih => exact ih
    | passes _ _ hlets ih =>
      obtain ⟨rfl, -⟩ | rfl := ih
      · exact hlets.elim
      · exact .inr rfl
  refine ⟨?_, ?_, ?_⟩
  · rw [run, h]
    rfl
  · intro steps now s' p' s'' p'' hamong hmove
    obtain ⟨rfl, rfl⟩ | rfl := hstands hamong
    · cases hmove
      exact ⟨rfl, rfl⟩
    · cases hmove
  · intro steps now s' a hamong
    obtain ⟨hact, -⟩ | hhalt := hstands hamong
    · cases hact
    · cases hhalt

namespace BreaksOff

variable {β : Type} {why : String} {f : α → Job σ β} {q : Job σ β}

/-- What was to follow a job that breaks off never begins. -/
theorem among_of_bind (h : p₀.BreaksOff why m₀ s₀)
    (hamong : (p₀.bind f).Among m₀ s₀ steps m s q) :
    ∃ p : Job σ α, p₀.Among m₀ s₀ steps m s p ∧ p.bind f = q := by
  induction hamong with
  | start => exact ⟨p₀, .start, rfl⟩
  | works _ hmove ih =>
    obtain ⟨p, hp, rfl⟩ := ih
    obtain ⟨a, rfl⟩ | ⟨p', hmove', rfl⟩ := hmove.of_bind
    · exact (h.no_result _ _ _ _ hp).elim
    · exact ⟨p', hp.works hmove', rfl⟩
  | others _ s' ih =>
    obtain ⟨p, hp, rfl⟩ := ih
    exact ⟨p, hp.others s', rfl⟩
  | passes _ hle hlets ih =>
    obtain ⟨p, hp, rfl⟩ := ih
    exact ⟨p, hp.passes hle hlets.of_bind, rfl⟩

/-- If a job breaks off, so does whatever begins with it. -/
theorem bind (h : p₀.BreaksOff why m₀ s₀) (f : α → Job σ β) :
    (p₀.bind f).BreaksOff why m₀ s₀ := by
  refine ⟨?_, ?_, ?_⟩
  · rw [run_bind, h.alone]
  · intro steps now s' q s'' q' hamong hmove
    obtain ⟨p, hp, rfl⟩ := h.among_of_bind hamong
    obtain ⟨a, rfl⟩ | ⟨p', hmove', rfl⟩ := hmove.of_bind
    · exact (h.no_result _ _ _ _ hp).elim
    · exact h.unchanged _ _ _ _ _ _ hp hmove'
  · intro steps now s' b hamong
    obtain ⟨p, hp, hdone⟩ := h.among_of_bind hamong
    obtain ⟨a, rfl⟩ := exists_done_of_bind hdone
    exact h.no_result _ _ _ _ hp

end BreaksOff

end Job

end RateHerald
