import RateHerald.Timed.Moment

/-!
# Jobs

A job works on a state that it may share with other jobs, and it takes time. Between two pauses
nobody else is at work. At a pause the job says what it looks at whenever somebody has been at
work, when it can go on, and when it wants to be woken at the latest. A job that is given up at a
pause leaves the state as `Pause.drop` says.

Running a job alone, `Job.run`, needs no bound: every job is a tree whose branches are finite, and
time does not pass but at pauses.

## Main declarations

* `Pause` and `Job`, with the monad of jobs that follow each other.
* `Ending` and `Job.run`, and `Job.run_bind`: a job that follows another starts where that one ends.
* `Job.now`, `Job.change`, `Job.sleep` and the other jobs of one step.
-/

namespace RateHerald

/-- What a pausing job waits for. -/
structure Pause (σ : Type) where
  /-- What it does to the state when it looks whether it can go on. -/
  look : Moment → σ → σ
  /-- Whether it can go on, after it looked. -/
  ready : Moment → σ → Bool
  /-- When it can go on at the latest. -/
  due : Option Moment
  /-- What it does to the state when it is given up. -/
  drop : σ → σ

/-- Work on a state that takes time and comes to a result. -/
inductive Job (σ α : Type) where
  /-- The work is done. -/
  | done (result : α)
  /-- The work cannot go on, nor can anything else. -/
  | halt (why : String)
  /-- The state is changed; what follows may depend on the state before. -/
  | act (change : Moment → σ → σ) (next : Moment → σ → Job σ α)
  /-- The job pauses; what follows may depend on the state after. -/
  | wait (pause : Pause σ) (next : Moment → σ → Job σ α)

namespace Job

variable {σ α β γ : Type}

/-! ## Jobs that follow each other -/

/-- A job, and then another that may depend on its result. -/
protected def bind : Job σ α → (α → Job σ β) → Job σ β
  | .done a, f => f a
  | .halt why, _ => .halt why
  | .act change next, f => .act change fun m s => (next m s).bind f
  | .wait pause next, f => .wait pause fun m s => (next m s).bind f

instance : Monad (Job σ) where
  pure := .done
  bind := Job.bind

theorem done_bind (a : α) (f : α → Job σ β) : (Job.done a : Job σ α).bind f = f a :=
  rfl

theorem bind_done (p : Job σ α) : p.bind .done = p := by
  induction p with
  | done a => rfl
  | halt why => rfl
  | act change next ih => simp [Job.bind, ih]
  | wait pause next ih => simp [Job.bind, ih]

theorem bind_assoc (p : Job σ α) (f : α → Job σ β) (g : β → Job σ γ) :
    (p.bind f).bind g = p.bind fun a => (f a).bind g := by
  induction p with
  | done a => rfl
  | halt why => rfl
  | act change next ih => simp [Job.bind, ih]
  | wait pause next ih => simp [Job.bind, ih]

instance : LawfulMonad (Job σ) :=
  LawfulMonad.mk' (Job σ) bind_done (fun _ _ => rfl) bind_assoc

/-! ## Jobs of one step -/

/-- The present moment. -/
def now : Job σ Moment :=
  .act (fun _ s => s) fun m _ => .done m

/-- Reads something off the state. -/
def get (f : σ → α) : Job σ α :=
  .act (fun _ s => s) fun _ s => .done (f s)

/-- Changes the state. -/
def modify (f : σ → σ) : Job σ Unit :=
  .act (fun _ s => f s) fun _ _ => .done ()

/-- Changes the state and comes to a result. -/
def change (f : σ → α × σ) : Job σ α :=
  .act (fun _ s => (f s).2) fun _ s => .done (f s).1

/-- Waits until a moment; if it has come already the job goes on at once. -/
def sleepUntil (due : Moment) : Job σ Unit :=
  .wait ⟨fun _ s => s, fun m _ => due ≤ m, some due, id⟩ fun _ _ => .done ()

/-- Waits some milliseconds. -/
def sleep (ms : Nat) : Job σ Unit :=
  now.bind fun m => sleepUntil (m.after ms)

/-- Leaves the work to somebody else who needs no time for it. -/
def yield : Job σ Unit :=
  now.bind fun m => sleepUntil m.nextRound

/-- Waits for something that never comes. -/
def never : Job σ α :=
  .wait ⟨fun _ s => s, fun _ _ => false, none, id⟩ fun _ _ => .halt ""

/-! ## Running -/

end Job

/-- How the run of a job ends. -/
inductive Ending (σ α : Type) where
  /-- The job is done. -/
  | done (result : α) (time : Moment) (state : σ)
  /-- The job cannot go on. -/
  | halted (why : String)
  /-- The job waits for something that never comes. -/
  | stuck (time : Moment) (state : σ)

namespace Job

variable {σ α β : Type}

/-- Runs a job from a moment and a state. -/
def run : Job σ α → Moment → σ → Ending σ α
  | .done result, m, s => .done result m s
  | .halt why, _, _ => .halted why
  | .act change next, m, s => run (next m s) m (change m s)
  | .wait pause next, m, s =>
    let seen := pause.look m s
    if pause.ready m seen then run (next m seen) m seen
    else
      match pause.due with
      | none => .stuck m seen
      | some due =>
        let then_ := m.later due
        let woken := pause.look then_ seen
        run (next then_ woken) then_ woken

/-- A job that follows another starts where that one ends. -/
theorem run_bind (p : Job σ α) (f : α → Job σ β) (m : Moment) (s : σ) :
    (p.bind f).run m s =
      match p.run m s with
      | .done a m s => (f a).run m s
      | .halted why => .halted why
      | .stuck m s => .stuck m s := by
  induction p generalizing m s with
  | done a => rfl
  | halt why => rfl
  | act change next ih => exact ih m s m (change m s)
  | wait pause next ih =>
    simp only [Job.bind, run]
    split
    · exact ih _ _ _ _
    · split
      · rfl
      · exact ih _ _ _ _

end Job

end RateHerald
