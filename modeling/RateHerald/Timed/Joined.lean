import RateHerald.Timed.Job

/-!
# Jobs under a deadline and jobs side by side

A job can be given up at a deadline, and several jobs can run side by side on one state. Of jobs
side by side the left one always works first: whenever something has happened it is asked first
whether it can go on, and the right one works while the left one pauses.

## Main declarations

* `Job.within` gives a job up at a deadline; a job that is done in the moment of the deadline is
  not given up.
* `Job.ensuring` does something at the end of a job, also if the job is given up.
* `Job.both` and `Job.all` run jobs side by side, `Job.inTurn` runs them one after another.
* `Part` is a part of a state, `Job.on` a job on that part.
-/

namespace RateHerald

variable {σ τ α β : Type}

/-! ## Deadlines -/

namespace Pause

/-- The pause of a job that is given up at a deadline. -/
def orAt (deadline : Moment) (p : Pause σ) : Pause σ where
  look := p.look
  ready m s := p.ready m s || deadline ≤ m
  due := Moment.soonest p.due (some deadline)
  drop := p.drop

/-- The pause of two pausing jobs, of which the first is asked first. -/
def or (p q : Pause σ) : Pause σ where
  look m s :=
    let seen := p.look m s
    if p.ready m seen then seen else q.look m seen
  ready m s := p.ready m s || q.ready m s
  due := Moment.soonest p.due q.due
  drop s := q.drop (p.drop s)

end Pause

namespace Job

/-- A job whose result does not count is `none`, because it was not done at the deadline. -/
def within (deadline : Moment) : Job σ α → Job σ (Option α)
  | .done a => .done (some a)
  | .halt why => .halt why
  | .act change next => .act change fun m s => within deadline (next m s)
  | .wait pause next =>
    .wait (pause.orAt deadline) fun m s =>
      if pause.ready m s then within deadline (next m s)
      else .act (fun _ s => pause.drop s) fun _ _ => .done none

/-- A job with something that is done at its end, also if it is given up. -/
def ensuring (last : σ → σ) : Job σ α → Job σ α
  | .done a => .act (fun _ s => last s) fun _ _ => .done a
  | .halt why => .halt why
  | .act change next => .act change fun m s => ensuring last (next m s)
  | .wait pause next =>
    .wait { pause with drop := fun s => last (pause.drop s) } fun m s => ensuring last (next m s)

/-! ## Jobs side by side -/

/-- A job on the right beside one on the left that cannot go on; `left` is what follows there, and
`resume` goes on with the left one while the right one cannot. -/
def against (p : Pause σ) (left : Moment → σ → Job σ α)
    (resume : Moment → σ → Job σ β → Job σ (α × β)) : Job σ β → Job σ (α × β)
  | .done b => .wait p fun m s => (left m s).bind fun a => .done (a, b)
  | .halt why => .halt why
  | .act change next => .act change fun m s => against p left resume (next m s)
  | .wait q right =>
    .act q.look fun m s =>
      let seen := q.look m s
      if q.ready m seen then against p left resume (right m seen)
      else .wait (p.or q) fun m s =>
        if p.ready m s then resume m s (.wait q right) else against p left resume (right m s)

/-- Two jobs side by side. A job that comes to a pause and can go on does so before the other has
its turn. -/
def both : Job σ α → Job σ β → Job σ (α × β)
  | .done a, r => r.bind fun b => .done (a, b)
  | .halt why, _ => .halt why
  | .act change next, r => .act change fun m s => both (next m s) r
  | .wait p next, r =>
    .act p.look fun m s =>
      let seen := p.look m s
      if p.ready m seen then both (next m seen) r
      else against p next (fun m s r => both (next m s) r) r

/-- Jobs side by side, each with all that follow it. -/
def all : List (Job σ α) → Job σ (List α)
  | [] => .done []
  | p :: rest => (both p (all rest)).bind fun (a, as) => .done (a :: as)

/-- Jobs one after another. -/
def inTurn : List (Job σ α) → Job σ (List α)
  | [] => .done []
  | p :: rest => p.bind fun a => (inTurn rest).bind fun as => .done (a :: as)

end Job

/-! ## Jobs on a part of the state -/

/-- A part of a state. -/
structure Part (σ τ : Type) where
  /-- The part as it is. -/
  get : σ → τ
  /-- The state with another part in place of this one. -/
  set : τ → σ → σ

/-- Changes the part. -/
def Part.modify (part : Part σ τ) (f : τ → τ) (s : σ) : σ :=
  part.set (f (part.get s)) s

/-- A part of a part. -/
def Part.of {ρ : Type} (inner : Part τ ρ) (outer : Part σ τ) : Part σ ρ where
  get s := inner.get (outer.get s)
  set r s := outer.set (inner.set r (outer.get s)) s

/-- The pause of a job on a part of the state. -/
def Pause.on (part : Part σ τ) (p : Pause τ) : Pause σ where
  look m := part.modify (p.look m)
  ready m s := p.ready m (part.get s)
  due := p.due
  drop := part.modify p.drop

/-- A job on a part of the state. -/
def Job.on (part : Part σ τ) : Job τ α → Job σ α
  | .done a => .done a
  | .halt why => .halt why
  | .act change next =>
    .act (fun m => part.modify (change m)) fun m s => (next m (part.get s)).on part
  | .wait pause next => .wait (pause.on part) fun m s => (next m (part.get s)).on part

end RateHerald
