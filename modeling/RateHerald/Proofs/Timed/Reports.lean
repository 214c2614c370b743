import RateHerald.Proofs.Timed.Ends

/-!
# What jobs report

Some jobs are done for what they change, and nobody looks at what they report. Two such jobs are the
same if they differ in their reports only, and this goes through whatever jobs are put together from:
jobs one after another, and jobs side by side. The latter is the one that needs a proof, for the
report of a job stands at its end while the other job beside it may still be at work.

## Main declarations

* `Job.reporting` changes the report of a job, `Job.silent` leaves it out.
* `Job.both_reporting`: jobs side by side with other reports.
* `Job.silent_inTurn` and `Job.silent_all`: of many jobs only the silent parts count.
* `Job.Finishes`: the job ends wherever it begins.
-/

namespace RateHerald

variable {σ α β γ δ κ : Type}

namespace Job

/-! ## Other reports -/

/-- The job with another report. -/
def reporting (f : α → β) (p : Job σ α) : Job σ β :=
  p.bind fun a => .done (f a)

/-- The job without its report. -/
def silent (p : Job σ α) : Job σ Unit :=
  p.reporting fun _ => ()

theorem reporting_bind (p : Job σ α) (f : α → β) (g : β → Job σ γ) :
    (p.reporting f).bind g = p.bind fun a => g (f a) := by
  rw [reporting, bind_assoc]
  rfl

theorem reporting_reporting (p : Job σ α) (f : α → β) (g : β → γ) :
    (p.reporting f).reporting g = p.reporting fun a => g (f a) :=
  reporting_bind p f _

theorem bind_reporting (p : Job σ α) (f : α → Job σ β) (g : β → γ) :
    (p.bind f).reporting g = p.bind fun a => (f a).reporting g :=
  bind_assoc p f _

theorem silent_reporting (p : Job σ α) (f : α → β) : (p.reporting f).silent = p.silent :=
  reporting_reporting p f _

/-- A job whose report is not looked at by what follows. -/
theorem silent_bind (p : Job σ α) (q : Job σ β) : p.silent.bind (fun _ => q) = p.bind fun _ => q :=
  reporting_bind p _ _

/-! ## Jobs side by side -/

/-- A job on the right with another report, beside one on the left that cannot go on and goes on with
another report later. -/
theorem against_reporting {pause : Pause σ} {left : Moment → σ → Job σ α}
    {resume : Moment → σ → Job σ β → Job σ (α × β)}
    {resume' : Moment → σ → Job σ δ → Job σ (γ × δ)} {f : α → γ} {g : β → δ}
    (hresume : ∀ m s r, resume' m s (r.reporting g) = (resume m s r).reporting (Prod.map f g))
    (q : Job σ β) :
    against pause (fun m s => (left m s).reporting f) resume' (q.reporting g) =
      (against pause left resume q).reporting (Prod.map f g) := by
  induction q with
  | done b =>
    simp only [reporting, Job.bind, against, bind_assoc]
    rfl
  | halt why => rfl
  | act change next ih =>
    simp only [reporting, Job.bind, against] at ih ⊢
    congr 1
    funext m s
    exact ih m s
  | wait pause' right ih =>
    have hgo := hresume
    simp only [reporting, Job.bind, against] at ih hresume ⊢
    congr 1
    funext m s
    by_cases hready : pause'.ready m (pause'.look m s) = true
    · simp only [hready, if_true]
      exact ih _ _
    · simp only [hready, Bool.false_eq_true, if_false]
      refine congrArg _ (funext fun m => funext fun s => ?_)
      by_cases hleft : pause.ready m s = true
      · simp only [hleft, if_true]
        exact hgo m s (.wait pause' right)
      · simp only [hleft, Bool.false_eq_true, if_false]
        exact ih _ _

/-- Jobs side by side with other reports do what they did, and what each of them reports is found in
its place. -/
theorem both_reporting (p : Job σ α) (q : Job σ β) (f : α → γ) (g : β → δ) :
    both (p.reporting f) (q.reporting g) = (both p q).reporting (Prod.map f g) := by
  induction p generalizing q with
  | done a =>
    simp only [both, bind_reporting]
    exact reporting_bind q g _
  | halt why => rfl
  | act change next ih =>
    simp only [reporting, Job.bind, both] at ih ⊢
    congr 1
    funext m s
    exact ih m s q
  | wait pause next ih =>
    change Job.act _ _ = Job.act _ _
    congr 1
    funext m s
    by_cases hready : pause.ready m (pause.look m s) = true
    · simp only [hready, if_true]
      exact ih _ _ q
    · simp only [hready, Bool.false_eq_true, if_false]
      exact against_reporting (fun m s r => ih m s r) q

theorem silent_both {p p' : Job σ α} {q q' : Job σ β} (hp : p.silent = p'.silent)
    (hq : q.silent = q'.silent) : (both p q).silent = (both p' q').silent := by
  have hsilent : ∀ (p : Job σ α) (q : Job σ β),
      (both p q).silent = (both p.silent q.silent).silent := by
    intro p q
    change _ = (both (p.reporting fun _ => ()) (q.reporting fun _ => ())).silent
    rw [both_reporting, silent_reporting]
  rw [hsilent, hp, hq, ← hsilent]

/-! ## Many jobs -/

section Many

variable {f g : κ → Job σ α} (h : ∀ k, (f k).silent = (g k).silent)

include h

theorem silent_inTurn (ks : List κ) :
    (inTurn (ks.map f)).silent = (inTurn (ks.map g)).silent := by
  have hcons : ∀ (p : Job σ α) (ps : List (Job σ α)),
      (inTurn (p :: ps)).silent = p.silent.bind fun _ => (inTurn ps).silent := by
    intro p ps
    rw [silent_bind, inTurn, silent, bind_reporting]
    exact congrArg _ (funext fun a => bind_reporting _ _ _)
  induction ks with
  | nil => rfl
  | cons k ks ih => rw [List.map_cons, List.map_cons, hcons, hcons, h k, ih]

theorem silent_all (ks : List κ) : (all (ks.map f)).silent = (all (ks.map g)).silent := by
  have hcons : ∀ (p : Job σ α) (ps : List (Job σ α)), (all (p :: ps)).silent = (both p (all ps)).silent :=
    fun p ps => bind_reporting _ _ _
  induction ks with
  | nil => rfl
  | cons k ks ih =>
    rw [List.map_cons, List.map_cons, hcons, hcons]
    exact silent_both (h k) ih

end Many

/-! ## Jobs that end -/

/-- The job ends, whenever it begins and in whatever state. -/
def Finishes (p : Job σ α) : Prop :=
  ∀ m s, ∃ a m' s', p.Ends m s a m' s'

theorem finishes_done (a : α) : (Job.done a : Job σ α).Finishes :=
  fun m s => ⟨a, m, s, rfl⟩

theorem finishes_change (f : σ → α × σ) : (change f).Finishes :=
  fun m s => ⟨_, _, _, ends_change f m s⟩

theorem Finishes.bind {p : Job σ α} {f : α → Job σ β} (hp : p.Finishes) (hf : ∀ a, (f a).Finishes) :
    (p.bind f).Finishes := by
  intro m s
  obtain ⟨a, m₁, s₁, hfirst⟩ := hp m s
  obtain ⟨b, m₂, s₂, hsecond⟩ := hf a m₁ s₁
  exact ⟨b, m₂, s₂, hfirst.bind hsecond⟩

end Job

end RateHerald
