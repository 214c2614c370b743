import RateHerald.Proofs.Timed.Ends

/-!
# Jobs that are done in time

A pause is punctual if it is over when its time has come, whatever else it waits for, and a job is
punctual up to a limit if all its pauses are and it does not break off, as long as the limit is not
past. Unlike jobs that only sleep, punctual jobs may wait for what others do, so what they come to
depends on their company. When they come to it does not: under a deadline a punctual job comes to a
result by the deadline, and if it is given up, not before.

The first judgment, `Job.Delivers`, says that a job is punctual and what its result is like. The
second, `Job.EndsBy`, says that every pause of a job is over by a limit. The rule that leads from
the one to the other is that for deadlines, `Job.Delivers.within`. What a job would do after the
limit matters to neither: a job may ask for a deadline that no clock can show, if it is given up
before it comes to that.

## Main declarations

* `Pause.IsPunctual`, `Job.Delivers` and `Job.IsPunctual`, closed under everything that puts jobs
  together.
* `Job.EndsBy`, with the rules `Job.EndsBy.bind`, `Job.EndsBy.ensuring` and `Job.Delivers.within`.
* `Job.Ends.within_of_isPunctual`: a punctual job that is done by the deadline is not given up.
-/

namespace RateHerald

variable {σ τ α β : Type}

/-! ## Punctual pauses -/

/-- The pause is over when its time has come. -/
def Pause.IsPunctual (p : Pause σ) : Prop :=
  ∀ m s, Moment.hasCome p.due m = true → p.ready m s = true

theorem Pause.IsPunctual.orAt {p : Pause σ} (h : p.IsPunctual) (deadline : Moment) :
    (p.orAt deadline).IsPunctual := by
  intro m s hcome
  change Moment.hasCome (Moment.soonest p.due (some deadline)) m = true at hcome
  rw [Moment.hasCome_soonest, Bool.or_eq_true] at hcome
  change (p.ready m s || decide (deadline ≤ m)) = true
  rw [Bool.or_eq_true]
  exact hcome.imp (h m s) id

/-- A pause under a deadline is over by it. -/
theorem Pause.due_orAt (p : Pause σ) (deadline : Moment) :
    ∃ due, (p.orAt deadline).due = some due ∧ due ≤ deadline := by
  change ∃ due, Moment.soonest p.due (some deadline) = some due ∧ due ≤ deadline
  cases p.due with
  | none => exact ⟨deadline, rfl, Moment.le_refl _⟩
  | some due => exact ⟨_, rfl, Moment.earlier_le_iff.2 (.inr (Moment.le_refl _))⟩

theorem Pause.IsPunctual.or {p q : Pause σ} (hp : p.IsPunctual) (hq : q.IsPunctual) :
    (p.or q).IsPunctual := by
  intro m s hcome
  change Moment.hasCome (Moment.soonest p.due q.due) m = true at hcome
  rw [Moment.hasCome_soonest, Bool.or_eq_true] at hcome
  change (p.ready m s || q.ready m s) = true
  rw [Bool.or_eq_true]
  exact hcome.imp (hp m s) (hq m s)

theorem Pause.IsTimed.isPunctual {p : Pause σ} (h : p.IsTimed) : p.IsPunctual := by
  intro m s hcome
  rw [h.ready]
  exact hcome

/-! ## Punctual jobs -/

namespace Job

/-- Up to a limit all pauses of the job are punctual, it does not break off, and what it comes to
satisfies `post`. -/
inductive Delivers (limit : Moment) (post : α → Prop) : Job σ α → Prop where
  | done {a : α} (h : post a) : Delivers limit post (.done a)
  | act {change : Moment → σ → σ} {next : Moment → σ → Job σ α}
      (h : ∀ m s, m ≤ limit → Delivers limit post (next m s)) :
      Delivers limit post (.act change next)
  | wait {pause : Pause σ} {next : Moment → σ → Job σ α} (hpause : pause.IsPunctual)
      (h : ∀ m s, m ≤ limit → pause.ready m s = true → Delivers limit post (next m s)) :
      Delivers limit post (.wait pause next)

/-- Up to a limit all pauses of the job are punctual, and it does not break off. -/
abbrev IsPunctual (limit : Moment) (p : Job σ α) : Prop :=
  p.Delivers limit fun _ => True

variable {limit : Moment} {post : α → Prop} {post' : β → Prop} {p : Job σ α}

namespace Delivers

theorem imp {weaker : α → Prop} (h : p.Delivers limit post) (himp : ∀ a, post a → weaker a) :
    p.Delivers limit weaker := by
  induction h with
  | done h => exact .done (himp _ h)
  | act _ ih => exact .act ih
  | wait hpause _ ih => exact .wait hpause ih

theorem isPunctual (h : p.Delivers limit post) : p.IsPunctual limit :=
  h.imp fun _ _ => trivial

theorem bind {f : α → Job σ β} (hp : p.Delivers limit post)
    (hf : ∀ a, post a → (f a).Delivers limit post') : (p.bind f).Delivers limit post' := by
  induction hp with
  | done h => exact hf _ h
  | act _ ih => exact .act ih
  | wait hpause _ ih => exact .wait hpause ih

theorem ensuring (h : p.Delivers limit post) (last : σ → σ) :
    (ensuring last p).Delivers limit post := by
  induction h with
  | done h => exact .act fun _ _ _ => .done h
  | act _ ih => exact .act ih
  | wait hpause _ ih => exact .wait hpause ih

/-- A job that waits for ever is punctual, because its time never comes; it comes to nothing. -/
theorem never : (never : Job σ α).Delivers limit post :=
  .wait isTimed_never.isPunctual fun _ _ _ h => Bool.noConfusion h

end Delivers

namespace IsPunctual

theorem change (f : σ → α × σ) : (change f).IsPunctual limit :=
  .act fun _ _ _ => .done trivial

theorem sleepUntil (due : Moment) : (sleepUntil due : Job σ Unit).IsPunctual limit :=
  .wait (isTimed_sleepUntil due).isPunctual fun _ _ _ _ => .done trivial

theorem sleep (ms : Nat) : (sleep ms : Job σ Unit).IsPunctual limit :=
  .act fun _ _ _ => sleepUntil _

theorem within (h : p.IsPunctual limit) (deadline : Moment) :
    (p.within deadline).IsPunctual limit := by
  induction h with
  | done h => exact .done trivial
  | act _ ih => exact .act ih
  | @wait pause next hpause _ ih =>
    refine .wait (hpause.orAt deadline) fun m s hle _ => ?_
    by_cases hready : pause.ready m s = true
    · rw [if_pos hready]
      exact ih m s hle hready
    · rw [if_neg hready]
      exact .act fun _ _ _ => .done trivial

/-- A job on the right is punctual while the left one pauses, if going on with the left one is. -/
theorem against {pause : Pause σ} {left : Moment → σ → Job σ α}
    {resume : Moment → σ → Job σ β → Job σ (α × β)} {q : Job σ β} (hpause : pause.IsPunctual)
    (hleft : ∀ m s, m ≤ limit → pause.ready m s = true → (left m s).IsPunctual limit)
    (hresume : ∀ m s r, m ≤ limit → pause.ready m s = true → r.IsPunctual limit →
      (resume m s r).IsPunctual limit)
    (hq : q.IsPunctual limit) : (against pause left resume q).IsPunctual limit := by
  induction hq with
  | done h =>
    exact .wait hpause fun m s hle hready => (hleft m s hle hready).bind fun a _ => .done trivial
  | act _ ih => exact .act ih
  | @wait pauseq right hpauseq hright ih =>
    refine .act fun m s hle => ?_
    dsimp only
    split
    · next hready => exact ih _ _ hle hready
    · refine .wait (hpause.or hpauseq) fun m s hle hready => ?_
      by_cases hown : pause.ready m s = true
      · rw [if_pos hown]
        exact hresume m s _ hle hown (.wait hpauseq hright)
      · rw [if_neg hown]
        change (pause.ready m s || pauseq.ready m s) = true at hready
        rw [Bool.or_eq_true] at hready
        exact ih m s hle (hready.resolve_left hown)

theorem both {q : Job σ β} (hp : p.IsPunctual limit) (hq : q.IsPunctual limit) :
    (both p q).IsPunctual limit := by
  induction hp generalizing q with
  | done h => exact hq.bind fun b _ => .done trivial
  | act _ ih => exact .act fun m s hle => ih m s hle hq
  | @wait pause next hpause hnext ih =>
    refine .act fun m s hle => ?_
    dsimp only
    split
    · next hready => exact ih _ _ hle hready hq
    · exact against hpause hnext (fun m s r hle hready hr => ih m s hle hready hr) hq

theorem all {ps : List (Job σ α)} (h : ∀ p ∈ ps, p.IsPunctual limit) :
    (all ps).IsPunctual limit := by
  induction ps with
  | nil => exact .done trivial
  | cons p ps ih =>
    have hrest := ih fun q hq => h q (List.mem_cons_of_mem p hq)
    exact ((h p List.mem_cons_self).both hrest).bind fun _ _ => .done trivial

theorem inTurn {ps : List (Job σ α)} (h : ∀ p ∈ ps, p.IsPunctual limit) :
    (inTurn ps).IsPunctual limit := by
  induction ps with
  | nil => exact .done trivial
  | cons p ps ih =>
    have hrest := ih fun q hq => h q (List.mem_cons_of_mem p hq)
    exact (h p List.mem_cons_self).bind fun _ _ => hrest.bind fun _ _ => .done trivial

end IsPunctual

/-! ## Jobs that end by a limit -/

/-- From a moment on, every pause of the job is over by the limit, and what it comes to satisfies
`post` at the moment when it comes to it. A job that works takes no time for it. -/
inductive EndsBy (limit : Moment) (post : Moment → α → Prop) : Moment → Job σ α → Prop where
  | done {m : Moment} {a : α} (h : post m a) : EndsBy limit post m (.done a)
  | act {m : Moment} {change : Moment → σ → σ} {next : Moment → σ → Job σ α}
      (h : ∀ s, EndsBy limit post m (next m s)) : EndsBy limit post m (.act change next)
  | wait {m due : Moment} {pause : Pause σ} {next : Moment → σ → Job σ α}
      (hpause : pause.IsPunctual) (hdue : pause.due = some due) (hle : due ≤ limit)
      (h : ∀ m' s, m ≤ m' → m' ≤ limit → pause.ready m' s = true →
        EndsBy limit post m' (next m' s)) :
      EndsBy limit post m (.wait pause next)

variable {m m' : Moment} {s s' : σ} {a : α} {endPost : Moment → α → Prop}
  {endPost' : Moment → β → Prop}

namespace EndsBy

theorem bind {f : α → Job σ β} (hp : p.EndsBy limit endPost m) (hm : m ≤ limit)
    (hf : ∀ m' a, m' ≤ limit → endPost m' a → (f a).EndsBy limit endPost' m') :
    (p.bind f).EndsBy limit endPost' m := by
  induction hp with
  | done h => exact hf _ _ hm h
  | act _ ih => exact .act fun s => ih s hm
  | wait hpause hdue hle _ ih =>
    exact .wait hpause hdue hle fun m' s hm' hlim hready => ih m' s hm' hlim hready hlim

theorem ensuring (h : p.EndsBy limit endPost m) (last : σ → σ) :
    (ensuring last p).EndsBy limit endPost m := by
  induction h with
  | done h => exact .act fun _ => .done h
  | act _ ih => exact .act ih
  | wait hpause hdue hle _ ih => exact .wait hpause hdue hle ih

end EndsBy

/-! ## Deadlines -/

/-- A job that is punctual up to its deadline ends by it; it is not given up before. -/
theorem Delivers.within (h : p.Delivers limit post) {deadline : Moment} (hdeadline : deadline ≤ limit)
    (hm : m ≤ limit) :
    (p.within deadline).EndsBy limit
      (fun m' result => (∀ a, result = some a → post a) ∧ (result = none → deadline ≤ m')) m := by
  induction h generalizing m with
  | done h => exact .done ⟨by rintro a ⟨⟩; exact h, nofun⟩
  | act _ ih => exact .act fun s => ih m s hm hm
  | @wait pause next hpause _ ih =>
    obtain ⟨due, hdue, hle⟩ := pause.due_orAt deadline
    refine .wait (hpause.orAt deadline) hdue (Moment.le_trans hle hdeadline)
      fun m' s _ hlim hready => ?_
    by_cases hown : pause.ready m' s = true
    · rw [if_pos hown]
      exact ih m' s hlim hown hlim
    · rw [if_neg hown]
      change (pause.ready m' s || decide (deadline ≤ m')) = true at hready
      rw [Bool.or_eq_true, decide_eq_true_eq] at hready
      exact .act fun _ => .done ⟨nofun, fun _ => hready.resolve_left hown⟩

/-- A punctual pause is over at its first look, or else when its time comes. -/
theorem Ends.of_isPunctual {pause : Pause σ} {next : Moment → σ → Job σ α}
    (hpause : pause.IsPunctual) (h : (Job.wait pause next).Ends m s a m' s') :
    (pause.ready m (pause.look m s) = true ∧
      (next m (pause.look m s)).Ends m (pause.look m s) a m' s') ∨
    ∃ due, pause.ready m (pause.look m s) = false ∧ pause.due = some due ∧ ¬due ≤ m ∧
      pause.ready due (pause.look due (pause.look m s)) = true ∧
      (next due (pause.look due (pause.look m s))).Ends due (pause.look due (pause.look m s)) a m'
        s' := by
  rw [Ends, run] at h
  dsimp only at h
  by_cases hready : pause.ready m (pause.look m s) = true
  · rw [if_pos hready] at h
    exact .inl ⟨hready, h⟩
  · rw [if_neg hready] at h
    cases hdue : pause.due with
    | none =>
      rw [hdue] at h
      cases h
    | some due =>
      rw [hdue] at h
      have hcome : ∀ m s, due ≤ m → pause.ready m s = true := fun m s hle => hpause m s (by
        rw [hdue]
        exact decide_eq_true hle)
      have hnotcome : ¬due ≤ m := fun hle => hready (hcome m _ hle)
      have hlater : m.later due = due :=
        Moment.later_of_not_le hnotcome
      dsimp only at h
      rw [hlater] at h
      exact .inr ⟨due, Bool.eq_false_iff.2 hready, rfl, hnotcome, hcome _ _ (Moment.le_refl due), h⟩

/-- A punctual job that is done by the deadline is not given up. -/
theorem Ends.within_of_isPunctual {deadline : Moment} (hp : p.IsPunctual deadline)
    (h : p.Ends m s a m' s') (hle : m' ≤ deadline) :
    (p.within deadline).Ends m s (some a) m' s' := by
  have hm : m ≤ deadline := Moment.le_trans h.le hle
  induction hp generalizing m s with
  | done _ =>
    cases h
    rfl
  | act _ ih => exact ih m s hm h hm
  | @wait pause next hpause _ ih =>
    rw [Ends, Job.within, run]
    obtain ⟨hready, hnext⟩ | ⟨due, hready, hdue, hnotcome, hwoken, hnext⟩ := h.of_isPunctual hpause
    · have hor : (pause.orAt deadline).ready m ((pause.orAt deadline).look m s) = true :=
        Bool.or_eq_true_iff.2 (.inl hready)
      rw [if_pos hor]
      change (if pause.ready m (pause.look m s) = true then _ else _ : Job σ (Option α)).run m _ = _
      rw [if_pos hready]
      exact ih _ _ hm hready hnext hm
    · have hdead : due ≤ deadline := Moment.le_trans hnext.le hle
      have hnotlate : ¬deadline ≤ m := fun hlate => hnotcome (Moment.le_trans hdead hlate)
      have hnot : ¬(pause.orAt deadline).ready m ((pause.orAt deadline).look m s) = true := by
        change ¬(pause.ready m (pause.look m s) || decide (deadline ≤ m)) = true
        rw [hready, Bool.false_or, decide_eq_true_eq]
        exact hnotlate
      have hsoon : (pause.orAt deadline).due = some due := by
        change Moment.soonest pause.due (some deadline) = some due
        rw [hdue, Moment.soonest, Moment.earlier_of_le hdead]
      rw [if_neg hnot, hsoon]
      dsimp only
      rw [Moment.later_of_not_le hnotcome]
      -- both jobs are woken at the same moment and look at the same state
      change (if pause.ready due (pause.look due (pause.look m s)) = true then _ else _ :
        Job σ (Option α)).run due _ = _
      rw [if_pos hwoken]
      exact ih _ _ hdead hwoken hnext hdead

end Job

end RateHerald
