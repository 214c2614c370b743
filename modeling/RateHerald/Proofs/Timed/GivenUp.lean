import RateHerald.Proofs.Timed.Ends

/-!
# What is known of a job that was given up

From how a job under a deadline ended it is inferred how its parts did. A deadline passes through
whatever jobs are put together from: of two jobs that follow each other the second one has the time
that the first one leaves, and if the first one is given up the second one never begins. So a long
job under a deadline can be followed step by step up to the step at which it was given up, and
everything that it did before is known.

## Main declarations

* `Job.within_bind` and `Job.within_on`: the deadline of a whole is the deadline of its parts.
* `Job.Ends.unique`, `Job.Ends.of_ensuring` and `Job.Ends.of_on`.
* `Job.Ends.of_within`: a job under a deadline ends by it, and was given up only if it would not have
  been done.
* `Job.run_within_both_done`: a job beside one that is done runs as it does alone.
-/

namespace RateHerald

variable {σ τ α β : Type}

namespace Job

/-! ## The deadline of a whole -/

/-- Of two jobs that follow each other the second one has the time that the first one leaves. -/
theorem within_bind (p : Job σ α) (f : α → Job σ β) (deadline : Moment) :
    (p.bind f).within deadline = (p.within deadline).bind fun
      | none => .done none
      | some a => (f a).within deadline := by
  induction p with
  | done a => rfl
  | halt why => rfl
  | act change next ih => simp only [Job.bind, within, ih]
  | wait pause next ih =>
    simp only [Job.bind, within, ih]
    congr 1
    funext m s
    split <;> rfl

theorem within_on (part : Part σ τ) (p : Job τ α) (deadline : Moment) :
    (p.on part).within deadline = (p.within deadline).on part := by
  induction p with
  | done a => rfl
  | halt why => rfl
  | act change next ih => simp only [Job.on, within, ih]
  | wait pause next ih =>
    simp only [Job.on, within, ih]
    congr 1
    funext m s
    change (if pause.ready m (part.get s) = true then _ else _) = _
    split <;> rfl

variable {m m' m₁ deadline : Moment} {s s' s₁ : σ} {a b : α} {p : Job σ α}

/-! ## How the parts ended -/

theorem Ends.unique (h : p.Ends m s a m' s') (h' : p.Ends m s b m₁ s₁) :
    a = b ∧ m' = m₁ ∧ s' = s₁ := by
  rw [Ends, h] at h'
  cases h'
  exact ⟨rfl, rfl, rfl⟩

theorem Ends.of_ensuring {last : σ → σ} (h : (Job.ensuring last p).Ends m s a m' s') :
    ∃ s'', p.Ends m s a m' s'' ∧ s' = last s'' := by
  induction p generalizing m s with
  | done a =>
    cases h
    exact ⟨s, rfl, rfl⟩
  | halt why => cases h
  | act change next ih => exact ih m s (s := change m s) h
  | wait pause next ih =>
    rw [Job.Ends, Job.ensuring, run] at h
    simp only [Job.Ends, run]
    by_cases hready : pause.ready m (pause.look m s) = true
    · simp only [hready, if_true] at h ⊢
      exact ih _ _ h
    · simp only [hready] at h ⊢
      rcases hdue : pause.due with _ | due
      · rw [hdue] at h
        cases h
      · rw [hdue] at h
        exact ih _ _ h

/-- A job on a part of the state changes that part only, as it would if the part were all. -/
theorem Ends.of_on {part : Part σ τ} (hpart : part.Lawful) {p : Job τ α} {s : σ}
    (h : (p.on part).Ends m s a m' s') :
    ∃ t', p.Ends m (part.get s) a m' t' ∧ s' = part.set t' s := by
  induction p generalizing m s with
  | done a =>
    cases h
    exact ⟨part.get _, rfl, (hpart.set_get _).symm⟩
  | halt why => cases h
  | act change next ih =>
    obtain ⟨t', hends, rfl⟩ := ih m (part.get s) (s := part.modify (change m) s) h
    rw [Part.modify, hpart.get_set] at hends
    exact ⟨t', hends, hpart.set_set _ _ _⟩
  | wait pause next ih =>
    -- what follows the pause, in a state whose part is `t`
    have hgo : ∀ (m : Moment) (t : τ), ((next m t).on part).Ends m (part.set t s) a m' s' →
        ∃ t', (next m t).Ends m t a m' t' ∧ s' = part.set t' s := by
      intro m t hnext
      obtain ⟨t', hends, rfl⟩ := ih m t hnext
      rw [hpart.get_set] at hends
      exact ⟨t', hends, hpart.set_set _ _ _⟩
    rw [Ends, Job.on, run] at h
    simp only [Pause.on, Part.modify, hpart.get_set, hpart.set_set] at h
    simp only [Ends, run]
    by_cases hready : pause.ready m (pause.look m (part.get s)) = true
    · simp only [hready, if_true] at h ⊢
      exact hgo _ _ h
    · simp only [hready] at h ⊢
      rcases hdue : pause.due with _ | due
      · rw [hdue] at h
        cases h
      · rw [hdue] at h
        exact hgo _ _ h

/-! ## Given up or not -/

/-- A pause under a deadline is over when its own time comes, or else it is given up at the
deadline. -/
theorem Ends.of_within_wait {pause : Pause σ} (hpause : pause.IsTimed)
    {next : Moment → σ → Job σ α} {result : Option α} (hle : m ≤ deadline)
    (h : ((Job.wait pause next).within deadline).Ends m s result m' s') :
    (result = none ∧ m' = deadline) ∨
    ∃ due, pause.due = some due ∧ m.later due ≤ deadline ∧
      ((next (m.later due) s).within deadline).Ends (m.later due) s result m' s' := by
  by_cases hcome : Moment.hasCome pause.due deadline = true
  · obtain ⟨due, hdue, hin⟩ := (Option.any_eq_true _ _).1 hcome
    rw [decide_eq_true_eq] at hin
    obtain ⟨first, hfirst, hwoken⟩ := Ends.of_wait (hpause.orAt deadline) h
    rw [Pause.orAt, hdue, Moment.soonest, Moment.earlier_of_le hin, Option.some_inj] at hfirst
    subst hfirst
    have hready : pause.ready (m.later due) s = true := by
      rw [hpause.ready, hdue]
      exact decide_eq_true (Moment.le_later_right m due)
    rw [if_pos hready] at hwoken
    exact .inr ⟨due, hdue, Moment.later_le hle hin, hwoken⟩
  · have hlater := Moment.later_of_le hle
    have hgiven : ((Job.wait pause next).within deadline).Ends m s none (m.later deadline)
        (pause.drop s) :=
      ends_within_of_late hpause next (by rw [hlater]; exact Bool.eq_false_iff.2 hcome)
    rw [hlater] at hgiven
    obtain ⟨hnone, htime, -⟩ := h.unique hgiven
    exact .inl ⟨hnone, htime⟩

/-- A job under a deadline is done by then as it would be without one, or else it is given up at the
deadline. -/
theorem Ends.of_within (hp : p.OnlySleeps) {result : Option α} (hle : m ≤ deadline)
    (h : (p.within deadline).Ends m s result m' s') :
    (∃ a, result = some a ∧ m' ≤ deadline ∧ p.Ends m s a m' s') ∨
    (result = none ∧ m' = deadline ∧ ∀ a m₁ s₁, p.Ends m s a m₁ s₁ → ¬m₁ ≤ deadline) := by
  -- what is done in time is not given up, so that nothing remains to be shown of what would be
  have hdone : result = none → ∀ a m₁ s₁, p.Ends m s a m₁ s₁ → ¬m₁ ≤ deadline := by
    intro hnone a m₁ s₁ hends hintime
    have hsome := (h.unique (hends.within hp hintime)).1
    rw [hnone] at hsome
    cases hsome
  suffices hsplit : (∃ a, result = some a ∧ m' ≤ deadline ∧ p.Ends m s a m' s') ∨
      (result = none ∧ m' = deadline) from
    hsplit.imp_right fun hgiven => ⟨hgiven.1, hgiven.2, hdone hgiven.1⟩
  clear hdone
  induction hp generalizing m s with
  | done a =>
    cases h
    exact .inl ⟨a, rfl, hle, rfl⟩
  | halt why => cases h
  | act change _ ih => exact ih m s hle h
  | @wait pause next hpause _ ih =>
    rcases h.of_within_wait hpause hle with hgiven | ⟨due, hdue, hlater, hnext⟩
    · exact .inr hgiven
    · exact (ih _ _ hlater hnext).imp_left fun ⟨a, hsome, htime, hends⟩ =>
        ⟨a, hsome, htime, hends.wait hpause hdue⟩

/-- What follows a job that is done in time begins where that one ended. -/
theorem Ends.of_within_bind (hp : p.OnlySleeps) {f : α → Job σ β} {result : Option β}
    {m₂ : Moment} {s₂ : σ} (hfirst : p.Ends m s a m₁ s₁) (hle : m₁ ≤ deadline)
    (h : ((p.bind f).within deadline).Ends m s result m₂ s₂) :
    ((f a).within deadline).Ends m₁ s₁ result m₂ s₂ := by
  rw [within_bind] at h
  obtain ⟨answer, m', s', hanswer, hrest⟩ := h.of_bind
  obtain ⟨rfl, rfl, rfl⟩ := hanswer.unique (hfirst.within hp hle)
  exact hrest

/-! ## A job that is alone -/

/-- A job beside one that is done runs under a deadline as it does alone. -/
theorem run_within_both_done (hp : p.OnlySleeps) (b : β) (deadline m : Moment) (s : σ) :
    ((both p (.done b)).within deadline).run m s =
      ((p.bind fun a => .done (a, b)).within deadline).run m s := by
  induction hp generalizing m s with
  | done a => rfl
  | halt why => rfl
  | act change _ ih => exact ih m s m (change m s)
  | @wait pause next hpause _ ih =>
    rw [both, within, run]
    by_cases hready : pause.ready m s = true
    · have hor : (pause.orAt deadline).ready m s = true := Bool.or_eq_true_iff.2 (.inl hready)
      simp only [hpause.look, hready, if_true, Job.bind, within, run, (hpause.orAt deadline).look,
        hor]
      exact ih m s m s
    · -- the job pauses in either case, and nobody is beside it any more
      simp only [hpause.look, if_neg hready, against, Job.bind]

end Job

end RateHerald
