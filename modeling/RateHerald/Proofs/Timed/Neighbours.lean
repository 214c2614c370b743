import RateHerald.Proofs.Timed.Watched

/-!
# A job among neighbours

`Job.Among` lets others do anything at any time. Here the others keep to what a relation allows
them, and they are at work only while the job pauses: between two pauses nobody else has a turn. How
a job ends among such neighbours is told by one judgment, `Job.EndsAmid`, which follows the job as
`Job.Ends` does, but for what happens while it pauses. A job that runs alone is a special case.

## Main declarations

* `Pause.Lasts`: what may happen during a pause.
* `Job.EndsAmid`, taken apart by `Job.EndsAmid.of_bind`, `Job.EndsAmid.of_ensuring` and
  `Job.EndsAmid.of_within`.
* `Job.Keeps.of_endsAmid`: a job that is kept in line leaves book and state in agreement if its
  neighbours do.
-/

namespace RateHerald

variable {W σ α β : Type}

/-- What may happen while a job pauses: it looks in vain, others are at work, and time passes, but
not beyond the moment when the job wants to be woken. -/
inductive Pause.Lasts (others : σ → σ → Prop) (pause : Pause σ) (m₀ : Moment) (s₀ : σ) :
    Moment → σ → Prop where
  | start : Lasts others pause m₀ s₀ m₀ s₀
  | look {m : Moment} {s : σ} (h : Lasts others pause m₀ s₀ m s)
      (hready : pause.ready m (pause.look m s) = false) :
      Lasts others pause m₀ s₀ m (pause.look m s)
  | others {m : Moment} {s s' : σ} (h : Lasts others pause m₀ s₀ m s) (hothers : others s s') :
      Lasts others pause m₀ s₀ m s'
  | passes {m m' : Moment} {s : σ} (h : Lasts others pause m₀ s₀ m s) (hle : m ≤ m')
      (hdue : ∀ due, pause.due = some due → m' ≤ due) : Lasts others pause m₀ s₀ m' s

/-- A pause that is due by a limit lasts no longer. -/
theorem Pause.Lasts.le_later {others : σ → σ → Prop} {pause : Pause σ} {m₀ m due limit : Moment}
    {s₀ s : σ} (h : pause.Lasts others m₀ s₀ m s) (hdue : pause.due = some due)
    (hle : due ≤ m₀.later limit) : m ≤ m₀.later limit := by
  induction h with
  | start => exact Moment.le_later_left _ _
  | look _ _ ih => exact ih
  | others _ _ ih => exact ih
  | passes _ _ hbound _ => exact Moment.le_trans (hbound due hdue) hle

/-- Under a deadline nothing happens during a pause that could not happen without. -/
theorem Pause.Lasts.of_orAt {others : σ → σ → Prop} {pause : Pause σ} {m₀ m deadline : Moment}
    {s₀ s : σ} (h : (pause.orAt deadline).Lasts others m₀ s₀ m s) :
    pause.Lasts others m₀ s₀ m s := by
  induction h with
  | start => exact .start
  | look _ hready ih => exact .look ih (Bool.or_eq_false_iff.1 hready).1
  | others _ hothers ih => exact .others ih hothers
  | @passes m m' s _ hle hbound ih =>
    refine .passes ih hle fun due hdue => ?_
    have hsoon : (pause.orAt deadline).due = some (due.earlier deadline) := by
      rw [orAt, hdue, Moment.soonest]
    exact Moment.le_trans (hbound _ hsoon) (Moment.earlier_le_iff.2 (.inl (Moment.le_refl _)))

namespace Job

/-- Among others a job that begins at a moment and in a state comes to a result, at a moment and in
a state. -/
inductive EndsAmid (others : σ → σ → Prop) :
    Job σ α → Moment → σ → α → Moment → σ → Prop where
  | done (a : α) (m : Moment) (s : σ) : EndsAmid others (.done a) m s a m s
  | act {change : Moment → σ → σ} {next : Moment → σ → Job σ α} {m m' : Moment} {s s' : σ} {a : α}
      (h : EndsAmid others (next m s) m (change m s) a m' s') :
      EndsAmid others (.act change next) m s a m' s'
  | wait {pause : Pause σ} {next : Moment → σ → Job σ α} {m m₁ m' : Moment} {s s₁ s' : σ} {a : α}
      (hlasts : pause.Lasts others m s m₁ s₁)
      (hready : pause.ready m₁ (pause.look m₁ s₁) = true)
      (h : EndsAmid others (next m₁ (pause.look m₁ s₁)) m₁ (pause.look m₁ s₁) a m' s') :
      EndsAmid others (.wait pause next) m s a m' s'

variable {others : σ → σ → Prop} {p : Job σ α} {m m' deadline : Moment} {s s' : σ} {a : α} {b : β}

/-- A job that runs alone has neighbours that do nothing. -/
theorem Ends.endsAmid {limit : Moment} (hp : p.IsPunctual limit) (h : p.Ends m s a m' s')
    (hle : m' ≤ limit) (others : σ → σ → Prop) : p.EndsAmid others m s a m' s' := by
  have hm : m ≤ limit := Moment.le_trans h.le hle
  induction hp generalizing m s with
  | done _ =>
    cases h
    exact .done _ _ _
  | act _ ih => exact .act (ih _ _ hm h hm)
  | @wait pause next hpause _ ih =>
    obtain ⟨hready, hnext⟩ | ⟨due, hready, hdue, hnotcome, hwoken, hnext⟩ := h.of_isPunctual hpause
    · exact .wait .start hready (ih _ _ hm hready hnext hm)
    · -- the job looks in vain, and time passes until it is due
      have hlooked : pause.Lasts others m s m (pause.look m s) := .look .start hready
      have hin := Moment.le_trans hnext.le hle
      have hahead : m ≤ due := (Moment.le_total _ _).resolve_right hnotcome
      refine .wait (hlooked.passes hahead ?_) hwoken (ih _ _ hin hwoken hnext hin)
      intro due' hdue'
      rw [hdue, Option.some_inj] at hdue'
      exact hdue' ▸ Moment.le_refl due

namespace EndsAmid

/-- A job that follows another ends after that one. -/
theorem of_bind {f : α → Job σ β} (h : (p.bind f).EndsAmid others m s b m' s') :
    ∃ a m₁ s₁, p.EndsAmid others m s a m₁ s₁ ∧ (f a).EndsAmid others m₁ s₁ b m' s' := by
  induction p generalizing m s with
  | done a => exact ⟨a, m, s, .done a m s, h⟩
  | halt why => cases h
  | act change next ih =>
    cases h with
    | act h =>
      obtain ⟨a, m₁, s₁, hp, hf⟩ := ih _ _ h
      exact ⟨a, m₁, s₁, .act hp, hf⟩
  | wait pause next ih =>
    cases h with
    | wait hlasts hready h =>
      obtain ⟨a, m₁, s₁, hp, hf⟩ := ih _ _ h
      exact ⟨a, m₁, s₁, .wait hlasts hready hp, hf⟩

/-- What is done at the end is done in the state that the job leaves. -/
theorem of_ensuring {last : σ → σ} (h : (ensuring last p).EndsAmid others m s a m' s') :
    ∃ s₁, p.EndsAmid others m s a m' s₁ ∧ s' = last s₁ := by
  induction p generalizing m s with
  | done a =>
    cases h with
    | act h =>
      cases h
      exact ⟨_, .done a _ _, rfl⟩
  | halt why => cases h
  | act change next ih =>
    cases h with
    | act h =>
      obtain ⟨s₁, hp, hlast⟩ := ih _ _ h
      exact ⟨s₁, .act hp, hlast⟩
  | wait pause next ih =>
    cases h with
    | wait hlasts hready h =>
      obtain ⟨s₁, hp, hlast⟩ := ih _ _ h
      refine ⟨s₁, .wait ?_ hready hp, hlast⟩
      -- what is done when the job is given up does not matter while it pauses
      clear hready h hp ih
      induction hlasts with
      | start => exact .start
      | look _ hready ih => exact .look ih hready
      | others _ hothers ih => exact .others ih hothers
      | passes _ hle hdue ih => exact .passes ih hle hdue

/-- Under a deadline a job ends by it; it is given up, but not before, or else it ends as it would
have without. -/
theorem of_within {result : Option α}
    (h : (p.within deadline).EndsAmid others m s result m' s') :
    m' ≤ m.later deadline ∧ (result = none → deadline ≤ m') ∧
      ∀ a, result = some a → p.EndsAmid others m s a m' s' := by
  induction p generalizing m s with
  | done a =>
    cases h
    refine ⟨Moment.le_later_left _ _, nofun, ?_⟩
    rintro a ⟨⟩
    exact .done a _ _
  | halt why => cases h
  | act change next ih =>
    cases h with
    | act h =>
      obtain ⟨hle, hlate, hdone⟩ := ih _ _ h
      exact ⟨hle, hlate, fun a ha => .act (hdone a ha)⟩
  | wait pause next ih =>
    cases h with
    | @wait _ _ _ m₁ _ _ s₁ _ _ hlasts hready h =>
      obtain ⟨due, hdue, hle⟩ := pause.due_orAt deadline
      have hin : m₁ ≤ m.later deadline :=
        hlasts.le_later hdue (Moment.le_trans hle (Moment.le_later_right _ _))
      dsimp only [Pause.orAt] at hready h
      by_cases hown : pause.ready m₁ (pause.look m₁ s₁) = true
      · rw [if_pos hown] at h
        obtain ⟨hle', hlate, hdone⟩ := ih _ _ h
        exact ⟨Moment.le_trans hle' (Moment.later_le hin (Moment.le_later_right _ _)), hlate,
          fun a ha => .wait hlasts.of_orAt hown (hdone a ha)⟩
      · rw [if_neg hown] at h
        cases h with
        | act h =>
          cases h
          rw [Bool.or_eq_true, decide_eq_true_eq] at hready
          exact ⟨hin, fun _ => hready.resolve_left hown, nofun⟩

theorem of_done {b : α} (h : (Job.done a).EndsAmid others m s b m' s') : b = a ∧ m' = m ∧ s' = s := by
  cases h
  exact ⟨rfl, rfl, rfl⟩

/-- Nothing comes of waiting for ever. -/
theorem not_never : ¬(never : Job σ α).EndsAmid others m s a m' s' := by
  intro h
  cases h with
  | wait _ hready _ => cases hready

end EndsAmid

/-- A job that is kept in line leaves book and state in agreement if its neighbours do. -/
theorem Keeps.of_endsAmid {watch : Watch W σ} {post : W → α → Prop} {w : W}
    (hothers : ∀ w s s', watch.Agrees w s → others s s' →
      ∃ w', watch.Extends w w' ∧ watch.Agrees w' s')
    (h : p.Keeps watch post w) (hw : watch.Agrees w s) (hends : p.EndsAmid others m s a m' s') :
    ∃ w', watch.Extends w w' ∧ watch.Agrees w' s' ∧ post w' a := by
  induction h generalizing m s with
  | @done w a h =>
    cases hends
    exact ⟨w, watch.extends_refl w, hw, h⟩
  | halt why => cases hends
  | @act w change next hagrees _ ih =>
    cases hends with
    | act hends =>
      have hle := watch.extends_refl w
      obtain ⟨w', hle', hw', hpost⟩ := ih w m s hle hw (hagrees w m s hle hw) hends
      exact ⟨w', watch.extends_trans (watch.extends_note _ _ _) hle', hw', hpost⟩
  | @wait w pause next hlook _ _ ih =>
    cases hends with
    | @wait _ _ _ m₁ _ _ s₁ _ _ hlasts hready hends =>
      have hpaused : ∃ w₁, watch.Extends w w₁ ∧ watch.Agrees w₁ s₁ := by
        clear hready hends
        induction hlasts with
        | start => exact ⟨w, watch.extends_refl w, hw⟩
        | look _ _ ih =>
          obtain ⟨w₁, hle, hw₁⟩ := ih
          exact ⟨w₁, hle, watch.agrees_of_quiet hw₁ (hlook _ _)⟩
        | others _ hother ih =>
          obtain ⟨w₁, hle, hw₁⟩ := ih
          obtain ⟨w₂, hle', hw₂⟩ := hothers _ _ _ hw₁ hother
          exact ⟨w₂, watch.extends_trans hle hle', hw₂⟩
        | passes _ _ _ ih => exact ih
      obtain ⟨w₁, hle, hw₁⟩ := hpaused
      have hseen := watch.agrees_of_quiet hw₁ (hlook m₁ s₁)
      obtain ⟨w', hle', hw', hpost⟩ := ih w₁ m₁ _ hle hseen hseen hends
      exact ⟨w', watch.extends_trans hle hle', hw', hpost⟩

end Job

end RateHerald
