import RateHerald.Timed.Joined

/-!
# How jobs end

What a job comes to when it runs alone is told by one judgment, `Job.Ends`, with a rule for each way
in which jobs are put together. The rules for deadlines and for jobs side by side hold for jobs that
pause for time only: such a job is not disturbed by being looked at more often, and it is ready
exactly when its time has come. Everything that is built from such jobs is one again.

## Main declarations

* `Job.Ends`, and the rules `Job.Ends.bind`, `Job.Ends.within`, `Job.Ends.ensuring`, `Job.Ends.on`,
  `Job.Ends.all_singleton` and their companions.
* `Job.OnlySleeps`, closed under everything that puts jobs together.
* `Part.Lawful`: what is written to a part is read from it, and nothing else changes.
-/

namespace RateHerald

variable {σ τ α β : Type}

/-! ## Moments -/

namespace Moment

theorem le_antisymm {a b : Moment} (hab : a ≤ b) (hba : b ≤ a) : a = b := by
  obtain ⟨ms, round⟩ := a
  obtain ⟨ms', round'⟩ := b
  simp only [le_def] at hab hba
  simp only [Moment.mk.injEq]
  omega

theorem later_of_ge {a b : Moment} (h : b ≤ a) : later a b = a := by
  rw [later]
  split
  · next hab => exact le_antisymm h hab
  · rfl

theorem earlier_of_le {a b : Moment} (h : a ≤ b) : earlier a b = a :=
  if_pos h

theorem earlier_le_iff {a b m : Moment} : earlier a b ≤ m ↔ a ≤ m ∨ b ≤ m := by
  rw [earlier]
  by_cases h : a ≤ b
  · rw [if_pos h]
    exact ⟨.inl, fun hor => hor.elim id fun hb => le_trans h hb⟩
  · rw [if_neg h]
    have hba := (le_total a b).resolve_left h
    exact ⟨.inr, fun hor => hor.elim (fun ha => le_trans hba ha) id⟩

theorem le_after (m : Moment) {ms : Nat} (h : 0 < ms) : m ≤ m.after ms :=
  .inl (Nat.lt_add_of_pos_right h)

theorem le_deadline (m : Moment) {deadline : Moment} {span : Span}
    (hdeadline : m.deadline? span = some deadline) (h : 0 < span.ms) : m ≤ deadline :=
  after_eq_of_deadline? hdeadline ▸ le_after m h

theorem after_le_after {ms ms' : Nat} (m : Moment) (h : ms ≤ ms') : m.after ms ≤ m.after ms' := by
  simp only [le_def, after]
  omega

theorem not_after_le_after {ms ms' : Nat} (m : Moment) (h : ms' < ms) :
    ¬m.after ms ≤ m.after ms' := by
  simp only [le_def, after]
  omega

theorem later_of_le {a b : Moment} (h : a ≤ b) : later a b = b :=
  if_pos h

theorem later_of_not_le {a b : Moment} (h : ¬b ≤ a) : later a b = b :=
  later_of_le ((le_total a b).resolve_right h)

theorem later_le {a b c : Moment} (ha : a ≤ c) (hb : b ≤ c) : later a b ≤ c := by
  rw [later]
  split <;> assumption

/-- Whether a moment that may never come has come. -/
def hasCome (due : Option Moment) (m : Moment) : Bool :=
  due.any fun d => d ≤ m

theorem hasCome_soonest (a b : Option Moment) (m : Moment) :
    hasCome (soonest a b) m = (hasCome a m || hasCome b m) := by
  cases a with
  | none => rfl
  | some a =>
    cases b with
    | none => simp [soonest, hasCome]
    | some b =>
      rw [Bool.eq_iff_iff]
      simp [soonest, hasCome, earlier_le_iff]

end Moment

/-! ## The judgment -/

namespace Job

variable {m m' m'' : Moment} {s s' s'' : σ} {a : α} {b : β} {p : Job σ α}

/-- A job that runs from a moment and a state comes to a result, at a moment and in a state. -/
def Ends (p : Job σ α) (m : Moment) (s : σ) (a : α) (m' : Moment) (s' : σ) : Prop :=
  p.run m s = .done a m' s'

theorem ends_done (a : α) (m : Moment) (s : σ) : (Job.done a).Ends m s a m s :=
  rfl

theorem Ends.act {change : Moment → σ → σ} {next : Moment → σ → Job σ α}
    (h : (next m s).Ends m (change m s) a m' s') : (Job.act change next).Ends m s a m' s' :=
  h

theorem ends_change (f : σ → α × σ) (m : Moment) (s : σ) :
    (change f).Ends m s (f s).1 m (f s).2 :=
  rfl

theorem Ends.bind {f : α → Job σ β} (hp : p.Ends m s a m' s') (hf : (f a).Ends m' s' b m'' s'') :
    (p.bind f).Ends m s b m'' s'' := by
  rw [Ends, run_bind, hp]
  exact hf

/-- A job that follows another ends after that one. -/
theorem Ends.of_bind {f : α → Job σ β} (h : (p.bind f).Ends m s b m'' s'') :
    ∃ a m' s', p.Ends m s a m' s' ∧ (f a).Ends m' s' b m'' s'' := by
  rw [Ends, run_bind] at h
  cases hp : p.run m s with
  | done a m' s' =>
    rw [hp] at h
    exact ⟨a, m', s', hp, h⟩
  | halted why =>
    rw [hp] at h
    cases h
  | stuck m' s' =>
    rw [hp] at h
    cases h

/-- Time does not run backwards. -/
theorem Ends.le (h : p.Ends m s a m' s') : m ≤ m' := by
  induction p generalizing m s with
  | done a =>
    cases h
    exact Moment.le_refl _
  | halt why => cases h
  | act change next ih => exact ih m s h
  | wait pause next ih =>
    rw [Ends, run] at h
    split at h
    · exact ih _ _ h
    · split at h
      · cases h
      · exact Moment.le_trans (Moment.le_later_left _ _) (ih _ _ h)

/-! ## Jobs that only sleep -/

end Job

/-- A pause for time only: looking changes nothing, and it is over when its time has come. -/
structure Pause.IsTimed (p : Pause σ) : Prop where
  /-- Looking changes nothing. -/
  look : ∀ m s, p.look m s = s
  /-- It is over when its time has come. -/
  ready : ∀ m s, p.ready m s = Moment.hasCome p.due m

theorem Pause.IsTimed.orAt {p : Pause σ} (h : p.IsTimed) (deadline : Moment) :
    (p.orAt deadline).IsTimed where
  look := h.look
  ready m s := by
    change (p.ready m s || decide (deadline ≤ m)) = Moment.hasCome (Moment.soonest p.due _) m
    rw [Moment.hasCome_soonest, h.ready]
    rfl

theorem Pause.IsTimed.or {p q : Pause σ} (hp : p.IsTimed) (hq : q.IsTimed) :
    (p.or q).IsTimed where
  look m s := by
    simp only [Pause.or, hp.look, hq.look, ite_self]
  ready m s := by
    change (p.ready m s || q.ready m s) = Moment.hasCome (Moment.soonest p.due q.due) m
    rw [Moment.hasCome_soonest, hp.ready, hq.ready]

/-- What is written to the part is read from it, and the last writing counts. -/
structure Part.Lawful (part : Part σ τ) : Prop where
  /-- What was written is read. -/
  get_set : ∀ t s, part.get (part.set t s) = t
  /-- Writing what is there changes nothing. -/
  set_get : ∀ s, part.set (part.get s) s = s
  /-- The last writing counts. -/
  set_set : ∀ t t' s, part.set t (part.set t' s) = part.set t s

theorem Pause.IsTimed.on {part : Part σ τ} (hpart : part.Lawful) {p : Pause τ} (h : p.IsTimed) :
    (p.on part).IsTimed where
  look m s := by
    change part.set (p.look m (part.get s)) s = s
    rw [h.look, hpart.set_get]
  ready m s := h.ready m (part.get s)

namespace Job

variable {m m' m'' : Moment} {s s' s'' : σ} {a : α} {b : β} {p : Job σ α}

/-- All pauses of the job are for time only. -/
inductive OnlySleeps : Job σ α → Prop where
  | done (a : α) : OnlySleeps (.done a)
  | halt (why : String) : OnlySleeps (.halt why)
  | act (change : Moment → σ → σ) {next : Moment → σ → Job σ α}
      (h : ∀ m s, OnlySleeps (next m s)) : OnlySleeps (.act change next)
  | wait {pause : Pause σ} {next : Moment → σ → Job σ α} (hpause : pause.IsTimed)
      (h : ∀ m s, OnlySleeps (next m s)) : OnlySleeps (.wait pause next)

theorem run_wait {pause : Pause σ} (h : pause.IsTimed) (next : Moment → σ → Job σ α) (m : Moment)
    (s : σ) : (Job.wait pause next).run m s =
      match pause.due with
      | none => .stuck m s
      | some due => (next (m.later due) s).run (m.later due) s := by
  simp only [run, h.look, h.ready]
  cases pause.due with
  | none => rfl
  | some due =>
    by_cases hcome : due ≤ m
    · have htrue : Moment.hasCome (some due) m = true := decide_eq_true hcome
      simp only [htrue, Moment.later_of_ge hcome, if_true]
    · have hfalse : Moment.hasCome (some due) m = false := decide_eq_false hcome
      simp only [hfalse, Bool.false_eq_true, if_false]

/-- How a job ends that begins with a pause for time. -/
theorem Ends.of_wait {pause : Pause σ} (hpause : pause.IsTimed) {next : Moment → σ → Job σ α}
    (h : (Job.wait pause next).Ends m s a m' s') :
    ∃ due, pause.due = some due ∧ (next (m.later due) s).Ends (m.later due) s a m' s' := by
  rw [Ends, run_wait hpause] at h
  cases hdue : pause.due with
  | none =>
    rw [hdue] at h
    cases h
  | some due =>
    rw [hdue] at h
    exact ⟨due, rfl, h⟩

theorem Ends.wait {pause : Pause σ} (hpause : pause.IsTimed) {next : Moment → σ → Job σ α}
    {due : Moment} (hdue : pause.due = some due)
    (h : (next (m.later due) s).Ends (m.later due) s a m' s') :
    (Job.wait pause next).Ends m s a m' s' := by
  rw [Ends, run_wait hpause, hdue]
  exact h

theorem isTimed_sleepUntil (due : Moment) :
    (⟨fun _ s => s, fun m _ => due ≤ m, some due, id⟩ : Pause σ).IsTimed where
  look _ _ := rfl
  ready _ _ := rfl

theorem isTimed_never : (⟨fun _ s => s, fun _ _ => false, none, id⟩ : Pause σ).IsTimed where
  look _ _ := rfl
  ready _ _ := rfl

theorem ends_sleepUntil (due m : Moment) (s : σ) :
    (sleepUntil due).Ends m s () (m.later due) s :=
  .wait (isTimed_sleepUntil due) rfl rfl

theorem ends_sleep (ms : Nat) (m : Moment) (s : σ) :
    (sleep ms).Ends m s () (m.later (m.after ms)) s :=
  ends_sleepUntil (m.after ms) m s

theorem ends_yield (m : Moment) (s : σ) : (Job.yield).Ends m s () m.nextRound s := by
  have hlater : m.later m.nextRound = m.nextRound :=
    if_pos (.inr ⟨rfl, Nat.le_succ _⟩)
  have h := ends_sleepUntil m.nextRound m s
  rwa [hlater] at h

namespace OnlySleeps

theorem bind {f : α → Job σ β} (hp : p.OnlySleeps) (hf : ∀ a, (f a).OnlySleeps) :
    (p.bind f).OnlySleeps := by
  induction hp with
  | done a => exact hf a
  | halt why => exact .halt why
  | act change _ ih => exact .act change ih
  | wait hpause _ ih => exact .wait hpause ih

theorem sleepUntil (due : Moment) : (sleepUntil due : Job σ Unit).OnlySleeps :=
  .wait (isTimed_sleepUntil due) fun _ _ => .done ()

theorem change (f : σ → α × σ) : (change f).OnlySleeps :=
  .act _ fun _ _ => .done _

theorem now : (now : Job σ Moment).OnlySleeps :=
  .act _ fun _ _ => .done _

theorem sleep (ms : Nat) : (sleep ms : Job σ Unit).OnlySleeps :=
  now.bind fun _ => sleepUntil _

theorem yield : (yield : Job σ Unit).OnlySleeps :=
  now.bind fun _ => sleepUntil _

theorem never : (never : Job σ α).OnlySleeps :=
  .wait isTimed_never fun _ _ => .halt _

theorem within (h : p.OnlySleeps) (deadline : Moment) : (p.within deadline).OnlySleeps := by
  induction h with
  | done a => exact .done _
  | halt why => exact .halt why
  | act change _ ih => exact .act change ih
  | wait hpause _ ih =>
    refine .wait (hpause.orAt deadline) fun m s => ?_
    split
    · exact ih m s
    · exact .act _ fun _ _ => .done none

theorem on {part : Part σ τ} (hpart : part.Lawful) {p : Job τ α} (h : p.OnlySleeps) :
    (p.on part).OnlySleeps := by
  induction h with
  | done a => exact .done a
  | halt why => exact .halt why
  | act _ _ ih => exact .act _ fun m s => ih m (part.get s)
  | wait hpause _ ih => exact .wait (hpause.on hpart) fun m s => ih m (part.get s)

theorem both {q : Job σ β} (hp : p.OnlySleeps) (hq : q.OnlySleeps) : (both p q).OnlySleeps := by
  induction hp generalizing q with
  | done a => exact hq.bind fun b => .done _
  | halt why => exact .halt why
  | act change _ ih => exact .act change fun m s => ih m s hq
  | @wait pause next hpause hnext ih =>
    -- the right job works while the left one pauses, so the induction goes through it as well
    have hagainst : (against pause next (fun m s r => Job.both (next m s) r) q).OnlySleeps := by
      induction hq with
      | done b => exact .wait hpause fun m s => (hnext m s).bind fun a => .done _
      | halt why => exact .halt why
      | act change _ ihq => exact .act change fun m s => ihq m s
      | wait hpauseq hq ihq =>
        refine .act _ fun m s => ?_
        dsimp only
        split
        · exact ihq _ _
        · refine .wait (hpause.or hpauseq) fun m s => ?_
          split
          · exact ih m s (.wait hpauseq hq)
          · exact ihq m s
    refine .act _ fun m s => ?_
    dsimp only
    split
    · exact ih _ _ hq
    · exact hagainst

theorem all {ps : List (Job σ α)} (h : ∀ p ∈ ps, p.OnlySleeps) : (all ps).OnlySleeps := by
  induction ps with
  | nil => exact .done []
  | cons p ps ih =>
    have hrest := ih fun q hq => h q (List.mem_cons_of_mem p hq)
    exact ((h p List.mem_cons_self).both hrest).bind fun _ => .done _

theorem inTurn {ps : List (Job σ α)} (h : ∀ p ∈ ps, p.OnlySleeps) : (inTurn ps).OnlySleeps := by
  induction ps with
  | nil => exact .done []
  | cons p ps ih =>
    have hrest := ih fun q hq => h q (List.mem_cons_of_mem p hq)
    exact (h p List.mem_cons_self).bind fun _ => hrest.bind fun _ => .done _

end OnlySleeps

/-! ## Deadlines, ends and parts -/

/-- A pause that is over by the deadline is not given up. -/
theorem Ends.within_wait {pause : Pause σ} (hpause : pause.IsTimed) {next : Moment → σ → Job σ α}
    {due deadline : Moment} (hdue : pause.due = some due) (hin : due ≤ deadline)
    {result : Option α}
    (h : ((next (m.later due) s).within deadline).Ends (m.later due) s result m' s') :
    ((Job.wait pause next).within deadline).Ends m s result m' s' := by
  have hcome : due ≤ m.later due := Moment.le_later_right m due
  have hearlier : Moment.earlier due deadline = due := Moment.earlier_of_le hin
  have hready : pause.ready (m.later due) s = true := by
    rw [hpause.ready, hdue]
    exact decide_eq_true hcome
  -- the deadline may come at the same moment: what is ready then is taken all the same
  refine .wait (hpause.orAt deadline) (by rw [Pause.orAt, hdue, Moment.soonest, hearlier]) ?_
  rwa [if_pos hready]

/-- A job that is done by the deadline is not given up. -/
theorem Ends.within (hp : p.OnlySleeps) (h : p.Ends m s a m' s') {deadline : Moment}
    (hle : m' ≤ deadline) : (p.within deadline).Ends m s (some a) m' s' := by
  induction hp generalizing m s with
  | done a =>
    cases h
    rfl
  | halt why => cases h
  | act change _ ih => exact ih m s h
  | @wait pause next hpause _ ih =>
    obtain ⟨due, hdue, hnext⟩ := h.of_wait hpause
    have hin := Moment.le_trans (Moment.le_later_right m due) (Moment.le_trans hnext.le hle)
    exact .within_wait hpause hdue hin (ih _ _ hnext)

/-- A job that still pauses at the deadline is given up. -/
theorem ends_within_of_late {pause : Pause σ} (hpause : pause.IsTimed)
    (next : Moment → σ → Job σ α) {deadline : Moment}
    (hlate : Moment.hasCome pause.due (m.later deadline) = false) :
    ((Job.wait pause next).within deadline).Ends m s none (m.later deadline) (pause.drop s) := by
  have hdue : (pause.orAt deadline).due = some deadline := by
    rw [Pause.orAt]
    cases hpdue : pause.due with
    | none => rfl
    | some due =>
      rw [hpdue] at hlate
      have hnot : ¬due ≤ deadline := fun hle =>
        of_decide_eq_false hlate (Moment.le_trans hle (Moment.le_later_right m deadline))
      rw [Moment.soonest, Moment.earlier, if_neg hnot]
  refine .wait (hpause.orAt deadline) hdue ?_
  rw [hpause.ready, hlate, if_neg Bool.false_ne_true]
  exact Ends.act (ends_done none _ _)

/-- A job that would be done after the deadline is given up at it. -/
theorem Ends.within_of_late (hp : p.OnlySleeps) (h : p.Ends m s a m' s') {deadline : Moment}
    (hle : m ≤ deadline) (hlate : ¬m' ≤ deadline) :
    ∃ s'', (p.within deadline).Ends m s none deadline s'' := by
  induction hp generalizing m s with
  | done a =>
    cases h
    exact absurd hle hlate
  | halt why => cases h
  | act change _ ih => exact ih m s h hle
  | @wait pause next hpause _ ih =>
    obtain ⟨due, hdue, hnext⟩ := h.of_wait hpause
    by_cases hin : due ≤ deadline
    · have hlater := Moment.later_le hle hin
      obtain ⟨s'', hgiven⟩ := ih _ _ hnext hlater
      exact ⟨s'', .within_wait hpause hdue hin hgiven⟩
    · have hpast : Moment.hasCome pause.due (m.later deadline) = false := by
        rw [hdue, Moment.later_of_le hle]
        exact decide_eq_false hin
      have hgiven := ends_within_of_late (s := s) hpause next hpast
      rw [Moment.later_of_le hle] at hgiven
      exact ⟨_, hgiven⟩

theorem Ends.ensuring (h : p.Ends m s a m' s') (last : σ → σ) :
    (ensuring last p).Ends m s a m' (last s') := by
  induction p generalizing m s with
  | done a =>
    cases h
    rfl
  | halt why => cases h
  | act change next ih => exact ih m s h
  | wait pause next ih =>
    rw [Ends, run] at h
    rw [Ends, Job.ensuring, run]
    dsimp only at h ⊢
    by_cases hready : pause.ready m (pause.look m s) = true
    · rw [if_pos hready] at h ⊢
      exact ih _ _ h
    · rw [if_neg hready] at h ⊢
      cases hdue : pause.due with
      | none =>
        rw [hdue] at h
        cases h
      | some due =>
        rw [hdue] at h
        exact ih _ _ h

/-- A job on a part of the state ends as it would if the part were all. -/
theorem Ends.on {part : Part σ τ} (hpart : part.Lawful) {p : Job τ α} {t' : τ}
    (h : p.Ends m (part.get s) a m' t') : (p.on part).Ends m s a m' (part.set t' s) := by
  induction p generalizing m s with
  | done a =>
    cases h
    rw [hpart.set_get]
    rfl
  | halt why => cases h
  | act change next ih =>
    have hnext : (next m (part.get s)).Ends m
        (part.get (part.set (change m (part.get s)) s)) a m' t' := by
      rw [hpart.get_set]
      exact h
    have hset := ih m (part.get s) hnext
    rw [hpart.set_set] at hset
    exact hset
  | wait pause next ih =>
    -- what follows the pause, in a state whose part is `t`
    have hgo : ∀ (m : Moment) (t : τ) (s : σ), (next m t).Ends m t a m' t' →
        ((next m t).on part).Ends m (part.set t s) a m' (part.set t' s) := by
      intro m t s hnext
      have hset := ih m t (s := part.set t s) (by rwa [hpart.get_set])
      rwa [hpart.set_set] at hset
    rw [Ends, run] at h
    rw [Ends, Job.on, run]
    simp only [Pause.on, Part.modify, hpart.get_set, hpart.set_set] at h ⊢
    by_cases hready : pause.ready m (pause.look m (part.get s)) = true
    · rw [if_pos hready] at h ⊢
      exact hgo _ _ _ h
    · rw [if_neg hready] at h ⊢
      cases hdue : pause.due with
      | none =>
        rw [hdue] at h
        cases h
      | some due =>
        rw [hdue] at h
        exact hgo _ _ _ h

/-! ## Jobs one after another and side by side -/

theorem ends_inTurn_nil (m : Moment) (s : σ) : (inTurn ([] : List (Job σ α))).Ends m s [] m s :=
  rfl

theorem Ends.inTurn_cons {ps : List (Job σ α)} {as : List α} (hp : p.Ends m s a m' s')
    (hrest : (inTurn ps).Ends m' s' as m'' s'') :
    (inTurn (p :: ps)).Ends m s (a :: as) m'' s'' :=
  hp.bind (hrest.bind (ends_done _ _ _))

/-- A job beside one that is done. -/
theorem Ends.both_done (hp : p.OnlySleeps) (h : p.Ends m s a m' s') (b : β) :
    (both p (.done b)).Ends m s (a, b) m' s' := by
  induction hp generalizing m s with
  | done a =>
    cases h
    rfl
  | halt why => cases h
  | act change _ ih => exact ih m s h
  | @wait pause next hpause _ ih =>
    obtain ⟨due, hdue, hnext⟩ := h.of_wait hpause
    -- the pair looks once by itself before it pauses, which is why a pause that is over at once
    -- does not follow the rule for pauses
    rw [Ends, both, run]
    simp only [hpause.look, hpause.ready, hdue]
    by_cases hcome : due ≤ m
    · have hnow : Moment.hasCome (some due) m = true := decide_eq_true hcome
      rw [Moment.later_of_ge hcome] at hnext
      rw [if_pos hnow]
      exact ih m s hnext
    · have hlater : Moment.hasCome (some due) m = false := decide_eq_false hcome
      rw [if_neg (by simp [hlater])]
      exact Ends.wait hpause hdue (hnext.bind (ends_done _ _ _))

theorem Ends.all_singleton (hp : p.OnlySleeps) (h : p.Ends m s a m' s') :
    (all [p]).Ends m s [a] m' s' :=
  (h.both_done hp []).bind (ends_done _ _ _)

/-- The jobs beside one that is done. -/
theorem Ends.all_done_cons {ps : List (Job σ α)} {as : List α}
    (h : (all ps).Ends m s as m' s') (a : α) :
    (all (.done a :: ps)).Ends m s (a :: as) m' s' :=
  Ends.bind (h.bind (ends_done (a, as) _ _)) (ends_done _ _ _)

end Job

end RateHerald
