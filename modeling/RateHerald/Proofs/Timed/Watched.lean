import RateHerald.Proofs.Timed.Company

/-!
# Jobs under watch

Several jobs work on one state, and somebody watches it and keeps a book. The book only grows, and
it agrees with the state at all times. What a job may rely on is that the others leave book and
state in agreement, whatever they write into the book; what it has to guarantee is that its own
steps do so as well. A job that does is kept in line by the watch, `Job.Keeps`, and what it comes to
can be told from the book alone. Since the others are jobs of the same sort, jobs that run side by
side are kept in line if each of them is.

Looking at a pause, and giving up a job, are changes that nobody has to take note of. They are told
apart by `Watch.Quiet`, since jobs side by side look more often than either does alone.

## Main declarations

* `Watch`: a book, and how it agrees with a state.
* `Job.Keeps`, closed under everything that puts jobs together.
* `Job.Keeps.of_ends` and `Job.Keeps.move`: what a run, and a single step in company, leaves.
-/

namespace RateHerald

variable {W σ α β : Type}

/-- Somebody who watches a state and keeps a book about it. -/
structure Watch (W σ : Type) where
  /-- The book agrees with the state. -/
  Agrees : W → σ → Prop
  /-- The book after a step from one state to another. -/
  note : W → σ → σ → W
  /-- The second book has everything that is in the first. -/
  Extends : W → W → Prop
  /-- Nobody has to take note of the change. -/
  Quiet : σ → σ → Prop
  extends_refl : ∀ w, Extends w w
  extends_trans : ∀ {w w' w''}, Extends w w' → Extends w' w'' → Extends w w''
  extends_note : ∀ w s s', Extends w (note w s s')
  quiet_trans : ∀ {s s' s''}, Quiet s s' → Quiet s' s'' → Quiet s s''
  agrees_of_quiet : ∀ {w s s'}, Agrees w s → Quiet s s' → Agrees w s'
  agrees_note_of_quiet : ∀ {w s s'}, Agrees w s → Quiet s s' → Agrees (note w s s') s'

namespace Job

/-- From a book on, the steps of the job leave book and state in agreement if the others do, and the
book tells `post` of what it comes to. -/
inductive Keeps (watch : Watch W σ) (post : W → α → Prop) : W → Job σ α → Prop where
  | done {w : W} {a : α} (h : post w a) : Keeps watch post w (.done a)
  | halt {w : W} (why : String) : Keeps watch post w (.halt why)
  | act {w : W} {change : Moment → σ → σ} {next : Moment → σ → Job σ α}
      (hagrees : ∀ w' m s, watch.Extends w w' → watch.Agrees w' s →
        watch.Agrees (watch.note w' s (change m s)) (change m s))
      (h : ∀ w' m s, watch.Extends w w' → watch.Agrees w' s →
        Keeps watch post (watch.note w' s (change m s)) (next m s)) :
      Keeps watch post w (.act change next)
  | wait {w : W} {pause : Pause σ} {next : Moment → σ → Job σ α}
      (hlook : ∀ m s, watch.Quiet s (pause.look m s)) (hdrop : ∀ s, watch.Quiet s (pause.drop s))
      (h : ∀ w' m s, watch.Extends w w' → watch.Agrees w' s → Keeps watch post w' (next m s)) :
      Keeps watch post w (.wait pause next)

/-- The job is kept in line, whatever it comes to. -/
abbrev IsKept (watch : Watch W σ) (w : W) (p : Job σ α) : Prop :=
  p.Keeps watch (fun _ _ => True) w

namespace Keeps

variable {watch : Watch W σ} {post weaker : W → α → Prop} {post' : W → β → Prop} {w w' : W}
  {p p' : Job σ α} {m m' : Moment} {s s' : σ} {a : α}

theorem imp (h : p.Keeps watch post w)
    (himp : ∀ w' a, watch.Extends w w' → post w' a → weaker w' a) : p.Keeps watch weaker w := by
  induction h with
  | done h => exact .done (himp _ _ (watch.extends_refl _) h)
  | halt why => exact .halt why
  | act hagrees _ ih =>
    refine .act hagrees fun w' m s hle hw => ih w' m s hle hw fun w'' a hle' => ?_
    exact himp w'' a (watch.extends_trans hle (watch.extends_trans (watch.extends_note _ _ _) hle'))
  | wait hlook hdrop _ ih =>
    refine .wait hlook hdrop fun w' m s hle hw => ih w' m s hle hw fun w'' a hle' => ?_
    exact himp w'' a (watch.extends_trans hle hle')

theorem isKept (h : p.Keeps watch post w) : p.IsKept watch w :=
  h.imp fun _ _ _ _ => trivial

/-- A job that is kept in line stays so while the others are at work. -/
theorem mono (hpost : ∀ {w w' a}, watch.Extends w w' → post w a → post w' a)
    (h : p.Keeps watch post w) (hle : watch.Extends w w') : p.Keeps watch post w' := by
  cases h with
  | done h => exact .done (hpost hle h)
  | halt why => exact .halt why
  | act hagrees h =>
    exact .act (fun w'' m s hle' => hagrees w'' m s (watch.extends_trans hle hle'))
      fun w'' m s hle' => h w'' m s (watch.extends_trans hle hle')
  | wait hlook hdrop h =>
    exact .wait hlook hdrop fun w'' m s hle' => h w'' m s (watch.extends_trans hle hle')

theorem bind {f : α → Job σ β} (hp : p.Keeps watch post w)
    (hf : ∀ w' a, watch.Extends w w' → post w' a → (f a).Keeps watch post' w') :
    (p.bind f).Keeps watch post' w := by
  induction hp with
  | done h => exact hf _ _ (watch.extends_refl _) h
  | halt why => exact .halt why
  | act hagrees _ ih =>
    refine .act hagrees fun w' m s hle hw => ih w' m s hle hw fun w'' a hle' => ?_
    exact hf w'' a (watch.extends_trans hle (watch.extends_trans (watch.extends_note _ _ _) hle'))
  | wait hlook hdrop _ ih =>
    refine .wait hlook hdrop fun w' m s hle hw => ih w' m s hle hw fun w'' a hle' => ?_
    exact hf w'' a (watch.extends_trans hle hle')

/-- What is done at the end, or when the job is given up, has to be quiet. -/
theorem ensuring {last : σ → σ} (h : p.Keeps watch post w) (hlast : ∀ s, watch.Quiet s (last s))
    (hpost : ∀ w' v s a, watch.Extends w w' → post w' a → watch.Extends w' v →
      watch.Agrees v s → weaker (watch.note v s (last s)) a) :
    (ensuring last p).Keeps watch weaker w := by
  induction h with
  | done h =>
    exact .act (fun w' _ s _ hw => watch.agrees_note_of_quiet hw (hlast s)) fun w' _ s hle hw =>
      .done (hpost _ w' s _ (watch.extends_refl _) h hle hw)
  | halt why => exact .halt why
  | act hagrees _ ih =>
    refine .act hagrees fun w' m s hle hw => ih w' m s hle hw fun w'' v s' a hle' => ?_
    exact hpost w'' v s' a
      (watch.extends_trans hle (watch.extends_trans (watch.extends_note _ _ _) hle'))
  | wait hlook hdrop _ ih =>
    refine .wait hlook (fun s => watch.quiet_trans (hdrop s) (hlast _)) fun w' m s hle hw => ?_
    refine ih w' m s hle hw fun w'' v s' a hle' => ?_
    exact hpost w'' v s' a (watch.extends_trans hle hle')

theorem within (h : p.Keeps watch post w) (deadline : Moment) :
    (within deadline p).Keeps watch (fun w result => ∀ a, result = some a → post w a) w := by
  induction h with
  | done h => exact .done (by rintro a ⟨⟩; exact h)
  | halt why => exact .halt why
  | act hagrees _ ih => exact .act hagrees ih
  | @wait w pause next hlook hdrop _ ih =>
    refine .wait hlook hdrop fun w' m s hle hw => ?_
    by_cases hready : pause.ready m s = true
    · rw [if_pos hready]
      exact ih w' m s hle hw
    · rw [if_neg hready]
      exact .act (fun w'' _ s' _ hw' => watch.agrees_note_of_quiet hw' (hdrop s')) fun _ _ _ _ _ =>
        .done nofun

/-! ## Jobs side by side -/

/-- A job on the right is kept in line while the left one pauses, if going on with the left one
is. -/
theorem against {pause : Pause σ} {left : Moment → σ → Job σ α}
    {resume : Moment → σ → Job σ β → Job σ (α × β)} {q : Job σ β}
    (hlook : ∀ m s, watch.Quiet s (pause.look m s)) (hdrop : ∀ s, watch.Quiet s (pause.drop s))
    (hleft : ∀ w' m s, watch.Extends w w' → watch.Agrees w' s → (left m s).IsKept watch w')
    (hresume : ∀ w' m s r, watch.Extends w w' → watch.Agrees w' s → r.IsKept watch w' →
      (resume m s r).IsKept watch w')
    (hq : q.IsKept watch w') (hle : watch.Extends w w') :
    (against pause left resume q).IsKept watch w' := by
  induction hq with
  | done h =>
    refine .wait hlook hdrop fun w'' m s hle' hw => ?_
    exact (hleft w'' m s (watch.extends_trans hle hle') hw).bind fun _ _ _ _ => .done trivial
  | halt why => exact .halt why
  | act hagrees _ ih =>
    refine .act hagrees fun w'' m s hle' hw => ih w'' m s hle' hw ?_
    exact watch.extends_trans hle (watch.extends_trans hle' (watch.extends_note _ _ _))
  | @wait w' pauseq right hlookq hdropq hright ih =>
    refine .act (fun w'' m s _ hw => watch.agrees_note_of_quiet hw (hlookq m s))
      fun w'' m s hle' hw => ?_
    have hseen := watch.agrees_note_of_quiet hw (hlookq m s)
    have hnoted := watch.extends_trans hle' (watch.extends_note w'' s (pauseq.look m s))
    dsimp only
    split
    · exact ih _ m _ hnoted hseen (watch.extends_trans hle hnoted)
    · refine .wait (fun m s => ?_) (fun s => watch.quiet_trans (hdrop s) (hdropq _))
        fun v m s hv hw' => ?_
      · change watch.Quiet s (if pause.ready m (pause.look m s) = true then pause.look m s
          else pauseq.look m (pause.look m s))
        split
        · exact hlook m s
        · exact watch.quiet_trans (hlook m s) (hlookq m _)
      · have hle'' := watch.extends_trans hnoted hv
        by_cases hready : pause.ready m s = true
        · rw [if_pos hready]
          refine hresume v m s _ (watch.extends_trans hle hle'') hw' (.wait hlookq hdropq ?_)
          exact fun u m s hu => hright u m s (watch.extends_trans hle'' hu)
        · rw [if_neg hready]
          exact ih v m s hle'' hw' (watch.extends_trans hle hle'')

theorem both {q : Job σ β} (hp : p.IsKept watch w) (hq : q.IsKept watch w) :
    (both p q).IsKept watch w := by
  induction hp generalizing q with
  | done h => exact hq.bind fun _ _ _ _ => .done trivial
  | halt why => exact .halt why
  | act hagrees _ ih =>
    refine .act hagrees fun w' m s hle hw => ih w' m s hle hw ?_
    exact hq.mono (fun _ _ => trivial) (watch.extends_trans hle (watch.extends_note _ _ _))
  | @wait w pause next hlook hdrop hnext ih =>
    refine .act (fun w' m s _ hw => watch.agrees_note_of_quiet hw (hlook m s))
      fun w' m s hle hw => ?_
    have hseen := watch.agrees_note_of_quiet hw (hlook m s)
    have hle' := watch.extends_trans hle (watch.extends_note w' s (pause.look m s))
    have hq' := hq.mono (fun _ _ => trivial) hle'
    dsimp only
    split
    · exact ih _ m _ hle' hseen hq'
    · exact hq'.against hlook hdrop hnext (fun v m s r hv hw hr => ih v m s hv hw hr) hle'

theorem all {ps : List (Job σ α)} (h : ∀ p ∈ ps, p.IsKept watch w) : (all ps).IsKept watch w := by
  induction ps with
  | nil => exact .done trivial
  | cons p ps ih =>
    have hrest := ih fun q hq => h q (List.mem_cons_of_mem p hq)
    exact ((h p List.mem_cons_self).both hrest).bind fun _ _ _ _ => .done trivial

theorem inTurn {ps : List (Job σ α)} (h : ∀ p ∈ ps, p.IsKept watch w) :
    (inTurn ps).IsKept watch w := by
  induction ps with
  | nil => exact .done trivial
  | cons p ps ih =>
    have hrest := ih fun q hq => h q (List.mem_cons_of_mem p hq)
    refine (h p List.mem_cons_self).bind fun w' _ hle _ => ?_
    exact (hrest.mono (fun _ _ => trivial) hle).bind fun _ _ _ _ => .done trivial

/-! ## Runs and steps -/

/-- A job that runs alone leaves book and state in agreement. -/
theorem of_ends (h : p.Keeps watch post w) (hw : watch.Agrees w s) (hends : p.Ends m s a m' s') :
    ∃ w', watch.Extends w w' ∧ watch.Agrees w' s' ∧ post w' a := by
  induction h generalizing m s with
  | @done w a h =>
    cases hends
    exact ⟨w, watch.extends_refl w, hw, h⟩
  | halt why => cases hends
  | @act w change next hagrees _ ih =>
    have hle := watch.extends_refl w
    obtain ⟨w', hle', hagrees', hpost⟩ := ih w m s hle hw (hagrees w m s hle hw) hends
    exact ⟨w', watch.extends_trans (watch.extends_note _ _ _) hle', hagrees', hpost⟩
  | @wait w pause next hlook _ _ ih =>
    have hle := watch.extends_refl w
    have hseen := watch.agrees_of_quiet hw (hlook m s)
    rw [Ends, run] at hends
    dsimp only at hends
    split at hends
    · exact ih w m _ hle hseen hseen hends
    · split at hends
      · cases hends
      · next due _ =>
        have hwoken := watch.agrees_of_quiet hseen (hlook (m.later due) _)
        exact ih w _ _ hle hwoken hwoken hends

/-- One step of a job in company leaves book and state in agreement, and the job in line. -/
theorem move (hpost : ∀ {w w' a}, watch.Extends w w' → post w a → post w' a)
    (h : p.Keeps watch post w) (hw : watch.Agrees w s) (hmove : p.Move m s s' p') :
    watch.Agrees (watch.note w s s') s' ∧ p'.Keeps watch post (watch.note w s s') := by
  have hle := watch.extends_refl w
  cases hmove with
  | act change next =>
    cases h with
    | act hagrees h => exact ⟨hagrees w m s hle hw, h w m s hle hw⟩
  | look next _ =>
    cases h with
    | wait hlook hdrop h =>
      have hseen := watch.agrees_note_of_quiet hw (hlook m s)
      exact ⟨hseen, mono hpost (.wait hlook hdrop h) (watch.extends_note _ _ _)⟩
  | go next _ =>
    cases h with
    | wait hlook _ h =>
      have hseen := watch.agrees_note_of_quiet hw (hlook m s)
      exact ⟨hseen, h _ m _ (watch.extends_note _ _ _) hseen⟩

end Keeps

end Job

end RateHerald
