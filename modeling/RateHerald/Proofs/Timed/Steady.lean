import Mathlib
import RateHerald.Proofs.Timed.Ends

/-!
# Jobs whose outcome is settled beforehand

Some jobs share a state with others and yet do not care: whatever the others do to the state between
two of its steps, the job comes to the same result at the same moment. It may well change the state.
What its steps add to a record that is kept in the state, such as the list of those who were called,
is settled beforehand as well.

Since nobody disturbs such a job, it does not matter whether several of them run one after another
or side by side. The results are the same and so is what they add to the record; only the time they
take is a sum in the one case and a maximum in the other.

## Main declarations

* `Job.Steady`, with the rules `Job.Steady.bind` and `Job.Steady.both`, and `Job.Steady.ends`.
* `Job.Takes`: how long a steady job takes, whenever it begins.
* `Job.Takes.inTurn` and `Job.Takes.all`: steady jobs one after another and side by side.
-/

namespace RateHerald

variable {σ α β κ N : Type} [AddCommMonoid N]

theorem Moment.ms_later (a b : Moment) : (a.later b).ms = max a.ms b.ms := by
  rw [later]
  split
  · next h =>
    rw [le_def] at h
    omega
  · next h =>
    rw [le_def] at h
    omega

@[simp] theorem Moment.hasCome_some {due m : Moment} : hasCome (some due) m = true ↔ due ≤ m :=
  decide_eq_true_iff

namespace Job

/-! ## Steady jobs -/

/-- From a moment on the job comes to the result `a` at the moment `finish`, and its steps add
`notes` to the record, whatever the state is at each of its steps. -/
inductive Steady (log : σ → N) (finish : Moment) (a : α) : N → Moment → Job σ α → Prop where
  | done : Steady log finish a 0 finish (.done a)
  | act {notes more : N} {m : Moment} {change : Moment → σ → σ} {next : Moment → σ → Job σ α}
      (hlog : ∀ s, log (change m s) = log s + notes)
      (h : ∀ s, Steady log finish a more m (next m s)) :
      Steady log finish a (notes + more) m (.act change next)
  | wait {notes : N} {m due : Moment} {pause : Pause σ} {next : Moment → σ → Job σ α}
      (hpause : pause.IsTimed) (hdue : pause.due = some due)
      (h : ∀ s, Steady log finish a notes (m.later due) (next (m.later due) s)) :
      Steady log finish a notes m (.wait pause next)

variable {log : σ → N} {finish finish' m : Moment} {a : α} {b : β} {notes notes' : N}
  {p : Job σ α} {q : Job σ β}

namespace Steady

theorem le [Nonempty σ] (h : p.Steady log finish a notes m) : m ≤ finish := by
  induction h with
  | done => exact Moment.le_refl _
  | act _ _ ih => exact ih (Classical.arbitrary σ)
  | wait _ _ _ ih => exact Moment.le_trans (Moment.le_later_left _ _) (ih (Classical.arbitrary σ))

/-- A steady job that runs alone ends as settled. -/
theorem ends (h : p.Steady log finish a notes m) (s : σ) :
    ∃ s', p.Ends m s a finish s' ∧ log s' = log s + notes := by
  induction h generalizing s with
  | done => exact ⟨s, ends_done a _ s, (add_zero _).symm⟩
  | @act notes more m change next hlog _ ih =>
    obtain ⟨s', hends, hadded⟩ := ih s (change m s)
    refine ⟨s', hends, ?_⟩
    rw [hadded, hlog, add_assoc]
  | wait hpause hdue _ ih =>
    obtain ⟨s', hends, hadded⟩ := ih s s
    exact ⟨s', hends.wait hpause hdue, hadded⟩

theorem bind {f : α → Job σ β} (hp : p.Steady log finish a notes m)
    (hf : (f a).Steady log finish' b notes' finish) :
    (p.bind f).Steady log finish' b (notes + notes') m := by
  induction hp with
  | done => rwa [zero_add]
  | act hlog _ ih =>
    rw [add_assoc]
    exact .act hlog ih
  | wait hpause hdue _ ih => exact .wait hpause hdue ih

/-- A step that adds nothing to the record. -/
theorem act_silent {change : Moment → σ → σ} {next : Moment → σ → Job σ α}
    (hlog : ∀ s, log (change m s) = log s) (h : ∀ s, (next m s).Steady log finish a notes m) :
    (Job.act change next).Steady log finish a notes m := by
  have hact : (Job.act change next).Steady log finish a (0 + notes) m :=
    .act (fun s => by rw [hlog, add_zero]) h
  rwa [zero_add] at hact

/-! ## Side by side -/

/-- A job on the right while the left one pauses: whichever is due first goes on. -/
theorem against [Nonempty σ] {pause : Pause σ} {left : Moment → σ → Job σ α}
    {resume : Moment → σ → Job σ β → Job σ (α × β)} {due : Moment} (hpause : pause.IsTimed)
    (hdue : pause.due = some due) (hleft : ∀ s, (left due s).Steady log finish a notes due)
    (hresume : ∀ s r notes', r.Steady log finish' b notes' due →
      (resume due s r).Steady log (finish.later finish') (a, b) (notes + notes') due)
    (hq : q.Steady log finish' b notes' m) (hm : ¬due ≤ m) :
    (against pause left resume q).Steady log (finish.later finish') (a, b) (notes + notes') m := by
  induction hq with
  | done =>
    have hlater : Moment.later finish' due = due :=
      Moment.later_of_not_le hm
    refine .wait hpause hdue fun s => ?_
    rw [hlater]
    have hle : finish' ≤ finish :=
      Moment.le_trans ((Moment.le_total _ _).resolve_left hm) (hleft s).le
    rw [Moment.later_of_ge hle]
    exact (hleft s).bind .done
  | @act noted more m change next hlog _ ih =>
    rw [add_left_comm]
    exact .act hlog fun s => ih s hm
  | @wait notes' m dueq pauseq right hpauseq hdueq hright ih =>
    refine act_silent (fun s => by rw [hpauseq.look]) fun s => ?_
    dsimp only
    rw [hpauseq.look, hpauseq.ready, hdueq]
    by_cases hcome : dueq ≤ m
    · rw [if_pos (Moment.hasCome_some.2 hcome)]
      rw [Moment.later_of_ge hcome] at ih
      exact ih s hm
    · rw [if_neg (mt Moment.hasCome_some.1 hcome)]
      have hle : m ≤ due := (Moment.le_total _ _).resolve_left hm
      have hleq : m ≤ dueq := (Moment.le_total _ _).resolve_left hcome
      rw [Moment.later_of_le hleq] at hright ih
      have hfirst : (pause.or pauseq).due = some (Moment.earlier due dueq) := by
        rw [Pause.or, hdue, hdueq, Moment.soonest]
      refine .wait (hpause.or hpauseq) hfirst fun s => ?_
      rw [hpause.ready, hdue]
      by_cases hfirst : due ≤ dueq
      · rw [Moment.earlier_of_le hfirst, Moment.later_of_le hle,
          if_pos (Moment.hasCome_some.2 (Moment.le_refl due))]
        -- the right job pauses on from a later moment, and is woken when it would have been
        refine hresume s _ _ (.wait hpauseq hdueq fun s => ?_)
        rw [Moment.later_of_le hfirst]
        exact hright s
      · rw [Moment.earlier, if_neg hfirst, Moment.later_of_le hleq,
          if_neg (mt Moment.hasCome_some.1 hfirst)]
        exact ih s hfirst

theorem both [Nonempty σ] (hp : p.Steady log finish a notes m) (hq : q.Steady log finish' b notes' m) :
    (both p q).Steady log (finish.later finish') (a, b) (notes + notes') m := by
  induction hp generalizing q notes' with
  | done =>
    rw [zero_add, ← add_zero notes']
    rw [Moment.later_of_le hq.le]
    exact hq.bind .done
  | act hlog _ ih =>
    rw [add_assoc]
    exact .act hlog fun s => ih s hq
  | @wait notes m due pause next hpause hdue hnext ih =>
    refine act_silent (fun s => by rw [hpause.look]) fun s => ?_
    dsimp only
    rw [hpause.look, hpause.ready, hdue]
    by_cases hcome : due ≤ m
    · rw [if_pos (Moment.hasCome_some.2 hcome)]
      rw [Moment.later_of_ge hcome] at ih
      exact ih s hq
    · rw [if_neg (mt Moment.hasCome_some.1 hcome)]
      rw [Moment.later_of_not_le hcome] at hnext ih
      exact against hpause hdue hnext (fun s r notes' hr => ih s hr) hq hcome

end Steady

/-! ## Durations -/

/-- Whenever the job begins it takes so many milliseconds and comes to the result `a`, and its steps
add `notes` to the record. -/
def Takes (log : σ → N) (ms : Nat) (a : α) (notes : N) (p : Job σ α) : Prop :=
  ∀ m : Moment, ∃ finish : Moment, finish.ms = m.ms + ms ∧ p.Steady log finish a notes m

variable {ms ms' : Nat}

namespace Takes

theorem done (log : σ → N) (a : α) : (Job.done a).Takes log 0 a 0 :=
  fun m => ⟨m, rfl, .done⟩

theorem act {change : σ → σ} {next : Job σ α} (hlog : ∀ s, log (change s) = log s + notes)
    (h : next.Takes log ms a notes') :
    (Job.act (fun _ => change) fun _ _ => next).Takes log ms a (notes + notes') := by
  intro m
  obtain ⟨finish, hms, hnext⟩ := h m
  exact ⟨finish, hms, .act hlog fun _ => hnext⟩

/-- A step that adds nothing to the record. -/
theorem act_silent {change : σ → σ} {next : Job σ α} (hlog : ∀ s, log (change s) = log s)
    (h : next.Takes log ms a notes) :
    (Job.act (fun _ => change) fun _ _ => next).Takes log ms a notes := by
  intro m
  obtain ⟨finish, hms, hnext⟩ := h m
  exact ⟨finish, hms, .act_silent hlog fun _ => hnext⟩

theorem sleep (log : σ → N) (ms : Nat) : (Job.sleep ms).Takes log ms () 0 := by
  intro m
  refine ⟨m.later (m.after ms), ?_, ?_⟩
  · rw [Moment.ms_later]
    exact Nat.max_eq_right (Nat.le_add_right _ _)
  · exact .act_silent (fun _ => rfl) fun _ => .wait (isTimed_sleepUntil _) rfl fun _ => .done

theorem ends (h : p.Takes log ms a notes) (m : Moment) (s : σ) :
    ∃ m' s', p.Ends m s a m' s' ∧ m'.ms = m.ms + ms ∧ log s' = log s + notes := by
  obtain ⟨finish, hms, hsteady⟩ := h m
  obtain ⟨s', hends, hlog⟩ := hsteady.ends s
  exact ⟨finish, s', hends, hms, hlog⟩

theorem bind {f : α → Job σ β} (hp : p.Takes log ms a notes)
    (hf : (f a).Takes log ms' b notes') : (p.bind f).Takes log (ms + ms') b (notes + notes') := by
  intro m
  obtain ⟨mid, hmid, hfirst⟩ := hp m
  obtain ⟨finish, hfinish, hthen⟩ := hf mid
  exact ⟨finish, by omega, hfirst.bind hthen⟩

/-- What follows takes no time and adds nothing. -/
theorem map (h : p.Takes log ms a notes) (f : α → β) :
    (p.bind fun a => .done (f a)).Takes log ms (f a) notes := by
  have hdone := h.bind (f := fun a => .done (f a)) (.done log (f a))
  rwa [Nat.add_zero, add_zero] at hdone

theorem both [Nonempty σ] (hp : p.Takes log ms a notes) (hq : q.Takes log ms' b notes') :
    (both p q).Takes log (max ms ms') (a, b) (notes + notes') := by
  intro m
  obtain ⟨finish, hms, hsteady⟩ := hp m
  obtain ⟨finish', hms', hsteady'⟩ := hq m
  refine ⟨finish.later finish', ?_, hsteady.both hsteady'⟩
  rw [Moment.ms_later]
  omega

variable {keys : List κ} {call : κ → Job σ α} {delay : κ → Nat} {result : κ → α} {added : κ → N}

/-- One after another, steady jobs take as long as all of them together. -/
theorem inTurn (h : ∀ k ∈ keys, (call k).Takes log (delay k) (result k) (added k)) :
    (inTurn (keys.map call)).Takes log (keys.map delay).sum (keys.map result)
      (keys.map added).sum := by
  induction keys with
  | nil => exact .done log []
  | cons k keys ih =>
    have hrest := ih fun l hl => h l (List.mem_cons_of_mem k hl)
    rw [List.map_cons, List.map_cons, List.map_cons, List.sum_cons, List.sum_cons]
    exact (h k List.mem_cons_self).bind (hrest.map _)

/-- Side by side, steady jobs take as long as the longest of them. -/
theorem all [Nonempty σ] (h : ∀ k ∈ keys, (call k).Takes log (delay k) (result k) (added k)) :
    (all (keys.map call)).Takes log ((keys.map delay).foldr max 0) (keys.map result)
      (keys.map added).sum := by
  induction keys with
  | nil => exact .done log []
  | cons k keys ih =>
    have hrest := ih fun l hl => h l (List.mem_cons_of_mem k hl)
    rw [List.map_cons, List.map_cons, List.map_cons, List.foldr_cons, List.sum_cons]
    exact ((h k List.mem_cons_self).both hrest).map fun both => both.1 :: both.2

end Takes

end Job

end RateHerald
