import Mathlib.Algebra.BigOperators.Group.List.Basic
import RateHerald.Proofs.Timed.Punctual

/-!
# Jobs that are sure of their result

A job may look at a state that others change while it pauses, and still be sure of its result: if it
looks only at what all of them leave as it is, and if every pause is over when its time has come.
When it is done may well depend on the others. What its steps add to a record in the state is sure
as well, though not at which place of the record.

Jobs that are sure of their results are so one after another and side by side.

## Main declarations

* `Job.Sure`, with the rules `Job.Sure.bind` and `Job.Sure.both`.
* `Job.Sure.ends`: such a job ends.
* `Job.Sure.inTurn` and `Job.Sure.all`: many of them.
-/

namespace RateHerald

variable {σ α β κ N : Type} {keeps : σ → Prop} {log : σ → N}

/-- To look at the state keeps it in condition and adds nothing to the record. -/
def Pause.IsSilent (keeps : σ → Prop) (log : σ → N) (p : Pause σ) : Prop :=
  ∀ m s, keeps s → keeps (p.look m s) ∧ log (p.look m s) = log s

theorem Pause.IsSilent.or {p q : Pause σ} (hp : p.IsSilent keeps log) (hq : q.IsSilent keeps log) :
    (p.or q).IsSilent keeps log := by
  intro m s hs
  obtain ⟨hkept, hlog⟩ := hp m s hs
  rw [Pause.or]
  dsimp only
  split
  · exact ⟨hkept, hlog⟩
  · obtain ⟨hkept', hlog'⟩ := hq m _ hkept
    exact ⟨hkept', hlog'.trans hlog⟩

theorem Pause.IsTimed.isSilent {p : Pause σ} (h : p.IsTimed) : p.IsSilent keeps log := by
  intro m s hs
  rw [h.look]
  exact ⟨hs, rfl⟩

namespace Job

variable [AddCommMonoid N]

/-- The job comes to the result `a`, and its steps add `notes` to the record, whatever others do
while it pauses, if only they keep the state in a certain condition. The job keeps it so itself. -/
inductive Sure (keeps : σ → Prop) (log : σ → N) (a : α) : N → Job σ α → Prop where
  | done : Sure keeps log a 0 (.done a)
  | act {notes more : N} {change : Moment → σ → σ} {next : Moment → σ → Job σ α}
      (hkeeps : ∀ m s, keeps s → keeps (change m s))
      (hlog : ∀ m s, keeps s → log (change m s) = log s + notes)
      (h : ∀ m s, keeps s → Sure keeps log a more (next m s)) :
      Sure keeps log a (notes + more) (.act change next)
  | wait {notes : N} {due : Moment} {pause : Pause σ} {next : Moment → σ → Job σ α}
      (hpause : pause.IsPunctual) (hdue : pause.due = some due) (hlook : pause.IsSilent keeps log)
      (h : ∀ m s, keeps s → pause.ready m s = true → Sure keeps log a notes (next m s)) :
      Sure keeps log a notes (.wait pause next)

variable {a : α} {b : β} {notes notes' : N} {p : Job σ α} {q : Job σ β}

namespace Sure

/-- A job that is sure of its result ends with it. -/
theorem ends (h : p.Sure keeps log a notes) (m : Moment) {s : σ} (hs : keeps s) :
    ∃ m' s', p.Ends m s a m' s' ∧ keeps s' ∧ log s' = log s + notes := by
  induction h generalizing m s with
  | done => exact ⟨m, s, ends_done a m s, hs, (add_zero _).symm⟩
  | @act notes more change next hkeeps hlog _ ih =>
    obtain ⟨m', s', hends, hkept, hadded⟩ := ih m s hs m (hkeeps m s hs)
    refine ⟨m', s', hends, hkept, ?_⟩
    rw [hadded, hlog m s hs, add_assoc]
  | @wait notes due pause next hpause hdue hlook _ ih =>
    obtain ⟨hseen, hlog⟩ := hlook m s hs
    by_cases hready : pause.ready m (pause.look m s) = true
    · obtain ⟨m', s', hends, hkept, hadded⟩ := ih m _ hseen hready m hseen
      refine ⟨m', s', ?_, hkept, hadded.trans (by rw [hlog])⟩
      rw [Ends, run]
      dsimp only
      rw [if_pos hready]
      exact hends
    · -- time passes until the pause is due, and then it is over
      obtain ⟨hwoken, hlog'⟩ := hlook (m.later due) _ hseen
      have hcome : Moment.hasCome pause.due (m.later due) = true := by
        rw [hdue]
        exact decide_eq_true (Moment.le_later_right m due)
      obtain ⟨m', s', hends, hkept, hadded⟩ :=
        ih (m.later due) _ hwoken (hpause _ _ hcome) (m.later due) hwoken
      refine ⟨m', s', ?_, hkept, hadded.trans (by rw [hlog', hlog])⟩
      rw [Ends, run]
      dsimp only
      rw [if_neg hready, hdue]
      exact hends

theorem bind {f : α → Job σ β} (hp : p.Sure keeps log a notes)
    (hf : (f a).Sure keeps log b notes') : (p.bind f).Sure keeps log b (notes + notes') := by
  induction hp with
  | done => rwa [zero_add]
  | act hkeeps hlog _ ih =>
    rw [add_assoc]
    exact .act hkeeps hlog ih
  | wait hpause hdue hlook _ ih => exact .wait hpause hdue hlook ih

/-- What follows adds nothing. -/
theorem map (h : p.Sure keeps log a notes) (f : α → β) :
    (p.bind fun a => .done (f a)).Sure keeps log (f a) notes := by
  have hdone := h.bind (f := fun a => .done (f a)) .done
  rwa [add_zero] at hdone

/-- A step that adds nothing to the record. -/
theorem act_silent {change : Moment → σ → σ} {next : Moment → σ → Job σ α}
    (hsilent : ∀ m s, keeps s → keeps (change m s) ∧ log (change m s) = log s)
    (h : ∀ m s, keeps s → (next m s).Sure keeps log a notes) :
    (Job.act change next).Sure keeps log a notes := by
  have hact : (Job.act change next).Sure keeps log a (0 + notes) :=
    .act (fun m s hs => (hsilent m s hs).1) (fun m s hs => by rw [(hsilent m s hs).2, add_zero]) h
  rwa [zero_add] at hact

theorem sleep (keeps : σ → Prop) (log : σ → N) (ms : Nat) : (sleep ms).Sure keeps log () 0 :=
  .act_silent (fun _ _ hs => ⟨hs, rfl⟩) fun _ _ _ =>
    .wait (isTimed_sleepUntil _).isPunctual rfl (isTimed_sleepUntil _).isSilent
      fun _ _ _ _ => .done

/-! ## Side by side -/

/-- A job on the right while the left one pauses. -/
theorem against {pause : Pause σ} {left : Moment → σ → Job σ α}
    {resume : Moment → σ → Job σ β → Job σ (α × β)} {due : Moment} (hpause : pause.IsPunctual)
    (hdue : pause.due = some due) (hlook : pause.IsSilent keeps log)
    (hleft : ∀ m s, keeps s → pause.ready m s = true → (left m s).Sure keeps log a notes)
    (hresume : ∀ m s r notes', keeps s → pause.ready m s = true → r.Sure keeps log b notes' →
      (resume m s r).Sure keeps log (a, b) (notes + notes'))
    (hq : q.Sure keeps log b notes') :
    (against pause left resume q).Sure keeps log (a, b) (notes + notes') := by
  induction hq with
  | done =>
    refine .wait hpause hdue hlook fun m s hs hready => ?_
    exact (hleft m s hs hready).bind .done
  | act hkeeps hlog _ ih =>
    rw [add_left_comm]
    exact .act hkeeps hlog ih
  | @wait notes' dueq pauseq right hpauseq hdueq hlookq hright ih =>
    refine act_silent hlookq fun m s hs => ?_
    have hseen := (hlookq m s hs).1
    dsimp only
    split
    · next hready => exact ih m _ hseen hready
    · have hfirst : (pause.or pauseq).due = some (due.earlier dueq) := by
        rw [Pause.or, hdue, hdueq, Moment.soonest]
      refine .wait (hpause.or hpauseq) hfirst (hlook.or hlookq) fun m s hs hready => ?_
      by_cases hown : pause.ready m s = true
      · rw [if_pos hown]
        exact hresume m s _ _ hs hown (.wait hpauseq hdueq hlookq hright)
      · rw [if_neg hown]
        change (pause.ready m s || pauseq.ready m s) = true at hready
        rw [Bool.or_eq_true] at hready
        exact ih m s hs (hready.resolve_left hown)

theorem both (hp : p.Sure keeps log a notes) (hq : q.Sure keeps log b notes') :
    (both p q).Sure keeps log (a, b) (notes + notes') := by
  induction hp generalizing q notes' with
  | done =>
    rw [zero_add]
    exact hq.map fun b => (a, b)
  | act hkeeps hlog _ ih =>
    rw [add_assoc]
    exact .act hkeeps hlog fun m s hs => ih m s hs hq
  | @wait notes due pause next hpause hdue hlook hnext ih =>
    refine act_silent hlook fun m s hs => ?_
    have hseen := (hlook m s hs).1
    dsimp only
    split
    · next hready => exact ih m _ hseen hready hq
    · exact against hpause hdue hlook hnext
        (fun m s r notes' hs hready hr => ih m s hs hready hr) hq

variable {keys : List κ} {call : κ → Job σ α} {result : κ → α} {added : κ → N}

theorem inTurn (h : ∀ k ∈ keys, (call k).Sure keeps log (result k) (added k)) :
    (inTurn (keys.map call)).Sure keeps log (keys.map result) (keys.map added).sum := by
  induction keys with
  | nil => exact .done
  | cons k keys ih =>
    have hrest := ih fun l hl => h l (List.mem_cons_of_mem k hl)
    rw [List.map_cons, List.map_cons, List.map_cons, List.sum_cons]
    exact (h k List.mem_cons_self).bind (hrest.map _)

theorem all (h : ∀ k ∈ keys, (call k).Sure keeps log (result k) (added k)) :
    (all (keys.map call)).Sure keeps log (keys.map result) (keys.map added).sum := by
  induction keys with
  | nil => exact .done
  | cons k keys ih =>
    have hrest := ih fun l hl => h l (List.mem_cons_of_mem k hl)
    rw [List.map_cons, List.map_cons, List.map_cons, List.sum_cons]
    exact ((h k List.mem_cons_self).both hrest).map fun both => both.1 :: both.2

end Sure

end Job

end RateHerald
