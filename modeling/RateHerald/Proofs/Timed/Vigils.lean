import RateHerald.Proofs.Timed.Ends

/-!
# Vigils

To keep vigil is to pause until something that others do to the state settles the matter, but not
beyond a deadline. Beside the one who keeps vigil somebody is at work who comes at set times, does
something, and goes again. How the two get on depends little on who of them has the first turn: what
is done in one moment is done before the vigil is looked after again, and only the moment of the
deadline itself may come before or after what is done in it.

The rules below follow the work, step by step, to the end of the vigil. What follows then is done by
the one at work alone.

## Main declarations

* `Pause.vigil` and `Job.vigil`.
* `Job.beside`: a vigil beside a job at work, either of which may have the first turn.
* `Job.Goes`: a vigil goes on beside the work, with a rule for each step of the work.
* `Job.Begins`: what is done at once before a vigil begins.
-/

namespace RateHerald

variable {σ α β : Type}

/-- Whether something that is done at a moment counts before a deadline; `first` says whether it
does in the moment of the deadline. -/
def Moment.isBefore (first : Bool) (t deadline : Moment) : Bool :=
  if first then t ≤ deadline else !decide (deadline ≤ t)

theorem Moment.le_of_isBefore {first : Bool} {t deadline : Moment}
    (h : t.isBefore first deadline = true) : t ≤ deadline := by
  cases first with
  | true => exact of_decide_eq_true h
  | false => exact (le_total t deadline).resolve_right (by simpa [isBefore] using h)

theorem Moment.le_of_not_isBefore {first : Bool} {t deadline : Moment}
    (h : t.isBefore first deadline = false) : deadline ≤ t := by
  cases first with
  | true => exact (le_total t deadline).resolve_left (of_decide_eq_false h)
  | false => simpa [isBefore] using h

/-- What comes later counts no more. -/
theorem Moment.not_isBefore_of_le {first : Bool} {t t' deadline : Moment} (hle : t ≤ t')
    (h : t.isBefore first deadline = false) : t'.isBefore first deadline = false := by
  cases first with
  | true => exact decide_eq_false fun hlate => of_decide_eq_false h (le_trans hle hlate)
  | false =>
    have hlate := le_trans (le_of_not_isBefore h) hle
    simpa [isBefore] using hlate

/-- A pause until what is seen settles the matter, or until a deadline. -/
def Pause.vigil (look : σ → σ) (settled : σ → Bool) (deadline : Moment) : Pause σ where
  look := fun _ => look
  ready m s := settled s || deadline ≤ m
  due := some deadline
  drop := id

/-- A pause until a moment. -/
def Pause.asleep (t : Moment) : Pause σ where
  look := fun _ s => s
  ready m _ := t ≤ m
  due := some t
  drop := id

/-! ## Single steps -/

namespace Job

section Steps

variable {pause pause' : Pause σ} {next left : Moment → σ → Job σ α} {right : Moment → σ → Job σ β}
  {resume : Moment → σ → Job σ β → Job σ (α × β)} {q : Job σ β} {m m' due : Moment} {s s' u v : σ}
  {a : α}

/-- A pause that is over at once. -/
theorem run_wait_of_ready (hlook : pause.look m s = u) (hready : pause.ready m u = true) :
    (Job.wait pause next).run m s = (next m u).run m u := by
  subst hlook
  rw [run]
  dsimp only
  rw [if_pos hready]

/-- A pause that lasts until it is due. -/
theorem run_wait_of_not_ready (hlook : pause.look m s = u) (hnot : pause.ready m u = false)
    (hdue : pause.due = some due) (hwoken : pause.look (m.later due) u = v) :
    (Job.wait pause next).run m s = (next (m.later due) v).run (m.later due) v := by
  subst hlook hwoken
  rw [run]
  dsimp only
  rw [if_neg (Bool.eq_false_iff.1 hnot), hdue]

/-- The left one goes on at once. -/
theorem run_both_of_ready (hlook : pause.look m s = u) (hready : pause.ready m u = true) :
    (both (.wait pause next) q).run m s = (both (next m u) q).run m u := by
  subst hlook
  rw [both, run]
  dsimp only
  rw [if_pos hready]

/-- The left one pauses, and the right one has its turn. -/
theorem run_both_of_not_ready (hlook : pause.look m s = u) (hnot : pause.ready m u = false) :
    (both (.wait pause next) q).run m s =
      (against pause next (fun m s r => both (next m s) r) q).run m u := by
  subst hlook
  rw [both, run]
  dsimp only
  rw [if_neg (Bool.eq_false_iff.1 hnot)]

/-- The right one goes on at once. -/
theorem run_against_of_ready (hlook : pause'.look m s = u) (hready : pause'.ready m u = true) :
    (against pause left resume (.wait pause' right)).run m s =
      (against pause left resume (right m u)).run m u := by
  subst hlook
  rw [against, run]
  dsimp only
  rw [if_pos hready]

/-- Both pause. -/
theorem run_against_of_not_ready (hlook : pause'.look m s = u) (hnot : pause'.ready m u = false) :
    (against pause left resume (.wait pause' right)).run m s =
      (Job.wait (pause.or pause') fun m s =>
        if pause.ready m s then resume m s (.wait pause' right)
        else against pause left resume (right m s)).run m u := by
  subst hlook
  rw [against, run]
  dsimp only
  rw [if_neg (Bool.eq_false_iff.1 hnot)]

/-- Both pause until the first of them is due. The left one is asked first whether it is over. -/
theorem run_against_until (hlook' : pause'.look m s = s') (hnot' : pause'.ready m s' = false)
    (hlook : pause.look m s' = u) (hnot : pause.ready m u = false) (hagain : pause'.look m u = u)
    (hstill : pause'.ready m u = false) (hdue : (pause.or pause').due = some due)
    (hwoken : (pause.or pause').look (m.later due) u = v) :
    (against pause left resume (.wait pause' right)).run m s =
      (if pause.ready (m.later due) v then resume (m.later due) v (.wait pause' right)
        else against pause left resume (right (m.later due) v)).run (m.later due) v := by
  have hseen : (pause.or pause').look m s' = u := by
    rw [Pause.or]
    dsimp only
    rw [hlook, if_neg (Bool.eq_false_iff.1 hnot), hagain]
  have hneither : (pause.or pause').ready m u = false := by
    rw [Pause.or]
    dsimp only
    rw [hnot, hstill, Bool.false_or]
  exact (run_against_of_not_ready hlook' hnot').trans
    (run_wait_of_not_ready hseen hneither hdue hwoken)

end Steps

/-! ## Vigils -/

variable {look : σ → σ} {settled : σ → Bool} {deadline : Moment} {read : σ → β} {first : Bool}
  {m m' t : Moment} {s s' : σ} {a : α} {b : β × Moment}

/-- A job that tells when it was done. -/
def timed (p : Job σ α) : Job σ (α × Moment) := do
  let a ← p
  return (a, ← now)

/-- Reads something off the state and tells when. -/
def stamped (read : σ → β) (s : σ) : Job σ (β × Moment) :=
  now.bind fun m => .done (read s, m)

/-- Keeps vigil, reads off the state what came of it, and tells when it was over. -/
def vigil (look : σ → σ) (settled : σ → Bool) (deadline : Moment) (read : σ → β) :
    Job σ (β × Moment) :=
  .wait (.vigil look settled deadline) fun _ s => stamped read s

/-- A vigil beside a job at work; `first` says whether the work has the first turn. -/
def beside (first : Bool) (keeps : Job σ β) (work : Job σ α) : Job σ (β × α) :=
  if first then (both work keeps).bind fun (a, b) => .done (b, a) else both keeps work

/-- A vigil that has been looked after at least once goes on beside a job at work, until both are
over. -/
def Goes (look : σ → σ) (settled : σ → Bool) (deadline : Moment) (read : σ → β) (first : Bool)
    (work : Job σ α) (m : Moment) (s : σ) (b : β × Moment) (a : α) (m' : Moment) (s' : σ) : Prop :=
  match first with
  | true => (both work (vigil look settled deadline read)).Ends m s (a, b) m' s'
  | false =>
    (against (.vigil look settled deadline) (fun _ s => stamped read s)
      (fun _ s work => both (stamped read s) work) work).Ends m s (b, a) m' s'

namespace Goes

/-- A step of the work. -/
theorem act {change : Moment → σ → σ} {next : Moment → σ → Job σ α}
    (h : Goes look settled deadline read first (next m s) m (change m s) b a m' s') :
    Goes look settled deadline read first (.act change next) m s b a m' s' := by
  cases first <;> exact h

/-- The work is done, and the vigil goes on alone. -/
theorem done (h : (vigil look settled deadline read).Ends m s b m' s') :
    Goes look settled deadline read first (.done a) m s b a m' s' := by
  cases first with
  | true => exact Ends.bind h (ends_done _ _ _)
  | false => exact Ends.bind h (ends_done _ _ _)

variable {work : Job σ α}

/-- Whoever is at work goes on at once if it is time. -/
theorem soon (ht : t ≤ m) (h : Goes look settled deadline read first work m s b a m' s') :
    Goes look settled deadline read first (.wait (.asleep t) fun _ _ => work) m s b a m' s' := by
  have hcome : (Pause.asleep t).ready m s = true := decide_eq_true ht
  cases first with
  | true => exact (run_both_of_ready rfl hcome).trans h
  | false => exact (run_against_of_ready rfl hcome).trans h

variable (ht : ¬t ≤ m)

include ht

/-- If it is not time yet the vigil is looked after, and may be over. -/
theorem ready (hready : (settled (look s) || decide (deadline ≤ m)) = true)
    (h : (Job.wait (.asleep t) fun _ _ => work).Ends m (look s) a m' s') :
    Goes look settled deadline read first (.wait (.asleep t) fun _ _ => work) m s
      (read (look s), m) a m' s' := by
  have hsleeps : ∀ s : σ, (Pause.asleep t).ready m s = false := fun _ => decide_eq_false ht
  have hover : (Pause.vigil look settled deadline).ready m (look s) = true := hready
  cases first with
  | true =>
    refine (run_both_of_not_ready rfl (hsleeps s)).trans ((run_against_of_ready rfl hover).trans ?_)
    exact Ends.bind h (ends_done _ _ _)
  | false =>
    refine (run_against_of_not_ready rfl (hsleeps s)).trans
      ((run_wait_of_ready (u := look s) (if_pos hover) ?_).trans ?_)
    · change (_ || _) = true
      rw [hover, Bool.true_or]
    · rw [if_pos hover]
      exact Ends.bind h (ends_done _ _ _)

variable (hm : ¬deadline ≤ m) (hnot : settled (look s) = false) (hlook : look (look s) = look s)

include hm hnot hlook

/-- If it is not over, somebody may come before the deadline. -/
theorem later (hbefore : t.isBefore first deadline = true)
    (h : Goes look settled deadline read first work t (look s) b a m' s') :
    Goes look settled deadline read first (.wait (.asleep t) fun _ _ => work) m s b a m' s' := by
  have hsleeps : ∀ s : σ, (Pause.asleep t).ready m s = false := fun _ => decide_eq_false ht
  have hlasts : (Pause.vigil look settled deadline).ready m (look s) = false := by
    simp [Pause.vigil, hnot, hm]
  have hcome : ∀ s : σ, (Pause.asleep t).ready t s = true := fun _ =>
    decide_eq_true (Moment.le_refl t)
  have hwoken : m.later t = t := Moment.later_of_not_le ht
  cases first with
  | true =>
    have hdue : ((Pause.asleep t).or (.vigil look settled deadline)).due = some t :=
      congrArg some (Moment.earlier_of_le (Moment.le_of_isBefore hbefore))
    refine (run_both_of_not_ready rfl (hsleeps s)).trans ((run_against_until (v := look s) rfl
      hlasts rfl (hsleeps _) hlook hlasts hdue ?_).trans ?_)
    · rw [hwoken]
      exact if_pos (hcome _)
    · rw [hwoken, if_pos (hcome _)]
      exact h
  | false =>
    have hnotyet : ¬deadline ≤ t := by simpa [Moment.isBefore] using hbefore
    have hlasts' : (Pause.vigil look settled deadline).ready t (look s) = false := by
      simp [Pause.vigil, hnot, hnotyet]
    have hdue : ((Pause.vigil look settled deadline).or (.asleep t)).due = some t :=
      congrArg some (if_neg hnotyet)
    refine (run_against_until (v := look s) rfl (hsleeps s) rfl hlasts rfl (hsleeps _) hdue
      ((ite_self _).trans hlook)).trans ?_
    rw [hwoken, if_neg (Bool.eq_false_iff.1 hlasts')]
    exact h

/-- If it is not over and nobody comes before the deadline, it is over then. -/
theorem late (hbefore : t.isBefore first deadline = false)
    (h : (Job.wait (.asleep t) fun _ _ => work).Ends deadline (look s) a m' s') :
    Goes look settled deadline read first (.wait (.asleep t) fun _ _ => work) m s
      (read (look s), deadline) a m' s' := by
  have hsleeps : ∀ s : σ, (Pause.asleep t).ready m s = false := fun _ => decide_eq_false ht
  have hlasts : (Pause.vigil look settled deadline).ready m (look s) = false := by
    simp [Pause.vigil, hnot, hm]
  have hwoken : m.later deadline = deadline :=
    Moment.later_of_not_le hm
  cases first with
  | true =>
    have hnotyet : ¬t ≤ deadline := of_decide_eq_false hbefore
    have hsleeps' : (Pause.asleep t).ready deadline (look s) = false := decide_eq_false hnotyet
    have hdue : ((Pause.asleep t).or (.vigil look settled deadline)).due = some deadline :=
      congrArg some (if_neg hnotyet)
    refine (run_both_of_not_ready rfl (hsleeps s)).trans ((run_against_until (v := look s) rfl
      hlasts rfl (hsleeps _) hlook hlasts hdue ?_).trans ?_)
    · rw [hwoken]
      exact (if_neg (Bool.eq_false_iff.1 hsleeps')).trans hlook
    · rw [hwoken, if_neg (Bool.eq_false_iff.1 hsleeps')]
      exact Ends.bind h (ends_done _ _ _)
  | false =>
    have hover : (Pause.vigil look settled deadline).ready deadline (look s) = true := by
      simp [Pause.vigil, Moment.le_refl]
    have hdue : ((Pause.vigil look settled deadline).or (.asleep t)).due = some deadline :=
      congrArg some (Moment.earlier_of_le (Moment.le_of_not_isBefore hbefore))
    refine (run_against_until (v := look s) rfl (hsleeps s) rfl hlasts rfl (hsleeps _) hdue
      ((ite_self _).trans hlook)).trans ?_
    rw [hwoken, if_pos hover]
    exact Ends.bind h (ends_done _ _ _)

end Goes

/-- The vigil ends alone: at once, or when its deadline comes. -/
theorem ends_vigil_of_ready (hready : (settled (look s) || decide (deadline ≤ m)) = true) :
    (vigil look settled deadline read).Ends m s (read (look s), m) m (look s) :=
  (run_wait_of_ready (u := look s) rfl hready).trans rfl

theorem ends_vigil_of_not_ready (hm : ¬deadline ≤ m) (hnot : settled (look s) = false)
    (hlook : look (look s) = look s) :
    (vigil look settled deadline read).Ends m s (read (look s), deadline) deadline (look s) := by
  have hlasts : (Pause.vigil look settled deadline).ready m (look s) = false := by
    simp [Pause.vigil, hnot, hm]
  have hwoken : m.later deadline = deadline :=
    Moment.later_of_not_le hm
  refine (run_wait_of_not_ready (u := look s) (v := look s) rfl hlasts rfl hlook).trans ?_
  rw [hwoken]
  rfl

/-! ## How a vigil begins -/

section Beginning

variable {start : σ → σ} {work : Job σ α}

/-- Before it begins the one who keeps it does something. If the work has the first turn, what is to
be done at once is done before that. -/
def Begins (start look : σ → σ) (settled : σ → Bool) (deadline : Moment) (read : σ → β)
    (work : Job σ α) (m : Moment) (s : σ) (b : β × Moment) (a : α) (m' : Moment) (s' : σ) : Prop :=
  (both work (.act (fun _ s => start s) fun _ _ => vigil look settled deadline read)).Ends m s
    (a, b) m' s'

theorem Begins.act {change : Moment → σ → σ} {next : Moment → σ → Job σ α}
    (h : Begins start look settled deadline read (next m s) m (change m s) b a m' s') :
    Begins start look settled deadline read (.act change next) m s b a m' s' :=
  h

theorem Begins.soon (ht : t ≤ m) (h : Begins start look settled deadline read work m s b a m' s') :
    Begins start look settled deadline read (.wait (.asleep t) fun _ _ => work) m s b a m' s' :=
  (run_both_of_ready rfl (decide_eq_true ht)).trans h

/-- The vigil begins when whoever is at work is done. -/
theorem Begins.of_done {c : α}
    (h : Goes look settled deadline read true (.done c) m (start s) b a m' s') :
    Begins start look settled deadline read (.done c) m s b a m' s' :=
  h

/-- The vigil begins when whoever is at work pauses. -/
theorem Begins.of_asleep (ht : ¬t ≤ m)
    (h : Goes look settled deadline read true (.wait (.asleep t) fun _ _ => work) m (start s) b a m'
      s') :
    Begins start look settled deadline read (.wait (.asleep t) fun _ _ => work) m s b a m' s' := by
  have hsleeps : ∀ s : σ, (Pause.asleep t).ready m s = false := fun _ => decide_eq_false ht
  refine (run_both_of_not_ready rfl (hsleeps s)).trans ?_
  exact (run_both_of_not_ready rfl (hsleeps (start s))).symm.trans h

/-- A vigil that has the first turn may be over before anything is done. -/
theorem ends_both_vigil_of_ready (hready : (settled (look s) || decide (deadline ≤ m)) = true)
    (h : work.Ends m (look s) a m' s') :
    (both (vigil look settled deadline read) work).Ends m s ((read (look s), m), a) m' s' :=
  (run_both_of_ready (u := look s) rfl hready).trans (Ends.bind h (ends_done _ _ _))

theorem Goes.ends_both_vigil (hm : ¬deadline ≤ m) (hnot : settled (look s) = false)
    (h : Goes look settled deadline read false work m (look s) b a m' s') :
    (both (vigil look settled deadline read) work).Ends m s (b, a) m' s' := by
  have hlasts : (Pause.vigil look settled deadline).ready m (look s) = false := by
    simp [Pause.vigil, hnot, hm]
  exact (run_both_of_not_ready rfl hlasts).trans h

end Beginning

end Job

end RateHerald
