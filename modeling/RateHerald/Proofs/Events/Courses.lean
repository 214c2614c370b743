import Mathlib.Order.Bounds.Basic
import RateHerald.Proofs.Events.Timeouts

/-!
# The course of a wait

What a wait comes to depends on which events arrive in the channel, in which order, and which of
them arrive in time. It goes through the arrivals one by one until those that it has taken settle
it, as if each of them were looked at as soon as it arrives.

It should come to responses if the first arrivals, up to some, tell all that is expected and nothing
else; to a failure if before that something arrives that was not asked for; and otherwise it should
last until it is too late. Each of the three is told here without going through the arrivals, and
the course comes to just that.

## Main declarations

* `Wait.course`, and `Wait.course_eq`: it ends with the first arrivals that settle the wait.
* `Wait.Covers` and `Wait.IsStray`: arrivals that settle a wait, for better or for worse.
* `Wait.IsOutcome`: what a wait should come to, and when, and what is left in the channel.
* `Wait.isOutcome_of_course`: what the course comes to is that.
-/

namespace RateHerald

namespace Wait

variable {expected : List Kind} {late m : Moment} {taken queue : List Event}
  {inTime : List (Moment × Event)}

/-! ## The course of a wait -/

/-- How a wait goes that has taken some events out of the channel and looks at each arrival in turn:
what it comes to, when, and which arrivals are left. If they do not settle it, it lasts until it is
too `late`. -/
def course (expected : List Kind) (late : Moment) : Moment → List Event → List (Moment × Event) →
    Except BusError Responses × Moment × List (Moment × Event)
  | now, taken, [] => (outcome expected taken, if isSettled expected taken then now else late, [])
  | now, taken, a :: rest =>
    if isSettled expected taken then (outcome expected taken, now, a :: rest)
    else course expected late a.1 (taken ++ [a.2]) rest

theorem course_of_isSettled (h : isSettled expected taken = true) (m : Moment)
    (inTime : List (Moment × Event)) :
    course expected late m taken inTime = (outcome expected taken, m, inTime) := by
  cases inTime with
  | nil => rw [course, if_pos h]
  | cons a rest => rw [course, if_pos h]

/-- As long as a wait is not settled it does not matter how late it is. -/
theorem course_of_not_isSettled (h : isSettled expected taken = false) (m m' : Moment)
    (inTime : List (Moment × Event)) :
    course expected late m taken inTime = course expected late m' taken inTime := by
  cases inTime with
  | nil => rw [course, course, h]; rfl
  | cons a rest => rw [course, course, h]; rfl

/-- What is in the channel already is looked at first. -/
theorem course_append (expected : List Kind) (late m : Moment) (taken queue : List Event)
    (inTime : List (Moment × Event)) :
    course expected late m taken (queue.map (m, ·) ++ inTime) =
      course expected late m (Channel.moveUntil (isSettled expected) taken queue).1
        ((Channel.moveUntil (isSettled expected) taken queue).2.map (m, ·) ++ inTime) := by
  induction queue generalizing taken with
  | nil => rfl
  | cons e queue ih =>
    rw [Channel.moveUntil]
    by_cases hsettled : isSettled expected taken = true
    · rw [if_pos hsettled]
    · rw [if_neg hsettled, List.map_cons, List.cons_append, course, if_neg hsettled]
      exact ih _

/-- The events that arrive. -/
def events (arrivals : List (Moment × Event)) : List Event :=
  arrivals.map Prod.snd

/-- When the last of the arrivals arrives, or the wait starts if there is none. -/
def lastMoment (start : Moment) (arrivals : List (Moment × Event)) : Moment :=
  (arrivals.getLast?.map Prod.fst).getD start

theorem lastMoment_cons (start : Moment) (a : Moment × Event) (arrivals : List (Moment × Event)) :
    lastMoment start (a :: arrivals) = lastMoment a.1 arrivals := by
  rw [lastMoment, lastMoment, List.getLast?_cons]
  cases arrivals.getLast? <;> rfl

/-- A wait ends with the first arrivals that settle it, or with all of them. -/
theorem course_eq (expected : List Kind) (late m : Moment) (taken : List Event)
    (inTime : List (Moment × Event)) :
    ∃ n ≤ inTime.length,
      course expected late m taken inTime =
        (outcome expected (taken ++ (events inTime).take n),
          if isSettled expected (taken ++ (events inTime).take n) then lastMoment m (inTime.take n)
          else late,
          inTime.drop n) ∧
      (∀ j < n, isSettled expected (taken ++ (events inTime).take j) = false) ∧
      (isSettled expected (taken ++ (events inTime).take n) = false → n = inTime.length) := by
  induction inTime generalizing m taken with
  | nil =>
    refine ⟨0, Nat.le_refl 0, ?_, nofun, fun _ => rfl⟩
    rw [List.take_zero, List.append_nil]
    rfl
  | cons a rest ih =>
    by_cases hsettled : isSettled expected taken = true
    · refine ⟨0, Nat.zero_le _, ?_, nofun, fun hnot => ?_⟩
      · rw [course_of_isSettled hsettled, List.take_zero, List.append_nil, if_pos hsettled]
        rfl
      · rw [List.take_zero, List.append_nil, hsettled] at hnot
        nomatch hnot
    · obtain ⟨n, hn, hcourse, hbefore, hall⟩ := ih a.1 (taken ++ [a.2])
      have hsplit : ∀ j, taken ++ (events (a :: rest)).take (j + 1) =
          taken ++ [a.2] ++ (events rest).take j := by
        intro j
        rw [List.append_assoc]
        rfl
      refine ⟨n + 1, Nat.succ_le_succ hn, ?_, fun j hj => ?_, fun hnot => ?_⟩
      · rw [course, if_neg hsettled, hcourse, hsplit, List.take_succ_cons, lastMoment_cons]
        rfl
      · rcases j with _ | j
        · rw [List.take_zero, List.append_nil]
          exact Bool.eq_false_iff.2 hsettled
        · rw [hsplit]
          exact hbefore j (Nat.lt_of_succ_lt_succ hj)
      · rw [hsplit] at hnot
        rw [hall hnot]
        rfl

/-! ## What settles a wait -/

/-- The events tell all that is expected, and nothing else. -/
def Covers (expected : List Kind) (taken : List Event) : Prop :=
  (∀ e ∈ taken, e.kind ∈ expected) ∧ ∀ kind ∈ expected, ∃ e ∈ taken, e.kind = kind

theorem missing_eq_nil_iff {expected : List Kind} {taken : List Event} :
    missing expected taken = [] ↔ ∀ kind ∈ expected, ∃ e ∈ taken, e.kind = kind := by
  rw [missing, List.filter_eq_nil_iff]
  refine forall₂_congr fun kind _ => ?_
  simp

theorem verdict?_of_covers {expected : List Kind} {taken : List Event} (h : Covers expected taken) :
    verdict? expected taken = some (.ok ⟨firsts taken⟩) := by
  rw [verdict?, find?_unexpected h.1, missing_eq_nil_iff.2 h.2]
  rfl

/-- A wait is settled by what covers it, and by anything that is not expected. -/
theorem isSettled_iff {expected : List Kind} {taken : List Event} :
    isSettled expected taken = true ↔
      Covers expected taken ∨ ∃ e ∈ taken, e.kind ∉ expected := by
  by_cases hmem : ∀ e ∈ taken, e.kind ∈ expected
  · have hnone : ¬∃ e ∈ taken, e.kind ∉ expected := fun ⟨e, he, hnot⟩ => hnot (hmem e he)
    rw [or_iff_left hnone, Covers, and_iff_right hmem, ← missing_eq_nil_iff, isSettled, verdict?,
      find?_unexpected hmem]
    cases missing expected taken <;> simp
  · obtain ⟨e, he, hstray⟩ : ∃ e ∈ taken, e.kind ∉ expected := by simpa using hmem
    obtain ⟨first, hfirst⟩ := Option.isSome_iff_exists.1
      (List.find?_isSome.2 ⟨e, he, by simpa using hstray⟩ :
        (taken.find? fun e => !expected.contains e.kind).isSome = true)
    refine iff_of_true ?_ (.inr ⟨e, he, hstray⟩)
    rw [isSettled, verdict?, hfirst]
    rfl

theorem verdict?_of_stray {expected : List Kind} {taken : List Event} {e : Event}
    (h : ∀ e ∈ taken, e.kind ∈ expected) (hstray : e.kind ∉ expected) :
    verdict? expected (taken ++ [e]) =
      some (.error (.invalidEvent "a requested response" e.kind)) := by
  have hfind : (taken ++ [e]).find? (fun e => !expected.contains e.kind) = some e := by
    rw [List.find?_append, find?_unexpected h, Option.none_or]
    exact List.find?_cons_of_pos (by simpa using hstray)
  rw [verdict?, hfind]

/-! ## The first events of their kinds -/

theorem nodup_firsts (taken : List Event) : ((firsts taken).map Event.kind).Nodup := by
  induction taken with
  | nil => exact List.nodup_nil
  | cons e rest ih =>
    rw [firsts, List.map_cons, List.nodup_cons]
    refine ⟨?_, ih.sublist (List.filter_sublist.map _)⟩
    intro hmem
    obtain ⟨later, hlater, hkind⟩ := List.mem_map.1 hmem
    exact bne_iff_ne.1 (List.mem_filter.1 hlater).2 hkind

/-- Among the first events of their kinds is the first one of each kind. -/
theorem find?_firsts (taken : List Event) (kind : Kind) :
    ((firsts taken).find? fun e => e.kind == kind) = taken.find? fun e => e.kind == kind := by
  induction taken with
  | nil => rfl
  | cons e rest ih =>
    rw [firsts]
    by_cases hkind : e.kind = kind
    · simp [hkind]
    · rw [List.find?_cons_of_neg (by simpa using hkind),
        List.find?_cons_of_neg (by simpa using hkind), List.find?_filter, ← ih]
      refine congrArg (fun p => (firsts rest).find? p) (funext fun later => ?_)
      by_cases hlater : later.kind = kind
      · simp [hlater, Ne.symm hkind]
      · simp [hlater]

/-! ## What a wait should come to -/

/-- Something arrives that was not expected, after events that were but did not cover what is
expected. -/
def IsStray (expected : List Kind) (arrived : List Event) (n : Nat) : Prop :=
  (∃ e, arrived[n]? = some e ∧ e.kind ∉ expected) ∧ (∀ e ∈ arrived.take n, e.kind ∈ expected) ∧
    ∀ j ≤ n, ¬Covers expected (arrived.take j)

/-- A wait that starts at one moment and should last until it is too `late` comes to the right
result at the right moment, and the right events are left in the channel; `arrivals` are those that
arrive ever, and `inTime` the first of them, which arrive in time. -/
structure IsOutcome (expected : List Kind) (start late : Moment)
    (arrivals inTime : List (Moment × Event)) (result : Except BusError Responses) (ended : Moment)
    (left : List Event) : Prop where
  /-- There are responses if and only if the first arrivals, up to some, cover what is expected. -/
  ok_iff : (∃ r, result = .ok r) ↔ ∃ n, Covers expected ((events inTime).take n)
  /-- The wait ends as soon as they do. The responses are the first arrivals of their kinds, and
  whatever arrives later is left in the channel. -/
  ok : ∀ r, result = .ok r → ∃ n, IsLeast {n | Covers expected ((events inTime).take n)} n ∧
    ended = lastMoment start (inTime.take n) ∧ (r.events.map Event.kind).Nodup ∧
    (∀ kind, r.ofKind? kind = ((events inTime).take n).find? fun e => e.kind == kind) ∧
    left = events (arrivals.drop n)
  /-- The wait fails if and only if something arrives that was not expected, before that. -/
  stray_iff : (∃ what kind, result = .error (.invalidEvent what kind)) ↔
    ∃ n, IsStray expected (events inTime) n
  /-- It fails as soon as this arrives, which is told, and whatever arrives later is left. -/
  stray : ∀ what kind, result = .error (.invalidEvent what kind) →
    what = "a requested response" ∧ ∃ n e, IsStray expected (events inTime) n ∧
      inTime[n]? = some (ended, e) ∧ e.kind = kind ∧ left = events (arrivals.drop (n + 1))
  /-- Otherwise it lasts until it is too late, and the expected kinds of which nothing arrived in
  time are told. -/
  timeout : (¬∃ n, Covers expected ((events inTime).take n)) →
    (¬∃ n, IsStray expected (events inTime) n) →
    result = .error (.timeout (expected.filter fun kind => ∀ e ∈ events inTime, e.kind ≠ kind)) ∧
      ended = late ∧ left = events (arrivals.drop inTime.length)

section Outcomes

variable {expected : List Kind} {start late ended : Moment}
  {arrivals inTime : List (Moment × Event)} {left : List Event} {n j : Nat}

/-- What is not settled covers nothing, and there is nothing in it that was not expected. -/
theorem of_not_isSettled {taken : List Event} (h : isSettled expected taken = false) :
    ¬Covers expected taken ∧ ∀ e ∈ taken, e.kind ∈ expected := by
  have hnot := mt isSettled_iff.2 (Bool.eq_false_iff.1 h)
  rw [not_or] at hnot
  exact ⟨hnot.1, fun e he => by_contra fun hstray => hnot.2 ⟨e, he, hstray⟩⟩

/-- Where something stray has arrived nothing covers what is expected any more. -/
theorem IsStray.not_covers {arrived : List Event} (h : IsStray expected arrived n) (j : Nat) :
    ¬Covers expected (arrived.take j) := by
  obtain ⟨⟨e, he, hstray⟩, -, hnot⟩ := h
  by_cases hj : j ≤ n
  · exact hnot j hj
  · intro hcovers
    exact hstray (hcovers.1 e (List.mem_of_getElem? ((List.getElem?_take_of_lt
      (Nat.lt_of_not_le hj)).trans he)))

/-- The wait ends with arrivals that cover what is expected. -/
theorem isOutcome_of_covers
    (hcovers : Covers expected ((events inTime).take n))
    (hbefore : ∀ j < n, isSettled expected ((events inTime).take j) = false) :
    IsOutcome expected start late arrivals inTime (.ok ⟨firsts ((events inTime).take n)⟩)
      (lastMoment start (inTime.take n)) (events (arrivals.drop n)) where
  ok_iff := iff_of_true ⟨_, rfl⟩ ⟨n, hcovers⟩
  ok := by
    rintro r ⟨⟩
    refine ⟨n, ⟨hcovers, fun j hj => Nat.le_of_not_lt fun hlt => ?_⟩, rfl, nodup_firsts _,
      find?_firsts _, rfl⟩
    exact (of_not_isSettled (hbefore j hlt)).1 hj
  stray_iff := iff_of_false nofun fun ⟨_, hstray⟩ => hstray.not_covers n hcovers
  stray := nofun
  timeout hnone := absurd ⟨n, hcovers⟩ hnone

/-- The wait ends with an arrival that was not expected. -/
theorem isOutcome_of_stray {a : Moment × Event} (ha : inTime[n]? = some a)
    (hstray : a.2.kind ∉ expected)
    (hbefore : ∀ j ≤ n, isSettled expected ((events inTime).take j) = false) :
    IsOutcome expected start late arrivals inTime
      (.error (.invalidEvent "a requested response" a.2.kind)) a.1
      (events (arrivals.drop (n + 1))) := by
  have hevent : (events inTime)[n]? = some a.2 := by rw [events, List.getElem?_map, ha]; rfl
  have hisStray : IsStray expected (events inTime) n :=
    ⟨⟨a.2, hevent, hstray⟩, (of_not_isSettled (hbefore n (Nat.le_refl n))).2,
      fun j hj => (of_not_isSettled (hbefore j hj)).1⟩
  constructor
  case ok_iff => exact iff_of_false nofun fun ⟨j, hcovers⟩ => hisStray.not_covers j hcovers
  case ok => exact nofun
  case stray_iff => exact iff_of_true ⟨_, _, rfl⟩ ⟨n, hisStray⟩
  case stray =>
    rintro what kind ⟨⟩
    exact ⟨rfl, n, a.2, hisStray, ha, rfl, rfl⟩
  case timeout => exact fun _ hnone => absurd ⟨n, hisStray⟩ hnone

/-- The wait lasts until it is too late. -/
theorem isOutcome_of_late
    (hnot : ∀ j ≤ inTime.length, isSettled expected ((events inTime).take j) = false) :
    IsOutcome expected start late arrivals inTime
      (.error (.timeout (missing expected (events inTime)))) late
      (events (arrivals.drop inTime.length)) := by
  have hall : ∀ j, ∃ j' ≤ inTime.length, (events inTime).take j = (events inTime).take j' := by
    intro j
    refine ⟨min j inTime.length, Nat.min_le_right _ _, ?_⟩
    rw [List.take_eq_take_iff, events, List.length_map, Nat.min_assoc, Nat.min_self]
  have hnotCovers : ¬∃ n, Covers expected ((events inTime).take n) := by
    rintro ⟨j, hcovers⟩
    obtain ⟨j', hj', heq⟩ := hall j
    exact (of_not_isSettled (hnot j' hj')).1 (heq ▸ hcovers)
  have hnotStray : ¬∃ n, IsStray expected (events inTime) n := by
    rintro ⟨j, ⟨e, he, hstray⟩, -⟩
    have hmem := List.mem_of_getElem? he
    have hwhole : (events inTime).take inTime.length = events inTime :=
      List.take_of_length_le (Nat.le_of_eq (List.length_map _))
    have hexpected := (of_not_isSettled (hnot inTime.length (Nat.le_refl _))).2
    rw [hwhole] at hexpected
    exact hstray (hexpected e hmem)
  constructor
  case ok_iff => exact iff_of_false nofun hnotCovers
  case ok => exact nofun
  case stray_iff => exact iff_of_false nofun hnotStray
  case stray => exact nofun
  case timeout =>
    intro _ _
    refine ⟨congrArg (fun kinds => Except.error (BusError.timeout kinds)) ?_, rfl, rfl⟩
    refine List.filter_congr fun kind _ => ?_
    rw [Bool.eq_iff_iff]
    simp

/-- What the course of a wait comes to is what the wait should come to. -/
theorem isOutcome_of_course {result : Except BusError Responses} {rest : List (Moment × Event)}
    (h : course expected late start [] inTime = (result, ended, rest))
    (afterwards : List (Moment × Event)) :
    IsOutcome expected start late (inTime ++ afterwards) inTime result ended
      (events (rest ++ afterwards)) := by
  obtain ⟨n, hn, hcourse, hbefore, hall⟩ := course_eq expected late start [] inTime
  simp only [List.nil_append] at hcourse hbefore hall
  rw [h] at hcourse
  obtain ⟨rfl, rfl, rfl⟩ : result = _ ∧ ended = _ ∧ rest = _ := by simpa using hcourse
  rw [← List.drop_append_of_le_length hn]
  by_cases hsettled : isSettled expected ((events inTime).take n) = true
  · rw [if_pos hsettled]
    rcases isSettled_iff.1 hsettled with hcovers | ⟨e, he, hstray⟩
    · rw [outcome, verdict?_of_covers hcovers]
      exact isOutcome_of_covers hcovers hbefore
    · -- the last one that was taken is the one that was not expected
      rcases n with _ | n
      · exact absurd he List.not_mem_nil
      have ha : inTime[n]? = some (inTime[n]) := List.getElem?_eq_getElem hn
      have htaken : (events inTime).take (n + 1) = (events inTime).take n ++ [inTime[n].2] := by
        rw [List.take_add_one, events, List.getElem?_map, ha]
        rfl
      have hexpected := (of_not_isSettled (hbefore n (Nat.lt_succ_self n))).2
      rw [htaken] at he ⊢
      obtain rfl : e = inTime[n].2 := by
        rcases List.mem_append.1 he with hearlier | hlast
        · exact absurd (hexpected e hearlier) hstray
        · exact List.mem_singleton.1 hlast
      have hmoment : lastMoment start (inTime.take (n + 1)) = inTime[n].1 := by
        rw [lastMoment, List.take_add_one, ha, Option.toList_some, List.getLast?_concat]
        rfl
      rw [outcome, verdict?_of_stray hexpected hstray, hmoment]
      exact isOutcome_of_stray ha hstray fun j hj => hbefore j (Nat.lt_succ_of_le hj)
  · have hnot := Bool.eq_false_iff.2 hsettled
    have hnone : verdict? expected ((events inTime).take n) = none := by
      rwa [isSettled, Option.isSome_eq_false_iff, Option.isNone_iff_eq_none] at hnot
    have hlength := hall hnot
    have hwhole : (events inTime).take inTime.length = events inTime :=
      List.take_of_length_le (Nat.le_of_eq (List.length_map _))
    rw [if_neg hsettled, outcome, hnone, hlength, hwhole]
    refine isOutcome_of_late fun j hj => ?_
    rcases Nat.lt_or_eq_of_le hj with hlt | rfl
    · exact hbefore j (hlength ▸ hlt)
    · rwa [hlength] at hnot

end Outcomes

end Wait

end RateHerald
