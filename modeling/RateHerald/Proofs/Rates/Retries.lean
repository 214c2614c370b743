import Mathlib.Data.Nat.Find
import Mathlib.Order.Bounds.Basic
import RateHerald.Proofs.Rates.Delays
import RateHerald.Proofs.Rates.NestedChains

/-!
# How often a provider is asked

A provider that is asked again is asked until it gives a rate, or fails for a reason that does not
pass, or has been asked as often as it may be. Between two calls there is one wait, which takes as
long as the delay says, and after the last call there is none.

What the provider answers to each of its calls, and which random factors are drawn between them, is
given beforehand as two sequences. How the calls go is then told by a third sequence, that of the
rounds: when each call begins and ends, and in which states. To ask again is to go through the
rounds, one step of `Provider.askAgain` for each, up to the first answer that is final.

A delay that does not exist stops everything, since nobody can say how long to wait. That is the
only way in which asking again may fail to come to the final answer.

## Main declarations

* `Provider.Plays`: the answers and the random factors are given beforehand.
* `Provider.IsFinal`: nobody is asked again after such an answer.
* `Provider.Rounds` and `Provider.run_askAgain`: asking again goes through the rounds.
* `Provider.Call` and `Provider.noted`: calls that are written down.
* `Provider.asks_until_final`: which answer it comes to, and what is written down.
* `Provider.stops_without_delay`: asking again that does not come to the final answer.
-/

namespace RateHerald

variable {σ ν : Type}

/-- A state beside which something else is kept. -/
def Part.first : Part (σ × ν) σ where
  get := Prod.fst
  set s w := (s, w.2)

theorem Part.first_lawful : (Part.first : Part (σ × ν) σ).Lawful :=
  ⟨fun _ _ => rfl, fun _ => rfl, fun _ _ _ => rfl⟩

namespace Provider

variable {p : Provider σ} {ask : Job σ (Except RateError Rate)} {draw : Job σ Float}
  {backoff : Backoff} {pair : Pair} {count : σ → Nat} {script : Nat → Except RateError Rate}
  {factor : Nat → Float} {nanos : Nat → Nat} {maxRetries k : Nat} {m m' : Moment} {s s' : σ}

/-! ## One step -/

/-- After a failure that may pass there is a wait, and then the provider is asked again. -/
theorem run_askAgain_succ {e : RateError} (hask : ask.Ends m s (.error e) m' s')
    (hagain : e.isRetryable = true) (retries attempt : Nat) :
    (askAgain ask backoff draw (retries + 1) attempt).run m s =
      ((waitBefore backoff draw attempt).bind fun _ =>
        askAgain ask backoff draw retries (attempt + 1)).run m' s' := by
  rw [askAgain]
  refine (Job.run_bind _ _ _ _).trans ?_
  rw [hask]
  dsimp only
  rw [if_pos hagain]
  rfl

/-- An answer after which nobody is asked again; `i` calls went before it. -/
def IsFinal (maxRetries i : Nat) (answer : Except RateError Rate) : Prop :=
  (∃ rate, answer = .ok rate) ∨ (∃ e, answer = .error e ∧ e.isRetryable = false) ∨ i = maxRetries

theorem exists_error_of_not_isFinal {i : Nat} {answer : Except RateError Rate}
    (h : ¬IsFinal maxRetries i answer) : ∃ e, answer = .error e ∧ e.isRetryable = true := by
  rcases answer with e | rate
  · refine ⟨e, rfl, ?_⟩
    by_contra hpasses
    exact h (.inr (.inl ⟨e, rfl, Bool.eq_false_iff.2 hpasses⟩))
  · exact (h (.inl ⟨rate, rfl⟩)).elim

/-- After an answer that is final nothing else is done. -/
theorem ends_askAgain_of_isFinal {answer : Except RateError Rate} {retries attempt : Nat}
    (hask : ask.Ends m s answer m' s') (hfinal : IsFinal (retries + attempt) attempt answer) :
    (askAgain ask backoff draw retries attempt).Ends m s answer m' s' := by
  rcases retries with _ | retries
  · exact hask
  · rcases answer with e | rate
    · have hpasses : e.isRetryable = false := by
        rcases hfinal with ⟨rate, hok⟩ | ⟨e', herror, hpasses⟩ | hlast
        · nomatch hok
        · exact Except.error.inj herror ▸ hpasses
        · omega
      refine Job.Ends.bind hask ?_
      dsimp only
      rw [if_neg (Bool.eq_false_iff.1 hpasses)]
      exact Job.ends_done _ _ _
    · exact Job.Ends.bind hask (Job.ends_done _ _ _)

/-- A wait takes as long as the delay says. The random factor is drawn only if it counts. -/
theorem ends_waitBefore {attempt delay : Nat} {x : Float} (hdraw : draw.Ends m s x m s')
    (hdelay : backoff.delay attempt x = .ok delay) :
    (waitBefore backoff draw attempt).Ends m s () (m.later (m.after (wholeMilliseconds delay)))
      (if backoff.isJittered then s' else s) := by
  rw [waitBefore]
  by_cases hjitter : backoff.isJittered = true
  · simp only [hjitter, if_true]
    refine Job.Ends.bind hdraw ?_
    rw [hdelay]
    exact Job.ends_sleep _ _ _
  · simp only [hjitter, Bool.false_eq_true, if_false]
    refine Job.Ends.bind (Job.ends_done 1.0 m s) ?_
    rw [Backoff.delay_of_not_isJittered (Bool.eq_false_iff.2 hjitter)] at hdelay ⊢
    rw [hdelay]
    exact Job.ends_sleep _ _ _

/-- Where there is no delay nothing goes on. -/
theorem run_waitBefore_of_fault {attempt : Nat} {x : Float} {fault : DelayFault}
    (hdraw : draw.Ends m s x m s') (hdelay : backoff.delay attempt x = .error fault) :
    (waitBefore backoff draw attempt).run m s = .halted fault.message := by
  rw [waitBefore]
  by_cases hjitter : backoff.isJittered = true
  · simp only [hjitter, if_true]
    refine (Job.run_bind _ _ _ _).trans ?_
    rw [hdraw]
    dsimp only
    rw [hdelay]
    rfl
  · simp only [hjitter, Bool.false_eq_true, if_false]
    refine (Job.run_bind (Job.done 1.0) _ _ _).trans ?_
    dsimp only [Job.run]
    rw [Backoff.delay_of_not_isJittered (Bool.eq_false_iff.2 hjitter)] at hdelay ⊢
    rw [hdelay]
    rfl

/-! ## Rounds -/

/-- When the calls of a provider begin and end, and in which states. -/
structure Rounds (σ : Type) where
  /-- When a call begins. -/
  began : Nat → Moment
  /-- The state in which it begins. -/
  before : Nat → σ
  /-- When it ends. -/
  ended : Nat → Moment
  /-- The state in which it ends. -/
  after : Nat → σ

/-- Up to round `k` every call is answered by the script, and there is a wait after each but the
last. -/
structure Rounds.Follow (r : Rounds σ) (ask : Job σ (Except RateError Rate)) (backoff : Backoff)
    (draw : Job σ Float) (script : Nat → Except RateError Rate) (k : Nat) : Prop where
  /-- The calls. -/
  asks : ∀ i ≤ k, ask.Ends (r.began i) (r.before i) (script i) (r.ended i) (r.after i)
  /-- The waits. -/
  waits : ∀ i < k, (waitBefore backoff draw i).Ends (r.ended i) (r.after i) () (r.began (i + 1))
    (r.before (i + 1))

/-- Asking again goes through the rounds as long as the answers are failures that may pass. -/
theorem run_askAgain {r : Rounds σ} {n : Nat} (h : r.Follow ask backoff draw script n)
    (hagain : ∀ i < n, ∃ e, script i = .error e ∧ e.isRetryable = true) (retries : Nat) :
    (askAgain ask backoff draw (retries + n) 0).run (r.began 0) (r.before 0) =
      (askAgain ask backoff draw retries n).run (r.began n) (r.before n) := by
  induction n generalizing retries with
  | zero => rfl
  | succ n ih =>
    have hprevious : r.Follow ask backoff draw script n :=
      ⟨fun i hi => h.asks i (Nat.le_succ_of_le hi), fun i hi => h.waits i (Nat.lt_succ_of_lt hi)⟩
    obtain ⟨e, hscript, hpasses⟩ := hagain n (Nat.lt_succ_self n)
    have hask := h.asks n (Nat.le_succ n)
    rw [hscript] at hask
    have hsplit : retries + (n + 1) = retries + 1 + n := by omega
    rw [hsplit, ih hprevious fun i hi => hagain i (Nat.lt_succ_of_lt hi),
      run_askAgain_succ hask hpasses, Job.run_bind, h.waits n (Nat.lt_succ_self n)]

/-- How rounds go in which a call leads from where it begins to where it ends, and a wait from there
to where the next one begins. -/
def Rounds.start (call : Moment × σ → Moment × σ) (wait : Nat → Moment × σ → Moment × σ)
    (first : Moment × σ) : Nat → Moment × σ
  | 0 => first
  | i + 1 => wait i (call (Rounds.start call wait first i))

/-- The provider answers its calls as a script says, and which random factor is drawn depends on
nothing but how often it was called. Drawing takes no time. -/
structure Plays (count : σ → Nat) (pair : Pair) (p : Provider σ) (draw : Job σ Float)
    (script : Nat → Except RateError Rate) (factor : Nat → Float) : Prop where
  /-- The answers. -/
  answers : p.Follows count pair fun n => (script n, n + 1)
  /-- The factors. -/
  draws : ∀ m s, ∃ s', draw.Ends m s (factor (count s)) m s' ∧ count s' = count s

/-- A provider that plays has rounds, whatever the waits are to be. -/
theorem Plays.exists_rounds (h : p.Plays count pair draw script factor) (hs : count s = 0)
    (m : Moment) (backoff : Backoff) (nanos : Nat → Nat) :
    ∃ r : Rounds σ, r.began 0 = m ∧ r.before 0 = s ∧
      (∀ i, (p.fetch pair).Ends (r.began i) (r.before i) (script i) (r.ended i) (r.after i)) ∧
      (∀ i, count (r.after i) = i + 1) ∧
      (∀ i, r.began (i + 1) =
        (r.ended i).later ((r.ended i).after (wholeMilliseconds (nanos i)))) ∧
      ∀ i, ∃ s', draw.Ends (r.ended i) (r.after i) (factor (i + 1)) (r.ended i) s' ∧
        r.before (i + 1) = if backoff.isJittered then s' else r.after i := by
  choose ended after hends hcount using h.answers
  choose drawn hdrawn hkept using h.draws
  let call : Moment × σ → Moment × σ := fun q => (ended q.1 q.2, after q.1 q.2)
  let wait : Nat → Moment × σ → Moment × σ := fun i q =>
    (q.1.later (q.1.after (wholeMilliseconds (nanos i))),
      if backoff.isJittered then drawn q.1 q.2 else q.2)
  let start := Rounds.start call wait (m, s)
  have hstart : ∀ i, count (start i).2 = i := by
    intro i
    induction i with
    | zero => exact hs
    | succ i ih =>
      have hcalled : count (call (start i)).2 = i + 1 := (hcount _ _).trans (congrArg _ ih)
      change count (if backoff.isJittered then _ else _) = i + 1
      split
      · exact (hkept _ _).trans hcalled
      · exact hcalled
  have hcalled : ∀ i, count (call (start i)).2 = i + 1 := fun i =>
    (hcount _ _).trans (congrArg _ (hstart i))
  refine ⟨⟨fun i => (start i).1, fun i => (start i).2, fun i => (call (start i)).1,
    fun i => (call (start i)).2⟩, rfl, rfl, fun i => ?_, hcalled, fun i => rfl, fun i => ?_⟩
  · have hend := hends (start i).1 (start i).2
    rwa [hstart] at hend
  · have hdraw := hdrawn (call (start i)).1 (call (start i)).2
    rw [hcalled] at hdraw
    exact ⟨_, hdraw, rfl⟩

/-- As long as there are delays, rounds go by the answers and the waits. -/
theorem Rounds.Follow.of_delays {r : Rounds σ} {n : Nat}
    (hasks : ∀ i, (p.fetch pair).Ends (r.began i) (r.before i) (script i) (r.ended i) (r.after i))
    (hbegan : ∀ i, r.began (i + 1) =
      (r.ended i).later ((r.ended i).after (wholeMilliseconds (nanos i))))
    (hbefore : ∀ i, ∃ s', draw.Ends (r.ended i) (r.after i) (factor (i + 1)) (r.ended i) s' ∧
      r.before (i + 1) = if backoff.isJittered then s' else r.after i)
    (hdelays : ∀ i < n, backoff.delay i (factor (i + 1)) = .ok (nanos i)) :
    r.Follow (p.fetch pair) backoff draw script n := by
  refine ⟨fun i _ => hasks i, fun i hi => ?_⟩
  obtain ⟨s', hdraw, hstate⟩ := hbefore i
  rw [hbegan, hstate]
  exact ends_waitBefore hdraw (hdelays i hi)

/-! ## Calls that are written down -/

/-- A call of a provider that is over. -/
structure Call where
  /-- The pair whose rate was asked for. -/
  pair : Pair
  /-- When the call began. -/
  began : Moment
  /-- When it ended. -/
  ended : Moment
  /-- What was answered. -/
  answer : Except RateError Rate

/-- A provider whose calls are written down, beside the state. -/
def noted (p : Provider σ) : Provider (σ × List Call) where
  name := p.name
  fetch pair := do
    let began ← Job.now
    let answer ← (p.fetch pair).on Part.first
    .act (fun ended w => (w.1, w.2 ++ [⟨pair, began, ended, answer⟩])) fun _ _ => .done answer

theorem ends_noted {answer : Except RateError Rate} (h : (p.fetch pair).Ends m s answer m' s')
    (calls : List Call) :
    (p.noted.fetch pair).Ends m (s, calls) answer m' (s', calls ++ [⟨pair, m, m', answer⟩]) := by
  have hfetch := Job.Ends.on Part.first_lawful (s := (s, calls)) h
  refine Job.Ends.bind (Job.Ends.act (Job.ends_done m m _)) ?_
  exact Job.Ends.bind hfetch (Job.Ends.act (Job.ends_done _ _ _))

/-- The call of a round. -/
def Rounds.call (r : Rounds σ) (pair : Pair) (script : Nat → Except RateError Rate) (i : Nat) :
    Call :=
  ⟨pair, r.began i, r.ended i, script i⟩

/-- Rounds of which the calls are written down. -/
def Rounds.noted (r : Rounds σ) (calls : List Call) (pair : Pair)
    (script : Nat → Except RateError Rate) : Rounds (σ × List Call) where
  began := r.began
  before i := (r.before i, calls ++ (List.range i).map (r.call pair script))
  ended := r.ended
  after i := (r.after i, calls ++ (List.range (i + 1)).map (r.call pair script))

theorem Rounds.Follow.noted {r : Rounds σ} {n : Nat}
    (h : r.Follow (p.fetch pair) backoff draw script n)
    (hdraws : ∀ i < n, ∃ x delay s', draw.Ends (r.ended i) (r.after i) x (r.ended i) s' ∧
      backoff.delay i x = .ok delay)
    (calls : List Call) :
    (r.noted calls pair script).Follow (p.noted.fetch pair) backoff (draw.on Part.first) script
      n := by
  refine ⟨fun i hi => ?_, fun i hi => ?_⟩
  · have hask := ends_noted (h.asks i hi) (calls ++ (List.range i).map (r.call pair script))
    rw [List.append_assoc] at hask
    rw [Rounds.noted]
    dsimp only
    rw [List.range_succ, List.map_append]
    exact hask
  · obtain ⟨x, delay, s', hdraw, hdelay⟩ := hdraws i hi
    have hwait := ends_waitBefore hdraw hdelay
    obtain ⟨-, hbegan, hbefore⟩ := (h.waits i hi).unique hwait
    have haside := ends_waitBefore (Job.Ends.on Part.first_lawful
      (s := (r.after i, calls ++ (List.range (i + 1)).map (r.call pair script))) hdraw) hdelay
    rw [Rounds.noted]
    dsimp only
    rw [hbegan, hbefore, apply_ite (fun s => (s, _))]
    exact haside

/-! ## Up to the final answer -/

/-- There is a first answer that is final, and the calls before it are no more than may be made
again. -/
theorem exists_isLeast_isFinal (maxRetries : Nat) (script : Nat → Except RateError Rate) :
    ∃ k ≤ maxRetries, IsLeast {i | IsFinal maxRetries i (script i)} k := by
  classical
  have hlast : ∃ i, IsFinal maxRetries i (script i) := ⟨maxRetries, .inr (.inr rfl)⟩
  refine ⟨Nat.find hlast, ?_, Nat.find_spec hlast, ?_⟩
  · exact Nat.find_min' hlast (.inr (.inr rfl))
  · intro i hi
    exact Nat.find_min' hlast hi

/-- Rounds that come to the first final answer are what asking again comes to. -/
theorem Rounds.Follow.ends_retrying {r : Rounds σ}
    (h : r.Follow (p.fetch pair) backoff draw script k)
    (hleast : IsLeast {i | IsFinal maxRetries i (script i)} k) :
    ((p.retrying maxRetries backoff draw).fetch pair).Ends (r.began 0) (r.before 0) (script k)
      (r.ended k) (r.after k) := by
  have hk : k ≤ maxRetries := hleast.2 (.inr (.inr rfl))
  have hagain : ∀ i < k, ∃ e, script i = .error e ∧ e.isRetryable = true := fun i hi =>
    exists_error_of_not_isFinal fun hfinal => Nat.not_le_of_lt hi (hleast.2 hfinal)
  have hfinal : IsFinal (maxRetries - k + k) k (script k) := by
    rw [Nat.sub_add_cancel hk]
    exact hleast.1
  have hrun := run_askAgain h hagain (maxRetries - k)
  rw [Nat.sub_add_cancel hk] at hrun
  exact hrun.trans (ends_askAgain_of_isFinal (h.asks k (Nat.le_refl k)) hfinal)

/-- Rounds that come to a wait of which nobody can say how long it is stop there. -/
theorem Rounds.Follow.run_retrying_of_fault {r : Rounds σ} {j : Nat} {x : Float}
    {fault : DelayFault} (h : r.Follow (p.fetch pair) backoff draw script j) (hj : j < maxRetries)
    (hagain : ∀ i ≤ j, ∃ e, script i = .error e ∧ e.isRetryable = true)
    (hdraw : draw.Ends (r.ended j) (r.after j) x (r.ended j) s')
    (hdelay : backoff.delay j x = .error fault) :
    ((p.retrying maxRetries backoff draw).fetch pair).run (r.began 0) (r.before 0) =
      .halted fault.message := by
  obtain ⟨e, hscript, hpasses⟩ := hagain j (Nat.le_refl j)
  have hask := h.asks j (Nat.le_refl j)
  rw [hscript] at hask
  have hsplit : maxRetries = maxRetries - j - 1 + 1 + j := by omega
  rw [retrying, hsplit]
  refine (run_askAgain h (fun i hi => hagain i (Nat.le_of_lt hi)) _).trans ?_
  rw [run_askAgain_succ hask hpasses, Job.run_bind, run_waitBefore_of_fault hdraw hdelay]

/-- A provider that is asked again gives the first answer that is final, that of call `k`, after
`k + 1` calls. Between two calls there is a wait, as long as the delay says, and there is none
after the last call, as the calls that are written down tell. Where a wait has no delay everything
stops. A provider that may not be asked again is what it was. -/
theorem asks_until_final (h : p.Plays count pair draw script factor) (hs : count s = 0)
    (maxRetries : Nat) (backoff : Backoff) (m : Moment) (calls : List Call) :
    ∃ k, IsLeast {i | IsFinal maxRetries i (script i)} k ∧
      (∀ nanos : Nat → Nat, (∀ i < k, backoff.delay i (factor (i + 1)) = .ok (nanos i)) →
        ∃ began ended : Nat → Moment, ∃ s', began 0 = m ∧
          (∀ i < k, began (i + 1) =
            (ended i).later ((ended i).after (wholeMilliseconds (nanos i)))) ∧
          ((p.retrying maxRetries backoff draw).fetch pair).Ends m s (script k) (ended k) s' ∧
          count s' = k + 1 ∧
          ((p.noted.retrying maxRetries backoff (draw.on Part.first)).fetch pair).Ends m (s, calls)
            (script k) (ended k)
            (s', calls ++ (List.range (k + 1)).map fun i =>
              ⟨pair, began i, ended i, script i⟩)) ∧
      (∀ j < k, ∀ fault, (∀ i < j, ∃ delay, backoff.delay i (factor (i + 1)) = .ok delay) →
        backoff.delay j (factor (j + 1)) = .error fault →
        ((p.retrying maxRetries backoff draw).fetch pair).run m s = .halted fault.message) ∧
      p.retrying 0 backoff draw = p := by
  obtain ⟨k, hk, hleast⟩ := exists_isLeast_isFinal maxRetries script
  refine ⟨k, hleast, fun nanos hdelays => ?_, fun j hj fault hdelays hfault => ?_, rfl⟩
  · obtain ⟨r, rfl, rfl, hasks, hcount, hbegan, hbefore⟩ := h.exists_rounds hs m backoff nanos
    have hfollow := Rounds.Follow.of_delays hasks hbegan hbefore hdelays
    have hnoted := hfollow.noted (fun i hi => by
      obtain ⟨s', hdraw, -⟩ := hbefore i
      exact ⟨_, _, s', hdraw, hdelays i hi⟩) calls
    have hends := hnoted.ends_retrying hleast
    rw [Rounds.noted] at hends
    dsimp only at hends
    rw [List.range_zero, List.map_nil, List.append_nil] at hends
    exact ⟨r.began, r.ended, r.after k, rfl, fun i _ => hbegan i, hfollow.ends_retrying hleast,
      hcount k, hends⟩
  · choose! nanos hnanos using hdelays
    obtain ⟨r, rfl, rfl, hasks, -, hbegan, hbefore⟩ := h.exists_rounds hs m backoff nanos
    have hfollow := Rounds.Follow.of_delays hasks hbegan hbefore hnanos
    obtain ⟨s', hdraw, -⟩ := hbefore j
    refine hfollow.run_retrying_of_fault (Nat.lt_of_lt_of_le hj hk) (fun i hi => ?_) hdraw hfault
    exact exists_error_of_not_isFinal fun hfinal =>
      Nat.not_le_of_lt (Nat.lt_of_le_of_lt hi hj) (hleast.2 hfinal)

/-! ## Providers that read their answers off -/

/-- A provider that reads its answers off a script and counts its calls. -/
def scripted (name : String) (script : Nat → Except RateError Rate) : Provider Nat :=
  ⟨name, fun _ => Job.change fun n => (script n, n + 1)⟩

theorem plays_scripted (name : String) (pair : Pair) (script : Nat → Except RateError Rate) :
    (scripted name script).Plays id pair (.done 1.0) script fun _ => 1.0 :=
  ⟨fun m _ => ⟨m, _, rfl, rfl⟩, fun _ s => ⟨s, rfl, rfl⟩⟩

/-- Two failures and then a rate. -/
def flaky (pair : Pair) (i : Nat) : Except RateError Rate :=
  if i < 2 then .error (.status "flaky" 500) else .ok ⟨1.0, pair⟩

theorem isLeast_isFinal_flaky (pair : Pair) (hretries : 2 ≤ maxRetries) :
    IsLeast {i | IsFinal maxRetries i (flaky pair i)} 2 := by
  refine ⟨.inl ⟨_, rfl⟩, fun i hi => Nat.le_of_not_lt fun hlt => ?_⟩
  rcases hi with ⟨rate, hok⟩ | ⟨e, herror, hpasses⟩ | hlast
  · rw [flaky, if_pos hlt] at hok
    nomatch hok
  · rw [flaky, if_pos hlt] at herror
    rw [← Except.error.inj herror] at hpasses
    exact absurd hpasses (by decide)
  · omega

/-- Asked three times at most, with ten milliseconds between two calls. -/
theorem asks_until_final_of_flaky :
    let pair := Pair.ofTexts "btc" "uah"
    let p := scripted "flaky" (flaky pair)
    ∃ m' s', ((p.retrying 3 (.fixed (10 * Backoff.millisecond)) (.done 1.0)).fetch pair).Ends
      Moment.start 0 (.ok ⟨1.0, pair⟩) m' s' ∧ s' = 3 := by
  intro pair p
  obtain ⟨k, hleast, hends, -⟩ := asks_until_final (plays_scripted "flaky" pair (flaky pair))
    (s := (0 : Nat)) rfl 3 (.fixed (10 * Backoff.millisecond)) Moment.start []
  have hk : k = 2 := hleast.unique (isLeast_isFinal_flaky pair (by decide))
  subst hk
  obtain ⟨began, ended, s', -, -, hend, hcount, -⟩ :=
    hends (fun _ => 10 * Backoff.millisecond) fun _ _ => rfl
  exact ⟨_, s', hend, hcount⟩

/-- A delay that changes its sign with every call. -/
def alternating : Backoff :=
  .exponential (10 * Backoff.millisecond) (-1.0) (1000 * Backoff.millisecond) false

theorem delay_alternating_zero (scale : Float) :
    alternating.delay 0 scale = .ok (10 * Backoff.millisecond) := by
  rw [Backoff.delay_of_not_isJittered rfl]
  exact Backoff.nanosOf_of_toOption (by decide +kernel)

theorem delay_alternating_one (scale : Float) : alternating.delay 1 scale = .error .negative := by
  have hnegative : Backoff.smaller (Backoff.secondsOf (10 * Backoff.millisecond) *
      Backoff.power (-1.0) (min 1 Backoff.maxExponent))
      (Backoff.secondsOf (1000 * Backoff.millisecond)) < 0 := by
    decide +kernel
  rw [Backoff.delay_of_not_isJittered rfl, alternating, Backoff.plainDelay]
  rw [Backoff.nanosOf, if_pos hnegative]

/-- After the first call there is a wait, after the second nobody can say how long to wait, and the
rate that would come third is not asked for. -/
theorem stops_without_delay :
    let pair := Pair.ofTexts "btc" "uah"
    let p := scripted "flaky" (flaky pair)
    p.Plays id pair (.done 1.0) (flaky pair) (fun _ => 1.0) ∧
      IsLeast {i | IsFinal 6 i (flaky pair i)} 2 ∧
      ((p.retrying 6 alternating (.done 1.0)).fetch pair).run Moment.start 0 =
        .halted DelayFault.negative.message ∧
      ¬∃ m' s', ((p.retrying 6 alternating (.done 1.0)).fetch pair).Ends Moment.start 0
        (flaky pair 2) m' s' := by
  intro pair p
  have hstart : (p.fetch pair).Ends Moment.start 0 (.error (.status "flaky" 500)) Moment.start 1 :=
    rfl
  have hwait := ends_waitBefore (Job.ends_done 1.0 Moment.start 1) (delay_alternating_zero 1.0)
  have hnext : (p.fetch pair).Ends (Moment.start.later (Moment.start.after 10)) 1
    (.error (.status "flaky" 500)) (Moment.start.later (Moment.start.after 10)) 2 := rfl
  have hrun : ((p.retrying 6 alternating (.done 1.0)).fetch pair).run Moment.start 0 =
      .halted DelayFault.negative.message := by
    refine (run_askAgain_succ hstart rfl 5 0).trans ?_
    rw [Job.run_bind, hwait]
    refine (run_askAgain_succ hnext rfl 4 1).trans ?_
    rw [Job.run_bind, run_waitBefore_of_fault (Job.ends_done 1.0 _ _) (delay_alternating_one 1.0)]
  refine ⟨plays_scripted "flaky" pair (flaky pair), isLeast_isFinal_flaky pair (by decide), hrun,
    ?_⟩
  rintro ⟨m', s', hend⟩
  rw [Job.Ends, hrun] at hend
  cases hend

end Provider

end RateHerald
