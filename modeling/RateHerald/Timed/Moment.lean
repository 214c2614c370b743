/-!
# Moments

Time is counted in milliseconds. A job that leaves its work to somebody else for a while that takes
no time at all, as reading a file does, goes on in the next round of the same millisecond, so a
moment is a millisecond and a round in it. Deadlines lie in round zero: in its own millisecond a
deadline comes before all work that was left to somebody else.

Neither spans of time nor clocks go on for ever. A span has less than 2 ^ 64 seconds, and a clock
shows less than 2 ^ 63 seconds, so the moment at which a span of time is over may be one that no
clock shows. Then there is no deadline, and whoever asks for it breaks off.

## Main declarations

* `Span`, a span of time, and `Span.longest`.
* `Moment`, ordered by millisecond and then by round.
* `Moment.after` and `Moment.nextRound`.
* `Moment.deadline?`: the moment at which a span of time is over, if a clock can show it.
-/

namespace RateHerald

/-! ## Spans of time -/

/-- A span of time in whole milliseconds. Its seconds are counted in 64 bits. -/
structure Span where
  /-- The milliseconds. -/
  ms : Nat
  /-- There are no more seconds than can be counted. -/
  ms_lt : ms < UInt64.size * 1000
deriving Repr, DecidableEq

namespace Span

/-- The longest span. -/
def longest : Span :=
  ⟨UInt64.size * 1000 - 1, by decide⟩

/-- The span of so many milliseconds, or the longest one if there is none so long. -/
def ofMs (ms : Nat) : Span :=
  if h : ms < UInt64.size * 1000 then ⟨ms, h⟩ else longest

theorem ms_ofMs {ms : Nat} (h : ms < UInt64.size * 1000) : (ofMs ms).ms = ms := by
  rw [ofMs, dif_pos h]

instance : Coe Nat Span :=
  ⟨ofMs⟩

instance (ms : Nat) : OfNat Span ms :=
  ⟨ofMs ms⟩

instance : ToString Span :=
  ⟨fun span => toString span.ms⟩

end Span

/-! ## Moments -/

/-- A millisecond and a round in it. -/
structure Moment where
  /-- The millisecond. -/
  ms : Nat
  /-- The round in the millisecond. -/
  round : Nat
deriving Repr, DecidableEq

namespace Moment

/-- The first moment. -/
def start : Moment :=
  ⟨0, 0⟩

instance : LE Moment where
  le a b := a.ms < b.ms ∨ (a.ms = b.ms ∧ a.round ≤ b.round)

theorem le_def {a b : Moment} : a ≤ b ↔ a.ms < b.ms ∨ (a.ms = b.ms ∧ a.round ≤ b.round) :=
  Iff.rfl

instance (a b : Moment) : Decidable (a ≤ b) :=
  inferInstanceAs (Decidable (a.ms < b.ms ∨ (a.ms = b.ms ∧ a.round ≤ b.round)))

theorem le_refl (a : Moment) : a ≤ a :=
  .inr ⟨rfl, Nat.le_refl _⟩

theorem le_trans {a b c : Moment} (hab : a ≤ b) (hbc : b ≤ c) : a ≤ c := by
  simp only [le_def] at *
  omega

theorem le_total (a b : Moment) : a ≤ b ∨ b ≤ a := by
  simp only [le_def]
  omega

/-- The later of two moments. -/
def later (a b : Moment) : Moment :=
  if a ≤ b then b else a

/-- The earlier of two moments. -/
def earlier (a b : Moment) : Moment :=
  if a ≤ b then a else b

theorem le_later_left (a b : Moment) : a ≤ later a b := by
  unfold later
  split
  · assumption
  · exact le_refl a

theorem le_later_right (a b : Moment) : b ≤ later a b := by
  unfold later
  split
  · exact le_refl b
  · exact (le_total a b).resolve_left (by assumption)

/-- The earlier of two moments each of which may never come. -/
def soonest : Option Moment → Option Moment → Option Moment
  | none, b => b
  | some a, none => some a
  | some a, some b => some (earlier a b)

/-- The moment some milliseconds later. -/
def after (m : Moment) (ms : Nat) : Moment :=
  ⟨m.ms + ms, 0⟩

/-- The next round of the same millisecond. -/
def nextRound (m : Moment) : Moment :=
  ⟨m.ms, m.round + 1⟩

/-! ## Deadlines -/

/-- The first millisecond that no clock shows; the seconds of a clock are counted in 63 bits. -/
def horizon : Nat := UInt64.size / 2 * 1000

/-- The moment at which a span of time is over, if a clock can show it. -/
def deadline? (m : Moment) (span : Span) : Option Moment :=
  if m.ms + span.ms < horizon then some (m.after span.ms) else none

/-- What is said when somebody breaks off because no clock can show the deadline. -/
def overflow : String := "overflow when adding duration to instant"

variable {m deadline : Moment} {span : Span}

theorem deadline?_eq_some_iff :
    m.deadline? span = some deadline ↔ m.ms + span.ms < horizon ∧ m.after span.ms = deadline := by
  rw [deadline?, Option.ite_none_right_eq_some, Option.some_inj]

theorem after_eq_of_deadline? (h : m.deadline? span = some deadline) :
    m.after span.ms = deadline :=
  (deadline?_eq_some_iff.1 h).2

end Moment

end RateHerald
