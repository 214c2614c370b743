import RateHerald.Proofs.Json.Reading
import RateHerald.Text.Blank

/-!
# Places in a text, by bytes

A text that is kept as bytes is cut at bytes, and not every byte is a place to cut: in the middle
of a character that takes several of them there is none, nor is there one behind the end. Here the
cuts are partial, so that it can be said of somebody who cuts that all of his cuts are possible.

Where the first or the last of some character stands is told in bytes as well. Such a place can be
cut at, on either side of the character.

## Main declarations

* `position?` and `lastPosition?` find a character, told by how many bytes stand before it.
* `cut?` cuts a text in two, if that is possible; `upTo?`, `from?` and `slice?` keep a part.
* `splitAtLast?` leaves out the last of some character.
* `cut?_eq_some_iff`: a text can be cut between two characters only.
* `Strips` says what remains when both ends are taken off, and `strip_eq_iff` that nothing else does.
-/

namespace RateHerald.Text

open Json.Cursor (bytes)

variable {c : Char} {cs before middle after : List Char} {n : Nat}

/-! ## Finding a character -/

/-- Where the first of a character stands. -/
def position? (c : Char) : List Char → Option Nat
  | [] => none
  | d :: cs => if d = c then some 0 else (position? c cs).map (d.utf8Size + ·)

/-- Where the last of a character stands. -/
def lastPosition? (c : Char) : List Char → Option Nat
  | [] => none
  | d :: cs =>
    match lastPosition? c cs with
    | some n => some (d.utf8Size + n)
    | none => if d = c then some 0 else none

theorem position?_append (h : c ∉ before) (after : List Char) :
    position? c (before ++ c :: after) = some (bytes before) := by
  induction before with
  | nil => simp [position?]
  | cons d before ih =>
    rw [List.mem_cons, not_or] at h
    rw [List.cons_append, position?, if_neg (Ne.symm h.1), ih h.2, Option.map_some,
      Json.Cursor.bytes_cons]

theorem position?_eq_none (h : c ∉ cs) : position? c cs = none := by
  induction cs with
  | nil => rfl
  | cons d cs ih =>
    rw [List.mem_cons, not_or] at h
    rw [position?, if_neg (Ne.symm h.1), ih h.2, Option.map_none]

theorem lastPosition?_eq_none (h : c ∉ cs) : lastPosition? c cs = none := by
  induction cs with
  | nil => rfl
  | cons d cs ih =>
    rw [List.mem_cons, not_or] at h
    rw [lastPosition?, ih h.2, if_neg (Ne.symm h.1)]

theorem lastPosition?_append (before : List Char) (h : c ∉ after) :
    lastPosition? c (before ++ c :: after) = some (bytes before) := by
  induction before with
  | nil => simp [lastPosition?, lastPosition?_eq_none h]
  | cons d before ih => rw [List.cons_append, lastPosition?, ih, Json.Cursor.bytes_cons]

/-! ## Cutting -/

/-- The text before a byte and the text from there on, if the text can be cut there. -/
def cut? : Nat → List Char → Option (List Char × List Char)
  | n, [] => if n = 0 then some ([], []) else none
  | n, c :: cs =>
    if n = 0 then some ([], c :: cs)
    else if c.utf8Size ≤ n then
      (cut? (n - c.utf8Size) cs).map fun halves => (c :: halves.1, halves.2)
    else none

/-- The text before a byte. -/
def upTo? (n : Nat) (cs : List Char) : Option (List Char) :=
  (cut? n cs).map Prod.fst

/-- The text from a byte on. -/
def from? (n : Nat) (cs : List Char) : Option (List Char) :=
  (cut? n cs).map Prod.snd

/-- The text between two bytes, which have to be in order. -/
def slice? (first last : Nat) (cs : List Char) : Option (List Char) :=
  if first ≤ last then (from? first cs).bind (upTo? (last - first)) else none

theorem bytes_eq_zero_iff : bytes cs = 0 ↔ cs = [] := by
  cases cs with
  | nil => simp
  | cons c cs =>
    have hpos := c.utf8Size_pos
    simp only [Json.Cursor.bytes_cons, reduceCtorEq, iff_false]
    omega

/-- A text can be cut between two characters, and nowhere else. -/
theorem cut?_eq_some_iff :
    cut? n cs = some (before, after) ↔ cs = before ++ after ∧ bytes before = n := by
  induction cs generalizing n before with
  | nil =>
    constructor
    · intro h
      rw [cut?] at h
      split at h
      · next hn =>
        cases h
        exact ⟨rfl, hn.symm⟩
      · cases h
    · rintro ⟨hcs, rfl⟩
      obtain ⟨rfl, rfl⟩ := List.append_eq_nil_iff.1 hcs.symm
      rfl
  | cons c cs ih =>
    have hpos := c.utf8Size_pos
    constructor
    · intro h
      rw [cut?] at h
      split at h
      · next hn =>
        cases h
        exact ⟨rfl, hn.symm⟩
      · split at h
        · next hle =>
          obtain ⟨⟨b, a⟩, hcut, heq⟩ := Option.map_eq_some_iff.1 h
          cases heq
          obtain ⟨rfl, hbytes⟩ := ih.1 hcut
          refine ⟨rfl, ?_⟩
          rw [Json.Cursor.bytes_cons, hbytes]
          omega
        · cases h
    · rintro ⟨hcs, rfl⟩
      cases before with
      | nil =>
        cases hcs
        rfl
      | cons d before =>
        rw [List.cons_append, List.cons.injEq] at hcs
        obtain ⟨rfl, rfl⟩ := hcs
        have hrest : cut? (bytes before) (before ++ after) = some (before, after) :=
          ih.2 ⟨rfl, rfl⟩
        rw [cut?, Json.Cursor.bytes_cons, if_neg (by omega), if_pos (by omega),
          Nat.add_sub_cancel_left, hrest]
        rfl

theorem upTo?_append (before after : List Char) :
    upTo? (bytes before) (before ++ after) = some before := by
  rw [upTo?, cut?_eq_some_iff.2 ⟨rfl, rfl⟩, Option.map_some]

theorem from?_append (before after : List Char) :
    from? (bytes before) (before ++ after) = some after := by
  rw [from?, cut?_eq_some_iff.2 ⟨rfl, rfl⟩, Option.map_some]

theorem slice?_append (before middle after : List Char) :
    slice? (bytes before) (bytes before + bytes middle) (before ++ (middle ++ after)) =
      some middle := by
  rw [slice?, if_pos (Nat.le_add_right _ _), from?_append, Option.bind_some,
    Nat.add_sub_cancel_left, upTo?_append]

/-- The text on both sides of the last of a character, if there is one. -/
def splitAtLast? (c : Char) (cs : List Char) : Option (List Char × List Char) :=
  (lastPosition? c cs).bind fun n =>
    (upTo? n cs).bind fun before => (from? (n + c.utf8Size) cs).map fun after => (before, after)

theorem splitAtLast?_append (before : List Char) (h : c ∉ after) :
    splitAtLast? c (before ++ c :: after) = some (before, after) := by
  have hfrom : from? (bytes before + c.utf8Size) (before ++ c :: after) = some after := by
    have hcut := from?_append (before ++ [c]) after
    rwa [Json.Cursor.bytes_append, Json.Cursor.bytes_cons, Json.Cursor.bytes_nil, Nat.add_zero,
      List.append_assoc] at hcut
  rw [splitAtLast?, lastPosition?_append before h, Option.bind_some, upTo?_append,
    Option.bind_some, hfrom, Option.map_some]

/-- The last of a character that occurs. -/
theorem exists_last (h : c ∈ cs) : ∃ before after, cs = before ++ c :: after ∧ c ∉ after := by
  obtain ⟨after, before, hreverse, hafter⟩ :=
    List.eq_append_cons_of_mem (List.mem_reverse.2 h)
  refine ⟨before.reverse, after.reverse, ?_, by simpa using hafter⟩
  rw [← List.reverse_reverse cs, hreverse]
  simp

/-! ## Taking off both ends -/

/-- The text `t` remains when at both ends all characters that satisfy `p` are taken off. -/
structure Strips (p : Char → Bool) (cs t : List Char) : Prop where
  /-- Around it there are such characters only. -/
  around : ∃ left right, cs = left ++ (t ++ right) ∧ (∀ c ∈ left, p c = true) ∧
    ∀ c ∈ right, p c = true
  /-- It does not begin with one. -/
  head : t.head?.all (!p ·) = true
  /-- It does not end with one. -/
  last : t.getLast?.all (!p ·) = true

theorem strips_strip (p : Char → Bool) (cs : List Char) : Strips p cs (strip p cs) := by
  refine ⟨⟨cs.takeWhile p, ((cs.dropWhile p).reverse.takeWhile p).reverse, ?_, ?_, ?_⟩,
    head?_strip p cs, getLast?_strip p cs⟩
  · rw [strip, dropEnd, ← List.reverse_append, List.takeWhile_append_dropWhile,
      List.reverse_reverse, List.takeWhile_append_dropWhile]
  · exact List.all_eq_true.1 List.all_takeWhile
  · intro c hc
    exact List.all_eq_true.1 List.all_takeWhile c (List.mem_reverse.1 hc)

/-- What remains is known from the text. -/
theorem strip_eq_iff {p : Char → Bool} {t : List Char} : strip p cs = t ↔ Strips p cs t := by
  constructor
  · rintro rfl
    exact strips_strip p cs
  · rintro ⟨⟨left, right, rfl, hleft, hright⟩, hhead, hlast⟩
    rw [strip, List.dropWhile_append_of_pos hleft]
    cases t with
    | nil =>
      have hall : (right ++ []).dropWhile p = [].dropWhile p :=
        List.dropWhile_append_of_pos hright
      -- the right side is taken off from the front already
      rw [List.append_nil] at hall
      rw [List.nil_append, hall]
      rfl
    | cons c t =>
      rw [List.head?_cons, Option.all_some, Bool.not_eq_true'] at hhead
      have hreversed : ∀ d ∈ right.reverse, p d = true := fun d hd =>
        hright d (List.mem_reverse.1 hd)
      rw [List.cons_append, List.dropWhile_cons_of_neg (by simp [hhead]), ← List.cons_append,
        dropEnd, List.reverse_append, List.dropWhile_append_of_pos hreversed]
      exact dropEnd_eq_self hlast

/-- More of the same around the text makes no difference. -/
theorem Strips.widen {p : Char → Bool} {t left right : List Char} (h : Strips p cs t)
    (hleft : ∀ c ∈ left, p c = true) (hright : ∀ c ∈ right, p c = true) :
    Strips p (left ++ (cs ++ right)) t := by
  obtain ⟨⟨left', right', rfl, hleft', hright'⟩, hhead, hlast⟩ := h
  refine ⟨⟨left ++ left', right' ++ right, by simp, fun c hc => ?_, fun c hc => ?_⟩, hhead, hlast⟩
  · exact (List.mem_append.1 hc).elim (hleft c) (hleft' c)
  · exact (List.mem_append.1 hc).elim (hright' c) (hright c)

theorem strip_eq_self_iff {p : Char → Bool} :
    strip p cs = cs ↔ cs.head?.all (!p ·) = true ∧ cs.getLast?.all (!p ·) = true := by
  constructor
  · intro h
    rw [← h]
    exact ⟨head?_strip p cs, getLast?_strip p cs⟩
  · exact fun h => strip_eq_self h.1 h.2

theorem isInfix_strip (p : Char → Bool) (cs : List Char) : strip p cs <:+: cs := by
  obtain ⟨left, right, hcs, -, -⟩ := (strips_strip p cs).around
  exact ⟨left, right, by rw [List.append_assoc, ← hcs]⟩

/-- What is not taken off remains. -/
theorem mem_strip {p : Char → Bool} (h : c ∈ cs) (hp : p c = false) : c ∈ strip p cs := by
  obtain ⟨left, right, hcs, hleft, hright⟩ := (strips_strip p cs).around
  have hout : ∀ ds : List Char, (∀ d ∈ ds, p d = true) → c ∉ ds := fun ds hds hc => by
    rw [hds c hc] at hp
    cases hp
  rw [hcs, List.mem_append, List.mem_append] at h
  exact (h.resolve_left (hout left hleft)).resolve_right (hout right hright)

/-- What is taken off is not put back by taking off more. -/
theorem strip_eq_self_of_strip {p q : Char → Bool} (h : strip q (strip p cs) = cs) :
    strip p cs = cs := by
  have hinfix := isInfix_strip q (strip p cs)
  rw [h] at hinfix
  exact (isInfix_strip p cs).eq_of_length_le hinfix.length_le

end RateHerald.Text
