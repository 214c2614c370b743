import Mathlib.Data.List.TakeWhile
import RateHerald.Proofs.Json.Mapping
import RateHerald.Proofs.Json.Passing

/-!
# What a value is read as depends on the value alone

A reader that comes to a value sees the whole text behind it, and its faults tell places in the text
before it. All the same, what it makes of the value is settled by the value: the result is the same
wherever the value stands, and so is the cause of a fault and its place, counted from the beginning
of the value. This is proved for each reader and every value, whether or not it has the right type.

## Main declarations

* `Settles` says which result a reader comes to.
* `exists_settles_readFloat` and `exists_settles_readText` for numbers and texts.
* `exists_settles_failOnType`: why a value has the wrong type.
-/

namespace RateHerald.Json

variable {α β : Type}

/-! ## Results without a place -/

/-- The fault, its place counted from `n` bytes further back. -/
def Fault.later (n : Nat) (f : Fault) : Fault :=
  ⟨f.cause, n + f.offset⟩

/-- The result at a place that `offset` bytes stand before: the value and the place behind it, or
the fault, its place counted from the beginning of the text. -/
def land (r : Except Fault α) (offset : Nat) (behind : Cursor) : Except Fault (α × Cursor) :=
  match r with
  | .ok x => .ok (x, behind)
  | .error f => .error (f.later offset)

/-- Wherever `cs` stands, and whatever follows that does not continue it, the reader takes it off
and comes to the result `r`. -/
def Settles (reader : Reader α) (cs : List Char) (r : Except Fault α) : Prop :=
  ∀ offset rest, Ends rest → reader ⟨offset, cs ++ rest⟩ =
    land r offset ⟨offset + Cursor.bytes cs, rest⟩

/-- A result that comes later by `n` bytes. -/
theorem land_add (r : Except Fault α) (offset n : Nat) (behind : Cursor) :
    land r (offset + n) behind = land (r.mapError (Fault.later n)) offset behind := by
  cases r with
  | ok x => rfl
  | error f =>
    rw [land, Except.mapError, land, Fault.later, Fault.later, Fault.later, Nat.add_assoc]

theorem mapError_later_zero (r : Except Fault α) : r.mapError (Fault.later 0) = r := by
  cases r with
  | ok x => rfl
  | error f => simp [Except.mapError, Fault.later]

theorem mapError_later_later (r : Except Fault α) (n m : Nat) :
    (r.mapError (Fault.later n)).mapError (Fault.later m) = r.mapError (Fault.later (m + n)) := by
  cases r with
  | ok x => rfl
  | error f => simp [Except.mapError, Fault.later, Nat.add_assoc]

theorem land_congr {r : Except Fault α} {offset offset' n n' : Nat} {rest : List Char}
    (hoffset : offset = offset') (hn : n = n') :
    land r offset ⟨n, rest⟩ = land r offset' ⟨n', rest⟩ := by
  rw [hoffset, hn]

/-! ## Numbers -/

/-- The number that is put together is finite or too large wherever it stands. -/
theorem exists_land_assemble (minus : Bool) (word : Nat) (e : Int) :
    ∃ r, ∀ offset rest, assemble minus word e ⟨offset, rest⟩ = land r offset ⟨offset, rest⟩ := by
  cases hscale : scale? word.toUInt64.toFloat e with
  | some x =>
    refine ⟨.ok (.float (if minus then -x else x)), fun offset rest => ?_⟩
    rw [assemble, hscale]
    rfl
  | none =>
    refine ⟨.error ⟨.numberTooLarge, 0⟩, fun offset rest => ?_⟩
    rw [assemble, hscale]
    rfl

theorem le_of_exponentOverflow? {acc count n : Nat} {ds : List Char}
    (h : exponentOverflow? acc count ds = some n) : n ≤ count + ds.length := by
  induction ds generalizing acc count with
  | nil => cases h
  | cons d ds ih =>
    rw [exponentOverflow?] at h
    rw [List.length_cons]
    split at h
    · obtain rfl := Option.some.inj h
      omega
    · have := ih h
      omega

/-- What is read behind the sign of an exponent. -/
def readSteps (minus : Bool) (word : Nat) (e : Int) (down : Bool) : Reader Number := fun c =>
  match c.rest with
  | [] => c.failHere .endInValue
  | d :: _ =>
    if !d.isDigit then c.failNext .invalidNumber
    else
      let ds := c.rest.takeWhile Char.isDigit
      match exponentOverflow? 0 0 ds with
      | some count =>
        if word ≠ 0 ∧ !down then (c.skip count).failHere .numberTooLarge
        else .ok (.float (if minus then -0.0 else 0.0), c.skip ds.length)
      | none =>
        let step : Int := Decimal.digitsValue ds
        assemble minus word (if down then e - step else e + step) (c.skip ds.length)

theorem readSteps_append (minus : Bool) (word : Nat) (e : Int) (down : Bool) {ds rest : List Char}
    (h : IsDigits ds) (hrest : Halts rest) (offset : Nat) :
    readSteps minus word e down ⟨offset, ds ++ rest⟩ =
      match exponentOverflow? 0 0 ds with
      | some count =>
        if word ≠ 0 ∧ !down then
          (Cursor.skip ⟨offset, ds ++ rest⟩ count).failHere .numberTooLarge
        else .ok (.float (if minus then -0.0 else 0.0), ⟨offset + Cursor.bytes ds, rest⟩)
      | none =>
        assemble minus word (if down then e - (Decimal.digitsValue ds : Int)
          else e + (Decimal.digitsValue ds : Int)) ⟨offset + Cursor.bytes ds, rest⟩ := by
  have htake := h.takeWhile_append hrest
  have hskip := Cursor.skip_append offset ds rest
  obtain ⟨d, ds, rfl, hd⟩ := h.exists_cons
  rw [List.cons_append] at htake hskip ⊢
  rw [readSteps]
  dsimp only
  rw [hd, if_neg (by decide), htake, hskip]

theorem exists_land_readSteps (minus : Bool) (word : Nat) (e : Int) (down : Bool) {ds : List Char}
    (h : IsDigits ds) :
    ∃ r, ∀ offset rest, Halts rest → readSteps minus word e down ⟨offset, ds ++ rest⟩ =
      land r offset ⟨offset + Cursor.bytes ds, rest⟩ := by
  cases hover : exponentOverflow? 0 0 ds with
  | none =>
    obtain ⟨r, hr⟩ := exists_land_assemble minus word
      (if down then e - (Decimal.digitsValue ds : Int) else e + (Decimal.digitsValue ds : Int))
    refine ⟨r.mapError (Fault.later (Cursor.bytes ds)), fun offset rest hrest => ?_⟩
    rw [readSteps_append minus word e down h hrest, hover]
    dsimp only
    rw [hr, land_add]
  | some count =>
    have hcount : count ≤ ds.length := by
      have := le_of_exponentOverflow? hover
      omega
    by_cases hlarge : word ≠ 0 ∧ !down
    · refine ⟨.error ⟨.numberTooLarge, Cursor.bytes (ds.take count)⟩, fun offset rest hrest => ?_⟩
      rw [readSteps_append minus word e down h hrest, hover]
      dsimp only
      rw [if_pos hlarge, Cursor.skip, List.take_append_of_le_length hcount]
      rfl
    · refine ⟨.ok (.float (if minus then -0.0 else 0.0)), fun offset rest hrest => ?_⟩
      rw [readSteps_append minus word e down h hrest, hover]
      dsimp only
      rw [if_neg hlarge]
      rfl

/-- An exponent goes up, or down behind a minus. -/
theorem exists_readExponent_eq (minus : Bool) (word : Nat) (e : Int) {sign ds : List Char}
    (hsign : sign = [] ∨ sign = ['+'] ∨ sign = ['-']) (h : IsDigits ds) :
    ∃ down, ∀ offset rest, readExponent minus word e ⟨offset, sign ++ (ds ++ rest)⟩ =
      readSteps minus word e down ⟨offset + Cursor.bytes sign, ds ++ rest⟩ := by
  rcases hsign with rfl | rfl | rfl
  · obtain ⟨d, ds, rfl, hd⟩ := h.exists_cons
    refine ⟨false, fun offset rest => ?_⟩
    rw [List.nil_append, List.cons_append, readExponent]
    split
    next down c hsign =>
    split at hsign
    · next heq => exact absurd (List.cons.inj heq).1 (ne_of_isDigit hd rfl)
    · next heq => exact absurd (List.cons.inj heq).1 (ne_of_isDigit hd rfl)
    · cases hsign
      rfl
  · exact ⟨false, fun _ _ => rfl⟩
  · exact ⟨true, fun _ _ => rfl⟩

/-- An exponent is read alike wherever it stands. -/
theorem exists_land_readExponent (minus : Bool) (word : Nat) (e : Int) {sign ds : List Char}
    (hsign : sign = [] ∨ sign = ['+'] ∨ sign = ['-']) (h : IsDigits ds) :
    ∃ r, ∀ offset rest, Halts rest →
      readExponent minus word e ⟨offset, sign ++ (ds ++ rest)⟩ =
        land r offset ⟨offset + Cursor.bytes (sign ++ ds), rest⟩ := by
  obtain ⟨down, hread⟩ := exists_readExponent_eq minus word e hsign h
  obtain ⟨r, hr⟩ := exists_land_readSteps minus word e down h
  refine ⟨r.mapError (Fault.later (Cursor.bytes sign)), fun offset rest hrest => ?_⟩
  rw [hread, hr _ _ hrest, land_add, Nat.add_assoc, ← Cursor.bytes_append]

/-- The end of a number is read alike wherever it stands, if what is made of a number without an
exponent is. -/
theorem exists_land_end (minus : Bool) (word : Nat) (e : Int) {exponent : List Char}
    (h : IsExponent exponent) {k : Cursor → Except Fault (Number × Cursor)}
    (hk : ∃ r, ∀ offset rest, k ⟨offset, rest⟩ = land r offset ⟨offset, rest⟩) :
    ∃ r, ∀ offset rest, Ends rest →
      (if atExponent ⟨offset, exponent ++ rest⟩ then
        readExponent minus word e (Cursor.skip ⟨offset, exponent ++ rest⟩ 1)
        else k ⟨offset, exponent ++ rest⟩) =
          land r offset ⟨offset + Cursor.bytes exponent, rest⟩ := by
  cases h with
  | none =>
    obtain ⟨r, hr⟩ := hk
    refine ⟨r, fun offset rest hrest => ?_⟩
    rw [List.nil_append, atExponent_of_ends hrest, if_neg Bool.false_ne_true, hr]
    rfl
  | @digits letter sign ds hletter hsign h =>
    obtain ⟨r, hr⟩ := exists_land_readExponent minus word e hsign h
    refine ⟨r.mapError (Fault.later 1), fun offset rest hrest => ?_⟩
    rw [List.cons_append, if_pos (atExponent_of_letter hletter _ _), Cursor.skip_one,
      List.append_assoc, hr _ _ hrest.halts, Cursor.bytes_cons, utf8Size_of_letter hletter,
      land_add, Nat.add_assoc]

theorem exists_land_readFraction (minus : Bool) (word : Nat) (e : Int) {ds exponent : List Char}
    (hds : IsDigits ds) (h : IsExponent exponent) :
    ∃ r, ∀ offset rest, Ends rest →
      readFraction minus word e ⟨offset, ds ++ (exponent ++ rest)⟩ =
        land r offset ⟨offset + Cursor.bytes (ds ++ exponent), rest⟩ := by
  cases hgather : gather word ds with
  | mk word' used =>
    obtain ⟨r, hr⟩ := exists_land_end minus word' (e - used) h
      (exists_land_assemble minus word' (e - used))
    refine ⟨r.mapError (Fault.later (Cursor.bytes ds)), fun offset rest hrest => ?_⟩
    have hempty : ds.isEmpty = false := List.isEmpty_eq_false_iff.2 hds.ne_nil
    rw [readFraction, hds.takeWhile_append (h.halts hrest), hempty, if_neg Bool.false_ne_true,
      hgather, Cursor.skip_append]
    dsimp only
    rw [hr _ _ hrest, Cursor.bytes_append, land_add, Nat.add_assoc]

/-- What is made of the digits of a number that has nothing behind them. -/
def ofDigits (minus : Bool) (word : Nat) (e : Int) (isCut : Prop) [Decidable isCut] :
    Reader Number := fun c =>
  if isCut then assemble minus word e c
  else if !minus then .ok (.natural word, c)
  else if word = 0 ∨ word > UInt64.size / 2 then .ok (.float (-word.toUInt64.toFloat), c)
  else .ok (.negative word, c)

theorem exists_land_ofDigits (minus : Bool) (word : Nat) (e : Int) (isCut : Prop)
    [Decidable isCut] :
    ∃ r, ∀ offset rest,
      ofDigits minus word e isCut ⟨offset, rest⟩ = land r offset ⟨offset, rest⟩ := by
  unfold ofDigits
  split
  · exact exists_land_assemble minus word e
  · split
    · exact ⟨.ok (.natural word), fun _ _ => rfl⟩
    · split
      · exact ⟨.ok (.float (-word.toUInt64.toFloat)), fun _ _ => rfl⟩
      · exact ⟨.ok (.negative word), fun _ _ => rfl⟩

/-- What is read behind the whole part of a number. -/
def readBehind (minus : Bool) (whole : List Char) : Reader Number := fun c =>
  let word := (gather 0 whole).1
  let used := (gather 0 whole).2
  let e : Int := ((whole.length - used : Nat) : Int)
  match c.rest with
  | '.' :: _ => readFraction minus word e (c.skip 1)
  | _ =>
    if atExponent c then readExponent minus word e (c.skip 1)
    else ofDigits minus word e (used < whole.length) c

theorem readNumber_append (minus : Bool) {whole rest : List Char} (h : IsWhole whole)
    (hrest : Halts rest) (offset : Nat) :
    readNumber minus ⟨offset, whole ++ rest⟩ =
      readBehind minus whole ⟨offset + Cursor.bytes whole, rest⟩ := by
  have htake := h.takeWhile_append hrest
  have hskip := Cursor.skip_append offset whole rest
  obtain ⟨d, ds, rfl, hd⟩ := h.exists_cons
  have hzero := h.not_zero hrest
  rw [List.cons_append] at htake hskip ⊢
  rw [readNumber]
  dsimp only
  rw [hd, if_neg (by decide), if_neg hzero, htake, hskip]
  rfl

/-- What stands behind the whole part is read alike wherever it stands. -/
theorem exists_land_readBehind (minus : Bool) (whole : List Char) {fraction exponent : List Char}
    (hfraction : IsFraction fraction) (hexponent : IsExponent exponent) :
    ∃ r, ∀ offset rest, Ends rest →
      readBehind minus whole ⟨offset, fraction ++ (exponent ++ rest)⟩ =
        land r offset ⟨offset + Cursor.bytes (fraction ++ exponent), rest⟩ := by
  cases hfraction with
  | none =>
    obtain ⟨r, hr⟩ := exists_land_end minus (gather 0 whole).1
      ((whole.length - (gather 0 whole).2 : Nat) : Int) hexponent
      (exists_land_ofDigits _ _ _ ((gather 0 whole).2 < whole.length))
    refine ⟨r, fun offset rest hrest => ?_⟩
    rw [readBehind, List.nil_append]
    dsimp only
    split
    · next heq => exact absurd heq (hexponent.ne_point hrest _)
    · exact hr offset rest hrest
  | @digits ds h =>
    obtain ⟨r, hr⟩ := exists_land_readFraction minus (gather 0 whole).1
      ((whole.length - (gather 0 whole).2 : Nat) : Int) h hexponent
    have hpoint : '.'.utf8Size = 1 := rfl
    refine ⟨r.mapError (Fault.later 1), fun offset rest hrest => ?_⟩
    have h := hr (offset + 1) rest hrest
    rw [land_add] at h
    simp [readBehind, hpoint, h, Nat.add_assoc]

/-- A number is read alike wherever it stands. -/
theorem exists_settles_readNumber (minus : Bool) {cs : List Char} (h : IsNumber cs) :
    ∃ r, Settles (readNumber minus) cs r := by
  obtain @⟨whole, fraction, exponent, hwhole, hfraction, hexponent⟩ := h
  obtain ⟨r, hr⟩ := exists_land_readBehind minus whole hfraction hexponent
  refine ⟨r.mapError (Fault.later (Cursor.bytes whole)), fun offset rest hrest => ?_⟩
  rw [List.append_assoc, List.append_assoc,
    readNumber_append minus hwhole (hfraction.halts (hexponent.halts hrest)), hr _ _ hrest,
    land_add, Nat.add_assoc, ← Cursor.bytes_append]

/-! ## Texts -/

/-- The inside of a text is read alike wherever it stands; it is read as the characters `s`, or it
cannot be read if there are none. -/
def Spells (cs : List Char) (s : Option (List Char)) : Prop :=
  ∃ r : Except Fault (List Char), r.toOption = s ∧ ∀ acc offset rest,
    readTextBody acc offset (cs ++ '"' :: rest) =
      land (r.map (acc.reverse ++ ·)) offset ⟨offset + Cursor.bytes cs + 1, rest⟩

theorem spells_nil : Spells [] (some []) := by
  refine ⟨.ok [], rfl, fun acc offset rest => ?_⟩
  rw [List.nil_append, readTextBody, Except.map, List.append_nil]
  rfl

/-- What is read as one character is followed by the rest of the text. -/
theorem Spells.append {front cs : List Char} {c : Char} {s : Option (List Char)}
    (h : Spells cs s) (hfront : ∀ acc offset rest, readTextBody acc offset (front ++ rest) =
      readTextBody (c :: acc) (offset + Cursor.bytes front) rest) :
    Spells (front ++ cs) (s.map (c :: ·)) := by
  obtain ⟨r, rfl, hr⟩ := h
  refine ⟨(r.mapError (Fault.later (Cursor.bytes front))).map (c :: ·), by cases r <;> rfl,
    fun acc offset rest => ?_⟩
  rw [List.append_assoc, hfront, hr, land_add, Cursor.bytes_append, ← Nat.add_assoc]
  cases r with
  | ok s => simp [Except.map, Except.mapError]
  | error f => rfl

/-- An escape that cannot be read ends the text. -/
theorem spells_of_error {cs : List Char} {f : Fault}
    (h : ∀ offset rest, readEscape ⟨offset, cs ++ '"' :: rest⟩ = .error (f.later offset)) :
    Spells ('\\' :: cs) none := by
  refine ⟨.error (f.later 1), rfl, fun acc offset rest => ?_⟩
  rw [List.cons_append, readTextBody, h]
  exact land_add (α := List Char) (.error f) offset 1 ⟨0, []⟩

/-! ### Numbered escapes -/

section Units

variable {ds : List Char} {n : Nat}

theorem skip_unit (hlength : ds.length = 4) (h : fourHex? ds = some n) (offset : Nat)
    (rest : List Char) : Cursor.skip ⟨offset, 'u' :: (ds ++ rest)⟩ 5 = ⟨offset + 5, rest⟩ := by
  have hskip := Cursor.skip_append offset ('u' :: ds) rest
  rw [List.length_cons, hlength, Cursor.bytes_cons, bytes_of_fourHex? hlength h] at hskip
  exact hskip

/-- The number of a unit decides what its escape is read as. -/
theorem readEscape_unit (hlength : ds.length = 4) (h : fourHex? ds = some n) (offset : Nat)
    (rest : List Char) :
    readEscape ⟨offset, 'u' :: (ds ++ rest)⟩ =
      if isLowHalf n then .error ⟨.brokenPair, offset + 5⟩
      else if isHighHalf n then
        (readLowHalf n ⟨offset + 5, rest⟩).map fun whole => (whole, 11)
      else .ok (Char.ofNat n, 5) := by
  have hfour : readFourHex (Cursor.skip ⟨offset, 'u' :: (ds ++ rest)⟩ 1) = .ok n := by
    rw [Cursor.skip_one, readFourHex, fourHex?_append hlength, h]
  have hskip := skip_unit hlength h offset rest
  simp only [readEscape, hfour, hskip, bind, Except.bind, Cursor.failHere]
  split
  · rfl
  · split
    · cases readLowHalf n ⟨offset + 5, rest⟩ <;> rfl
    · rfl

/-- A second unit decides whether it makes a pair with the first. -/
theorem readLowHalf_unit (high : Nat) (hlength : ds.length = 4) (h : fourHex? ds = some n)
    (offset : Nat) (rest : List Char) :
    readLowHalf high ⟨offset, '\\' :: 'u' :: (ds ++ rest)⟩ =
      if isLowHalf n then .ok (joinPair high n) else .error ⟨.brokenPair, offset + 6⟩ := by
  have hfour : readFourHex (Cursor.skip ⟨offset, '\\' :: 'u' :: (ds ++ rest)⟩ 2) = .ok n := by
    rw [Cursor.skip, readFourHex, List.drop_succ_cons, List.drop_succ_cons, List.drop_zero,
      fourHex?_append hlength, h]
  have hskip := Cursor.skip_append offset ('\\' :: 'u' :: ds) rest
  rw [List.length_cons, List.length_cons, hlength, Cursor.bytes_cons, Cursor.bytes_cons,
    bytes_of_fourHex? hlength h] at hskip
  rw [readLowHalf]
  simp only [hfour, bind, Except.bind, Cursor.failHere]
  split
  · rfl
  · exact congrArg (fun c : Cursor => Except.error (Fault.mk .brokenPair c.offset)) hskip

/-- Without another unit behind it, the first half of a pair is a fault. -/
theorem readLowHalf_ne (high : Nat) {d : Char} (hd : d ≠ '\\') (offset : Nat) (rest : List Char) :
    readLowHalf high ⟨offset, d :: rest⟩ = .error ⟨.halfPair, offset + 1⟩ := by
  simp [readLowHalf, hd, Cursor.failNext]

theorem readLowHalf_short (high : Nat) {e : Char} (he : e ≠ 'u') (offset : Nat)
    (rest : List Char) :
    readLowHalf high ⟨offset, '\\' :: e :: rest⟩ = .error ⟨.halfPair, offset + 2⟩ := by
  have hback : '\\'.utf8Size = 1 := rfl
  simp [readLowHalf, Cursor.failNext, hback]

/-- Only a unit can be the second half of a pair. -/
theorem exists_readLowHalf (high : Nat) {ps : List Piece}
    (hother : ∀ ds low hlength h rest, ps ≠ .unit ds low hlength h :: rest) :
    ∃ n, ∀ offset rest, readLowHalf high ⟨offset, ps.flatMap Piece.chars ++ '"' :: rest⟩ =
      .error ⟨.halfPair, offset + n⟩ := by
  cases ps with
  | nil => exact ⟨1, fun offset rest => readLowHalf_ne high (by decide) offset rest⟩
  | cons p ps =>
    cases p with
    | plain c hcontrol hquote hback =>
      exact ⟨1, fun offset rest => readLowHalf_ne high hback offset _⟩
    | short e c h =>
      exact ⟨2, fun offset rest => readLowHalf_short high (spec_of_shortEscape? h).1 offset _⟩
    | unit ds low hlength h => exact absurd rfl (hother ds low hlength h ps)

end Units

theorem flatMap_unit (ds : List Char) (n : Nat) (hlength : ds.length = 4)
    (h : fourHex? ds = some n) (ps : List Piece) :
    (Piece.unit ds n hlength h :: ps).flatMap Piece.chars =
      '\\' :: 'u' :: (ds ++ ps.flatMap Piece.chars) := rfl

/-- The pieces of a text are read alike wherever they stand, and what they are read as is what they
stand for. -/
theorem spells_chars (ps : List Piece) : Spells (ps.flatMap Piece.chars) (Piece.decode? ps) := by
  fun_induction Piece.decode? ps with
  | case1 => exact spells_nil
  | case2 c hcontrol hquote hback ps ih =>
    refine ih.append fun acc offset rest => ?_
    rw [Piece.chars, List.singleton_append, readTextBody]
    · rw [if_neg (by omega)]
      rfl
    · exact hquote
    · exact hback
  | case3 e c h ps ih =>
    obtain ⟨hu, hone⟩ := spec_of_shortEscape? h
    exact ih.append fun acc offset rest =>
      readTextBody_escape acc offset (readEscape_short hu h _ rest) rfl
        (by rw [Cursor.bytes_cons, hone]; rfl)
  | case4 ds n hlength h ps hlow =>
    rw [flatMap_unit]
    refine spells_of_error (f := ⟨.brokenPair, 5⟩) fun offset rest => ?_
    rw [List.cons_append, List.append_assoc, readEscape_unit hlength h, if_pos hlow]
    rfl
  | case5 ds n hlength h hlow hhigh ds' low hlength' h' ps hlow' ih =>
    -- both halves of the pair make one character, so they are taken off together
    have hform :
        (Piece.unit ds n hlength h :: .unit ds' low hlength' h' :: ps).flatMap Piece.chars =
          '\\' :: ('u' :: (ds ++ '\\' :: 'u' :: ds')) ++ ps.flatMap Piece.chars := by
      rw [flatMap_unit, flatMap_unit]
      simp
    rw [hform]
    refine ih.append fun acc offset rest => readTextBody_escape acc offset (n := 11) ?_ ?_ ?_
    · rw [List.cons_append, List.append_assoc, readEscape_unit hlength h, if_neg hlow,
        if_pos hhigh, List.cons_append, List.cons_append, readLowHalf_unit n hlength' h',
        if_pos hlow']
      rfl
    · simp [hlength, hlength']
    · simp [bytes_of_fourHex? hlength h, bytes_of_fourHex? hlength' h']
      rfl
  | case6 ds n hlength h hlow hhigh ds' low hlength' h' ps hlow' =>
    rw [flatMap_unit, flatMap_unit]
    refine spells_of_error (f := ⟨.brokenPair, 11⟩) fun offset rest => ?_
    rw [List.cons_append, List.append_assoc, readEscape_unit hlength h, if_neg hlow, if_pos hhigh,
      List.cons_append, List.cons_append, List.append_assoc, readLowHalf_unit n hlength' h',
      if_neg hlow']
    rfl
  | case7 ds n hlength h ps hlow hhigh hother =>
    obtain ⟨k, hk⟩ := exists_readLowHalf n fun ds low hlength h rest heq =>
      hother ds low hlength h rest heq
    rw [flatMap_unit]
    refine spells_of_error (f := ⟨.halfPair, 5 + k⟩) fun offset rest => ?_
    rw [List.cons_append, List.append_assoc, readEscape_unit hlength h, if_neg hlow, if_pos hhigh,
      hk, Nat.add_assoc]
    rfl
  | case8 ds n hlength h ps hlow hhigh ih =>
    refine ih.append fun acc offset rest => readTextBody_escape acc offset (n := 5) ?_ ?_ ?_
    · rw [List.cons_append, readEscape_unit hlength h, if_neg hlow, if_neg hhigh]
    · rw [List.length_cons, hlength]
    · rw [Cursor.bytes_cons, bytes_of_fourHex? hlength h]
      rfl

theorem exists_land_quoted (ps : List Piece) :
    ∃ r : Except Fault (List Char), r.toOption = Piece.decode? ps ∧ ∀ offset rest,
      readTextBody [] (offset + 1) (ps.flatMap Piece.chars ++ '"' :: rest) =
        land r offset ⟨offset + Cursor.bytes (quoted ps), rest⟩ := by
  obtain ⟨r, hr, hread⟩ := spells_chars ps
  refine ⟨r.mapError (Fault.later 1), by rw [← hr]; cases r <;> rfl, fun offset rest => ?_⟩
  have hsame : r.map (List.reverse [] ++ ·) = r := by cases r <;> rfl
  have hbytes : Cursor.bytes (quoted ps) = 1 + Cursor.bytes (ps.flatMap Piece.chars) + 1 := by
    rw [quoted, List.cons_append, Cursor.bytes_cons, Cursor.bytes_append, ← Nat.add_assoc]
    rfl
  rw [hread, hsame, land_add, hbytes, Nat.add_assoc, Nat.add_assoc, Nat.add_assoc]

/-! ## Values of the wrong type -/

/-- A word is told once it has been read. -/
theorem failOnType_word {expected : String} {first : Char} {word : List Char} {found : Found}
    (hone : first.utf8Size = 1)
    (h : ∀ offset rest, (failOnType expected ⟨offset, first :: (word ++ rest)⟩ :
      Except Fault (α × Cursor)) = readWord word ⟨offset + 1, word ++ rest⟩ >>= fun r =>
        r.2.failHere (.wrongType found expected)) :
    Settles (failOnType expected : Reader α) (first :: word)
      (.error ⟨.wrongType found expected, Cursor.bytes (first :: word)⟩) := by
  intro offset rest _
  rw [List.cons_append, h, readWord_append, Cursor.bytes_cons, hone, Nat.add_assoc]
  rfl

/-- A value that is read and then told is a fault of the one kind or the other. -/
theorem exists_land_found (r : Except Fault β) (found : β → Found) (expected : String) (n : Nat) :
    ∃ f, ∀ offset rest (behind : Cursor),
      (land r offset ⟨offset + n, rest⟩ >>= fun p =>
        (p.2.failHere (.wrongType (found p.1) expected) : Except Fault (α × Cursor))) =
          land (.error f) offset behind := by
  cases r with
  | ok x => exact ⟨⟨.wrongType (found x) expected, n⟩, fun _ _ _ => rfl⟩
  | error f => exact ⟨f, fun _ _ _ => rfl⟩

theorem failOnType_digit (expected : String) {d : Char} (hd : d.isDigit = true) (offset : Nat)
    (rest : List Char) :
    (failOnType expected ⟨offset, d :: rest⟩ : Except Fault α) =
      readNumber false ⟨offset, d :: rest⟩ >>= fun p =>
        p.2.failHere (.wrongType p.1.found expected) := by
  rw [failOnType]
  dsimp only
  split
  iterate 7 · next heq => exact absurd (List.cons.inj heq).1 (ne_of_isDigit hd rfl)
  · next heq =>
    obtain rfl := (List.cons.inj heq).1
    rw [if_pos hd]
  · next heq => cases heq

/-- Why a value has the wrong type depends on the value alone. -/
theorem exists_settles_failOnType (expected : String) {v : List Char} (h : IsValue v) :
    ∃ f, Settles (failOnType expected : Reader α) v (.error f) := by
  cases h with
  | null => exact ⟨_, failOnType_word rfl fun _ _ => rfl⟩
  | yes => exact ⟨_, failOnType_word rfl fun _ _ => rfl⟩
  | no => exact ⟨_, failOnType_word rfl fun _ _ => rfl⟩
  -- a number or a text is read before it is told, and a fault in it comes first
  | number h =>
    obtain ⟨r, hr⟩ := exists_settles_readNumber false h
    obtain ⟨f, hf⟩ := exists_land_found (α := α) r Number.found expected (Cursor.bytes v)
    obtain ⟨d, ds, rfl, hd⟩ := h.exists_cons
    refine ⟨f, fun offset rest hrest => ?_⟩
    rw [List.cons_append, failOnType_digit expected hd, ← List.cons_append, hr _ _ hrest]
    exact hf _ _ _
  | @negative cs h =>
    obtain ⟨r, hr⟩ := exists_settles_readNumber true h
    obtain ⟨f, hf⟩ := exists_land_found (α := α) r Number.found expected (Cursor.bytes cs)
    refine ⟨f.later 1, fun offset rest hrest => ?_⟩
    have hstep : (failOnType expected ⟨offset, '-' :: (cs ++ rest)⟩ : Except Fault (α × Cursor)) =
        readNumber true ⟨offset + 1, cs ++ rest⟩ >>= fun p =>
          p.2.failHere (.wrongType p.1.found expected) := rfl
    rw [List.cons_append, hstep, hr _ _ hrest, hf _ _ ⟨offset, rest⟩, land_add]
    rfl
  | text ps =>
    obtain ⟨r, -, hr⟩ := exists_land_quoted ps
    obtain ⟨f, hf⟩ := exists_land_found (α := α) r (fun s => .text (String.ofList s)) expected
      (Cursor.bytes (quoted ps))
    refine ⟨f, fun offset rest hrest => ?_⟩
    have hstep : (failOnType expected
        ⟨offset, '"' :: (ps.flatMap Piece.chars ++ '"' :: rest)⟩ : Except Fault (α × Cursor)) =
          readTextBody [] (offset + 1) (ps.flatMap Piece.chars ++ '"' :: rest) >>= fun p =>
            p.2.failHere (.wrongType (.text (String.ofList p.1)) expected) := rfl
    rw [quoted_append, hstep, hr]
    exact hf _ _ _
  | list items last _ => exact ⟨⟨.wrongType .list expected, 0⟩, fun _ _ _ => rfl⟩
  | object entries last _ => exact ⟨⟨.wrongType .object expected, 0⟩, fun _ _ _ => rfl⟩

/-! ## Readers -/

/-- Blanks before a value count for nothing but their length. -/
def SkipsBlanks (reader : Reader α) : Prop :=
  ∀ (b : Blanks) (offset : Nat) (rest : List Char),
    reader ⟨offset, b.chars ++ rest⟩ = reader ⟨offset + Cursor.bytes b.chars, rest⟩

theorem skipsBlanks_readFloat : SkipsBlanks readFloat := fun b offset rest => by
  rw [readFloat, b.skipBlanks_append, readFloat]

theorem skipsBlanks_readText : SkipsBlanks readText := fun b offset rest => by
  rw [readText, b.skipBlanks_append, readText]

theorem skipsBlanks_readMap (value : Reader α) : SkipsBlanks (readMap value) :=
  fun b offset rest => by rw [readMap, b.skipBlanks_append, readMap]

/-- What is read behind blanks comes later by their length. -/
theorem Settles.blanks {reader : Reader α} {v : List Char} {r : Except Fault α}
    (h : Settles reader v r) (hskip : SkipsBlanks reader) (b : Blanks) :
    Settles reader (b.chars ++ v) (r.mapError (Fault.later (Cursor.bytes b.chars))) := by
  intro offset rest hrest
  rw [List.append_assoc, hskip, h _ _ hrest, land_add, Cursor.bytes_append, Nat.add_assoc]

/-- What a reader of numbers makes of a value depends on the value alone. -/
theorem exists_settles_readFloat {v : List Char} (h : IsValue v) : ∃ r, Settles readFloat v r := by
  obtain ⟨f, hf⟩ : ∃ f, Settles (failOnType "f64" : Reader Float) v (.error f) :=
    exists_settles_failOnType "f64" h
  cases h with
  | number h =>
    obtain ⟨r, hr⟩ := exists_settles_readNumber false h
    obtain ⟨d, ds, rfl, hd⟩ := h.exists_cons
    refine ⟨r.map Number.toFloat, fun offset rest hrest => ?_⟩
    have hstep : readFloat ⟨offset, d :: (ds ++ rest)⟩ =
        readNumber false ⟨offset, d :: (ds ++ rest)⟩ >>= fun p => .ok (p.1.toFloat, p.2) := by
      rw [readFloat, Cursor.skipBlanks_cons _ _ (isBlank_of_isDigit hd)]
      dsimp only
      split
      · next heq => cases heq
      · next heq => exact absurd (List.cons.inj heq).1 (ne_of_isDigit hd rfl)
      · next heq =>
        obtain rfl := (List.cons.inj heq).1
        rw [if_pos hd]
    rw [List.cons_append, hstep, ← List.cons_append, hr _ _ hrest]
    cases r <;> rfl
  | @negative cs h =>
    obtain ⟨r, hr⟩ := exists_settles_readNumber true h
    refine ⟨(r.mapError (Fault.later 1)).map Number.toFloat, fun offset rest hrest => ?_⟩
    have hstep : readFloat ⟨offset, '-' :: (cs ++ rest)⟩ =
        readNumber true ⟨offset + 1, cs ++ rest⟩ >>= fun p => .ok (p.1.toFloat, p.2) := rfl
    rw [List.cons_append, hstep, hr _ _ hrest, land_add, Cursor.bytes_cons, Nat.add_assoc]
    cases r <;> rfl
  | _ => exact ⟨.error f, hf⟩

/-- What a reader of texts makes of a value depends on the value alone. -/
theorem exists_settles_readText {v : List Char} (h : IsValue v) : ∃ r, Settles readText v r := by
  obtain ⟨f, hf⟩ : ∃ f, Settles (failOnType "a string" : Reader String) v (.error f) :=
    exists_settles_failOnType "a string" h
  cases h with
  | number h =>
    obtain ⟨d, ds, rfl, hd⟩ := h.exists_cons
    refine ⟨.error f, fun offset rest hrest => ?_⟩
    rw [← hf offset rest hrest, List.cons_append, readText,
      Cursor.skipBlanks_cons _ _ (isBlank_of_isDigit hd)]
    dsimp only
    split
    · next heq => cases heq
    · next heq => exact absurd (List.cons.inj heq).1 (ne_of_isDigit hd rfl)
    · rfl
  | text ps =>
    obtain ⟨r, -, hr⟩ := exists_land_quoted ps
    refine ⟨r.map String.ofList, fun offset rest _ => ?_⟩
    have hstep : readText ⟨offset, '"' :: (ps.flatMap Piece.chars ++ '"' :: rest)⟩ =
        readTextBody [] (offset + 1) (ps.flatMap Piece.chars ++ '"' :: rest) >>= fun p =>
          .ok (String.ofList p.1, p.2) := rfl
    rw [quoted_append, hstep, hr]
    cases r <;> rfl
  | _ => exact ⟨.error f, hf⟩

/-! ## Whole texts -/

/-- The whole text, blanks at both ends, is read as what its reader settles on. -/
theorem decode_of_settles {reader : Reader α} {text : List Char} {r : Except Fault α}
    (h : Settles reader text r) (hskip : SkipsBlanks reader) (front back : Blanks) :
    decode reader (String.ofList (front.chars ++ (text ++ back.chars))) =
      r.mapError (Fault.later (Cursor.bytes front.chars)) := by
  have hends : Ends back.chars := by
    have h := ends_blanks_append back ends_nil
    rwa [List.append_nil] at h
  rw [decode, Cursor.start, String.toList_ofList, hskip, h _ _ hends, land_add]
  cases r with
  | ok x =>
    have hrest : back.chars.dropWhile Cursor.isBlank = [] :=
      List.dropWhile_eq_nil_iff.2 back.isBlank
    simp [land, Except.mapError, Cursor.skipBlanks, hrest, bind, Except.bind]
  | error f => simp [land, Except.mapError, Fault.later, bind, Except.bind]

/-- Without blanks, the result is the one that the reader settles on. -/
theorem decode_eq_of_settles {reader : Reader α} {v : List Char} {r : Except Fault α}
    (h : Settles reader v r) (hskip : SkipsBlanks reader) :
    decode reader (String.ofList v) = r := by
  have hdecode := decode_of_settles h hskip .none .none
  rwa [Blanks.chars_none, List.nil_append, List.append_nil, Cursor.bytes_nil,
    mapError_later_zero] at hdecode

/-- What a reader settles on is what it decodes the value to. -/
theorem settles_of_decode {reader : Reader α} {v : List Char} {r : Except Fault α}
    (h : ∃ r, Settles reader v r) (hskip : SkipsBlanks reader)
    (hr : decode reader (String.ofList v) = r) : Settles reader v r := by
  obtain ⟨r', hr'⟩ := h
  rwa [← hr, decode_eq_of_settles hr' hskip]

end RateHerald.Json
