import RateHerald.Proofs.Decimal.Finite
import RateHerald.Proofs.Json.Mapping
import RateHerald.Proofs.Results

/-!
# Numbers that are read are finite

A number in JSON has no name, and one that is too large is refused: its digits fit in a word, and
the word is multiplied by a power of ten, which comes to infinity or to a finite number, or divided
by one in several steps. What a reader gives is carried through records and maps, whatever else they
hold and in whatever order.

## Main declarations

* `Yields` says what the results of a reader have in common.
* `yields_readFloat`: a number that is read is finite.
* `yields_readMap`, `Shape.yields_read` and `gives_decode`: maps, records and whole texts.
-/

namespace RateHerald.Json

open Decimal

variable {σ α β : Type} {P : α → Prop}

/-- What is read has a property, wherever the reader begins. -/
def Yields (P : α → Prop) (reader : Reader α) : Prop :=
  ∀ c, Gives (fun r => P r.1) (reader c)

/-! ## Numbers -/

/-- The powers of ten are finite, and from ten on they are two or more. -/
theorem magnitude?_powerOfTen :
    ∀ k ≤ 308, ∃ d ∈ magnitude? (powerOfTen k), (min k 1 : Nat) ≤ d := by
  decide +kernel

theorem isFinite_powerOfTen {k : Nat} (hk : k ≤ 308) : (powerOfTen k).isFinite = true := by
  obtain ⟨d, hd, -⟩ := magnitude?_powerOfTen k hk
  exact isFinite_of_magnitude? hd

theorem isFinite_div_powerOfTen {x : Float} (hx : x.isFinite = true) {k : Nat} (hk : k ≤ 308)
    (hpos : 1 ≤ k) : (x / powerOfTen k).isFinite = true := by
  obtain ⟨d, hd, hle⟩ := magnitude?_powerOfTen k hk
  rw [Nat.min_eq_right hpos] at hle
  exact (isWithin_div (isWithin_iff_isFinite.2 hx) hd (by omega : (971 : Int) < 971 + d) (by decide)
    (by decide)).isFinite (by decide)

/-- A finite number is scaled to a finite one, or the result is too large. -/
theorem isFinite_of_scale? {x y : Float} {e : Int} (hx : x.isFinite = true)
    (h : scale? x e = some y) : y.isFinite = true := by
  fun_induction scale? x e with
  | case1 => cases h
  | case2 x e hnonneg hle z hfinite =>
    obtain rfl := Option.some.inj h
    exact isFinite_mul hx (isFinite_powerOfTen (by omega)) (Bool.not_eq_true _ ▸ hfinite)
  | case3 x e hnonneg hlarge hzero =>
    obtain rfl := Option.some.inj h
    exact hx
  | case4 => cases h
  | case5 x e hneg hle =>
    obtain rfl := Option.some.inj h
    exact isFinite_div_powerOfTen hx (by omega) (by omega)
  | case6 x e hneg hsmall hzero =>
    obtain rfl := Option.some.inj h
    exact hx
  | case7 x e hneg hsmall hne ih =>
    exact ih (isFinite_div_powerOfTen hx le_rfl (by decide)) h

theorem isFinite_toFloat (n : UInt64) : n.toFloat.isFinite = true :=
  (isWithin_toFloat n).isFinite (by decide)

/-- The number is finite. -/
def Number.IsFinite (n : Number) : Prop :=
  n.toFloat.isFinite = true

theorem gives_assemble (minus : Bool) (word : Nat) (e : Int) (c : Cursor) :
    Gives (fun r => Number.IsFinite r.1) (assemble minus word e c) := by
  rw [assemble]
  split
  · next x hx =>
    have hfinite := isFinite_of_scale? (isFinite_toFloat _) hx
    cases minus with
    | false => exact hfinite
    | true => exact isFinite_neg.trans hfinite
  · trivial

theorem isFinite_zero (minus : Bool) : Number.IsFinite (.float (if minus then -0.0 else 0.0)) := by
  cases minus <;> rfl

theorem gives_readExponent (minus : Bool) (word : Nat) (e : Int) (c : Cursor) :
    Gives (fun r => Number.IsFinite r.1) (readExponent minus word e c) := by
  rw [readExponent]
  dsimp only
  split
  · trivial
  · split
    · trivial
    · split
      · have hsmall : ∀ (large : Prop) [Decidable large] (c c' : Cursor),
            Gives (fun r => Number.IsFinite r.1) (if large then c.failHere .numberTooLarge
              else .ok (.float (if minus then -0.0 else 0.0), c')) := fun large _ c c' => by
          split
          · trivial
          · exact isFinite_zero minus
        exact hsmall _ _ _
      · exact gives_assemble _ _ _ _

theorem gives_readFraction (minus : Bool) (word : Nat) (e : Int) (c : Cursor) :
    Gives (fun r => Number.IsFinite r.1) (readFraction minus word e c) := by
  rw [readFraction]
  dsimp only
  split
  · trivial
  · split
    · exact gives_readExponent _ _ _ _
    · exact gives_assemble _ _ _ _

/-- A number after its sign is finite. -/
theorem yields_readNumber (minus : Bool) : Yields Number.IsFinite (readNumber minus) := by
  intro c
  rw [readNumber]
  split
  · trivial
  · split
    · trivial
    · split
      · trivial
      · dsimp only
        split
        · exact gives_readFraction _ _ _ _
        · split
          · exact gives_readExponent _ _ _ _
          · split
            · exact gives_assemble _ _ _ _
            · split
              · exact isFinite_toFloat _
              · split
                · exact isFinite_neg.trans (isFinite_toFloat _)
                · exact isFinite_neg.trans (isFinite_toFloat _)

theorem gives_failOnType {α : Type} {P : α → Prop} (expected : String) (c : Cursor) :
    Gives P (failOnType expected c) := by
  obtain ⟨f, hf⟩ : ∃ f, (failOnType expected c : Except Fault α) = .error f :=
    exists_failOnType expected c
  rw [hf]
  trivial

/-- A number that is read is finite. -/
theorem yields_readFloat : Yields (fun x => x.isFinite = true) readFloat := by
  intro c
  rw [readFloat]
  dsimp only
  split
  · trivial
  · exact (yields_readNumber true _).bind fun r hr => hr
  · split
    · exact (yields_readNumber false _).bind fun r hr => hr
    · exact gives_failOnType _ _

/-! ## Records and maps -/

/-- What every member leaves as it is, the members of an object leave as it is. -/
theorem yields_readMembers {Inv : σ → Prop} {member : σ → String → Reader σ}
    (hmember : ∀ s key, Inv s → Yields Inv (member s key)) (fuel : Nat) (isFirst : Bool) {s : σ}
    (hs : Inv s) : Yields Inv (readMembers member fuel isFirst s) := by
  induction fuel generalizing isFirst s with
  | zero => exact fun c => hs
  | succ fuel ih =>
    intro c
    rw [readMembers]
    refine gives_any.bind fun r _ => ?_
    obtain ⟨more, c⟩ := r
    dsimp only
    split
    · refine gives_any.bind fun body _ => ?_
      exact (hmember s _ hs _).bind fun r hr => ih false hr _
    · exact hs

/-- A map holds only values that the reader of values gives. -/
theorem yields_readMap {value : Reader α} (h : Yields P value) :
    Yields (fun members => ∀ m ∈ members, P m.2) (readMap value) := by
  intro c
  rw [readMap]
  dsimp only
  split
  · trivial
  · refine (yields_readMembers (fun (members : List (String × α)) key
      (hmembers : ∀ m ∈ members, P m.2) c => ?_) _ _ (List.forall_mem_nil _) _).bind fun r hr => hr
    refine gives_any.bind fun c _ => (h c).bind fun r hr => List.forall_mem_append.2 ⟨?_, ?_⟩
    · exact fun m hm => hmembers m (List.mem_filter.1 hm).1
    · simpa using hr
  · exact gives_failOnType _ _

namespace Shape

variable {shape : Shape σ α} {Inv : σ → Prop}

theorem yields_member (hfields : ∀ field ∈ shape.fields, ∀ s, Inv s → Yields Inv (field.read s))
    (s : σ) (key : String) (hs : Inv s) : Yields Inv (shape.member s key) := by
  intro c
  rw [member]
  split
  · next field hfield =>
    split
    · trivial
    · refine gives_any.bind fun c _ => ?_
      exact hfields field (List.mem_of_find?_eq_some hfield) s hs c
  · exact gives_any.bind fun c _ => gives_any.bind fun c _ => hs

theorem yields_readElements
    (hfields : ∀ field ∈ shape.fields, ∀ s, Inv s → Yields Inv (field.read s))
    {fields : List (Field σ)} (hsub : fields ⊆ shape.fields) (index : Nat) (isFirst : Bool) {s : σ}
    (hs : Inv s) : Yields Inv (shape.readElements fields index isFirst s) := by
  induction fields generalizing index isFirst s with
  | nil => exact fun c => hs
  | cons field fields ih =>
    obtain ⟨hfield, hsub⟩ := List.cons_subset.1 hsub
    intro c
    rw [readElements]
    refine gives_any.bind fun r _ => ?_
    obtain ⟨more, c⟩ := r
    dsimp only
    split
    · exact (hfields field hfield s hs _).bind fun r hr => ih hsub _ _ hr _
    · split
      · trivial
      · exact ih hsub _ _ hs _

/-- Whatever the partial record satisfies from the beginning and after every field, the record is
made from a partial record that does. -/
theorem yields_read (Inv : σ → Prop) (hempty : Inv shape.empty)
    (hfields : ∀ field ∈ shape.fields, ∀ s, Inv s → Yields Inv (field.read s))
    (hfinish : ∀ s x, Inv s → shape.finish s = some x → P x) : Yields P shape.read := by
  have hcomplete : ∀ s c, Inv s → Gives (fun r => P r.1) (shape.complete s c) := fun s c hs => by
    rw [complete]
    split
    · next x hx => exact hfinish s x hs hx
    · trivial
  intro c
  rw [Shape.read]
  dsimp only
  split
  · trivial
  · refine (yields_readElements hfields (List.Subset.refl _) _ _ hempty _).bind fun r hr => ?_
    exact gives_any.bind fun c _ => hcomplete _ _ hr
  · refine (yields_readMembers (yields_member hfields) _ _ hempty _).bind fun r hr => ?_
    exact hcomplete _ _ hr
  · exact gives_failOnType _ _

end Shape

theorem gives_decode {reader : Reader α} (h : Yields P reader) (text : String) :
    Gives P (decode reader text) := by
  rw [decode]
  refine (h _).bind fun r hr => ?_
  dsimp only
  split
  · exact hr
  · trivial

end RateHerald.Json
