import Mathlib.Data.List.Forall2
import RateHerald.Json.Record

/-!
# Reading and changing what was read

A reader that changes what another reader reads has the same faults at the same places. If the
fields of two record types correspond, and those of the one change what those of the other read,
then so it is with the records: the partial records go side by side, through an object in whatever
order its members stand, and through a list.

## Main declarations

* `Reader.map` changes what a reader reads.
* `Field.Maps` and `Shape.Maps`: fields and record types that correspond.
* `Shape.Maps.read_eq`: to read a record of the one type is to change one of the other.
* `Shape.ofTwo` and `Shape.read_ofTwo`: records of two fields.
-/

namespace RateHerald.Json

variable {α β σ τ : Type}

/-- The reader with what it reads changed by `g`. -/
def Reader.map (g : α → β) (reader : Reader α) : Reader β := fun c =>
  (reader c).map (Prod.map g id)

theorem Reader.map_id (reader : Reader α) : reader.map id = reader := by
  funext c
  rw [Reader.map]
  rcases reader c with fault | ⟨x, c⟩ <;> rfl

theorem decode_map (g : α → β) (reader : Reader α) (text : String) :
    decode (reader.map g) text = (decode reader text).map g := by
  rw [decode, decode, Reader.map]
  rcases reader (Cursor.start text) with f | ⟨x, c⟩
  · rfl
  · simp only [Except.map, bind, Except.bind, Prod.map_fst, Prod.map_snd, id]
    split <;> rfl

/-! ## Faults -/

theorem eq_ok_of_toOption {ε : Type} {x : Except ε α} {a : α} (h : x.toOption = some a) :
    x = .ok a := by
  cases x with
  | error e => cases h
  | ok b =>
    rw [Except.toOption, Option.some_inj] at h
    rw [h]

theorem map_bind (f : β → σ) (x : Except Fault α) (k : α → Except Fault β) :
    (x >>= k).map f = x >>= fun a => (k a).map f := by
  cases x <;> rfl

/-- Why a value is not the expected one does not depend on what would have been made of it. -/
theorem map_failOnType (f : α → β) (expected : String) (c : Cursor) :
    (failOnType expected c).map f = failOnType expected c := by
  rw [failOnType, failOnType]
  dsimp only
  -- each branch fails at once, or it reads something and then fails
  have hlate := @map_bind
  split <;> first | exact hlate f _ _ | rfl | split
  · exact hlate f _ _
  · rfl

/-- There is always a reason why a value is not the expected one. -/
theorem exists_failOnType (expected : String) (c : Cursor) :
    ∃ f, (failOnType expected c : Except Fault α) = .error f := by
  cases hfail : (failOnType expected c : Except Fault α) with
  | error f => exact ⟨f, rfl⟩
  | ok a =>
    -- what would have been made of the value could be changed, and it could not
    have hsame := map_failOnType (fun _ : α => true) expected c
    have hother := map_failOnType (fun _ : α => false) expected c
    rw [hfail, Except.map] at hsame hother
    cases hsame.trans hother.symm

/-! ## Fields -/

/-- The partial record of the one type tells that of the other by `f`, and the field changes what
the other field reads. -/
structure Field.Maps (f : τ → σ) (raw : Field τ) (field : Field σ) : Prop where
  /-- The fields have one name. -/
  name : field.name = raw.name
  /-- Either both must be given or none. -/
  required : field.required = raw.required
  /-- One has been read when the other has. -/
  isSet : ∀ t, field.isSet (f t) = raw.isSet t
  /-- What is read goes side by side. -/
  read : ∀ t, field.read (f t) = (raw.read t).map f

/-- A field that must be given changes what the other field reads, if its reader does. -/
theorem Field.maps_ofReader {γ : Type} {f : τ → σ} {g : γ → β} (name : String) (reader : Reader γ)
    {get : τ → Option γ} {get' : σ → Option β} {set : τ → γ → τ} {set' : σ → β → σ}
    (hget : ∀ t, get' (f t) = (get t).map g) (hset : ∀ t x, set' (f t) (g x) = f (set t x)) :
    Maps f (.ofReader name reader get set) (.ofReader name (reader.map g) get' set') where
  name := rfl
  required := rfl
  isSet t := by
    dsimp only [Field.ofReader]
    rw [hget, Option.isSome_map]
  read t := by
    funext c
    simp only [Field.ofReader, Reader.map]
    rcases reader c with fault | ⟨x, c'⟩
    · rfl
    · exact congrArg (fun s => Except.ok (s, c')) (hset t x)

variable {f : τ → σ} {raws : List (Field τ)} {fields : List (Field σ)}

/-- The fields that are found by corresponding tests correspond. -/
theorem Field.Maps.find? (h : List.Forall₂ (Field.Maps f) raws fields) {p : Field τ → Bool}
    {q : Field σ → Bool} (hpq : ∀ raw field, Field.Maps f raw field → q field = p raw) :
    (raws.find? p = none ∧ fields.find? q = none) ∨
      ∃ raw field, raws.find? p = some raw ∧ fields.find? q = some field ∧ Maps f raw field := by
  induction h with
  | nil => exact .inl ⟨rfl, rfl⟩
  | @cons raw field raws fields hfield _ ih =>
    rw [List.find?_cons, List.find?_cons, hpq raw field hfield]
    cases p raw with
    | true => exact .inr ⟨raw, field, rfl, rfl, hfield⟩
    | false => exact ih

/-! ## Record types -/

/-- The record types correspond: the partial records go by `f`, and the records by `g`. -/
structure Shape.Maps (f : τ → σ) (g : β → α) (raw : Shape τ β) (shape : Shape σ α) : Prop where
  /-- The types have one name. -/
  name : shape.name = raw.name
  /-- The fields correspond. -/
  fields : List.Forall₂ (Field.Maps f) raw.fields shape.fields
  /-- Nothing has been read in the beginning. -/
  empty : shape.empty = f raw.empty
  /-- The records are complete together. -/
  finish : ∀ t, shape.finish (f t) = (raw.finish t).map g

namespace Shape.Maps

variable {g : β → α} {raw : Shape τ β} {shape : Shape σ α}

theorem describeLength_eq (h : Maps f g raw shape) : shape.describeLength = raw.describeLength := by
  rw [describeLength, describeLength, h.name, h.fields.length_eq]

/-- A member of an object is read side by side. -/
theorem member_eq (h : Maps f g raw shape) (t : τ) (key : String) :
    shape.member (f t) key = (raw.member t key).map f := by
  funext c
  rw [Shape.member, Reader.map, Shape.member]
  rcases Field.Maps.find? h.fields (p := (·.name == key)) (q := (·.name == key))
    (fun _ _ hfield => by rw [hfield.name]) with ⟨hraw, hshape⟩ | ⟨a, b, hraw, hshape, hfield⟩
  · rw [hraw, hshape]
    simp only [map_bind]
    rfl
  · rw [hraw, hshape]
    dsimp only
    rw [hfield.isSet, hfield.read]
    split
    · rfl
    · rw [map_bind]
      rfl

/-- Members that are read side by side are read so up to the end of the object. -/
theorem readMembers_eq {member : τ → String → Reader τ} {member' : σ → String → Reader σ}
    (h : ∀ t key, member' (f t) key = (member t key).map f) (fuel : Nat) (isFirst : Bool) (t : τ) :
    readMembers member' fuel isFirst (f t) = (readMembers member fuel isFirst t).map f := by
  induction fuel generalizing isFirst t with
  | zero => rfl
  | succ fuel ih =>
    funext c
    rw [readMembers, Reader.map, readMembers, map_bind]
    congr 1
    funext ⟨more, c⟩
    cases more with
    | false => rfl
    | true =>
      dsimp only [if_true]
      rw [if_pos rfl, if_pos rfl, map_bind]
      congr 1
      funext ⟨key, c⟩
      dsimp only
      rw [h, Reader.map]
      rcases member t (String.ofList key) c with fault | ⟨t', c⟩
      · rfl
      · exact congrFun (ih false t') c

/-- The fields of a list are read side by side. -/
theorem readElements_eq (h : Maps f g raw shape) {raws : List (Field τ)} {fields : List (Field σ)}
    (hfields : List.Forall₂ (Field.Maps f) raws fields) (index : Nat) (isFirst : Bool) (t : τ) :
    shape.readElements fields index isFirst (f t) =
      (raw.readElements raws index isFirst t).map f := by
  induction hfields generalizing index isFirst t with
  | nil => rfl
  | @cons a b raws fields hab _ ih =>
    funext c
    rw [readElements, Reader.map, readElements, map_bind]
    congr 1
    funext ⟨more, c⟩
    cases more with
    | false =>
      dsimp only
      rw [if_neg Bool.false_ne_true, if_neg Bool.false_ne_true, hab.required, h.describeLength_eq]
      split
      · rfl
      · exact congrFun (ih (index + 1) isFirst t) c
    | true =>
      dsimp only
      rw [if_pos rfl, if_pos rfl, hab.read, Reader.map]
      rcases a.read t c with fault | ⟨t', c⟩
      · rfl
      · exact congrFun (ih (index + 1) false t') c

theorem complete_eq (h : Maps f g raw shape) (t : τ) :
    shape.complete (f t) = (raw.complete t).map g := by
  funext c
  rw [complete, Reader.map, complete, h.finish]
  cases raw.finish t with
  | some x => rfl
  | none =>
    dsimp only [Option.map_none]
    rcases Field.Maps.find? h.fields (p := fun a => a.required && !a.isSet t)
      (q := fun b => b.required && !b.isSet (f t))
      (fun _ _ hfield => by rw [hfield.required, hfield.isSet])
      with ⟨hraw, hshape⟩ | ⟨a, b, hraw, hshape, hfield⟩
    · rw [hraw, hshape]
      rfl
    · rw [hraw, hshape, Option.map_some, Option.map_some, hfield.name]
      rfl

/-- To read a record of the one type is to change one of the other. -/
theorem read_eq (h : Maps f g raw shape) : shape.read = raw.read.map g := by
  have hmembers := readMembers_eq h.member_eq
  have helements := readElements_eq h h.fields 0 true raw.empty
  funext c
  rw [Shape.read, Reader.map, Shape.read]
  dsimp only
  split
  · rfl
  · rw [h.empty, helements, Reader.map, map_bind]
    rcases raw.readElements raw.fields 0 true raw.empty _ with fault | ⟨t, c⟩
    · rfl
    · simp only [Except.map, bind, Except.bind, Prod.map_fst, Prod.map_snd, id]
      rcases closeList c with fault | c
      · rfl
      · exact congrFun (h.complete_eq t) c
  · rw [h.empty, readObjectBody, hmembers, Reader.map, map_bind, readObjectBody]
    rcases readMembers raw.member _ true raw.empty _ with fault | ⟨t, c⟩
    · rfl
    · exact congrFun (h.complete_eq t) (c.skip 1)
  · rw [h.name, map_failOnType]

end Shape.Maps

/-! ## Records of two fields -/

/-- A record of two fields that must be given. -/
def Shape.ofTwo {α₁ α₂ : Type} (name first second : String) (reader₁ : Reader α₁)
    (reader₂ : Reader α₂) (make : α₁ → α₂ → α) : Shape (Option α₁ × Option α₂) α where
  name := name
  fields := [
    .ofReader first reader₁ (·.1) fun s x => (some x, s.2),
    .ofReader second reader₂ (·.2) fun s x => (s.1, some x)]
  empty := (none, none)
  finish := fun s => do
    let x₁ ← s.1
    let x₂ ← s.2
    some (make x₁ x₂)

/-- To change what the readers of both fields read is to change the record. -/
theorem Shape.read_ofTwo {α₁ α₂ β₁ β₂ : Type} {name first second : String} {reader₁ : Reader α₁}
    {reader₂ : Reader α₂} {make : α₁ → α₂ → α} {make' : β₁ → β₂ → β} {g₁ : α₁ → β₁} {g₂ : α₂ → β₂}
    {g : α → β} (hmake : ∀ x₁ x₂, make' (g₁ x₁) (g₂ x₂) = g (make x₁ x₂)) :
    (ofTwo name first second (reader₁.map g₁) (reader₂.map g₂) make').read =
      (ofTwo name first second reader₁ reader₂ make).read.map g := by
  have h : Maps (Prod.map (Option.map g₁) (Option.map g₂)) g
      (ofTwo name first second reader₁ reader₂ make)
      (ofTwo name first second (reader₁.map g₁) (reader₂.map g₂) make') :=
    { name := rfl
      fields := .cons (Field.maps_ofReader _ _ (fun _ => rfl) fun _ _ => rfl) <|
        .cons (Field.maps_ofReader _ _ (fun _ => rfl) fun _ _ => rfl) .nil
      empty := rfl
      finish := fun s => by
        obtain ⟨x₁, x₂⟩ := s
        cases x₁ with
        | none => rfl
        | some x₁ =>
          cases x₂ with
          | none => rfl
          | some x₂ => exact congrArg some (hmake x₁ x₂) }
  exact h.read_eq

end RateHerald.Json
