import RateHerald.Proofs.Json.Objects

/-!
# A value inside objects

An answer holds the value that matters below one or two names, among members that do not. Records of
one field lead a reader down these names, so what a whole text is read as is what the value is read
as by itself. Two texts that hold the same value below the same names are read alike, and in
particular a text is read like the one in which the value stands alone.

## Main declarations

* `Embeds` says that a text holds a value below some names; `alone` is the text with nothing else.
* `embeds_alone`: a value that stands alone is held below its names.
* `Descends` says that a reader goes down some names, and `Descends.decode_eq` what it comes to.
-/

namespace RateHerald.Json

variable {α : Type}

/-! ## Written texts are texts -/

namespace Piece

/-- The piece by which a character is written. -/
def ofChar (c : Char) : Piece :=
  if hquote : c = '"' then .short '"' c (by rw [hquote]; rfl)
  else if hback : c = '\\' then .short '\\' c (by rw [hback]; rfl)
  else if h : c.toNat = 8 then .short 'b' c (by rw [← Char.ofNat_toNat c, h]; rfl)
  else if h : c.toNat = 12 then .short 'f' c (by rw [← Char.ofNat_toNat c, h]; rfl)
  else if h : c = '\n' then .short 'n' c (by rw [h]; rfl)
  else if h : c = '\r' then .short 'r' c (by rw [h]; rfl)
  else if h : c = '\t' then .short 't' c (by rw [h]; rfl)
  else if h : c.toNat < 0x20 then
    .unit (fourHex c.toNat) c.toNat (fourHex_spec _ h).2.1 (fourHex_spec _ h).1
  else .plain c (Nat.le_of_not_lt h) hquote hback

theorem chars_ofChar (c : Char) : (ofChar c).chars = escapeChar c := by
  simp only [ofChar, escapeChar]
  split_ifs <;> rfl

theorem decode?_ofChar (c : Char) (ps : List Piece) :
    decode? (ofChar c :: ps) = (decode? ps).map (c :: ·) := by
  rw [ofChar]
  split_ifs with _ _ _ _ _ _ _ h
  iterate 7 · rfl
  · obtain ⟨hlow, hhigh⟩ := halves_spec c.toNat h
    conv_lhs => rw [decode?.eq_def]
    simp [hlow, hhigh]
  · rfl

end Piece

/-- The pieces by which a name is written. -/
def piecesOf (name : String) : List Piece :=
  name.toList.map Piece.ofChar

theorem quoted_piecesOf (name : String) : quoted (piecesOf name) = quote name := by
  rw [quoted, quote, piecesOf, List.flatMap_map]
  simp only [Piece.chars_ofChar]

theorem decode?_piecesOf (name : String) : Piece.decode? (piecesOf name) = some name.toList := by
  rw [piecesOf]
  induction name.toList with
  | nil => rfl
  | cons c cs ih => rw [List.map_cons, Piece.decode?_ofChar, ih, Option.map_some]

/-- A member in compact form. -/
def Entry.compact (name : String) (v : List Char) : Entry :=
  ⟨⟨.none, v, .none⟩, .none, piecesOf name, .none⟩

theorem Entry.name?_compact (name : String) (v : List Char) :
    (Entry.compact name v).name? = some name := by
  rw [name?, compact, decode?_piecesOf, Option.map_some, String.ofList_toList]

/-- A member in compact form is another member than those of a different name. -/
theorem Entry.compact_ne {other name : String} {v : List Char} (hv : IsValue v)
    (hne : other ≠ name) : IsValue (Entry.compact other v).value ∧
      ∃ other', (Entry.compact other v).name? = some other' ∧ other' ≠ name :=
  ⟨hv, other, name?_compact other v, hne⟩

/-! ## Texts that hold a value -/

/-- The text holds the value below the names, in one object after another, each of which has other
members only of other names; `before` is what stands before the value. -/
inductive Embeds (v : List Char) : List String → List Char → List Char → Prop
  | here : Embeds v [] [] v
  | member {name : String} {names : List String} {before : List Char} {front back : List Entry}
      {e : Entry} (hname : e.name? = some name) (hvalue : Embeds v names before e.value)
      (hothers : ∀ e' ∈ front ++ back, IsValue e'.value ∧
        ∃ other, e'.name? = some other ∧ other ≠ name) (last : Blanks) :
      Embeds v (name :: names) (charsBefore front e ++ before)
        (objectChars (front ++ e :: back) last)

/-- The text in which the value stands below the names and nothing else. -/
def alone (v : List Char) : List String → List Char
  | [] => v
  | name :: names => '\x7b' :: (quote name ++ ':' :: (alone v names ++ ['\x7d']))

/-- What stands before a value that stands alone. -/
def beforeAlone : List String → List Char
  | [] => []
  | name :: names => '\x7b' :: (quote name ++ ':' :: beforeAlone names)

theorem embeds_alone (v : List Char) (names : List String) :
    Embeds v names (beforeAlone names) (alone v names) := by
  induction names with
  | nil => exact .here
  | cons name names ih =>
    have h : Embeds v (name :: names)
        (charsBefore [] (Entry.compact name (alone v names)) ++ beforeAlone names)
        (objectChars ([] ++ Entry.compact name (alone v names) :: []) .none) :=
      .member (Entry.name?_compact name _) ih (List.forall_mem_nil _) .none
    have hbefore : charsBefore [] (Entry.compact name (alone v names)) ++ beforeAlone names =
        beforeAlone (name :: names) := by
      simp [charsBefore, leadingEntries, Entry.label, Entry.compact, quoted_piecesOf, beforeAlone]
    have htext : objectChars ([] ++ Entry.compact name (alone v names) :: []) .none =
        alone v (name :: names) := by
      simp [objectChars, separated, Entry.chars, Entry.label, Item.chars, Entry.compact,
        quoted_piecesOf, alone]
    rwa [hbefore, htext] at h

/-! ## Readers that go down names -/

/-- The reader goes down the names, one record of one field after another, to a value. -/
inductive Descends (value : Reader α) : List String → Reader α → Prop
  | here : Descends value [] value
  | member {name : String} {names : List String} {reader : Reader α}
      {shape : Shape (Option α) α} (h : shape.IsSingle name reader)
      (hreader : Descends value names reader) : Descends value (name :: names) shape.read

theorem Shape.skipsBlanks_read {σ : Type} (shape : Shape σ α) : SkipsBlanks shape.read :=
  fun b offset rest => by rw [Shape.read, b.skipBlanks_append, Shape.read]

theorem Descends.skipsBlanks {value reader : Reader α} {names : List String}
    (h : Descends value names reader) (hskip : SkipsBlanks value) : SkipsBlanks reader := by
  cases h with
  | here => exact hskip
  | member h hreader => exact Shape.skipsBlanks_read _

/-- What a value is read as by itself is what a text that holds it is read as. -/
theorem Descends.settles {value reader : Reader α} {names : List String} {v before text : List Char}
    (h : Descends value names reader) (hskip : SkipsBlanks value)
    (htext : Embeds v names before text) {r : Except Fault α} (hr : Settles value v r) :
    Settles reader text (r.mapError (Fault.later (Cursor.bytes before))) := by
  induction htext generalizing reader with
  | here =>
    cases h with
    | here => rwa [Cursor.bytes_nil, mapError_later_zero]
  | member hname hvalue hothers last ih =>
    cases h with
    | member hsingle hreader =>
      rw [Cursor.bytes_append, ← mapError_later_later]
      exact hsingle.settles_read (hreader.skipsBlanks hskip) hname hothers (ih hreader) last

/-! ## Whole texts -/

/-- **Reading below names.** A text that holds a value below the names is read as the value is by
itself, and a fault in the value is told at its place in the text. -/
theorem Descends.decode_eq {value reader : Reader α} {names : List String}
    {v before text : List Char} (h : Descends value names reader) (hskip : SkipsBlanks value)
    (htext : Embeds v names before text) (hv : ∃ r, Settles value v r) (front back : Blanks) :
    decode reader (String.ofList (front.chars ++ (text ++ back.chars))) =
      (decode value (String.ofList v)).mapError
        (Fault.later (Cursor.bytes (front.chars ++ before))) := by
  obtain ⟨r, hr⟩ := hv
  rw [decode_of_settles (h.settles hskip htext hr) (h.skipsBlanks hskip),
    decode_eq_of_settles hr hskip, mapError_later_later, Cursor.bytes_append]

end RateHerald.Json
