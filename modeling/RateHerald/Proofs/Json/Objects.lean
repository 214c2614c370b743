import RateHerald.Proofs.Json.Settling

/-!
# Objects member by member

An object is read by a walk through its members, each of which takes the partial record to the next
one or stops at a fault. What comes of a member depends on the member alone, so the walk can be
described without a place: `Walks` is the relation between the members and the result, and reading
an object follows it, whatever blanks stand in it.

A record of one field passes over all members but one. What it is read as is what its field's reader
makes of that member's value, and a fault in that value is told at its place.

## Main declarations

* `Walks` relates members of an object to the result of reading them.
* `readMembers_of_walks`: the walk is what is read.
* `settles_readMap` and `exists_settles_readMap` for maps.
* `Shape.IsSingle.settles_read` for records of one field.
-/

namespace RateHerald.Json

variable {α σ : Type}

/-! ## Members -/

namespace Entry

/-- The member without the blanks around it. -/
def core (e : Entry) : List Char :=
  e.label ++ (e.before.chars ++ e.value)

theorem chars_eq (e : Entry) : e.chars = e.margin.chars ++ (e.core ++ e.after.chars) := by
  simp [chars, core, Item.chars]

theorem bytes_chars (e : Entry) : Cursor.bytes e.chars =
    Cursor.bytes e.margin.chars + (Cursor.bytes e.core + Cursor.bytes e.after.chars) := by
  rw [e.chars_eq, Cursor.bytes_append, Cursor.bytes_append]

theorem core_append (e : Entry) (rest : List Char) :
    e.core ++ rest =
      quoted e.key ++ (e.gap.chars ++ ':' :: (e.before.chars ++ (e.value ++ rest))) := by
  simp [core, label]

end Entry

/-- Reads a member from its key on. -/
def readEntry (member : σ → String → Reader σ) (s : σ) : Reader σ := fun c => do
  let (key, c) ← readTextBody [] (c.offset + 1) (c.rest.drop 1)
  member s (String.ofList key) c

theorem readColon_append (b : Blanks) (offset : Nat) (rest : List Char) :
    readColon ⟨offset, b.chars ++ ':' :: rest⟩ =
      .ok ⟨offset + (Cursor.bytes b.chars + 1), rest⟩ := by
  rw [readColon, b.skipBlanks_append_cons _ _ rfl]
  dsimp only
  rw [Cursor.skip_one]
  rfl

/-- A member whose key is Unicode text is read by what follows its colon. -/
theorem settles_readEntry {member : σ → String → Reader σ} {s : σ} {e : Entry} {name : String}
    (hname : e.name? = some name) {reader : Reader σ}
    (hmember : ∀ c, member s name c = readColon c >>= reader) {r : Except Fault σ}
    (h : Settles reader (e.before.chars ++ e.value) r) :
    Settles (readEntry member s) e.core (r.mapError (Fault.later (Cursor.bytes e.label))) := by
  obtain ⟨cs, hcs, rfl⟩ := Option.map_eq_some_iff.1 hname
  obtain ⟨r', hkey, hread⟩ := exists_land_quoted e.key
  obtain rfl := eq_ok_of_toOption (hkey.trans hcs)
  intro offset rest hrest
  have hbytes : offset + Cursor.bytes (quoted e.key) + (Cursor.bytes e.gap.chars + 1) =
      offset + Cursor.bytes e.label := by
    simp [Entry.label, Nat.add_assoc]
    rfl
  rw [e.core_append, quoted_append, readEntry, List.drop_succ_cons, List.drop_zero, hread]
  simp only [land, bind, Except.bind, hmember, readColon_append]
  rw [hbytes, ← List.append_assoc, h _ _ hrest, land_add, Entry.core, Cursor.bytes_append e.label,
    Nat.add_assoc]
  rfl

/-- The same for a reader that skips the blanks before the value. -/
theorem settles_readEntry_of_value {member : σ → String → Reader σ} {s : σ} {e : Entry}
    {name : String} (hname : e.name? = some name) {reader : Reader σ}
    (hmember : ∀ c, member s name c = readColon c >>= reader) (hskip : SkipsBlanks reader)
    {r : Except Fault σ} (h : Settles reader e.value r) :
    Settles (readEntry member s) e.core
      (r.mapError (Fault.later (Cursor.bytes e.label + Cursor.bytes e.before.chars))) := by
  rw [← mapError_later_later]
  exact settles_readEntry hname hmember (h.blanks hskip e.before)

/-- A member whose key is no Unicode text is not read. -/
theorem exists_settles_readEntry (member : σ → String → Reader σ) (s : σ) {e : Entry}
    (hname : e.name? = none) : ∃ f, Settles (readEntry member s) e.core (.error f) := by
  obtain ⟨r, hkey, hread⟩ := exists_land_quoted e.key
  rw [Option.map_eq_none_iff.1 hname] at hkey
  cases r with
  | ok cs => cases hkey
  | error f =>
    refine ⟨f, fun offset rest _ => ?_⟩
    rw [e.core_append, quoted_append, readEntry, List.drop_succ_cons, List.drop_zero, hread]
    rfl

/-! ## Walks -/

/-- The members are read one by one from a partial record on, to the result, whose place is counted
from the beginning of the first member. -/
inductive Walks (member : σ → String → Reader σ) : σ → List Entry → Except Fault σ → Prop
  | nil (s : σ) : Walks member s [] (.ok s)
  | cons {s s₁ : σ} {e : Entry} {es : List Entry} {r : Except Fault σ}
      (h : Settles (readEntry member s) e.core (.ok s₁)) (hrest : Walks member s₁ es r) :
      Walks member s (e :: es) (r.mapError (Fault.later (Cursor.bytes e.chars + 1)))
  | stop {s : σ} {e : Entry} {es : List Entry} {f : Fault}
      (h : Settles (readEntry member s) e.core (.error f)) :
      Walks member s (e :: es) (.error (f.later (Cursor.bytes e.margin.chars)))

variable {member : σ → String → Reader σ} {s : σ} {es : List Entry} {r : Except Fault σ}

/-- If something comes of every member, something comes of all of them. -/
theorem exists_walks (h : ∀ e ∈ es, ∀ s, ∃ r, Settles (readEntry member s) e.core r) (s : σ) :
    ∃ r, Walks member s es r := by
  induction es generalizing s with
  | nil => exact ⟨_, .nil s⟩
  | cons e es ih =>
    obtain ⟨he, hes⟩ := List.forall_mem_cons.1 h
    obtain ⟨r, hr⟩ := he s
    cases r with
    | ok s₁ =>
      obtain ⟨r, hrest⟩ := ih hes s₁
      exact ⟨_, .cons hr hrest⟩
    | error f => exact ⟨_, .stop hr⟩

/-- Members, each with the comma behind it. -/
def leadingEntries (es : List Entry) : List Char :=
  es.flatMap fun e => e.chars ++ [',']

theorem bytes_leadingEntries_cons (e : Entry) (es : List Entry) :
    Cursor.bytes (leadingEntries (e :: es)) =
      Cursor.bytes e.chars + 1 + Cursor.bytes (leadingEntries es) := by
  have hcomma : ','.utf8Size = 1 := rfl
  rw [leadingEntries, List.flatMap_cons, Cursor.bytes_append, Cursor.bytes_append,
    Cursor.bytes_cons, hcomma, leadingEntries]
  rfl

/-- A walk goes on with further members. -/
theorem Walks.append {s₁ : σ} {es' : List Entry} (h : Walks member s es (.ok s₁))
    (h' : Walks member s₁ es' r) :
    Walks member s (es ++ es')
      (r.mapError (Fault.later (Cursor.bytes (leadingEntries es)))) := by
  generalize hr : (Except.ok s₁ : Except Fault σ) = r₁ at h
  induction h with
  | nil s =>
    cases hr
    rwa [leadingEntries, List.flatMap_nil, Cursor.bytes_nil, mapError_later_zero]
  | @cons s s₂ e es r₂ h hrest ih =>
    cases r₂ with
    | ok s₃ =>
      rw [bytes_leadingEntries_cons, ← mapError_later_later]
      exact .cons h (ih hr)
    | error f => cases hr
  | stop h => cases hr

/-! ## Reading follows the walk -/

/-- The members after the first one, each behind its comma. -/
def moreEntries (es : List Entry) : List Char :=
  es.flatMap fun e => ',' :: e.chars

theorem separated_chars_cons (e : Entry) (es : List Entry) :
    separated ((e :: es).map Entry.chars) = e.chars ++ moreEntries es := by
  rw [List.map_cons, separated_cons, List.flatMap_map, moreEntries]

theorem bytes_moreEntries_cons (e : Entry) (es : List Entry) :
    Cursor.bytes (moreEntries (e :: es)) =
      1 + Cursor.bytes e.chars + Cursor.bytes (moreEntries es) := by
  have hcomma : ','.utf8Size = 1 := rfl
  rw [moreEntries, List.flatMap_cons, Cursor.bytes_append, Cursor.bytes_cons, hcomma, moreEntries]

theorem ends_moreEntries_append (es : List Entry) (last : Blanks) (rest : List Char) :
    Ends (moreEntries es ++ (last.chars ++ '\x7d' :: rest)) := by
  cases es with
  | nil => exact ends_blanks_append last (ends_cons (.inr (.inr (.inr rfl))) rest)
  | cons e es => exact ends_cons (.inr (.inl rfl)) _

/-- A member is read where the next key is. -/
theorem readMembers_next {fuel : Nat} {isFirst : Bool} {c c' : Cursor}
    (hkey : nextKey isFirst c = .ok (true, c')) :
    readMembers member (fuel + 1) isFirst s c =
      readEntry member s c' >>= fun p => readMembers member fuel false p.1 p.2 := by
  rw [readMembers, hkey, readEntry]
  simp only [bind, Except.bind, if_true]
  cases readTextBody [] (c'.offset + 1) (c'.rest.drop 1) <;> rfl

theorem nextKey_first_core (e : Entry) (offset : Nat) (rest : List Char) :
    nextKey true ⟨offset, e.margin.chars ++ (e.core ++ rest)⟩ =
      .ok (true, ⟨offset + Cursor.bytes e.margin.chars, e.core ++ rest⟩) := by
  rw [e.core_append, quoted_append, nextKey, e.margin.skipBlanks_append_cons _ _ rfl]
  rfl

theorem nextKey_more_core (b : Blanks) (e : Entry) (offset : Nat) (rest : List Char) :
    nextKey false ⟨offset, b.chars ++ ',' :: (e.margin.chars ++ (e.core ++ rest))⟩ =
      .ok (true, ⟨offset + Cursor.bytes b.chars + 1 + Cursor.bytes e.margin.chars,
        e.core ++ rest⟩) := by
  have hcomma : ','.utf8Size = 1 := rfl
  rw [e.core_append, quoted_append, nextKey, b.skipBlanks_append_cons _ _ rfl]
  simp only [Bool.false_eq_true, if_false, Cursor.skip_one, hcomma]
  rw [e.margin.skipBlanks_append_cons _ _ rfl]
  rfl

/-- The end of an object, behind blanks. -/
theorem readMembers_last (fuel : Nat) (isFirst : Bool) (s : σ) (b last : Blanks) (offset : Nat)
    (rest : List Char) :
    readMembers member (fuel + 1) isFirst s ⟨offset, b.chars ++ (last.chars ++ '\x7d' :: rest)⟩ =
      .ok (s, ⟨offset + Cursor.bytes (b.chars ++ last.chars), '\x7d' :: rest⟩) := by
  rw [readMembers, nextKey, b.skipBlanks_append, last.skipBlanks_append_cons _ _ rfl,
    Cursor.bytes_append, Nat.add_assoc]
  rfl

/-- The members after the first one are read up to the closing brace. -/
theorem readMembers_more_of_walks (h : Walks member s es r) {fuel : Nat}
    (hfuel : es.length < fuel) (b last : Blanks) (offset : Nat) (rest : List Char) :
    readMembers member fuel false s
        ⟨offset, b.chars ++ (moreEntries es ++ (last.chars ++ '\x7d' :: rest))⟩ =
      land r (offset + Cursor.bytes b.chars + 1)
        ⟨offset + Cursor.bytes (b.chars ++ (moreEntries es ++ last.chars)), '\x7d' :: rest⟩ := by
  have hform : ∀ (e : Entry) es, moreEntries (e :: es) ++ (last.chars ++ '\x7d' :: rest) =
      ',' :: (e.margin.chars ++ (e.core ++ (e.after.chars ++
        (moreEntries es ++ (last.chars ++ '\x7d' :: rest))))) := fun e es => by
    simp [moreEntries, e.chars_eq]
  obtain ⟨fuel, rfl⟩ : ∃ n, fuel = n + 1 := ⟨fuel - 1, by omega⟩
  -- the blanks behind a member stand before the next comma, so `b` changes with every member
  induction h generalizing fuel b offset with
  | nil s => exact readMembers_last fuel false s b last offset rest
  | @cons s s₁ e es r h hrest ih =>
    obtain ⟨fuel, rfl⟩ : ∃ n, fuel = n + 1 := ⟨fuel - 1, by simp at hfuel; omega⟩
    rw [hform, readMembers_next (nextKey_more_core b e offset _),
      h _ _ (ends_blanks_append _ (ends_moreEntries_append es last rest)), land]
    have hchars := e.bytes_chars
    have hmore := bytes_moreEntries_cons e es
    refine (ih e.after _ fuel (by simp at hfuel ⊢; omega)).trans ?_
    rw [← land_add]
    refine land_congr ?_ ?_
    · omega
    · simp only [Cursor.bytes_append]
      omega
  | @stop s e es f h =>
    rw [hform, readMembers_next (nextKey_more_core b e offset _),
      h _ _ (ends_blanks_append _ (ends_moreEntries_append es last rest)), land_add]
    rfl

/-- The members of an object are read up to the closing brace. -/
theorem readMembers_of_walks (h : Walks member s es r) {fuel : Nat} (hfuel : es.length < fuel)
    (last : Blanks) (offset : Nat) (rest : List Char) :
    readMembers member fuel true s
        ⟨offset, separated (es.map Entry.chars) ++ (last.chars ++ '\x7d' :: rest)⟩ =
      land r offset ⟨offset + Cursor.bytes (separated (es.map Entry.chars) ++ last.chars),
        '\x7d' :: rest⟩ := by
  obtain ⟨fuel, rfl⟩ : ∃ n, fuel = n + 1 := ⟨fuel - 1, by omega⟩
  have hform : ∀ (e : Entry) es,
      separated ((e :: es).map Entry.chars) ++ (last.chars ++ '\x7d' :: rest) =
        e.margin.chars ++ (e.core ++ (e.after.chars ++
          (moreEntries es ++ (last.chars ++ '\x7d' :: rest)))) := fun e es => by
    rw [separated_chars_cons]
    simp [e.chars_eq]
  cases h with
  | nil => exact readMembers_last fuel true s .none last offset rest
  | @cons _ s₁ e es r h hrest =>
    rw [hform, readMembers_next (nextKey_first_core e offset _),
      h _ _ (ends_blanks_append _ (ends_moreEntries_append es last rest)), land]
    have hchars := e.bytes_chars
    have hfuel : es.length < fuel := by
      rw [List.length_cons] at hfuel
      omega
    refine (readMembers_more_of_walks hrest hfuel e.after last _ rest).trans ?_
    rw [← land_add]
    refine land_congr ?_ ?_
    · omega
    · simp only [separated_chars_cons, Cursor.bytes_append]
      omega
  | @stop _ e es f h =>
    rw [hform, readMembers_next (nextKey_first_core e offset _),
      h _ _ (ends_blanks_append _ (ends_moreEntries_append es last rest)), land_add]
    rfl

theorem length_le_length_moreEntries (es : List Entry) : es.length ≤ (moreEntries es).length := by
  induction es with
  | nil => exact Nat.zero_le _
  | cons e es ih =>
    rw [moreEntries, List.flatMap_cons, List.length_append, List.length_cons, List.length_cons,
      ← moreEntries]
    omega

/-- There is at least one character for every member. -/
theorem length_le_length_separated_entries (es : List Entry) :
    es.length ≤ (separated (es.map Entry.chars)).length := by
  cases es with
  | nil => exact Nat.zero_le _
  | cons e es =>
    have hmore := length_le_length_moreEntries es
    have hcore : 1 ≤ e.core.length := by simp [Entry.core, Entry.label, quoted]
    rw [separated_chars_cons, e.chars_eq]
    simp only [List.length_append, List.length_cons]
    omega

/-- The walk through the members of an object gives what its body is read as. -/
theorem readObjectBody_of_walks (h : Walks member s es r) (last : Blanks) (offset : Nat)
    (rest : List Char) :
    readObjectBody member s
        ⟨offset, separated (es.map Entry.chars) ++ (last.chars ++ '\x7d' :: rest)⟩ =
      land r offset ⟨offset + Cursor.bytes (separated (es.map Entry.chars) ++ last.chars),
        '\x7d' :: rest⟩ := by
  have hlength := length_le_length_separated_entries es
  refine readMembers_of_walks h ?_ last offset rest
  simp only [List.length_append]
  omega

theorem bytes_objectChars (es : List Entry) (last : Blanks) :
    Cursor.bytes (objectChars es last) =
      1 + Cursor.bytes (separated (es.map Entry.chars) ++ last.chars) + 1 := by
  rw [objectChars, Cursor.bytes_cons, ← List.append_assoc, Cursor.bytes_append, Nat.add_assoc]
  rfl

/-- What the walk through its members comes to is what an object is read as, if after the opening
brace its body is read and behind the closing brace the partial record `f x` makes `x`. -/
theorem settles_of_walks {reader : Reader α} {k : σ × Cursor → Except Fault (α × Cursor)}
    {f : α → σ} {r : Except Fault α} (h : Walks member s es (r.map f)) (last : Blanks)
    (hreader : ∀ offset rest, reader ⟨offset, '\x7b' :: rest⟩ =
      readObjectBody member s ⟨offset + 1, rest⟩ >>= k)
    (hk : ∀ x offset rest, k (f x, ⟨offset, '\x7d' :: rest⟩) = .ok (x, ⟨offset + 1, rest⟩)) :
    Settles reader (objectChars es last) (r.mapError (Fault.later 1)) := by
  intro offset rest _
  have hform : objectChars es last ++ rest =
      '\x7b' :: (separated (es.map Entry.chars) ++ (last.chars ++ '\x7d' :: rest)) := by
    simp [objectChars]
  rw [hform, hreader, readObjectBody_of_walks h, land_add, bytes_objectChars]
  cases r with
  | ok x =>
    refine (hk x _ _).trans ?_
    rw [← Nat.add_assoc, ← Nat.add_assoc]
    rfl
  | error f => rfl

/-! ## Maps -/

/-- Reads a member of a map. -/
def mapMember (value : Reader α) (acc : List (String × α)) (key : String) :
    Reader (List (String × α)) := fun c => do
  let c ← readColon c
  let (x, c) ← value c
  .ok (acc.filter (·.1 != key) ++ [(key, x)], c)

/-- What the walk through the members of a map comes to is what the map is read as. -/
theorem settles_readMap {value : Reader α} {r : Except Fault (List (String × α))}
    (h : Walks (mapMember value) [] es r) (last : Blanks) :
    Settles (readMap value) (objectChars es last) (r.mapError (Fault.later 1)) := by
  refine settles_of_walks (f := id) ?_ last (fun _ _ => rfl) fun _ _ _ => rfl
  cases r <;> exact h

/-- A member of a map is read by what reads its value. -/
theorem settles_mapMember {value : Reader α} {e : Entry} {name : String}
    (hname : e.name? = some name) (hskip : SkipsBlanks value) {r : Except Fault α}
    (h : Settles value e.value r) (acc : List (String × α)) :
    Settles (readEntry (mapMember value) acc) e.core
      ((r.map fun x => acc.filter (·.1 != name) ++ [(name, x)]).mapError
        (Fault.later (Cursor.bytes e.label + Cursor.bytes e.before.chars))) := by
  refine settles_readEntry_of_value hname (fun _ => rfl) (fun b offset rest => ?_)
    fun offset rest hrest => ?_
  · rw [hskip]
  · rw [h _ _ hrest]
    cases r <;> rfl

/-- Something comes of every value where a map is expected, if something comes of every value in the
map. -/
theorem exists_settles_readMap {value : Reader α} (hskip : SkipsBlanks value)
    (hvalue : ∀ v, IsValue v → ∃ r, Settles value v r) {v : List Char} (h : IsValue v) :
    ∃ r, Settles (readMap value) v r := by
  obtain ⟨f, hf⟩ : ∃ f, Settles (failOnType "a map" : Reader (List (String × α))) v (.error f) :=
    exists_settles_failOnType "a map" h
  cases h with
  | number h =>
    obtain ⟨d, ds, rfl, hd⟩ := h.exists_cons
    refine ⟨.error f, fun offset rest hrest => ?_⟩
    rw [← hf offset rest hrest, List.cons_append, readMap,
      Cursor.skipBlanks_cons _ _ (isBlank_of_isDigit hd)]
    dsimp only
    split
    · next heq => cases heq
    · next heq => exact absurd (List.cons.inj heq).1 (ne_of_isDigit hd rfl)
    · rfl
  | object entries last h =>
    have hentries : ∀ e ∈ entries, ∀ acc,
        ∃ r, Settles (readEntry (mapMember value) acc) e.core r := fun e he acc => by
      cases hname : e.name? with
      | none =>
        obtain ⟨f, hf⟩ := exists_settles_readEntry (mapMember value) acc hname
        exact ⟨_, hf⟩
      | some name =>
        obtain ⟨r, hr⟩ := hvalue e.value (h e he)
        exact ⟨_, settles_mapMember hname hskip hr acc⟩
    obtain ⟨r, hr⟩ := exists_walks hentries []
    exact ⟨_, settles_readMap hr last⟩
  | _ => exact ⟨.error f, hf⟩

/-! ### The last member of a name -/

theorem lookup_filter_ne (acc : List (String × α)) {name key : String} (h : key ≠ name) :
    (acc.filter (·.1 != name)).lookup key = acc.lookup key := by
  induction acc with
  | nil => rfl
  | cons m acc ih =>
    obtain ⟨k, x⟩ := m
    by_cases hk : k = name
    · subst hk
      rw [List.filter_cons_of_neg (by simp), ih, List.lookup_cons, beq_false_of_ne h]
    · rw [List.filter_cons_of_pos (by simpa using hk), List.lookup_cons, List.lookup_cons, ih]

theorem lookup_filter_self (acc : List (String × α)) (name : String) :
    (acc.filter (·.1 != name)).lookup name = none := by
  rw [List.lookup_eq_none_iff]
  intro m hm
  rw [bne_comm]
  exact (List.mem_filter.1 hm).2

/-- Members are read one by one if each has a name and a value, and a value stays as long as no
later member has its name. -/
theorem exists_walks_mapMember {value : Reader α} (hskip : SkipsBlanks value)
    (h : ∀ e ∈ es, ∃ name x, e.name? = some name ∧ Settles value e.value (.ok x))
    (acc : List (String × α)) (key : String) :
    ∃ members, Walks (mapMember value) acc es (.ok members) ∧
      ((∀ e ∈ es, e.name? ≠ some key) → members.lookup key = acc.lookup key) := by
  induction es generalizing acc with
  | nil => exact ⟨acc, .nil acc, fun _ => rfl⟩
  | cons e es ih =>
    obtain ⟨⟨name, x, hname, hvalue⟩, hes⟩ := List.forall_mem_cons.1 h
    obtain ⟨members, hwalk, hlookup⟩ := ih hes (acc.filter (·.1 != name) ++ [(name, x)])
    refine ⟨members, .cons (settles_mapMember hname hskip hvalue acc) hwalk, fun hne => ?_⟩
    obtain ⟨he, hes⟩ := List.forall_mem_cons.1 hne
    have hkey : key ≠ name := fun heq => he (by rw [hname, heq])
    rw [hlookup hes, List.lookup_append, lookup_filter_ne acc hkey, List.lookup_cons,
      beq_false_of_ne hkey]
    exact Option.or_none

/-- The value is an object whose values can all be read, and `x` is the last one with this name. -/
inductive HoldsLast (value : Reader α) (name : String) (x : α) : List Char → Prop
  | object {front back : List Entry} {e : Entry} (hname : e.name? = some name)
      (hvalue : IsValue e.value) (hx : decode value (String.ofList e.value) = .ok x)
      (hothers : ∀ e' ∈ front ++ back, IsValue e'.value ∧
        ∃ other y, e'.name? = some other ∧ decode value (String.ofList e'.value) = .ok y)
      (hback : ∀ e' ∈ back, e'.name? ≠ some name) (last : Blanks) :
      HoldsLast value name x (objectChars (front ++ e :: back) last)

/-- What a map has below a name is the last value with this name. -/
theorem HoldsLast.exists_decode {value : Reader α} (hskip : SkipsBlanks value)
    (hvalue : ∀ v, IsValue v → ∃ r, Settles value v r) {name : String} {x : α} {v : List Char}
    (h : HoldsLast value name x v) :
    ∃ members, decode (readMap value) (String.ofList v) = .ok members ∧
      members.lookup name = some x := by
  cases h with
  | @object front back e hname he hx hothers hback last =>
    have hsettles : ∀ {v y}, IsValue v → decode value (String.ofList v) = .ok y →
        Settles value v (.ok y) := fun hv => settles_of_decode (hvalue _ hv) hskip
    have hall : ∀ e' ∈ front ++ back, ∃ other y, e'.name? = some other ∧
        Settles value e'.value (.ok y) := fun e' he' => by
      obtain ⟨he', other, y, hother, hy⟩ := hothers e' he'
      exact ⟨other, y, hother, hsettles he' hy⟩
    obtain ⟨hfront, hrest⟩ := List.forall_mem_append.1 hall
    -- up to the last member of the name, then that member, then members of other names
    obtain ⟨acc, hwalk, -⟩ := exists_walks_mapMember hskip hfront [] name
    obtain ⟨members, hwalk', hlookup⟩ := exists_walks_mapMember hskip hrest
      (acc.filter (·.1 != name) ++ [(name, x)]) name
    have hread := settles_readMap
      (hwalk.append (.cons (settles_mapMember hname hskip (hsettles he hx) acc) hwalk')) last
    refine ⟨members, decode_eq_of_settles hread (skipsBlanks_readMap value), ?_⟩
    rw [hlookup hback, List.lookup_append, lookup_filter_self, List.lookup_cons_self,
      Option.none_or]

/-! ## Records of one field -/

namespace Shape

/-- A member that is no field is passed over. -/
theorem settles_readEntry_unknown {shape : Shape σ α} {e : Entry} {name : String}
    (hname : e.name? = some name) (hunknown : shape.fields.find? (·.name == name) = none)
    (h : IsValue e.value) (s : σ) : Settles (readEntry shape.member s) e.core (.ok s) := by
  have hskip : Settles (fun c => skipValue c >>= fun c => .ok (s, c)) (e.before.chars ++ e.value)
      (.ok s) := fun offset rest hrest => by
    rw [List.append_assoc]
    dsimp only
    rw [skipValue_append h e.before offset hrest]
    rfl
  refine settles_readEntry hname (fun c => ?_) hskip
  rw [member, hunknown]

/-- The record has one field with this name, which is what the reader reads. -/
structure IsSingle (shape : Shape (Option α) α) (name : String) (reader : Reader α) : Prop where
  /-- The field. -/
  exists_field : ∃ field, shape.fields = [field] ∧ field.name = name ∧ field.isSet none = false ∧
    field.read none = fun c => reader c >>= fun p => .ok (some p.1, p.2)
  /-- Nothing has been read in the beginning. -/
  empty : shape.empty = none
  /-- What has been read is the record. -/
  finish : ∀ x, shape.finish (some x) = some x

namespace IsSingle

variable {shape : Shape (Option α) α} {name : String} {reader : Reader α}

theorem find?_eq_none (h : shape.IsSingle name reader) {other : String} (hne : other ≠ name) :
    shape.fields.find? (·.name == other) = none := by
  obtain ⟨field, hfields, hname, -, -⟩ := h.exists_field
  rw [hfields, List.find?_cons_of_neg, List.find?_nil]
  rw [hname]
  exact fun heq => hne (eq_of_beq heq).symm

/-- The member with the name of the field is read as its value is. -/
theorem settles_readEntry (h : shape.IsSingle name reader) {e : Entry}
    (hname : e.name? = some name) (hskip : SkipsBlanks reader) {r : Except Fault α}
    (hr : Settles reader e.value r) :
    Settles (readEntry shape.member none) e.core
      ((r.map some).mapError
        (Fault.later (Cursor.bytes e.label + Cursor.bytes e.before.chars))) := by
  obtain ⟨field, hfields, hfield, hunset, hread⟩ := h.exists_field
  have hmember : ∀ c, shape.member none name c = readColon c >>= field.read none := fun c => by
    rw [member, hfields, List.find?_cons_of_pos (by rw [hfield]; exact beq_self_eq_true name)]
    dsimp only
    rw [hunset]
    rfl
  refine settles_readEntry_of_value hname hmember (fun b offset rest => ?_)
    fun offset rest hrest => ?_
  · rw [hread]
    dsimp only
    rw [hskip]
  · rw [hread]
    dsimp only
    rw [hr _ _ hrest]
    cases r <;> rfl

/-- The members are passed over if none has the name of the field. -/
theorem walks_others (h : shape.IsSingle name reader) {es : List Entry}
    (hothers : ∀ e ∈ es, IsValue e.value ∧ ∃ other, e.name? = some other ∧ other ≠ name)
    (s : Option α) : Walks shape.member s es (.ok s) := by
  induction es with
  | nil => exact .nil s
  | cons e es ih =>
    obtain ⟨⟨hvalue, other, hother, hne⟩, hes⟩ := List.forall_mem_cons.1 hothers
    exact .cons (settles_readEntry_unknown hother (h.find?_eq_none hne) hvalue s) (ih hes)

end IsSingle

end Shape

/-- What stands in an object before the value of a member. -/
def charsBefore (front : List Entry) (e : Entry) : List Char :=
  '\x7b' :: (leadingEntries front ++ (e.margin.chars ++ (e.label ++ e.before.chars)))

/-- **A record of one field.** Among other members, in any order, the field is read as its value is,
and a fault in that value is told at its place. -/
theorem Shape.IsSingle.settles_read {shape : Shape (Option α) α} {name : String}
    {reader : Reader α} (h : shape.IsSingle name reader) (hskip : SkipsBlanks reader)
    {front back : List Entry} {e : Entry} (hname : e.name? = some name)
    (hothers : ∀ e' ∈ front ++ back, IsValue e'.value ∧
      ∃ other, e'.name? = some other ∧ other ≠ name)
    {r : Except Fault α} (hr : Settles reader e.value r) (last : Blanks) :
    Settles shape.read (objectChars (front ++ e :: back) last)
      (r.mapError (Fault.later (Cursor.bytes (charsBefore front e)))) := by
  obtain ⟨hfront, hback⟩ := List.forall_mem_append.1 hothers
  have hentry := h.settles_readEntry hname hskip hr
  have hwalk : Walks shape.member shape.empty (front ++ e :: back)
      ((r.mapError (Fault.later (Cursor.bytes (leadingEntries front) +
        (Cursor.bytes e.margin.chars + (Cursor.bytes e.label + Cursor.bytes e.before.chars))))).map
          some) := by
    rw [h.empty]
    -- a fault stops the walk at the member, and what stands behind it does not matter
    cases r with
    | ok x =>
      exact (h.walks_others hfront none).append (.cons hentry (h.walks_others hback (some x)))
    | error f =>
      have hstop : Walks shape.member none (e :: back) _ := .stop hentry
      simpa only [Except.map, Except.mapError, Fault.later, Nat.add_assoc] using
        (h.walks_others hfront none).append hstop
  have hbytes : Cursor.bytes (charsBefore front e) = 1 + (Cursor.bytes (leadingEntries front) +
      (Cursor.bytes e.margin.chars + (Cursor.bytes e.label + Cursor.bytes e.before.chars))) := by
    rw [charsBefore, Cursor.bytes_cons, Cursor.bytes_append, Cursor.bytes_append,
      Cursor.bytes_append]
    rfl
  rw [hbytes, ← mapError_later_later]
  refine settles_of_walks hwalk last (fun _ _ => rfl) fun x offset rest => ?_
  have hcomplete : shape.complete (some x) ⟨offset + 1, rest⟩ = .ok (x, ⟨offset + 1, rest⟩) := by
    rw [Shape.complete, h.finish]
  exact hcomplete

end RateHerald.Json
