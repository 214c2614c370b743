import RateHerald.Json.Record
import RateHerald.Json.Written

/-!
# Reading what was written

A reader and a written form belong together if the reader takes exactly the characters of that form
off the front of any text and says which value they stand for. `Reads` says so, for one value. It
speaks about whatever follows, so that readers of parts compose to readers of records without a look
at the text behind them.

The text reader is treated character by character: what `escapeChar` writes is read back by one step
of `readTextBody`, whether it is a character, a short escape or a numbered one. A record is treated
member by member: `Gathers` follows the partial record through the members as they were written.

## Main declarations

* `Reads`, and `reads_readText` for texts.
* `Gathers` and `Shape.reads_object` for records.
* `decode_of_reads`: a whole text, blanks behind it allowed.
-/

namespace RateHerald.Json

variable {α β σ : Type}

/-- The reader takes `cs` off the front of any text and reads `x`. -/
def Reads (reader : Reader α) (cs : List Char) (x : α) : Prop :=
  ∀ offset rest, reader ⟨offset, cs ++ rest⟩ = .ok (x, ⟨offset + Cursor.bytes cs, rest⟩)

/-! ## Cursors -/

namespace Cursor

@[simp] theorem bytes_nil : bytes [] = 0 := rfl

@[simp] theorem bytes_cons (c : Char) (cs : List Char) : bytes (c :: cs) = c.utf8Size + bytes cs :=
  rfl

@[simp] theorem bytes_append (cs ds : List Char) : bytes (cs ++ ds) = bytes cs + bytes ds := by
  induction cs with
  | nil => rw [List.nil_append, bytes_nil, Nat.zero_add]
  | cons c cs ih => rw [List.cons_append, bytes_cons, bytes_cons, ih, Nat.add_assoc]

/-- Where no blank comes next there is none to skip. -/
theorem skipBlanks_cons {d : Char} (offset : Nat) (rest : List Char) (h : isBlank d = false) :
    skipBlanks ⟨offset, d :: rest⟩ = ⟨offset, d :: rest⟩ := by
  simp [skipBlanks, h]

@[simp] theorem skip_one (offset : Nat) (d : Char) (rest : List Char) :
    skip ⟨offset, d :: rest⟩ 1 = ⟨offset + d.utf8Size, rest⟩ := by
  simp [skip]

end Cursor

/-! ## Texts -/

theorem fourHex_spec : ∀ n < 0x20, fourHex? (fourHex n) = some n ∧ (fourHex n).length = 4 ∧
    Cursor.bytes (fourHex n) = 4 := by decide

/-- The number of a control character is no half of a pair. -/
theorem halves_spec : ∀ n < 0x20, isLowHalf n = false ∧ isHighHalf n = false := by decide

theorem fourHex?_append {ds : List Char} (h : ds.length = 4) (rest : List Char) :
    fourHex? (ds ++ rest) = fourHex? ds := by
  match ds, h with
  | [a, b, c, d], _ => rfl

theorem readEscape_short {e c : Char} (he : e ≠ 'u') (h : shortEscape? e = some c) (offset : Nat)
    (rest : List Char) : readEscape ⟨offset, e :: rest⟩ = .ok (c, 1) := by
  rw [readEscape]
  split
  · next hnil => cases hnil
  · next heq =>
    injection heq with heu
    exact absurd heu he
  · next d ds heq =>
    injection heq with hed
    subst hed
    rw [h]

theorem readEscape_control {c : Char} (h : c.toNat < 0x20) (offset : Nat) (rest : List Char) :
    readEscape ⟨offset, 'u' :: (fourHex c.toNat ++ rest)⟩ = .ok (c, 5) := by
  obtain ⟨hread, hlength, -⟩ := fourHex_spec c.toNat h
  have hfour : readFourHex ⟨offset + 'u'.utf8Size, fourHex c.toNat ++ rest⟩ = .ok c.toNat := by
    rw [readFourHex, fourHex?_append hlength, hread]
  obtain ⟨hlow, hhigh⟩ := halves_spec c.toNat h
  simp [readEscape, hfour, hlow, hhigh, bind, Except.bind]

/-- An escape is read by one step. -/
theorem readTextBody_escape {c : Char} {n : Nat} {escape rest : List Char} (acc : List Char)
    (offset : Nat) (h : readEscape ⟨offset + 1, escape ++ rest⟩ = .ok (c, n))
    (hlength : escape.length = n) (hbytes : Cursor.bytes escape = n) :
    readTextBody acc offset ('\\' :: escape ++ rest) =
      readTextBody (c :: acc) (offset + Cursor.bytes ('\\' :: escape)) rest := by
  have hback : '\\'.utf8Size = 1 := rfl
  rw [List.cons_append, readTextBody, h]
  simp [hback, hbytes, ← hlength, Nat.add_assoc]

/-- A character is read as it was written, by one step. -/
theorem readTextBody_escapeChar (c : Char) (acc : List Char) (offset : Nat) (rest : List Char) :
    readTextBody acc offset (escapeChar c ++ rest) =
      readTextBody (c :: acc) (offset + Cursor.bytes (escapeChar c)) rest := by
  have hshort : ∀ e : Char, e ≠ 'u' → shortEscape? e = some c → e.utf8Size = 1 →
      readTextBody acc offset (['\\', e] ++ rest) =
        readTextBody (c :: acc) (offset + Cursor.bytes ['\\', e]) rest :=
    fun e he h hsize => readTextBody_escape acc offset (readEscape_short he h _ rest) rfl (by
      simp [hsize])
  have hnamed : ∀ n : Nat, c.toNat = n → c = Char.ofNat n := fun n h => by
    rw [← h, Char.ofNat_toNat]
  -- one case for each escape: seven have a letter of their own, controls have a number, and what is
  -- left stands for itself
  rw [escapeChar]
  split
  · next h => subst h; exact hshort '"' (by decide) rfl rfl
  split
  · next h => subst h; exact hshort '\\' (by decide) rfl rfl
  split
  · next h => exact hshort 'b' (by decide) (congrArg some (hnamed 8 h).symm) rfl
  split
  · next h => exact hshort 'f' (by decide) (congrArg some (hnamed 12 h).symm) rfl
  split
  · next h => subst h; exact hshort 'n' (by decide) rfl rfl
  split
  · next h => subst h; exact hshort 'r' (by decide) rfl rfl
  split
  · next h => subst h; exact hshort 't' (by decide) rfl rfl
  split
  · next h =>
    obtain ⟨-, hlength, hbytes⟩ := fourHex_spec c.toNat h
    have hread := readEscape_control h (offset + 1) rest
    exact readTextBody_escape acc offset hread (by simp [hlength]) (by simp [hbytes]; rfl)
  · next hquote hback _ _ _ _ _ hplain =>
    rw [List.singleton_append, readTextBody]
    · simp [hplain]
    · exact fun h => hquote h
    · exact fun h => hback h

theorem readTextBody_text (s acc : List Char) (offset : Nat) (rest : List Char) :
    readTextBody acc offset (s.flatMap escapeChar ++ '"' :: rest) =
      .ok (acc.reverse ++ s, ⟨offset + Cursor.bytes (s.flatMap escapeChar) + 1, rest⟩) := by
  induction s generalizing acc offset with
  | nil => rw [List.flatMap_nil, List.nil_append, readTextBody]; simp
  | cons c s ih =>
    rw [List.flatMap_cons, List.append_assoc, readTextBody_escapeChar, ih]
    simp [Nat.add_assoc]

theorem quote_append (s : String) (rest : List Char) :
    quote s ++ rest = '"' :: (s.toList.flatMap escapeChar ++ '"' :: rest) := by
  rw [quote, List.cons_append, List.cons_append, List.append_assoc, List.singleton_append]

/-- The rest of a quoted text is read after its opening quote. -/
theorem readTextBody_quote (s : String) (offset : Nat) (rest : List Char) :
    readTextBody [] (offset + 1) (s.toList.flatMap escapeChar ++ '"' :: rest) =
      .ok (s.toList, ⟨offset + Cursor.bytes (quote s), rest⟩) := by
  have hquote : '"'.utf8Size = 1 := rfl
  have hbytes : offset + 1 + Cursor.bytes (s.toList.flatMap escapeChar) + 1
      = offset + Cursor.bytes (quote s) := by
    rw [quote, List.cons_append, Cursor.bytes_cons, Cursor.bytes_append, Cursor.bytes_cons,
      Cursor.bytes_nil, hquote]
    omega
  rw [readTextBody_text, hbytes, List.reverse_nil, List.nil_append]

/-- A text is read back from its quoted form. -/
theorem reads_readText (s : String) : Reads readText (quote s) s := by
  intro offset rest
  rw [quote_append, readText, Cursor.skipBlanks_cons _ _ rfl]
  simp [readTextBody_quote, bind, Except.bind]

theorem reads_readTextOrNull (s : String) : Reads readTextOrNull (quote s) (some s) := by
  intro offset rest
  have h := reads_readText s offset rest
  rw [quote_append] at h ⊢
  rw [readTextOrNull, Cursor.skipBlanks_cons _ _ rfl]
  simp [h, bind, Except.bind]

/-! ## Records -/

/-- A member of an object in compact form. -/
def member (name : String) (v : Json) : List Char :=
  quote name ++ ':' :: v.chars

theorem memberChars_eq_map (members : List (String × Json)) :
    memberChars members = members.map fun m => member m.1 m.2 := by
  induction members with
  | nil => rfl
  | cons m rest ih => rw [memberChars, ih, List.map_cons, member]

theorem separated_cons (x : List Char) (xs : List (List Char)) :
    separated (x :: xs) = x ++ xs.flatMap (',' :: ·) := by
  induction xs generalizing x with
  | nil => rw [separated, List.flatMap_nil, List.append_nil]
  | cons y xs ih => rw [separated, ih, List.flatMap_cons, List.cons_append]

/-- Reading the members of an object, one after another as they were written, takes a partial record
from `s` to `s'`. -/
inductive Gathers (shape : Shape σ α) : σ → List (String × Json) → σ → Prop
  | nil (s : σ) : Gathers shape s [] s
  | cons {s s₁ s' : σ} {field : Field σ} {name : String} {v : Json}
      {members : List (String × Json)} (hfield : shape.fields.find? (·.name == name) = some field)
      (hunset : field.isSet s = false) (hread : Reads (field.read s) v.chars s₁)
      (hrest : Gathers shape s₁ members s') : Gathers shape s ((name, v) :: members) s'

/-- After the opening quote of a key, the rest of the member is read into the partial record. -/
theorem reads_member {shape : Shape σ α} {s s₁ : σ} {field : Field σ} {name : String} {v : Json}
    (hfield : shape.fields.find? (·.name == name) = some field) (hunset : field.isSet s = false)
    (hread : Reads (field.read s) v.chars s₁) :
    Reads (shape.member s name) (':' :: v.chars) s₁ := by
  intro offset rest
  have hcolon : ':'.utf8Size = 1 := rfl
  rw [Shape.member, hfield]
  simp only [hunset, Bool.false_eq_true, if_false, List.cons_append]
  rw [readColon, Cursor.skipBlanks_cons _ _ rfl]
  simp [bind, Except.bind, hread _ _, hcolon, Nat.add_assoc]

theorem nextKey_first (name : String) (offset : Nat) (rest : List Char) :
    nextKey true ⟨offset, quote name ++ rest⟩ = .ok (true, ⟨offset, quote name ++ rest⟩) := by
  rw [quote_append, nextKey, Cursor.skipBlanks_cons _ _ rfl]
  rfl

theorem nextKey_more (name : String) (offset : Nat) (rest : List Char) :
    nextKey false ⟨offset, ',' :: (quote name ++ rest)⟩ =
      .ok (true, ⟨offset + 1, quote name ++ rest⟩) := by
  have hcomma : ','.utf8Size = 1 := rfl
  rw [quote_append, nextKey, Cursor.skipBlanks_cons _ _ rfl]
  simp only [Bool.false_eq_true, if_false, Cursor.skip_one, hcomma]
  rw [Cursor.skipBlanks_cons _ _ rfl]
  rfl

theorem nextKey_end (isFirst : Bool) (offset : Nat) (rest : List Char) :
    nextKey isFirst ⟨offset, '\x7d' :: rest⟩ = .ok (false, ⟨offset, '\x7d' :: rest⟩) := by
  rw [nextKey, Cursor.skipBlanks_cons _ _ rfl]
  rfl

/-- One member is read, and the walk goes on behind it. -/
theorem readMembers_step {shape : Shape σ α} {s s₁ : σ} {field : Field σ} {name : String}
    {v : Json} (hfield : shape.fields.find? (·.name == name) = some field)
    (hunset : field.isSet s = false) (hread : Reads (field.read s) v.chars s₁) {isFirst : Bool}
    {c : Cursor} {offset : Nat} {rest : List Char}
    (hkey : nextKey isFirst c = .ok (true, ⟨offset, member name v ++ rest⟩)) (fuel : Nat) :
    readMembers shape.member (fuel + 1) isFirst s c =
      readMembers shape.member fuel false s₁ ⟨offset + Cursor.bytes (member name v), rest⟩ := by
  have hmember := reads_member hfield hunset hread
  rw [readMembers, hkey, member, List.append_assoc, quote_append]
  simp only [bind, Except.bind, if_true, List.drop_succ_cons, List.drop_zero, readTextBody_quote,
    String.ofList_toList, hmember _ _]
  rw [Cursor.bytes_append, Nat.add_assoc]

/-- The members after the first one, each behind its comma, are read up to the closing brace. -/
theorem readMembers_more {shape : Shape σ α} {s s' : σ} {members : List (String × Json)}
    (h : Gathers shape s members s') {fuel : Nat} (hfuel : members.length ≤ fuel) (offset : Nat)
    (rest : List Char) :
    readMembers shape.member fuel false s
        ⟨offset, members.flatMap (fun m => ',' :: member m.1 m.2) ++ '\x7d' :: rest⟩ =
      .ok (s', ⟨offset + Cursor.bytes (members.flatMap fun m => ',' :: member m.1 m.2),
        '\x7d' :: rest⟩) := by
  induction h generalizing fuel offset with
  | nil s =>
    cases fuel with
    | zero => rfl
    | succ fuel =>
      rw [readMembers, List.flatMap_nil, List.nil_append, nextKey_end]
      rfl
  | @cons s s₁ s' field name v members hfield hunset hread hrest ih =>
    -- one member costs one unit of fuel, so there is enough for the others
    obtain ⟨n, rfl⟩ : ∃ n, fuel = n + 1 := ⟨fuel - 1, by rw [List.length_cons] at hfuel; omega⟩
    have hcomma : ','.utf8Size = 1 := rfl
    have hkey := nextKey_more name offset
      (':' :: v.chars ++ (members.flatMap (fun m => ',' :: member m.1 m.2) ++ '\x7d' :: rest))
    rw [← List.append_assoc, ← member] at hkey
    rw [List.flatMap_cons, List.append_assoc, List.cons_append,
      readMembers_step hfield hunset hread hkey, ih (by simpa using hfuel), Cursor.bytes_append,
      Cursor.bytes_cons, hcomma, Nat.add_assoc, Nat.add_assoc, Nat.add_assoc]

/-- The members of an object are read up to the closing brace. -/
theorem readMembers_first {shape : Shape σ α} {s s' : σ} {members : List (String × Json)}
    (h : Gathers shape s members s') {fuel : Nat} (hfuel : members.length ≤ fuel) (offset : Nat)
    (rest : List Char) :
    readMembers shape.member fuel true s
        ⟨offset, separated (memberChars members) ++ '\x7d' :: rest⟩ =
      .ok (s', ⟨offset + Cursor.bytes (separated (memberChars members)), '\x7d' :: rest⟩) := by
  cases h with
  | nil =>
    cases fuel with
    | zero => rfl
    | succ fuel =>
      rw [readMembers, memberChars, separated, List.nil_append, nextKey_end]
      rfl
  | @cons _ s₁ _ field name v members hfield hunset hread hrest =>
    -- only the first member has no comma before it, which is why this is not the lemma above
    obtain ⟨n, rfl⟩ : ∃ n, fuel = n + 1 := ⟨fuel - 1, by rw [List.length_cons] at hfuel; omega⟩
    have hform : separated (memberChars ((name, v) :: members)) =
        member name v ++ members.flatMap fun m => ',' :: member m.1 m.2 := by
      rw [memberChars_eq_map, List.map_cons, separated_cons, List.flatMap_map]
    have hkey := nextKey_first name offset
      (':' :: v.chars ++ (members.flatMap (fun m => ',' :: member m.1 m.2) ++ '\x7d' :: rest))
    rw [← List.append_assoc, ← member] at hkey
    rw [hform, List.append_assoc, readMembers_step hfield hunset hread hkey,
      readMembers_more hrest (by simpa using hfuel), Cursor.bytes_append, Nat.add_assoc]

theorem length_le_length_separated (members : List (String × Json)) :
    members.length ≤ (separated (memberChars members)).length := by
  cases members with
  | nil => exact Nat.zero_le _
  | cons m rest =>
    rw [memberChars_eq_map, List.map_cons, separated_cons, List.length_append, List.length_cons,
      Nat.add_comm]
    refine Nat.add_le_add ?_ ?_
    · simp [member, quote]
    · induction rest with
      | nil => exact Nat.zero_le _
      | cons m rest ih =>
        rw [List.map_cons, List.flatMap_cons, List.length_append, List.length_cons,
          List.length_cons, Nat.add_comm]
        omega

/-- A record is read back from the object of its members. -/
theorem Shape.reads_object {shape : Shape σ α} {s : σ} {x : α} {members : List (String × Json)}
    (h : Gathers shape shape.empty members s) (hfinish : shape.finish s = some x) :
    Reads shape.read (Json.object members).chars x := by
  intro offset rest
  have hopen : '\x7b'.utf8Size = 1 := rfl
  have hclose : '\x7d'.utf8Size = 1 := rfl
  have hfuel := length_le_length_separated members
  rw [chars, List.append_assoc, List.cons_append, List.singleton_append, Shape.read,
    Cursor.skipBlanks_cons _ _ rfl]
  simp only [Cursor.skip_one, readObjectBody]
  rw [readMembers_first h (by simp; omega)]
  simp [bind, Except.bind, Shape.complete, hfinish, hopen, hclose, Nat.add_assoc]

/-- A field that must be given reads what its reader reads. -/
theorem Field.reads_ofReader {name : String} {reader : Reader β} {get : σ → Option β}
    {set : σ → β → σ} {cs : List Char} {x : β} (h : Reads reader cs x) (s : σ) :
    Reads ((Field.ofReader name reader get set).read s) cs (set s x) := by
  intro offset rest
  simp [Field.ofReader, h _ _, bind, Except.bind]

/-! ## Whole texts -/

/-- A whole text is decoded, whatever blanks stand behind the value. -/
theorem decode_of_reads {reader : Reader α} {cs blanks : List Char} {x : α}
    (h : Reads reader cs x) (hblanks : ∀ c ∈ blanks, Cursor.isBlank c = true) :
    decode reader (String.ofList (cs ++ blanks)) = .ok x := by
  have hskip : blanks.dropWhile Cursor.isBlank = [] := by
    have h : (blanks ++ []).dropWhile Cursor.isBlank = List.dropWhile Cursor.isBlank [] :=
      List.dropWhile_append_of_pos hblanks
    rwa [List.append_nil] at h
  rw [decode, Cursor.start, String.toList_ofList, h]
  simp [bind, Except.bind, Cursor.skipBlanks, hskip]

end RateHerald.Json
