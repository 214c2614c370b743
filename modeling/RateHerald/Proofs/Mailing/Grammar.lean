import RateHerald.Proofs.Mailing.Mailboxes
import RateHerald.Proofs.Text.Slices

/-!
# The grammar of typed mailboxes

A typed mailbox is an address alone, or a name and then an address between brackets, the closing one
of which stands at the end. Blanks around the whole and around the two parts do not count. What is
spelled so is read, and nothing else is.

The brackets may be looked for among the bytes of the text: the first opening one and the last
closing one, between which the text is cut. Every cut that is made in this way is between two
characters, whatever the text is, so the reader that works on bytes never gets stuck. It reads what
the other one reads.

## Main declarations

* `Mailbox.IsAddress` and `Mailbox.isAddress_iff`: which texts are addresses.
* `Mailbox.Spells` is the grammar, and `Mailbox.parse_eq_ok_iff` says that it is what is read.
* `Mailbox.parseByBytes` reads by bytes, `Mailbox.parseByBytes_eq` says that it comes to the same.
* `Mailbox.reads_grammar` puts this together.
-/

namespace RateHerald.Mailbox

open Json.Cursor (bytes)

variable {cs name address : List Char} {s : String} {m : Mailbox}

/-! ## Addresses -/

/-- The text is an address. -/
structure IsAddress (cs : List Char) : Prop where
  /-- There is one `@`, with text before it and a domain behind it that has no point at its ends. -/
  parts : ∃ user domain, cs = user ++ '@' :: domain ∧ '@' ∉ user ∧ '@' ∉ domain ∧ user ≠ [] ∧
    domain ≠ [] ∧ domain.head? ≠ some '.' ∧ domain.getLast? ≠ some '.'
  /-- It is not too long. -/
  length : (String.ofList cs).utf8ByteSize ≤ 254
  /-- Some characters do not occur. -/
  chars : ∀ c ∈ cs, Text.isBlank c = false ∧ Text.isControl c = false ∧ c ≠ '/' ∧ c ≠ '\\' ∧
    c ≠ '<' ∧ c ≠ '>'

theorem utf8ByteSize_ofList (cs : List Char) : (String.ofList cs).utf8ByteSize = bytes cs := by
  induction cs with
  | nil => rfl
  | cons c cs ih => simp [String.ofList_cons, ih]

theorem isAddressChar_iff {c : Char} : isAddressChar c = true ↔
    Text.isBlank c = false ∧ Text.isControl c = false ∧ c ≠ '/' ∧ c ≠ '\\' ∧ c ≠ '<' ∧ c ≠ '>' := by
  simp only [isAddressChar, Bool.and_eq_true, Bool.not_eq_true', bne_iff_ne, and_assoc]

theorem dropWhile_ne_append {c : Char} {before : List Char} (h : c ∉ before) (after : List Char) :
    (before ++ c :: after).dropWhile (· != c) = c :: after := by
  have hbefore : ∀ d ∈ before, (d != c) = true := fun d hd => bne_iff_ne.2 fun heq => h (heq ▸ hd)
  rw [List.dropWhile_append_of_pos hbefore, List.dropWhile_cons_of_neg (by simp)]

/-- The parts of a text on both sides of an `@` are all there is to it. -/
theorem isAddress_append {user domain : List Char} (huser : '@' ∉ user) :
    isAddress (user ++ '@' :: domain) = true ↔
      '@' ∉ domain ∧ user ≠ [] ∧ domain ≠ [] ∧ domain.head? ≠ some '.' ∧
        domain.getLast? ≠ some '.' ∧ bytes (user ++ '@' :: domain) ≤ maxLength ∧
        ∀ c ∈ user ++ '@' :: domain, isAddressChar c = true := by
  have hcount : (user ++ '@' :: domain).count '@' = domain.count '@' + 1 := by
    rw [List.count_append, List.count_eq_zero_of_not_mem huser, List.count_cons_self, Nat.zero_add]
  have hhead : (user ++ '@' :: domain).head? ≠ some '@' ↔ user ≠ [] := by
    cases user with
    | nil => simp
    | cons c user =>
      rw [List.mem_cons, not_or] at huser
      simpa using Ne.symm huser.1
  simp only [isAddress, dropWhile_ne_append huser, hcount, List.drop_succ_cons, List.drop_zero,
    Bool.and_eq_true, beq_iff_eq, bne_iff_ne, Bool.not_eq_true', List.all_eq_true,
    decide_eq_true_eq, List.isEmpty_eq_false_iff, Nat.add_eq_right, List.count_eq_zero, and_assoc,
    ne_eq] at hhead ⊢
  rw [hhead]

theorem isAddress_iff : isAddress cs = true ↔ IsAddress cs := by
  constructor
  · intro h
    have hmem : '@' ∈ cs := by
      rw [← List.count_pos_iff]
      simp only [isAddress, Bool.and_eq_true, beq_iff_eq] at h
      omega
    obtain ⟨user, domain, rfl, huser⟩ := List.eq_append_cons_of_mem hmem
    obtain ⟨hdomain, husers, hdomains, hfirst, hlast, hlength, hchars⟩ :=
      (isAddress_append huser).1 h
    constructor
    · exact ⟨user, domain, rfl, huser, hdomain, husers, hdomains, hfirst, hlast⟩
    · rw [utf8ByteSize_ofList]
      exact hlength
    · exact fun c hc => isAddressChar_iff.1 (hchars c hc)
  · rintro ⟨⟨user, domain, rfl, huser, hdomain, husers, hdomains, hfirst, hlast⟩, hlength, hchars⟩
    rw [utf8ByteSize_ofList] at hlength
    exact (isAddress_append huser).2 ⟨hdomain, husers, hdomains, hfirst, hlast, hlength,
      fun c hc => isAddressChar_iff.2 (hchars c hc)⟩

/-! ## What is read -/

theorem trim_trim (cs : List Char) : Text.trim (Text.trim cs) = Text.trim cs :=
  Text.strip_eq_self (Text.head?_strip _ _) (Text.getLast?_strip _ _)

theorem meantName_nil : meantName [] = none :=
  rfl

/-- The text is cut in two if it has no brackets, or brackets where they belong. -/
theorem split?_eq_some_iff : split? cs = some (name, address) ↔
    ('<' ∉ cs ∧ '>' ∉ cs ∧ name = [] ∧ address = cs) ∨
      (cs = name ++ ('<' :: address ++ ['>']) ∧ '<' ∉ name) := by
  constructor
  · intro h
    by_cases hopening : '<' ∈ cs
    · right
      obtain ⟨before, rest, rfl, hbefore⟩ := List.eq_append_cons_of_mem hopening
      have hlast : (before ++ '<' :: rest).getLast? = some '>' := by
        rw [split?, if_pos (.inl hopening)] at h
        split at h
        · next hends => exact hends.2
        · cases h
      -- the closing bracket at the end is not the opening one, so it stands behind it
      rcases rest.eq_nil_or_concat with rfl | ⟨inner, last, hrest⟩
      · simp at hlast
      · rw [List.concat_eq_append] at hrest
        subst hrest
        rw [← List.cons_append, ← List.append_assoc, List.getLast?_concat, Option.some_inj] at hlast
        subst hlast
        rw [← List.cons_append, split?_shown hbefore] at h
        cases h
        exact ⟨rfl, hbefore⟩
    · left
      by_cases hclosing : '>' ∈ cs
      · rw [split?, if_pos (.inr hclosing), if_neg (by simp [hopening])] at h
        cases h
      · rw [split?, if_neg (by simp [hopening, hclosing])] at h
        cases h
        exact ⟨hopening, hclosing, rfl, rfl⟩
  · rintro (⟨hopening, hclosing, rfl, rfl⟩ | ⟨rfl, hname⟩)
    · rw [split?, if_neg (by simp [hopening, hclosing])]
    · exact split?_shown hname address

/-- A text without blanks at its ends spells a mailbox. -/
inductive Spells : List Char → Mailbox → Prop where
  /-- An address alone. -/
  | bare {t : List Char} (hopening : '<' ∉ t) (hclosing : '>' ∉ t) (h : IsAddress t) :
      Spells t ⟨none, String.ofList t⟩
  /-- A name, and an address between brackets. Of the name the blanks are taken off, then quotes and
  then blanks again, and if nothing remains there is none. -/
  | named {before meant name inner address : List Char} {cs : List Char} (hbefore : '<' ∉ cs)
      (hblanks : Text.Strips Text.isBlank cs before) (hquotes : Text.Strips (· == '"') before meant)
      (hname : Text.Strips Text.isBlank meant name)
      (haddress : Text.Strips Text.isBlank inner address) (h : IsAddress address) :
      Spells (cs ++ ('<' :: inner ++ ['>']))
        ⟨if name = [] then none else some (String.ofList name), String.ofList address⟩

theorem meantName_eq (cs : List Char) : meantName cs =
    let name := Text.trim (Text.strip (· == '"') (Text.trim cs))
    if name = [] then none else some (String.ofList name) := by
  rw [meantName]
  dsimp only
  exact ite_congr (propext List.isEmpty_iff) (fun _ => rfl) fun _ => rfl

/-- The text is cut into the name and the address that it spells. -/
theorem Spells.exists_split {t : List Char} (h : Spells t m) :
    ∃ name address, split? t = some (name, address) ∧ IsAddress (Text.trim address) ∧
      m = ⟨meantName name, String.ofList (Text.trim address)⟩ := by
  cases h with
  | bare hopening hclosing h =>
    have htrim := trim_address (isAddress_iff.2 h)
    refine ⟨[], t, split?_eq_some_iff.2 (.inl ⟨hopening, hclosing, rfl, rfl⟩), ?_, ?_⟩
    · rwa [htrim]
    · rw [htrim, meantName_nil]
  | @named before meant name inner address cs hbefore hblanks hquotes hname haddress h =>
    have hmeant : meantName cs = if name = [] then none else some (String.ofList name) := by
      rw [meantName_eq, Text.trim, Text.trim, Text.strip_eq_iff.2 hblanks,
        Text.strip_eq_iff.2 hquotes, Text.strip_eq_iff.2 hname]
    refine ⟨cs, inner, split?_shown hbefore inner, ?_, ?_⟩
    · rwa [Text.trim, Text.strip_eq_iff.2 haddress]
    · rw [hmeant, Text.trim, Text.strip_eq_iff.2 haddress]

theorem Spells.isEmpty_eq_false {t : List Char} (h : Spells t m) : t.isEmpty = false := by
  cases h with
  | bare _ _ h =>
    obtain ⟨user, domain, rfl, -⟩ := h.parts
    simp
  | named => simp

/-- What is read is what the trimmed text spells. -/
theorem parse_eq_ok_iff : parse s = .ok m ↔ Spells (Text.trim s.toList) m := by
  constructor
  · intro h
    rw [parse] at h
    dsimp only at h
    split at h
    · cases h
    · split at h
      · cases h
      · next name address hsplit =>
        split at h
        · next haddress =>
          cases h
          rw [isAddress_iff] at haddress
          rcases split?_eq_some_iff.1 hsplit with ⟨hopening, hclosing, rfl, rfl⟩ | ⟨htext, hname⟩
          · rw [trim_trim] at haddress ⊢
            exact .bare hopening hclosing haddress
          · rw [htext, meantName_eq]
            exact .named hname (Text.strips_strip _ _) (Text.strips_strip _ _)
              (Text.strips_strip _ _) (Text.strips_strip _ _) haddress
        · cases h
  · intro h
    obtain ⟨name, address, hsplit, haddress, rfl⟩ := h.exists_split
    have hempty := h.isEmpty_eq_false
    rw [parse]
    simp only [hempty, hsplit, isAddress_iff.2 haddress]
    rfl

/-- What is not read is nothing at all, or it is told as it stands. -/
theorem parse_eq_error {e : InputError} (h : parse s = .error e) :
    Text.trim s.toList = [] ∧ e = .missingAddress ∨
      Text.trim s.toList ≠ [] ∧ e = .invalidAddress (String.ofList (Text.trim s.toList)) := by
  rw [parse] at h
  dsimp only at h
  split at h
  · next hempty =>
    left
    cases h
    exact ⟨List.isEmpty_iff.1 hempty, rfl⟩
  · next hfilled =>
    right
    refine ⟨fun hempty => hfilled (List.isEmpty_iff.2 hempty), ?_⟩
    split at h
    · cases h
      rfl
    · split at h
      · cases h
      · cases h
        rfl

theorem parse_eq_missing_iff : parse s = .error .missingAddress ↔ Text.trim s.toList = [] := by
  constructor
  · intro h
    rcases parse_eq_error h with ⟨hempty, -⟩ | ⟨-, heq⟩
    · exact hempty
    · cases heq
  · intro h
    rw [parse, h]
    rfl

theorem parse_eq_invalid_iff :
    parse s = .error (.invalidAddress (String.ofList (Text.trim s.toList))) ↔
      Text.trim s.toList ≠ [] ∧ ∀ m, ¬Spells (Text.trim s.toList) m := by
  constructor
  · intro h
    constructor
    · rcases parse_eq_error h with ⟨-, heq⟩ | ⟨hfilled, -⟩
      · cases heq
      · exact hfilled
    · intro m hspells
      rw [parse_eq_ok_iff.2 hspells] at h
      cases h
  · rintro ⟨hfilled, hnone⟩
    rcases hparse : parse s with e | m
    · rcases parse_eq_error hparse with ⟨hempty, -⟩ | ⟨-, rfl⟩
      · exact absurd hempty hfilled
      · rfl
    · exact absurd (parse_eq_ok_iff.1 hparse) (hnone m)

/-! ## Reading by bytes -/

/-- The rule for addresses, with the text cut at its last `@`. -/
def isAddressByBytes (cs : List Char) : Bool :=
  match Text.splitAtLast? '@' cs with
  | none => false
  | some (user, domain) =>
    !user.isEmpty && !domain.isEmpty && !user.contains '@' && domain.head? != some '.' &&
      domain.getLast? != some '.' && bytes cs ≤ maxLength && cs.all isAddressChar

/-- What is said of an address, after a name. -/
def accept (cs : List Char) (name : Option String) (address : List Char) :
    Except InputError Mailbox :=
  if isAddressByBytes address then .ok ⟨name, String.ofList address⟩
  else .error (.invalidAddress (String.ofList cs))

/-- Reads a typed mailbox, with the text cut at bytes; `none` if it cannot be cut there. -/
def parseByBytes (s : String) : Option (Except InputError Mailbox) :=
  let cs := Text.trim s.toList
  if cs.isEmpty then some (.error .missingAddress)
  else
    match Text.position? '<' cs, Text.lastPosition? '>' cs with
    | some opening, some closing =>
      if opening < closing ∧ closing = bytes cs - 1 then
        (Text.upTo? opening cs).bind fun name =>
          (Text.slice? (opening + 1) closing cs).map fun address =>
            accept cs (meantName name) (Text.trim address)
      else some (.error (.invalidAddress (String.ofList cs)))
    | none, none => some (accept cs none cs)
    | _, _ => some (.error (.invalidAddress (String.ofList cs)))

/-- If there is one `@` only, the first one is the last one. -/
theorem isAddressByBytes_eq (cs : List Char) : isAddressByBytes cs = isAddress cs := by
  rw [Bool.eq_iff_iff]
  by_cases hmem : '@' ∈ cs
  · obtain ⟨user, domain, rfl, hdomain⟩ := Text.exists_last hmem
    rw [isAddressByBytes, Text.splitAtLast?_append user hdomain]
    by_cases huser : '@' ∈ user
    · -- another `@` before the last one: both refuse, one by looking at the user, one by counting
      have hmore := List.count_pos_iff.2 huser
      simp only [isAddress, huser, List.count_append, List.count_cons_self, Bool.and_eq_true,
        beq_iff_eq, Bool.not_eq_true', List.contains_eq_mem, decide_true, Bool.true_eq_false,
        and_false, false_and, false_iff]
      omega
    · rw [isAddress_append huser]
      simp only [huser, hdomain, Bool.and_eq_true, Bool.not_eq_true', List.isEmpty_eq_false_iff,
        List.contains_eq_mem, decide_false, bne_iff_ne, decide_eq_true_eq, List.all_eq_true,
        and_assoc, true_and, not_false_eq_true]
  · have hnone : Text.splitAtLast? '@' cs = none := by
      rw [Text.splitAtLast?, Text.lastPosition?_eq_none hmem, Option.bind_none]
    have hcount : cs.count '@' ≠ 1 := by
      rw [List.count_eq_zero_of_not_mem hmem]
      decide
    simp [isAddressByBytes, hnone, isAddress, hcount]

/-- Brackets that stand where they belong are found there, and the text can be cut at them. -/
theorem brackets_of_named (h : '<' ∉ name) (address : List Char) :
    let cs := name ++ ('<' :: address ++ ['>'])
    ∃ opening closing, Text.position? '<' cs = some opening ∧
      Text.lastPosition? '>' cs = some closing ∧ (opening < closing ∧ closing = bytes cs - 1) ∧
      Text.upTo? opening cs = some name ∧ Text.slice? (opening + 1) closing cs = some address := by
  intro cs
  have hopening : ('<' : Char).utf8Size = 1 := rfl
  have hclosing : ('>' : Char).utf8Size = 1 := rfl
  have hslice := Text.slice?_append (name ++ ['<']) address ['>']
  simp only [Json.Cursor.bytes_append, Json.Cursor.bytes_cons, Json.Cursor.bytes_nil, hopening,
    Nat.add_zero, List.append_assoc, List.cons_append, List.nil_append] at hslice
  refine ⟨bytes name, bytes name + 1 + bytes address, ?_, ?_, ?_, ?_, hslice⟩
  · exact Text.position?_append h (address ++ ['>'])
  · have hlast := Text.lastPosition?_append (c := '>') (name ++ '<' :: address) List.not_mem_nil
    rw [Json.Cursor.bytes_append, Json.Cursor.bytes_cons, hopening, ← Nat.add_assoc,
      List.append_assoc] at hlast
    exact hlast
  · simp only [cs, Json.Cursor.bytes_append, Json.Cursor.bytes_cons, Json.Cursor.bytes_nil,
      hopening, hclosing]
    omega
  · exact Text.upTo?_append name _

/-- Brackets that do not stand where they belong are not taken for such. -/
theorem brackets_of_split?_eq_none (h : split? cs = none) :
    (∃ closing, Text.position? '<' cs = none ∧ Text.lastPosition? '>' cs = some closing) ∨
    (∃ opening, Text.position? '<' cs = some opening ∧ Text.lastPosition? '>' cs = none) ∨
    ∃ opening closing, Text.position? '<' cs = some opening ∧
      Text.lastPosition? '>' cs = some closing ∧ ¬(opening < closing ∧ closing = bytes cs - 1) := by
  by_cases hopening : '<' ∈ cs
  · obtain ⟨before, rest, hcs, hbefore⟩ := List.eq_append_cons_of_mem hopening
    have hfirst : Text.position? '<' cs = some (bytes before) := by
      rw [hcs, Text.position?_append hbefore]
    by_cases hclosing : '>' ∈ cs
    · right
      right
      obtain ⟨front, after, hcs', hafter⟩ := Text.exists_last hclosing
      have hlast : Text.lastPosition? '>' cs = some (bytes front) := by
        rw [hcs', Text.lastPosition?_append front hafter]
      refine ⟨_, _, hfirst, hlast, ?_⟩
      rintro ⟨-, hend⟩
      -- with nothing behind the closing bracket the brackets would be where they belong
      have hnothing : after = [] := by
        have hsize : ('>' : Char).utf8Size = 1 := rfl
        rw [hcs', Json.Cursor.bytes_append, Json.Cursor.bytes_cons, hsize] at hend
        exact Text.bytes_eq_zero_iff.1 (by omega)
      have hends : cs.getLast? = some '>' := by
        rw [hcs', hnothing, List.getLast?_concat]
      rw [split?, if_pos (.inl hopening), if_pos ⟨hopening, hends⟩] at h
      cases h
    · exact .inr (.inl ⟨_, hfirst, Text.lastPosition?_eq_none hclosing⟩)
  · by_cases hclosing : '>' ∈ cs
    · obtain ⟨front, after, rfl, hafter⟩ := Text.exists_last hclosing
      exact .inl ⟨_, Text.position?_eq_none hopening, Text.lastPosition?_append front hafter⟩
    · rw [split?, if_neg (by simp [hopening, hclosing])] at h
      cases h

theorem parseByBytes_eq (s : String) : parseByBytes s = some (parse s) := by
  rw [parseByBytes, parse]
  have htrim := trim_trim s.toList
  -- nothing but that its ends have no blanks is known of the text from here on
  generalize Text.trim s.toList = cs at htrim ⊢
  dsimp only
  split
  · rfl
  · rcases hsplit : split? cs with _ | ⟨name, address⟩
    · rcases brackets_of_split?_eq_none hsplit with ⟨closing, hfirst, hlast⟩ |
        ⟨opening, hfirst, hlast⟩ | ⟨opening, closing, hfirst, hlast, hnot⟩
      · rw [hfirst, hlast]
      · rw [hfirst, hlast]
      · rw [hfirst, hlast]
        dsimp only
        rw [if_neg hnot]
    · rcases split?_eq_some_iff.1 hsplit with ⟨hopening, hclosing, rfl, rfl⟩ | ⟨rfl, hname⟩
      · rw [Text.position?_eq_none hopening, Text.lastPosition?_eq_none hclosing]
        simp only [accept, isAddressByBytes_eq, htrim, meantName_nil]
      · obtain ⟨opening, closing, hfirst, hlast, hplace, hupTo, hslice⟩ :=
          brackets_of_named hname address
        rw [hfirst, hlast]
        dsimp only
        rw [if_pos hplace, hupTo, Option.bind_some, hslice, Option.map_some, accept,
          isAddressByBytes_eq]

/-- Every text is read as the grammar says. If nothing is left of it without the blanks, the address
is missing. If what is left spells a mailbox, that is what is read, and if it spells none it is told
as an invalid address. To read by bytes comes to the same, and no cut is ever impossible. -/
theorem reads_grammar (s : String) : ∃ t, Text.Strips Text.isBlank s.toList t ∧
    parseByBytes s = some (parse s) ∧
    (parse s = .error .missingAddress ↔ t = []) ∧
    (∀ m, parse s = .ok m ↔ Spells t m) ∧
    (parse s = .error (.invalidAddress (String.ofList t)) ↔ t ≠ [] ∧ ∀ m, ¬Spells t m) :=
  ⟨Text.trim s.toList, Text.strips_strip _ _, parseByBytes_eq s, parse_eq_missing_iff,
    fun _ => parse_eq_ok_iff, parse_eq_invalid_iff⟩

end RateHerald.Mailbox
