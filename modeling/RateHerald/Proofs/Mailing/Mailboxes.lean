import RateHerald.Mailbox

/-!
# Mailboxes that are shown can be read again

The bus names a subscriber by the shown form of the mailbox, and the mailbox is read again from it
before a mail is sent. The address survives: it has no blanks and no brackets, so it is what stands
between the first opening bracket and the closing bracket at the end, as long as the name before it
has no opening bracket. A typed mailbox never has one in its name. The name may come back changed,
since it is stripped of quotes once more.

## Main declarations

* `Mailbox.IsTyped`, and `Mailbox.isTyped_of_parse`: what is read is so.
* `Mailbox.parse_toText`: the address is read again from the shown form.
-/

namespace RateHerald.Mailbox

/-- The address is one, and the name has no opening bracket. -/
structure IsTyped (m : Mailbox) : Prop where
  /-- The address is one. -/
  address : isAddress m.address.toList = true
  /-- The name has no opening bracket. -/
  name : ∀ name, m.name = some name → '<' ∉ name.toList

/-! ## Reading -/

theorem mem_of_meantName {cs : List Char} {name : String} (h : meantName cs = some name) {c : Char}
    (hc : c ∈ name.toList) : c ∈ cs := by
  rw [meantName] at h
  split at h
  · cases h
  · rw [Option.some_inj] at h
    rw [← h, String.toList_ofList] at hc
    exact Text.mem_of_mem_strip (Text.mem_of_mem_strip (Text.mem_of_mem_strip hc))

theorem not_mem_of_split? {cs name address : List Char} (h : split? cs = some (name, address)) :
    '<' ∉ name := by
  rw [split?] at h
  split at h
  · split at h
    · rw [Option.some_inj, Prod.mk.injEq] at h
      rw [← h.1]
      intro hmem
      have hall := List.all_eq_true.1 (List.all_takeWhile (p := (· != '<')) (l := cs)) '<' hmem
      exact absurd hall (by decide)
    · cases h
  · rw [Option.some_inj, Prod.mk.injEq] at h
    rw [← h.1]
    exact List.not_mem_nil

theorem isTyped_of_parse {s : String} {m : Mailbox} (h : parse s = .ok m) : m.IsTyped := by
  rw [parse] at h
  dsimp only at h
  split at h
  · cases h
  · split at h
    · cases h
    · next name address hsplit =>
      split at h
      · next haddress =>
        rw [Except.ok.injEq] at h
        rw [← h]
        constructor
        · rwa [String.toList_ofList]
        · intro shown hshown hmem
          dsimp only at hshown
          exact not_mem_of_split? hsplit (mem_of_meantName hshown hmem)
      · cases h

theorem parse_of_toOption {s : String} {m : Mailbox} (h : (parse s).toOption = some m) :
    parse s = .ok m := by
  rcases hparse : parse s with e | m'
  · rw [hparse] at h
    cases h
  · rw [hparse, Except.toOption, Option.some_inj] at h
    rw [h]

/-! ## Reading again -/

/-- What stands before the address of a mailbox that is shown. -/
def shownName : Option String → List Char
  | some name => '"' :: name.toList ++ ['"', ' ']
  | none => []

theorem toList_toText (m : Mailbox) :
    m.toText.toList = shownName m.name ++ ('<' :: m.address.toList ++ ['>']) := by
  rw [toText]
  cases m.name with
  | none => simp [shownName]
  | some name => simp [shownName]

theorem not_mem_shownName {m : Mailbox} (h : m.IsTyped) : '<' ∉ shownName m.name := by
  cases hname : m.name with
  | none => exact List.not_mem_nil
  | some name => simpa [shownName] using h.name name hname

theorem split?_shown {name : List Char} (h : '<' ∉ name) (address : List Char) :
    split? (name ++ ('<' :: address ++ ['>'])) = some (name, address) := by
  have hbefore : ∀ c ∈ name, (c != '<') = true := fun c hc => bne_iff_ne.2 fun heq => h (heq ▸ hc)
  have hlast : (name ++ ('<' :: address ++ ['>'])).getLast? = some '>' := by
    rw [← List.append_assoc, List.getLast?_concat]
  rw [split?, if_pos (.inl (by simp)), if_pos ⟨by simp, hlast⟩,
    List.takeWhile_append_of_pos hbefore, List.dropWhile_append_of_pos hbefore]
  simp

theorem trim_address {cs : List Char} (h : isAddress cs = true) : Text.trim cs = cs := by
  have hchars : ∀ c ∈ cs, Text.isBlank c = false := by
    intro c hc
    simp only [isAddress, Bool.and_eq_true, List.all_eq_true] at h
    have hchar := h.2 c hc
    simp only [isAddressChar, Bool.and_eq_true, Bool.not_eq_true'] at hchar
    exact hchar.1.1.1.1.1
  refine Text.strip_eq_self ?_ ?_
  · cases hhead : cs.head? with
    | none => rfl
    | some c =>
      rw [Option.all_some, hchars c (List.mem_of_mem_head? hhead), Bool.not_false]
  · cases hlast : cs.getLast? with
    | none => rfl
    | some c =>
      rw [Option.all_some, hchars c (List.mem_of_mem_getLast? hlast), Bool.not_false]

theorem trim_shown (m : Mailbox) : Text.trim m.toText.toList = m.toText.toList := by
  refine Text.strip_eq_self ?_ ?_
  · rw [toList_toText]
    cases m.name <;> rfl
  · rw [toList_toText, ← List.append_assoc, List.getLast?_concat]
    rfl

/-- A typed mailbox is read again from the shown form: the address is the same, and the name is the
one that is meant by the shown name. -/
theorem parse_toText_eq {m : Mailbox} (h : m.IsTyped) :
    parse m.toText = .ok ⟨meantName (shownName m.name), m.address⟩ := by
  have hsplit := split?_shown (not_mem_shownName h) m.address.toList
  rw [← toList_toText] at hsplit
  have hempty : m.toText.toList.isEmpty = false := by
    rw [toList_toText]
    simp
  rw [parse, trim_shown, hsplit]
  simp [hempty, trim_address h.address, h.address]

/-- The address of a typed mailbox is read again from the shown form. -/
theorem parse_toText {m : Mailbox} (h : m.IsTyped) :
    ∃ m', parse m.toText = .ok m' ∧ m'.address = m.address :=
  ⟨_, parse_toText_eq h, rfl⟩

end RateHerald.Mailbox
