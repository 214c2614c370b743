import RateHerald.Pair
import RateHerald.Proofs.Pairs.Codes

/-!
# The grammar of typed pairs

A typed pair is two codes with one divider between them, each in any letter case and with any blanks
around it. It is cut at its first divider only, and a further one is left to the rule for codes.
This comes to the same: a divider is no blank and its own upper case, so it is still there when the
code is brought to its one spelling, and no acceptable code has one.

## Main declarations

* `Pair.Spells` is the grammar, and `Pair.parse_eq_ok_iff` says that it is what is read.
* `Pair.spells_of_isVariant`: an acceptable pair may be written with each divider and in any letter
  case.
* `Pair.parse_grammar` puts this together.
-/

namespace RateHerald.Pair

variable {cs base quote : List Char} {divider c : Char} {s : String} {p : Pair}

/-! ## Dividers -/

/-- The characters that divide the codes of a typed pair. -/
def dividers : List Char := ['/', '_', '-']

theorem isDivider_iff : isDivider c = true ↔ c ∈ dividers := by
  simp [isDivider, dividers, or_assoc]

theorem dividers_plain : ∀ c ∈ dividers,
    Text.isBlank c = false ∧ c.toNat < 0x80 ∧ c.toUpper = c ∧ Text.isCapital c = false := by
  simp only [dividers, List.forall_mem_cons]
  exact ⟨by decide, by decide, by decide, List.forall_mem_nil _⟩

/-- A divider is still there in the one spelling of a code. -/
theorem mem_spelling_of_divider (hc : c ∈ dividers) (h : c ∈ cs) : c ∈ Currency.spelling cs := by
  obtain ⟨hblank, hplain, hupper, -⟩ := dividers_plain c hc
  refine List.mem_flatMap.2 ⟨c, Text.mem_strip h hblank, ?_⟩
  rw [Text.upperChar_of_plain hplain, hupper]
  exact List.mem_singleton_self c

theorem not_mem_dividers (h : Currency.IsPlain (Currency.spelling cs)) :
    ∀ c ∈ cs, c ∉ dividers := by
  intro c hmem hc
  have hcapital := Currency.isCapital_iff.2 (h.2 c (mem_spelling_of_divider hc hmem))
  rw [(dividers_plain c hc).2.2.2] at hcapital
  cases hcapital

theorem split?_eq_some_iff : split? cs = some (base, quote) ↔
    ∃ divider ∈ dividers, cs = base ++ divider :: quote ∧ ∀ c ∈ base, c ∉ dividers := by
  have hnot : ∀ c : Char, (!isDivider c) = true ↔ c ∉ dividers := by
    intro c
    rw [← isDivider_iff, Bool.not_eq_true', Bool.not_eq_true]
  constructor
  · intro h
    rw [split?] at h
    split at h
    · cases h
    · next divider rest hrest =>
      cases h
      have hdivider : isDivider divider = true := by
        have hhead := List.head?_dropWhile_not (fun c => !isDivider c) cs
        rw [hrest] at hhead
        simpa using hhead
      refine ⟨divider, isDivider_iff.1 hdivider, ?_, fun c hc => ?_⟩
      · rw [← hrest, List.takeWhile_append_dropWhile]
      · exact (hnot c).1 (List.all_eq_true.1 List.all_takeWhile c hc)
  · rintro ⟨divider, hdivider, rfl, hbase⟩
    have hall : ∀ c ∈ base, (!isDivider c) = true := fun c hc => (hnot c).2 (hbase c hc)
    have hstop : isDivider divider = true := isDivider_iff.2 hdivider
    rw [split?, List.dropWhile_append_of_pos hall, List.takeWhile_append_of_pos hall]
    simp [hstop]

/-! ## What is read -/

/-- The text spells the pair: it has one divider, and what stands on either side of it is, trimmed
and in upper case, an acceptable code. -/
inductive Spells : List Char → Pair → Prop where
  /-- A text with one divider. -/
  | divided {base quote : List Char} {divider : Char} (hdivider : divider ∈ dividers)
      (hbase : ∀ c ∈ base, c ∉ dividers) (hquote : ∀ c ∈ quote, c ∉ dividers)
      (hplain : Currency.IsPlain (Text.upper (Text.trim base)))
      (hplain' : Currency.IsPlain (Text.upper (Text.trim quote))) :
      Spells (base ++ divider :: quote) (ofTexts (String.ofList base) (String.ofList quote))

theorem isValid_ofTexts (base quote : List Char) :
    (ofTexts (String.ofList base) (String.ofList quote)).isValid = true ↔
      Currency.IsPlain (Currency.spelling base) ∧ Currency.IsPlain (Currency.spelling quote) := by
  rw [isValid, Bool.and_eq_true, ofTexts, Currency.isValid_iff, Currency.isValid_iff,
    Currency.toList_ofText, Currency.toList_ofText, String.toList_ofList, String.toList_ofList]

theorem Spells.isValid (h : Spells cs p) : p.isValid = true := by
  cases h with
  | divided _ _ _ hplain hplain' => exact (isValid_ofTexts _ _).2 ⟨hplain, hplain'⟩

/-- A text that can be cut is read if the pair of its two sides is acceptable. -/
theorem parse_of_split? (h : split? s.toList = some (base, quote)) : parse s = .ok p ↔
    ofTexts (String.ofList base) (String.ofList quote) = p ∧ p.isValid = true := by
  rw [parse, h]
  dsimp only
  rcases hvalidate : (ofTexts (String.ofList base) (String.ofList quote)).validate with e | ⟨⟩
  · refine iff_of_false nofun fun ⟨hpair, hvalid⟩ => ?_
    rw [hpair, validate_eq_ok_iff.2 hvalid] at hvalidate
    cases hvalidate
  · have hvalid := validate_eq_ok_iff.1 hvalidate
    refine ⟨fun hok => ?_, fun ⟨hpair, _⟩ => congrArg Except.ok hpair⟩
    cases hok
    exact ⟨rfl, hvalid⟩

/-- What is read is what the text spells. -/
theorem parse_eq_ok_iff : parse s = .ok p ↔ Spells s.toList p := by
  constructor
  · intro h
    cases hsplit : split? s.toList with
    | none =>
      rw [parse, hsplit] at h
      cases h
    | some sides =>
      obtain ⟨base, quote⟩ := sides
      obtain ⟨rfl, hvalid⟩ := (parse_of_split? hsplit).1 h
      obtain ⟨divider, hdivider, htext, hbase⟩ := split?_eq_some_iff.1 hsplit
      obtain ⟨hplain, hplain'⟩ := (isValid_ofTexts base quote).1 hvalid
      rw [htext]
      exact .divided hdivider hbase (not_mem_dividers hplain') hplain hplain'
  · intro h
    have hvalid := h.isValid
    generalize hcs : s.toList = cs at h
    cases h with
    | @divided base quote divider hdivider hbase hquote hplain hplain' =>
      exact (parse_of_split? (split?_eq_some_iff.2 ⟨divider, hdivider, hcs, hbase⟩)).2 ⟨rfl, hvalid⟩

/-! ## What is written -/

/-- An acceptable pair is spelled by its codes in any letter case and with any blanks around them,
with each divider between them. -/
theorem spells_of_isVariant (hvalid : p.isValid = true) (hdivider : divider ∈ dividers)
    (hbase : p.base.IsVariant base) (hquote : p.quote.IsVariant quote) :
    Spells (base ++ divider :: quote) p := by
  rw [isValid, Bool.and_eq_true, Currency.isValid_iff, Currency.isValid_iff,
    ← hbase.spelling_eq, ← hquote.spelling_eq] at hvalid
  have hpair : p = ofTexts (String.ofList base) (String.ofList quote) := by
    obtain ⟨b, q⟩ := p
    rw [ofTexts, Currency.ofText_eq_iff.2 (by rw [String.toList_ofList, hbase.spelling_eq]),
      Currency.ofText_eq_iff.2 (by rw [String.toList_ofList, hquote.spelling_eq])]
  rw [hpair]
  exact .divided hdivider (not_mem_dividers hvalid.1) (not_mem_dividers hvalid.2) hvalid.1 hvalid.2

theorem spells_toText (hvalid : p.isValid = true) : Spells p.toText.toList p := by
  have h : Spells (p.base.code.toList ++ '/' :: p.quote.code.toList) p :=
    spells_of_isVariant hvalid (by decide) p.base.isVariant_self p.quote.isVariant_self
  rw [toText]
  simpa using h

/-- Every text is read as the grammar says, and what is read is acceptable. An acceptable pair is
read from its codes in any letter case, with any blanks around them and with each divider between
them, and so it is from its shown form. -/
theorem parse_grammar :
    (∀ (s : String) (p : Pair), parse s = .ok p ↔ Spells s.toList p) ∧
    (∀ (s : String) (p : Pair), parse s = .ok p → p.isValid = true) ∧
    (∀ (p : Pair) (base quote : List Char) (divider : Char), p.isValid = true →
      divider ∈ dividers → p.base.IsVariant base → p.quote.IsVariant quote →
      parse (String.ofList (base ++ divider :: quote)) = .ok p) ∧
    ∀ p : Pair, p.isValid = true → parse p.toText = .ok p := by
  refine ⟨fun s p => parse_eq_ok_iff, fun s p h => (parse_eq_ok_iff.1 h).isValid,
    fun p base quote divider hvalid hdivider hbase hquote => ?_,
    fun p hvalid => parse_eq_ok_iff.2 (spells_toText hvalid)⟩
  rw [parse_eq_ok_iff, String.toList_ofList]
  exact spells_of_isVariant hvalid hdivider hbase hquote

/-- A pair typed in small letters, one of them not plain, with blanks that are not all spaces. -/
theorem parse_grammar_of_small :
    (ofTexts "USD" "UAH").isValid = true ∧ '_' ∈ dividers ∧
      (ofTexts "USD" "UAH").base.IsVariant ['\u2003', 'u', 'ſ', 'd'] ∧
      (ofTexts "USD" "UAH").quote.IsVariant ['\t', 'u', 'A', 'h', ' '] ∧
      parse (String.ofList (['\u2003', 'u', 'ſ', 'd'] ++ '_' :: ['\t', 'u', 'A', 'h', ' '])) =
        .ok (ofTexts "USD" "UAH") := by
  have hvalid : (ofTexts "USD" "UAH").isValid = true := by decide +kernel
  have hbase : (ofTexts "USD" "UAH").base.IsVariant ['\u2003', 'u', 'ſ', 'd'] :=
    ⟨['\u2003'], ['u', 'ſ', 'd'], [], rfl, List.forall_mem_singleton.2 (by decide),
      List.forall_mem_nil _, by decide +kernel⟩
  have hquote : (ofTexts "USD" "UAH").quote.IsVariant ['\t', 'u', 'A', 'h', ' '] :=
    ⟨['\t'], ['u', 'A', 'h'], [' '], rfl, List.forall_mem_singleton.2 (by decide),
      List.forall_mem_singleton.2 (by decide), by decide +kernel⟩
  exact ⟨hvalid, by decide, hbase, hquote,
    parse_grammar.2.2.1 _ _ _ '_' hvalid (by decide) hbase hquote⟩

end RateHerald.Pair
