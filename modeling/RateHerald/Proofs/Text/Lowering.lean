import RateHerald.Text.Spelling

/-!
# What lower case is made of

Lower case may turn a character into others, and the full mappings reach far: the Kelvin sign becomes
a plain `k`, and a capital `I` with a dot becomes a plain `i` and a combining dot. It never makes a
plain character that is no letter. So a separator, a control or a point in the lower case of a text
was in the text already.

The tables are checked once, run by run; after that only the fact about a code point is used.

## Main declarations

* `lowerRuns_lowering` and `lowerExpansions_lowered`: what the tables lead to.
* `mem_of_mem_lower`: where the characters of a lower case come from.
-/

namespace RateHerald.Text

/-! ## The tables -/

/-- Whether a code point is a letter or no plain character at all. -/
def isLetterCode (n : Nat) : Bool :=
  Nat.ble 0x80 n || (Char.ofNat n).isAlpha

/-- The plain characters that are no letters. -/
def signCodes : List Nat :=
  (List.range 0x80).filter fun n => !isLetterCode n

/-- Whether the run moves code points to letters or away from the plain characters, and to characters
only. -/
def CaseRun.isLowering (r : CaseRun) : Bool :=
  signCodes.all (fun n => r.avoids n n 2) &&
    (Nat.blt r.highest 0xD800 || (Nat.blt 0xDFFF r.lowest && Nat.blt r.highest 0x110000))

theorem lowerRuns_lowering : lowerRuns.all CaseRun.isLowering = true := by decide +kernel

theorem lowerExpansions_lowered :
    lowerExpansions.all (fun e => e.2.all fun n => isLetterCode n && decide n.isValidChar) = true := by
  decide +kernel

/-- The plain letters stay letters. -/
theorem toLower_ascii : ∀ n < 0x80, (Char.ofNat n).toLower = Char.ofNat n ∨
    isLetterCode (Char.ofNat n).toLower.toNat = true := by decide +kernel

/-! ## Code points -/

theorem mem_signCodes {n : Nat} (h : isLetterCode n = false) : n ∈ signCodes := by
  have hplain : n < 0x80 := by
    simp only [isLetterCode, Bool.or_eq_false_iff] at h
    exact Nat.lt_of_not_ge fun hge => by simp [Nat.ble_eq_true_of_le hge] at h
  rw [signCodes, List.mem_filter]
  exact ⟨List.mem_range.2 hplain, by rw [h]; rfl⟩

theorem isLetterCode_of_run {r : CaseRun} {n m : Nat} (hr : r ∈ lowerRuns)
    (h : r.image? n = some m) : isLetterCode m = true ∧ m.isValidChar := by
  have hs : r.isLowering = true := List.all_eq_true.1 lowerRuns_lowering r hr
  simp only [CaseRun.isLowering, Bool.and_eq_true, List.all_eq_true, Bool.or_eq_true,
    Nat.blt_eq] at hs
  obtain ⟨hsigns, hvalid⟩ := hs
  constructor
  · refine Bool.of_not_eq_false fun hsign => ?_
    exact r.ne_of_avoids h (hsigns m (mem_signCodes hsign)) rfl
  · obtain ⟨hlow, hhigh, -⟩ := r.image?_range h
    simp only [Nat.isValidChar]
    omega

theorem isLetterCode_of_expansion {n : Nat} {image : List Nat}
    (h : lowerExpansions.lookup n = some image) :
    ∀ m ∈ image, isLetterCode m = true ∧ m.isValidChar := by
  obtain ⟨before, after, htable, -⟩ := List.lookup_eq_some_iff.1 h
  have hmem : (n, image) ∈ lowerExpansions := by simp [htable]
  have hs := List.all_eq_true.1 lowerExpansions_lowered _ hmem
  simp only [List.all_eq_true, Bool.and_eq_true, decide_eq_true_eq] at hs
  exact hs

/-- Lower case of a code point is itself, or it is made of letters and of what is not plain. -/
theorem mapCase_lower (n : Nat) : mapCase lowerExpansions lowerRuns n = [n] ∨
    ∀ m ∈ mapCase lowerExpansions lowerRuns n, isLetterCode m = true ∧ m.isValidChar := by
  rw [mapCase]
  split
  · next image h => exact .inr (isLetterCode_of_expansion h)
  · cases h : lowerRuns.findSome? (·.image? n) with
    | none => exact .inl rfl
    | some m =>
      obtain ⟨r, hr, hm⟩ := List.exists_of_findSome?_eq_some h
      refine .inr fun k hk => ?_
      rw [Option.getD_some, List.mem_singleton] at hk
      exact hk ▸ isLetterCode_of_run hr hm

/-! ## Characters and texts -/

theorem mem_lowerChar {c d : Char} (h : d ∈ lowerChar c) : d = c ∨ isLetterCode d.toNat = true := by
  rw [lowerChar] at h
  split at h
  · next hplain =>
    rw [List.mem_singleton] at h
    have hlower := toLower_ascii _ hplain
    rw [Char.ofNat_toNat] at hlower
    exact h ▸ hlower
  · rcases mapCase_lower c.toNat with hsame | hall
    · rw [hsame, List.map_singleton, List.mem_singleton, Char.ofNat_toNat] at h
      exact .inl h
    · obtain ⟨m, hm, rfl⟩ := List.mem_map.1 h
      obtain ⟨hletter, hvalid⟩ := hall m hm
      rw [toNat_ofNat hvalid]
      exact .inr hletter

theorem mem_of_mem_lowerAfter {before cs : List Char} {d : Char} (h : d ∈ lowerAfter before cs) :
    d ∈ cs ∨ isLetterCode d.toNat = true := by
  induction cs generalizing before with
  | nil => exact absurd h List.not_mem_nil
  | cons c rest ih =>
    rw [lowerAfter] at h
    rcases List.mem_append.1 h with himage | hrest
    · split at himage
      · -- both small sigmas are far from the plain characters
        right
        rw [List.mem_singleton] at himage
        split at himage <;> rw [himage] <;> decide
      · rcases mem_lowerChar himage with rfl | hletter
        · exact .inl List.mem_cons_self
        · exact .inr hletter
    · exact (ih hrest).imp_left (List.mem_cons_of_mem c)

/-- What is in the lower case of a text is in the text, or it is a letter or not plain. -/
theorem mem_of_mem_lower {cs : List Char} {d : Char} (h : d ∈ lower cs) :
    d ∈ cs ∨ isLetterCode d.toNat = true :=
  mem_of_mem_lowerAfter h

/-- The Kelvin sign becomes a plain letter. -/
example : lower ['\u212A', '/'] = ['k', '/'] := by decide +kernel

end RateHerald.Text
