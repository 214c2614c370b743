import RateHerald.Text.Blank
import RateHerald.Text.Case

/-!
# Upper case as a spelling

A text without blanks at its ends and in upper case is its own upper case, and has no blanks at its
ends. So the two steps, taken once, choose one spelling for good.

All of this rests on three facts about the tables: a run never moves a code point to one that is
moved in turn, an expansion holds no code point that is moved in turn, and neither ever leads to a
blank. The first is a matter of two evenly spaced runs, `CaseRun.avoids`: either their ranges are
apart, or both go in steps of two and start at different parities.

## Main declarations

* `upper_upper`: upper case is its own upper case.
* `trim_upper_trim`: upper case brings no blanks to the ends of a text.
-/

namespace RateHerald.Text

/-! ## The tables -/

/-- The image of the first code point of a run. -/
def CaseRun.lowest (r : CaseRun) : Nat :=
  ((r.first : Int) + r.delta).toNat

/-- The image of the last code point of a run. -/
def CaseRun.highest (r : CaseRun) : Nat :=
  ((r.last : Int) + r.delta).toNat

/-- Whether the run moves nothing to `first`, `first + stride`, … up to `last`; a stride other than
two is taken for one. -/
def CaseRun.avoids (r : CaseRun) (first last stride : Nat) : Bool :=
  Nat.blt r.highest first || Nat.blt last r.lowest ||
    (Nat.beq stride 2 && (Nat.beq r.stride 2 || Nat.beq r.first r.last) &&
      Nat.blt 0 r.lowest && Nat.beq ((r.lowest + first) % 2) 1)

/-- The code points of the blanks. -/
def blankCodes : List Nat :=
  [9, 10, 11, 12, 13, 0x20, 0x85, 0xA0, 0x1680, 0x2000, 0x2001, 0x2002, 0x2003, 0x2004, 0x2005,
    0x2006, 0x2007, 0x2008, 0x2009, 0x200A, 0x2028, 0x2029, 0x202F, 0x205F, 0x3000]

/-- Whether a code point is one that upper case leaves alone and that is no blank. -/
def isSettledCode (n : Nat) : Bool :=
  (upperExpansions.lookup n).isNone && upperRuns.all (fun r => (r.image? n).isNone) &&
    !blankCodes.contains n

/-- Whether the run moves code points to settled ones only, all of them characters. -/
def CaseRun.isSettling (r : CaseRun) : Bool :=
  upperRuns.all (fun q => r.avoids q.first q.last q.stride) &&
    upperExpansions.all (fun e => r.avoids e.1 e.1 2) &&
    blankCodes.all (fun n => r.avoids n n 2) &&
    (Nat.blt r.highest 0xD800 || (Nat.blt 0xDFFF r.lowest && Nat.blt r.highest 0x110000))

theorem upperRuns_settling : upperRuns.all CaseRun.isSettling = true := by decide +kernel

theorem upperExpansions_settled :
    upperExpansions.all (fun e => !e.2.isEmpty &&
      e.2.all fun n => isSettledCode n && decide n.isValidChar) = true := by decide +kernel

/-! ## Runs -/

theorem CaseRun.image?_eq_some {r : CaseRun} {n m : Nat} (h : r.image? n = some m) :
    r.first ≤ n ∧ n ≤ r.last ∧ (n - r.first) % r.stride = 0 ∧ m = ((n : Int) + r.delta).toNat := by
  rw [CaseRun.image?] at h
  split at h
  · next hin => exact ⟨hin.1, hin.2.1, hin.2.2, (Option.some.inj h).symm⟩
  · cases h

/-- An image lies in the range of its run, and at the parity where the run starts if the run goes in
steps of two. -/
theorem CaseRun.image?_range {r : CaseRun} {n m : Nat} (h : r.image? n = some m) :
    r.lowest ≤ m ∧ m ≤ r.highest ∧
      ((r.stride = 2 ∨ r.first = r.last) → 0 < r.lowest → m % 2 = r.lowest % 2) := by
  obtain ⟨hfirst, hlast, hstep, rfl⟩ := image?_eq_some h
  rw [lowest, highest]
  refine ⟨by omega, by omega, ?_⟩
  rintro (hstride | hone) hpos
  · rw [hstride] at hstep
    omega
  · omega

theorem CaseRun.not_mem_of_avoids {r : CaseRun} {n m first last stride : Nat}
    (h : r.image? n = some m) (ha : r.avoids first last stride = true) :
    ¬(first ≤ m ∧ m ≤ last ∧ (m - first) % stride = 0) := by
  obtain ⟨hlow, hhigh, hparity⟩ := image?_range h
  simp only [avoids, Bool.or_eq_true, Bool.and_eq_true, Nat.blt_eq, Nat.beq_eq] at ha
  rintro ⟨hfirst, hlast, hstep⟩
  -- the image is above the last of them, or below the first, or of the other parity
  rcases ha with (ha | ha) | ⟨⟨⟨rfl, hstride⟩, hpos⟩, hodd⟩
  · omega
  · omega
  · have hm := hparity hstride hpos
    omega

theorem CaseRun.image?_eq_none_of_avoids {r q : CaseRun} {n m : Nat} (h : r.image? n = some m)
    (ha : r.avoids q.first q.last q.stride = true) : q.image? m = none := by
  rw [CaseRun.image?, if_neg (not_mem_of_avoids h ha)]

theorem CaseRun.ne_of_avoids {r : CaseRun} {n m k : Nat} (h : r.image? n = some m)
    (ha : r.avoids k k 2 = true) : m ≠ k := by
  rintro rfl
  exact not_mem_of_avoids h ha ⟨Nat.le_refl _, Nat.le_refl _, by omega⟩

/-! ## Settled code points -/

theorem isSettledCode_iff {n : Nat} : isSettledCode n = true ↔
    upperExpansions.lookup n = none ∧ (∀ r ∈ upperRuns, r.image? n = none) ∧ n ∉ blankCodes := by
  simp only [isSettledCode, Bool.and_eq_true, List.all_eq_true, Option.isNone_iff_eq_none,
    Bool.not_eq_true', List.contains_eq_mem, decide_eq_false_iff_not, and_assoc]

theorem isSettledCode_of_run {r : CaseRun} {n m : Nat} (hr : r ∈ upperRuns)
    (h : r.image? n = some m) : isSettledCode m = true ∧ m.isValidChar := by
  have hs : r.isSettling = true := List.all_eq_true.1 upperRuns_settling r hr
  simp only [CaseRun.isSettling, Bool.and_eq_true, List.all_eq_true, Bool.or_eq_true,
    Nat.blt_eq] at hs
  obtain ⟨⟨⟨hruns, hkeys⟩, hblanks⟩, hvalid⟩ := hs
  constructor
  · refine isSettledCode_iff.2 ⟨List.lookup_eq_none_iff.2 fun e he => ?_, ?_, ?_⟩
    · exact bne_iff_ne.2 (r.ne_of_avoids h (hkeys e he))
    · exact fun q hq => r.image?_eq_none_of_avoids h (hruns q hq)
    · exact fun hm => r.ne_of_avoids h (hblanks m hm) rfl
  · obtain ⟨hlow, hhigh, -⟩ := r.image?_range h
    simp only [Nat.isValidChar]
    omega

theorem isSettledCode_of_expansion {n : Nat} {image : List Nat}
    (h : upperExpansions.lookup n = some image) :
    image ≠ [] ∧ ∀ m ∈ image, isSettledCode m = true ∧ m.isValidChar := by
  obtain ⟨before, after, htable, -⟩ := List.lookup_eq_some_iff.1 h
  have hmem : (n, image) ∈ upperExpansions := by simp [htable]
  have hs := List.all_eq_true.1 upperExpansions_settled _ hmem
  simp only [Bool.and_eq_true, Bool.not_eq_true', List.isEmpty_eq_false_iff, List.all_eq_true,
    decide_eq_true_eq] at hs
  exact hs

/-- Upper case of a code point is itself, or it is made of settled code points. -/
theorem mapCase_upper (n : Nat) : mapCase upperExpansions upperRuns n = [n] ∨
    (mapCase upperExpansions upperRuns n ≠ [] ∧
      ∀ m ∈ mapCase upperExpansions upperRuns n, isSettledCode m = true ∧ m.isValidChar) := by
  rw [mapCase]
  split
  · next image h => exact .inr (isSettledCode_of_expansion h)
  · cases h : upperRuns.findSome? (·.image? n) with
    | none => exact .inl rfl
    | some m =>
      obtain ⟨r, hr, hm⟩ := List.exists_of_findSome?_eq_some h
      refine .inr ⟨by simp, fun k hk => ?_⟩
      rw [Option.getD_some, List.mem_singleton] at hk
      exact hk ▸ isSettledCode_of_run hr hm

theorem mapCase_upper_of_settled {n : Nat} (h : isSettledCode n = true) :
    mapCase upperExpansions upperRuns n = [n] := by
  obtain ⟨hkey, hruns, -⟩ := isSettledCode_iff.1 h
  rw [mapCase, hkey, List.findSome?_eq_none_iff.2 hruns]
  rfl

/-! ## Characters -/

theorem toNat_ofNat {n : Nat} (h : n.isValidChar) : (Char.ofNat n).toNat = n := by
  rw [Char.ofNat, dif_pos h]
  rfl

theorem mem_blankCodes {c : Char} (h : isBlank c = true) : c.toNat ∈ blankCodes := by
  simp only [isBlank, Bool.or_eq_true, Bool.and_eq_true, decide_eq_true_eq, beq_iff_eq] at h
  simp only [blankCodes, List.mem_cons, List.not_mem_nil, or_false]
  omega

theorem ascii_upper : ∀ n < 0x80, mapCase upperExpansions upperRuns n =
    [(Char.ofNat n).toUpper.toNat] := by decide +kernel

/-- The plain letters follow the tables as well. -/
theorem upperChar_eq_map (c : Char) :
    upperChar c = (mapCase upperExpansions upperRuns c.toNat).map Char.ofNat := by
  rw [upperChar]
  split
  · next h =>
      rw [ascii_upper _ h]
      simp
  · rfl

/-- Upper case of a character is itself, or it is made of settled characters. -/
theorem upperChar_cases (c : Char) : upperChar c = [c] ∨
    (upperChar c ≠ [] ∧ ∀ d ∈ upperChar c, isSettledCode d.toNat = true) := by
  rw [upperChar_eq_map]
  rcases mapCase_upper c.toNat with h | ⟨hne, hall⟩
  · left
    rw [h, List.map_singleton, Char.ofNat_toNat]
  · refine .inr ⟨by simpa using hne, fun d hd => ?_⟩
    obtain ⟨m, hm, rfl⟩ := List.mem_map.1 hd
    obtain ⟨hs, hv⟩ := hall m hm
    rwa [toNat_ofNat hv]

theorem upperChar_of_settled {d : Char} (h : isSettledCode d.toNat = true) : upperChar d = [d] := by
  rw [upperChar_eq_map, mapCase_upper_of_settled h, List.map_singleton, Char.ofNat_toNat]

/-- Upper case leaves its own images alone. -/
theorem upperChar_of_mem {c d : Char} (h : d ∈ upperChar c) : upperChar d = [d] := by
  rcases upperChar_cases c with hc | ⟨-, hall⟩
  · rw [hc, List.mem_singleton] at h
    exact h ▸ hc
  · exact upperChar_of_settled (hall d h)

theorem upperChar_ne_nil (c : Char) : upperChar c ≠ [] := by
  rcases upperChar_cases c with hc | ⟨hne, -⟩
  · rw [hc]
    exact List.cons_ne_nil _ _
  · exact hne

/-- Upper case makes no blank out of a character that is none. -/
theorem not_isBlank_of_mem_upperChar {c d : Char} (hc : isBlank c = false)
    (h : d ∈ upperChar c) : isBlank d = false := by
  rcases upperChar_cases c with heq | ⟨-, hall⟩
  · rw [heq, List.mem_singleton] at h
    exact h ▸ hc
  · have hd := (isSettledCode_iff.1 (hall d h)).2.2
    exact Bool.eq_false_iff.2 fun hb => hd (mem_blankCodes hb)

/-! ## Texts -/

theorem upper_eq_self {cs : List Char} (h : ∀ c ∈ cs, upperChar c = [c]) : upper cs = cs := by
  induction cs with
  | nil => rfl
  | cons c cs ih =>
    obtain ⟨hc, hcs⟩ := List.forall_mem_cons.1 h
    rw [upper, List.flatMap_cons, hc, ← upper, ih hcs, List.singleton_append]

theorem upper_upper (cs : List Char) : upper (upper cs) = upper cs := by
  refine upper_eq_self fun d hd => ?_
  obtain ⟨c, -, hc⟩ := List.mem_flatMap.1 hd
  exact upperChar_of_mem hc

/-- Upper case brings no blanks to the beginning of a text. -/
theorem head?_upper {cs : List Char} (h : cs.head?.all (!isBlank ·) = true) :
    (upper cs).head?.all (!isBlank ·) = true := by
  cases cs with
  | nil => rfl
  | cons c cs =>
    rw [List.head?_cons, Option.all_some, Bool.not_eq_true'] at h
    rw [upper, List.flatMap_cons]
    cases hc : upperChar c with
    | nil => exact absurd hc (upperChar_ne_nil c)
    | cons d ds =>
      have hd : isBlank d = false := not_isBlank_of_mem_upperChar h (by simp [hc])
      simp [hd]

/-- Upper case brings no blanks to the end of a text. -/
theorem getLast?_upper {cs : List Char} (h : cs.getLast?.all (!isBlank ·) = true) :
    (upper cs).getLast?.all (!isBlank ·) = true := by
  rcases List.eq_nil_or_concat cs with rfl | ⟨ds, c, rfl⟩
  · rfl
  · rw [List.concat_eq_append] at h ⊢
    rw [List.getLast?_concat, Option.all_some, Bool.not_eq_true'] at h
    rw [upper_append, List.getLast?_append]
    have hc : upper [c] = upperChar c := by simp [upper]
    rw [hc]
    cases hl : (upperChar c).getLast? with
    | none => exact absurd (List.getLast?_eq_none_iff.1 hl) (upperChar_ne_nil c)
    | some d =>
      have hd := not_isBlank_of_mem_upperChar h (List.mem_of_getLast? hl)
      simp [hd]

theorem trim_upper_trim (cs : List Char) : trim (upper (trim cs)) = upper (trim cs) :=
  strip_eq_self (head?_upper (head?_strip isBlank cs)) (getLast?_upper (getLast?_strip isBlank cs))

end RateHerald.Text
