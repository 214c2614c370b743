import RateHerald.Proofs.Json.Grammar

/-!
# Every value is passed over

The scan that passes over a value works piece by piece and keeps a list of open brackets. Whatever
brackets are open around it, a value takes the scan from where a value is expected to where a comma
or an end is, and it stops exactly behind the value. By induction on the grammar this holds at any
depth, and the number of pieces is at most twice the number of characters, so the scan never ends
early.

## Main declarations

* `Passes` says that a number of pieces takes the scan over some characters.
* `IsPassed` says that the scan passes over a value; `isPassed_of_isValue`: it does so for all.
* `skipValue_append`: the scan that starts at a value ends behind it.
-/

namespace RateHerald.Json

/-! ## Words and numbers -/

theorem readWord_append (word : List Char) (offset : Nat) (rest : List Char) :
    readWord word ⟨offset, word ++ rest⟩ = .ok ((), ⟨offset + Cursor.bytes word, rest⟩) := by
  induction word generalizing offset with
  | nil => rfl
  | cons w word ih =>
    rw [readWord, List.cons_append]
    dsimp only
    rw [if_pos rfl, Cursor.skip_one, ih, Cursor.bytes_cons, Nat.add_assoc]

theorem skipDigits_append {ds rest : List Char} (h : IsDigits ds) (hrest : Halts rest)
    (offset : Nat) : skipDigits ⟨offset, ds ++ rest⟩ = ⟨offset + Cursor.bytes ds, rest⟩ := by
  rw [skipDigits, h.takeWhile_append hrest, Cursor.skip_append]

theorem skipExponent_append {sign ds rest : List Char}
    (hsign : sign = [] ∨ sign = ['+'] ∨ sign = ['-']) (h : IsDigits ds) (hrest : Halts rest)
    (offset : Nat) : skipExponent ⟨offset, sign ++ (ds ++ rest)⟩ =
      .ok ⟨offset + Cursor.bytes (sign ++ ds), rest⟩ := by
  have hskip := skipDigits_append h hrest
  obtain ⟨d, ds, rfl, hd⟩ := h.exists_cons
  rcases hsign with rfl | rfl | rfl
  · have hplus : d ≠ '+' := ne_of_isDigit hd rfl
    have hminus : d ≠ '-' := ne_of_isDigit hd rfl
    simpa [skipExponent, hplus, hminus, hd] using hskip offset
  · simpa [skipExponent, hd, Nat.add_assoc] using hskip (offset + '+'.utf8Size)
  · simpa [skipExponent, hd, Nat.add_assoc] using hskip (offset + '-'.utf8Size)

/-- The end of a number is passed over, if there is one. -/
theorem skipExponent_of_isExponent {exponent rest : List Char} (h : IsExponent exponent)
    (hrest : Ends rest) (offset : Nat) :
    (if atExponent ⟨offset, exponent ++ rest⟩ then
      skipExponent (Cursor.skip ⟨offset, exponent ++ rest⟩ 1) else .ok ⟨offset, exponent ++ rest⟩) =
        .ok ⟨offset + Cursor.bytes exponent, rest⟩ := by
  cases h with
  | none =>
    rw [List.nil_append, atExponent_of_ends hrest]
    rfl
  | @digits letter sign ds hletter hsign h =>
    rw [List.cons_append, if_pos (atExponent_of_letter hletter _ _), Cursor.skip_one,
      List.append_assoc, skipExponent_append hsign h hrest.halts, Cursor.bytes_cons, Nat.add_assoc]

theorem skipNumber_append {cs rest : List Char} (h : IsNumber cs) (hrest : Ends rest)
    (offset : Nat) : skipNumber ⟨offset, cs ++ rest⟩ = .ok ⟨offset + Cursor.bytes cs, rest⟩ := by
  obtain @⟨whole, fraction, exponent, hwhole, hfraction, hexponent⟩ := h
  have hskip := skipDigits_append hwhole.toIsDigits (hfraction.halts (hexponent.halts hrest)) offset
  obtain ⟨d, ds, rfl, hd⟩ := hwhole.exists_cons
  have hend := skipExponent_of_isExponent hexponent hrest
  have hzero := hwhole.not_zero (hfraction.halts (hexponent.halts hrest))
  rw [List.append_assoc, List.append_assoc, skipNumber, List.cons_append]
  dsimp only
  rw [hd, if_neg (by decide), if_neg hzero, ← List.cons_append, hskip]
  cases hfraction with
  | none =>
    dsimp only
    split
    · next heq => exact absurd heq (hexponent.ne_point hrest _)
    · refine (hend _).trans ?_
      simp [Nat.add_assoc]
  | @digits fs hfs =>
    have hskip := skipDigits_append hfs (hexponent.halts hrest)
    obtain ⟨f, fs, rfl, hf⟩ := hfs.exists_cons
    simp only [List.cons_append, List.head?_cons, Option.any_some, hf, if_true, Cursor.skip_one]
    rw [← List.cons_append, hskip, hend]
    simp [Nat.add_assoc]

/-! ## Texts and keys -/

theorem skipTextBody_append (ps : List Piece) (offset : Nat) (rest : List Char) :
    skipTextBody offset (ps.flatMap Piece.chars ++ '"' :: rest) =
      .ok ⟨offset + Cursor.bytes (ps.flatMap Piece.chars) + 1, rest⟩ := by
  induction ps generalizing offset with
  | nil => rw [List.flatMap_nil, List.nil_append, skipTextBody]; rfl
  | cons p ps ih =>
    rw [List.flatMap_cons, List.append_assoc, Cursor.bytes_append, ← Nat.add_assoc]
    -- the scan of one piece goes on behind it, where the induction hypothesis begins
    refine Eq.trans ?_ (ih _)
    cases p with
    | plain c hcontrol hquote hback =>
      rw [Piece.chars, List.singleton_append, skipTextBody]
      · rw [if_neg (by omega)]
        rfl
      all_goals simp [hquote, hback]
    | short e c h =>
      obtain ⟨hu, hone⟩ := spec_of_shortEscape? h
      rw [Piece.chars, List.cons_append, List.singleton_append, skipTextBody]
      · rw [h, Cursor.bytes_cons, Cursor.bytes_cons, hone]
        rfl
      all_goals simp [hu]
    | unit ds n hlength h =>
      have hfour : ∀ offset rest, readFourHex ⟨offset, ds ++ rest⟩ = .ok n := fun offset rest => by
        rw [readFourHex, fourHex?_append hlength, h]
      have hbytes : Cursor.bytes (Piece.chars (.unit ds n hlength h)) = 6 := by
        rw [Piece.chars, Cursor.bytes_cons, Cursor.bytes_cons, bytes_of_fourHex? hlength h]
        rfl
      rw [hbytes, Piece.chars, List.cons_append, List.cons_append, skipTextBody, hfour]
      dsimp only
      rw [List.drop_left' hlength]

theorem skipKey_blanks (b : Blanks) (offset : Nat) (rest : List Char) :
    skipKey ⟨offset, b.chars ++ rest⟩ = skipKey ⟨offset + Cursor.bytes b.chars, rest⟩ := by
  rw [skipKey, b.skipBlanks_append, skipKey]

/-- The key of a member and its colon are passed over. -/
theorem skipKey_label (e : Entry) (offset : Nat) (rest : List Char) :
    skipKey ⟨offset, e.label ++ rest⟩ = .ok ⟨offset + Cursor.bytes e.label, rest⟩ := by
  have hform : e.label ++ rest =
      '"' :: (e.key.flatMap Piece.chars ++ '"' :: (e.gap.chars ++ ':' :: rest)) := by
    simp [Entry.label, quoted]
  have hquote : '"'.utf8Size = 1 := rfl
  rw [hform, skipKey, Cursor.skipBlanks_cons _ _ rfl]
  simp only [bind, Except.bind, skipTextBody_append]
  rw [e.gap.skipBlanks_append_cons _ _ (by rfl)]
  simp [Entry.label, quoted, hquote, Nat.add_assoc]

/-! ## Pieces -/

/-- The character that opens a bracket. -/
def Bracket.opening : Bracket → Char
  | .list => '['
  | .object => '\x7b'

/-- The character that closes a bracket. -/
def Bracket.close : Bracket → Char
  | .list => ']'
  | .object => '\x7d'

/-- Where `cs` and then `rest` come next, `n` pieces take the scan over `cs`, from some open
brackets and something expected to others. -/
def Passes (n : Nat) (before : List Bracket × Expecting) (cs : List Char)
    (after : List Bracket × Expecting) (rest : List Char) : Prop :=
  ∀ fuel offset, skipPieces (fuel + n) before.1 before.2 ⟨offset, cs ++ rest⟩ =
    skipPieces fuel after.1 after.2 ⟨offset + Cursor.bytes cs, rest⟩

variable {s t u : List Bracket × Expecting} {n m : Nat} {cs ds rest : List Char}

theorem Passes.trans (h₁ : Passes n s cs t (ds ++ rest)) (h₂ : Passes m t ds u rest) :
    Passes (n + m) s (cs ++ ds) u rest := by
  intro fuel offset
  rw [List.append_assoc, Nat.add_comm n m, ← Nat.add_assoc, h₁, h₂, Cursor.bytes_append,
    Nat.add_assoc]

/-- One piece, as long as a bracket is open or something must come. -/
theorem Passes.step (hs : s.1 = [] → s.2 ≠ .more)
    (h : ∀ offset, skipStep s.1 s.2 ⟨offset, cs ++ rest⟩ =
      .ok (t.1, t.2, ⟨offset + Cursor.bytes cs, rest⟩)) : Passes 1 s cs t rest := by
  intro fuel offset
  rw [skipPieces, if_neg fun hdone => hs (List.isEmpty_iff.1 hdone.1) hdone.2, h]

theorem skipStep_blanks (open_ : List Bracket) (expecting : Expecting) (b : Blanks) (offset : Nat)
    (rest : List Char) : skipStep open_ expecting ⟨offset, b.chars ++ rest⟩ =
      skipStep open_ expecting ⟨offset + Cursor.bytes b.chars, rest⟩ := by
  unfold skipStep
  rw [b.skipBlanks_append]

/-- Blanks before a piece belong to it. -/
theorem Passes.blanks (hs : s.1 = [] → s.2 ≠ .more)
    (h : ∀ offset, skipStep s.1 s.2 ⟨offset, cs ++ rest⟩ =
      .ok (t.1, t.2, ⟨offset + Cursor.bytes cs, rest⟩)) (b : Blanks) :
    Passes 1 s (b.chars ++ cs) t rest := by
  refine Passes.step hs fun offset => ?_
  rw [List.append_assoc, skipStep_blanks, h, Cursor.bytes_append, Nat.add_assoc]

/-- Whatever brackets are open and whatever blanks stand before the value, the scan passes over it,
at most two pieces for a character. -/
def IsPassed (v : List Char) : Prop :=
  ∃ n ≤ 2 * v.length, ∀ (b : Blanks) (open_ : List Bracket) (rest : List Char), Ends rest →
    Passes n (open_, .value) (b.chars ++ v) (open_, .more) rest

/-- A value is passed over if one piece is enough. -/
theorem IsPassed.of_step {v : List Char} (hv : v ≠ [])
    (h : ∀ open_ offset rest, Ends rest → skipStep open_ .value ⟨offset, v ++ rest⟩ =
      .ok (open_, .more, ⟨offset + Cursor.bytes v, rest⟩)) : IsPassed v := by
  have hlength := List.length_pos_iff.2 hv
  exact ⟨1, by omega, fun b open_ rest hrest =>
    .blanks (fun _ => Expecting.noConfusion) (fun offset => h open_ offset rest hrest) b⟩

/-! ### Values of one piece -/

/-- A word is one piece. -/
theorem skipStep_word {open_ : List Bracket} {offset : Nat} {first : Char} {word rest : List Char}
    (hone : first.utf8Size = 1)
    (h : skipStep open_ .value ⟨offset, first :: (word ++ rest)⟩ =
      readWord word ⟨offset + 1, word ++ rest⟩ >>= fun r => .ok (open_, .more, r.2)) :
    skipStep open_ .value ⟨offset, (first :: word) ++ rest⟩ =
      .ok (open_, .more, ⟨offset + Cursor.bytes (first :: word), rest⟩) := by
  rw [List.cons_append, h, readWord_append, Cursor.bytes_cons, hone, Nat.add_assoc]
  rfl

/-- A number is one piece. -/
theorem isPassed_number {v : List Char} (h : IsNumber v) : IsPassed v := by
  obtain ⟨d, ds, rfl, hd⟩ := h.exists_cons
  refine .of_step (List.cons_ne_nil _ _) fun open_ offset rest hrest => ?_
  have hskip := skipNumber_append h hrest offset
  unfold skipStep
  rw [List.cons_append, Cursor.skipBlanks_cons _ _ (isBlank_of_isDigit hd)]
  dsimp only
  split
  · next heq => cases heq
  iterate 7 · next heq => exact absurd (List.cons.inj heq).1 (ne_of_isDigit hd rfl)
  · next heq =>
    obtain rfl := (List.cons.inj heq).1
    rw [if_pos hd, ← List.cons_append, hskip]
    rfl

/-! ## Lists and objects -/

section Members

variable {ι : Type} {bracket : Bracket} {lead : ι → List Char} {item : ι → Item}

/-- What stands before the values in a bracket is passed over on the way to them. -/
def Leads (bracket : Bracket) (lead : ι → List Char) : Prop :=
  ∀ p offset rest, skipToMember bracket ⟨offset, lead p ++ rest⟩ =
    .ok ⟨offset + Cursor.bytes (lead p), rest⟩

/-- The members of a bracket after the first one, each behind its comma. -/
def moreChars (lead : ι → List Char) (item : ι → Item) (parts : List ι) : List Char :=
  parts.flatMap fun p => ',' :: (lead p ++ (item p).chars)

/-- What stands behind a value in a bracket does not continue it. -/
theorem ends_behind (after : Blanks) (parts : List ι) (last : Blanks) (bracket : Bracket)
    (rest : List Char) :
    Ends (after.chars ++ (moreChars lead item parts ++ (last.chars ++ [bracket.close])) ++
      rest) := by
  have hclose : Ends (bracket.close :: rest) := by
    cases bracket with
    | list => exact ends_cons (.inr (.inr (.inl rfl))) rest
    | object => exact ends_cons (.inr (.inr (.inr rfl))) rest
  rw [List.append_assoc, List.append_assoc, List.append_assoc, List.singleton_append]
  refine ends_blanks_append _ ?_
  cases parts with
  | nil => exact ends_blanks_append last hclose
  | cons p parts => exact ends_cons (.inr (.inl rfl)) _

/-- The end of a bracket is one piece. -/
theorem passes_close (bracket : Bracket) (open_ : List Bracket) {expecting : Expecting}
    (hmember : expecting ≠ .value) (b last : Blanks) (rest : List Char) :
    Passes 1 (bracket :: open_, expecting) (b.chars ++ (last.chars ++ [bracket.close]))
      (open_, .more) rest := by
  have hclose : ∀ offset, skipStep (bracket :: open_) expecting ⟨offset, bracket.close :: rest⟩ =
      .ok (open_, .more, ⟨offset + Cursor.bytes [bracket.close], rest⟩) := fun offset => by
    cases expecting with
    | value => exact absurd rfl hmember
    | first => cases bracket <;> rfl
    | more => cases bracket <;> rfl
  refine Passes.blanks (fun h => by cases h) (fun offset => ?_) b
  rw [List.append_assoc, List.singleton_append, skipStep_blanks, hclose, Cursor.bytes_append,
    Nat.add_assoc]

/-- A comma and what stands before the next value are one piece. -/
theorem passes_comma (hlead : Leads bracket lead) (b : Blanks) (open_ : List Bracket) (p : ι)
    (rest : List Char) :
    Passes 1 (bracket :: open_, .more) (b.chars ++ ',' :: lead p) (bracket :: open_, .value)
      rest := by
  refine Passes.blanks (fun h => by cases h) (fun offset => ?_) b
  have hstep : skipStep (bracket :: open_) .more ⟨offset, ',' :: (lead p ++ rest)⟩ =
      skipToMember bracket ⟨offset + 1, lead p ++ rest⟩ >>= fun c =>
        .ok (bracket :: open_, .value, c) := by
    cases bracket <;> rfl
  rw [List.cons_append, hstep, hlead, Cursor.bytes_cons, ← Nat.add_assoc]
  rfl

/-- The members after the first one are passed over one by one until the bracket is closed: a comma
with what stands before the value, the value, and then the others, which begin with the blanks
behind it. -/
theorem exists_passes_more (hlead : Leads bracket lead) {parts : List ι}
    (hparts : ∀ p ∈ parts, IsPassed (item p).value) (last : Blanks) :
    ∃ n ≤ 2 * (moreChars lead item parts).length + 1, ∀ (b : Blanks) (open_ : List Bracket)
      (rest : List Char), Passes n (bracket :: open_, .more)
        (b.chars ++ (moreChars lead item parts ++ (last.chars ++ [bracket.close])))
        (open_, .more) rest := by
  induction parts with
  | nil =>
    exact ⟨1, Nat.le_add_left _ _, fun b open_ rest =>
      passes_close bracket open_ Expecting.noConfusion b last rest⟩
  | cons p parts ih =>
    obtain ⟨hp, hparts⟩ := List.forall_mem_cons.1 hparts
    obtain ⟨n, hn, hvalue⟩ := hp
    obtain ⟨m, hm, hmore⟩ := ih hparts
    refine ⟨1 + n + m, ?_, fun b open_ rest => ?_⟩
    · simp only [moreChars, Item.chars, List.flatMap_cons, List.length_append,
        List.length_cons] at hm ⊢
      omega
    · have hform : b.chars ++
          (moreChars lead item (p :: parts) ++ (last.chars ++ [bracket.close])) =
          b.chars ++ ',' :: lead p ++ ((item p).before.chars ++ (item p).value) ++
            ((item p).after.chars ++ (moreChars lead item parts ++
              (last.chars ++ [bracket.close]))) := by
        simp [moreChars, Item.chars]
      rw [hform]
      -- the value of `p` is passed over under one more open bracket than there is outside
      have hvalue := hvalue (item p).before (bracket :: open_) _
        (@ends_behind _ lead item (item p).after parts last bracket rest)
      exact ((passes_comma hlead b open_ p _).trans hvalue).trans (hmore (item p).after open_ rest)

/-- The beginning of a bracket is one piece. -/
theorem passes_opening (bracket : Bracket) (b : Blanks) (open_ : List Bracket) (rest : List Char) :
    Passes 1 (open_, .value) (b.chars ++ [bracket.opening]) (bracket :: open_, .first) rest :=
  Passes.blanks (fun _ => Expecting.noConfusion) (fun _ => by cases bracket <;> rfl) b

theorem isPassed_empty (bracket : Bracket) (last : Blanks) :
    IsPassed (bracket.opening :: (last.chars ++ [bracket.close])) := by
  refine ⟨1 + 1, by rw [List.length_cons]; omega, fun b open_ rest _ => ?_⟩
  rw [List.append_cons]
  exact (passes_opening bracket b open_ _).trans
    (passes_close bracket open_ Expecting.noConfusion .none last rest)

/-- A bracket is passed over if its first member is. -/
theorem isPassed_of_first (hlead : Leads bracket lead) {parts : List ι}
    (hparts : ∀ p ∈ parts, IsPassed (item p).value) (after last : Blanks) {first : List Char}
    {k : Nat} (hk : k ≤ 2 * first.length + 1)
    (hfirst : ∀ open_ rest, Ends rest →
      Passes k (bracket :: open_, .first) first (bracket :: open_, .more) rest) :
    IsPassed (bracket.opening :: (first ++ (after.chars ++ (moreChars lead item parts ++
      (last.chars ++ [bracket.close]))))) := by
  obtain ⟨m, hm, hmore⟩ := exists_passes_more hlead hparts last
  refine ⟨1 + k + m, ?_, fun b open_ rest _ => ?_⟩
  · simp only [List.length_append, List.length_cons]
    omega
  · rw [List.append_cons, ← List.append_assoc]
    exact ((passes_opening bracket b open_ _).trans
      (hfirst open_ _ (ends_behind _ _ _ _ _))).trans (hmore after open_ rest)

end Members

/-- The blanks before the first item of a list are one piece. -/
theorem passes_firstItem (b : Blanks) (open_ : List Bracket) {v : List Char} (h : IsValue v)
    (rest : List Char) :
    Passes 1 (.list :: open_, .first) b.chars (.list :: open_, .value) (v ++ rest) := by
  obtain ⟨d, ds, rfl, hblank, hclose⟩ := h.exists_cons
  refine Passes.step (fun h => by cases h) fun offset => ?_
  rw [skipStep_blanks, List.cons_append]
  unfold skipStep
  rw [Cursor.skipBlanks_cons _ _ hblank]
  simp [hclose, skipToMember, bind, Except.bind]

/-- The key of the first member of an object is one piece. -/
theorem passes_firstLabel (b : Blanks) (open_ : List Bracket) (e : Entry) (rest : List Char) :
    Passes 1 (.object :: open_, .first) (b.chars ++ e.label) (.object :: open_, .value) rest := by
  refine Passes.blanks (fun h => by cases h) (fun offset => ?_) b
  have hstep : skipStep (.object :: open_) .first ⟨offset, e.label ++ rest⟩ =
      skipKey ⟨offset, e.label ++ rest⟩ >>= fun c => .ok (.object :: open_, .value, c) := rfl
  rw [hstep, skipKey_label]
  rfl

theorem leads_nothing : Leads .list fun _ : Item => [] :=
  fun _ _ _ => rfl

/-- A list is passed over if its items are. -/
theorem isPassed_listChars {items : List Item} (hitems : ∀ i ∈ items, IsValue i.value)
    (hpassed : ∀ i ∈ items, IsPassed i.value) (last : Blanks) :
    IsPassed (listChars items last) := by
  cases items with
  | nil => exact isPassed_empty .list last
  | cons i items =>
    obtain ⟨⟨n, hn, hvalue⟩, hpassed⟩ := List.forall_mem_cons.1 hpassed
    -- the blanks before the first item are a piece of their own, so none are left before its value
    have hfirst : ∀ open_ rest, Ends rest → Passes (1 + n) (.list :: open_, .first)
        (i.before.chars ++ i.value) (.list :: open_, .more) rest := fun open_ rest hrest =>
      (passes_firstItem i.before open_ (hitems i List.mem_cons_self) rest).trans
        (hvalue .none _ rest hrest)
    have hform : listChars (i :: items) last = '[' :: (i.before.chars ++ i.value ++
        (i.after.chars ++ (moreChars (fun _ => []) id items ++ (last.chars ++ [']'])))) := by
      rw [listChars, List.map_cons, separated_cons, List.flatMap_map]
      simp [moreChars, Item.chars]
    have hbound : 1 + n ≤ 2 * (i.before.chars ++ i.value).length + 1 := by
      rw [List.length_append]
      omega
    rw [hform]
    exact @isPassed_of_first Item .list _ id leads_nothing items hpassed i.after last _ _ hbound
      hfirst

theorem leads_label : Leads .object fun e : Entry => e.margin.chars ++ e.label :=
  fun e offset rest => by
    rw [skipToMember, List.append_assoc, skipKey_blanks, skipKey_label, Cursor.bytes_append,
      Nat.add_assoc]

/-- An object is passed over if the values of its members are. -/
theorem isPassed_objectChars {entries : List Entry} (hpassed : ∀ e ∈ entries, IsPassed e.value)
    (last : Blanks) : IsPassed (objectChars entries last) := by
  cases entries with
  | nil => exact isPassed_empty .object last
  | cons e entries =>
    obtain ⟨⟨n, hn, hvalue⟩, hpassed⟩ := List.forall_mem_cons.1 hpassed
    have hfirst : ∀ open_ rest, Ends rest → Passes (1 + n) (.object :: open_, .first)
        (e.margin.chars ++ e.label ++ (e.before.chars ++ e.value)) (.object :: open_, .more)
        rest := fun open_ rest hrest =>
      (passes_firstLabel e.margin open_ e _).trans (hvalue e.before _ rest hrest)
    have hform : objectChars (e :: entries) last = '\x7b' ::
        (e.margin.chars ++ e.label ++ (e.before.chars ++ e.value) ++ (e.after.chars ++
          (moreChars (fun e => e.margin.chars ++ e.label) Entry.toItem entries ++
            (last.chars ++ ['\x7d'])))) := by
      rw [objectChars, List.map_cons, separated_cons, List.flatMap_map]
      simp [moreChars, Item.chars, Entry.chars]
    have hbound : 1 + n ≤
        2 * (e.margin.chars ++ e.label ++ (e.before.chars ++ e.value)).length + 1 := by
      simp only [List.length_append]
      omega
    rw [hform]
    exact @isPassed_of_first Entry .object _ Entry.toItem leads_label entries hpassed e.after last
      _ _ hbound hfirst

/-! ## Values -/

/-- Every value is passed over. -/
theorem isPassed_of_isValue {v : List Char} (h : IsValue v) : IsPassed v := by
  induction h with
  | null =>
    exact .of_step (List.cons_ne_nil _ _) fun _ _ _ _ => skipStep_word rfl rfl
  | yes =>
    exact .of_step (List.cons_ne_nil _ _) fun _ _ _ _ => skipStep_word rfl rfl
  | no =>
    exact .of_step (List.cons_ne_nil _ _) fun _ _ _ _ => skipStep_word rfl rfl
  | number h => exact isPassed_number h
  | @negative cs h =>
    refine .of_step (List.cons_ne_nil _ _) fun open_ offset rest hrest => ?_
    have hskip := skipNumber_append h hrest (offset + 1)
    have hstep : skipStep open_ .value ⟨offset, '-' :: (cs ++ rest)⟩ =
        skipNumber ⟨offset + 1, cs ++ rest⟩ >>= fun c => .ok (open_, .more, c) := rfl
    rw [List.cons_append, hstep, hskip, Cursor.bytes_cons, Nat.add_assoc]
    rfl
  | text ps =>
    refine .of_step (List.cons_ne_nil _ _) fun open_ offset rest _ => ?_
    have hstep : skipStep open_ .value ⟨offset, '"' :: (ps.flatMap Piece.chars ++ '"' :: rest)⟩ =
        skipTextBody (offset + 1) (ps.flatMap Piece.chars ++ '"' :: rest) >>= fun c =>
          .ok (open_, .more, c) := rfl
    have hbytes : Cursor.bytes (quoted ps) = 1 + (Cursor.bytes (ps.flatMap Piece.chars) + 1) := by
      simp [quoted]
      rfl
    rw [quoted_append, hstep, skipTextBody_append, hbytes]
    simp only [bind, Except.bind, Nat.add_assoc]
  | list items last hitems ih => exact isPassed_listChars hitems ih last
  | object entries last _ ih => exact isPassed_objectChars ih last

/-- The scan that starts at a value, blanks before it included, ends behind it. -/
theorem skipValue_append {v : List Char} (h : IsValue v) (b : Blanks) (offset : Nat)
    {rest : List Char} (hrest : Ends rest) :
    skipValue ⟨offset, b.chars ++ (v ++ rest)⟩ =
      .ok ⟨offset + Cursor.bytes (b.chars ++ v), rest⟩ := by
  obtain ⟨n, hn, hpasses⟩ := isPassed_of_isValue h
  -- one unit of fuel is left to notice that no bracket is open behind the value
  obtain ⟨fuel, hfuel⟩ : ∃ fuel, 2 * (b.chars ++ (v ++ rest)).length + 2 = fuel + 1 + n :=
    ⟨2 * (b.chars ++ (v ++ rest)).length + 1 - n, by simp only [List.length_append]; omega⟩
  have h := hpasses b [] rest hrest (fuel + 1) offset
  rw [List.append_assoc] at h
  rw [skipValue, hfuel, h]
  rfl

end RateHerald.Json
