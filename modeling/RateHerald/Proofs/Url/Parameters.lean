import RateHerald.Url.Form

/-!
# Parameters come back

What is written behind a query is read back byte by byte. An encoded byte is a percent sign with two
digits or one character that is no percent sign, so the bytes of a name or value are read one after
another. None of them is written with an ampersand, an equals sign or a hash, so a parameter is one
part of the query and is divided at its own equals sign, and a query keeps its parts when others are
put behind it.

## Main declarations

* `bytesOf` are the bytes of a name or value, and `decodeText_encodeText` reads them back.
* `decode_append`: parameters put behind a query come behind its own, as they are.
* `hash_not_mem_append`: they do not end the query.
-/

namespace RateHerald.Url

variable {c : Char} {cs : List Char}

/-! ## Bytes -/

/-- What is true of the bytes one by one is true of every byte. -/
theorem forall_byte {P : UInt8 → Prop} (h : ∀ n < 256, P (UInt8.ofNat n)) (b : UInt8) : P b := by
  have hb := h b.toNat b.toNat_lt
  rwa [UInt8.ofNat_toNat] at hb

theorem hexValue?_hexDigit : ∀ n < 16, hexValue? (hexDigit n) = some n := by decide

theorem encodedByte?_encodeByte (b : UInt8) (rest : List Char) :
    encodedByte? (encodeByte b ++ rest) = some b := by
  have hlt : b.toNat < 256 := b.toNat_lt
  have hvalue : 16 * (b.toNat / 16) + b.toNat % 16 = b.toNat := Nat.div_add_mod _ _
  rw [encodeByte, List.cons_append, List.cons_append, List.cons_append, encodedByte?,
    hexValue?_hexDigit _ (by omega), hexValue?_hexDigit _ (Nat.mod_lt _ (by decide))]
  change some (UInt8.ofNat (16 * (b.toNat / 16) + b.toNat % 16)) = some b
  rw [hvalue, UInt8.ofNat_toNat]

theorem decodeFrom_encodeByte (b : UInt8) (rest : List Char) :
    decodeFrom 0 (encodeByte b ++ rest) = b :: decodeFrom 0 rest := by
  have hbyte := encodedByte?_encodeByte b rest
  rw [encodeByte, List.cons_append] at hbyte ⊢
  rw [decodeFrom, hbyte]
  rfl

/-- Where no byte is encoded a character stands for itself. -/
theorem decodeFrom_cons (h : c ≠ '%') (rest : List Char) :
    decodeFrom 0 (c :: rest) = String.utf8EncodeChar c ++ decodeFrom 0 rest := by
  have hnone : encodedByte? (c :: rest) = none := by
    rw [encodedByte?]
    intro a b rest' heq
    exact h (List.cons.inj heq).1
  rw [decodeFrom, hnone]

namespace Form

/-- The bytes of a name or value. -/
def bytesOf (s : String) : List UInt8 :=
  s.toUTF8.data.toList

theorem bytesOf_eq (s : String) : bytesOf s = s.toList.flatMap String.utf8EncodeChar := by
  rw [bytesOf, String.toUTF8, ← String.utf8Encode_toList]
  simp [List.utf8Encode]

/-- Names and values of the same bytes are the same. -/
theorem bytesOf_inj {s t : String} : bytesOf s = bytesOf t ↔ s = t := by
  refine ⟨fun h => ?_, congrArg bytesOf⟩
  rw [bytesOf, bytesOf, Array.toList_inj] at h
  exact String.toByteArray_inj.1 (ByteArray.ext h)

/-- A space is written as a plus sign, and a byte that stands for itself is the one byte of a
character that is neither a plus nor a percent sign. -/
theorem utf8_of_isPlain : ∀ b : UInt8, isPlain b = true →
    String.utf8EncodeChar (Char.ofNat b.toNat) = [b] ∧ Char.ofNat b.toNat ≠ '+' ∧
      Char.ofNat b.toNat ≠ '%' :=
  forall_byte (by decide +kernel)

theorem hexDigit_ne_plus : ∀ n < 16, hexDigit n ≠ '+' := by decide

/-- One byte is read back. -/
theorem decodeFrom_encodeByte (b : UInt8) (rest : List Char) :
    decodeFrom 0 ((encodeByte b).map (fun c => if c = '+' then ' ' else c) ++ rest) =
      b :: decodeFrom 0 rest := by
  rw [encodeByte]
  split
  · next hspace =>
    rw [eq_of_beq hspace]
    exact decodeFrom_cons (by decide) rest
  · split
    · next hplain =>
      obtain ⟨hutf8, hplus, hpercent⟩ := utf8_of_isPlain b hplain
      rw [List.map_singleton, if_neg hplus, List.singleton_append, decodeFrom_cons hpercent, hutf8,
        List.singleton_append]
    · have hlt : b.toNat / 16 < 16 := by
        have := b.toNat_lt
        omega
      have hkept : (Url.encodeByte b).map (fun c => if c = '+' then ' ' else c) =
          Url.encodeByte b := by
        rw [Url.encodeByte, List.map_cons, List.map_cons, List.map_cons, List.map_nil,
          if_neg (by decide), if_neg (hexDigit_ne_plus _ hlt),
          if_neg (hexDigit_ne_plus _ (Nat.mod_lt _ (by decide)))]
      rw [hkept, Url.decodeFrom_encodeByte]

/-- A name or value is read back. -/
theorem decodeText_encodeText (s : String) : decodeText (encodeText s) = bytesOf s := by
  rw [decodeText, Url.decode, encodeText, ← bytesOf_eq]
  generalize bytesOf s = bs
  induction bs with
  | nil => rfl
  | cons b bs ih => rw [List.flatMap_cons, List.map_append, decodeFrom_encodeByte, ih]

/-! ## Marks -/

/-- The characters that divide queries and parameters. -/
def marks : List Char := ['&', '=', '#']

theorem encodeByte_marks : ∀ b : UInt8, (encodeByte b).all (fun c => !marks.contains c) = true :=
  forall_byte (by decide +kernel)

/-- No name and no value is written with such a character. -/
theorem not_mem_encodeText {s : String} (h : c ∈ marks) : c ∉ encodeText s := by
  intro hc
  obtain ⟨b, -, hc⟩ := List.mem_flatMap.1 hc
  have hmarks := List.all_eq_true.1 (encodeByte_marks b) c hc
  rw [List.contains_iff_mem.2 h] at hmarks
  cases hmarks

theorem not_mem_encodePair {p : String × String} (h : c ∈ marks) (hne : c ≠ '=') :
    c ∉ encodePair p := by
  rw [encodePair, List.mem_append, List.mem_cons, not_or, not_or]
  exact ⟨not_mem_encodeText h, hne, not_mem_encodeText h⟩

/-! ## Parts -/

theorem splitAt_ne_nil (divider : Char) (cs : List Char) : splitAt divider cs ≠ [] := by
  fun_cases splitAt divider cs <;> simp [*]

theorem splitAt_of_not_mem {divider : Char} (h : divider ∉ cs) : splitAt divider cs = [cs] := by
  induction cs with
  | nil => rfl
  | cons c cs ih =>
    rw [List.mem_cons, not_or] at h
    rw [splitAt, if_neg (Ne.symm h.1), ih h.2]

/-- A divider ends one part and begins another. -/
theorem splitAt_append (divider : Char) (before after : List Char) :
    splitAt divider (before ++ divider :: after) =
      splitAt divider before ++ splitAt divider after := by
  induction before with
  | nil => simp [splitAt]
  | cons c before ih =>
    rw [List.cons_append, splitAt, splitAt, ih]
    split
    · rfl
    · obtain ⟨part, parts, hparts⟩ := List.exists_cons_of_ne_nil (splitAt_ne_nil divider before)
      rw [hparts]
      rfl

theorem decode_cons_amp (before after : List Char) :
    decode (before ++ '&' :: after) = decode before ++ decode after := by
  rw [decode, splitAt_append, List.filter_append, List.map_append]
  rfl

/-! ## Parameters -/

/-- The bytes of a parameter's name and value. -/
def bytesOfPair (p : String × String) : List UInt8 × List UInt8 :=
  (bytesOf p.1, bytesOf p.2)

theorem bytesOfPair_inj {p p' : String × String} : bytesOfPair p = bytesOfPair p' ↔ p = p' := by
  rw [bytesOfPair, bytesOfPair, Prod.mk.injEq, bytesOf_inj, bytesOf_inj, Prod.ext_iff]

theorem decodePair_encodePair (p : String × String) :
    decodePair (encodePair p) = bytesOfPair p := by
  have hname : ∀ c ∈ encodeText p.1, (c != '=') = true := fun c hc => by
    rw [bne_iff_ne]
    rintro rfl
    exact not_mem_encodeText (by decide) hc
  rw [decodePair, encodePair, List.takeWhile_append_of_pos hname,
    List.dropWhile_append_of_pos hname, List.takeWhile_cons_of_neg (by decide), List.append_nil,
    List.dropWhile_cons_of_neg (by decide), List.drop_one, List.tail_cons, decodeText_encodeText,
    decodeText_encodeText, bytesOfPair]

theorem decode_encodePair (p : String × String) : decode (encodePair p) = [bytesOfPair p] := by
  have hne : (encodePair p).isEmpty = false := by simp [encodePair]
  rw [decode, splitAt_of_not_mem (not_mem_encodePair (by decide) (by decide)),
    List.filter_cons_of_pos (by simp [hne]), List.filter_nil, List.map_singleton,
    decodePair_encodePair]

/-- Parameters that are put behind a query are read behind its own. -/
theorem decode_append (before : List Char) (ps : List (String × String)) :
    decode (append before ps) = decode before ++ ps.map bytesOfPair := by
  induction ps generalizing before with
  | nil => rw [append, List.map_nil, List.append_nil]
  | cons p ps ih =>
    have hone : decode (if before.isEmpty then encodePair p else before ++ '&' :: encodePair p) =
        decode before ++ [bytesOfPair p] := by
      split
      · next hempty =>
        rw [List.isEmpty_iff.1 hempty, decode_encodePair]
        rfl
      · rw [decode_cons_amp, decode_encodePair]
    rw [append, ih, hone, List.append_assoc, List.singleton_append, List.map_cons]

theorem hash_not_mem_append {before : List Char} (h : '#' ∉ before) (ps : List (String × String)) :
    '#' ∉ append before ps := by
  induction ps generalizing before with
  | nil => exact h
  | cons p ps ih =>
    have hp : '#' ∉ encodePair p := not_mem_encodePair (by decide) (by decide)
    refine ih ?_
    split
    · exact hp
    · rw [List.mem_append, List.mem_cons, not_or, not_or]
      exact ⟨h, by decide, hp⟩

end Form

end RateHerald.Url
