import Mathlib.Data.List.DropRight
import RateHerald.Proofs.Url.Parts

/-!
# Paths that are written and read again

The segments of a path that was read are settled: they hold only characters that stand for
themselves, no slash among them, and none stands for nothing or takes another one back. Encoding
leaves such a segment as it is and nothing is resolved, so a path of settled segments that is
written and read again is the same path, whatever was encoded, empty or made of points when it was
read first. Slashes at the end of a written path are its empty segments there.

## Main declarations

* `Path.IsSettled` says so of the segments of a path; `Path.isSettled_read`: all that are read are.
* `Path.read_toChars`: a written path is read back.
* `Path.rdropWhile_toChars`: the slashes at the end of a written path.
* `IsOfWeb` says what the addresses of the web have in common, by `isOfWeb_of_parse`.
* `sections` divides a written address, and `IsOfWeb.sections_toChars` tells its sections.
-/

namespace RateHerald.Url

variable {c : Char} {cs : List Char} {u : Url} {a : Authority}

/-! ## Parts between dividers -/

namespace Form

theorem mem_of_mem_splitAt {divider : Char} {part : List Char} (h : part ∈ splitAt divider cs)
    (hc : c ∈ part) : c ∈ cs ∧ c ≠ divider := by
  induction cs generalizing part with
  | nil =>
    rw [splitAt, List.mem_singleton] at h
    subst h
    cases hc
  | cons d cs ih =>
    rw [splitAt] at h
    split at h
    · rcases List.mem_cons.1 h with rfl | h
      · cases hc
      · exact ⟨List.mem_cons_of_mem d (ih h hc).1, (ih h hc).2⟩
    · next hne =>
      obtain ⟨first, parts, hparts⟩ := List.exists_cons_of_ne_nil (splitAt_ne_nil divider cs)
      rw [hparts] at ih h
      rcases List.mem_cons.1 h with rfl | h
      · rcases List.mem_cons.1 hc with rfl | hc
        · exact ⟨List.mem_cons_self, hne⟩
        · have hfirst := ih List.mem_cons_self hc
          exact ⟨List.mem_cons_of_mem d hfirst.1, hfirst.2⟩
      · have hlater := ih (List.mem_cons_of_mem first h) hc
        exact ⟨List.mem_cons_of_mem d hlater.1, hlater.2⟩

end Form

namespace Path

variable {segment : List Char} {segments path : List (List Char)}

/-! ## Settled segments -/

/-- Whether a character stands for itself in a segment. -/
def isPlain (c : Char) : Bool :=
  c.toNat < 0x80 && !inPath c && c != '/' && c != '\\'

/-- The segment stands for itself. -/
structure IsSettledSegment (segment : List Char) : Prop where
  /-- Its characters stand for themselves. -/
  plain : ∀ c ∈ segment, isPlain c = true
  /-- It does not stand for nothing. -/
  single : isSingle segment = false
  /-- It takes no segment back. -/
  double : isDouble segment = false

/-- A path has segments, and all of them stand for themselves. -/
structure IsSettled (segments : List (List Char)) : Prop where
  /-- There is a segment. -/
  ne_nil : segments ≠ []
  /-- Every segment is settled. -/
  segment : ∀ segment ∈ segments, IsSettledSegment segment

theorem isSettledSegment_nil : IsSettledSegment [] :=
  ⟨List.forall_mem_nil _, rfl, rfl⟩

theorem isSettled_root : IsSettled [[]] :=
  ⟨List.cons_ne_nil _ _, by simp [isSettledSegment_nil]⟩

theorem encodeChar_of_isPlain (h : isPlain c = true) : encodeChar inPath c = [c] := by
  simp only [isPlain, Bool.and_eq_true, decide_eq_true_eq, Bool.not_eq_true'] at h
  rw [encodeChar, h.1.1.2, if_neg (by simpa using h.1.1.1)]

theorem encode_of_plain (h : ∀ c ∈ cs, isPlain c = true) : encode inPath cs = cs := by
  rw [encode, List.flatMap_congr fun c hc => encodeChar_of_isPlain (h c hc),
    List.flatMap_singleton']

theorem encodeByte_plain : ∀ b : UInt8, (encodeByte b).all isPlain = true :=
  forall_byte (by decide +kernel)

/-- What is encoded stands for itself, if nothing in it divides segments. -/
theorem isPlain_of_mem_encode (h : ∀ c ∈ cs, c ≠ '/' ∧ c ≠ '\\') :
    ∀ c ∈ encode inPath cs, isPlain c = true := by
  intro c hc
  obtain ⟨d, hd, hc⟩ := List.mem_flatMap.1 hc
  rw [encodeChar] at hc
  split at hc
  · obtain ⟨b, -, hc⟩ := List.mem_flatMap.1 hc
    exact List.all_eq_true.1 (encodeByte_plain b) c hc
  · next hplain =>
    obtain rfl := List.mem_singleton.1 hc
    rw [Bool.not_eq_true, Bool.or_eq_false_iff, decide_eq_false_iff_not, Nat.not_le] at hplain
    simp [isPlain, hplain, h c hd]

theorem isPlain_of_mem_split (h : segment ∈ split true cs) : ∀ c ∈ segment, isPlain c = true := by
  obtain ⟨part, hpart, rfl⟩ := List.mem_map.1 h
  refine isPlain_of_mem_encode fun c hc => ?_
  obtain ⟨hc, hslash⟩ := Form.mem_of_mem_splitAt hpart hc
  refine ⟨hslash, ?_⟩
  rintro rfl
  obtain ⟨d, -, hd⟩ := List.mem_map.1 hc
  split at hd
  · cases hd
  · next hne => exact hne hd

theorem addSegments_ne_nil (h : segments ≠ [] ∨ path ≠ []) : addSegments path segments ≠ [] := by
  induction segments generalizing path with
  | nil => exact h.resolve_left (absurd rfl)
  | cons first rest ih =>
    rw [addSegments]
    -- only behind the last written segment does it matter what was added
    rcases rest with _ | ⟨second, rest⟩
    · split
      · exact ih (.inr (by simp))
      · split
        · exact ih (.inr (by simp))
        · exact ih (.inr (by simp))
    · have hmore : ∀ path, addSegments path (second :: rest) ≠ [] := fun path =>
        ih (.inl (List.cons_ne_nil second rest))
      split
      · exact hmore _
      · split <;> exact hmore _

/-- Every path that is read is settled. -/
theorem isSettled_read (cs : List Char) : IsSettled (read true cs) where
  ne_nil := addSegments_ne_nil (.inl (by
    rw [split, Ne, List.map_eq_nil_iff]
    exact Form.splitAt_ne_nil '/' _))
  segment := forall_mem_addSegments isSettledSegment_nil (List.forall_mem_nil _)
    fun _ hmem hsingle hdouble => ⟨isPlain_of_mem_split hmem, hsingle, hdouble⟩

theorem plainPoints_cons (h : c ≠ '%') (cs : List Char) :
    plainPoints (c :: cs) = c :: plainPoints cs := by
  rw [plainPoints]
  · exact fun rest heq => absurd heq h
  · exact fun rest heq => absurd heq h

theorem isPlain_of_isAlphanum :
    ∀ c : Char, c.toNat < 0x80 → c.isAlphanum = true → isPlain c = true ∧ c ≠ '%' ∧ c ≠ '.' :=
  Text.forall_plain (by decide +kernel)

/-- Letters and digits stand for themselves. -/
theorem isSettledSegment_of_alphanum (h : ∀ c ∈ cs, c.isAlphanum = true) : IsSettledSegment cs := by
  have hplain : ∀ c ∈ cs, isPlain c = true ∧ c ≠ '%' ∧ c ≠ '.' := fun c hc =>
    isPlain_of_isAlphanum c (Text.toNat_lt_of_isAlphanum (h c hc)) (h c hc)
  cases cs with
  | nil => exact isSettledSegment_nil
  | cons c cs =>
    obtain ⟨-, hpercent, hpoint⟩ := hplain c List.mem_cons_self
    refine ⟨fun d hd => (hplain d hd).1, ?_, ?_⟩
    · simp [isSingle, plainPoints_cons hpercent, hpoint]
    · simp [isDouble, plainPoints_cons hpercent, hpoint]

/-! ## Reading back -/

theorem addSegments_of_settled (h : ∀ segment ∈ segments, IsSettledSegment segment) :
    addSegments path segments = path ++ segments := by
  induction segments generalizing path with
  | nil => rw [addSegments, List.append_nil]
  | cons first rest ih =>
    obtain ⟨hfirst, hrest⟩ := List.forall_mem_cons.1 h
    rw [addSegments]
    simp only [hfirst.double, hfirst.single, Bool.false_eq_true, if_false]
    rw [ih hrest, List.append_assoc, List.singleton_append]

theorem not_mem_of_plain (h : ∀ c ∈ segment, isPlain c = true) (hc : isPlain c = false) :
    c ∉ segment := fun hmem => by
  rw [h c hmem] at hc
  cases hc

theorem plain_of_mem_toChars (h : ∀ segment ∈ segments, ∀ c ∈ segment, isPlain c = true)
    (hc : c ∈ toChars segments) : c = '/' ∨ isPlain c = true := by
  obtain ⟨segment, hsegment, hc⟩ := List.mem_flatMap.1 hc
  rcases List.mem_cons.1 hc with rfl | hc
  · exact .inl rfl
  · exact .inr (h segment hsegment c hc)

/-- A written path is divided into its segments. -/
theorem splitAt_toChars (h : ∀ segment ∈ segments, '/' ∉ segment) (hne : segments ≠ []) :
    Form.splitAt '/' ((toChars segments).drop 1) = segments := by
  induction segments with
  | nil => exact absurd rfl hne
  | cons first rest ih =>
    obtain ⟨hfirst, hrest⟩ := List.forall_mem_cons.1 h
    rw [toChars, List.flatMap_cons, List.cons_append, List.drop_one, List.tail_cons]
    cases rest with
    | nil => rw [List.flatMap_nil, List.append_nil, Form.splitAt_of_not_mem hfirst]
    | cons second rest =>
      have hlater := ih hrest (List.cons_ne_nil second rest)
      rw [toChars, List.flatMap_cons, List.cons_append, List.drop_one, List.tail_cons] at hlater
      rw [List.flatMap_cons, List.cons_append, Form.splitAt_append,
        Form.splitAt_of_not_mem hfirst, hlater, List.singleton_append]

/-- A path of settled segments that is written is read back. -/
theorem read_toChars (h : IsSettled segments) :
    read true ((toChars segments).drop 1) = segments := by
  have hplain : ∀ segment ∈ segments, ∀ c ∈ segment, isPlain c = true :=
    fun segment hmem => (h.segment segment hmem).plain
  have hkept : ((toChars segments).drop 1).map (fun c => if c = '\\' then '/' else c) =
      (toChars segments).drop 1 := by
    refine (List.map_congr_left fun c hc => if_neg ?_).trans (List.map_id _)
    rintro rfl
    rcases plain_of_mem_toChars hplain (List.mem_of_mem_drop hc) with hslash | hplain
    · cases hslash
    · cases hplain
  have hslash : ∀ segment ∈ segments, '/' ∉ segment := fun segment hmem =>
    not_mem_of_plain (hplain segment hmem) (by decide)
  have hencode : segments.map (encode inPath) = segments :=
    (List.map_congr_left fun segment hmem => encode_of_plain (hplain segment hmem)).trans
      (List.map_id _)
  rw [read, split, if_pos rfl, hkept, splitAt_toChars hslash h.ne_nil, hencode,
    ofSegments, addSegments_of_settled h.segment, List.nil_append]

theorem toChars_append (segments segments' : List (List Char)) :
    toChars (segments ++ segments') = toChars segments ++ toChars segments' :=
  List.flatMap_append

/-- Without the slashes at its end a written path is that of the segments before the empty ones. -/
theorem rdropWhile_toChars (h : ∀ segment ∈ segments, '/' ∉ segment) :
    (toChars segments).rdropWhile (· == '/') = toChars (segments.rdropWhile List.isEmpty) := by
  induction segments using List.reverseRecOn with
  | nil => rfl
  | append_singleton before last ih =>
    obtain ⟨hbefore, hlast⟩ := List.forall_mem_append.1 h
    rw [toChars_append]
    rcases List.eq_nil_or_concat' last with rfl | ⟨front, c, rfl⟩
    · rw [List.rdropWhile_concat_pos _ _ _ rfl, ← ih hbefore]
      exact List.rdropWhile_concat_pos _ _ _ rfl
    · have hc : ¬(c == '/') = true := by
        rw [beq_iff_eq]
        rintro rfl
        exact hlast _ List.mem_cons_self (by simp)
      have hchars : toChars [front ++ [c]] = ('/' :: front) ++ [c] := by simp [toChars]
      rw [List.rdropWhile_concat_neg _ _ _ (by simp), toChars_append, hchars, ← List.append_assoc]
      exact List.rdropWhile_concat_neg (· == '/') _ c hc

end Path

/-! ## Addresses of the web -/

/-- The schemes of the web. -/
def webSchemes : List (List Char) :=
  ["http".toList, "https".toList]

/-- The address is one of the web: it says who is asked, and its path is settled. -/
structure IsOfWeb (u : Url) (a : Authority) (segments : List (List Char)) : Prop where
  /-- The scheme. -/
  scheme : u.scheme ∈ webSchemes
  /-- Who is asked. -/
  authority : u.authority = some a
  /-- Nothing in it ends it. -/
  unbroken : IsUnbrokenAuthority a
  /-- The path. -/
  path : u.path = .segments segments
  /-- Every segment stands for itself. -/
  settled : Path.IsSettled segments
  /-- No fragment begins in the query. -/
  query : ∀ q ∈ u.query, '#' ∉ q

theorem isSpecialScheme_of_mem_webSchemes :
    ∀ scheme ∈ webSchemes, isSpecialScheme scheme = true := by decide +kernel

theorem gives_readHierarchy_web {scheme : List Char} (hscheme : isSpecialScheme scheme = true)
    (cs : List Char) :
    Gives (fun u => ∃ a segments, u.authority = some a ∧ IsUnbrokenAuthority a ∧
      u.path = .segments segments ∧ Path.IsSettled segments) (readHierarchy scheme cs) := by
  rw [readHierarchy, hscheme]
  refine (gives_readAuthority _ _ _).bind fun r hr => ⟨r.1, _, rfl, hr, rfl, ?_⟩
  split
  · exact Path.isSettled_root
  · exact Path.isSettled_read _

/-- An address that is read and has a scheme of the web is one of the web. -/
theorem isOfWeb_of_parse {s : String} (h : parse s = .ok u) (hscheme : u.scheme ∈ webSchemes) :
    ∃ a segments, u.IsOfWeb a segments := by
  have hgives : Gives (fun u => u.scheme ∈ webSchemes → ∃ a segments, u.authority = some a ∧
      IsUnbrokenAuthority a ∧ u.path = .segments segments ∧ Path.IsSettled segments) (parse s) := by
    rw [parse]
    dsimp only
    split
    · trivial
    · next scheme rest hread =>
      have hwhole := isWhole_of_readScheme? hread
      split
      · next hfile =>
        refine (gives_readFile hwhole rest).mono fun u hu hweb => absurd hweb ?_
        rw [hu.1, hfile]
        decide
      · split
        · next hspecial => exact (gives_readHierarchy_web hspecial _).mono fun u hu _ => hu
        · next hother =>
          refine (gives_readOther hwhole rest).mono fun u hu hweb => absurd ?_ hother
          exact isSpecialScheme_of_mem_webSchemes _ (hu.1 ▸ hweb)
  obtain ⟨a, segments, hauthority, hunbroken, hpath, hsettled⟩ := hgives.of_eq_ok h hscheme
  exact ⟨a, segments, hscheme, hauthority, hunbroken, hpath, hsettled, (isDivided_of_parse h).query⟩

namespace IsOfWeb

variable {segments segments' : List (List Char)}

theorem replacePath (h : u.IsOfWeb a segments) (hsettled : Path.IsSettled segments') :
    IsOfWeb { u with path := .segments segments' } a segments' :=
  ⟨h.scheme, h.authority, h.unbroken, rfl, hsettled, h.query⟩

/-- A path that is written and settled takes the place of the other one as it is. -/
theorem withPath_toChars (h : u.IsOfWeb a segments) (hsettled : Path.IsSettled segments') :
    u.withPath (Path.toChars segments') = { u with path := .segments segments' } := by
  have hfilter : (Path.toChars segments').filter (fun c => !isPassedOver c) =
      Path.toChars segments' := by
    refine List.filter_eq_self.2 fun c hc => ?_
    rcases Path.plain_of_mem_toChars (fun s hs => (hsettled.segment s hs).plain) hc with
      rfl | hplain
    · decide
    · rw [Bool.not_eq_true', ← Bool.not_eq_true]
      intro hpassed
      simp only [isPassedOver, Bool.or_eq_true, beq_iff_eq] at hpassed
      rcases hpassed with (rfl | rfl) | rfl <;> cases hplain
  have hfile : u.scheme ≠ "file".toList := by
    intro heq
    have hscheme := h.scheme
    rw [heq] at hscheme
    revert hscheme
    decide
  rw [withPath, hfilter, h.path]
  dsimp only
  rw [if_neg hfile, isSpecialScheme_of_mem_webSchemes _ h.scheme, Path.read_toChars hsettled]

theorem isDivided (h : u.IsOfWeb a segments) : u.IsDivided where
  front := by
    have hmarks : ∀ scheme ∈ webSchemes, scheme.Forall (· ∉ cutMarks) := by decide
    refine isWhole_front (List.forall_iff_forall_mem.1 (hmarks _ h.scheme)) (fun b hb => ?_) ?_
    · rw [h.authority] at hb
      exact Option.some.inj hb ▸ h.unbroken
    · rw [h.path]
      intro segment hmem c hc hmark
      have hplain : ∀ c ∈ cutMarks, Path.isPlain c = false :=
        List.forall_iff_forall_mem.1 (by decide)
      exact Path.not_mem_of_plain (h.settled.segment segment hmem).plain (hplain c hmark) hc
  query := h.query

end IsOfWeb

/-- The addresses differ at most in slashes at the end of the path. -/
structure EqUpToSlashes (u u' : Url) : Prop where
  /-- The scheme. -/
  scheme : u'.scheme = u.scheme
  /-- Who is asked. -/
  authority : u'.authority = u.authority
  /-- The written path. -/
  path : u'.pathChars.rdropWhile (· == '/') = u.pathChars.rdropWhile (· == '/')
  /-- The query. -/
  query : u'.query = u.query
  /-- The fragment. -/
  fragment : u'.fragment = u.fragment

/-! ## Sections -/

/-- The sections of a written address of the web. -/
structure Sections where
  /-- The scheme. -/
  scheme : List Char
  /-- Who is asked: user name and password, host and port. -/
  authority : List Char
  /-- The segments of the path. -/
  segments : List (List Char)
  /-- The query. -/
  query : Option (List Char)
  /-- The fragment. -/
  fragment : Option (List Char)
deriving Repr, DecidableEq

/-- Divides a written address: the scheme ends at the first colon, the authority at the first slash
behind the two that announce it, and every slash from there on begins a segment. -/
def sections (cs : List Char) : Sections :=
  let (front, query, fragment) := cut cs
  let rest := (front.dropWhile (· != ':')).drop 3
  { scheme := front.takeWhile (· != ':')
    authority := rest.takeWhile (· != '/')
    segments := Form.splitAt '/' ((rest.dropWhile (· != '/')).drop 1)
    query := query
    fragment := fragment }

/-- The sections of a written address of the web are its parts. -/
theorem IsOfWeb.sections_toChars {segments : List (List Char)} (h : u.IsOfWeb a segments) :
    sections u.toChars = ⟨u.scheme, authorityChars a, segments, u.query, u.fragment⟩ := by
  have hscheme : ∀ scheme ∈ webSchemes, scheme.all (· != ':') = true := by decide
  have hcolon : ∀ c ∈ u.scheme, (c != ':') = true := List.all_eq_true.1 (hscheme _ h.scheme)
  have hslash : ∀ c ∈ authorityChars a, (c != '/') = true := fun c hc => by
    rw [bne_iff_ne]
    rintro rfl
    exact isUnbroken_authorityChars h.unbroken _ hc (by decide)
  have hplain : ∀ segment ∈ segments, '/' ∉ segment := fun segment hmem =>
    Path.not_mem_of_plain (h.settled.segment segment hmem).plain (by decide)
  obtain ⟨first, rest, hsegments⟩ := List.exists_cons_of_ne_nil h.settled.ne_nil
  have hpath : Path.toChars segments = '/' :: (Path.toChars segments).drop 1 := by
    rw [hsegments]
    rfl
  have hfront : u.front = u.scheme ++ ':' :: '/' :: '/' ::
      (authorityChars a ++ '/' :: (Path.toChars segments).drop 1) := by
    rw [← hpath, front, beforePath, h.authority, pathChars, h.path]
    simp
  rw [sections, h.isDivided.cut_toChars, hfront]
  simp only [List.takeWhile_append_of_pos hcolon,
    List.dropWhile_append_of_pos hcolon, List.takeWhile_cons_of_neg,
    List.dropWhile_cons_of_neg, bne_self_eq_false, Bool.false_eq_true, not_false_eq_true,
    List.append_nil, List.drop_succ_cons, List.drop_zero, List.takeWhile_append_of_pos hslash,
    List.dropWhile_append_of_pos hslash, Path.splitAt_toChars hplain h.settled.ne_nil]

end RateHerald.Url
