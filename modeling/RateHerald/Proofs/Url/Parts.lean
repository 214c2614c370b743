import RateHerald.Proofs.Results
import RateHerald.Proofs.Text.Capitals
import RateHerald.Proofs.Url.Parameters
import RateHerald.Url.Reader

/-!
# The parts of a written address

A written address is cut at its first hash, and what stands before it at its first question mark.
For an address that was read this gives its own parts back: nothing else in it is written with a
hash or a question mark, because these end what is read or are percent-encoded or refused. A query
may hold further question marks, but no hash.

Every reader is told by what its results have in common, whatever it reads.

## Main declarations

* `cut` cuts a written address, and `IsDivided` says that this gives the parts of the address.
* `isDivided_of_parse`: every address that is read is divided.
-/

namespace RateHerald.Url

variable {c : Char} {cs ds q : List Char} {set : Char → Bool} {u : Url}

/-! ## Cutting -/

/-- The characters at which a written address is cut. -/
def cutMarks : List Char := ['?', '#']

/-- The text holds no character at which an address is cut. -/
def IsWhole (cs : List Char) : Prop :=
  ∀ c ∈ cs, c ∉ cutMarks

/-- What stands behind the first of a character, if there is one. -/
def behind? (c : Char) (cs : List Char) : Option (List Char) :=
  match cs.dropWhile (· != c) with
  | _ :: rest => some rest
  | [] => none

/-- The parts of a written address: what stands before the query, the query and the fragment. -/
def cut (cs : List Char) : List Char × Option (List Char) × Option (List Char) :=
  let before := cs.takeWhile (· != '#')
  (before.takeWhile (· != '?'), behind? '?' before, behind? '#' cs)

/-- A part that is written behind a character, if there is one. -/
def marked (c : Char) : Option (List Char) → List Char
  | some cs => c :: cs
  | none => []

theorem takeWhile_marked (h : c ∉ cs) (part : Option (List Char)) :
    (cs ++ marked c part).takeWhile (· != c) = cs := by
  have hcs : ∀ d ∈ cs, (d != c) = true := fun d hd => bne_iff_ne.2 (ne_of_mem_of_not_mem hd h)
  rw [List.takeWhile_append_of_pos hcs]
  cases part <;> simp [marked]

theorem behind?_marked (h : c ∉ cs) (part : Option (List Char)) :
    behind? c (cs ++ marked c part) = part := by
  have hcs : ∀ d ∈ cs, (d != c) = true := fun d hd => bne_iff_ne.2 (ne_of_mem_of_not_mem hd h)
  rw [behind?, List.dropWhile_append_of_pos hcs]
  cases part <;> simp [marked]

/-- What is written before the query. -/
def front (u : Url) : List Char :=
  u.scheme ++ ':' :: beforePath u ++ pathChars u

/-- No part of the address is written with a character that ends it. -/
structure IsDivided (u : Url) : Prop where
  /-- Neither a query nor a fragment begins before the query. -/
  front : IsWhole u.front
  /-- No fragment begins in the query. -/
  query : ∀ q ∈ u.query, '#' ∉ q

theorem toChars_eq (u : Url) :
    u.toChars = u.front ++ marked '?' u.query ++ marked '#' u.fragment := by
  rw [toChars, front]
  cases u.query <;> cases u.fragment <;> rfl

/-- An address that is divided has the parts at which it is cut. -/
theorem IsDivided.cut_toChars (h : u.IsDivided) :
    cut u.toChars = (u.front, u.query, u.fragment) := by
  have hquestion : '?' ∉ u.front := fun hc => h.front _ hc (by decide)
  have hhash : '#' ∉ u.front ++ marked '?' u.query := by
    rw [List.mem_append, not_or]
    refine ⟨fun hc => h.front _ hc (by decide), ?_⟩
    rcases hq : u.query with _ | q
    · exact List.not_mem_nil
    · rw [marked, List.mem_cons, not_or]
      exact ⟨by decide, h.query q hq⟩
  rw [cut, toChars_eq, takeWhile_marked hhash, behind?_marked hhash, takeWhile_marked hquestion,
    behind?_marked hquestion]

/-! ## Whole texts -/

@[simp] theorem isWhole_nil : IsWhole [] :=
  fun _ hc => nomatch hc

@[simp] theorem isWhole_append : IsWhole (cs ++ ds) ↔ IsWhole cs ∧ IsWhole ds :=
  List.forall_mem_append

@[simp] theorem isWhole_cons : IsWhole (c :: cs) ↔ c ∉ cutMarks ∧ IsWhole cs :=
  List.forall_mem_cons

/-- The characters that end an authority. -/
def endMarks : List Char := ['/', '?', '#']

/-- The text holds no character that ends an authority. -/
def IsUnbroken (cs : List Char) : Prop :=
  ∀ c ∈ cs, c ∉ endMarks

@[simp] theorem isUnbroken_nil : IsUnbroken [] :=
  fun _ hc => nomatch hc

@[simp] theorem isUnbroken_append : IsUnbroken (cs ++ ds) ↔ IsUnbroken cs ∧ IsUnbroken ds :=
  List.forall_mem_append

@[simp] theorem isUnbroken_cons : IsUnbroken (c :: cs) ↔ c ∉ endMarks ∧ IsUnbroken cs :=
  List.forall_mem_cons

theorem IsUnbroken.isWhole (h : IsUnbroken cs) : IsWhole cs :=
  fun c hc hmark => h c hc (List.mem_cons_of_mem '/' hmark)

theorem encodeByte_endMarks :
    ∀ b : UInt8, (encodeByte b).all (fun c => !endMarks.contains c) = true :=
  forall_byte (by decide +kernel)

/-- A text that is percent-encoded gets no such character, and loses those in the set. -/
theorem mem_of_mem_encode (hc : c ∈ endMarks) (h : c ∈ encode set cs) : c ∈ cs ∧ set c = false := by
  obtain ⟨d, hd, h⟩ := List.mem_flatMap.1 h
  rw [encodeChar] at h
  split at h
  · obtain ⟨b, -, h⟩ := List.mem_flatMap.1 h
    have hmarks := List.all_eq_true.1 (encodeByte_endMarks b) c h
    rw [List.contains_iff_mem.2 hc] at hmarks
    cases hmarks
  · next hplain =>
    obtain rfl := List.mem_singleton.1 h
    rw [Bool.not_eq_true, Bool.or_eq_false_iff] at hplain
    exact ⟨hd, hplain.2⟩

theorem IsUnbroken.encode (h : IsUnbroken cs) : IsUnbroken (encode set cs) :=
  fun c hmem hc => h c (mem_of_mem_encode hc hmem).1 hc

theorem IsWhole.encode (h : IsWhole cs) : IsWhole (encode set cs) :=
  fun c hmem hc => h c (mem_of_mem_encode (List.mem_cons_of_mem '/' hc) hmem).1 hc

theorem isUnbroken_encode (hset : endMarks.all set = true) (cs : List Char) :
    IsUnbroken (Url.encode set cs) := fun c hmem hc => by
  have hnot := (mem_of_mem_encode hc hmem).2
  rw [List.all_eq_true.1 hset c hc] at hnot
  cases hnot

theorem isWhole_encode (hset : cutMarks.all set = true) (cs : List Char) :
    IsWhole (Url.encode set cs) := fun c hmem hc => by
  have hnot := (mem_of_mem_encode (List.mem_cons_of_mem '/' hc) hmem).2
  rw [List.all_eq_true.1 hset c hc] at hnot
  cases hnot

theorem mem_toDigits {base n : Nat} (hbase : 1 < base) (h : c ∈ Nat.toDigits base n) :
    ∃ digit < base, c = Nat.digitChar digit := by
  induction n using Nat.strongRecOn with
  | ind n ih =>
    rw [Nat.toDigits_eq_if hbase] at h
    split at h
    · next hlt => exact ⟨n, hlt, List.mem_singleton.1 h⟩
    · next hle =>
      rcases List.mem_append.1 h with h | h
      · exact ih _ (Nat.div_lt_self (by omega) hbase) h
      · exact ⟨n % base, Nat.mod_lt _ (by omega), List.mem_singleton.1 h⟩

theorem digitChar_not_mem_endMarks : ∀ digit < 16, Nat.digitChar digit ∉ endMarks := by decide

theorem isUnbroken_toDigits {base : Nat} (hbase : 1 < base) (hle : base ≤ 16) (n : Nat) :
    IsUnbroken (Nat.toDigits base n) := fun c h => by
  obtain ⟨digit, hlt, rfl⟩ := mem_toDigits hbase h
  exact digitChar_not_mem_endMarks digit (by omega)

theorem isUnbroken_digits (n : Nat) : IsUnbroken (Decimal.digits n) :=
  isUnbroken_toDigits (by decide) (by decide) n

/-! ## Paths -/

namespace Path

variable {path segments : List (List Char)}

theorem isWhole_toChars (h : ∀ segment ∈ segments, IsWhole segment) :
    IsWhole (toChars segments) := by
  intro c hc
  obtain ⟨segment, hsegment, hc⟩ := List.mem_flatMap.1 hc
  have hslash : IsWhole ('/' :: segment) := isWhole_cons.2 ⟨by decide, h segment hsegment⟩
  exact hslash c hc

theorem parent_subset (segments : List (List Char)) : parent segments ⊆ segments := by
  rw [parent]
  split
  · split
    · exact List.Subset.refl _
    · exact List.dropLast_subset _
  · exact List.nil_subset _

/-- A path has no segments but those it is made of, and empty ones. No segment is added that stands
for nothing or takes another one back. -/
theorem forall_mem_addSegments {P : List Char → Prop} (hempty : P [])
    (hpath : ∀ segment ∈ path, P segment)
    (h : ∀ segment ∈ segments, isSingle segment = false → isDouble segment = false → P segment) :
    ∀ segment ∈ addSegments path segments, P segment := by
  have hlast : ∀ segment ∈ [[]], P segment := by simpa using hempty
  induction segments generalizing path with
  | nil => exact hpath
  | cons first rest ih =>
    obtain ⟨hfirst, hrest⟩ := List.forall_mem_cons.1 h
    have hparent : ∀ segment ∈ parent path, P segment :=
      fun segment hmem => hpath segment (parent_subset path hmem)
    rw [addSegments]
    split
    · refine ih ?_ hrest
      split
      · exact List.forall_mem_append.2 ⟨hparent, hlast⟩
      · exact hparent
    · next hdouble =>
      split
      · refine ih ?_ hrest
        split
        · exact List.forall_mem_append.2 ⟨hpath, hlast⟩
        · exact hpath
      · next hsingle =>
        have hadded := hfirst (Bool.not_eq_true _ ▸ hsingle) (Bool.not_eq_true _ ▸ hdouble)
        exact ih (List.forall_mem_append.2 ⟨hpath, by simpa using hadded⟩) hrest

theorem isWhole_of_mem_addSegments (h : ∀ segment ∈ segments, IsWhole segment) :
    ∀ segment ∈ addSegments [] segments, IsWhole segment :=
  forall_mem_addSegments isWhole_nil (List.forall_mem_nil _) fun segment hmem _ _ => h segment hmem

theorem isWhole_of_mem_split {backslash : Bool} (cs : List Char) :
    ∀ segment ∈ split backslash cs, IsWhole segment := by
  intro segment h
  obtain ⟨part, -, rfl⟩ := List.mem_map.1 h
  exact isWhole_encode (by decide) part

theorem isWhole_of_mem_read {backslash : Bool} (cs : List Char) :
    ∀ segment ∈ read backslash cs, IsWhole segment :=
  isWhole_of_mem_addSegments (isWhole_of_mem_split cs)

theorem isWhole_of_mem_normalDrive (h : ∀ segment ∈ segments, IsWhole segment) :
    ∀ segment ∈ normalDrive segments, IsWhole segment := by
  fun_cases normalDrive segments with
  | case1 c rest _ =>
    obtain ⟨hdrive, hrest⟩ := List.forall_mem_cons.1 h
    refine List.forall_mem_cons.2 ⟨?_, hrest⟩
    exact isWhole_cons.2 ⟨(isWhole_cons.1 hdrive).1, isWhole_cons.2 ⟨by decide, isWhole_nil⟩⟩
  | case2 => exact h
  | case3 => exact h

theorem isWhole_of_mem_readFile (cs : List Char) : ∀ segment ∈ readFile cs, IsWhole segment := by
  rw [readFile]
  split
  · simp
  · next segments _ =>
    intro segment h
    have hmem := List.dropWhile_subset List.isEmpty h
    exact isWhole_of_mem_addSegments (isWhole_of_mem_normalDrive (isWhole_of_mem_split cs)) segment
      hmem

end Path

/-! ## Hosts -/

namespace Host

theorem isUnbroken_writeIpv4 (n : Nat) : IsUnbroken (writeIpv4 n) := by
  have hdot : '.' ∉ endMarks := by decide
  simp [writeIpv4, isUnbroken_digits, hdot]

theorem isUnbroken_joinPieces (ns : List Nat) : IsUnbroken (joinPieces ns) := by
  have hcolon : IsUnbroken [':'] := isUnbroken_cons.2 ⟨by decide, isUnbroken_nil⟩
  rw [joinPieces]
  induction ns with
  | nil => exact isUnbroken_nil
  | cons n ns ih =>
    have hn : IsUnbroken (Nat.toDigits 16 n) := isUnbroken_toDigits (by decide) (by decide) n
    cases ns with
    | nil => simpa using hn
    | cons m ns =>
      rw [List.map_cons, List.map_cons, List.intercalate_cons_cons, isUnbroken_append,
        isUnbroken_append]
      exact ⟨⟨hn, hcolon⟩, ih⟩

theorem isUnbroken_writeIpv6 (ns : List Nat) : IsUnbroken (writeIpv6 ns) := by
  have hopen : '[' ∉ endMarks := by decide
  have hclose : ']' ∉ endMarks := by decide
  have hcolon : ':' ∉ endMarks := by decide
  rw [writeIpv6]
  dsimp only
  split <;> simp [hopen, hclose, hcolon, isUnbroken_joinPieces]

theorem gives_readBracketed (cs : List Char) : Gives IsUnbroken (readBracketed cs) := by
  rw [readBracketed]
  split
  · exact gives_map isUnbroken_writeIpv6
  · trivial

theorem isUnbroken_of_toAscii? (h : Domain.toAscii? cs = some ds) : IsUnbroken ds := by
  simp only [Domain.toAscii?, Option.bind_eq_bind, Option.bind_eq_some_iff] at h
  obtain ⟨image, -, labels, -, h⟩ := h
  split at h
  · cases h
  · next hfit =>
    cases h
    intro c hmem hc
    rw [Bool.or_eq_true, not_or] at hfit
    have hforbidden : endMarks.all Domain.isForbidden = true := by decide
    exact hfit.2 (List.any_eq_true.2 ⟨c, hmem, List.all_eq_true.1 hforbidden c hc⟩)

theorem gives_read (cs : List Char) : Gives IsUnbroken (read cs) := by
  rw [read]
  split
  · exact gives_readBracketed cs
  · split
    · trivial
    · trivial
    · next domain hdomain =>
      obtain ⟨plain, -, hplain⟩ := Option.bind_eq_some_iff.1 hdomain
      split
      · exact gives_map isUnbroken_writeIpv4
      · exact isUnbroken_of_toAscii? hplain

theorem gives_readOpaque (cs : List Char) : Gives IsUnbroken (readOpaque cs) := by
  rw [readOpaque]
  split
  · exact gives_readBracketed cs
  · split
    · trivial
    · next hfit =>
      have hforbidden : endMarks.all isForbidden = true := by decide
      have hunbroken : IsUnbroken cs := fun c hmem hc =>
        hfit (List.any_eq_true.2 ⟨c, hmem, List.all_eq_true.1 hforbidden c hc⟩)
      exact hunbroken.encode

end Host

/-! ## Authorities -/

/-- No part of the authority is written with a character that ends it. -/
structure IsUnbrokenAuthority (a : Authority) : Prop where
  /-- The user name. -/
  username : IsUnbroken a.username
  /-- The password. -/
  password : IsUnbroken a.password
  /-- The host. -/
  host : IsUnbroken a.host

theorem isUnbroken_authorityChars {a : Authority} (h : IsUnbrokenAuthority a) :
    IsUnbroken (authorityChars a) := by
  have hcolon : ':' ∉ endMarks := by decide
  have hat : '@' ∉ endMarks := by decide
  have hinfo : IsUnbroken (userInfo a) := by
    rw [userInfo]
    split
    · exact isUnbroken_nil
    · split <;> simp [h.username, h.password, hcolon, hat]
  rw [authorityChars, isUnbroken_append, isUnbroken_append]
  refine ⟨⟨hinfo, h.host⟩, ?_⟩
  split <;> simp [hcolon, isUnbroken_digits]

theorem gives_readHostAndPort (scheme cs : List Char) :
    Gives (fun r => IsUnbroken r.1.1) (readHostAndPort scheme cs) := by
  rw [readHostAndPort]
  dsimp only
  split
  · trivial
  · split
    · refine (Host.gives_read _).bind fun host hhost => ?_
      split
      · exact gives_any.bind fun _ _ => hhost
      · exact hhost
    · refine (Host.gives_readOpaque _).bind fun host hhost => ?_
      split
      · exact gives_any.bind fun _ _ => hhost
      · exact hhost

theorem gives_readAuthority (scheme : List Char) (followed : Bool) (cs : List Char) :
    Gives (fun r => IsUnbrokenAuthority r.1) (readAuthority scheme followed cs) := by
  rw [readAuthority]
  split
  · refine (gives_readHostAndPort scheme cs).bind fun r hr => ?_
    exact ⟨isUnbroken_nil, isUnbroken_nil, hr⟩
  · next info rest _ =>
    dsimp only
    split
    · trivial
    · refine (gives_readHostAndPort scheme rest).bind fun r hr => ?_
      split
      · trivial
      · exact ⟨isUnbroken_encode (by decide) _, isUnbroken_encode (by decide) _, hr⟩

/-! ## Addresses -/

theorem isWhole_beforePath (h : ∀ a ∈ u.authority, IsUnbrokenAuthority a) :
    IsWhole (beforePath u) := by
  have hslash : '/' ∉ cutMarks := by decide
  have hpoint : '.' ∉ cutMarks := by decide
  rw [beforePath]
  split
  · next a ha => simp [hslash, (isUnbroken_authorityChars (h a ha)).isWhole]
  · split <;> simp [hslash, hpoint]

/-- Where the query and the fragment are, neither stands in the text before them. -/
theorem isWhole_readTail (special : Bool) (cs : List Char) : IsWhole (readTail special cs).1 := by
  intro c hmem hc
  have hall : ∀ d : Char, ∀ ds : List Char, d ∉ ds.takeWhile (· != d) := fun d ds hd => by
    simpa using List.all_eq_true.1 List.all_takeWhile d hd
  rw [readTail] at hmem
  rcases List.mem_cons.1 hc with rfl | hc
  · exact hall '?' _ hmem
  · obtain rfl := List.mem_singleton.1 hc
    exact hall '#' cs (List.takeWhile_subset _ hmem)

theorem hash_not_mem_readTail {special : Bool} (h : q ∈ (readTail special cs).2.1) : '#' ∉ q := by
  intro hc
  rw [readTail] at h
  dsimp only at h
  split at h
  · next rest _ =>
    obtain rfl := Option.some.inj h
    have hset : (if special then inSpecialQuery else inQuery) '#' = true := by
      cases special <;> decide
    have hnot := (mem_of_mem_encode (by decide) hc).2
    rw [hset] at hnot
    cases hnot
  · cases h

/-- No part of the path is written with a character at which an address is cut. -/
def IsWholePath : UrlPath → Prop
  | .opaqueText cs => IsWhole cs
  | .segments items => ∀ segment ∈ items, IsWhole segment

theorem isWhole_pathChars (h : IsWholePath u.path) : IsWhole (pathChars u) := by
  rw [pathChars]
  split
  · next heq => rwa [heq] at h
  · next heq =>
    rw [heq] at h
    exact Path.isWhole_toChars h

/-- Nothing but a query or a fragment ends what is written before them. -/
theorem isWhole_front (hscheme : IsWhole u.scheme)
    (hauthority : ∀ a ∈ u.authority, IsUnbrokenAuthority a) (hpath : IsWholePath u.path) :
    IsWhole u.front := by
  rw [front, isWhole_append, isWhole_append, isWhole_cons]
  exact ⟨⟨hscheme, by decide, isWhole_beforePath hauthority⟩, isWhole_pathChars hpath⟩

/-- An address with an authority and a path of segments. -/
theorem isDivided_of_segments {scheme : List Char} {a : Authority} {segments : List (List Char)}
    {query fragment : Option (List Char)} (hscheme : IsWhole scheme) (ha : IsUnbrokenAuthority a)
    (hsegments : ∀ segment ∈ segments, IsWhole segment) (hquery : ∀ q ∈ query, '#' ∉ q) :
    IsDivided ⟨scheme, some a, .segments segments, query, fragment⟩ where
  front := isWhole_front hscheme (fun _ h => Option.some.inj h ▸ ha) hsegments
  query := hquery

theorem gives_readHierarchy {scheme : List Char} (hscheme : IsWhole scheme) (cs : List Char) :
    Gives (fun u => u.scheme = scheme ∧ u.IsDivided) (readHierarchy scheme cs) := by
  rw [readHierarchy]
  refine (gives_readAuthority _ _ _).bind fun r hr => ⟨rfl, ?_⟩
  refine isDivided_of_segments hscheme hr ?_ fun q hq => hash_not_mem_readTail hq
  split
  · split <;> simp
  · exact Path.isWhole_of_mem_read _

theorem gives_readFile {scheme : List Char} (hscheme : IsWhole scheme) (cs : List Char) :
    Gives (fun u => u.scheme = scheme ∧ u.IsDivided) (readFile scheme cs) := by
  -- the path is read after the host, and the host stands alone in the authority
  have hfile : ∀ host path : List Char, IsUnbroken host →
      scheme = scheme ∧ IsDivided ⟨scheme, some ⟨[], [], host, none⟩,
        .segments (Path.readFile path), (readTail true cs).2.1, (readTail true cs).2.2⟩ :=
    fun host path hhost =>
      ⟨rfl, isDivided_of_segments hscheme ⟨isUnbroken_nil, isUnbroken_nil, hhost⟩
        (Path.isWhole_of_mem_readFile path) fun q hq => hash_not_mem_readTail hq⟩
  rw [readFile]
  dsimp only
  split
  · split
    · split
      · exact hfile _ _ isUnbroken_nil
      · refine (Host.gives_read _).bind fun host hhost => hfile _ _ ?_
        split
        · exact isUnbroken_nil
        · split
          · exact isUnbroken_nil
          · exact hhost
    · exact hfile _ _ isUnbroken_nil
  · exact hfile _ _ isUnbroken_nil
  · exact hfile _ _ isUnbroken_nil

theorem gives_readOther {scheme : List Char} (hscheme : IsWhole scheme) (cs : List Char) :
    Gives (fun u => u.scheme = scheme ∧ u.IsDivided) (readOther scheme cs) := by
  fun_cases readOther scheme cs with
  | case1 rest => exact gives_readHierarchy hscheme rest
  | case2 path query fragment _ _ =>
    refine ⟨rfl, isWhole_front hscheme (fun _ h => nomatch h) ?_,
      fun q hq => hash_not_mem_readTail hq⟩
    dsimp only
    split
    · exact Path.isWhole_of_mem_read _
    · exact (isWhole_readTail false cs).encode

theorem toLower_not_mem_cutMarks : ∀ c : Char, c.toNat < 0x80 → isSchemeChar c = true →
    c.toLower ∉ cutMarks :=
  Text.forall_plain (by decide +kernel)

theorem isWhole_of_readScheme? {scheme rest : List Char}
    (h : readScheme? cs = some (scheme, rest)) : IsWhole scheme := by
  rw [readScheme?] at h
  split at h
  · cases h
    intro c hc
    obtain ⟨d, hd, rfl⟩ := List.mem_map.1 hc
    have hscheme := List.all_eq_true.1 List.all_takeWhile d hd
    have hlt : d.toNat < 0x80 := by
      rw [isSchemeChar, Bool.or_eq_true, Bool.or_eq_true, Bool.or_eq_true, beq_iff_eq, beq_iff_eq,
        beq_iff_eq] at hscheme
      rcases hscheme with ((hplain | rfl) | rfl) | rfl
      · exact Text.toNat_lt_of_isAlphanum hplain
      all_goals decide
    exact toLower_not_mem_cutMarks d hlt hscheme
  · cases h

theorem gives_parse (s : String) : Gives IsDivided (parse s) := by
  rw [parse]
  dsimp only
  split
  · trivial
  · next scheme rest hread =>
    have hscheme := isWhole_of_readScheme? hread
    split
    · exact (gives_readFile hscheme rest).mono fun _ h => h.2
    · split
      · exact (gives_readHierarchy hscheme _).mono fun _ h => h.2
      · exact (gives_readOther hscheme rest).mono fun _ h => h.2

/-- Every address that is read is divided. -/
theorem isDivided_of_parse {s : String} (h : parse s = .ok u) : u.IsDivided :=
  (gives_parse s).of_eq_ok h

end RateHerald.Url
