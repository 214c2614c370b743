import RateHerald.Proofs.Json.Mapping
import RateHerald.Proofs.Pairs.Codes
import RateHerald.Proofs.Url.Parameters
import RateHerald.Proofs.Url.Paths
import RateHerald.Rates.Service

/-!
# What a service is told

All services but one are told the pair in the query of the address that is fetched. The endpoint may
have a query of its own, an empty one too, and a fragment. Whatever the codes and the key are made
of, the query is read as the parameters of the endpoint and behind them exactly those the service is
to be told, and the rest of the address is that of the endpoint. The header and the key matter only
if both are set. One service is told the pair by two segments below the path of the endpoint, and
here too the rest of the address is that of the endpoint.

## Main declarations

* `Access.HasKey` says that header and key are set; `Access.credentials_of_hasKey` and
  `Access.credentials_eq_none_iff`: they are used then and only then.
* `Service.Told` lists what each service is told.
* `Service.question_told` puts this together.
* `Service.question_below_endpoint` is about the service that is told the pair by the path.
-/

namespace RateHerald

/-! ## Keys -/

namespace Access

/-- The header and the key are set: neither is empty or a hyphen. -/
structure HasKey (a : Access) : Prop where
  /-- The header. -/
  header : a.header ≠ "" ∧ a.header ≠ "-"
  /-- The key. -/
  key : a.key ≠ "" ∧ a.key ≠ "-"

theorem isSet_iff {s : String} : isSet s = true ↔ s ≠ "" ∧ s ≠ "-" := by
  simp [isSet, unset]

theorem credentials_of_hasKey {a : Access} (h : a.HasKey) :
    a.credentials = some (a.header, a.key) := by
  rw [credentials, isSet_iff.2 h.header, isSet_iff.2 h.key]
  rfl

theorem credentials_eq_none_iff {a : Access} : a.credentials = none ↔ ¬a.HasKey := by
  constructor
  · intro hnone h
    rw [credentials_of_hasKey h] at hnone
    cases hnone
  · intro h
    rw [credentials]
    split
    · next hset =>
      rw [Bool.and_eq_true] at hset
      exact absurd ⟨isSet_iff.1 hset.1, isSet_iff.1 hset.2⟩ h
    · rfl

end Access

namespace Service

open Url (EqUpToSlashes cut sections webSchemes)

variable {s : Service} {a : Access} {p : Pair} {u : Url}

/-! ## Parameters -/

/-- The parameters that a service is told about a pair, in their order. -/
inductive Told (a : Access) (p : Pair) : Service → List (String × String) → Prop where
  /-- Both codes. -/
  | exchangeRateHost : Told a p .exchangeRateHost [("from", p.base.code), ("to", p.quote.code)]
  /-- Both codes in one. -/
  | ninjas : Told a p .ninjas [("pair", p.base.code ++ "_" ++ p.quote.code)]
  /-- Both codes, where there is no key. -/
  | alphaVantage (h : ¬a.HasKey) :
      Told a p .alphaVantage [("from_currency", p.base.code), ("to_currency", p.quote.code)]
  /-- Both codes and the key. -/
  | alphaVantageWithKey (h : a.HasKey) :
      Told a p .alphaVantage
        [("from_currency", p.base.code), ("to_currency", p.quote.code), (a.header, a.key)]
  /-- Both codes and what the answer is to look like. -/
  | coinYep :
      Told a p .coinYep
        [("from", p.base.code), ("to", p.quote.code), ("lang", "en"), ("format", "json")]

theorem told_parameters (hs : s ≠ .coinApi) : Told a p s (s.parameters a p) := by
  cases s with
  | coinApi => exact absurd rfl hs
  | exchangeRateHost => exact .exchangeRateHost
  | ninjas => exact .ninjas
  | coinYep => exact .coinYep
  | alphaVantage =>
    rw [parameters]
    by_cases h : a.HasKey
    · rw [Access.credentials_of_hasKey h]
      exact .alphaVantageWithKey h
    · rw [Access.credentials_eq_none_iff.2 h]
      exact .alphaVantage h

theorem Told.ne_nil {params : List (String × String)} (h : Told a p s params) : params ≠ [] := by
  cases h <;> exact List.cons_ne_nil _ _

/-! ## Questions -/

/-- The question for a pair depends on the endpoint, and on header and key as far as they are used.
-/
theorem question_congr {a' : Access} (hendpoint : a.endpoint = a'.endpoint)
    (hcredentials : a.credentials = a'.credentials) : s.question a p = s.question a' p := by
  have hparameters : s.parameters a p = s.parameters a' p := by
    cases s <;> simp only [parameters, hcredentials]
  have haddress : ∀ u, s.address a p u = s.address a' p u := fun u => by
    cases s <;> simp only [address, hparameters]
  have hsame : s.endpoint a = s.endpoint a' := by rw [endpoint, endpoint, hendpoint]
  simp only [question, hsame, haddress, hcredentials]

/-- Where there is an endpoint there is a question. -/
theorem exists_question (hu : Url.parse a.endpoint = .ok u) (p : Pair) :
    ∃ q, s.question a p = .ok q ∧ q.url = (s.address a p u).toText := by
  have hendpoint : s.endpoint a = .ok u := by rw [endpoint, hu]
  rw [question, hendpoint]
  cases a.credentials with
  | none => exact ⟨_, rfl, rfl⟩
  | some credentials =>
    refine ⟨_, rfl, ?_⟩
    split <;> rfl

/-- What is added to the query of an endpoint leaves the rest of the address as it is, and is read
behind the parameters of the endpoint. -/
theorem cut_appendQuery (hu : u.IsDivided) {params : List (String × String)} (h : params ≠ []) :
    ∃ query, cut (u.appendQuery params).toChars = (u.front, some query, u.fragment) ∧
      Url.Form.decode query =
        Url.Form.decode (u.query.getD []) ++ params.map Url.Form.bytesOfPair := by
  have hown : '#' ∉ u.query.getD [] := by
    cases hquery : u.query with
    | none => exact List.not_mem_nil
    | some query => exact hu.query query hquery
  have hdivided : (u.appendQuery params).IsDivided := by
    rw [Url.appendQuery, if_neg (by simpa using h)]
    refine ⟨hu.front, fun query hquery => ?_⟩
    obtain rfl := Option.some.inj hquery
    exact Url.Form.hash_not_mem_append hown params
  refine ⟨Url.Form.append (u.query.getD []) params, ?_, Url.Form.decode_append _ params⟩
  rw [hdivided.cut_toChars, Url.appendQuery, if_neg (by simpa using h)]
  rfl

/-- Whatever codes and key are made of, the question for a pair is put at the address of the
endpoint, with the endpoint's own parameters and behind them those the service is told, and no
others. If header and key are not both set, other such ones make the same question. -/
theorem question_told (hs : s ≠ .coinApi) (hu : Url.parse a.endpoint = .ok u) (p : Pair) :
    ∃ q query params, s.question a p = .ok q ∧ Told a p s params ∧
      cut u.toText.toList = (u.front, u.query, u.fragment) ∧
      cut q.url.toList = (u.front, some query, u.fragment) ∧
      (∀ added, Url.Form.decode query =
        Url.Form.decode (u.query.getD []) ++ added.map Url.Form.bytesOfPair ↔ added = params) ∧
      (a.credentials = none → ∀ header key, Access.credentials ⟨a.endpoint, header, key⟩ = none →
        s.question ⟨a.endpoint, header, key⟩ p = .ok q) := by
  have hdivided := Url.isDivided_of_parse hu
  have htold : Told a p s (s.parameters a p) := told_parameters hs
  obtain ⟨q, hq, hurl⟩ := exists_question (s := s) hu p
  obtain ⟨query, hcut, hdecode⟩ := cut_appendQuery hdivided htold.ne_nil
  have haddress : s.address a p u = u.appendQuery (s.parameters a p) := by
    cases s with
    | coinApi => exact absurd rfl hs
    | _ => rfl
  refine ⟨q, query, s.parameters a p, hq, htold, ?_, ?_, fun added => ?_, ?_⟩
  · rw [Url.toText, String.toList_ofList, hdivided.cut_toChars]
  · rw [hurl, haddress, Url.toText, String.toList_ofList, hcut]
  · have hinj : ∀ p p', Url.Form.bytesOfPair p = Url.Form.bytesOfPair p' → p = p' := fun _ _ h =>
      Url.Form.bytesOfPair_inj.1 h
    rw [hdecode, List.append_cancel_left_eq, List.map_inj_right hinj, eq_comm]
  · intro hnone header key hnone'
    rw [← hq]
    exact question_congr rfl (hnone'.trans hnone.symm)

/-- Access at an endpoint with a query and a fragment, by a key that is full of marks. -/
def markedAccess : Access :=
  ⟨"https://h.c/p?x=1&&y=%26#f", "a=b", "k&#+é "⟩

/-- The marks in the codes and in the key are read back, and divide nothing. -/
theorem question_told_of_markedAccess :
    ∃ q query, alphaVantage.question markedAccess (Pair.ofTexts "b&c" "#=d") = .ok q ∧
      cut q.url.toList = ("https://h.c/p".toList, some query, some ['f']) ∧
      Url.Form.decode query =
        [("x", "1"), ("y", "&"), ("from_currency", "B&C"), ("to_currency", "#=D"),
          ("a=b", "k&#+é ")].map Url.Form.bytesOfPair := by
  have hu : Url.parse markedAccess.endpoint = .ok
      ⟨"https".toList, some ⟨[], [], "h.c".toList, none⟩, .segments [['p']],
        some "x=1&&y=%26".toList, some ['f']⟩ :=
    Json.eq_ok_of_toOption (by decide +kernel)
  have hkey : markedAccess.HasKey := ⟨by decide, by decide⟩
  obtain ⟨q, query, params, hq, htold, -, hcut, hadded, -⟩ :=
    question_told (s := .alphaVantage) (by decide) hu (Pair.ofTexts "b&c" "#=d")
  refine ⟨q, query, hq, hcut, ?_⟩
  cases htold with
  | alphaVantage h => exact absurd hkey h
  | alphaVantageWithKey =>
    rw [(hadded _).2 rfl]
    decide +kernel

/-! ## Questions by the path -/

/-- The segments of the path that names a pair below another path. -/
def segmentsOfPair (segments : List (List Char)) (p : Pair) : List (List Char) :=
  segments.rdropWhile List.isEmpty ++ [p.base.code.toList, p.quote.code.toList]

theorem pathOfPair_toChars {segments : List (List Char)} (h : ∀ segment ∈ segments, '/' ∉ segment)
    (p : Pair) :
    pathOfPair (Url.Path.toChars segments) p = Url.Path.toChars (segmentsOfPair segments p) := by
  change (Url.Path.toChars segments).rdropWhile (· == '/') ++ _ ++ _ = _
  rw [Url.Path.rdropWhile_toChars h, segmentsOfPair, Url.Path.toChars_append]
  simp [Url.Path.toChars]

theorem isSettled_segmentsOfPair {segments : List (List Char)} (h : Url.Path.IsSettled segments)
    (hp : p.isValid = true) : Url.Path.IsSettled (segmentsOfPair segments p) where
  ne_nil := by simp [segmentsOfPair]
  segment := by
    rw [Pair.isValid, Bool.and_eq_true] at hp
    refine List.forall_mem_append.2 ⟨fun segment hmem => ?_, ?_⟩
    · exact h.segment segment ((List.rdropWhile_prefix _ _).subset hmem)
    · have hcode : ∀ c : Currency, c.isValid = true → Url.Path.IsSettledSegment c.code.toList :=
        fun c hc => Url.Path.isSettledSegment_of_alphanum fun _ => Currency.isAlphanum_of_isValid hc
      simp [hcode _ hp.1, hcode _ hp.2]

theorem segmentsOfPair_inj {segments : List (List Char)} {p p' : Pair} :
    segmentsOfPair segments p = segmentsOfPair segments p' ↔ p = p' := by
  refine ⟨fun h => ?_, fun h => h ▸ rfl⟩
  rw [segmentsOfPair, segmentsOfPair, List.append_cancel_left_eq, List.cons.injEq,
    List.cons.injEq] at h
  exact congrArg₂ Pair.mk (Currency.eq_of_code h.1) (Currency.eq_of_code h.2.1)

section Web

variable {authority : Authority} {segments : List (List Char)}

theorem pathOfPair_pathChars (h : u.IsOfWeb authority segments) (p : Pair) :
    pathOfPair u.pathChars p = Url.Path.toChars (segmentsOfPair segments p) := by
  rw [Url.pathChars, h.path]
  exact pathOfPair_toChars (fun segment hmem =>
    Url.Path.not_mem_of_plain (h.settled.segment segment hmem).plain (by decide)) p

/-- The pair is named by two segments below the path of the endpoint. -/
theorem address_coinApi (h : u.IsOfWeb authority segments) (hp : p.isValid = true) :
    coinApi.address a p u = { u with path := .segments (segmentsOfPair segments p) } := by
  rw [address, pathOfPair_pathChars h,
    h.withPath_toChars (isSettled_segmentsOfPair h.settled hp)]

/-- Slashes at the end of the path of an endpoint make no difference. -/
theorem address_coinApi_congr {u' : Url} {authority' : Authority} {segments' : List (List Char)}
    {a' : Access} (h : u.IsOfWeb authority segments) (h' : u'.IsOfWeb authority' segments')
    (hsame : EqUpToSlashes u u') (hp : p.isValid = true) :
    coinApi.address a' p u' = coinApi.address a p u := by
  have htext : pathOfPair u'.pathChars p = pathOfPair u.pathChars p := by
    have hpath := hsame.path
    change _ ++ _ ++ _ = _ ++ _ ++ _
    exact congrArg (fun path => path ++ _ ++ _) hpath
  rw [address_coinApi h hp, address, htext, pathOfPair_pathChars h,
    h'.withPath_toChars (isSettled_segmentsOfPair h.settled hp), hsame.scheme, hsame.authority,
    hsame.query, hsame.fragment]

end Web

/-- The service that is told the pair by the path is asked, for an acceptable pair, at the address
of the endpoint with the codes as two more segments in place of the empty ones at the end of its
path. Nothing else in the address changes, however the path of the endpoint is written. Endpoints
that differ in slashes at the end of their paths are asked at the same address, and other pairs at
another one. -/
theorem question_below_endpoint (hu : Url.parse a.endpoint = .ok u)
    (hscheme : u.scheme ∈ webSchemes) :
    ∃ authority segments, u.authority = some authority ∧ u.path = .segments segments ∧
      sections u.toText.toList =
        ⟨u.scheme, Url.authorityChars authority, segments, u.query, u.fragment⟩ ∧
      ∀ p, p.isValid = true → ∃ q, coinApi.question a p = .ok q ∧
        q.url = Url.toText { u with path := .segments (segmentsOfPair segments p) } ∧
        sections q.url.toList = ⟨u.scheme, Url.authorityChars authority,
          segmentsOfPair segments p, u.query, u.fragment⟩ ∧
        (∀ p', p'.isValid = true → p' ≠ p →
          ∃ q', coinApi.question a p' = .ok q' ∧ q'.url ≠ q.url) ∧
        (∀ a' u', Url.parse a'.endpoint = .ok u' → EqUpToSlashes u u' →
          ∃ q', coinApi.question a' p = .ok q' ∧ q'.url = q.url) := by
  obtain ⟨authority, segments, hweb⟩ := Url.isOfWeb_of_parse hu hscheme
  have hasked : ∀ p, p.isValid = true → ∃ q, coinApi.question a p = .ok q ∧
      q.url = Url.toText { u with path := .segments (segmentsOfPair segments p) } ∧
      sections q.url.toList = ⟨u.scheme, Url.authorityChars authority, segmentsOfPair segments p,
        u.query, u.fragment⟩ := fun p hp => by
    obtain ⟨q, hq, hurl⟩ := exists_question (s := coinApi) hu p
    rw [address_coinApi hweb hp] at hurl
    have hsettled := isSettled_segmentsOfPair hweb.settled hp
    refine ⟨q, hq, hurl, ?_⟩
    rw [hurl, Url.toText, String.toList_ofList, (hweb.replacePath hsettled).sections_toChars]
  refine ⟨authority, segments, hweb.authority, hweb.path, ?_, fun p hp => ?_⟩
  · rw [Url.toText, String.toList_ofList, hweb.sections_toChars]
  obtain ⟨q, hq, hurl, hsections⟩ := hasked p hp
  refine ⟨q, hq, hurl, hsections, fun p' hp' hne => ?_, fun a' u' hu' hsame => ?_⟩
  · obtain ⟨q', hq', -, hsections'⟩ := hasked p' hp'
    refine ⟨q', hq', fun heq => hne ?_⟩
    rw [heq, hsections, Url.Sections.mk.injEq] at hsections'
    exact segmentsOfPair_inj.1 hsections'.2.2.1.symm
  · obtain ⟨authority', segments', hweb'⟩ :=
      Url.isOfWeb_of_parse hu' (hsame.scheme ▸ hscheme)
    obtain ⟨q', hq', hurl'⟩ := exists_question (s := coinApi) hu' p
    refine ⟨q', hq', ?_⟩
    rw [hurl', hurl, address_coinApi_congr (a := a) hweb hweb' hsame hp, address_coinApi hweb hp]

/-- Access at an endpoint whose path has encoded characters, points and empty segments. -/
def windingAccess : Access :=
  ⟨"https://u:k@h.c:8443/v1//a%20b/./%2E%2e/x y//?k=v#f", "-", ""⟩

/-- Only what ends the path gives way to the codes. -/
theorem question_below_endpoint_of_windingAccess :
    ∃ q, coinApi.question windingAccess (Pair.ofTexts "btc" "uah") = .ok q ∧
      sections q.url.toList = ⟨"https".toList, "u:k@h.c:8443".toList,
        [['v', '1'], [], "x%20y".toList, "BTC".toList, "UAH".toList], some "k=v".toList,
        some ['f']⟩ := by
  have hu : Url.parse windingAccess.endpoint = .ok
      ⟨"https".toList, some ⟨['u'], ['k'], "h.c".toList, some 8443⟩,
        .segments [['v', '1'], [], "x%20y".toList, [], []], some "k=v".toList, some ['f']⟩ :=
    Json.eq_ok_of_toOption (by decide +kernel)
  obtain ⟨authority, segments, hauthority, hpath, -, hasked⟩ :=
    question_below_endpoint hu (by decide)
  obtain rfl := Option.some.inj hauthority
  obtain rfl := UrlPath.segments.inj hpath
  obtain ⟨q, hq, -, hsections, -⟩ := hasked (Pair.ofTexts "btc" "uah") (by decide +kernel)
  refine ⟨q, hq, hsections.trans ?_⟩
  decide +kernel

end Service

end RateHerald
