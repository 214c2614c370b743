import RateHerald.Proofs.Decimal.Boundless
import RateHerald.Proofs.Json.Numbers
import RateHerald.Rates.Service

/-!
# Which rates are not finite

A service that sends the rate as a number sends a finite one, or its answer is malformed. A service
that sends the rate as a text may send one that stands for no finite number, and the text is taken
for a rate like any other, so that the chain does not go on to the next provider.

## Main declarations

* `Service.Quotes` says that a service sends the rate as a text, and as which.
* `Service.exists_readRate_iff`: which answers give a rate that is not finite.
* `Service.not_forall_isFinite`: there are such answers.
-/

namespace RateHerald.Service

variable {s : Service} {p : Pair} {body text : String}

/-- The answer of the service holds the rate as a text. -/
inductive Quotes (body : String) : Service → String → Prop where
  /-- Two records deep. -/
  | alphaVantage {text : String} (h : Json.decode realtimeShape.read body = .ok text) :
      Quotes body .alphaVantage text
  /-- The price of a coin. -/
  | coinYep {text : String}
      (h : Json.decode (singleShape "PriceResponse" "price" Json.readText).read body = .ok text) :
      Quotes body .coinYep text

theorem gives_decodeAnswer {α : Type} {P : α → Prop} {reader : Json.Reader α}
    (h : Json.Yields P reader) (s : Service) (body : String) :
    Gives P (s.decodeAnswer reader body) := by
  have hdecode := Json.gives_decode h body
  rw [decodeAnswer]
  split
  · next heq => exact hdecode.of_eq_ok heq
  · trivial

/-- The one field of a record is what its reader gives. -/
theorem yields_singleShape {α : Type} {P : α → Prop} {reader : Json.Reader α}
    (h : Json.Yields P reader) (name field : String) :
    Json.Yields P (singleShape name field reader).read := by
  refine Json.Shape.yields_read (fun gathered => ∀ x ∈ gathered, P x) ?_ ?_ ?_
  · intro x hx
    cases hx
  · intro f hf gathered _ c
    obtain rfl := List.mem_singleton.1 hf
    refine (h c).bind fun r hr x hx => ?_
    obtain rfl := Option.some.inj hx
    exact hr
  · exact fun gathered x hgathered hfinish => hgathered x hfinish

theorem yields_tableShape :
    Json.Yields (fun rates => ∀ r ∈ rates, r.2.isFinite = true) tableShape.read := by
  refine Json.Shape.yields_read
    (fun gathered => ∀ rates ∈ gathered, ∀ r ∈ rates, r.2.isFinite = true) ?_ ?_ ?_
  · intro rates hrates
    cases hrates
  · intro f hf gathered _ c
    obtain rfl := List.mem_singleton.1 hf
    refine (Json.yields_readMap Json.yields_readFloat c).bind fun r hr rates hrates => ?_
    obtain rfl := Option.some.inj hrates
    exact hr
  · intro gathered rates hgathered hfinish
    obtain rfl := Option.some.inj hfinish
    cases gathered with
    | none => exact List.forall_mem_nil _
    | some rates => exact hgathered rates rfl

/-- A service that sends the rate as a number sends a finite one. -/
theorem gives_readRate (htext : s ≠ .alphaVantage ∧ s ≠ .coinYep) (p : Pair) (body : String) :
    Gives (fun v => v.isFinite = true) (s.readRate p body) := by
  cases s with
  | alphaVantage => exact absurd rfl htext.1
  | coinYep => exact absurd rfl htext.2
  | ninjas => exact gives_decodeAnswer (yields_singleShape Json.yields_readFloat _ _) _ _
  | coinApi => exact gives_decodeAnswer (yields_singleShape Json.yields_readFloat _ _) _ _
  | exchangeRateHost =>
    rw [readRate]
    refine (gives_decodeAnswer yields_tableShape _ _).bind fun rates hrates => ?_
    split
    · next v hv =>
      obtain ⟨before, after, hsplit, -⟩ := List.lookup_eq_some_iff.1 hv
      rw [hsplit] at hrates
      exact hrates (p.quote.code, v) (List.mem_append_right _ List.mem_cons_self)
    · trivial

theorem readNumber_eq_ok_iff {v : Float} :
    s.readNumber text = .ok v ↔ Decimal.parse (Text.trimmed text) = .ok v := by
  rw [readNumber]
  split <;> simp [*]

theorem decodeAnswer_eq_ok_iff {α : Type} {reader : Json.Reader α} {x : α} :
    s.decodeAnswer reader body = .ok x ↔ Json.decode reader body = .ok x := by
  rw [decodeAnswer]
  split <;> simp [*]

/-- Where the rate is sent as a text, it is what the text stands for. -/
theorem readRate_eq_ok_iff (htext : s = .alphaVantage ∨ s = .coinYep) {v : Float} :
    s.readRate p body = .ok v ↔
      ∃ text, Quotes body s text ∧ Decimal.parse (Text.trimmed text) = .ok v := by
  have hread : ∀ answer : Except RateError String,
      (answer >>= fun text => s.readNumber text) = .ok v ↔
        ∃ text, answer = .ok text ∧ Decimal.parse (Text.trimmed text) = .ok v := fun answer => by
    cases answer with
    | error e => simp [bind, Except.bind]
    | ok text => simp [bind, Except.bind, readNumber_eq_ok_iff]
  rcases htext with rfl | rfl <;> rw [readRate, hread] <;>
    simp only [decodeAnswer_eq_ok_iff]
  · constructor
    · rintro ⟨text, htext, hparse⟩
      exact ⟨text, .alphaVantage htext, hparse⟩
    · rintro ⟨text, hquotes, hparse⟩
      cases hquotes with
      | alphaVantage htext => exact ⟨text, htext, hparse⟩
  · constructor
    · rintro ⟨text, htext, hparse⟩
      exact ⟨text, .coinYep htext, hparse⟩
    · rintro ⟨text, hquotes, hparse⟩
      cases hquotes with
      | coinYep htext => exact ⟨text, htext, hparse⟩

/-- The rates that are not finite are just those that a service sends as a text that stands for no
finite number. -/
theorem exists_readRate_iff (s : Service) (p : Pair) (body : String) :
    (∃ v, s.readRate p body = .ok v ∧ v.isFinite = false) ↔
      ∃ text, Quotes body s text ∧ Decimal.NamesNoFinite (Text.trimmed text).toList := by
  by_cases htext : s = .alphaVantage ∨ s = .coinYep
  · simp only [readRate_eq_ok_iff htext, ← Decimal.exists_parse_iff]
    constructor
    · rintro ⟨v, ⟨text, hquotes, hparse⟩, hfinite⟩
      exact ⟨text, hquotes, v, hparse, hfinite⟩
    · rintro ⟨text, hquotes, v, hparse, hfinite⟩
      exact ⟨v, ⟨text, hquotes, hparse⟩, hfinite⟩
  · refine iff_of_false ?_ ?_
    · rintro ⟨v, hv, hfinite⟩
      have hgives := (gives_readRate (not_or.1 htext) p body).of_eq_ok hv
      rw [hfinite] at hgives
      cases hgives
    · rintro ⟨text, hquotes, -⟩
      cases hquotes with
      | alphaVantage => exact htext (.inl rfl)
      | coinYep => exact htext (.inr rfl)

/-- A price that is no number is taken for a rate. -/
theorem not_forall_isFinite :
    ¬∀ (s : Service) (p : Pair) (body : String) (v : Float), s.readRate p body = .ok v →
      v.isFinite = true := by
  intro h
  have hrate : (coinYep.readRate (Pair.ofTexts "BTC" "UAH")
      "\x7b\"price\": \"NaN\"\x7d").toOption.map Float.isFinite = some false := by
    decide +kernel
  obtain ⟨v, hv, hfinite⟩ := Option.map_eq_some_iff.1 hrate
  have hfinite' := h _ _ _ v (Json.eq_ok_of_toOption hv)
  rw [hfinite] at hfinite'
  cases hfinite'

end RateHerald.Service
