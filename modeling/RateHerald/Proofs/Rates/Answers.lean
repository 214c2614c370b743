import RateHerald.Proofs.Json.Embedding
import RateHerald.Rates.Service

/-!
# Which part of an answer counts

A service sends the rate below a name, or below two, among members that nobody asks for. What is
made of an answer is settled by the value below these names: other members may stand before and
behind it, hold anything that is JSON to any depth, and be spread out with blanks. Only where a
fault in the value is told does its place in the answer show.

In a table of rates the last number below the code that is asked for counts, if all of them are
numbers that fit.

## Main declarations

* `Service.rateNames` are the names below which a service sends the rate.
* `Service.readRate_eq_tell`: what is made of an answer is made of the value below these names.
* `Service.readRate_of_embeds`: an answer is read like the one in which the value stands alone.
* `Service.not_forall_readRate_eq`: the place of a fault is another one.
-/

namespace RateHerald

namespace Service

open Json (IsValue IsWhole Embeds Entry Blanks Fault Reader objectChars)

/-- The names below which a service sends the rate. -/
def rateNames : Service → List String
  | .exchangeRateHost => ["rates"]
  | .ninjas => ["exchange_rate"]
  | .alphaVantage => ["Realtime Currency Exchange Rate", "5. Exchange Rate"]
  | .coinApi => ["rate"]
  | .coinYep => ["price"]

theorem isSingle_singleShape {α : Type} (name field : String) (reader : Reader α) :
    (singleShape name field reader).IsSingle field reader where
  exists_field := ⟨_, rfl, rfl, rfl, rfl⟩
  empty := rfl
  finish _ := rfl

theorem isSingle_tableShape : tableShape.IsSingle "rates" (Json.readMap Json.readFloat) where
  exists_field := ⟨_, rfl, rfl, rfl, rfl⟩
  empty := rfl
  finish _ := rfl

/-- What a service makes of the value below the names, if the value can be decoded. -/
def settle (s : Service) (p : Pair) (v : List Char) : Except Fault (Except RateError Float) :=
  let text := String.ofList v
  match s with
  | .exchangeRateHost =>
    (Json.decode (Json.readMap Json.readFloat) text).map fun rates =>
      match rates.lookup p.quote.code with
      | some x => .ok x
      | none => .error (.malformed s.name ("no " ++ p.quote.code ++ " rate in response"))
  | .ninjas => (Json.decode Json.readFloat text).map .ok
  | .alphaVantage => (Json.decode Json.readText text).map s.readNumber
  | .coinApi => (Json.decode Json.readFloat text).map .ok
  | .coinYep => (Json.decode Json.readText text).map s.readNumber

/-- The result for an answer, if a fault in the value is told `offset` bytes further on. -/
def tell (s : Service) (body : String) (offset : Nat) :
    Except Fault (Except RateError Float) → Except RateError Float
  | .ok result => result
  | .error f => .error (.malformed s.name ((f.later offset).describe body))

theorem decodeAnswer_bind_eq {α : Type} (s : Service) {value reader : Reader α}
    {v before text : List Char} (h : Json.Descends value s.rateNames reader)
    (hskip : Json.SkipsBlanks value) (htext : Embeds v s.rateNames before text)
    (hv : ∃ r, Json.Settles value v r) (front back : Blanks) (k : α → Except RateError Float) :
    (s.decodeAnswer reader (String.ofList (front.chars ++ (text ++ back.chars))) >>= k) =
      s.tell (String.ofList (front.chars ++ (text ++ back.chars)))
        (Json.Cursor.bytes (front.chars ++ before))
        ((Json.decode value (String.ofList v)).map k) := by
  rw [decodeAnswer, h.decode_eq hskip htext hv front back]
  cases Json.decode value (String.ofList v) <;> rfl

/-- **What counts in an answer.** What is made of an answer is made of the value below the names of
the rate, and a fault in that value is told at its place in the answer. -/
theorem readRate_eq_tell (s : Service) (p : Pair) {v before text : List Char} (hv : IsValue v)
    (h : Embeds v s.rateNames before text) (front back : Blanks) :
    s.readRate p (String.ofList (front.chars ++ (text ++ back.chars))) =
      s.tell (String.ofList (front.chars ++ (text ++ back.chars)))
        (Json.Cursor.bytes (front.chars ++ before)) (s.settle p v) := by
  have hnumber := Json.exists_settles_readFloat hv
  have htext := Json.exists_settles_readText hv
  cases s with
  | exchangeRateHost =>
    exact decodeAnswer_bind_eq .exchangeRateHost (.member isSingle_tableShape .here)
      (Json.skipsBlanks_readMap _) h (Json.exists_settles_readMap Json.skipsBlanks_readFloat
        (fun _ => Json.exists_settles_readFloat) hv) front back _
  | ninjas =>
    rw [readRate, ← bind_pure (decodeAnswer _ _ _)]
    exact decodeAnswer_bind_eq .ninjas (.member (isSingle_singleShape _ _ _) .here)
      Json.skipsBlanks_readFloat h hnumber front back _
  | alphaVantage =>
    exact decodeAnswer_bind_eq .alphaVantage
      (.member (isSingle_singleShape _ _ _) (.member (isSingle_singleShape _ _ _) .here))
      Json.skipsBlanks_readText h htext front back _
  | coinApi =>
    rw [readRate, ← bind_pure (decodeAnswer _ _ _)]
    exact decodeAnswer_bind_eq .coinApi (.member (isSingle_singleShape _ _ _) .here)
      Json.skipsBlanks_readFloat h hnumber front back _
  | coinYep =>
    exact decodeAnswer_bind_eq .coinYep (.member (isSingle_singleShape _ _ _) .here)
      Json.skipsBlanks_readText h htext front back _

/-- What is wrong, if anything is. -/
def fault? {α : Type} : Except Fault α → Option Fault
  | .ok _ => none
  | .error f => some f

theorem fault?_map {α β : Type} (k : α → β) (r : Except Fault α) : fault? (r.map k) = fault? r := by
  cases r <;> rfl

/-- What is wrong with the value below the names of the rate, if it cannot be decoded. -/
def valueFault? (s : Service) (v : List Char) : Option Fault :=
  let text := String.ofList v
  match s with
  | .exchangeRateHost => fault? (Json.decode (Json.readMap Json.readFloat) text)
  | .ninjas => fault? (Json.decode Json.readFloat text)
  | .alphaVantage => fault? (Json.decode Json.readText text)
  | .coinApi => fault? (Json.decode Json.readFloat text)
  | .coinYep => fault? (Json.decode Json.readText text)

theorem fault?_settle (s : Service) (p : Pair) (v : List Char) :
    fault? (s.settle p v) = s.valueFault? v := by
  cases s <;> exact fault?_map _ _

/-- **An answer is read like the one that holds nothing else.** Let a value stand below the names of
the rate, among any other members. If it can be decoded, the result is that of the answer in which
it stands alone. If it cannot, both are malformed for the same reason, each told at the place of the
value's fault in it. In a table of numbers that fit, the last one below the code that is asked for
is the rate. -/
theorem readRate_of_embeds (s : Service) (p : Pair) {v before text : List Char} (hv : IsValue v)
    (h : Embeds v s.rateNames before text) (front back : Blanks) :
    let body := String.ofList (front.chars ++ (text ++ back.chars))
    let lone := String.ofList (Json.alone v s.rateNames)
    (s.valueFault? v = none → s.readRate p body = s.readRate p lone) ∧
      (∀ f, s.valueFault? v = some f →
        s.readRate p body = .error (.malformed s.name
          ((f.later (Json.Cursor.bytes (front.chars ++ before))).describe body)) ∧
        s.readRate p lone = .error (.malformed s.name
          ((f.later (Json.Cursor.bytes (Json.beforeAlone s.rateNames))).describe lone))) ∧
      ∀ x, s = .exchangeRateHost → Json.HoldsLast Json.readFloat p.quote.code x v →
        s.readRate p body = .ok x := by
  intro body lone
  have hbody := s.readRate_eq_tell p hv h front back
  have hlone : s.readRate p lone = s.tell lone
      (Json.Cursor.bytes (Json.beforeAlone s.rateNames)) (s.settle p v) := by
    have hread := s.readRate_eq_tell p hv (Json.embeds_alone v s.rateNames) .none .none
    rwa [Blanks.chars_none, List.nil_append, List.nil_append, List.append_nil] at hread
  rw [← s.fault?_settle p]
  -- both results are told of the same `settle`: the texts and the places are told only of a fault
  refine ⟨fun hfault => ?_, fun f hfault => ?_, ?_⟩
  · cases hsettle : s.settle p v with
    | ok result => rw [hbody, hlone, hsettle, tell, tell]
    | error f =>
      rw [hsettle] at hfault
      cases hfault
  · cases hsettle : s.settle p v with
    | ok result =>
      rw [hsettle] at hfault
      cases hfault
    | error f' =>
      rw [hsettle] at hfault
      obtain rfl := Option.some.inj hfault
      rw [hsettle] at hbody hlone
      exact ⟨hbody, hlone⟩
  · rintro x rfl hlast
    obtain ⟨rates, hrates, hlookup⟩ := hlast.exists_decode Json.skipsBlanks_readFloat
      fun _ => Json.exists_settles_readFloat
    rw [hbody, settle, hrates, Except.map, hlookup, tell]

/-- A table behind another member, and the code twice in it: the later number counts. -/
theorem readRate_of_embeds_exchangeRateHost :
    let body := "\x7b\"base\":[],\"rates\":\x7b\"UAH\":37,\"UAH\":38\x7d\x7d"
    let lone := "\x7b\"rates\":\x7b\"UAH\":37,\"UAH\":38\x7d\x7d"
    exchangeRateHost.readRate (Pair.ofTexts "USD" "UAH") body =
        exchangeRateHost.readRate (Pair.ofTexts "USD" "UAH") lone ∧
      exchangeRateHost.readRate (Pair.ofTexts "USD" "UAH") body =
        .ok (38 : UInt64).toFloat := by
  have hfirst : IsValue ['3', '7'] :=
    IsWhole.isValue ⟨⟨by decide, List.all_eq_true.1 rfl⟩, by decide⟩
  have hlast : IsValue ['3', '8'] :=
    IsWhole.isValue ⟨⟨by decide, List.all_eq_true.1 rfl⟩, by decide⟩
  have hrates : IsValue (objectChars ([Entry.compact "UAH" ['3', '7']] ++
      [Entry.compact "UAH" ['3', '8']]) .none) :=
    .object _ _ (List.forall_mem_cons.2 ⟨hfirst, List.forall_mem_singleton.2 hlast⟩)
  have hbase : IsValue ['[', ']'] := .list [] .none (List.forall_mem_nil _)
  have htext : Embeds (objectChars ([Entry.compact "UAH" ['3', '7']] ++
      [Entry.compact "UAH" ['3', '8']]) .none) exchangeRateHost.rateNames _ _ :=
    @Embeds.member _ "rates" [] _ [Entry.compact "base" ['[', ']']] [] (Entry.compact "rates" _)
      (Entry.name?_compact _ _) .here
      (List.forall_mem_singleton.2 (Entry.compact_ne hbase (by decide))) .none
  have hcode : (Pair.ofTexts "USD" "UAH").quote.code = "UAH" := by decide
  have h := readRate_of_embeds exchangeRateHost (Pair.ofTexts "USD" "UAH") hrates htext .none .none
  refine ⟨h.1 (Option.isNone_iff_eq_none.1 (by decide +kernel)), h.2.2 _ rfl ?_⟩
  rw [hcode]
  refine @Json.HoldsLast.object _ _ _ _ _ [] _ (Entry.name?_compact _ _) hlast rfl ?_
    (List.forall_mem_nil _) .none
  exact List.forall_mem_singleton.2 ⟨hfirst, _, _, Entry.name?_compact _ _, rfl⟩

/-- The message about a number that is too large tells where the number stands, so another member
before it changes the result. -/
theorem not_forall_readRate_eq :
    ¬∀ (s : Service) (p : Pair) (v before text : List Char), IsValue v →
      Embeds v s.rateNames before text → s.readRate p (String.ofList text) =
        s.readRate p (String.ofList (Json.alone v s.rateNames)) := by
  intro h
  have hone : IsWhole ['1'] := ⟨⟨by decide, List.all_eq_true.1 rfl⟩, by decide⟩
  have hexponent : Json.IsExponent ['e', '9', '9', '9'] :=
    @Json.IsExponent.digits 'e' [] ['9', '9', '9'] (.inl rfl) (.inl rfl)
      ⟨by decide, List.all_eq_true.1 rfl⟩
  have hlarge : IsValue ['1', 'e', '9', '9', '9'] := .number (.parts hone .none hexponent)
  have htext : Embeds ['1', 'e', '9', '9', '9'] coinApi.rateNames _ _ :=
    @Embeds.member _ "rate" [] _ [Entry.compact "a" ['1']] [] (Entry.compact "rate" _)
      (Entry.name?_compact _ _) .here
      (List.forall_mem_singleton.2 (Entry.compact_ne hone.isValue (by decide))) .none
  have heq := h coinApi (Pair.ofTexts "BTC" "UAH") _ _ _ hlarge htext
  revert heq
  decide +kernel

end Service

end RateHerald
