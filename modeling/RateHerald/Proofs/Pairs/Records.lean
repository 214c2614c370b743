import RateHerald.Proofs.Json.Mapping
import RateHerald.Proofs.Pairs.Grammar
import RateHerald.Rate
import RateHerald.Subscription

/-!
# One spelling, wherever a currency comes from

A currency is made of a text that was given, typed or found in a record, and it is always made by
`Currency.ofText`. For records this is told by reading them twice: once as they are meant to be
read, and once with the texts of the codes left as they stand. The records of the second kind have
the fields of the first, so the two readings go side by side, in objects and in lists, and fail
together. What the first one gives is what the second one gives, with its texts brought to the one
spelling.

So a record that was written by hand is about the pair that somebody types exactly if its texts
respell the two sides of what is typed.

## Main declarations

* `Pair.textsShape`, `Rate.textsShape` and `Subscription.textsShape`: records with the texts of the
  codes as they stand.
* `Pair.read_eq` and its fellows: the records that are read are these, with the texts respelled.
* `Currency.one_spelling` puts this together.
-/

namespace RateHerald

/-! ## Records as they stand -/

/-- The pair that two texts name, one for each side. -/
def Pair.ofSides (sides : String × String) : Pair :=
  ofTexts sides.1 sides.2

/-- How the record of a pair is read if the texts of its codes are left as they stand. -/
def Pair.textsShape : Json.Shape (Option String × Option String) (String × String) :=
  .ofTwo "CurrencyPair" "base" "quote" Json.readText Json.readText Prod.mk

/-- How the record of a rate is read if the texts of its codes are left as they stand. -/
def Rate.textsShape :
    Json.Shape (Option Float × Option (String × String)) (Float × String × String) :=
  .ofTwo "ExchangeRate" "value" "pair" Json.readFloat Pair.textsShape.read Prod.mk

/-- How the record of a subscription is read if the texts of its codes are left as they stand. -/
def Subscription.textsShape :
    Json.Shape (Option Mailbox × Option (String × String)) (Mailbox × String × String) :=
  .ofTwo "Subscription" "subscriber" "topic" subscriberShape.read Pair.textsShape.read Prod.mk

/-! ## Reading both ways -/

theorem Currency.reader_eq : reader = Json.Reader.map ofText Json.readText := by
  funext c
  rw [reader, Json.Reader.map]
  rcases Json.readText c with fault | ⟨s, c⟩ <;> rfl

theorem Pair.read_eq : shape.read = textsShape.read.map ofSides := by
  have hshape : shape =
      .ofTwo "CurrencyPair" "base" "quote" Currency.reader Currency.reader Pair.mk := rfl
  rw [hshape, Currency.reader_eq]
  exact Json.Shape.read_ofTwo fun _ _ => rfl

theorem Rate.read_eq : shape.read = textsShape.read.map fun r => ⟨r.1, Pair.ofSides r.2⟩ := by
  have hshape : shape =
      .ofTwo "ExchangeRate" "value" "pair" Json.readFloat Pair.shape.read Rate.mk := rfl
  rw [hshape, Pair.read_eq, ← Json.Reader.map_id Json.readFloat]
  exact Json.Shape.read_ofTwo fun _ _ => rfl

theorem Subscription.read_eq :
    shape.read = textsShape.read.map fun s => ⟨s.1, Pair.ofSides s.2⟩ := by
  have hshape : shape = .ofTwo "Subscription" "subscriber" "topic" subscriberShape.read
      Pair.shape.read Subscription.mk := rfl
  rw [hshape, Pair.read_eq, ← Json.Reader.map_id subscriberShape.read]
  exact Json.Shape.read_ofTwo fun _ _ => rfl

/-! ## Records and typed pairs -/

/-- Pairs that are named by texts are the same exactly if the texts respell each other. -/
theorem Pair.ofTexts_eq_ofTexts_iff {base quote base' quote' : String} :
    ofTexts base quote = ofTexts base' quote' ↔
      Currency.Respells base.toList base'.toList ∧
        Currency.Respells quote.toList quote'.toList := by
  rw [ofTexts, ofTexts, Pair.mk.injEq, Currency.ofText_eq_ofText_iff, Currency.ofText_eq_ofText_iff]

/-- The record holds two texts, and its topic is a typed pair exactly if they respell the sides of
what is typed. -/
theorem Subscription.exists_texts {text line : String} {s : Subscription} {p : Pair}
    (hs : Json.decode shape.read text = .ok s) (hp : Pair.parse line = .ok p) :
    ∃ base quote left divider right,
      Json.decode textsShape.read text = .ok (s.mailbox, base, quote) ∧
      line.toList = left ++ divider :: right ∧ divider ∈ Pair.dividers ∧
      p = Pair.ofTexts (String.ofList left) (String.ofList right) ∧
      (s.topic = p ↔
        Currency.Respells base.toList left ∧ Currency.Respells quote.toList right) := by
  rw [read_eq, Json.decode_map] at hs
  rcases htexts : Json.decode textsShape.read text with fault | ⟨mailbox, base, quote⟩
  · rw [htexts] at hs
    cases hs
  · rw [htexts] at hs
    cases hs
    have hspells := Pair.parse_eq_ok_iff.1 hp
    generalize line.toList = cs at hspells ⊢
    cases hspells with
    | @divided left right divider hdivider =>
      refine ⟨base, quote, left, divider, right, rfl, rfl, hdivider, rfl, ?_⟩
      dsimp only [Pair.ofSides]
      rw [Pair.ofTexts_eq_ofTexts_iff, String.toList_ofList, String.toList_ofList]

/-- Every currency is the one that its code names. The code of what a text names is the one spelling
of the text, and texts name the same currency exactly if they respell each other. Every record is
read as it stands, with its texts brought to the one spelling; so the topic of a record that was
written by hand is a typed pair exactly if the texts in the record respell what is typed. -/
theorem Currency.one_spelling :
    (∀ c : Currency, ofText c.code = c) ∧
    (∀ s : String, (ofText s).code.toList = Text.upper (Text.trim s.toList)) ∧
    (∀ s t : String, ofText s = ofText t ↔ Respells s.toList t.toList) ∧
    (∀ text, Json.decode reader text = (Json.decode Json.readText text).map ofText) ∧
    (∀ text, Json.decode Pair.shape.read text =
      (Json.decode Pair.textsShape.read text).map Pair.ofSides) ∧
    (∀ text, Json.decode Rate.shape.read text =
      (Json.decode Rate.textsShape.read text).map fun r => ⟨r.1, Pair.ofSides r.2⟩) ∧
    (∀ text, Json.decode Subscription.shape.read text =
      (Json.decode Subscription.textsShape.read text).map fun s => ⟨s.1, Pair.ofSides s.2⟩) ∧
    ∀ (text line : String) (s : Subscription) (p : Pair),
      Json.decode Subscription.shape.read text = .ok s → Pair.parse line = .ok p →
      ∃ base quote left divider right,
        Json.decode Subscription.textsShape.read text = .ok (s.mailbox, base, quote) ∧
        line.toList = left ++ divider :: right ∧ divider ∈ Pair.dividers ∧
        p = Pair.ofTexts (String.ofList left) (String.ofList right) ∧
        (s.topic = p ↔ Respells base.toList left ∧ Respells quote.toList right) := by
  refine ⟨ofText_code, toList_ofText, fun _ _ => ofText_eq_ofText_iff, fun text => ?_,
    fun text => ?_, fun text => ?_, fun text => ?_, fun _ _ _ _ => Subscription.exists_texts⟩
  · rw [reader_eq, Json.decode_map]
  · rw [Pair.read_eq, Json.decode_map]
  · rw [Rate.read_eq, Json.decode_map]
  · rw [Subscription.read_eq, Json.decode_map]

/-- A record that was written by hand, with the pair in a list. -/
def handWritten : String :=
  "\x7b\"topic\": [\" btc\", \"uah\\t\"], \"subscriber\": [\x7b\"address\": \"a@b.c\"\x7d]\x7d"

/-- The record is about a pair that is typed in other letters. -/
theorem Currency.one_spelling_of_handWritten :
    ∃ s p base quote left divider right, Json.decode Subscription.shape.read handWritten = .ok s ∧
      Pair.parse "BTC - uah" = .ok p ∧ s.topic = p ∧
      Json.decode Subscription.textsShape.read handWritten = .ok (s.mailbox, base, quote) ∧
      "BTC - uah".toList = left ++ divider :: right ∧
      Respells base.toList left ∧ Respells quote.toList right := by
  have hs : Json.decode Subscription.shape.read handWritten =
      .ok ⟨⟨none, "a@b.c"⟩, Pair.ofTexts "BTC" "UAH"⟩ := Json.eq_ok_of_toOption (by decide +kernel)
  have hp : Pair.parse "BTC - uah" = .ok (Pair.ofTexts "BTC" "UAH") :=
    Json.eq_ok_of_toOption (by decide +kernel)
  obtain ⟨base, quote, left, divider, right, htexts, hline, -, -, hsame⟩ :=
    one_spelling.2.2.2.2.2.2.2 _ _ _ _ hs hp
  exact ⟨_, _, base, quote, left, divider, right, hs, hp, rfl, htexts, hline, hsame.1 rfl⟩

end RateHerald
