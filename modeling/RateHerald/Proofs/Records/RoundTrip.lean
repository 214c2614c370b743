import RateHerald.Proofs.Json.Reading
import RateHerald.Records.Codec

/-!
# Records are read back

Each kind of record is read back from its written form. A record is followed through its members:
the partial record before a member has the field of that member unset, and the reader of the field
takes what the writer wrote. An absent name of a mailbox is not written, so its field stays unset and
the name is absent again. A currency is read through `Currency.ofText`, which changes nothing,
because the code of a currency stands in its one spelling.

## Main declarations

* `Codec.Lawful`: every record of a kind can be written and is read back.
* `Json.RoundTrips` and `records_roundTrip`: whole texts, with or without a line end.
-/

namespace RateHerald

open Json (Reads Gathers)

/-! ## The kinds of records -/

theorem Currency.reads (c : Currency) : Reads Currency.reader c.toJson.chars c := by
  intro offset rest
  rw [toJson, Json.chars, reader, Json.reads_readText]
  simp [bind, Except.bind]

theorem Pair.reads (p : Pair) : Reads Pair.shape.read p.toJson.chars p :=
  Json.Shape.reads_object
    (.cons rfl rfl (Json.Field.reads_ofReader p.base.reads _) <|
      .cons rfl rfl (Json.Field.reads_ofReader p.quote.reads _) <| .nil _) rfl

theorem Access.reads (a : Access) : Reads Access.shape.read a.toJson.chars a :=
  Json.Shape.reads_object
    (.cons rfl rfl (Json.Field.reads_ofReader (Json.reads_readText a.endpoint) _) <|
      .cons rfl rfl (Json.Field.reads_ofReader (Json.reads_readText a.header) _) <|
      .cons rfl rfl (Json.Field.reads_ofReader (Json.reads_readText a.key) _) <| .nil _) rfl

theorem Mailbox.reads_nameField (name : String) (s : Option (Option String) × Option String) :
    Reads (nameField.read s) (Json.quote name) (some (some name), s.2) := by
  intro offset rest
  simp [nameField, Json.reads_readTextOrNull name _ _, bind, Except.bind]

theorem Mailbox.reads (m : Mailbox) : Reads Mailbox.shape.read m.toJson.chars m := by
  obtain ⟨name, address⟩ := m
  have haddress := Json.reads_readText address
  cases name with
  | none =>
    exact Json.Shape.reads_object
      (.cons rfl rfl (Json.Field.reads_ofReader haddress _) <| .nil _) rfl
  | some name =>
    exact Json.Shape.reads_object
      (.cons rfl rfl (reads_nameField name _) <|
        .cons rfl rfl (Json.Field.reads_ofReader haddress _) <| .nil _) rfl

theorem Subscription.reads (s : Subscription) :
    Reads Subscription.shape.read s.toJson.chars s := by
  have hsubscriber : Reads Subscription.subscriberShape.read
      (Json.object [("address", s.mailbox.toJson)]).chars s.mailbox :=
    Json.Shape.reads_object
      (.cons rfl rfl (Json.Field.reads_ofReader s.mailbox.reads _) <| .nil _) rfl
  exact Json.Shape.reads_object
    (.cons rfl rfl (Json.Field.reads_ofReader hsubscriber _) <|
      .cons rfl rfl (Json.Field.reads_ofReader s.topic.reads _) <| .nil _) rfl

/-! ## Codecs -/

/-- Every record of the kind can be written, and is read back from what was written. -/
def Codec.Lawful {α : Type} (codec : Codec α) : Prop :=
  ∀ x, ∃ v, codec.write x = .ok v ∧ Reads codec.read v.chars x

theorem Codec.subscription_lawful : Codec.subscription.Lawful := fun s => ⟨_, rfl, s.reads⟩

/-! ## Whole texts -/

/-- Decoding the compact form gives back the value, with or without a line end behind it. -/
def Json.RoundTrips {α : Type} (reader : Json.Reader α) (v : Json) (x : α) : Prop :=
  Json.decode reader v.compact = .ok x ∧ Json.decode reader (v.compact ++ "\n") = .ok x

theorem Json.roundTrips_of_reads {α : Type} {reader : Json.Reader α} {v : Json} {x : α}
    (h : Reads reader v.chars x) : Json.RoundTrips reader v x := by
  constructor
  · have hplain : Json.decode reader (String.ofList (v.chars ++ [])) = .ok x :=
      Json.decode_of_reads h (by simp)
    rwa [List.append_nil] at hplain
  · have hline : Json.decode reader (String.ofList (v.chars ++ ['\n'])) = .ok x :=
      Json.decode_of_reads h (by simp [Json.Cursor.isBlank])
    rwa [String.ofList_append] at hline

/-- Currencies, pairs, accesses, mailboxes and subscriptions are read back from their compact
forms. -/
theorem records_roundTrip :
    (∀ c : Currency, Json.RoundTrips Currency.reader c.toJson c) ∧
    (∀ base quote : String, Json.RoundTrips Pair.shape.read (Pair.ofTexts base quote).toJson
      (Pair.ofTexts base quote)) ∧
    (∀ a : Access, Json.RoundTrips Access.shape.read a.toJson a) ∧
    (∀ m : Mailbox, Json.RoundTrips Mailbox.shape.read m.toJson m) ∧
    (∀ s : Subscription, Json.RoundTrips Subscription.shape.read s.toJson s) :=
  ⟨fun c => Json.roundTrips_of_reads c.reads, fun _ _ => Json.roundTrips_of_reads (Pair.reads _),
    fun a => Json.roundTrips_of_reads a.reads, fun m => Json.roundTrips_of_reads m.reads,
    fun s => Json.roundTrips_of_reads s.reads⟩

end RateHerald
