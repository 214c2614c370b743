import RateHerald.Proofs.Mailing.Grammar
import RateHerald.Proofs.Mailing.Subscribing

/-!
# Keys as names of files

A subscription is stored in a file that has its key as its name. No two subscriptions share a file
unless they are the same but for the case of the address. An address may have underscores in it, or
be a whole key, but no acceptable code has one, so the last two underscores of a key divide it.

Every key of a typed mailbox and an acceptable pair is a plain name. But not every one is the name
of a file: an address may have 254 bytes, and a key has at least four more, while a name may have
255. Codes may have any length. Such a subscription is refused by the disk, although nothing is
stored yet.

## Main declarations

* `Subscription.key_eq_key_iff_lower`: which subscriptions have the same key.
* `Post.ends_subscribe_of_vacant`: what the first subscription is answered.
-/

namespace RateHerald

/-- An address alone is a typed mailbox without a name. -/
theorem Mailbox.parse_ofList {cs : List Char} (h : isAddress cs = true) :
    parse (String.ofList cs) = .ok ⟨none, String.ofList cs⟩ := by
  obtain ⟨⟨user, domain, hparts, -⟩, -, hchars⟩ := isAddress_iff.1 h
  have hsplit : split? cs = some ([], cs) := split?_eq_some_iff.2 (.inl
    ⟨fun hmem => (hchars _ hmem).2.2.2.2.1 rfl, fun hmem => (hchars _ hmem).2.2.2.2.2 rfl,
      rfl, rfl⟩)
  have hne : cs.isEmpty = false := by
    rw [hparts]
    simp
  rw [parse, String.toList_ofList, trim_address h]
  simp [hsplit, hne, trim_address h, h, meantName_nil]

namespace Subscription

variable {s s' : Subscription}

/-- Two subscriptions to acceptable pairs have the same key exactly if their addresses are the same
in lower case and their pairs are the same, whatever stands in the addresses. -/
theorem key_eq_key_iff_lower (h : s.topic.isValid = true) (h' : s'.topic.isValid = true) :
    s.key = s'.key ↔
      Text.lower s.mailbox.address.toList = Text.lower s'.mailbox.address.toList ∧
        s.topic = s'.topic := by
  rw [key_eq_key_iff h h', Mailbox.normalized, Mailbox.normalized, String.ofList_inj]

/-- An address that is a whole key in another case, and the same address in lower case, have the
same key; the address that is the beginning of both has another one. -/
theorem key_of_keys :
    let topic := Pair.ofTexts "BTC" "UAH"
    let whole : Subscription := ⟨⟨none, "jane_doe@example.com_btc_UAH"⟩, topic⟩
    let lowered : Subscription := ⟨⟨some "Jane", "jane_doe@example.com_btc_uah"⟩, topic⟩
    let part : Subscription := ⟨⟨none, "jane_doe@example.com"⟩, topic⟩
    topic.isValid = true ∧ whole.key = lowered.key ∧ whole.key ≠ part.key := by
  intro topic whole lowered part
  have htopic : topic.isValid = true := by decide +kernel
  refine ⟨htopic, (key_eq_key_iff_lower htopic htopic).2 ⟨by decide +kernel, rfl⟩, fun heq => ?_⟩
  have hlower := ((key_eq_key_iff_lower htopic htopic).1 heq).1
  revert hlower
  decide +kernel

theorem utf8ByteSize_key (s : Subscription) : s.key.utf8ByteSize =
    s.mailbox.normalized.utf8ByteSize + s.topic.base.code.utf8ByteSize +
      s.topic.quote.code.utf8ByteSize + 2 := by
  have hsign : "_".utf8ByteSize = 1 := by decide +kernel
  simp only [key, String.utf8ByteSize_append, hsign]
  omega

end Subscription

namespace Post

variable {W : Type} {post : Post W} {s : Subscription}

/-- Where nothing was stored before, a storing under a plain key fails only if the key is too
long. -/
theorem ofStored_verdict_nil (hplain : Collection.isPlainKey s.key = true) :
    (Repository.ofStored s (post.records.verdict [] s.key)).mapError NotifyError.ofRepository =
      if s.key.utf8ByteSize ≤ Disk.maxNameLength then .ok ()
      else .error (.storage (.disk "creating file" (post.records.pathOf s.key) .nameTooLong)) := by
  by_cases hshort : s.key.utf8ByteSize ≤ Disk.maxNameLength
  · rw [ofStored_verdict hplain hshort, if_pos hshort]
    exact if_neg List.not_mem_nil
  · rw [Collection.verdict, if_pos hplain, if_pos (Nat.lt_of_not_le hshort), if_neg hshort]
    rfl

theorem ends_subscribe_first {hub : OfficeHub Empty W}
    (hvacant : hub.outside.disk.IsVacant post.records.place)
    (hplain : Collection.isPlainKey s.key = true) (htopic : s.topic.validate = .ok ())
    (m : Moment) :
    ∃ m' hub', (post.notifier.subscribe s).Ends m hub
        (if s.key.utf8ByteSize ≤ Disk.maxNameLength then .ok () else .error (.storage
          (.disk "creating file" (post.records.pathOf s.key) .nameTooLong))) m' hub' ∧
      post.Lists hub' (if s.key.utf8ByteSize ≤ Disk.maxNameLength then [s] else []) := by
  have hnothing : post.records.Keeps hub.outside.disk [] := .vacant rfl rfl hvacant
  obtain ⟨m', hub', past, hsubscribed, -, -, hkeeps, hwon⟩ :=
    ends_subscribe_of_ok hnothing htopic m
  have hlists := lists_of_keeps hkeeps
  rw [hwon] at hlists
  rw [ofStored_verdict_nil hplain] at hsubscribed hlists
  refine ⟨m', hub', hsubscribed, ?_⟩
  by_cases hshort : s.key.utf8ByteSize ≤ Disk.maxNameLength
  · rw [if_pos hshort] at hlists ⊢
    exact hlists
  · rw [if_neg hshort] at hlists ⊢
    exact hlists

/-- The first subscription of a typed mailbox to an acceptable pair is stored if its key has at most
255 bytes, and otherwise refused by the disk. Its key is a plain name in any case. -/
theorem ends_subscribe_of_vacant {hub : OfficeHub Empty W}
    (hvacant : hub.outside.disk.IsVacant post.records.place) {text : String}
    (hparse : Mailbox.parse text = .ok s.mailbox) (htopic : s.topic.validate = .ok ())
    (m : Moment) :
    Collection.isPlainKey s.key = true ∧
    s.key.utf8ByteSize = s.mailbox.normalized.utf8ByteSize + s.topic.base.code.utf8ByteSize +
      s.topic.quote.code.utf8ByteSize + 2 ∧
    ∃ answer m' hub', (post.notifier.subscribe s).Ends m hub answer m' hub' ∧
      (answer = .ok () ↔ s.key.utf8ByteSize ≤ 255) ∧
      (∀ e, answer = .error e → e = .storage
        (.disk "creating file" (post.records.pathOf s.key) .nameTooLong)) ∧
      post.Lists hub' (if answer.isOk then [s] else []) := by
  have hplain := Subscription.isPlainKey_key (Mailbox.isTyped_of_parse hparse).address
    (Pair.validate_eq_ok_iff.1 htopic)
  obtain ⟨m', hub', hsubscribed, hlists⟩ := ends_subscribe_first hvacant hplain htopic m
  refine ⟨hplain, s.utf8ByteSize_key, ?_⟩
  by_cases hshort : s.key.utf8ByteSize ≤ Disk.maxNameLength
  · rw [if_pos hshort] at hsubscribed hlists
    exact ⟨_, m', hub', hsubscribed, iff_of_true rfl hshort, nofun, hlists⟩
  · rw [if_neg hshort] at hsubscribed hlists
    refine ⟨_, m', hub', hsubscribed, iff_of_false nofun hshort, ?_, hlists⟩
    rintro e ⟨⟩
    rfl

/-! ### An empty disk -/

/-- A post with one service that always answers. -/
def fixed : Post (List Message) where
  base := "data"
  provider := fun _ => ⟨"fixed", fun pair => .done (.ok ⟨1.0, pair⟩)⟩
  mailer := fun message => Job.change fun sent => (.ok (), sent ++ [message])
  clock := .done ⟨0, 0⟩
  sender := none
  timeout := 1000

/-- An office where nothing happened yet. -/
def unused : OfficeHub Empty (List Message) :=
  Hub.ofDispatch .sequential ⟨Tally.empty, Disk.empty, []⟩

theorem isVacant_unused : unused.outside.disk.IsVacant fixed.records.place := by
  have hplace : fixed.records.place = ["data", "Subscription"] := by decide +kernel
  rw [hplace]
  exact Disk.isVacant_empty (by decide) (by decide)

/-- A subscription with a short key is stored on an empty disk. -/
theorem ends_subscribe_of_short_key :
    let s : Subscription := ⟨⟨some "Jane", "Jane@Example.com"⟩, Pair.ofTexts "btc" "uah"⟩
    Mailbox.parse "Jane <Jane@Example.com>" = .ok s.mailbox ∧ s.topic.validate = .ok () ∧
      ∃ m' hub', (fixed.notifier.subscribe s).Ends Moment.start unused (.ok ()) m' hub' ∧
        fixed.Lists hub' [s] := by
  intro s
  have hparse : Mailbox.parse "Jane <Jane@Example.com>" = .ok s.mailbox :=
    Mailbox.parse_of_toOption (by decide +kernel)
  have htopic : s.topic.validate = .ok () := Pair.validate_eq_ok_iff.2 (by decide +kernel)
  obtain ⟨-, -, answer, m', hub', hends, hiff, -, hlists⟩ :=
    ends_subscribe_of_vacant isVacant_unused hparse htopic Moment.start
  obtain rfl := hiff.2 (by decide +kernel)
  exact ⟨hparse, htopic, m', hub', hends, hlists⟩

/-- An address of 254 bytes is accepted, and so are two codes of three letters. But a subscription
of that address to that pair is refused, although the disk is empty. -/
theorem ends_subscribe_of_long_key :
    let address := List.replicate 242 'a' ++ "@example.com".toList
    let s : Subscription := ⟨⟨none, String.ofList address⟩, Pair.ofTexts "BTC" "UAH"⟩
    Mailbox.parse (String.ofList address) = .ok s.mailbox ∧ s.topic.validate = .ok () ∧
      ∃ m hub, (fixed.notifier.subscribe s).Ends Moment.start unused
        (.error (.storage (.disk "creating file" (fixed.records.pathOf s.key) .nameTooLong)))
        m hub := by
  intro address s
  have haddress : Mailbox.isAddress address = true := by decide +kernel
  have htopic : s.topic.isValid = true := by decide +kernel
  have hparse : Mailbox.parse (String.ofList address) = .ok s.mailbox :=
    Mailbox.parse_ofList haddress
  have hlong : ¬s.key.utf8ByteSize ≤ Disk.maxNameLength := by
    rw [Subscription.utf8ByteSize_key, Mailbox.normalized, String.toList_ofList,
      Mailbox.utf8ByteSize_ofList]
    decide +kernel
  have hvalid := Pair.validate_eq_ok_iff.2 htopic
  have hplain := Subscription.isPlainKey_key (Mailbox.isTyped_of_parse hparse).address htopic
  obtain ⟨m, hub, hends, -⟩ := ends_subscribe_first isVacant_unused hplain hvalid Moment.start
  rw [if_neg hlong] at hends
  exact ⟨hparse, hvalid, m, hub, hends⟩

end Post

end RateHerald
