import RateHerald.Proofs.Mailing.Deliveries
import RateHerald.Proofs.Pairs.Codes
import RateHerald.Proofs.Text.Lowering
import RateHerald.Proofs.Timed.GivenUp

/-!
# What a subscriber is told

Whoever subscribes is told one of three things: that the pair is refused, that the subscription is
there already, or that all is well. Which it is depends on the pair and on the subscriptions that
were accepted before, and on nothing else.

The record of a subscription lies under a key, and two facts about keys carry this. The key of a
typed mailbox and an acceptable pair is a plain name, because an address has no separators of paths
and lower case makes none. And the key tells the address in lower case and the pair, because no
acceptable code has an underscore, though an address may have some: the last two divide the key.

## Main declarations

* `Subscription.isPlainKey_key` and `Subscription.key_eq_key_iff`: the two facts about keys.
* `Post.Lists`: the subscriptions that are listed, in some order.
* `Post.ends_subscribe_after`: what is answered, and what is listed before and after.
-/

namespace RateHerald

/-! ## Keys -/

theorem Currency.not_mem_code {c : Currency} (h : c.isValid = true) : '_' ∉ c.code.toList := by
  intro hmem
  exact absurd (isAlphanum_of_isValid h hmem) (by decide)

/-- A character that has a property which separators of paths and the null character lack may stand
in a plain name. -/
theorem Collection.plain_of {p : Char → Bool} (hslash : p '/' = false) (hback : p '\\' = false)
    (hnull : p '\x00' = false) {ch : Char} (h : p ch = true) :
    (ch != '/' && ch != '\\' && ch.toNat != 0) = true := by
  have hne : ∀ sign : Char, p sign = false → ch ≠ sign := by
    rintro sign hsign rfl
    rw [hsign] at h
    cases h
  have hzero : ch.toNat ≠ 0 := by
    intro heq
    apply hne _ hnull
    rw [← Char.ofNat_toNat ch, heq]
  simp [hne _ hslash, hne _ hback, hzero]

namespace Subscription

variable {s s' : Subscription}

theorem toList_key (s : Subscription) : s.key.toList =
    (s.mailbox.normalized.toList ++ '_' :: s.topic.base.code.toList) ++
      '_' :: s.topic.quote.code.toList := by
  simp [key]

/-- The key of a typed mailbox and an acceptable pair is a plain name. -/
theorem isPlainKey_key (haddress : Mailbox.isAddress s.mailbox.address.toList = true)
    (htopic : s.topic.isValid = true) : Collection.isPlainKey s.key = true := by
  rw [Pair.isValid, Bool.and_eq_true] at htopic
  have hcode : ∀ c : Currency, c.isValid = true → ∀ ch ∈ c.code.toList,
      (ch != '/' && ch != '\\' && ch.toNat != 0) = true := fun c hc ch hch =>
    Collection.plain_of rfl rfl rfl (Currency.isAlphanum_of_isValid hc hch)
  have hname : ∀ ch ∈ s.mailbox.normalized.toList,
      (ch != '/' && ch != '\\' && ch.toNat != 0) = true := by
    intro ch hch
    rw [Mailbox.normalized, String.toList_ofList] at hch
    rcases Text.mem_of_mem_lower hch with hmem | hletter
    · simp only [Mailbox.isAddress, Bool.and_eq_true, List.all_eq_true] at haddress
      exact Collection.plain_of rfl rfl rfl (haddress.2 ch hmem)
    · exact Collection.plain_of (p := fun c => Text.isLetterCode c.toNat) rfl rfl rfl hletter
  have hall : s.key.toList.all (fun ch => ch != '/' && ch != '\\' && ch.toNat != 0) = true := by
    rw [toList_key, List.all_append, List.all_append, List.all_cons, List.all_cons]
    simp only [Bool.and_eq_true, List.all_eq_true] at hcode hname ⊢
    exact ⟨⟨hname, by decide, hcode _ htopic.1⟩, by decide, hcode _ htopic.2⟩
  -- a name with an underscore is not empty and does not lead to a directory
  have hne : ∀ name : String, '_' ∉ name.toList → s.key ≠ name := by
    intro name hname' heq
    apply hname'
    rw [← heq, toList_key]
    simp
  rw [Collection.isPlainKey, hall]
  simp [hne "" (by decide), hne "." (by decide), hne ".." (by decide)]

/-- What stands before the last of a separator and behind it is told by the whole. -/
theorem append_cons_inj_last {α : Type} {a : α} {xs ys us vs : List α} (hus : a ∉ us)
    (hvs : a ∉ vs) (h : xs ++ a :: us = ys ++ a :: vs) : xs = ys ∧ us = vs := by
  rcases List.append_eq_append_iff.1 h with ⟨mid, hmid, htail⟩ | ⟨mid, hmid, htail⟩
  · cases mid with
    | nil =>
      rw [List.nil_append, List.cons.injEq] at htail
      exact ⟨by rw [hmid, List.append_nil], htail.2⟩
    | cons b mid =>
      rw [List.cons_append, List.cons.injEq] at htail
      exact absurd (htail.2 ▸ List.mem_append_right mid List.mem_cons_self) hus
  · cases mid with
    | nil =>
      rw [List.nil_append, List.cons.injEq] at htail
      exact ⟨by rw [hmid, List.append_nil], htail.2.symm⟩
    | cons b mid =>
      rw [List.cons_append, List.cons.injEq] at htail
      exact absurd (htail.2 ▸ List.mem_append_right mid List.mem_cons_self) hvs

/-- The key tells the address in lower case and the pair. -/
theorem key_eq_key_iff (h : s.topic.isValid = true) (h' : s'.topic.isValid = true) :
    s.key = s'.key ↔ s.mailbox.normalized = s'.mailbox.normalized ∧ s.topic = s'.topic := by
  rw [Pair.isValid, Bool.and_eq_true] at h h'
  constructor
  · intro hkey
    rw [← String.toList_inj, toList_key, toList_key] at hkey
    obtain ⟨hfront, hquote⟩ :=
      append_cons_inj_last (Currency.not_mem_code h.2) (Currency.not_mem_code h'.2) hkey
    obtain ⟨hname, hbase⟩ :=
      append_cons_inj_last (Currency.not_mem_code h.1) (Currency.not_mem_code h'.1) hfront
    refine ⟨String.toList_inj.1 hname, ?_⟩
    rw [show s.topic = ⟨s.topic.base, s.topic.quote⟩ from rfl, Currency.eq_of_code hbase,
      Currency.eq_of_code hquote]
  · rintro ⟨hname, htopic⟩
    rw [key, key, hname, htopic]

end Subscription

/-! ## Subscribing -/

namespace Post

variable {W : Type} {post : Post W} {s : Subscription} {m m' : Moment}
  {hub hub' : OfficeHub Empty W} {past : List (Collection.Answered Subscription)}

/-- A subscription to a pair that is refused is refused at once. -/
theorem subscribe_of_not_isValid (post : Post W) (htopic : s.topic.isValid = false) :
    ∃ cause, post.notifier.subscribe s = .done (.error (.invalid cause)) := by
  rw [Notifier.subscribe, Pair.validate, htopic]
  exact ⟨_, rfl⟩

/-- Only subscriptions to acceptable pairs are accepted. -/
theorem isValid_of_mem_accepted {subscriptions : List Subscription}
    {results : List (Except NotifyError Unit)}
    (h : (Job.inTurn (subscriptions.map post.notifier.subscribe)).Ends m hub results m' hub')
    (hmem : s ∈ accepted subscriptions results) : s.topic.isValid = true := by
  induction subscriptions generalizing m hub results with
  | nil => exact absurd hmem List.not_mem_nil
  | cons first rest ih =>
    obtain ⟨result, m₁, hub₁, hfirst, hothers⟩ := Job.Ends.of_bind h
    obtain ⟨others, m₂, hub₂, hrest, hdone⟩ := Job.Ends.of_bind hothers
    cases hdone
    rw [accepted_cons] at hmem
    rcases List.mem_append.1 hmem with hhead | htail
    · refine Bool.of_not_eq_false fun hrefused => ?_
      split at hhead
      · next hok =>
        rw [List.mem_singleton] at hhead
        obtain ⟨cause, hsubscribe⟩ := subscribe_of_not_isValid post hrefused
        rw [← hhead, hsubscribe] at hfirst
        cases hfirst
        cases hok
      · exact List.not_mem_nil hhead
    · exact ih hrest htail

/-- A storing under a plain key that is short enough fails only if the key is taken. -/
theorem ofStored_verdict (hplain : Collection.isPlainKey s.key = true)
    (hshort : s.key.utf8ByteSize ≤ Disk.maxNameLength) :
    (Repository.ofStored s (post.records.verdict past s.key)).mapError NotifyError.ofRepository =
      if s.key ∈ (Collection.winners past).map Prod.fst then
        .error (.alreadySubscribed s.mailbox.address s.topic)
      else .ok () := by
  rw [Collection.verdict, if_pos hplain, if_neg (Nat.not_lt.2 hshort)]
  by_cases htaken : s.key ∈ (Collection.winners past).map Prod.fst
  · have hthere : ((Collection.winners past).lookup s.key).isSome = true := by
      rw [Option.isSome_iff_ne_none]
      exact fun hnone => (Collection.lookup_eq_none_iff_not_mem _ _).1 hnone htaken
    rw [if_pos htaken, if_pos hthere]
    rfl
  · rw [if_neg htaken, (Collection.lookup_eq_none_iff_not_mem _ _).2 htaken]
    rfl

/-- Whenever subscriptions are listed, these are listed, in some order. -/
def Lists (post : Post W) (hub : OfficeHub Empty W) (subscriptions : List Subscription) : Prop :=
  ∀ m, ∃ listed m' hub', post.notifier.subscriptions.Ends m hub (.ok listed) m' hub' ∧
    listed.Perm subscriptions

theorem lists_of_keeps (hkeeps : post.records.Keeps hub.outside.disk past) :
    post.Lists hub ((Collection.winners past).map Prod.snd) := by
  intro m
  exact ⟨_, _, _, Job.Ends.bind (ends_list hkeeps m) (Job.ends_done _ _ _), .refl _⟩

/-- After subscriptions were asked for one after another, where nothing was kept before, one more of
a typed mailbox is refused if its pair is, and then nothing changes; it is there already if one of
the same address in lower case to the same pair was accepted; and it is accepted otherwise. An
accepted one is listed from then on, and nothing else changes in the list. -/
theorem ends_subscribe_after {hub : OfficeHub Empty W}
    (hvacant : hub.outside.disk.IsVacant post.records.place) (earlier : List Subscription)
    (m : Moment) :
    ∃ results m₁ hub₁,
      (Job.inTurn (earlier.map post.notifier.subscribe)).Ends m hub results m₁ hub₁ ∧
      results.length = earlier.length ∧
      post.Lists hub₁ (accepted earlier results) ∧
      ∀ (s : Subscription) (text : String), Mailbox.parse text = .ok s.mailbox →
        s.key.utf8ByteSize ≤ Disk.maxNameLength → ∀ later, ∃ answer m₂ hub₂,
          (post.notifier.subscribe s).Ends later hub₁ answer m₂ hub₂ ∧
          ((∃ cause, answer = .error (.invalid cause)) ↔ s.topic.isValid = false) ∧
          (s.topic.isValid = false → hub₂ = hub₁) ∧
          (answer = .error (.alreadySubscribed s.mailbox.address s.topic) ↔
            ∃ s' ∈ accepted earlier results,
              s'.mailbox.normalized = s.mailbox.normalized ∧ s'.topic = s.topic) ∧
          (∀ e, answer = .error e → (∃ cause, e = .invalid cause) ∨
            e = .alreadySubscribed s.mailbox.address s.topic) ∧
          post.Lists hub₂ (accepted earlier results ++ if answer.isOk then [s] else []) := by
  have hnothing : post.records.Keeps hub.outside.disk [] := .vacant rfl rfl hvacant
  obtain ⟨results, m₁, hub₁, past, hsubscribe, hlength, -, -, hkeeps, hwon⟩ :=
    ends_subscribeAll hnothing earlier m
  replace hwon : Collection.winners past = (accepted earlier results).map fun s => (s.key, s) :=
    hwon
  have hkept : (Collection.winners past).map Prod.snd = accepted earlier results := by
    rw [hwon, List.map_map]
    exact List.map_id _
  refine ⟨results, m₁, hub₁, hsubscribe, hlength, hkept ▸ lists_of_keeps hkeeps, ?_⟩
  intro s text hparse hshort later
  cases htopic : s.topic.isValid with
  | false =>
    obtain ⟨cause, hsubscribed⟩ := subscribe_of_not_isValid post htopic
    have hnobody : ¬∃ s' ∈ accepted earlier results,
        s'.mailbox.normalized = s.mailbox.normalized ∧ s'.topic = s.topic := by
      rintro ⟨s', hs', -, heq⟩
      have hvalid := isValid_of_mem_accepted hsubscribe hs'
      rw [heq, htopic] at hvalid
      cases hvalid
    refine ⟨.error (.invalid cause), later, hub₁, hsubscribed ▸ Job.ends_done _ _ _,
      ⟨fun _ => rfl, fun _ => ⟨cause, rfl⟩⟩, fun _ => rfl, ⟨nofun, fun h => absurd h hnobody⟩, ?_, ?_⟩
    · rintro e ⟨⟩
      exact .inl ⟨cause, rfl⟩
    · exact (List.append_nil _).symm ▸ hkept ▸ lists_of_keeps hkeeps
  | true =>
    have hplain := Subscription.isPlainKey_key (Mailbox.isTyped_of_parse hparse).address htopic
    obtain ⟨m₂, hub₂, past', hsubscribed, -, -, hkeeps', hwon'⟩ :=
      ends_subscribe_of_ok hkeeps (Pair.validate_eq_ok_iff.2 htopic) later
    -- the key is taken exactly if somebody of the same address was accepted for the same pair
    have htaken : s.key ∈ (Collection.winners past).map Prod.fst ↔ ∃ s' ∈ accepted earlier results,
        s'.mailbox.normalized = s.mailbox.normalized ∧ s'.topic = s.topic := by
      rw [hwon, List.map_map, List.mem_map]
      refine exists_congr fun s' => and_congr_right fun hs' => ?_
      exact Subscription.key_eq_key_iff (isValid_of_mem_accepted hsubscribe hs') htopic
    have hlists := lists_of_keeps hkeeps'
    rw [hwon', List.map_append, hkept] at hlists
    by_cases hknown : s.key ∈ (Collection.winners past).map Prod.fst
    · rw [ofStored_verdict hplain hshort, if_pos hknown] at hsubscribed hlists
      refine ⟨_, m₂, hub₂, hsubscribed, ⟨nofun, nofun⟩, nofun, iff_of_true rfl (htaken.1 hknown), ?_,
        hlists⟩
      rintro e ⟨⟩
      exact .inr rfl
    · rw [ofStored_verdict hplain hshort, if_neg hknown] at hsubscribed hlists
      exact ⟨_, m₂, hub₂, hsubscribed, ⟨nofun, nofun⟩, nofun,
        ⟨nofun, fun h => absurd (htaken.2 h) hknown⟩, nofun, hlists⟩

/-- Two spellings of one address and of one pair, on an empty disk: the first is accepted, and the
second is there already. -/
theorem ends_subscribe_after_of_two_spellings :
    let post : Post (List Message) :=
      { base := "data"
        provider := fun _ => ⟨"fixed", fun pair => .done (.ok ⟨1.0, pair⟩)⟩
        mailer := fun message => Job.change fun sent => (.ok (), sent ++ [message])
        clock := .done ⟨0, 0⟩
        sender := none
        timeout := 1000 }
    let hub : OfficeHub Empty (List Message) :=
      Hub.ofDispatch .sequential ⟨Tally.empty, Disk.empty, []⟩
    let first : Subscription := ⟨⟨some "Jane", "Jane@Example.com"⟩, Pair.ofTexts "btc" "uah"⟩
    let second : Subscription := ⟨⟨none, "jane@example.com"⟩, Pair.ofTexts "BTC" " uah"⟩
    ∃ m₁ hub₁ m₂ hub₂, (post.notifier.subscribe first).Ends Moment.start hub (.ok ()) m₁ hub₁ ∧
      (post.notifier.subscribe second).Ends m₁ hub₁
        (.error (.alreadySubscribed "jane@example.com" second.topic)) m₂ hub₂ := by
  intro post hub first second
  have hvacant : hub.outside.disk.IsVacant post.records.place := by
    have hplace : post.records.place = ["data", "Subscription"] := by decide +kernel
    rw [hplace]
    exact Disk.isVacant_empty (by decide) (by decide)
  have hparse : Mailbox.parse "Jane <Jane@Example.com>" = .ok first.mailbox :=
    Mailbox.parse_of_toOption (by decide +kernel)
  have hparse' : Mailbox.parse "jane@example.com" = .ok second.mailbox :=
    Mailbox.parse_of_toOption (by decide +kernel)
  obtain ⟨nothing, _, _, hnobody, -, -, hfirst⟩ := ends_subscribe_after hvacant [] Moment.start
  cases hnobody
  obtain ⟨answer, m₁, hub₁, hends, hinvalid, -, hthere, honly, -⟩ :=
    hfirst first _ hparse (by decide +kernel) Moment.start
  -- nobody was accepted before the first, and its pair is not refused
  have hok : answer = .ok () := by
    rcases answer with e | _
    · rcases honly e rfl with ⟨cause, rfl⟩ | rfl
      · exact absurd (hinvalid.1 ⟨cause, rfl⟩) (by decide +kernel)
      · obtain ⟨s, hs, -⟩ := hthere.1 rfl
        exact absurd hs List.not_mem_nil
    · rfl
  rw [hok] at hends
  obtain ⟨results, m₂, hub₂, hearlier, -, -, hsecond⟩ :=
    ends_subscribe_after hvacant [first] Moment.start
  obtain ⟨rfl, rfl, rfl⟩ := hearlier.unique (hends.inTurn_cons (Job.ends_inTurn_nil _ _))
  obtain ⟨answer', m₃, hub₃, hends', -, -, hthere', -⟩ :=
    hsecond second _ hparse' (by decide +kernel) m₂
  have hknown := hthere'.2 ⟨first, List.mem_singleton_self first, by decide +kernel, by decide +kernel⟩
  rw [hknown] at hends'
  exact ⟨m₂, hub₂, m₃, hub₃, hends, hends'⟩

end Post

end RateHerald
