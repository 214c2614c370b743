import Mathlib.Data.List.Forall2
import Mathlib.Data.List.Nodup
import Mathlib.Logic.Function.Basic
import RateHerald.Office.Herald
import RateHerald.Proofs.Json.Mapping
import RateHerald.Proofs.Pairs.Grammar

/-!
# What variables make of a herald

Each setting has a variable of its own, and no two settings have the same one. What a variable says
matters for its own setting only, and what cannot be read counts as not set. A herald opens exactly
if six demands on the variables are met; they are checked in a fixed order, and of those that are
not met the first one is told. The pair that is meant when none is named is never what is wrong: it
is either one that was read, and none is read that is not acceptable, or the standard one.

## Main declarations

* `Checks`: demands are checked one after another, and the first one that is not met is told.
* `Setting` lists what has a variable; `Setting.same_ofLookup` and `Setting.ofLookup_eq_of_same`.
* `Settings.demands` are the demands on variables.
* `Herald.open_ofLookup` says when a herald opens and what its chain is then.
-/

namespace RateHerald

/-! ## Demands in their order -/

/-- The outcome of checking demands one after another, each with the fault that is told if it is not
met. -/
inductive Checks {ε α : Type} : List (Prop × ε) → Except ε α → Prop where
  /-- Nothing is left to be checked. -/
  | passed (a : α) : Checks [] (.ok a)
  /-- A demand is met, and the others are checked. -/
  | met {demand : Prop} {fault : ε} {demands : List (Prop × ε)} {r : Except ε α} (h : demand)
      (hrest : Checks demands r) : Checks ((demand, fault) :: demands) r
  /-- A demand is not met, and no other is looked at. -/
  | unmet {demand : Prop} {fault : ε} {demands : List (Prop × ε)} (h : ¬demand) :
      Checks ((demand, fault) :: demands) (.error fault)

namespace Checks

variable {ε α : Type} {demands demands' back : List (Prop × ε)} {r : Except ε α}

theorem exists_ok_iff (h : Checks demands r) : (∃ a, r = .ok a) ↔ ∀ d ∈ demands, d.1 := by
  induction h with
  | passed a => simp
  | met h _ ih => simp [ih, h]
  | unmet h => simp [h]

/-- What is told is the fault of one of the demands. -/
theorem mem_of_error {e : ε} (h : Checks demands (.error e : Except ε α)) :
    e ∈ demands.map Prod.snd := by
  generalize hr : (.error e : Except ε α) = r at h
  induction h with
  | passed a => cases hr
  | met _ _ ih => exact List.mem_cons_of_mem _ (ih hr)
  | unmet _ =>
    cases hr
    exact List.mem_cons_self

/-- A demand that is checked by its opposite. -/
theorem of_ite {demand opposite : Prop} [Decidable opposite] {fault : ε}
    (hopposite : opposite ↔ ¬demand) (hrest : demand → Checks demands r) :
    Checks ((demand, fault) :: demands) (if opposite then .error fault else r) := by
  split
  · next h => exact .unmet (hopposite.1 h)
  · next h =>
    have hdemand := Classical.not_not.1 (mt hopposite.2 h)
    exact .met hdemand (hrest hdemand)

/-- What comes of it when all demands are met does not matter. -/
theorem of_map {β : Type} {r' : Except ε β} (h : Checks demands r)
    (hsame : r'.map (fun _ => ()) = r.map fun _ => ()) : Checks demands r' := by
  induction h with
  | passed a =>
    cases r' with
    | error e => cases hsame
    | ok b => exact .passed b
  | met h _ ih => exact .met h (ih hsame)
  | unmet h =>
    cases r' with
    | error e =>
      cases hsame
      exact .unmet h
    | ok b => cases hsame

/-- Demands may be told in other words, and the fault of one that is met does not matter. -/
theorem congr (h : Checks demands r)
    (hsame : List.Forall₂ (fun d d' => (d.1 ↔ d'.1) ∧ (¬d.1 → d.2 = d'.2)) demands demands') :
    Checks demands' r := by
  induction h generalizing demands' with
  | passed a =>
    cases hsame
    exact .passed a
  | met h _ ih =>
    cases hsame with
    | @cons _ d _ _ hd hrest => exact .met (hd.1.1 h) (ih hrest)
  | unmet h =>
    cases hsame with
    | @cons _ d _ _ hd hrest =>
      obtain ⟨demand, fault⟩ := d
      obtain rfl := hd.2 h
      exact .unmet (mt hd.1.2 h)

/-- A demand that is always met may be left out. -/
theorem leave_out {demand : Prop} {fault : ε} (front : List (Prop × ε))
    (h : Checks (front ++ (demand, fault) :: back) r) (hdemand : demand) :
    Checks (front ++ back) r := by
  induction front with
  | nil =>
    cases h with
    | met _ hrest => exact hrest
    | unmet hnot => exact absurd hdemand hnot
  | cons d front ih =>
    cases h with
    | met hd hrest => exact .met hd (ih hrest)
    | unmet hd => exact .unmet hd

end Checks

/-! ## Settings and their variables -/

/-- A setting that has a variable of its own. -/
inductive Setting where
  /-- The directory for records. -/
  | dataDir
  /-- The time limit of a request over the bus. -/
  | requestTimeout
  /-- The time limit of one question to a web service. -/
  | httpTimeout
  /-- How listeners are called. -/
  | dispatch
  /-- How often a service is asked again after a failure. -/
  | retryMax
  /-- The sender of mails. -/
  | sender
  /-- The pair that is meant when none is named. -/
  | topic
  /-- How much is logged. -/
  | logLevel
  /-- The form of log lines. -/
  | logFormat
  /-- The address of a service. -/
  | endpoint (service : Service)
  /-- The name of the header or parameter that carries the key of a service. -/
  | header (service : Service)
  /-- The key of a service. -/
  | key (service : Service)

/-- How a service is called in the names of variables. -/
def Service.tag : Service → String
  | .exchangeRateHost => "EXCHANGERATEHOST"
  | .ninjas => "NINJAS"
  | .alphaVantage => "ALPHAVANTAGE"
  | .coinApi => "COINAPI"
  | .coinYep => "COINYEP"

theorem Settings.variableOf_eq (s : Service) (part : String) :
    variableOf s part = "XRATE_" ++ s.tag ++ "_" ++ part := by
  have htag : Text.asciiUpper s.name = s.tag := by cases s <;> decide +kernel
  rw [variableOf, htag]

namespace Setting

variable {lookup lookup' : String → Option String} {x : Setting}

/-- The variable of a setting. -/
def variableName : Setting → String
  | .dataDir => "XRATE_DATA_DIR"
  | .requestTimeout => "XRATE_REQUEST_TIMEOUT_MS"
  | .httpTimeout => "XRATE_HTTP_TIMEOUT_MS"
  | .dispatch => "XRATE_DISPATCH"
  | .retryMax => "XRATE_RETRY_MAX"
  | .sender => "XRATE_MAIL_FROM"
  | .topic => "XRATE_TOPIC"
  | .logLevel => "LOG_LEVEL"
  | .logFormat => "XRATE_LOG_FORMAT"
  | .endpoint s => "XRATE_" ++ s.tag ++ "_" ++ "ENDPOINT"
  | .header s => "XRATE_" ++ s.tag ++ "_" ++ "HEADER"
  | .key s => "XRATE_" ++ s.tag ++ "_" ++ "KEY"

/-- All settings that have a variable. -/
def all : List Setting :=
  [.dataDir, .requestTimeout, .httpTimeout, .dispatch, .retryMax, .sender, .topic, .logLevel,
    .logFormat] ++ Service.all.flatMap fun s => [.endpoint s, .header s, .key s]

theorem mem_all (x : Setting) : x ∈ all := by
  have hservice : ∀ s : Service, s ∈ Service.all := fun s => by cases s <;> decide
  cases x <;> simp [all, hservice]

/-- No two settings have the same variable. -/
theorem variableName_injective : Function.Injective variableName := by
  have hnodup : (all.map variableName).Nodup := by decide +kernel
  exact fun x y h => List.inj_on_of_nodup_map hnodup (mem_all x) (mem_all y) h

/-- Two settings agree in one of their parts. -/
def Same (s t : Settings) : Setting → Prop
  | .dataDir => s.dataDir = t.dataDir
  | .requestTimeout => s.requestTimeout = t.requestTimeout
  | .httpTimeout => s.httpTimeout = t.httpTimeout
  | .dispatch => s.dispatch = t.dispatch
  | .retryMax => s.retryMax = t.retryMax
  | .sender => s.sender = t.sender
  | .topic => s.topic = t.topic
  | .logLevel => s.logLevel = t.logLevel
  | .logFormat => s.logFormat = t.logFormat
  | .endpoint service =>
    (s.services.lookup service).map Access.endpoint = (t.services.lookup service).map Access.endpoint
  | .header service =>
    (s.services.lookup service).map Access.header = (t.services.lookup service).map Access.header
  | .key service =>
    (s.services.lookup service).map Access.key = (t.services.lookup service).map Access.key

/-- The address of a service and its key, each by its variable if that is set. -/
def accessBy (lookup : String → Option String) (s : Service) : Access where
  endpoint := (lookup (endpoint s).variableName).getD s.standardAccess.endpoint
  header := (lookup (header s).variableName).getD s.standardAccess.header
  key := (lookup (key s).variableName).getD s.standardAccess.key

theorem accessOf_eq (lookup : String → Option String) (s : Service) :
    Settings.accessOf lookup s s.standardAccess = accessBy lookup s := by
  simp only [Settings.accessOf, accessBy, variableName, Settings.variableOf_eq]

theorem services_ofLookup (lookup : String → Option String) :
    (Settings.ofLookup lookup).services = Service.all.map fun s => (s, accessBy lookup s) := by
  rw [Settings.ofLookup, Settings.standard, List.map_map]
  exact List.map_congr_left fun s _ => congrArg (Prod.mk s) (accessOf_eq lookup s)

theorem lookup_services_ofLookup (lookup : String → Option String) (s : Service) :
    (Settings.ofLookup lookup).services.lookup s = some (accessBy lookup s) := by
  rw [services_ofLookup]
  cases s <;> rfl

/-- A setting depends on its own variable alone. -/
theorem same_ofLookup (h : lookup x.variableName = lookup' x.variableName) :
    x.Same (Settings.ofLookup lookup) (Settings.ofLookup lookup') := by
  cases x with
  | endpoint s =>
    simp only [Same, lookup_services_ofLookup, Option.map_some, accessBy, h]
  | header s =>
    simp only [Same, lookup_services_ofLookup, Option.map_some, accessBy, h]
  | key s =>
    simp only [Same, lookup_services_ofLookup, Option.map_some, accessBy, h]
  | _ =>
    rw [variableName] at h
    simp only [Same, Settings.ofLookup, Settings.read?, h]

/-- There is nothing else that a variable could change. -/
theorem ofLookup_eq_of_same
    (h : ∀ x : Setting, x.Same (Settings.ofLookup lookup) (Settings.ofLookup lookup')) :
    Settings.ofLookup lookup = Settings.ofLookup lookup' := by
  have haccess : ∀ s, accessBy lookup s = accessBy lookup' s := fun s => by
    have hendpoint := h (.endpoint s)
    have hheader := h (.header s)
    have hkey := h (.key s)
    simp only [Same, lookup_services_ofLookup, Option.map_some, Option.some_inj] at hendpoint hheader hkey
    rw [Access.mk.injEq]
    exact ⟨hendpoint, hheader, hkey⟩
  have hservices : (Settings.ofLookup lookup).services = (Settings.ofLookup lookup').services := by
    simp only [services_ofLookup, haccess]
  rw [Settings.mk.injEq]
  exact ⟨h .dataDir, h .requestTimeout, h .httpTimeout, h .dispatch, h .retryMax, h .sender,
    h .topic, hservices, h .logLevel, h .logFormat⟩

end Setting

/-! ## Time limits -/

namespace Settings

variable {bound n : Nat} {s : String} {lookup : String → Option String}

/-- The text writes a number below the bound: digits, maybe behind a plus sign. -/
def Writes (bound : Nat) (s : String) (n : Nat) : Prop :=
  ∃ ds : List Char, (s.toList = ds ∨ s.toList = '+' :: ds) ∧ ds ≠ [] ∧
    (∀ c ∈ ds, c.isDigit = true) ∧ n = Decimal.digitsValue ds ∧ n < bound

/-- The text without a plus sign in front. -/
def unsigned : List Char → List Char
  | '+' :: rest => rest
  | cs => cs

theorem natural?_eq (bound : Nat) (s : String) :
    natural? bound s =
      if (unsigned s.toList).isEmpty || !(unsigned s.toList).all Char.isDigit then none
      else if Decimal.digitsValue (unsigned s.toList) < bound then
        some (Decimal.digitsValue (unsigned s.toList))
      else none :=
  rfl

theorem eq_or_eq_of_unsigned (cs : List Char) : cs = unsigned cs ∨ cs = '+' :: unsigned cs := by
  fun_cases unsigned cs with
  | case1 rest => exact .inr rfl
  | case2 => exact .inl rfl

theorem unsigned_of_digits {cs ds : List Char} (hcs : cs = ds ∨ cs = '+' :: ds)
    (hdigits : ∀ c ∈ ds, c.isDigit = true) : unsigned cs = ds := by
  rcases hcs with rfl | rfl
  · fun_cases unsigned cs with
    | case1 rest => exact absurd (hdigits '+' List.mem_cons_self) (by decide)
    | case2 => rfl
  · rfl

theorem natural?_eq_some_iff : natural? bound s = some n ↔ Writes bound s n := by
  rw [natural?_eq]
  constructor
  · intro h
    split at h
    · cases h
    · next hfit =>
      rw [Bool.or_eq_true, not_or, List.isEmpty_iff, Bool.not_eq_true', Bool.not_eq_false,
        List.all_eq_true] at hfit
      split at h
      · next hlt =>
        cases h
        exact ⟨_, eq_or_eq_of_unsigned _, hfit.1, hfit.2, rfl, hlt⟩
      · cases h
  · rintro ⟨ds, hds, hne, hdigits, rfl, hlt⟩
    rw [unsigned_of_digits hds hdigits, if_neg, if_pos hlt]
    simpa [hne] using hdigits

/-- The time limit that a variable gives: its own if it can be read, else the standard one. -/
inductive TimeLimit (lookup : String → Option String) (x : Setting) (standard : Nat) : Nat → Prop
    where
  /-- The variable holds a number of 64 bits. -/
  | given {text : String} {n : Nat} (hset : lookup x.variableName = some text)
      (hwrites : Writes UInt64.size text n) : TimeLimit lookup x standard n
  /-- The variable holds anything else. -/
  | unreadable {text : String} (hset : lookup x.variableName = some text)
      (hwrites : ∀ n, ¬Writes UInt64.size text n) : TimeLimit lookup x standard standard
  /-- The variable is not set. -/
  | unset (hunset : lookup x.variableName = none) : TimeLimit lookup x standard standard

/-- A number of 64 bits is never more than the longest span. -/
theorem ms_ofMs_of_writes {text : String} {n : Nat} (h : Writes UInt64.size text n) :
    (Span.ofMs n).ms = n := by
  obtain ⟨-, -, -, -, -, hlt⟩ := h
  exact Span.ms_ofMs (Nat.lt_of_lt_of_le hlt (by decide))

theorem timeLimit_read? (x : Setting) (standard : Span) :
    TimeLimit lookup x standard.ms ((read? lookup x.variableName span?).getD standard).ms := by
  rw [read?]
  cases hset : lookup x.variableName with
  | none => exact .unset hset
  | some text =>
    rw [Option.bind_some, span?]
    cases hread : natural? UInt64.size text with
    | none =>
      refine .unreadable hset fun n hwrites => ?_
      rw [natural?_eq_some_iff.2 hwrites] at hread
      cases hread
    | some n =>
      have hwrites := natural?_eq_some_iff.1 hread
      rw [Option.map_some, Option.getD_some, ms_ofMs_of_writes hwrites]
      exact .given hset hwrites

/-! ## Demands on variables -/

/-- The text holds nothing but blanks. -/
def IsBlank (text : String) : Prop :=
  ∀ c ∈ text.toList, Text.isBlank c = true

theorem isFilled_iff {text : String} : Text.isFilled text = true ↔ ¬IsBlank text := by
  simp [Text.isFilled, IsBlank]

/-- What is asked of the sender of mails. -/
def senderDemand (s : Settings) : Prop × SettingsError :=
  (∀ text ∈ s.sender, ∃ m, Mailbox.parse text = .ok m, .invalidSender (s.sender.getD ""))

/-- What is asked of settings, in the order in which it is checked. -/
def demandsOf (s : Settings) : List (Prop × SettingsError) :=
  [(s.dataDir ≠ "", .emptyDataDir),
    (s.requestTimeout.ms ≠ 0, .zeroTimeout "request timeout"),
    (s.httpTimeout.ms ≠ 0, .zeroTimeout "HTTP timeout"),
    (s.httpTimeout.ms ≤ s.requestTimeout.ms, .httpTimeoutTooLong),
    (s.enabled ≠ [], .noProviders),
    (s.topic.isValid = true, .invalidTopic s.topic.toText),
    s.senderDemand]

theorem checks_senderMailbox (s : Settings) : Checks [s.senderDemand] s.senderMailbox := by
  rw [senderDemand, senderMailbox]
  rcases s.sender with _ | text
  · exact .met (fun text h => nomatch h) (.passed _)
  · dsimp only
    cases hparse : Mailbox.parse text with
    | ok m => exact .met (fun t ht => ⟨m, Option.some.inj ht ▸ hparse⟩) (.passed _)
    | error e =>
      refine .unmet fun h => ?_
      obtain ⟨m, hm⟩ := h text rfl
      rw [hparse] at hm
      cases hm

theorem checks_validate (s : Settings) : Checks s.demandsOf s.validate := by
  rw [demandsOf, validate]
  refine .of_ite (by simp) fun _ => ?_
  refine .of_ite (by simp) fun _ => ?_
  refine .of_ite (by simp) fun _ => ?_
  refine .of_ite (by simp) fun _ => ?_
  refine .of_ite (by simp) fun _ => ?_
  refine .of_ite (by simp) fun _ => ?_
  refine s.checks_senderMailbox.of_map ?_
  cases s.senderMailbox <;> rfl

end Settings

/-- A herald opens with all settings that are accepted. -/
theorem Herald.checks_open? {W : Type} (s : Settings) (outside : Outside W) :
    Checks s.demandsOf (Herald.open? s outside) := by
  refine s.checks_validate.of_map ?_
  rw [open?]
  cases hvalid : s.validate with
  | error e => rfl
  | ok =>
    -- the sender was read to validate the settings, so it can be read once more
    have hdemand : s.senderDemand.1 :=
      s.checks_validate.exists_ok_iff.1 ⟨_, hvalid⟩ _ (by simp [Settings.demandsOf])
    obtain ⟨sender, hsender⟩ := s.checks_senderMailbox.exists_ok_iff.2 (by simpa using hdemand)
    rw [hsender]
    rfl

theorem Herald.settings_of_open? {W : Type} {s : Settings} {outside : Outside W} {h : Herald W}
    (hopen : Herald.open? s outside = .ok h) : h.settings = s := by
  rw [open?] at hopen
  split at hopen
  · cases hopen
  · cases hopen
  · cases hopen
    rfl

namespace Settings

variable {lookup : String → Option String}

/-- The address of a service: its variable if that is set, else the standard one. -/
def endpointBy (lookup : String → Option String) (s : Service) : String :=
  (lookup (Setting.endpoint s).variableName).getD s.standardAccess.endpoint

/-- What is asked of variables that give these time limits. -/
def demands (lookup : String → Option String) (request http : Nat) : List (Prop × SettingsError) :=
  [(lookup "XRATE_DATA_DIR" ≠ some "", .emptyDataDir),
    (request ≠ 0, .zeroTimeout "request timeout"),
    (http ≠ 0, .zeroTimeout "HTTP timeout"),
    (http ≤ request, .httpTimeoutTooLong),
    (∃ s, ¬IsBlank (endpointBy lookup s), .noProviders),
    (∀ text, lookup "XRATE_MAIL_FROM" = some text →
      IsBlank text ∨ ∃ m, Mailbox.parse text = .ok m,
      .invalidSender ((lookup "XRATE_MAIL_FROM").getD ""))]

/-- The services whose address is not blank, in the order of all services. -/
theorem enabled_ofLookup (lookup : String → Option String) :
    (ofLookup lookup).enabled =
      (Service.all.filter fun s => Text.isFilled (endpointBy lookup s)).map
        fun s => (s, Setting.accessBy lookup s) := by
  rw [enabled, Setting.services_ofLookup, List.filter_map]
  rfl

/-- The pair that is meant when none is named is acceptable. -/
theorem isValid_topic_ofLookup (lookup : String → Option String) :
    (ofLookup lookup).topic.isValid = true := by
  cases hread : read? lookup "XRATE_TOPIC" fun s => (Pair.parse s).toOption with
  | none =>
    have hstandard : standard.topic.isValid = true := by decide +kernel
    rwa [ofLookup, hread]
  | some p =>
    obtain ⟨text, -, hparse⟩ := Option.bind_eq_some_iff.1 hread
    rw [ofLookup, hread]
    exact (Pair.parse_eq_ok_iff.1 (Json.eq_ok_of_toOption hparse)).isValid

theorem senderDemand_ofLookup (lookup : String → Option String) :
    ((ofLookup lookup).senderDemand.1 ↔ ∀ text, lookup "XRATE_MAIL_FROM" = some text →
      IsBlank text ∨ ∃ m, Mailbox.parse text = .ok m) ∧
    (¬(ofLookup lookup).senderDemand.1 → (ofLookup lookup).senderDemand.2 =
      .invalidSender ((lookup "XRATE_MAIL_FROM").getD "")) := by
  rw [senderDemand, ofLookup]
  rcases lookup "XRATE_MAIL_FROM" with _ | text
  · simp
  · by_cases hfilled : Text.isFilled text = true
    · rw [Option.filter_some_pos hfilled]
      simp [isFilled_iff.1 hfilled]
    · have hblank : IsBlank text := Classical.not_not.1 (mt isFilled_iff.2 hfilled)
      simp [hfilled, hblank]

/-- The demands on the settings that variables make are the demands on the variables. -/
theorem checks_demands {α : Type} {r : Except SettingsError α}
    (h : Checks (ofLookup lookup).demandsOf r) :
    Checks (demands lookup (ofLookup lookup).requestTimeout.ms (ofLookup lookup).httpTimeout.ms)
      r := by
  have hdir : (ofLookup lookup).dataDir ≠ "" ↔ lookup "XRATE_DATA_DIR" ≠ some "" := by
    rw [ofLookup]
    cases lookup "XRATE_DATA_DIR" <;> simp [standard]
  have henabled : (ofLookup lookup).enabled ≠ [] ↔ ∃ s, ¬IsBlank (endpointBy lookup s) := by
    have hall : ∀ s : Service, s ∈ Service.all := fun s => by cases s <;> decide
    simp [enabled_ofLookup, isFilled_iff, hall]
  have hwithout := h.leave_out [_, _, _, _, _] (isValid_topic_ofLookup lookup)
  refine hwithout.congr ?_
  exact .cons ⟨hdir, fun _ => rfl⟩ <| .cons ⟨Iff.rfl, fun _ => rfl⟩ <|
    .cons ⟨Iff.rfl, fun _ => rfl⟩ <| .cons ⟨Iff.rfl, fun _ => rfl⟩ <|
    .cons ⟨henabled, fun _ => rfl⟩ <| .cons (senderDemand_ofLookup lookup) .nil

end Settings

/-! ## Opening -/

/-- A herald opens exactly if all demands on the variables are met, and of those that are not the
first one is told, which is never one on the pair. Its chain then holds the services whose address
is not blank, in the order of all services. A variable that changes changes no setting but its own.
-/
theorem Herald.open_ofLookup {W : Type} (lookup : String → Option String) (outside : Outside W) :
    (∃ request http, Settings.TimeLimit lookup .requestTimeout 15000 request ∧
      Settings.TimeLimit lookup .httpTimeout 5000 http ∧
      Checks (Settings.demands lookup request http)
        (Herald.open? (Settings.ofLookup lookup) outside) ∧
      ((∃ h, Herald.open? (Settings.ofLookup lookup) outside = .ok h) ↔
        ∀ d ∈ Settings.demands lookup request http, d.1)) ∧
    (∀ text, Herald.open? (Settings.ofLookup lookup) outside ≠ .error (.invalidTopic text)) ∧
    (∀ h publish, Herald.open? (Settings.ofLookup lookup) outside = .ok h →
      (h.chain publish).providers =
        (Service.all.filter fun s => Text.isFilled (Settings.endpointBy lookup s)).map fun s =>
          (h.link s (Setting.accessBy lookup s)).on Office.worldPart) ∧
    Function.Injective Setting.variableName ∧
    ∀ name value,
      (∀ x : Setting, x.variableName ≠ name →
        x.Same (Settings.ofLookup (Function.update lookup name value))
          (Settings.ofLookup lookup)) ∧
      ((∀ x : Setting, x.variableName ≠ name) →
        Settings.ofLookup (Function.update lookup name value) = Settings.ofLookup lookup) := by
  have hchecks := Settings.checks_demands (Herald.checks_open? (Settings.ofLookup lookup) outside)
  refine ⟨⟨_, _, Settings.timeLimit_read? .requestTimeout 15000,
    Settings.timeLimit_read? .httpTimeout 5000, hchecks, hchecks.exists_ok_iff⟩, ?_, ?_,
    Setting.variableName_injective, fun name value => ?_⟩
  · intro text htopic
    rw [htopic] at hchecks
    simpa [Settings.demands] using hchecks.mem_of_error
  · intro h publish hopen
    rw [Herald.chain, Herald.settings_of_open? hopen, Settings.enabled_ofLookup, List.map_map]
    rfl
  · have hsame : ∀ x : Setting, x.variableName ≠ name →
        x.Same (Settings.ofLookup (Function.update lookup name value))
          (Settings.ofLookup lookup) := fun x hx =>
      Setting.same_ofLookup (Function.update_of_ne hx _ _)
    exact ⟨hsame, fun hnone => Setting.ofLookup_eq_of_same fun x => hsame x (hnone x)⟩

end RateHerald
