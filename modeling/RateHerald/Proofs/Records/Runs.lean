import RateHerald.Proofs.Records.Disk
import RateHerald.Proofs.Records.RoundTrip
import RateHerald.Records.Collection

/-!
# Runs of a collection

Writers and readers of one collection take turns, so what they do is one list of calls. What the
collection keeps is told from the answers alone: the records of the storings that succeeded, in
order, and whether a storing under a plain key has been tried, because the first of these makes the
directory even if it fails.

The directory is either vacant or holds exactly the files of the winners, and every call keeps it so.
A run therefore never reads anything else than what was stored.

## Main declarations

* `Collection.Call`, `Collection.Answered`, `Collection.perform` and `Collection.run`.
* `Collection.winners` and `Collection.isTouched` tell from the answers what is kept.
* `Collection.Holds` and `Collection.Keeps`, the invariant; `Collection.Keeps.run`.
* `subscription_runs`: what every run of a collection of subscriptions answers and leaves.
-/

namespace RateHerald.Collection

variable {α : Type}

/-! ## Calls -/

/-- What can be asked of a collection. -/
inductive Call (α : Type) where
  /-- To store a record under a key. -/
  | store (key : String) (item : α)
  /-- To fetch all records. -/
  | fetchAll

/-- A call and its answer. -/
inductive Answered (α : Type) where
  /-- Something was to be stored. -/
  | stored (key : String) (item : α) (result : Except StoreError Unit)
  /-- All records were to be fetched. -/
  | fetched (result : Except StoreError (List α))

/-- Answers a call. -/
def perform (c : Collection α) (d : Disk) : Call α → Answered α × Disk
  | .store key item => (.stored key item (c.store key item d).1, (c.store key item d).2)
  | .fetchAll => (.fetched (c.fetchAll d), d)

/-- Answers calls one after another. -/
def run (c : Collection α) : List (Call α) → Disk → List (Answered α) × Disk
  | [], d => ([], d)
  | call :: rest, d =>
    let later := run c rest (c.perform d call).2
    ((c.perform d call).1 :: later.1, later.2)

/-- The key and the record, if a storing succeeded. -/
def Answered.won? : Answered α → Option (String × α)
  | .stored key item (.ok ()) => some (key, item)
  | _ => none

theorem Answered.won?_error (key : String) (item : α) (e : StoreError) :
    (stored key item (.error e)).won? = none :=
  rfl

/-- The call that was answered. -/
def Answered.call : Answered α → Call α
  | .stored key item _ => .store key item
  | .fetched _ => .fetchAll

/-- Whether something is to be stored under a plain key. -/
def Call.isTry : Call α → Bool
  | .store key _ => isPlainKey key
  | .fetchAll => false

/-- The keys and records of the storings that succeeded, in order. -/
def winners (past : List (Answered α)) : List (String × α) :=
  past.filterMap Answered.won?

/-- Whether a storing under a plain key has been tried. -/
def isTouched (past : List (Answered α)) : Bool :=
  past.any fun answer => answer.call.isTry

theorem map_call_run (c : Collection α) (calls : List (Call α)) (d : Disk) :
    (c.run calls d).1.map Answered.call = calls := by
  induction calls generalizing d with
  | nil => rfl
  | cons call calls ih =>
    rw [run, List.map_cons, ih]
    cases call <;> rfl

theorem isTouched_run (c : Collection α) (calls : List (Call α)) (d : Disk) :
    isTouched (c.run calls d).1 = calls.any Call.isTry := by
  have h := List.any_map (f := Answered.call) (p := Call.isTry) (l := (c.run calls d).1)
  rw [map_call_run] at h
  exact h.symm

theorem mem_winners {past : List (Answered α)} {key : String} {item : α} :
    (key, item) ∈ winners past ↔ .stored key item (.ok ()) ∈ past := by
  rw [winners, List.mem_filterMap]
  constructor
  · rintro ⟨answer, hmem, hwon⟩
    cases answer with
    | fetched result => cases hwon
    | stored k x result =>
      cases result with
      | error e => cases hwon
      | ok u =>
        rw [Answered.won?, Option.some_inj] at hwon
        obtain ⟨rfl, rfl⟩ := hwon
        exact hmem
  · exact fun hmem => ⟨_, hmem, rfl⟩

theorem winners_concat (past : List (Answered α)) (answer : Answered α) :
    winners (past ++ [answer]) = winners past ++ answer.won?.toList := by
  rw [winners, List.filterMap_append, winners]
  cases h : answer.won? <;> simp [h]

theorem isTouched_concat (past : List (Answered α)) (answer : Answered α) :
    isTouched (past ++ [answer]) = (isTouched past || answer.call.isTry) := by
  simp [isTouched]

/-! ## One storing -/

variable {c : Collection α} {d d' : Disk} {key : String} {item : α}

/-- What a file holds: the record on one line. -/
def line (c : Collection α) (item : α) : String :=
  (c.content item).toOption.getD ""

theorem content_eq (hc : c.codec.Lawful) (item : α) : c.content item = .ok (c.line item) := by
  obtain ⟨v, hv, -⟩ := hc item
  rw [line, content, hv]
  rfl

theorem readFile_line (hc : c.codec.Lawful) (name : String) (item : α) :
    c.readFile name (c.line item) = .ok item := by
  obtain ⟨v, hv, hread⟩ := hc item
  have hline : c.line item = v.compact ++ "\n" := by
    rw [line, content, hv]
    rfl
  rw [readFile, hline, (Json.roundTrips_of_reads hread).2]

theorem mapM_readFile (hc : c.codec.Lawful) (records : List (String × α)) :
    (records.map fun r => (r.1, c.line r.2)).mapM (fun f => c.readFile f.1 f.2) =
      .ok (records.map Prod.snd) := by
  induction records with
  | nil => rfl
  | cons r records ih =>
    rw [List.map_cons, List.mapM_cons, ih, readFile_line hc]
    rfl

theorem store_of_not_plain (h : isPlainKey key = false) (item : α) (d : Disk) :
    c.store key item d = (.error (.invalidKey key), d) := by
  rw [store, Attempt.finish, Attempt.next, if_neg (by simp [h]), Attempt.finish]

/-- What a storing does when the directory can be made and the record can be written. -/
theorem store_of_plain (hc : c.codec.Lawful) (h : isPlainKey key = true)
    (hmake : d.makeDirectories c.place = .ok d') (item : α) :
    c.store key item d =
      match d'.create (c.placeOf key) with
      | .ok made => (.ok (), made.write (c.placeOf key) (c.line item))
      | .error .exists => (.error (.alreadyExists key (c.pathOf key)), d')
      | .error e => (.error (.disk "creating file" (c.pathOf key) e), d') := by
  rw [store, Attempt.finish, Attempt.next, if_pos h, Attempt.finish, Attempt.next, hmake]
  simp only [Option.map_none]
  rw [Attempt.finish, Attempt.next]
  cases hcreate : d'.create (c.placeOf key) with
  | error e => cases e <;> simp [Attempt.finish]
  | ok made =>
    simp only [Option.map_none, Attempt.finish, Attempt.next, content_eq hc]

/-! ## The invariant -/

/-- The directory holds exactly the files of some records, each under a key of its own. -/
structure Holds (c : Collection α) (d : Disk) (records : List (String × α)) : Prop where
  /-- The directory is there. -/
  isOpen : d.IsOpen c.place
  /-- Every key is a plain name that is not too long. -/
  keys : ∀ r ∈ records, isPlainKey r.1 = true ∧ ¬r.1.utf8ByteSize > Disk.maxNameLength
  /-- No two records have the same key. -/
  nodup : (records.map Prod.fst).Nodup
  /-- What is in the directory. -/
  files : d.children c.place = records.map fun r => (r.1, .file (c.line r.2))

theorem lookup_files {β : Type} (f : α → β) (records : List (String × α)) (key : String) :
    (records.map fun r => (r.1, f r.2)).lookup key = (records.lookup key).map f := by
  induction records with
  | nil => rfl
  | cons r records ih =>
    rw [List.map_cons, List.lookup_cons, List.lookup_cons, ih]
    split <;> rfl

theorem lookup_eq_none_iff_not_mem (records : List (String × α)) (key : String) :
    records.lookup key = none ↔ key ∉ records.map Prod.fst := by
  rw [List.lookup_eq_none_iff]
  constructor
  · intro h hmem
    obtain ⟨r, hr, rfl⟩ := List.mem_map.1 hmem
    simpa using h r hr
  · intro h r hr
    have hne : r.1 ≠ key := fun heq => h (List.mem_map.2 ⟨r, hr, heq⟩)
    simpa using hne.symm

namespace Holds

variable {records : List (String × α)}

theorem node?_placeOf (h : c.Holds d records) (key : String) :
    d.node? (c.placeOf key) = (records.lookup key).map fun x => .file (c.line x) := by
  rw [placeOf, Disk.node?_child, h.files, lookup_files fun x => Node.file (c.line x)]

theorem create (h : c.Holds d records) (key : String) :
    d.create (c.placeOf key) =
      if key.utf8ByteSize > Disk.maxNameLength then .error .nameTooLong
      else if (records.lookup key).isSome then .error .exists
      else .ok (d.put (c.placeOf key) (.file "")) := by
  have hlook := Disk.locate?_child h.isOpen key
  rw [← placeOf, h.node?_placeOf] at hlook
  rw [Disk.create, hlook]
  by_cases hlong : key.utf8ByteSize > Disk.maxNameLength
  · rw [if_pos hlong, if_pos hlong]
  · rw [if_neg hlong, if_neg hlong]
    cases records.lookup key <;> rfl

/-- A new file is put behind the others. -/
theorem put_write (h : c.Holds d records) (hplain : isPlainKey key = true)
    (hshort : ¬key.utf8ByteSize > Disk.maxNameLength) (hfresh : key ∉ records.map Prod.fst) (item : α) :
    c.Holds ((d.put (c.placeOf key) (.file "")).write (c.placeOf key) (c.line item))
      (records ++ [(key, item)]) where
  isOpen := by
    have hnone : d.node? (c.placeOf key) = none := by
      rw [h.node?_placeOf, (lookup_eq_none_iff_not_mem records key).2 hfresh, Option.map_none]
    exact (h.isOpen.put _ _).write (Disk.node?_put_self hnone) _
  keys := by
    intro r hr
    rcases List.mem_append.1 hr with hold | hnew
    · exact h.keys r hold
    · rw [List.mem_singleton] at hnew
      rw [hnew]
      exact ⟨hplain, hshort⟩
  nodup := by
    rw [List.map_append, List.nodup_append]
    refine ⟨h.nodup, List.nodup_cons.2 ⟨List.not_mem_nil, List.nodup_nil⟩, fun k hk k' hk' heq => hfresh ?_⟩
    rw [List.map_singleton, List.mem_singleton] at hk'
    rwa [heq, hk'] at hk
  files := by
    rw [placeOf, Disk.children_write, Disk.children_put, h.files, List.map_append, List.map_append,
      List.map_map]
    congr 1
    · refine List.map_congr_left fun r hr => ?_
      have hne : r.1 ≠ key := fun heq => hfresh (List.mem_map.2 ⟨r, hr, heq⟩)
      simp [hne]
    · simp

/-- The file of a record is found under its key. -/
theorem node?_of_mem (h : c.Holds d records) (hmem : (key, item) ∈ records) :
    d.node? (c.placeOf key) = some (.file (c.line item)) := by
  obtain ⟨before, after, rfl⟩ := List.append_of_mem hmem
  have hfirst : (before ++ (key, item) :: after).lookup key = some item := by
    refine List.lookup_eq_some_iff.2 ⟨before, after, rfl, fun r hr => ?_⟩
    have hnodup := h.nodup
    rw [List.map_append, List.nodup_append] at hnodup
    exact bne_iff_ne.2 fun heq =>
      hnodup.2.2 r.1 (List.mem_map_of_mem hr) key List.mem_cons_self heq.symm
  rw [h.node?_placeOf, hfirst, Option.map_some]

/-- All that is fetched are the records, in order. -/
theorem fetchAll (h : c.Holds d records) (hc : c.codec.Lawful) :
    c.fetchAll d = .ok (records.map Prod.snd) := by
  have htexts : (records.map fun r => (r.1, Node.file (c.line r.2))).filterMap fileOf? =
      records.map fun r => (r.1, c.line r.2) := by
    rw [List.filterMap_map]
    exact congrFun List.filterMap_eq_map' records
  rw [Collection.fetchAll, Disk.list_of_isOpen h.isOpen, h.files]
  exact (congrArg _ htexts).trans (mapM_readFile hc records)

end Holds

/-- What a collection keeps after some answers: nothing before a storing under a plain key was
tried, and the winners from then on. -/
inductive Keeps (c : Collection α) (d : Disk) (past : List (Answered α)) : Prop where
  /-- There is no directory yet. -/
  | vacant (untouched : isTouched past = false) (none_won : winners past = [])
      (isVacant : d.IsVacant c.place)
  /-- The winners are there. -/
  | holds (touched : isTouched past = true) (holds : c.Holds d (winners past))

/-- What a storing is answered after other answers. -/
def verdict (c : Collection α) (past : List (Answered α)) (key : String) : Except StoreError Unit :=
  if isPlainKey key then
    if key.utf8ByteSize > Disk.maxNameLength then
      .error (.disk "creating file" (c.pathOf key) .nameTooLong)
    else if ((winners past).lookup key).isSome then
      .error (.alreadyExists key (c.pathOf key))
    else .ok ()
  else .error (.invalidKey key)

namespace Keeps

variable {past : List (Answered α)}

theorem exists_makeDirectories (h : c.Keeps d past) :
    ∃ d', d.makeDirectories c.place = .ok d' ∧ c.Holds d' (winners past) := by
  cases h with
  | vacant _ hnone hvacant =>
    obtain ⟨d', hd', hopen, hbare⟩ := Disk.exists_makeDirectories hvacant
    rw [hnone]
    exact ⟨d', hd', hopen, by simp, by simp, by rw [hbare, List.map_nil]⟩
  | holds _ hholds => exact ⟨d, Disk.makeDirectories_of_isOpen hholds.isOpen, hholds⟩

/-- An answer that is no try and by which nothing is won changes nothing. -/
theorem concat_of_eq_none (h : c.Keeps d past) {answer : Answered α} (hwon : answer.won? = none)
    (htry : answer.call.isTry = false) : c.Keeps d (past ++ [answer]) := by
  have hsame : winners (past ++ [answer]) = winners past := by
    rw [winners_concat, hwon, Option.toList_none, List.append_nil]
  have htouched : isTouched (past ++ [answer]) = isTouched past := by
    rw [isTouched_concat, htry, Bool.or_false]
  cases h with
  | vacant huntouched hnone hvacant =>
    exact .vacant (htouched.trans huntouched) (hsame.trans hnone) hvacant
  | holds hpast hholds => exact .holds (htouched.trans hpast) (hsame ▸ hholds)

/-- A storing is answered as the answers before it demand, and the collection keeps what it has to
keep. -/
theorem store (h : c.Keeps d past) (hc : c.codec.Lawful) (key : String) (item : α) :
    (c.store key item d).1 = c.verdict past key ∧
      c.Keeps (c.store key item d).2 (past ++ [.stored key item (c.verdict past key)]) := by
  by_cases hplain : isPlainKey key = true
  · obtain ⟨d', hmake, hholds⟩ := h.exists_makeDirectories
    have htouched : ∀ result, isTouched (past ++ [.stored key item result]) = true := fun result => by
      rw [isTouched_concat, Answered.call, Call.isTry, hplain, Bool.or_true]
    -- a storing that fails from here on has made the directory all the same
    have hkept : ∀ e, c.Keeps d' (past ++ [.stored key item (.error e)]) := fun e => by
      refine .holds (htouched _) ?_
      rwa [winners_concat, Answered.won?_error, Option.toList_none, List.append_nil]
    rw [store_of_plain hc hplain hmake, hholds.create, verdict, if_pos hplain]
    by_cases hlong : key.utf8ByteSize > Disk.maxNameLength
    · rw [if_pos hlong, if_pos hlong]
      exact ⟨rfl, hkept _⟩
    · rw [if_neg hlong, if_neg hlong]
      by_cases hthere : ((winners past).lookup key).isSome = true
      · rw [if_pos hthere, if_pos hthere]
        exact ⟨rfl, hkept _⟩
      · rw [if_neg hthere, if_neg hthere]
        have hfresh : key ∉ (winners past).map Prod.fst := by
          rwa [← lookup_eq_none_iff_not_mem, ← Option.not_isSome_iff_eq_none]
        -- the new file comes last among the files, as its record does among the winners
        refine ⟨rfl, .holds (htouched _) ?_⟩
        rw [winners_concat, Answered.won?, Option.toList_some]
        exact hholds.put_write hplain hlong hfresh item
  · rw [store_of_not_plain (by simpa using hplain), verdict, if_neg hplain]
    exact ⟨rfl, h.concat_of_eq_none rfl (by simpa [Answered.call, Call.isTry] using hplain)⟩

theorem perform (h : c.Keeps d past) (hc : c.codec.Lawful) (call : Call α) :
    c.Keeps (c.perform d call).2 (past ++ [(c.perform d call).1]) := by
  cases call with
  | store key item =>
    obtain ⟨hanswer, hkeeps⟩ := h.store hc key item
    rw [← hanswer] at hkeeps
    exact hkeeps
  | fetchAll => exact h.concat_of_eq_none rfl rfl

/-- The invariant of a run. -/
theorem run (h : c.Keeps d past) (hc : c.codec.Lawful) (calls : List (Call α)) :
    c.Keeps (c.run calls d).2 (past ++ (c.run calls d).1) := by
  induction calls generalizing d past with
  | nil => rwa [Collection.run, List.append_nil]
  | cons call calls ih =>
    have hrest := ih (h.perform hc call)
    rwa [List.append_assoc, List.singleton_append] at hrest

theorem fetchAll (h : c.Keeps d past) (hc : c.codec.Lawful) :
    c.fetchAll d = if isTouched past then .ok ((winners past).map Prod.snd)
      else .error (.notFound c.directory) := by
  cases h with
  | vacant huntouched _ hvacant =>
    rw [Collection.fetchAll, Disk.list_of_isVacant hvacant, if_neg (by simp [huntouched])]
  | holds htouched hholds => rw [hholds.fetchAll hc, if_pos htouched]

theorem winners_eq_nil (h : c.Keeps d past) (huntouched : isTouched past = false) :
    winners past = [] := by
  cases h with
  | vacant _ hnone _ => exact hnone
  | holds htouched _ =>
    rw [huntouched] at htouched
    cases htouched

theorem nodup_winners (h : c.Keeps d past) : ((winners past).map Prod.fst).Nodup := by
  cases h with
  | vacant _ hnone _ =>
    rw [hnone]
    exact List.nodup_nil
  | holds _ hholds => exact hholds.nodup

/-- What is kept of the winners: their keys are plain, and what they stored is in their files. -/
theorem winner (h : c.Keeps d past) (hmem : (key, item) ∈ winners past) :
    isPlainKey key = true ∧ ¬key.utf8ByteSize > Disk.maxNameLength ∧
      d.node? (c.placeOf key) = some (.file (c.line item)) := by
  cases h with
  | vacant _ hnone _ =>
    rw [hnone] at hmem
    exact absurd hmem List.not_mem_nil
  | holds _ hholds =>
    obtain ⟨hplain, hshort⟩ := hholds.keys _ hmem
    exact ⟨hplain, hshort, hholds.node?_of_mem hmem⟩

end Keeps

/-! ## Verdicts -/

theorem verdict_eq_invalidKey_iff (c : Collection α) (past : List (Answered α)) (key : String) :
    (∃ k, c.verdict past key = .error (.invalidKey k)) ↔ isPlainKey key = false := by
  by_cases hplain : isPlainKey key = true
  · rw [verdict, if_pos hplain, hplain]
    constructor
    · rintro ⟨k, hk⟩
      split at hk
      · cases hk
      · split at hk <;> cases hk
    · intro hfalse
      cases hfalse
  · rw [verdict, if_neg hplain]
    exact ⟨fun _ => Bool.eq_false_iff.2 hplain, fun _ => ⟨key, rfl⟩⟩

theorem Keeps.verdict_eq_alreadyExists_iff {past : List (Answered α)} (h : c.Keeps d past)
    (key : String) : (∃ k path, c.verdict past key = .error (.alreadyExists k path)) ↔
      ∃ x, .stored key x (.ok ()) ∈ past := by
  constructor
  · rintro ⟨k, path, hverdict⟩
    rw [verdict] at hverdict
    split at hverdict
    · split at hverdict
      · cases hverdict
      · split at hverdict
        · next hthere =>
          obtain ⟨x, hx⟩ := Option.isSome_iff_exists.1 hthere
          obtain ⟨before, after, hsplit, -⟩ := List.lookup_eq_some_iff.1 hx
          exact ⟨x, mem_winners.1 (hsplit ▸ List.mem_append_right before List.mem_cons_self)⟩
        · cases hverdict
    · cases hverdict
  · rintro ⟨x, hx⟩
    have hmem := mem_winners.2 hx
    obtain ⟨hplain, hshort, -⟩ := h.winner hmem
    have hthere : ((winners past).lookup key).isSome = true := by
      refine Option.isSome_iff_ne_none.2 fun hnone => ?_
      exact (lookup_eq_none_iff_not_mem _ key).1 hnone (List.mem_map_of_mem hmem)
    rw [verdict, if_pos hplain, if_neg hshort, if_pos hthere]
    exact ⟨key, c.pathOf key, rfl⟩

theorem verdict_eq_ok {past : List (Answered α)} (hplain : isPlainKey key = true)
    (hshort : ¬key.utf8ByteSize > Disk.maxNameLength)
    (hfresh : ∀ x, .stored key x (.ok ()) ∉ past) : c.verdict past key = .ok () := by
  have hnone : (winners past).lookup key = none := by
    rw [lookup_eq_none_iff_not_mem]
    intro hmem
    obtain ⟨⟨k, x⟩, hr, rfl⟩ := List.mem_map.1 hmem
    exact hfresh x (mem_winners.1 hr)
  rw [verdict, if_pos hplain, if_neg hshort, hnone]
  rfl

/-! ## Runs -/

/-- A run of calls on a place where nothing was. -/
theorem keeps_run (hc : c.codec.Lawful) (h : d.IsVacant c.place) (calls : List (Call α)) :
    c.Keeps (c.run calls d).2 (c.run calls d).1 := by
  have hrun : c.Keeps (c.run calls d).2 ([] ++ (c.run calls d).1) :=
    Keeps.run (.vacant rfl rfl h) hc calls
  rwa [List.nil_append] at hrun

/-- What a run of calls comes to in a collection of subscriptions, if nothing was in its place: which
storings are refused and why, what the files of the others hold, and what is fetched. -/
theorem subscription_runs (base : String) (d : Disk)
    (h : d.IsVacant (below Codec.subscription base).place) (calls : List (Call Subscription)) :
    let c := below Codec.subscription base
    let past := (c.run calls d).1
    let reached := (c.run calls d).2
    (∀ key item, (∃ k, (c.store key item reached).1 = .error (.invalidKey k)) ↔
      isPlainKey key = false) ∧
    (∀ key item, (∃ k path, (c.store key item reached).1 = .error (.alreadyExists k path)) ↔
      ∃ x, .stored key x (.ok ()) ∈ past) ∧
    (∀ key item, isPlainKey key = true → (∀ x, .stored key x (.ok ()) ∉ past) →
      key.utf8ByteSize ≤ Disk.maxNameLength → (c.store key item reached).1 = .ok ()) ∧
    (∀ key item, .stored key item (.ok ()) ∈ past →
      reached.node? (c.placeOf key) = some (.file (item.toJson.compact ++ "\n"))) ∧
    ((∀ key item, .store key item ∈ calls → isPlainKey key = false) →
      c.fetchAll reached = .error (.notFound c.directory)) ∧
    ((∃ key item, .store key item ∈ calls ∧ isPlainKey key = true) →
      ∃ items, c.fetchAll reached = .ok items ∧ items.Perm ((winners past).map Prod.snd)) := by
  intro c past reached
  have hkeeps : c.Keeps reached past := keeps_run Codec.subscription_lawful h calls
  have hanswer : ∀ key item, (c.store key item reached).1 = c.verdict past key := fun key item =>
    (hkeeps.store Codec.subscription_lawful key item).1
  have hfetch := hkeeps.fetchAll Codec.subscription_lawful
  have htouched : isTouched past = calls.any Call.isTry := isTouched_run c calls d
  refine ⟨fun key item => ?_, fun key item => ?_, fun key item hplain hfresh hshort => ?_,
    fun key item hwon => (hkeeps.winner (mem_winners.2 hwon)).2.2, fun hnone => ?_, ?_⟩
  · rw [hanswer]
    exact verdict_eq_invalidKey_iff c past key
  · rw [hanswer]
    exact hkeeps.verdict_eq_alreadyExists_iff key
  · rw [hanswer]
    exact verdict_eq_ok hplain (Nat.not_lt.2 hshort) hfresh
  · -- no storing got as far as to make the directory
    rw [hfetch, htouched, if_neg]
    rw [List.any_eq_true]
    rintro ⟨call, hmem, htry⟩
    cases call with
    | store key item => exact absurd htry (by simpa [Call.isTry] using hnone key item hmem)
    | fetchAll => cases htry
  · -- one storing did, even if it failed in the end
    rintro ⟨key, item, hmem, hplain⟩
    rw [hfetch, htouched, if_pos (List.any_eq_true.2 ⟨_, hmem, hplain⟩)]
    exact ⟨_, rfl, .refl _⟩

/-- On an empty disk, after one record was stored. -/
theorem subscription_runs_on_empty_disk :
    let c := below Codec.subscription "data"
    let s : Subscription := ⟨⟨none, "jane@example.com"⟩, Pair.ofTexts "btc" "uah"⟩
    let calls := [.fetchAll, .store "jane" s, .store "jane" s]
    (∃ k, (c.store ".." s (c.run calls Disk.empty).2).1 = .error (.invalidKey k)) ∧
      ∃ items, c.fetchAll (c.run calls Disk.empty).2 = .ok items ∧
        items.Perm ((winners (c.run calls Disk.empty).1).map Prod.snd) := by
  intro c s calls
  have hplace : c.place = ["data", "Subscription"] := by decide +kernel
  have hvacant : Disk.empty.IsVacant c.place := by
    rw [hplace]
    exact Disk.isVacant_empty (by decide) (by decide)
  have hruns := subscription_runs "data" Disk.empty hvacant calls
  exact ⟨(hruns.1 ".." s).2 (by decide +kernel),
    hruns.2.2.2.2.2 ⟨"jane", s, by simp [calls], by decide +kernel⟩⟩

end RateHerald.Collection
