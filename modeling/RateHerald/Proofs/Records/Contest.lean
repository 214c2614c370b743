import Mathlib.Logic.Function.Basic
import Mathlib.Logic.Relation
import RateHerald.Proofs.Records.Disk
import RateHerald.Records.Collection

/-!
# Storings at the same time

Several programs may keep their records in one directory without knowing of each other. Each of
their storings goes on step by step, and between two of its steps the others may take any of theirs;
it may also stop for good, when its program is killed. Every step may fail, the directories may be
made one at a time, and a record may reach its file in pieces.

What keeps the storings apart is that a file is only ever created where nothing is. Whoever has
created a file holds it, until it is removed after a failure or given up, or for good once the
record stands in it. As long as a file is held nobody else can create it, and whoever has not created
it neither writes to it nor removes it.

## Main declarations

* `Attempt.Deed`: all that one step of a storing can do; `Attempt.deed_next`: it does nothing else.
* `Storing`, `Contest` and `Contest.Step`: storings under way, and what one of them does.
* `Contest.Runs`: any number of steps, in any order.
* `Contest.IsFair`, the invariant, with the step lemma `Contest.IsFair.step`.
* `Contest.won_once`: a key is won at most once, and what the winner has stored stays.
-/

namespace RateHerald

variable {α : Type}

/-! ## One step -/

namespace Attempt

/-- The file has been created, and it has neither been given up nor removed. -/
def isHolder : Attempt → Bool
  | .write | .cleanUp _ | .finished (.ok ()) => true
  | _ => false

/-- What one step can do: how far the storing comes by it, and what becomes of the disk. -/
inductive Deed (c : Collection α) (key : String) (item : α) (d : Disk) :
    Attempt → Attempt → Disk → Prop where
  /-- There is no file yet, and there will be none by this step. -/
  | pass {a a' : Attempt} (h : a.isHolder = false) (h' : a'.isHolder = false) :
      Deed c key item d a a' d
  /-- The directory is made. -/
  | makeDirectory {d' : Disk} (h : d.makeDirectories c.place = .ok d') :
      Deed c key item d .makeDirectory .create d'
  /-- The file is created. -/
  | create {d' : Disk} (h : d.create (c.placeOf key) = .ok d') :
      Deed c key item d .create .write d'
  /-- The record cannot be encoded. -/
  | refuse (cause : StoreError) : Deed c key item d .write (.cleanUp cause) d
  /-- The writing fails and leaves something in the file. -/
  | fail (cause : StoreError) (text : String) :
      Deed c key item d .write (.cleanUp cause) (d.write (c.placeOf key) text)
  /-- The record is written. -/
  | write {text : String} (h : c.content item = .ok text) :
      Deed c key item d .write (.finished (.ok ())) (d.write (c.placeOf key) text)
  /-- The file cannot be removed. -/
  | leave (cause e : StoreError) : Deed c key item d (.cleanUp cause) (.finished (.error e)) d
  /-- The file is removed. -/
  | remove (cause : StoreError) {d' : Disk} (h : d.remove (c.placeOf key) = .ok d') :
      Deed c key item d (.cleanUp cause) (.finished (.error cause)) d'
  /-- The record is there already. -/
  | rest : Deed c key item d (.finished (.ok ())) (.finished (.ok ())) d

/-- A step does what a step can do, whether or not it is told to fail. -/
theorem deed_next (c : Collection α) (key : String) (item : α) (fault : Option DiskFault) (d : Disk)
    (a : Attempt) :
    Deed c key item d a (a.next c key item fault d).1 (a.next c key item fault d).2 := by
  cases a with
  | start =>
    rw [next]
    split
    · exact .pass rfl rfl
    · exact .pass rfl rfl
  | makeDirectory =>
    rw [next]
    split
    · next hmake => exact .makeDirectory hmake
    · exact .pass rfl rfl
    · exact .pass rfl rfl
  | create =>
    rw [next]
    split
    · next hcreate => exact .create hcreate
    · exact .pass rfl rfl
    · exact .pass rfl rfl
    · exact .pass rfl rfl
  | write =>
    rcases hcontent : c.content item with text | text
    · simp only [next, hcontent]
      exact .refuse _
    · rcases fault with _ | f
      · simp only [next, hcontent]
        exact .write hcontent
      · simp only [next, hcontent]
        exact .fail _ _
  | cleanUp cause =>
    rw [next]
    split
    · next hremove => exact .remove cause hremove
    · exact .leave cause _
    · exact .leave cause _
  | finished result =>
    rcases result with e | _
    · exact .pass rfl rfl
    · exact .rest

theorem eq_finished_of_stepsLeft {a : Attempt} (h : a.stepsLeft = 0) :
    ∃ result, a = .finished result := by
  rcases a with _ | _ | _ | _ | _ | result
  · cases h
  · cases h
  · cases h
  · cases h
  · cases h
  · exact ⟨result, rfl⟩

/-- All steps are the next one and then the others. -/
theorem finish_of_stepsLeft {c : Collection α} {key : String} {item : α} {d : Disk} {a : Attempt}
    (h : a.stepsLeft ≠ 0) : a.finish c key item d =
      (a.next c key item none d).1.finish c key item (a.next c key item none d).2 := by
  cases a with
  | finished result => exact absurd rfl h
  | _ => rw [finish]

namespace Deed

variable {c : Collection α} {key : String} {item : α} {d d' : Disk} {a a' : Attempt}

/-- Who holds no file takes nothing away. -/
theorem grows (h : Deed c key item d a a' d') (ha : a.isHolder = false) : d.Grows d' := by
  cases h with
  | pass => exact fun _ _ hnode => hnode
  | makeDirectory hmake => exact Disk.grows_makeDirectoriesFrom hmake
  | create hcreate => exact (Disk.of_create hcreate).2.2
  | _ => cases ha

/-- A file that comes to be held by a step was not there before. -/
theorem created (h : Deed c key item d a a' d') (ha : a.isHolder = false)
    (ha' : a'.isHolder = true) : d.locate? (c.placeOf key) = .ok none := by
  cases h with
  | pass _ hnone => exact absurd ha' (Bool.eq_false_iff.1 hnone)
  | makeDirectory => cases ha'
  | create hcreate => exact (Disk.of_create hcreate).1
  | _ => cases ha

section Held

variable (hheld : a.isHolder = true → ∃ old, d.locate? (c.placeOf key) = .ok (some (.file old)))
include hheld

/-- Nothing is touched but the own file. -/
theorem spares (h : Deed c key item d a a' d') : d.Spares (c.placeOf key) d' := by
  rcases hholder : a.isHolder
  · exact (h.grows hholder).spares _
  · obtain ⟨old, hold⟩ := hheld hholder
    cases h with
    | pass hnone => exact absurd hholder (Bool.eq_false_iff.1 hnone)
    | fail _ text => exact (Disk.of_write hold text).2
    | write => exact (Disk.of_write hold _).2
    | remove _ hremove => exact Disk.spares_remove hremove
    | refuse | leave | rest => exact .refl _ d
    | _ => cases hholder

/-- Who holds a file after a step has it on the disk. -/
theorem held (h : Deed c key item d a a' d') (ha' : a'.isHolder = true) :
    ∃ text, d'.locate? (c.placeOf key) = .ok (some (.file text)) := by
  cases h with
  | pass _ hnone => exact absurd ha' (Bool.eq_false_iff.1 hnone)
  | create hcreate => exact ⟨"", (Disk.of_create hcreate).2.1⟩
  | refuse | rest => exact hheld rfl
  | fail _ text =>
    obtain ⟨old, hold⟩ := hheld rfl
    exact ⟨text, (Disk.of_write hold text).1⟩
  | @write text _ =>
    obtain ⟨old, hold⟩ := hheld rfl
    exact ⟨text, (Disk.of_write hold text).1⟩
  | _ => cases ha'

/-- A record that is stored by a step stands in its file. -/
theorem won (h : Deed c key item d a (.finished (.ok ())) d') (hopen : a ≠ .finished (.ok ())) :
    ∃ text, c.content item = .ok text ∧
      d'.locate? (c.placeOf key) = .ok (some (.file text)) := by
  cases h with
  | pass _ hnone => cases hnone
  | @write text hcontent =>
    obtain ⟨old, hold⟩ := hheld rfl
    exact ⟨text, hcontent, (Disk.of_write hold text).1⟩
  | rest => exact absurd rfl hopen

end Held

end Deed

end Attempt

/-! ## Storings under way -/

/-- A storing under way; `collection` is what its program knows of the directory. -/
structure Storing (α : Type) where
  /-- The directory and the kind of record. -/
  collection : Collection α
  /-- The key. -/
  key : String
  /-- The record. -/
  item : α
  /-- How far the storing has come. -/
  progress : Attempt

namespace Storing

/-- Where the file of the record is. -/
def file (a : Storing α) : Place :=
  a.collection.placeOf a.key

/-- The storing has succeeded. -/
def HasWon (a : Storing α) : Prop :=
  a.progress = .finished (.ok ())

/-- The file stands on the disk and holds the record. -/
def IsKept (a : Storing α) (d : Disk) : Prop :=
  ∃ text, a.collection.content a.item = .ok text ∧ d.locate? a.file = .ok (some (.file text))

/-- The next step, or its failure, and the disk after it. -/
def next (a : Storing α) (fault : Option DiskFault) (d : Disk) : Storing α × Disk :=
  let step := a.progress.next a.collection a.key a.item fault d
  ({ a with progress := step.1 }, step.2)

/-- All steps that are left, none of which fails, and the disk after them. -/
def finish (a : Storing α) (d : Disk) : Storing α × Disk :=
  let done := a.progress.finish a.collection a.key a.item d
  ({ a with progress := .finished done.1 }, done.2)

end Storing

/-- Several storings on one disk, each with a number of its own. -/
structure Contest (α : Type) where
  /-- The disk. -/
  disk : Disk
  /-- The storings that were begun. -/
  storings : Nat → Option (Storing α)

namespace Contest

/-- Nothing has been begun. -/
def new (d : Disk) : Contest α :=
  ⟨d, fun _ => none⟩

/-- The contest when a storing has come somewhere. -/
def set (x : Contest α) (i : Nat) (a : Storing α) (d : Disk) : Contest α :=
  ⟨d, Function.update x.storings i (some a)⟩

/-- The contest when a storing has gone on to its end, undisturbed and without failures. -/
def finish (x : Contest α) (i : Nat) (a : Storing α) : Contest α :=
  x.set i (a.finish x.disk).1 (a.finish x.disk).2

/-- The contest when somebody has stored a record at once. -/
def store (x : Contest α) (i : Nat) (c : Collection α) (key : String) (item : α) : Contest α :=
  x.set i ⟨c, key, item, .finished (c.store key item x.disk).1⟩ (c.store key item x.disk).2

/-- One step of one of the storings in a directory. -/
inductive Step (place : Place) : Contest α → Contest α → Prop where
  /-- Somebody begins a storing. -/
  | enter (x : Contest α) {i : Nat} {a : Storing α} (hnew : x.storings i = none)
      (hplace : a.collection.place = place) (hstart : a.progress = .start) :
      Step place x (x.set i a x.disk)
  /-- A storing takes its next step, or fails at it. -/
  | proceed (x : Contest α) {i : Nat} {a : Storing α} (h : x.storings i = some a)
      (fault : Option DiskFault) :
      Step place x (x.set i (a.next fault x.disk).1 (a.next fault x.disk).2)
  /-- Some of the directories are made, one in another, by a storing that is to make them all. -/
  | pave (x : Contest α) {i : Nat} {a : Storing α} (h : x.storings i = some a)
      (hmake : a.progress = .makeDirectory) {way : Place} (hway : way <+: place) {d : Disk}
      (hdisk : x.disk.makeDirectories way = .ok d) : Step place x (x.set i a d)
  /-- Something of a record that is being written reaches the file. -/
  | trickle (x : Contest α) {i : Nat} {a : Storing α} (h : x.storings i = some a)
      (hwrite : a.progress = .write) (text : String) :
      Step place x (x.set i a (x.disk.write a.file text))

/-- Any number of steps, in any order. -/
def Runs (place : Place) : Contest α → Contest α → Prop :=
  Relation.ReflTransGen (Step place)

/-! ## One storing without failures -/

theorem set_self {x : Contest α} {i : Nat} {a : Storing α} (h : x.storings i = some a) :
    x.set i a x.disk = x := by
  rw [set, ← h, Function.update_eq_self]

theorem set_set (x : Contest α) (i : Nat) (a b : Storing α) (d d' : Disk) :
    (x.set i a d).set i b d' = x.set i b d' := by
  rw [set, set, set, Function.update_idem]

/-- A storing that nobody disturbs and that never fails goes on to its end. -/
theorem runs_finish (place : Place) {x : Contest α} {i : Nat} {a : Storing α}
    (h : x.storings i = some a) : Runs place x (x.finish i a) := by
  -- by induction on the steps that are left
  induction hleft : a.progress.stepsLeft using Nat.strongRecOn generalizing x a with
  | ind n ih =>
    by_cases hend : a.progress.stepsLeft = 0
    · obtain ⟨result, hresult⟩ := Attempt.eq_finished_of_stepsLeft hend
      have hstay : a.finish x.disk = (a, x.disk) := by
        rw [Storing.finish, hresult, Attempt.finish, ← hresult]
      rw [finish, hstay, set_self h]
      exact .refl
    · have hless := Attempt.stepsLeft_next a.collection a.key a.item none x.disk a.progress hend
      have hnext : (x.set i (a.next none x.disk).1 (a.next none x.disk).2).storings i =
          some (a.next none x.disk).1 :=
        Function.update_self ..
      have hrest := ih _ (hleft ▸ hless) hnext rfl
      rw [finish, set_set] at hrest
      have hfinish : a.finish x.disk = (a.next none x.disk).1.finish (a.next none x.disk).2 := by
        rw [Storing.finish, Attempt.finish_of_stepsLeft hend]
        rfl
      rw [finish, hfinish]
      exact .head (.proceed x h none) hrest

/-- To store a record at once is to begin a storing and to let it go on to its end. -/
theorem runs_store {place : Place} {x : Contest α} {i : Nat} (h : x.storings i = none)
    {c : Collection α} (hplace : c.place = place) (key : String) (item : α) :
    Runs place x (x.store i c key item) := by
  let a : Storing α := ⟨c, key, item, .start⟩
  have hbegin : Step place x (x.set i a x.disk) := .enter x h hplace rfl
  have hend := runs_finish place (x := x.set i a x.disk) (a := a) (i := i) (Function.update_self ..)
  rw [finish, set_set] at hend
  exact .head hbegin hend

/-! ## The invariant -/

/-- Whoever holds a file is the only one, and has it on the disk. -/
structure IsFair (place : Place) (x : Contest α) : Prop where
  /-- All work in one directory. -/
  places : ∀ i a, x.storings i = some a → a.collection.place = place
  /-- The files that are held are there. -/
  held : ∀ i a, x.storings i = some a → a.progress.isHolder = true →
    ∃ text, x.disk.locate? a.file = .ok (some (.file text))
  /-- No file is held twice. -/
  alone : ∀ i j a b, x.storings i = some a → x.storings j = some b → a.progress.isHolder = true →
    b.progress.isHolder = true → a.file = b.file → i = j
  /-- The records of those who have won are kept. -/
  kept : ∀ i a, x.storings i = some a → a.HasWon → a.IsKept x.disk

variable {place : Place} {x y : Contest α} {i : Nat} {a : Storing α}

theorem isFair_new (place : Place) (d : Disk) : (new d : Contest α).IsFair place where
  places _ _ h := nomatch h
  held _ _ h := nomatch h
  alone _ _ _ _ h := nomatch h
  kept _ _ h := nomatch h

theorem storings_set (x : Contest α) (i j : Nat) (a : Storing α) (d : Disk) :
    (x.set i a d).storings j = if j = i then some a else x.storings j :=
  Function.update_apply x.storings i (some a) j

theorem of_storings_set {j : Nat} {b : Storing α} {d : Disk}
    (h : (x.set i a d).storings j = some b) :
    (j = i ∧ b = a) ∨ (j ≠ i ∧ x.storings j = some b) := by
  rw [storings_set] at h
  split at h
  · next hsame =>
    cases h
    exact .inl ⟨hsame, rfl⟩
  · next hother => exact .inr ⟨hother, h⟩

namespace IsFair

/-- The invariant after somebody has come somewhere: what the others hold has to stay, and must not
be what this one holds. -/
theorem set (h : x.IsFair place) {d : Disk} (hplace : a.collection.place = place)
    (hstays : ∀ j b, j ≠ i → x.storings j = some b → b.progress.isHolder = true →
      ∀ node, x.disk.locate? b.file = .ok (some node) → d.locate? b.file = .ok (some node))
    (hheld : a.progress.isHolder = true → ∃ text, d.locate? a.file = .ok (some (.file text)))
    (halone : ∀ j b, j ≠ i → x.storings j = some b → b.progress.isHolder = true →
      a.progress.isHolder = true → b.file ≠ a.file)
    (hkept : a.HasWon → a.IsKept d) : (x.set i a d).IsFair place where
  places j b hj := by
    rcases of_storings_set hj with ⟨rfl, rfl⟩ | ⟨-, hb⟩
    · exact hplace
    · exact h.places j b hb
  held j b hj hholder := by
    rcases of_storings_set hj with ⟨rfl, rfl⟩ | ⟨hne, hb⟩
    · exact hheld hholder
    · obtain ⟨text, htext⟩ := h.held j b hb hholder
      exact ⟨text, hstays j b hne hb hholder _ htext⟩
  alone j k b b' hj hk hholder hholder' hfile := by
    rcases of_storings_set hj with ⟨rfl, rfl⟩ | ⟨hne, hb⟩
    · rcases of_storings_set hk with ⟨rfl, rfl⟩ | ⟨hne', hb'⟩
      · rfl
      · exact absurd hfile.symm (halone k b' hne' hb' hholder' hholder)
    · rcases of_storings_set hk with ⟨rfl, rfl⟩ | ⟨-, hb'⟩
      · exact absurd hfile (halone j b hne hb hholder hholder')
      · exact h.alone j k b b' hb hb' hholder hholder' hfile
  kept j b hj hwon := by
    rcases of_storings_set hj with ⟨rfl, rfl⟩ | ⟨hne, hb⟩
    · exact hkept hwon
    · obtain ⟨text, hcontent, hfile⟩ := h.kept j b hb hwon
      have hholder : b.progress.isHolder = true := by rw [hwon]; rfl
      exact ⟨text, hcontent, hstays j b hne hb hholder _ hfile⟩

/-- A step of a storing, or its failure. -/
theorem proceed (h : x.IsFair place) (hi : x.storings i = some a) (fault : Option DiskFault) :
    (x.set i (a.next fault x.disk).1 (a.next fault x.disk).2).IsFair place := by
  have hdeed := Attempt.deed_next a.collection a.key a.item fault x.disk a.progress
  have hheld := h.held i a hi
  apply h.set
  · exact h.places i a hi
  · intro j b hne hb hholder node hnode
    by_cases hfile : b.file = a.file
    · -- the file is held by another one, so this one does not hold it
      have hnone : a.progress.isHolder = false := by
        rw [Bool.eq_false_iff]
        intro hself
        exact hne (h.alone j i b a hb hi hholder hself hfile)
      exact (hdeed.grows hnone).locate? hnode
    · exact (hdeed.spares hheld).locate? hfile hnode
  · intro hholder
    exact hdeed.held hheld hholder
  · intro j b hne hb hholder hself hfile
    obtain ⟨text, htext⟩ := h.held j b hb hholder
    rcases hbefore : a.progress.isHolder
    · have hfree := hdeed.created hbefore hself
      rw [hfile] at htext
      cases htext.symm.trans hfree
    · exact hne (h.alone j i b a hb hi hholder hbefore hfile)
  · intro hwon
    by_cases hbefore : a.HasWon
    · -- who has won already does nothing more
      rw [Storing.next, hbefore, Attempt.next]
      exact h.kept i a hi hbefore
    · rw [Storing.HasWon, Storing.next] at hwon
      dsimp only at hwon
      rw [hwon] at hdeed
      exact hdeed.won hheld hbefore

/-- A step of a storing that holds no file and takes nothing away. -/
theorem set_of_grows (h : x.IsFair place) (hplace : a.collection.place = place)
    (hnone : a.progress.isHolder = false) {d : Disk} (hgrows : x.disk.Grows d) :
    (x.set i a d).IsFair place := by
  have hidle : a.progress.isHolder ≠ true := Bool.eq_false_iff.1 hnone
  apply h.set hplace
  · intro j b _ _ _ node hnode
    exact hgrows.locate? hnode
  · intro hholder
    exact absurd hholder hidle
  · intro j b _ _ _ hholder
    exact absurd hholder hidle
  · intro hwon
    rw [hwon] at hnone
    cases hnone

/-- A step of anybody. -/
theorem step (h : x.IsFair place) (hstep : Step place x y) : y.IsFair place := by
  cases hstep with
  | enter _ hplace hstart =>
    apply h.set_of_grows hplace
    · rw [hstart]
      rfl
    · exact fun _ _ hnode => hnode
  | proceed hi fault => exact h.proceed hi fault
  | @pave i a hi hmake _ _ _ hdisk =>
    apply h.set_of_grows (h.places i a hi)
    · rw [hmake]
      rfl
    · exact Disk.grows_makeDirectoriesFrom hdisk
  | @trickle i a hi hwrite text =>
    have hholder : a.progress.isHolder = true := by rw [hwrite]; rfl
    obtain ⟨old, hold⟩ := h.held i a hi hholder
    obtain ⟨hfile, hspares⟩ := Disk.of_write hold text
    have hother : ∀ j b, j ≠ i → x.storings j = some b → b.progress.isHolder = true →
        b.file ≠ a.file := fun j b hne hb hholder' heq =>
      hne (h.alone j i b a hb hi hholder' hholder heq)
    apply h.set (h.places i a hi)
    · exact fun j b hne hb hholder' node => hspares.locate? (hother j b hne hb hholder')
    · exact fun _ => ⟨text, hfile⟩
    · exact fun j b hne hb hholder' _ => hother j b hne hb hholder'
    · intro hwon
      rw [Storing.HasWon, hwrite] at hwon
      cases hwon

theorem runs (h : x.IsFair place) (hruns : Runs place x y) : y.IsFair place := by
  induction hruns with
  | refl => exact h
  | tail _ hstep ih => exact ih.step hstep

end IsFair

/-! ## Winners -/

/-- Who has won stays the winner. -/
theorem Step.storings_of_hasWon (h : Step place x y) (hi : x.storings i = some a)
    (hwon : a.HasWon) : y.storings i = some a := by
  cases h with
  | @enter j _ hnew =>
    have hne : i ≠ j := by
      rintro rfl
      rw [hnew] at hi
      cases hi
    rw [storings_set, if_neg hne, hi]
  | @proceed j b hj fault =>
    rw [storings_set]
    split
    · next hsame =>
      subst hsame
      cases hi.symm.trans hj
      rw [Storing.next, hwon, Attempt.next, ← hwon]
    · exact hi
  | pave hj | trickle hj =>
    rw [storings_set]
    split
    · next hsame =>
      rw [hsame] at hi
      exact hj.symm.trans hi
    · exact hi

theorem Runs.storings_of_hasWon (h : Runs place x y) (hi : x.storings i = some a)
    (hwon : a.HasWon) : y.storings i = some a := by
  induction h with
  | refl => exact hi
  | tail _ hstep ih => exact hstep.storings_of_hasWon ih hwon

/-- Whatever the storings in a directory do, and whichever of their steps fail: no two of them have
success with the same key, and once one of them has had success its record stands in its file for
good, on a line of its own, whatever the others do from then on. -/
theorem won_once {d : Disk} (h : Runs place (new d) x) :
    (∀ i j a b, x.storings i = some a → x.storings j = some b → a.HasWon → b.HasWon →
      a.key = b.key → i = j) ∧
    ∀ i a, x.storings i = some a → a.HasWon →
      ∃ v, a.collection.codec.write a.item = .ok v ∧
        ∀ y, Runs place x y → y.storings i = some a ∧
          y.disk.locate? (place ++ [a.key]) = .ok (some (.file (v.compact ++ "\n"))) := by
  have hfair := (isFair_new place d).runs h
  have holds : ∀ a : Storing α, a.HasWon → a.progress.isHolder = true := by
    intro a hwon
    rw [hwon]
    rfl
  have hfile : ∀ i a, x.storings i = some a → a.file = place ++ [a.key] := by
    intro i a hi
    rw [Storing.file, Collection.placeOf, hfair.places i a hi]
  constructor
  · intro i j a b hi hj hwon hwon' hkey
    apply hfair.alone i j a b hi hj (holds a hwon) (holds b hwon')
    rw [hfile i a hi, hfile j b hj, hkey]
  · intro i a hi hwon
    obtain ⟨text, hcontent, -⟩ := hfair.kept i a hi hwon
    rw [Collection.content] at hcontent
    rcases hv : a.collection.codec.write a.item with e | v
    · rw [hv] at hcontent
      cases hcontent
    · refine ⟨v, rfl, ?_⟩
      intro y hruns
      have hi' := hruns.storings_of_hasWon hi hwon
      obtain ⟨text', hcontent', hkept⟩ := (hfair.runs hruns).kept i a hi' hwon
      rw [Collection.content, hv] at hcontent'
      cases hcontent'
      rw [hfile i a hi] at hkept
      exact ⟨hi', hkept⟩

/-- Three storings with one key: the second is refused while the first one writes, the first one
fails because its record cannot be encoded, and the third, which comes after that, has success. -/
theorem won_once_of_three : ∃ x : Contest (List (Nat × Nat × Nat)),
    Runs ["data", "HashMap"] (new Disk.empty) x ∧
      (∃ a, x.storings 2 = some a ∧ a.HasWon) ∧
      ∀ y, Runs ["data", "HashMap"] x y →
        y.disk.locate? ["data", "HashMap", "k"] = .ok (some (.file "\x7b\x7d\n")) := by
  let c := Collection.below Codec.table "data"
  have hplace : c.place = ["data", "HashMap"] := by decide +kernel
  -- the first one creates its file and is about to write
  let a₀ : Storing (List (Nat × Nat × Nat)) := ⟨c, "k", [(1, 2, 3)], .start⟩
  let a₁ := a₀.next none Disk.empty
  let a₂ := a₁.1.next none a₁.2
  let a₃ := a₂.1.next none a₂.2
  let x₀ := (new Disk.empty).set 0 a₀ Disk.empty
  let x₁ := x₀.set 0 a₁.1 a₁.2
  let x₂ := x₁.set 0 a₂.1 a₂.2
  let x₃ := x₂.set 0 a₃.1 a₃.2
  have hbegin : Step ["data", "HashMap"] (new Disk.empty) x₀ :=
    .enter (i := 0) (a := a₀) (new Disk.empty) rfl hplace rfl
  have hfirst : Runs ["data", "HashMap"] (new Disk.empty) x₃ :=
    (((Relation.ReflTransGen.single hbegin).tail (.proceed x₀ rfl none)).tail
      (.proceed x₁ rfl none)).tail (.proceed x₂ rfl none)
  let x₄ := x₃.store 1 c "k" []
  let x₅ := x₄.finish 0 a₃.1
  let x₆ := x₅.store 2 c "k" []
  have hruns : Runs ["data", "HashMap"] (new Disk.empty) x₆ :=
    ((hfirst.trans (runs_store rfl hplace "k" [])).trans (runs_finish _ rfl)).trans
      (runs_store rfl hplace "k" [])
  have hresult : (c.store "k" [] x₅.disk).1 = .ok () := by
    have hsome : (c.store "k" [] x₅.disk).1.toOption = some () := by decide +kernel
    generalize (c.store "k" [] x₅.disk).1 = result at hsome ⊢
    rcases result with e | _
    · cases hsome
    · rfl
  let winner : Storing (List (Nat × Nat × Nat)) :=
    ⟨c, "k", [], .finished (c.store "k" [] x₅.disk).1⟩
  have hthere : x₆.storings 2 = some winner :=
    (storings_set x₅ 2 2 winner _).trans (if_pos rfl)
  have hwon : winner.HasWon := congrArg Attempt.finished hresult
  refine ⟨x₆, hruns, ⟨winner, hthere, hwon⟩, ?_⟩
  intro y hy
  obtain ⟨v, hv, hkept⟩ := (won_once hruns).2 2 winner hthere hwon
  cases hv
  exact (hkept y hy).2

end Contest

end RateHerald
