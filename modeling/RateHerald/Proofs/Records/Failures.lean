import RateHerald.Proofs.Records.Contest
import RateHerald.Proofs.Records.Runs

/-!
# Storings that fail

A storing may fail at every one of its steps: some of the directories were made and the next one
cannot be, the file cannot be created, the record cannot be encoded or reaches its file in part
only, and the file may even resist when it is to be removed again. Whatever happens, the disk is
the one from before with two things behind it: directories on the way to the collection, and the
file of the record as long as the storing holds it.

If the storing fails and the file is gone, only the directories are left. They are those that the
next storing would make anyway, so it comes to the same result as if nothing had been tried.

## Main declarations

* `Disk.Paves`: directories on the way to a place were made.
* `Disk.Ahead` and `Disk.Agrees`: what can be told apart of two disks.
* `Attempt.Step` and `Attempt.Runs`: a storing by itself, and how each of its steps may fail.
* `Attempt.Leaves`, the invariant, with the step lemma `Attempt.Leaves.step`.
* `Attempt.runs_confined`: which places a storing touches, and what is left if it fails.
-/

namespace RateHerald

/-! ## Directories that were made -/

namespace Disk

variable {d d' d'' : Disk} {place way : Place}

/-- Directories on the way to a place were made where nothing was, and nothing else happened. -/
def Paves (place : Place) (d d' : Disk) : Prop :=
  ∃ made : List Place, d'.entries = d.entries ++ made.map (fun p => (p, Node.directory)) ∧
    ∀ p ∈ made, p <+: place ∧ d.node? p = none

theorem Paves.refl (place : Place) (d : Disk) : d.Paves place d :=
  ⟨[], by simp, by simp⟩

theorem Paves.grows (h : d.Paves place d') : d.Grows d' := by
  obtain ⟨made, hentries, -⟩ := h
  intro p node hnode
  rw [node?] at hnode ⊢
  split at hnode
  · next hroot => rwa [if_pos hroot]
  · next hroot => rw [if_neg hroot, hentries, List.lookup_append, hnode, Option.some_or]

theorem Paves.trans (h : d.Paves place d') (h' : d'.Paves place d'') : d.Paves place d'' := by
  have hgrows := h.grows
  obtain ⟨made, hentries, hmade⟩ := h
  obtain ⟨more, hentries', hmore⟩ := h'
  refine ⟨made ++ more, ?_, ?_⟩
  · rw [hentries', hentries, List.map_append, List.append_assoc]
  · intro p hp
    rcases List.mem_append.1 hp with hin | hin
    · exact hmade p hin
    · obtain ⟨hway, hnone⟩ := hmore p hin
      refine ⟨hway, ?_⟩
      -- what is absent after more was made was absent before
      rw [Option.eq_none_iff_forall_ne_some]
      intro node hnode
      rw [hgrows p node hnode] at hnone
      cases hnone

theorem Paves.mono (h : d.Paves way d') (hway : way <+: place) : d.Paves place d' := by
  obtain ⟨made, hentries, hmade⟩ := h
  exact ⟨made, hentries, fun p hp => ⟨(hmade p hp).1.trans hway, (hmade p hp).2⟩⟩

theorem paves_put {p : Place} (hway : p <+: place) (h : d.node? p = none) :
    d.Paves place (d.put p .directory) := by
  refine ⟨[p], rfl, ?_⟩
  intro q hq
  rw [List.mem_singleton] at hq
  subst hq
  exact ⟨hway, h⟩

theorem paves_makeDirectoriesFrom {done rest : Place}
    (h : d.makeDirectoriesFrom done rest = .ok d') : d.Paves (done ++ rest) d' := by
  induction rest generalizing d done with
  | nil =>
    rw [makeDirectoriesFrom] at h
    cases h
    exact .refl _ _
  | cons name rest ih =>
    have hway : done ++ name :: rest = done ++ [name] ++ rest := by simp
    rw [makeDirectoriesFrom] at h
    rw [hway]
    split at h
    · cases h
    · exact ih h
    · cases h
    · next hfree =>
      have hput := paves_put (List.prefix_append (done ++ [name]) rest) (node?_of_locate? hfree)
      exact hput.trans (ih h)

/-- What is under a path after directories were made. -/
theorem Paves.node? (h : d.Paves place d') (p : Place) :
    d'.node? p = d.node? p ∨
      (p <+: place ∧ d.node? p = none ∧ d'.node? p = some .directory) := by
  have hgrows := h.grows
  obtain ⟨made, hentries, hmade⟩ := h
  rcases hnode : d.node? p with _ | node
  · rcases hnode' : d'.node? p with _ | node'
    · exact .inl rfl
    · -- it is one of the directories that were made
      have hroot : p ≠ [] := by
        rintro rfl
        cases hnode
      rw [node?_eq_lookup _ hroot] at hnode hnode'
      rw [hentries, List.lookup_append, hnode, Option.none_or] at hnode'
      obtain ⟨before, after, hsplit, -⟩ := List.lookup_eq_some_iff.1 hnode'
      have hmem : (p, node') ∈ made.map fun p => (p, Node.directory) := by simp [hsplit]
      obtain ⟨q, hq, heq⟩ := List.mem_map.1 hmem
      cases heq
      exact .inr ⟨(hmade p hq).1, rfl, rfl⟩
  · exact .inl (hgrows p node hnode)

theorem Paves.file_iff (h : d.Paves place d') (p : Place) (text : String) :
    d'.node? p = some (.file text) ↔ d.node? p = some (.file text) := by
  rcases h.node? p with hsame | ⟨-, hnone, hmade⟩
  · rw [hsame]
  · rw [hnone, hmade]
    simp

/-- Nothing was made in the place itself. -/
theorem Paves.children (h : d.Paves place d') : d'.children place = d.children place := by
  obtain ⟨made, hentries, hmade⟩ := h
  rw [Disk.children, hentries, List.filterMap_append]
  refine (congrArg (d.children place ++ ·) (List.filterMap_eq_nil_iff.2 ?_)).trans
    (List.append_nil _)
  intro e he
  obtain ⟨p, hp, rfl⟩ := List.mem_map.1 he
  have hfar : ∀ name, p ≠ place ++ [name] := by
    rintro name rfl
    have hlen := (hmade _ hp).1.length_le
    rw [List.length_append, List.length_singleton] at hlen
    omega
  simp [childName?_eq_none hfar]

/-! ## Disks that cannot be told apart -/

/-- The same is under every path. -/
def Agrees (d d' : Disk) : Prop :=
  ∀ p, d'.node? p = d.node? p

/-- The same is under every path, but for directories on the way to a place. -/
def Ahead (place : Place) (d d' : Disk) : Prop :=
  ∀ p, d'.node? p = d.node? p ∨ (p <+: place ∧ d.node? p = none ∧ d'.node? p = some .directory)

theorem Agrees.locate? (h : d.Agrees d') (p : Place) : d'.locate? p = d.locate? p := by
  suffices hfrom : ∀ rest done : Place, d'.locateFrom done rest = d.locateFrom done rest from
    hfrom p []
  intro rest
  induction rest with
  | nil =>
    intro done
    rw [locateFrom, locateFrom, h done]
  | cons name rest ih =>
    intro done
    rw [locateFrom, locateFrom, h done, ih]

theorem Ahead.grows (h : d.Ahead place d') : d.Grows d' := by
  intro p node hnode
  rcases h p with hsame | ⟨-, hnone, -⟩
  · rw [hsame, hnode]
  · rw [hnone] at hnode
    cases hnode

/-- Once the way is open nothing is ahead any more. -/
theorem Ahead.agrees (h : d.Ahead place d') (hopen : d.IsOpen place) : d.Agrees d' := by
  intro p
  rcases h p with hsame | ⟨⟨rest, hrest⟩, hnone, -⟩
  · exact hsame
  · rw [← hrest] at hopen
    rw [node?_of_locate? hopen.of_append] at hnone
    cases hnone

/-- A directory that is made by the one who is behind. -/
theorem Ahead.put {p : Place} (h : d.Ahead place d') (hnone : d.node? p = none)
    (hmade : d'.node? p = some .directory) : (d.put p .directory).Ahead place d' := by
  intro q
  by_cases hq : q = p
  · subst hq
    exact .inl (by rw [hmade, node?_put_self hnone])
  · rw [node?_put_of_ne hq]
    exact h q

/-- A directory that is made by both. -/
theorem Ahead.put_both {p : Place} (h : d.Ahead place d') (hnone : d.node? p = none)
    (hnone' : d'.node? p = none) :
    (d.put p .directory).Ahead place (d'.put p .directory) := by
  intro q
  by_cases hq : q = p
  · subst hq
    exact .inl (by rw [node?_put_self hnone, node?_put_self hnone'])
  · rw [node?_put_of_ne hq, node?_put_of_ne hq]
    exact h q

/-- Whoever is behind makes the directories that are absent, and then nobody is ahead; if it is
refused to him it is refused to the other one as well. -/
theorem Ahead.makeDirectoriesFrom {done rest : Place} (h : d.Ahead place d')
    (hway : done ++ rest = place) (hopen : d.IsOpen done) :
    (∃ e, d.makeDirectoriesFrom done rest = .error e ∧
      d'.makeDirectoriesFrom done rest = .error e) ∨
    ∃ d₁ d₁', d.makeDirectoriesFrom done rest = .ok d₁ ∧
      d'.makeDirectoriesFrom done rest = .ok d₁' ∧ d₁.Agrees d₁' := by
  -- by induction on the way that is left; up to `done` it is open on both disks
  induction rest generalizing d d' done with
  | nil =>
    rw [List.append_nil] at hway
    subst hway
    exact .inr ⟨d, d', rfl, rfl, h.agrees hopen⟩
  | cons name rest ih =>
    have hopen' : d'.IsOpen done := hopen.mono fun q => h.grows q .directory
    have hnext : done ++ [name] ++ rest = place := by rw [← hway, List.append_assoc]; rfl
    rw [Disk.makeDirectoriesFrom, Disk.makeDirectoriesFrom, locate?_child hopen,
      locate?_child hopen']
    by_cases hlong : name.utf8ByteSize > maxNameLength
    · rw [if_pos hlong, if_pos hlong]
      exact .inl ⟨.nameTooLong, rfl, rfl⟩
    · rw [if_neg hlong, if_neg hlong]
      have hsame := h (done ++ [name])
      have hfound := locate?_child hopen name
      rw [if_neg hlong] at hfound
      rcases hnode : d.node? (done ++ [name]) with _ | _ | text
      · rw [hnode] at hsame
        have hchild := hopen.put_child hlong hnode
        rcases hsame with hnone | ⟨-, -, hmade⟩
        · rw [hnone]
          exact ih (h.put_both hnode hnone) hnext hchild
        · rw [hmade]
          exact ih (h.put hnode hmade) hnext hchild
      · rw [h.grows _ _ hnode]
        rw [hnode] at hfound
        exact ih h hnext hfound
      · rw [h.grows _ _ hnode]
        exact .inl ⟨_, rfl, rfl⟩

theorem Paves.makeDirectories (h : d.Paves place d') :
    (∃ e, d.makeDirectories place = .error e ∧ d'.makeDirectories place = .error e) ∨
    ∃ d₁ d₁', d.makeDirectories place = .ok d₁ ∧ d'.makeDirectories place = .ok d₁' ∧
      d₁.Agrees d₁' := by
  have hahead : d.Ahead place d' := h.node?
  exact hahead.makeDirectoriesFrom rfl d.isOpen_root

/-! ## The last thing on a disk -/

theorem ne_of_node?_eq_none {p : Place} (h : d.node? p = none) : ∀ e ∈ d.entries, e.1 ≠ p := by
  rintro e he rfl
  rw [node?] at h
  split at h
  · cases h
  · simpa using List.lookup_eq_none_iff.1 h e he

/-- A file that has just been put on a disk is written anew. -/
theorem write_put {p : Place} (h : d.node? p = none) (node : Node) (text : String) :
    (d.put p node).write p text = d.put p (.file text) := by
  have hid : ∀ e ∈ d.entries, (if e.1 = p then (e.1, Node.file text) else e) = e :=
    fun e he => if_neg (ne_of_node?_eq_none h e he)
  rw [write, put, List.map_append, put]
  refine congrArg Disk.mk (congrArg₂ (· ++ ·) ?_ ?_)
  · exact (List.map_congr_left hid).trans (List.map_id' _)
  · simp

/-- A file that has just been put on a disk is gone when it is removed. -/
theorem eq_of_remove_put {p : Place} {node : Node} (h : d.node? p = none)
    (hremove : (d.put p node).remove p = .ok d') : d' = d := by
  rw [remove] at hremove
  split at hremove
  · cases hremove
  · cases hremove
  · cases hremove
  · rw [Except.ok.injEq] at hremove
    rw [← hremove, put, List.filter_append]
    refine congrArg Disk.mk ((congrArg₂ (· ++ ·) ?_ ?_).trans (List.append_nil d.entries))
    · exact List.filter_eq_self.2 fun e he => decide_eq_true (ne_of_node?_eq_none h e he)
    · simp

theorem create_eq {p : Place} (h : d.create p = .ok d') :
    d.node? p = none ∧ d' = d.put p (.file "") := by
  rw [create] at h
  split at h
  · cases h
  · cases h
  · next hfree =>
    cases h
    exact ⟨node?_of_locate? hfree, rfl⟩

/-- Whether a file can be created does not depend on what cannot be told apart. -/
theorem Agrees.create (h : d.Agrees d') (p : Place) :
    (d'.create p).map (fun _ => ()) = (d.create p).map fun _ => () := by
  rw [Disk.create, Disk.create, h.locate?]
  split <;> rfl

end Disk

/-! ## Keys -/

namespace Collection

variable {α : Type} {c : Collection α} {key : String} {item : α} {d d' : Disk}

/-- The key is no plain name: what it names could lie elsewhere than directly in the directory. -/
def Strays (key : String) : Prop :=
  key = "" ∨ key = "." ∨ key = ".." ∨ ∃ ch ∈ key.toList, ch = '/' ∨ ch = '\\' ∨ ch = '\x00'

theorem isPlainKey_iff : isPlainKey key = true ↔ ¬Strays key := by
  have hzero : ∀ ch : Char, ch.toNat = 0 ↔ ch = '\x00' := by
    intro ch
    constructor
    · intro h
      rw [← Char.ofNat_toNat ch, h]
    · rintro rfl
      rfl
  rw [isPlainKey, Strays]
  simp only [Bool.and_eq_true, Bool.not_eq_true', String.isEmpty_eq_false_iff, bne_iff_ne, ne_eq,
    List.all_eq_true, hzero, not_or, not_exists, not_and, and_assoc]

/-- The path of a record leads to its place if the key is a plain name. -/
theorem placeOf_pathOf (c : Collection α) (h : ¬Strays key) :
    Disk.placeOf (c.pathOf key) = c.placeOf key := by
  simp only [Strays, not_or, not_exists, not_and] at h
  obtain ⟨hempty, hdot, -, hchars⟩ := h
  exact Disk.placeOf_join c.directory (fun hslash => (hchars '/' hslash).1 rfl) hempty hdot

/-- How a storing ends that is about to create its file. -/
theorem finish_create (c : Collection α) (key : String) (item : α) (d : Disk) :
    (Attempt.create.finish c key item d).1 =
      match (d.create (c.placeOf key)).map fun _ => () with
      | .ok () => (c.content item).mapError (.encode (c.pathOf key)) |>.map fun _ => ()
      | .error .exists => .error (.alreadyExists key (c.pathOf key))
      | .error e => .error (.disk "creating file" (c.pathOf key) e) := by
  rw [Attempt.finish, Attempt.next]
  rcases hcreate : d.create (c.placeOf key) with e | d'
  · cases e <;> simp [Attempt.finish, Except.map]
  · rcases hcontent : c.content item with text | text
    · -- the file has been created, so it can be removed
      have hfile := (Disk.of_create hcreate).2.1
      simp only [Option.map_none, Attempt.finish, Attempt.next, hcontent, Disk.remove, hfile]
      rfl
    · simp only [Option.map_none, Attempt.finish, Attempt.next, hcontent]
      rfl

/-- Directories that were made beforehand make no difference to a storing. -/
theorem store_of_paves (h : d.Paves c.place d') (key : String) (item : α) :
    (c.store key item d').1 = (c.store key item d).1 := by
  by_cases hplain : isPlainKey key = true
  · rw [store, store, Attempt.finish, Attempt.finish, Attempt.next, Attempt.next, if_pos hplain,
      if_pos hplain, Attempt.finish, Attempt.finish, Attempt.next, Attempt.next]
    rcases h.makeDirectories with ⟨e, hd, hd'⟩ | ⟨d₁, d₁', hd, hd', hagrees⟩
    · simp [hd, hd', Attempt.finish]
    · simp only [hd, hd', Option.map_none]
      rw [finish_create, finish_create, hagrees.create]
  · rw [Bool.not_eq_true] at hplain
    rw [store_of_not_plain hplain, store_of_not_plain hplain]

end Collection

/-! ## One step -/

namespace Attempt

variable {α : Type} {c : Collection α} {key : String} {item : α} {d d' : Disk} {a : Attempt}
  {x y : Attempt × Disk}

/-- One step of a storing that nobody disturbs. -/
inductive Step (c : Collection α) (key : String) (item : α) :
    Attempt × Disk → Attempt × Disk → Prop where
  /-- The next step is taken, or it fails. -/
  | proceed (a : Attempt) (d : Disk) (fault : Option DiskFault) :
      Step c key item (a, d) (a.next c key item fault d)
  /-- Some of the directories are made, one in another. -/
  | pave {way : Place} (hway : way <+: c.place) {d d' : Disk}
      (hdisk : d.makeDirectories way = .ok d') :
      Step c key item (.makeDirectory, d) (.makeDirectory, d')
  /-- A part of the record reaches the file. -/
  | trickle (d : Disk) (text : String) :
      Step c key item (.write, d) (.write, d.write (c.placeOf key) text)

/-- Any number of steps. -/
abbrev Runs (c : Collection α) (key : String) (item : α) :
    Attempt × Disk → Attempt × Disk → Prop :=
  Relation.ReflTransGen (Step c key item)

/-- The file has been given up, because it could not be removed. -/
def IsStranded (c : Collection α) (key : String) (a : Attempt) : Prop :=
  ∃ cause, a = .finished (.error (.disk "removing partial file" (c.pathOf key) cause))

/-- What a storing leaves on a disk when it has come somewhere. -/
inductive Leaves (c : Collection α) (key : String) (d : Disk) : Attempt → Disk → Prop where
  /-- Nothing but directories on the way to the collection. -/
  | directories {a : Attempt} {d' : Disk} (ha : a.isHolder = false) (h : d.Paves c.place d') :
      Leaves c key d a d'
  /-- Behind the directories there is the file, where nothing was. -/
  | file {a : Attempt} {d' : Disk} (ha : a.isHolder = true ∨ IsStranded c key a)
      (h : d.Paves c.place d') (hnone : d'.node? (c.placeOf key) = none) (text : String) :
      Leaves c key d a (d'.put (c.placeOf key) (.file text))

/-- A storing without a file makes a directory, or creates its file, or does nothing. -/
theorem leaves_of_deed {a' : Attempt} {d'' : Disk} (hpaves : d.Paves c.place d')
    (ha : a.isHolder = false) (h : Deed c key item d' a a' d'') : Leaves c key d a' d'' := by
  cases h with
  | pass _ hnone => exact .directories hnone hpaves
  | makeDirectory hmake =>
    exact .directories rfl (hpaves.trans (Disk.paves_makeDirectoriesFrom hmake))
  | create hcreate =>
    obtain ⟨hnone, rfl⟩ := Disk.create_eq hcreate
    exact .file (.inl rfl) hpaves hnone ""
  | _ => cases ha

/-- A storing with a file writes it, or removes it, or gives it up. -/
theorem leaves_of_isHolder (hpaves : d.Paves c.place d') (hnone : d'.node? (c.placeOf key) = none)
    (text : String) (ha : a.isHolder = true) (fault : Option DiskFault) :
    Leaves c key d (a.next c key item fault (d'.put (c.placeOf key) (.file text))).1
      (a.next c key item fault (d'.put (c.placeOf key) (.file text))).2 := by
  cases a with
  | write =>
    rcases hcontent : c.content item with reason | content
    · simp only [next, hcontent]
      exact .file (.inl rfl) hpaves hnone text
    · rcases fault with _ | fault
      · simp only [next, hcontent]
        rw [Disk.write_put hnone]
        exact .file (.inl rfl) hpaves hnone content
      · simp only [next, hcontent]
        rw [Disk.write_put hnone]
        exact .file (.inl rfl) hpaves hnone fault.written
  | cleanUp cause =>
    rw [next]
    split
    · next hremove =>
      rw [Disk.eq_of_remove_put hnone hremove]
      exact .directories rfl hpaves
    · exact .file (.inr ⟨_, rfl⟩) hpaves hnone text
    · exact .file (.inr ⟨_, rfl⟩) hpaves hnone text
  | finished result => exact .file (.inl ha) hpaves hnone text
  | _ => cases ha

/-- Whatever one step comes to, a storing leaves what it may leave. -/
theorem Leaves.step (h : Leaves c key d x.1 x.2) (hstep : Step c key item x y) :
    Leaves c key d y.1 y.2 := by
  cases hstep with
  | proceed a d' fault =>
    cases h with
    | directories ha hpaves => exact leaves_of_deed hpaves ha (deed_next c key item fault _ _)
    | file ha hpaves hnone text =>
      rcases ha with hholder | ⟨cause, rfl⟩
      · exact leaves_of_isHolder hpaves hnone text hholder fault
      · exact .file (.inr ⟨cause, rfl⟩) hpaves hnone text
  | pave hway hdisk =>
    cases h with
    | directories _ hpaves =>
      exact .directories rfl (hpaves.trans ((Disk.paves_makeDirectoriesFrom hdisk).mono hway))
    | file ha =>
      -- there is no file yet while directories are made
      rcases ha with hholder | ⟨cause, hstranded⟩
      · cases hholder
      · cases hstranded
  | trickle d' text =>
    cases h with
    | directories ha => cases ha
    | file _ hpaves hnone old =>
      have hwritten : Leaves c key d .write _ := .file (.inl rfl) hpaves hnone text
      rwa [← Disk.write_put hnone (.file old) text] at hwritten

/-! ## All steps -/

theorem Runs.leaves (h : Runs c key item (.start, d) x) : Leaves c key d x.1 x.2 := by
  induction h with
  | refl => exact .directories rfl (.refl _ d)
  | tail _ hstep ih => exact ih.step hstep

/-- A storing under a key that is refused comes nowhere. -/
theorem Runs.of_not_plain (hplain : Collection.isPlainKey key = false)
    (h : Runs c key item (.start, d) x) :
    x = (.start, d) ∨ x = (.finished (.error (.invalidKey key)), d) := by
  induction h with
  | refl => exact .inl rfl
  | tail _ hstep ih =>
    rcases ih with rfl | rfl
    · cases hstep with
      | proceed _ _ fault =>
        right
        rw [next, if_neg (Bool.eq_false_iff.1 hplain)]
    · cases hstep with
      | proceed _ _ fault => exact .inr rfl

/-- A storing that is told to fail nowhere. -/
theorem runs_finish (c : Collection α) (key : String) (item : α) (a : Attempt) (d : Disk) :
    Runs c key item (a, d) (.finished (a.finish c key item d).1, (a.finish c key item d).2) := by
  -- by induction on the steps that are left
  induction hleft : a.stepsLeft using Nat.strongRecOn generalizing a d with
  | ind n ih =>
    by_cases hend : a.stepsLeft = 0
    · obtain ⟨result, rfl⟩ := eq_finished_of_stepsLeft hend
      rw [finish]
    · have hless := stepsLeft_next c key item none d a hend
      rw [finish_of_stepsLeft hend]
      exact .head (.proceed a d none) (ih _ (hleft ▸ hless) _ _ rfl)

/-- All that is on the disk afterwards. -/
theorem Leaves.entries (h : Leaves c key d a d') :
    ∃ (made : List Place) (own : Option String),
      d'.entries = d.entries ++ made.map (fun p => (p, Node.directory)) ++
        own.toList.map (fun text => (c.place ++ [key], Node.file text)) ∧
      (∀ p ∈ made, p <+: c.place ∧ d.node? p = none) ∧
      (own ≠ none → d.node? (c.place ++ [key]) = none) := by
  cases h with
  | directories _ hpaves =>
    obtain ⟨made, hentries, hmade⟩ := hpaves
    exact ⟨made, none, by simp [hentries], hmade, by simp⟩
  | file _ hpaves hnone text =>
    have hgrows := hpaves.grows
    obtain ⟨made, hentries, hmade⟩ := hpaves
    refine ⟨made, some text, ?_, hmade, ?_⟩
    · rw [← hentries]
      rfl
    · intro _
      rw [Option.eq_none_iff_forall_ne_some]
      intro node hnode
      rw [Collection.placeOf, hgrows _ node hnode] at hnone
      cases hnone

/-- A storing that has failed, and not because its file could not be removed, has left nothing but
directories. -/
theorem Leaves.paves_of_failed {e : StoreError} (h : Leaves c key d (.finished (.error e)) d')
    (hremoved : ∀ cause, e ≠ .disk "removing partial file" (c.pathOf key) cause) :
    d.Paves c.place d' := by
  cases h with
  | directories _ hpaves => exact hpaves
  | file hheld =>
    rcases hheld with hholder | ⟨cause, hstranded⟩
    · cases hholder
    · cases hstranded
      exact absurd rfl (hremoved cause)

/-- Whatever the disk is like, and whichever steps of a storing fail: under a key that is no plain
name nothing is stored and the disk is as before. Any other key behind the path of the collection
names a place directly in it, and what is put on the disk are directories on the way to the
collection and its own, and the file of the record at that place, where nothing was. If the storing
fails, though not at removing its file, all files are those from before, and to store something then
comes to the same result as if it had not been tried. A storing that nobody tells to fail is one of
these. -/
theorem runs_confined (c : Collection α) (key : String) (item : α) (d : Disk) :
    Runs c key item (.start, d) (.finished (c.store key item d).1, (c.store key item d).2) ∧
    ∀ a d', Runs c key item (.start, d) (a, d') →
      (Collection.Strays key →
        d' = d ∧ (a = .start ∨ a = .finished (.error (.invalidKey key)))) ∧
      (¬Collection.Strays key → Disk.placeOf (c.pathOf key) = c.place ++ [key] ∧
        ∃ (made : List Place) (own : Option String),
          d'.entries = d.entries ++ made.map (fun p => (p, Node.directory)) ++
            own.toList.map (fun text => (c.place ++ [key], Node.file text)) ∧
          (∀ p ∈ made, p <+: c.place ∧ d.node? p = none) ∧
          (own ≠ none → d.node? (c.place ++ [key]) = none)) ∧
      ∀ e, a = .finished (.error e) →
        (∀ cause, e ≠ .disk "removing partial file" (c.pathOf key) cause) →
        (∀ p text, d'.node? p = some (.file text) ↔ d.node? p = some (.file text)) ∧
        d'.children c.place = d.children c.place ∧
        ∀ key' item', (c.store key' item' d').1 = (c.store key' item' d).1 := by
  refine ⟨runs_finish c key item .start d, ?_⟩
  intro a d' h
  refine ⟨?_, ?_, ?_⟩
  · intro hstrays
    have hplain : Collection.isPlainKey key = false := by
      rw [← Bool.not_eq_true, Collection.isPlainKey_iff, not_not]
      exact hstrays
    rcases h.of_not_plain hplain with heq | heq
    · cases heq
      exact ⟨rfl, .inl rfl⟩
    · cases heq
      exact ⟨rfl, .inr rfl⟩
  · exact fun hplain => ⟨Collection.placeOf_pathOf c hplain, h.leaves.entries⟩
  · rintro e rfl hremoved
    have hpaves := h.leaves.paves_of_failed hremoved
    exact ⟨hpaves.file_iff, hpaves.children, Collection.store_of_paves hpaves⟩

/-- Why a storing failed that came to its end without success. -/
def failure? : Attempt → Option StoreError
  | .finished (.error e) => some e
  | _ => none

theorem eq_of_failure? {a : Attempt} {e : StoreError} (h : a.failure? = some e) :
    a = .finished (.error e) := by
  unfold failure? at h
  split at h
  · rw [Option.some_inj] at h
    rw [h]
  · cases h

/-- The device fails while a record is written, and half of it is in the file already. The directory
stays, the file does not, and the record can be stored after that. -/
theorem runs_confined_of_broken_disk :
    let c := Collection.below Codec.table "data"
    ∃ d', Runs c "k" [] (.start, Disk.empty) (.finished (.error
        (.disk "writing file" "data/HashMap/k" .inputOutput)), d') ∧
      d'.children c.place = [] ∧ d'.node? c.place = some .directory ∧
      (c.store "k" [] d').1 = .ok () := by
  intro c
  let x₁ := Attempt.start.next c "k" [] none Disk.empty
  let x₂ := x₁.1.next c "k" [] none x₁.2
  let x₃ := x₂.1.next c "k" [] none x₂.2
  let x₄ := x₃.1.next c "k" [] (some ⟨.inputOutput, "\x7b"⟩) x₃.2
  let x₅ := x₄.1.next c "k" [] none x₄.2
  have hruns : Runs c "k" [] (.start, Disk.empty) x₅ :=
    ((((Relation.ReflTransGen.single (.proceed .start Disk.empty none)).tail
      (.proceed x₁.1 x₁.2 none)).tail (.proceed x₂.1 x₂.2 none)).tail
      (.proceed x₃.1 x₃.2 (some ⟨.inputOutput, "\x7b"⟩))).tail (.proceed x₄.1 x₄.2 none)
  have hfailed : x₅.1 =
      .finished (.error (.disk "writing file" "data/HashMap/k" .inputOutput)) := by
    apply eq_of_failure?
    decide +kernel
  have hleft : x₅.2 = ⟨[(["data"], .directory), (["data", "HashMap"], .directory)]⟩ := by
    decide +kernel
  have hstored : (c.store "k" [] Disk.empty).1 = .ok () := by
    have hsome : (c.store "k" [] Disk.empty).1.toOption = some () := by decide +kernel
    generalize (c.store "k" [] Disk.empty).1 = result at hsome ⊢
    rcases result with e | _
    · cases hsome
    · rfl
  have hends : Runs c "k" [] (.start, Disk.empty) (.finished (.error
      (.disk "writing file" "data/HashMap/k" .inputOutput)), x₅.2) := by
    rw [← hfailed]
    exact hruns
  obtain ⟨-, -, hspared⟩ := (runs_confined c "k" [] Disk.empty).2 _ _ hends
  obtain ⟨-, hchildren, hagain⟩ := hspared _ rfl (by simp)
  refine ⟨x₅.2, hends, hchildren.trans rfl, ?_, (hagain "k" []).trans hstored⟩
  rw [hleft]
  decide +kernel

end Attempt

end RateHerald
