import RateHerald.Proofs.Url.Parameters
import RateHerald.Records.Disk

/-!
# What actions leave on a disk

A directory is seen through its `Disk.children`: the names and nodes that lie directly in it. What
is under a path in the directory is looked up among them, so everything that an action does to one
directory is told as what it does to a list.

The way to a directory is seen through `Disk.locate?`. It is enough to know that directories stay
where they are: then a way that was open stays open, `Disk.locate?_mono`.

## Main declarations

* `Disk.children`, `Disk.node?_child`, `Disk.children_put` and `Disk.children_write`.
* `Disk.IsOpen`, a directory with an open way to it, and `Disk.IsVacant`, a place where nothing is
  and where a directory can be made.
* `Disk.placeOf_join`: a name behind a path lies directly under it.
* `Disk.makeDirectories_of_isOpen`, `Disk.exists_makeDirectories` and `Disk.list_of_isVacant`.
* `Disk.Grows`: everything stays; `Disk.Spares`: everything stays but one file.
-/

namespace RateHerald.Disk

variable {d : Disk} {place : Place}

/-! ## Places by their paths -/

/-- A slash ends the names before it. -/
theorem placeOf_append_slash (before after : String) :
    placeOf (before ++ "/" ++ after) = placeOf before ++ placeOf after := by
  have hchars : (before ++ "/" ++ after).toList = before.toList ++ '/' :: after.toList := by simp
  rw [placeOf, hchars, Url.Form.splitAt_append, List.filter_append, List.map_append]
  rfl

theorem placeOf_of_name {name : String} (hslash : '/' ∉ name.toList) (hempty : name ≠ "")
    (hdot : name ≠ ".") : placeOf name = [name] := by
  have hkept : ∀ part ∈ [name.toList], (!part.isEmpty && part != ['.']) = true := by
    intro part hpart
    rw [List.mem_singleton.1 hpart, Bool.and_eq_true, Bool.not_eq_true', bne_iff_ne,
      List.isEmpty_eq_false_iff]
    exact ⟨by simpa using hempty, fun h => hdot (String.toList_inj.1 h)⟩
  rw [placeOf, Url.Form.splitAt_of_not_mem hslash, List.filter_eq_self.2 hkept]
  exact congrArg (fun text => [text]) String.ofList_toList

/-- A name behind a path lies directly under it. -/
theorem placeOf_join (path : String) {name : String} (hslash : '/' ∉ name.toList)
    (hempty : name ≠ "") (hdot : name ≠ ".") :
    placeOf (join path name) = placeOf path ++ [name] := by
  have hname := placeOf_of_name hslash hempty hdot
  rw [join]
  split
  · next hends =>
    obtain hnone | hends := Bool.or_eq_true_iff.1 hends
    · rw [String.isEmpty_iff.1 hnone, String.empty_append, hname]
      rfl
    · -- the path ends in a slash already
      obtain ⟨before, hbefore⟩ : ∃ before, before ++ "/" = path := by
        rw [← String.endsWith_toSlice, String.Slice.endsWith_string_iff] at hends
        obtain ⟨before, hbefore⟩ := hends
        exact ⟨String.ofList before, String.toList_inj.1 (by simpa using hbefore)⟩
      have hplace : placeOf path = placeOf before := by
        have hnothing := placeOf_append_slash before ""
        rwa [String.append_empty, hbefore, show placeOf "" = [] from rfl, List.append_nil]
          at hnothing
      rw [hplace, ← hbefore, placeOf_append_slash, hname]
  · rw [placeOf_append_slash, hname]

/-! ## Nodes -/

/-- What lies directly in a directory: names and nodes, in the order in which they were made. -/
def children (d : Disk) (place : Place) : List (String × Node) :=
  d.entries.filterMap fun (p, node) => (childName? place p).map fun name => (name, node)

theorem childName?_eq_some_iff {directory p : Place} {name : String} :
    childName? directory p = some name ↔ p = directory ++ [name] := by
  rw [childName?]
  constructor
  · intro h
    split at h
    · next hdrop =>
      obtain ⟨before, rfl⟩ := List.getLast?_eq_some_iff.1 h
      rw [← hdrop, List.dropLast_concat]
    · cases h
  · rintro rfl
    rw [List.dropLast_concat, if_pos rfl, List.getLast?_concat]

theorem childName?_child (directory : Place) (name : String) :
    childName? directory (directory ++ [name]) = some name :=
  childName?_eq_some_iff.2 rfl

theorem childName?_eq_none {directory p : Place} (h : ∀ name, p ≠ directory ++ [name]) :
    childName? directory p = none := by
  cases hc : childName? directory p with
  | none => rfl
  | some name => exact absurd (childName?_eq_some_iff.1 hc) (h name)

theorem node?_eq_lookup (d : Disk) {p : Place} (h : p ≠ []) : d.node? p = d.entries.lookup p := by
  rw [node?, if_neg h]

/-- What is under a name in a directory is found among its children. -/
theorem node?_child (d : Disk) (place : Place) (name : String) :
    d.node? (place ++ [name]) = (d.children place).lookup name := by
  rw [node?_eq_lookup d (by simp), children]
  induction d.entries with
  | nil => rfl
  | cons e rest ih =>
    obtain ⟨p, node⟩ := e
    by_cases hp : p = place ++ [name]
    · subst hp
      simp [childName?_child]
    · -- an entry for something else is passed over, whether it lies in the directory or not
      have hne : (place ++ [name] == p) = false := beq_eq_false_iff_ne.2 (Ne.symm hp)
      rw [List.lookup_cons, hne, List.filterMap_cons]
      cases hc : childName? place p with
      | none =>
        simp only [Option.map_none, hc]
        exact ih
      | some k =>
        have hk : (name == k) = false := beq_eq_false_iff_ne.2 fun hk =>
          hp (childName?_eq_some_iff.1 (hk ▸ hc))
        simp only [Option.map_some, hc, List.lookup_cons, hk]
        exact ih

/-! ## Putting and writing -/

theorem node?_put_of_some {p q : Place} {node m : Node} (h : d.node? p = some m) :
    (d.put q node).node? p = some m := by
  rw [node?] at h ⊢
  split
  · next hp => rwa [if_pos hp] at h
  · next hp =>
    rw [if_neg hp] at h
    rw [put, List.lookup_append, h, Option.some_or]

theorem node?_put_of_ne {p q : Place} {node : Node} (h : p ≠ q) :
    (d.put q node).node? p = d.node? p := by
  rw [node?, node?, put, List.lookup_append, List.lookup_cons, beq_eq_false_iff_ne.2 h]
  simp

theorem node?_put_self {q : Place} {node : Node} (h : d.node? q = none) :
    (d.put q node).node? q = some node := by
  rw [node?] at h ⊢
  split at h
  · cases h
  · next hq => rw [if_neg hq, put, List.lookup_append, h]; simp

theorem children_put (d : Disk) (place : Place) (name : String) (node : Node) :
    (d.put (place ++ [name]) node).children place = d.children place ++ [(name, node)] := by
  rw [children, put, List.filterMap_append, ← children]
  simp [childName?_child]

theorem children_put_of_ne {q : Place} {node : Node} (h : ∀ name, q ≠ place ++ [name]) :
    (d.put q node).children place = d.children place := by
  rw [children, put, List.filterMap_append, ← children]
  simp [childName?_eq_none h]

theorem node?_write_of_ne {p q : Place} {text : String} (h : p ≠ q) :
    (d.write q text).node? p = d.node? p := by
  rw [node?, node?, write]
  split
  · rfl
  · induction d.entries with
    | nil => rfl
    | cons e rest ih =>
      rw [List.map_cons, List.lookup_cons, List.lookup_cons, ih]
      by_cases he : e.1 = q
      · rw [if_pos he]
        have hpq : (p == e.1) = false := beq_eq_false_iff_ne.2 (he ▸ h)
        rw [hpq]
      · rw [if_neg he]

theorem children_write (d : Disk) (place : Place) (name text : String) :
    (d.write (place ++ [name]) text).children place =
      (d.children place).map fun (k, node) => if k = name then (k, .file text) else (k, node) := by
  rw [children, children, write, List.filterMap_map, List.map_filterMap]
  congr 1
  funext ⟨p, node⟩
  by_cases hp : p = place ++ [name]
  · subst hp
    simp [childName?_child]
  · cases hc : childName? place p with
    | none => simp [hp, hc]
    | some k =>
      have hk : k ≠ name := by
        rintro rfl
        exact hp (childName?_eq_some_iff.1 hc)
      simp [hp, hc, hk]

/-! ## Ways -/

/-- There is a directory, and the way to it is open. -/
def IsOpen (d : Disk) (place : Place) : Prop :=
  d.locate? place = .ok (some .directory)

theorem node?_of_locateFrom {done : Place} (h : d.locateFrom done place = .ok (some .directory)) :
    d.node? done = some .directory := by
  cases place with
  | nil =>
    rw [locateFrom] at h
    injection h
  | cons name rest =>
    rw [locateFrom] at h
    split at h
    · cases h
    · cases h
    · assumption

theorem locateFrom_cons {done : Place} (h : d.node? done = some .directory) (name : String)
    (rest : Place) : d.locateFrom done (name :: rest) =
      if name.utf8ByteSize > maxNameLength then .error .nameTooLong
      else d.locateFrom (done ++ [name]) rest := by
  rw [locateFrom, h]

theorem of_locateFrom_cons {done : Place} {name : String} {rest : Place}
    (h : d.locateFrom done (name :: rest) = .ok (some .directory)) :
    ¬name.utf8ByteSize > maxNameLength ∧
      d.locateFrom (done ++ [name]) rest = .ok (some .directory) := by
  rw [locateFrom_cons (node?_of_locateFrom h)] at h
  split at h
  · cases h
  · next hshort => exact ⟨hshort, h⟩

theorem locateFrom_append {done : Place} (h : d.locateFrom done place = .ok (some .directory))
    (rest : Place) : d.locateFrom done (place ++ rest) = d.locateFrom (done ++ place) rest := by
  induction place generalizing done with
  | nil => rw [List.nil_append, List.append_nil]
  | cons name place ih =>
    obtain ⟨hshort, hrest⟩ := of_locateFrom_cons h
    rw [List.cons_append, locateFrom_cons (node?_of_locateFrom h), if_neg hshort, ih hrest,
      List.append_assoc, List.singleton_append]

/-- What is found under a name in an open directory. -/
theorem locate?_child (h : d.IsOpen place) (name : String) : d.locate? (place ++ [name]) =
    if name.utf8ByteSize > maxNameLength then .error .nameTooLong
    else .ok (d.node? (place ++ [name])) := by
  have hnode : d.node? place = some .directory := by
    have hend := locateFrom_append h []
    rw [List.append_nil, ← locate?, h, List.nil_append, locateFrom] at hend
    injection hend with hend
    exact hend.symm
  rw [locate?, locateFrom_append h, List.nil_append, locateFrom, hnode]
  rfl

theorem IsOpen.of_append {rest : Place} (h : d.IsOpen (place ++ rest)) : d.IsOpen place := by
  suffices hfrom : ∀ p done : Place, d.locateFrom done (p ++ rest) = .ok (some .directory) →
      d.locateFrom done p = .ok (some .directory) from hfrom place [] h
  -- the way that was gone already grows while the rest of it shrinks
  intro p
  induction p with
  | nil =>
    intro done hdone
    rw [locateFrom, node?_of_locateFrom hdone]
  | cons name p ih =>
    intro done hdone
    obtain ⟨hshort, hrest⟩ := of_locateFrom_cons hdone
    rw [locateFrom_cons (node?_of_locateFrom hdone), if_neg hshort]
    exact ih _ hrest

/-- Where directories stay, open ways stay open. -/
theorem locateFrom_mono {d' : Disk} {done : Place}
    (hstay : ∀ q, d.node? q = some .directory → d'.node? q = some .directory)
    (h : d.locateFrom done place = .ok (some .directory)) :
    d'.locateFrom done place = .ok (some .directory) := by
  have hnode := hstay _ (node?_of_locateFrom h)
  induction place generalizing done with
  | nil => rw [locateFrom, hnode]
  | cons name rest ih =>
    obtain ⟨hshort, hrest⟩ := of_locateFrom_cons h
    rw [locateFrom_cons hnode, if_neg hshort]
    exact ih hrest (hstay _ (node?_of_locateFrom hrest))

theorem IsOpen.mono {d' : Disk} (h : d.IsOpen place)
    (hstay : ∀ q, d.node? q = some .directory → d'.node? q = some .directory) :
    d'.IsOpen place :=
  locateFrom_mono hstay h

theorem IsOpen.put (h : d.IsOpen place) (q : Place) (node : Node) : (d.put q node).IsOpen place :=
  h.mono fun _ => node?_put_of_some

theorem IsOpen.write (h : d.IsOpen place) {q : Place} {old : String}
    (hfile : d.node? q = some (.file old)) (text : String) : (d.write q text).IsOpen place := by
  refine h.mono fun p hp => ?_
  have hne : p ≠ q := by
    rintro rfl
    rw [hp] at hfile
    cases hfile
  rwa [node?_write_of_ne hne]

theorem list_of_isOpen (h : d.IsOpen place) : d.list place = .ok (d.children place) := by
  rw [list, h]
  rfl

/-! ## Making directories -/

/-- Nothing is at a place or in it, and directories can be made on the way there. -/
structure IsVacant (d : Disk) (place : Place) : Prop where
  /-- No name on the way is too long. -/
  short : ∀ name ∈ place, ¬name.utf8ByteSize > maxNameLength
  /-- No file is in the way. -/
  unblocked : ∀ q, q <+: place → ∀ text, d.node? q ≠ some (.file text)
  /-- Nothing is at the place. -/
  absent : d.node? place = none
  /-- Nothing is in the place. -/
  bare : d.children place = []

theorem isVacant_empty (hplace : place ≠ [])
    (hshort : ∀ name ∈ place, ¬name.utf8ByteSize > maxNameLength) : empty.IsVacant place where
  short := hshort
  unblocked q _ text := by
    rw [node?]
    split
    · intro h
      cases h
    · intro h
      cases h
  absent := by
    rw [node?, if_neg hplace]
    rfl
  bare := rfl

/-- A directory that is made in an open one is open. -/
theorem IsOpen.put_child {name : String} (h : d.IsOpen place)
    (hshort : ¬name.utf8ByteSize > maxNameLength) (hnone : d.node? (place ++ [name]) = none) :
    (d.put (place ++ [name]) .directory).IsOpen (place ++ [name]) := by
  have hopen := h.put (place ++ [name]) .directory
  rw [IsOpen, locate?_child hopen, if_neg hshort, node?_put_self hnone]

/-- Directories that are made one in another leave what is in the last of them as it was. -/
theorem exists_makeDirectoriesFrom {done : Place} (rest : Place) (h : d.IsOpen done)
    (hshort : ∀ name ∈ rest, ¬name.utf8ByteSize > maxNameLength)
    (hfree : ∀ q, q <+: rest → ∀ text, d.node? (done ++ q) ≠ some (.file text)) :
    ∃ d', d.makeDirectoriesFrom done rest = .ok d' ∧ d'.IsOpen (done ++ rest) ∧
      d'.children (done ++ rest) = d.children (done ++ rest) := by
  induction rest generalizing d done with
  | nil => exact ⟨d, rfl, by rwa [List.append_nil], rfl⟩
  | cons name rest ih =>
    have hlook := locate?_child h name
    rw [if_neg (hshort name List.mem_cons_self)] at hlook
    have hrest : ∀ k ∈ rest, ¬k.utf8ByteSize > maxNameLength := fun k hk =>
      hshort k (List.mem_cons_of_mem _ hk)
    have hway : done ++ name :: rest = done ++ [name] ++ rest := by simp
    rw [makeDirectoriesFrom, hlook, hway]
    rcases hnode : d.node? (done ++ [name]) with _ | _ | text
    · -- the directory is made: it is open, and it is none of the names in the last directory
      have hmade := h.put_child (hshort name List.mem_cons_self) hnode
      obtain ⟨d', hd', hopen', hsame⟩ := ih hmade hrest fun q hq text => by
        by_cases hq' : done ++ [name] ++ q = done ++ [name]
        · rw [hq', node?_put_self hnode]
          intro heq
          cases heq
        · rw [node?_put_of_ne hq', List.append_assoc]
          exact hfree (name :: q) (List.cons_prefix_cons.2 ⟨rfl, hq⟩) text
      refine ⟨d', hd', hopen', hsame.trans (children_put_of_ne fun k hk => ?_)⟩
      have hlen := congrArg List.length hk
      simp only [List.length_append, List.length_cons, List.length_nil] at hlen
      omega
    · have hopen : d.IsOpen (done ++ [name]) := by
        rw [IsOpen, hlook, hnode]
      exact ih hopen hrest fun q hq text => by
        rw [List.append_assoc]
        exact hfree (name :: q) (List.cons_prefix_cons.2 ⟨rfl, hq⟩) text
    · exact absurd hnode (hfree [name] (List.cons_prefix_cons.2 ⟨rfl, List.nil_prefix⟩) text)

theorem isOpen_root (d : Disk) : d.IsOpen [] := by
  rw [IsOpen, locate?, locateFrom, node?, if_pos rfl]

/-- Making a directory that is there changes nothing. -/
theorem makeDirectories_of_isOpen (h : d.IsOpen place) : d.makeDirectories place = .ok d := by
  suffices hfrom : ∀ rest done : Place, d.IsOpen (done ++ rest) →
      d.makeDirectoriesFrom done rest = .ok d from hfrom place [] h
  intro rest
  induction rest with
  | nil => exact fun _ _ => rfl
  | cons name rest ih =>
    intro done hopen
    have hway : done ++ name :: rest = done ++ [name] ++ rest := by simp
    rw [hway] at hopen
    rw [makeDirectoriesFrom, hopen.of_append]
    exact ih _ hopen

theorem exists_makeDirectories (h : d.IsVacant place) :
    ∃ d', d.makeDirectories place = .ok d' ∧ d'.IsOpen place ∧ d'.children place = [] := by
  obtain ⟨d', hd', hopen, hsame⟩ :=
    exists_makeDirectoriesFrom place d.isOpen_root h.short fun q hq => h.unblocked q hq
  exact ⟨d', hd', hopen, hsame.trans h.bare⟩

theorem list_of_isVacant (h : d.IsVacant place) : d.list place = .error .notFound := by
  suffices hfrom : ∀ rest done : Place, done ++ rest = place →
      d.locateFrom done rest = .ok none ∨ d.locateFrom done rest = .error .notFound by
    rcases hfrom place [] rfl with hnone | hgone
    · rw [list, locate?, hnone]
    · rw [list, locate?, hgone]
  -- either the whole way is open up to the place, or it ends earlier, where a directory is missing
  intro rest
  induction rest with
  | nil =>
    intro done hdone
    rw [List.append_nil] at hdone
    rw [locateFrom, hdone, h.absent]
    exact .inl rfl
  | cons name rest ih =>
    intro done hdone
    rw [locateFrom]
    rcases hnode : d.node? done with _ | _ | text
    · exact .inr rfl
    · have hname : name ∈ place := hdone ▸ List.mem_append_right done List.mem_cons_self
      rw [if_neg (h.short name hname)]
      exact ih _ (by rw [List.append_assoc]; exact hdone)
    · exact absurd hnode (h.unblocked done ⟨_, hdone⟩ text)

/-! ## What stays -/

theorem node?_of_locateFrom_eq {done : Place} {found : Option Node}
    (h : d.locateFrom done place = .ok found) : d.node? (done ++ place) = found := by
  induction place generalizing done with
  | nil =>
    rw [locateFrom] at h
    rw [List.append_nil]
    exact Except.ok.inj h
  | cons name rest ih =>
    rw [locateFrom] at h
    split at h
    · cases h
    · cases h
    · split at h
      · cases h
      · have hrest := ih h
        rwa [List.append_assoc] at hrest

theorem node?_of_locate? {found : Option Node} (h : d.locate? place = .ok found) :
    d.node? place = found :=
  node?_of_locateFrom_eq h

/-- Where directories stay, every way that could be gone can be gone still. -/
theorem locateFrom_of_stay {d' : Disk} {done : Place} {found : Option Node}
    (hstay : ∀ q, d.node? q = some .directory → d'.node? q = some .directory)
    (h : d.locateFrom done place = .ok found) :
    d'.locateFrom done place = .ok (d'.node? (done ++ place)) := by
  induction place generalizing done with
  | nil => rw [locateFrom, List.append_nil]
  | cons name rest ih =>
    rw [locateFrom] at h ⊢
    split at h
    · cases h
    · cases h
    · next hnode =>
      split at h
      · cases h
      · next hshort =>
        rw [hstay _ hnode]
        dsimp only
        rw [if_neg hshort, ih h, List.append_assoc]
        rfl

/-- All that is on a disk stays where it is. -/
def Grows (d d' : Disk) : Prop :=
  ∀ p node, d.node? p = some node → d'.node? p = some node

/-- All that is on a disk stays where it is, unless it is a file at one place. -/
def Spares (place : Place) (d d' : Disk) : Prop :=
  ∀ p node, p ≠ place ∨ node = .directory → d.node? p = some node → d'.node? p = some node

theorem Grows.spares {d' : Disk} (h : d.Grows d') (place : Place) : d.Spares place d' :=
  fun p node _ hnode => h p node hnode

theorem Spares.refl (place : Place) (d : Disk) : d.Spares place d :=
  fun _ _ _ hnode => hnode

/-- What is found elsewhere is found again. -/
theorem Spares.locate? {d' : Disk} {q : Place} {node : Node} (h : Spares place d d')
    (hne : q ≠ place) (hfound : d.locate? q = .ok (some node)) :
    d'.locate? q = .ok (some node) := by
  have hway := locateFrom_of_stay (fun p => h p .directory (.inr rfl)) hfound
  rw [List.nil_append, h q node (.inl hne) (node?_of_locate? hfound)] at hway
  exact hway

theorem Grows.locate? {d' : Disk} {node : Node} (h : d.Grows d')
    (hfound : d.locate? place = .ok (some node)) : d'.locate? place = .ok (some node) := by
  have hway := locateFrom_of_stay (fun p => h p .directory) hfound
  rw [List.nil_append, h place node (node?_of_locate? hfound)] at hway
  exact hway

theorem grows_put (d : Disk) (place : Place) (node : Node) : d.Grows (d.put place node) :=
  fun _ _ => node?_put_of_some

theorem grows_makeDirectoriesFrom {d' : Disk} {done rest : Place}
    (h : d.makeDirectoriesFrom done rest = .ok d') : d.Grows d' := by
  induction rest generalizing d done with
  | nil =>
    rw [makeDirectoriesFrom] at h
    cases h
    exact fun _ _ hnode => hnode
  | cons name rest ih =>
    rw [makeDirectoriesFrom] at h
    split at h
    · cases h
    · exact ih h
    · cases h
    · intro p node hnode
      exact ih h p node (node?_put_of_some hnode)

/-- A new file is where nothing was, and it is empty. -/
theorem of_create {d' : Disk} (h : d.create place = .ok d') :
    d.locate? place = .ok none ∧ d'.locate? place = .ok (some (.file "")) ∧ d.Grows d' := by
  rw [create] at h
  split at h
  · cases h
  · cases h
  · next hfree =>
    cases h
    have hgrows := grows_put d place (.file "")
    have hway := locateFrom_of_stay (fun p => hgrows p .directory) hfree
    rw [List.nil_append, node?_put_self (node?_of_locate? hfree)] at hway
    exact ⟨hfree, hway, hgrows⟩

theorem node?_write_self {old : String} (h : d.node? place = some (.file old)) (text : String) :
    (d.write place text).node? place = some (.file text) := by
  have hplace : place ≠ [] := by
    rintro rfl
    cases h
  rw [node?_eq_lookup _ hplace] at h ⊢
  rw [write]
  generalize d.entries = entries at h
  induction entries with
  | nil => cases h
  | cons e rest ih =>
    rw [List.lookup_cons] at h
    rw [List.map_cons, List.lookup_cons]
    by_cases he : e.1 = place
    · simp [he]
    · have hne : (place == e.1) = false := beq_eq_false_iff_ne.2 (Ne.symm he)
      rw [hne] at h
      rw [if_neg he, hne]
      exact ih h

/-- What is written into a file is in it, and nothing else is touched. -/
theorem of_write {old : String} (h : d.locate? place = .ok (some (.file old))) (text : String) :
    (d.write place text).locate? place = .ok (some (.file text)) ∧
      d.Spares place (d.write place text) := by
  have hnode := node?_of_locate? h
  have hspares : d.Spares place (d.write place text) := by
    intro p node hp hfound
    have hne : p ≠ place := by
      rcases hp with hne | rfl
      · exact hne
      · rintro rfl
        rw [hnode] at hfound
        cases hfound
    rwa [node?_write_of_ne hne]
  have hway := locateFrom_of_stay (fun p => hspares p .directory (.inr rfl)) h
  rw [List.nil_append, node?_write_self hnode] at hway
  exact ⟨hway, hspares⟩

theorem lookup_filter_ne {p q : Place} (h : p ≠ q) (entries : List (Place × Node)) :
    (entries.filter fun e => decide (e.1 ≠ q)).lookup p = entries.lookup p := by
  induction entries with
  | nil => rfl
  | cons e rest ih =>
    by_cases he : e.1 = q
    · have hpe : (p == e.1) = false := beq_eq_false_iff_ne.2 (he ▸ h)
      rw [List.filter_cons_of_neg (by simpa using he), List.lookup_cons, hpe, ih]
    · rw [List.filter_cons_of_pos (by simpa using he), List.lookup_cons, List.lookup_cons, ih]

/-- Nothing but a file is removed. -/
theorem spares_remove {d' : Disk} (h : d.remove place = .ok d') : d.Spares place d' := by
  rw [remove] at h
  split at h
  · cases h
  · cases h
  · cases h
  · next text hfile =>
    cases h
    intro p node hp hfound
    have hne : p ≠ place := by
      rcases hp with hne | rfl
      · exact hne
      · rintro rfl
        rw [node?_of_locate? hfile] at hfound
        cases hfound
    rw [node?] at hfound ⊢
    split
    · next hroot => rwa [if_pos hroot] at hfound
    · next hroot =>
      rw [if_neg hroot] at hfound
      exact (lookup_filter_ne hne d.entries).trans hfound

end RateHerald.Disk
