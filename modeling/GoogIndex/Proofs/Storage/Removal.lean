/-
  Proofs/Storage/Removal.lean --- a tree and the same tree without one of its files.

  Taking a file away changes what leads to the file, and nothing else.  Entries of
  folders are looked through in their order, so the two trees are also compared entry
  by entry: `Pruned` says that two sequences of entries differ in one file only.
-/
import GoogIndex.Proofs.Storage.Write

set_option autoImplicit false

namespace GoogIndex.Storage

/-! ## Well-formed storage -/

namespace Folder

/-- Every entry has a proper name, and a name stands in its folder once. -/
def WellFormed : Folder → Prop
  | .empty => True
  | .file name _ _ rest => IsName name ∧ rest.find? name = none ∧ rest.WellFormed
  | .link name _ rest => IsName name ∧ rest.find? name = none ∧ rest.WellFormed
  | .folder name _ inner rest =>
      IsName name ∧ rest.find? name = none ∧ inner.WellFormed ∧ rest.WellFormed

instance decidableWellFormed : (f : Folder) → Decidable f.WellFormed
  | .empty => inferInstanceAs (Decidable True)
  | .file name _ _ rest =>
      have := decidableWellFormed rest
      inferInstanceAs (Decidable (IsName name ∧ rest.find? name = none ∧ rest.WellFormed))
  | .link name _ rest =>
      have := decidableWellFormed rest
      inferInstanceAs (Decidable (IsName name ∧ rest.find? name = none ∧ rest.WellFormed))
  | .folder name _ inner rest =>
      have := decidableWellFormed inner
      have := decidableWellFormed rest
      inferInstanceAs
        (Decidable (IsName name ∧ rest.find? name = none ∧ inner.WellFormed ∧ rest.WellFormed))

theorem wellFormed_of_find? {f inner : Folder} (h : f.WellFormed) {name : Text} {a : Attributes}
    (hfind : f.find? name = some (.folder a inner)) : inner.WellFormed := by
  induction f with
  | empty => cases hfind
  | file n b content rest ih =>
      rw [find?] at hfind
      split at hfind
      · cases hfind
      · exact ih h.2.2 hfind
  | link n target rest ih =>
      rw [find?] at hfind
      split at hfind
      · cases hfind
      · exact ih h.2.2 hfind
  | folder n b deeper rest _ ih =>
      rw [find?] at hfind
      split at hfind
      · cases hfind
        exact h.2.2.1
      · exact ih h.2.2.2 hfind

/-- All names in a folder, at any depth. -/
def allNames : Folder → List Text
  | .empty => []
  | .file name _ _ rest => name :: rest.allNames
  | .link name _ rest => name :: rest.allNames
  | .folder name _ inner rest => name :: (inner.allNames ++ rest.allNames)

theorem allNames_of_find? {f inner : Folder} {name n : Text} {a : Attributes}
    (hfind : f.find? name = some (.folder a inner)) (hn : n ∈ inner.allNames) :
    n ∈ f.allNames := by
  induction f with
  | empty => cases hfind
  | file m b content rest ih =>
      rw [find?] at hfind
      split at hfind
      · cases hfind
      · exact List.mem_cons_of_mem m (ih hfind)
  | link m target rest ih =>
      rw [find?] at hfind
      split at hfind
      · cases hfind
      · exact List.mem_cons_of_mem m (ih hfind)
  | folder m b deeper rest _ ih =>
      rw [find?] at hfind
      split at hfind
      · cases hfind
        exact List.mem_cons_of_mem m (List.mem_append_left _ hn)
      · exact List.mem_cons_of_mem m (List.mem_append_right _ (ih hfind))

/-- In a well-formed folder an entry that is taken out is gone. -/
theorem find?_erase_self {f : Folder} (h : f.WellFormed) (name : Text) :
    (f.erase name).find? name = none := by
  induction f with
  | empty => rfl
  | file n b content rest ih =>
      by_cases hn : n = name
      · subst hn
        simpa [erase] using h.2.1
      · simpa [erase, find?, hn] using ih h.2.2
  | link n target rest ih =>
      by_cases hn : n = name
      · subst hn
        simpa [erase] using h.2.1
      · simpa [erase, find?, hn] using ih h.2.2
  | folder n b deeper rest _ ih =>
      by_cases hn : n = name
      · subst hn
        simpa [erase] using h.2.1
      · simpa [erase, find?, hn] using ih h.2.2.2

/-! ## Entries with and without a file -/

/-- The second folder has the entries of the first, without the file that stands at a
location below it. -/
inductive Pruned : Location → Folder → Folder → Prop where
  | here (name : Text) (a : Attributes) (content : List UInt8) (rest : Folder) :
      Pruned [name] (.file name a content rest) rest
  | inside {more : Location} {inner inner' : Folder} (name : Text) (a a' : Attributes)
      (rest : Folder) (deeper : Pruned more inner inner') :
      Pruned (name :: more) (.folder name a inner rest) (.folder name a' inner' rest)
  | file {name : Text} {more : Location} {rest rest' : Folder} {n : Text} (a : Attributes)
      (content : List UInt8) (other : n ≠ name) (later : Pruned (name :: more) rest rest') :
      Pruned (name :: more) (.file n a content rest) (.file n a content rest')
  | link {name : Text} {more : Location} {rest rest' : Folder} {n : Text} (target : Text)
      (other : n ≠ name) (later : Pruned (name :: more) rest rest') :
      Pruned (name :: more) (.link n target rest) (.link n target rest')
  | folder {name : Text} {more : Location} {rest rest' : Folder} {n : Text} (a : Attributes)
      (inner : Folder) (other : n ≠ name) (later : Pruned (name :: more) rest rest') :
      Pruned (name :: more) (.folder n a inner rest) (.folder n a inner rest')

theorem pruned_erase {f : Folder} {name : Text} {a : Attributes} {content : List UInt8}
    (h : f.find? name = some (.file a content)) : Pruned [name] f (f.erase name) := by
  induction f with
  | empty => cases h
  | file n b other rest ih =>
      rw [find?] at h
      rw [erase]
      by_cases hn : n = name
      · subst hn
        rw [if_pos rfl]
        exact .here n b other rest
      · rw [if_neg hn] at h ⊢
        exact .file b other hn (ih h)
  | link n target rest ih =>
      rw [find?] at h
      rw [erase]
      by_cases hn : n = name
      · rw [if_pos hn] at h
        cases h
      · rw [if_neg hn] at h ⊢
        exact .link target hn (ih h)
  | folder n b inner rest _ ih =>
      rw [find?] at h
      rw [erase]
      by_cases hn : n = name
      · rw [if_pos hn] at h
        cases h
      · rw [if_neg hn] at h ⊢
        exact .folder b inner hn (ih h)

theorem pruned_put {f inner inner' : Folder} {name : Text} {a : Attributes} {more : Location}
    (h : f.find? name = some (.folder a inner)) (hinner : Pruned more inner inner')
    (a' : Attributes) : Pruned (name :: more) f (f.put name (.folder a' inner')) := by
  induction f with
  | empty => cases h
  | file n b other rest ih =>
      rw [find?] at h
      rw [put]
      by_cases hn : n = name
      · rw [if_pos hn] at h
        cases h
      · rw [if_neg hn] at h ⊢
        exact .file b other hn (ih h)
  | link n target rest ih =>
      rw [find?] at h
      rw [put]
      by_cases hn : n = name
      · rw [if_pos hn] at h
        cases h
      · rw [if_neg hn] at h ⊢
        exact .link target hn (ih h)
  | folder n b deeper rest _ ih =>
      rw [find?] at h
      rw [put]
      by_cases hn : n = name
      · subst hn
        rw [if_pos rfl] at h ⊢
        cases h
        exact .inside n a a' rest hinner
      · rw [if_neg hn] at h ⊢
        exact .folder b deeper hn (ih h)

namespace Pruned

variable {place : Location} {f f' : Folder}

/-- Only a file is missing, so there are the same links. -/
theorem linkCount_eq (h : Pruned place f f') : f'.linkCount = f.linkCount := by
  induction h with
  | here name a content rest => rfl
  | inside name a a' rest _ ih => rw [linkCount, linkCount, ih]
  | file a content _ _ ih => rw [linkCount, linkCount, ih]
  | link target _ _ ih => rw [linkCount, linkCount, ih]
  | folder a inner _ _ ih => rw [linkCount, linkCount, ih]

end Pruned

end Folder

namespace Tree

/-! ## Trees with and without a file -/

/-- Every entry has a proper name that stands in its folder once, and the working folder
has one too. -/
def WellFormed (t : Tree) : Prop := t.root.WellFormed ∧ ∀ n ∈ t.working, IsName n

instance (t : Tree) : Decidable t.WellFormed := inferInstanceAs (Decidable (_ ∧ _))

/-- A tree without what stands at a location. -/
def without (t : Tree) (place : Location) : Tree :=
  match place.getLast? with
  | none => t
  | some name => t.changeEntries place.dropLast fun f => f.erase name

/-- The second tree is the first without the file at a location. -/
structure Lacks (t bare : Tree) (place : Location) : Prop where
  working : bare.working = t.working
  file : ∃ a content, t.shapeAt place = some (.file a content)
  gone : bare.shapeAt place = none
  others : ∀ location, location ≠ place → bare.shapeAt location = t.shapeAt location
  pruned : t.root.Pruned place bare.root

theorem wellFormed_of_nodeBelow {a b : Attributes} {f inner : Folder} (h : f.WellFormed)
    {here : Location} (hat : nodeBelow (.folder a f) here = some (.folder b inner)) :
    inner.WellFormed := by
  induction here generalizing a f with
  | nil =>
      cases hat
      exact h
  | cons name rest ih =>
      rw [nodeBelow] at hat
      cases hfind : f.find? name with
      | none =>
          rw [hfind] at hat
          cases hat
      | some node =>
          rw [hfind, Option.bind_some] at hat
          cases node with
          | folder c deeper => exact ih (Folder.wellFormed_of_find? h hfind) hat
          | file c content => cases rest <;> cases hat
          | link target => cases rest <;> cases hat

theorem allNames_of_nodeBelow {a b : Attributes} {f inner : Folder} {here : Location} {n : Text}
    (hat : nodeBelow (.folder a f) here = some (.folder b inner)) (hn : n ∈ inner.allNames) :
    n ∈ f.allNames := by
  induction here generalizing a f with
  | nil =>
      cases hat
      exact hn
  | cons name rest ih =>
      rw [nodeBelow] at hat
      cases hfind : f.find? name with
      | none =>
          rw [hfind] at hat
          cases hat
      | some node =>
          rw [hfind, Option.bind_some] at hat
          cases node with
          | folder c deeper => exact Folder.allNames_of_find? hfind (ih hat)
          | file c content => cases rest <;> cases hat
          | link target => cases rest <;> cases hat

theorem pruned_changeBelow {name : Text} {here : Location} {a b : Attributes} {f : Folder}
    {content : List UInt8}
    (h : nodeBelow (.folder a f) (here ++ [name]) = some (.file b content))
    (time : FileTime) :
    f.Pruned (here ++ [name])
      (changeBelow (fun a f => ({ a with modified := time }, f.erase name)) here a f).2 := by
  induction here generalizing a f with
  | nil =>
      rw [List.nil_append, nodeBelow] at h
      cases hfind : f.find? name with
      | none =>
          rw [hfind] at h
          cases h
      | some node =>
          rw [hfind, Option.bind_some, nodeBelow, Option.some.injEq] at h
          subst h
          exact Folder.pruned_erase hfind
  | cons first rest ih =>
      rw [List.cons_append, nodeBelow] at h
      cases hfind : f.find? first with
      | none =>
          rw [hfind] at h
          cases h
      | some node =>
          rw [hfind, Option.bind_some] at h
          cases node with
          | folder c deeper =>
              simp only [changeBelow, hfind]
              exact Folder.pruned_put hfind (ih h) _
          | file c other => cases rest <;> cases h
          | link target => cases rest <;> cases h

/-- Taking a file out of a well-formed tree changes nothing else. -/
theorem lacks_without {t : Tree} (h : t.WellFormed) {place : Location} {a : Attributes}
    {content : List UInt8} (hfile : t.at? place = some (.file a content)) :
    Lacks t (t.without place) place := by
  rcases List.eq_nil_or_concat place with rfl | ⟨folder, name, rfl⟩
  · cases hfile
  rw [List.concat_eq_append] at hfile ⊢
  have hshape := shapeAt_eq_file_iff.mpr hfile
  obtain ⟨b, inner, hat⟩ := shapeAt_eq_folder_iff.mp (folder_of_shapeAt_append hshape)
  have hwithout : t.without (folder ++ [name]) =
      t.changeEntries folder fun f => f.erase name := by
    simp only [without, List.getLast?_concat, List.dropLast_concat]
  have hsingle := Folder.find?_erase_self (wellFormed_of_nodeBelow h.1 hat) name
  rw [hwithout]
  refine ⟨rfl, ⟨a, content, hshape⟩, shapeAt_erase_behind hat hsingle (List.prefix_refl _), ?_,
    pruned_changeBelow hfile t.clock⟩
  intro location hne
  by_cases hp : (folder ++ [name]) <+: location
  · rw [shapeAt_erase_behind hat hsingle hp, shapeAt_of_file hfile hp hne]
  · exact shapeAt_erase hat hp

namespace Lacks

variable {t bare : Tree} {place : Location}

theorem shapeAt_of_bare (h : Lacks t bare place) {location : Location} {shape : Shape}
    (hl : bare.shapeAt location = some shape) : t.shapeAt location = some shape := by
  by_cases heq : location = place
  · subst heq
    rw [h.gone] at hl
    cases hl
  · rwa [← h.others location heq]

end Lacks

/-! ## Paths with and without a file -/

/-- The shape of what a path leads to. -/
def shapeOf (t : Tree) (path : Text) : Option Shape :=
  (t.lookup true path).toOption.map fun found => found.2.shape

/-- Whether a path leads to a location. -/
def leadsTo (t : Tree) (path : Text) (place : Location) : Bool :=
  match t.lookup true path with
  | .ok (stop, _) => stop == place
  | .error _ => false

theorem ne_of_leadsTo {t : Tree} {path : Text} {place stop : Location} {node : Node}
    (h : t.leadsTo path place = false) (hlookup : t.lookup true path = .ok (stop, node)) :
    stop ≠ place := by
  rw [leadsTo, hlookup] at h
  simpa using h

theorem shapeOf_eq_some_iff {t : Tree} {path : Text} {shape : Shape} :
    t.shapeOf path = some shape ↔
      ∃ stop node, t.lookup true path = .ok (stop, node) ∧ node.shape = shape := by
  unfold shapeOf
  cases t.lookup true path with
  | error f => simp [Except.toOption]
  | ok found =>
      obtain ⟨stop, node⟩ := found
      simp only [Except.toOption, Option.map_some, Option.some.injEq, Except.ok.injEq,
        Prod.mk.injEq]
      constructor
      · intro hnode
        exact ⟨stop, node, ⟨rfl, rfl⟩, hnode⟩
      · rintro ⟨_, _, ⟨rfl, rfl⟩, hnode⟩
        exact hnode

theorem bytesOf_eq_ok_iff_shapeOf {t : Tree} {path : Text} {bytes : List UInt8} :
    t.bytesOf path = .ok bytes ↔ ∃ a, t.shapeOf path = some (.file a bytes) := by
  rw [bytesOf_eq_ok_iff]
  constructor
  · rintro ⟨stop, a, hlookup⟩
    exact ⟨a, shapeOf_eq_some_iff.mpr ⟨stop, _, hlookup, rfl⟩⟩
  · rintro ⟨a, hshape⟩
    obtain ⟨stop, node, hlookup, hnode⟩ := shapeOf_eq_some_iff.mp hshape
    exact ⟨stop, a, by rw [hlookup, shape_eq_file_iff.mp hnode]⟩

/-- A link is a folder if there is a route from it to one. -/
theorem entryIsFolder_link_iff {t : Tree} {here : Location} {name target : Text} :
    t.entryIsFolder here name (.link target) = true ↔
      ∃ stop node, t.walk true linkLimit here [.down name] = .ok (.found stop node) ∧
        node.shape = .folder := by
  unfold entryIsFolder
  cases t.walk true linkLimit here [.down name] with
  | error reason => simp
  | ok p =>
      cases p with
      | absent folder missing => simp
      | found stop node =>
          constructor
          · intro hfolder
            refine ⟨stop, node, rfl, ?_⟩
            cases node <;> simp_all [Node.isFolder]
          · rintro ⟨_, _, heq, hnode⟩
            cases heq
            obtain ⟨a, inner, rfl⟩ := shape_eq_folder_iff.mp hnode
            rfl

/-- A path leads to a folder, or to nothing or something else, by its shape. -/
theorem eq_of_asks {t : Tree} {path : Text} {p : Node → Bool} {q : Shape → Bool}
    (hpq : ∀ node, p node = q node.shape) {answer : Bool} (h : t.asks path p = .ok answer) :
    answer = ((t.shapeOf path).map q).getD false := by
  unfold asks node at h
  unfold shapeOf
  cases hlookup : t.lookup true path with
  | ok found =>
      simp only [hlookup, Except.map, Except.ok.injEq] at h
      simp [Except.toOption, ← h, hpq]
  | error f =>
      cases f with
      | broken b =>
          simp only [hlookup, Except.map, Except.ok.injEq] at h
          simp [Except.toOption, ← h]
      | refused r =>
          simp only [hlookup, Except.map] at h
          split at h
          · simpa [Except.toOption] using h.symm
          · cases h

namespace Lacks

variable {t bare : Tree} {place : Location}

/-- A path leads with the file where it leads without it. -/
theorem lookup_of_bare (h : Lacks t bare place) {path : Text} {stop : Location} {node : Node}
    (hlookup : bare.lookup true path = .ok (stop, node)) :
    ∃ node', t.lookup true path = .ok (stop, node') ∧ node'.shape = node.shape := by
  obtain ⟨hnull, hempty, hlong, ⟨k, hk, hleads⟩, hat⟩ := lookup_eq_ok_iff.mp hlookup
  have hshape : bare.shapeAt stop = some node.shape := by rw [shapeAt, hat, Option.map_some]
  obtain ⟨node', hat', hnode⟩ := Option.map_eq_some_iff.mp (h.shapeAt_of_bare hshape)
  rw [start_of_working h.working] at hleads
  have hroute := hleads.transfer_of_shapes fun _ _ hl => .inl (h.shapeAt_of_bare hl)
  exact ⟨node', lookup_eq_ok_iff.mpr ⟨hnull, hempty, hlong, ⟨k, hk, hroute⟩, hat'⟩, hnode⟩

end Lacks

/-! ## Files below a root -/

/-- Whether names lead from a root to a location by themselves, without a link. -/
def standsAt (t : Tree) (root : PathName) (names : List Text) (place : Location) : Bool :=
  match t.lookup true root.toText with
  | .ok (base, _) => base ++ names == place
  | .error _ => false

/-- What names lead to from a root is not the file at a location: neither does the file
stand there, nor does the path lead to it. -/
structure Apart (t : Tree) (root : PathName) (place : Location) (names : List Text) : Prop where
  elsewhere : t.standsAt root names place = false
  resolved : t.leadsTo (PathName.mk root.anchor (root.names ++ names)).toText place = false

instance (t : Tree) (root : PathName) (place : Location) (names : List Text) :
    Decidable (t.Apart root place names) :=
  decidable_of_iff (_ ∧ _) ⟨fun h => ⟨h.1, h.2⟩, fun h => ⟨h.1, h.2⟩⟩

theorem Apart.ne {t : Tree} {root : PathName} {place base : Location} {names : List Text}
    {node : Node} (h : t.Apart root place names)
    (hroot : t.lookup true root.toText = .ok (base, node)) : base ++ names ≠ place := by
  have helsewhere := h.elsewhere
  rw [standsAt, hroot] at helsewhere
  simpa using helsewhere

end Tree

end GoogIndex.Storage
