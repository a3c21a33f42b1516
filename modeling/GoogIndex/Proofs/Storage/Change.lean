/-
  Proofs/Storage/Change.lean --- what a change of one entry leaves alone.

  Every change of a tree is a change of one entry of one folder.  It decides what stands
  at that entry and below it, and all other locations keep their shapes.
-/
import GoogIndex.Proofs.Storage.Route

set_option autoImplicit false

namespace GoogIndex.Storage

/-! ## Entries of a folder -/

namespace Folder

theorem find?_erase_of_ne {name other : Text} (f : Folder) (h : other ≠ name) :
    (f.erase name).find? other = f.find? other := by
  induction f with
  | empty => rfl
  | file n a content rest ih =>
      by_cases hn : n = name
      · simp [erase, find?, hn, Ne.symm h]
      · simp [erase, find?, hn, ih]
  | link n target rest ih =>
      by_cases hn : n = name
      · simp [erase, find?, hn, Ne.symm h]
      · simp [erase, find?, hn, ih]
  | folder n a inner rest _ ih =>
      by_cases hn : n = name
      · simp [erase, find?, hn, Ne.symm h]
      · simp [erase, find?, hn, ih]

/-- Taking a new entry out again leaves nothing of it. -/
theorem erase_put (name : Text) (node : Node) (f : Folder) :
    (f.put name node).erase name = f.erase name := by
  induction f with
  | empty => cases node <;> simp [put, cons, erase]
  | file n a content rest ih =>
      by_cases hn : n = name
      · cases node <;> simp [put, cons, erase, hn]
      · simp [put, erase, hn, ih]
  | link n target rest ih =>
      by_cases hn : n = name
      · cases node <;> simp [put, cons, erase, hn]
      · simp [put, erase, hn, ih]
  | folder n a inner rest _ ih =>
      by_cases hn : n = name
      · cases node <;> simp [put, cons, erase, hn]
      · simp [put, erase, hn, ih]

/-- A name that is not there cannot be taken out. -/
theorem erase_of_find?_none {name : Text} {f : Folder} (h : f.find? name = none) :
    f.erase name = f := by
  induction f with
  | empty => rfl
  | file n a content rest ih =>
      by_cases hn : n = name
      · simp [find?, hn] at h
      · simp only [find?, hn, if_false] at h
        simp [erase, hn, ih h]
  | link n target rest ih =>
      by_cases hn : n = name
      · simp [find?, hn] at h
      · simp only [find?, hn, if_false] at h
        simp [erase, hn, ih h]
  | folder n a inner rest _ ih =>
      by_cases hn : n = name
      · simp [find?, hn] at h
      · simp only [find?, hn, if_false] at h
        simp [erase, hn, ih h]

end Folder

namespace Tree

/-! ## One changed folder -/

/-- What does not lie in the changed folder keeps everything but the entries of folders. -/
theorem view_changeBelow_outside {β : Type} {view : Node → β}
    (hview : ∀ a inner inner', view (.folder a inner') = view (.folder a inner))
    (g : Attributes → Folder → Attributes × Folder) {folder location : Location}
    (h : ¬ folder <+: location) (a : Attributes) (inner : Folder) :
    (nodeBelow (.folder (changeBelow g folder a inner).1 (changeBelow g folder a inner).2)
      location).map view = (nodeBelow (.folder a inner) location).map view := by
  induction folder generalizing location a inner with
  | nil => exact absurd List.nil_prefix h
  | cons name rest ih =>
      cases location with
      | nil =>
          rw [changeBelow]
          split
          · exact congrArg some (hview _ _ _)
          · rfl
      | cons other more =>
          rw [changeBelow]
          split
          · rename_i b deeper hfind
            by_cases ho : other = name
            · subst ho
              have hmore : ¬ rest <+: more := fun hp => h (List.cons_prefix_cons.mpr ⟨rfl, hp⟩)
              simp only [nodeBelow, Folder.find?_put_self, hfind, Option.bind_some]
              exact ih hmore b deeper
            · simp only [nodeBelow, Folder.find?_put_of_ne _ _ ho]
          · rfl

/-- What does not lie in the changed folder keeps its shape. -/
theorem shape_changeBelow_outside (g : Attributes → Folder → Attributes × Folder)
    {folder location : Location} (h : ¬ folder <+: location) (a : Attributes) (inner : Folder) :
    (nodeBelow (.folder (changeBelow g folder a inner).1 (changeBelow g folder a inner).2)
      location).map Node.shape = (nodeBelow (.folder a inner) location).map Node.shape :=
  view_changeBelow_outside (fun _ _ _ => rfl) g h a inner

theorem shapeAt_changeFolder_outside (t : Tree)
    (g : Attributes → Folder → Attributes × Folder) {folder location : Location}
    (h : ¬ folder <+: location) : (t.changeFolder folder g).shapeAt location = t.shapeAt location :=
  shape_changeBelow_outside g h t.attributes t.root

theorem nodeBelow_changeBelow_append (g : Attributes → Folder → Attributes × Folder)
    {folder : Location} {a b : Attributes} {inner deeper : Folder}
    (h : nodeBelow (.folder a inner) folder = some (.folder b deeper)) (rest : Location) :
    nodeBelow (.folder (changeBelow g folder a inner).1 (changeBelow g folder a inner).2)
      (folder ++ rest) = nodeBelow (.folder (g b deeper).1 (g b deeper).2) rest := by
  induction folder generalizing a inner with
  | nil =>
      cases h
      rfl
  | cons name more ih =>
      cases hfind : inner.find? name with
      | none => simp [nodeBelow, hfind] at h
      | some node =>
          simp only [nodeBelow, hfind, Option.bind_some] at h
          cases node with
          | folder c next =>
              simp only [changeBelow, hfind, List.cons_append, nodeBelow, Folder.find?_put_self,
                Option.bind_some]
              exact ih h
          | file c content => cases more <;> simp [nodeBelow] at h
          | link target => cases more <;> simp [nodeBelow] at h

/-- What lies in the changed folder is what its new entries hold. -/
theorem at?_changeFolder_append {t : Tree} {folder : Location} {a : Attributes} {inner : Folder}
    (h : t.at? folder = some (.folder a inner)) (g : Attributes → Folder → Attributes × Folder)
    (rest : Location) :
    (t.changeFolder folder g).at? (folder ++ rest) =
      nodeBelow (.folder (g a inner).1 (g a inner).2) rest :=
  nodeBelow_changeBelow_append g h rest

/-! ## One changed entry -/

section entry

variable {t : Tree} {folder : Location} {name : Text} {a : Attributes} {inner : Folder}

/-- A change of one entry keeps the shapes at all locations that are not behind it. -/
theorem shapeAt_changeFolder_of_entry (h : t.at? folder = some (.folder a inner))
    {g : Attributes → Folder → Attributes × Folder}
    (hg : ∀ other, other ≠ name → (g a inner).2.find? other = inner.find? other)
    {location : Location} (hlocation : ¬ (folder ++ [name]) <+: location) :
    (t.changeFolder folder g).shapeAt location = t.shapeAt location := by
  by_cases hp : folder <+: location
  · obtain ⟨rest, rfl⟩ := hp
    rw [shapeAt, at?_changeFolder_append h g rest, shapeAt, at?_append, h, Option.bind_some]
    cases rest with
    | nil => rfl
    | cons other more =>
        have hother : other ≠ name := by
          rintro rfl
          refine hlocation ⟨more, ?_⟩
          rw [List.append_assoc, List.singleton_append]
        simp only [nodeBelow, hg other hother]
  · exact shapeAt_changeFolder_outside t g hp

/-- The entry is what the change makes of it. -/
theorem at?_changeFolder_entry (h : t.at? folder = some (.folder a inner))
    (g : Attributes → Folder → Attributes × Folder) :
    (t.changeFolder folder g).at? (folder ++ [name]) = (g a inner).2.find? name := by
  rw [at?_changeFolder_append h g [name], nodeBelow]
  cases (g a inner).2.find? name with
  | none => rfl
  | some node => cases node <;> rfl

/-- A put entry stands in its folder. -/
theorem at?_put (h : t.at? folder = some (.folder a inner)) (node : Node) :
    (t.changeEntries folder fun f => f.put name node).at? (folder ++ [name]) = some node := by
  rw [changeEntries, at?_changeFolder_entry h]
  exact Folder.find?_put_self name node inner

theorem shapeAt_put (h : t.at? folder = some (.folder a inner)) (node : Node)
    {location : Location} (hlocation : ¬ (folder ++ [name]) <+: location) :
    (t.changeEntries folder fun f => f.put name node).shapeAt location = t.shapeAt location :=
  shapeAt_changeFolder_of_entry h (fun _ ho => Folder.find?_put_of_ne node inner ho) hlocation

/-- The folder of a put entry, after the change. -/
theorem at?_folder_put (h : t.at? folder = some (.folder a inner)) (node : Node) :
    (t.changeEntries folder fun f => f.put name node).at? folder =
      some (.folder { a with modified := t.clock } (inner.put name node)) := by
  have hat := at?_changeFolder_append h
    (fun a f => ({ a with modified := t.clock }, f.put name node)) []
  rwa [List.append_nil] at hat

theorem shapeAt_erase (h : t.at? folder = some (.folder a inner))
    {location : Location} (hlocation : ¬ (folder ++ [name]) <+: location) :
    (t.changeEntries folder fun f => f.erase name).shapeAt location = t.shapeAt location :=
  shapeAt_changeFolder_of_entry h (fun _ ho => Folder.find?_erase_of_ne inner ho) hlocation

/-- An entry whose name stands in its folder once is gone when it is taken out. -/
theorem shapeAt_erase_behind (h : t.at? folder = some (.folder a inner))
    (hsingle : (inner.erase name).find? name = none) {location : Location}
    (hlocation : (folder ++ [name]) <+: location) :
    (t.changeEntries folder fun f => f.erase name).shapeAt location = none := by
  obtain ⟨rest, rfl⟩ := hlocation
  rw [List.append_assoc, List.singleton_append, shapeAt, changeEntries,
    at?_changeFolder_append h _ (name :: rest)]
  simp [nodeBelow, hsingle]

/-- A change of a node is a change of its entry. -/
theorem changeNode_eq (t : Tree) (folder : Location) (name : Text) (f : Node → Node) :
    t.changeNode (folder ++ [name]) f =
      t.changeFolder folder fun a inner =>
        match inner.find? name with
        | some node => (a, inner.put name (f node))
        | none => (a, inner) := by
  have hlast : (folder ++ [name]).getLast? = some name := List.getLast?_concat
  unfold changeNode
  split
  · rename_i hnone
    cases hlast.symm.trans hnone
  · rename_i last hsome
    cases hlast.symm.trans hsome
    exact congrArg (fun place => t.changeFolder place _) List.dropLast_concat

/-- The folder of a changed node, after the change. -/
theorem at?_folder_changeNode (h : t.at? folder = some (.folder a inner)) {node : Node}
    (hnode : inner.find? name = some node) (f : Node → Node) :
    (t.changeNode (folder ++ [name]) f).at? folder =
      some (.folder a (inner.put name (f node))) := by
  rw [changeNode_eq]
  have hat := at?_changeFolder_append h (fun a inner =>
    match inner.find? name with
    | some node => (a, inner.put name (f node))
    | none => (a, inner)) []
  rw [List.append_nil] at hat
  rw [hat, hnode]
  rfl

theorem shapeAt_changeNode (h : t.at? folder = some (.folder a inner)) {node : Node}
    (hnode : inner.find? name = some node) (f : Node → Node) {location : Location}
    (hlocation : ¬ (folder ++ [name]) <+: location) :
    (t.changeNode (folder ++ [name]) f).shapeAt location = t.shapeAt location := by
  rw [changeNode_eq]
  refine shapeAt_changeFolder_of_entry h ?_ hlocation
  intro other ho
  rw [hnode]
  exact Folder.find?_put_of_ne (f node) inner ho

end entry

end Tree

end GoogIndex.Storage
