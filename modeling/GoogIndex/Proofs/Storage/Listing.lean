/-
  Proofs/Storage/Listing.lean --- what a folder lists, before and after a file is put.

  A change of one entry also gives the folder around it a new modification time, so the
  entries of two trees are compared by what they list: names and nodes, without the
  attributes of folders.  `Renewed` says that two listings differ in one file only,
  which takes the place of a file, of a link or of nothing.
-/
import GoogIndex.Proofs.Storage.Change

set_option autoImplicit false

namespace GoogIndex.Storage

/-! ## Listings -/

/-- The entries of a folder without the attributes of the folders among them, at any
depth. -/
def Folder.listing : Folder → Folder
  | .empty => .empty
  | .file name a content rest => .file name a content rest.listing
  | .link name target rest => .link name target rest.listing
  | .folder name _ inner rest => .folder name default inner.listing rest.listing

/-- A node without the attributes of folders. -/
def Node.listing : Node → Node
  | .folder _ inner => .folder default inner.listing
  | node => node

namespace Folder

theorem find?_listing (name : Text) (f : Folder) :
    f.listing.find? name = (f.find? name).map Node.listing := by
  induction f with
  | empty => rfl
  | file n a content rest ih =>
      by_cases hn : n = name
      · simp [listing, find?, hn, Node.listing]
      · simp [listing, find?, hn, ih]
  | link n target rest ih =>
      by_cases hn : n = name
      · simp [listing, find?, hn, Node.listing]
      · simp [listing, find?, hn, ih]
  | folder n a inner rest _ ih =>
      by_cases hn : n = name
      · simp [listing, find?, hn, Node.listing]
      · simp [listing, find?, hn, ih]

theorem listing_put (name : Text) (node : Node) (f : Folder) :
    (f.put name node).listing = f.listing.put name node.listing := by
  induction f with
  | empty => cases node <;> simp [put, cons, listing, Node.listing]
  | file n a content rest ih =>
      by_cases hn : n = name
      · cases node <;> simp [put, cons, listing, Node.listing, hn]
      · simp [put, listing, hn, ih]
  | link n target rest ih =>
      by_cases hn : n = name
      · cases node <;> simp [put, cons, listing, Node.listing, hn]
      · simp [put, listing, hn, ih]
  | folder n a inner rest _ ih =>
      by_cases hn : n = name
      · cases node <;> simp [put, cons, listing, Node.listing, hn]
      · simp [put, listing, hn, ih]

/-- An entry that is put where it is changes nothing. -/
theorem put_of_find? {name : Text} {node : Node} {f : Folder} (h : f.find? name = some node) :
    f.put name node = f := by
  induction f with
  | empty => cases h
  | file n a content rest ih =>
      by_cases hn : n = name
      · simp only [find?, hn, if_true, Option.some.injEq] at h
        simp [put, cons, hn, ← h]
      · simp only [find?, hn, if_false] at h
        simp [put, hn, ih h]
  | link n target rest ih =>
      by_cases hn : n = name
      · simp only [find?, hn, if_true, Option.some.injEq] at h
        simp [put, cons, hn, ← h]
      · simp only [find?, hn, if_false] at h
        simp [put, hn, ih h]
  | folder n a inner rest _ ih =>
      by_cases hn : n = name
      · simp only [find?, hn, if_true, Option.some.injEq] at h
        simp [put, cons, hn, ← h]
      · simp only [find?, hn, if_false] at h
        simp [put, hn, ih h]

/-- Of two entries of a name the later one counts. -/
theorem put_put (name : Text) (first second : Node) (f : Folder) :
    (f.put name first).put name second = f.put name second := by
  induction f with
  | empty => cases first <;> simp [put, cons]
  | file n a content rest ih =>
      by_cases hn : n = name
      · cases first <;> simp [put, cons, hn]
      · simp [put, hn, ih]
  | link n target rest ih =>
      by_cases hn : n = name
      · cases first <;> simp [put, cons, hn]
      · simp [put, hn, ih]
  | folder n a inner rest _ ih =>
      by_cases hn : n = name
      · cases first <;> simp [put, cons, hn]
      · simp [put, hn, ih]

end Folder

namespace Tree

theorem nodeBelow_listing (node : Node) (location : Location) :
    nodeBelow node.listing location = (nodeBelow node location).map Node.listing := by
  induction location generalizing node with
  | nil => rfl
  | cons name rest ih =>
      cases node with
      | file a content => rfl
      | link target => rfl
      | folder a inner =>
          simp only [Node.listing, nodeBelow, Folder.find?_listing]
          cases inner.find? name with
          | none => rfl
          | some next => exact ih next

/-! ## Changes of one folder -/

/-- Two changes of a folder are one. -/
theorem changeFolder_changeFolder (t : Tree) (here : Location)
    (g h : Attributes → Folder → Attributes × Folder) :
    (t.changeFolder here g).changeFolder here h =
      t.changeFolder here fun a inner => h (g a inner).1 (g a inner).2 := by
  have hbelow : ∀ (here : Location) (a : Attributes) (inner : Folder),
      changeBelow h here (changeBelow g here a inner).1 (changeBelow g here a inner).2 =
        changeBelow (fun a inner => h (g a inner).1 (g a inner).2) here a inner := by
    intro here
    induction here with
    | nil => exact fun _ _ => rfl
    | cons name rest ih =>
        intro a inner
        cases hfind : inner.find? name with
        | none => simp only [changeBelow, hfind]
        | some node =>
            cases node with
            | file b content => simp only [changeBelow, hfind]
            | link target => simp only [changeBelow, hfind]
            | folder b deeper =>
                simp only [changeBelow, hfind, Folder.find?_put_self, Folder.put_put, ih]
  simp only [changeFolder, hbelow]

/-- A change is what it does to the folder. -/
theorem changeFolder_congr {t : Tree} {here : Location} {a : Attributes} {inner : Folder}
    (hat : t.at? here = some (.folder a inner))
    {g h : Attributes → Folder → Attributes × Folder} (heq : g a inner = h a inner) :
    t.changeFolder here g = t.changeFolder here h := by
  have hbelow : ∀ (here : Location) (b : Attributes) (f : Folder),
      nodeBelow (.folder b f) here = some (.folder a inner) →
        changeBelow g here b f = changeBelow h here b f := by
    intro here
    induction here with
    | nil =>
        intro b f hnode
        cases hnode
        exact heq
    | cons name rest ih =>
        intro b f hnode
        cases hfind : f.find? name with
        | none => simp only [changeBelow, hfind]
        | some node =>
            cases node with
            | file c content => simp only [changeBelow, hfind]
            | link target => simp only [changeBelow, hfind]
            | folder c deeper =>
                rw [nodeBelow, hfind, Option.bind_some] at hnode
                simp only [changeBelow, hfind, ih c deeper hnode]
  simp only [changeFolder, hbelow here t.attributes t.root hat]

/-- A change that leaves the entries of the folder as they are changes no listing. -/
theorem listing_changeFolder {t : Tree} {here : Location} {a : Attributes} {inner : Folder}
    (hat : t.at? here = some (.folder a inner))
    {g : Attributes → Folder → Attributes × Folder} (hg : (g a inner).2 = inner) :
    (t.changeFolder here g).root.listing = t.root.listing := by
  have hbelow : ∀ (here : Location) (b : Attributes) (f : Folder),
      nodeBelow (.folder b f) here = some (.folder a inner) →
        (changeBelow g here b f).2.listing = f.listing := by
    intro here
    induction here with
    | nil =>
        intro b f hnode
        cases hnode
        exact congrArg Folder.listing hg
    | cons name rest ih =>
        intro b f hnode
        cases hfind : f.find? name with
        | none => simp only [changeBelow, hfind]
        | some node =>
            cases node with
            | file c content => simp only [changeBelow, hfind]
            | link target => simp only [changeBelow, hfind]
            | folder c deeper =>
                rw [nodeBelow, hfind, Option.bind_some] at hnode
                simp only [changeBelow, hfind, Folder.listing_put, Node.listing,
                  ih c deeper hnode]
                refine Folder.put_of_find? ?_
                rw [Folder.find?_listing, hfind, Option.map_some, Node.listing]
  exact hbelow here t.attributes t.root hat

end Tree

/-! ## One file in a listing -/

namespace Folder

/-- The second folder has a file at a location below it, in place of another file, of a
link or of nothing; all other entries are those of the first, in the same order. -/
inductive Renewed : Location → Folder → Folder → Prop where
  | added (name : Text) (a : Attributes) (content : List UInt8) (rest : Folder) :
      Renewed [name] rest (.file name a content rest)
  | overFile (name : Text) (a a' : Attributes) (content content' : List UInt8) (rest : Folder) :
      Renewed [name] (.file name a content rest) (.file name a' content' rest)
  | overLink (name target : Text) (a : Attributes) (content : List UInt8) (rest : Folder) :
      Renewed [name] (.link name target rest) (.file name a content rest)
  | inside {more : Location} {inner inner' : Folder} (name : Text) (a : Attributes)
      (rest : Folder) (deeper : Renewed more inner inner') :
      Renewed (name :: more) (.folder name a inner rest) (.folder name a inner' rest)
  | file {name : Text} {more : Location} {rest rest' : Folder} {n : Text} (a : Attributes)
      (content : List UInt8) (other : n ≠ name) (later : Renewed (name :: more) rest rest') :
      Renewed (name :: more) (.file n a content rest) (.file n a content rest')
  | link {name : Text} {more : Location} {rest rest' : Folder} {n : Text} (target : Text)
      (other : n ≠ name) (later : Renewed (name :: more) rest rest') :
      Renewed (name :: more) (.link n target rest) (.link n target rest')
  | folder {name : Text} {more : Location} {rest rest' : Folder} {n : Text} (a : Attributes)
      (inner : Folder) (other : n ≠ name) (later : Renewed (name :: more) rest rest') :
      Renewed (name :: more) (.folder n a inner rest) (.folder n a inner rest')

/-- A file that is put where no folder is renews its entry. -/
theorem renewed_put {f : Folder} {name : Text}
    (h : ∀ a inner, f.find? name ≠ some (.folder a inner)) (a : Attributes)
    (content : List UInt8) : Renewed [name] f (f.put name (.file a content)) := by
  induction f with
  | empty => exact .added name a content .empty
  | file n b other rest ih =>
      rw [put]
      by_cases hn : n = name
      · subst hn
        rw [if_pos rfl]
        exact .overFile n b a other content rest
      · rw [if_neg hn]
        refine .file b other hn (ih fun c inner hfind => h c inner ?_)
        rw [find?, if_neg hn, hfind]
  | link n target rest ih =>
      rw [put]
      by_cases hn : n = name
      · subst hn
        rw [if_pos rfl]
        exact .overLink n target a content rest
      · rw [if_neg hn]
        refine .link target hn (ih fun c inner hfind => h c inner ?_)
        rw [find?, if_neg hn, hfind]
  | folder n b inner rest _ ih =>
      rw [put]
      by_cases hn : n = name
      · refine absurd ?_ (h b inner)
        rw [find?, if_pos hn]
      · rw [if_neg hn]
        refine .folder b inner hn (ih fun c deeper hfind => h c deeper ?_)
        rw [find?, if_neg hn, hfind]

/-- A folder with a renewed entry below it has one itself. -/
theorem renewed_put_folder {f inner inner' : Folder} {name : Text} {a : Attributes}
    {more : Location} (h : f.find? name = some (.folder a inner))
    (hinner : Renewed more inner inner') :
    Renewed (name :: more) f (f.put name (.folder a inner')) := by
  induction f with
  | empty => cases h
  | file n b content rest ih =>
      rw [find?] at h
      rw [put]
      by_cases hn : n = name
      · rw [if_pos hn] at h
        cases h
      · rw [if_neg hn] at h ⊢
        exact .file b content hn (ih h)
  | link n target rest ih =>
      rw [find?] at h
      rw [put]
      by_cases hn : n = name
      · rw [if_pos hn] at h
        cases h
      · rw [if_neg hn] at h ⊢
        exact .link target hn (ih h)
  | folder n b deeper rest _ ih =>
      rw [find?] at h
      rw [put]
      by_cases hn : n = name
      · subst hn
        rw [if_pos rfl] at h ⊢
        cases h
        exact .inside n a rest hinner
      · rw [if_neg hn] at h ⊢
        exact .folder b deeper hn (ih h)

namespace Renewed

variable {place : Location} {f f' : Folder}

/-- An entry that is not on the way to the file is the same. -/
theorem find?_of_ne {name : Text} {more : Location} (h : Renewed (name :: more) f f')
    {other : Text} (ho : other ≠ name) : f'.find? other = f.find? other := by
  generalize hplace : name :: more = place at h
  induction h with
  | added n a content rest =>
      cases hplace
      rw [find?, if_neg (Ne.symm ho)]
  | overFile n a a' content content' rest =>
      cases hplace
      rw [find?, find?, if_neg (Ne.symm ho), if_neg (Ne.symm ho)]
  | overLink n target a content rest =>
      cases hplace
      rw [find?, find?, if_neg (Ne.symm ho), if_neg (Ne.symm ho)]
  | inside n a rest _ _ =>
      cases hplace
      rw [find?, find?, if_neg (Ne.symm ho), if_neg (Ne.symm ho)]
  | file a content _ _ ih => rw [find?, find?, ih hplace]
  | link target _ _ ih => rw [find?, find?, ih hplace]
  | folder a inner _ _ ih => rw [find?, find?, ih hplace]

/-- The entry on the way to the file is the file, or a folder with the renewed entry. -/
theorem find?_self {name : Text} {more : Location} (h : Renewed (name :: more) f f') :
    (more = [] ∧ ∃ a content, f'.find? name = some (.file a content)) ∨
      ∃ a inner inner', f.find? name = some (.folder a inner) ∧
        f'.find? name = some (.folder a inner') ∧ Renewed more inner inner' := by
  generalize hplace : name :: more = place at h
  induction h with
  | added n a content rest =>
      cases hplace
      exact .inl ⟨rfl, a, content, by rw [find?, if_pos rfl]⟩
  | overFile n a a' content content' rest =>
      cases hplace
      exact .inl ⟨rfl, a', content', by rw [find?, if_pos rfl]⟩
  | overLink n target a content rest =>
      cases hplace
      exact .inl ⟨rfl, a, content, by rw [find?, if_pos rfl]⟩
  | inside n a rest deeper _ =>
      cases hplace
      exact .inr ⟨a, _, _, by rw [find?, if_pos rfl], by rw [find?, if_pos rfl], deeper⟩
  | file a content other _ ih =>
      cases hplace
      rw [find?, find?, if_neg other, if_neg other]
      exact ih rfl
  | link target other _ ih =>
      cases hplace
      rw [find?, find?, if_neg other, if_neg other]
      exact ih rfl
  | folder a inner other _ ih =>
      cases hplace
      rw [find?, find?, if_neg other, if_neg other]
      exact ih rfl

/-- A folder at a location has the same entries in both, or the renewed one is below it. -/
theorem entries_below (h : Renewed place f f') {here : Location} {a a' b b' : Attributes}
    {inner inner' : Folder} (hat : Tree.nodeBelow (.folder a f) here = some (.folder b inner))
    (hat' : Tree.nodeBelow (.folder a' f') here = some (.folder b' inner')) :
    inner' = inner ∨ ∃ more, here ++ more = place ∧ Renewed more inner inner' := by
  induction here generalizing place f f' a a' with
  | nil =>
      cases hat
      cases hat'
      exact .inr ⟨place, rfl, h⟩
  | cons name rest ih =>
      rw [Tree.nodeBelow] at hat hat'
      cases place with
      | nil => cases h
      | cons first more =>
          by_cases hname : name = first
          · subst hname
            rcases h.find?_self with ⟨_, c, content, hfile⟩ | ⟨c, g, g', hg, hg', hdeeper⟩
            · rw [hfile] at hat'
              cases rest <;> cases hat'
            · rw [hg, Option.bind_some] at hat
              rw [hg', Option.bind_some] at hat'
              refine (ih hdeeper hat hat').imp_right ?_
              rintro ⟨left, rfl, hleft⟩
              exact ⟨left, rfl, hleft⟩
          · rw [h.find?_of_ne hname] at hat'
            cases hfind : f.find? name with
            | none =>
                rw [hfind] at hat
                cases hat
            | some node =>
                rw [hfind, Option.bind_some] at hat hat'
                cases rest with
                | nil =>
                    cases hat
                    cases hat'
                    exact .inl rfl
                | cons next deeper =>
                    cases node with
                    | file c content => cases hat
                    | link target => cases hat
                    | folder c g =>
                        cases hat.symm.trans hat'
                        exact .inl rfl

end Renewed

end Folder

namespace Tree

/-- A file that is put into a folder of a tree, where no folder is, renews its entry. -/
theorem renewed_changeEntries {t : Tree} {here : Location} {name : Text} {a : Attributes}
    {inner : Folder} (hat : t.at? here = some (.folder a inner))
    (hentry : ∀ b deeper, inner.find? name ≠ some (.folder b deeper)) (c : Attributes)
    (content : List UInt8) :
    t.root.listing.Renewed (here ++ [name])
      (t.changeEntries here fun f => f.put name (.file c content)).root.listing := by
  have hbelow : ∀ (here : Location) (b : Attributes) (f : Folder),
      nodeBelow (.folder b f) here = some (.folder a inner) →
        f.listing.Renewed (here ++ [name]) (changeBelow
          (fun a f => ({ a with modified := t.clock }, f.put name (.file c content)))
          here b f).2.listing := by
    intro here
    induction here with
    | nil =>
        intro b f hnode
        cases hnode
        simp only [List.nil_append, changeBelow, Folder.listing_put, Node.listing]
        refine Folder.renewed_put (fun d deeper hfind => ?_) c content
        rw [Folder.find?_listing] at hfind
        obtain ⟨node, hnode, hlisting⟩ := Option.map_eq_some_iff.mp hfind
        cases node with
        | file e other => cases hlisting
        | link target => cases hlisting
        | folder e next => exact hentry e next hnode
    | cons first rest ih =>
        intro b f hnode
        rw [nodeBelow] at hnode
        cases hfind : f.find? first with
        | none =>
            rw [hfind] at hnode
            cases hnode
        | some node =>
            rw [hfind, Option.bind_some] at hnode
            cases node with
            | file d other => cases rest <;> cases hnode
            | link target => cases rest <;> cases hnode
            | folder d deeper =>
                simp only [changeBelow, hfind, Folder.listing_put, Node.listing]
                refine Folder.renewed_put_folder ?_ (ih d deeper hnode)
                rw [Folder.find?_listing, hfind, Option.map_some, Node.listing]
  exact hbelow here t.attributes t.root hat

end Tree

end GoogIndex.Storage
