/-
  Proofs/Storage/Route.lean --- routes through a tree.

  A walk is a computation with a bound on links; a route is the derivation behind a walk
  that finds something.  Routes depend only on what stands at the locations on the way,
  and there only on whether that is a file, a folder or a link to some target.  So a
  change of the tree at one place leaves the routes alone that do not come by it.
-/
import GoogIndex.Storage.Access
import GoogIndex.Proofs.Storage.Name

set_option autoImplicit false

namespace GoogIndex.Storage

/-- Outcomes are compared by what they hold. -/
instance decidableEqOutcome {ε α : Type} [DecidableEq ε] [DecidableEq α] : DecidableEq (Except ε α)
  | .ok a, .ok b => decidable_of_iff (a = b) (by simp)
  | .error e, .error f => decidable_of_iff (e = f) (by simp)
  | .ok _, .error _ => isFalse (by simp)
  | .error _, .ok _ => isFalse (by simp)

/-! ## Shapes -/

/-- What a node is by itself, without the entries of a folder. -/
inductive Shape where
  | file (attributes : Attributes) (content : List UInt8)
  | link (target : Text)
  | folder
  deriving DecidableEq, Repr, Inhabited

/-- The shape of a node. -/
def Node.shape : Node → Shape
  | .file a content => .file a content
  | .link target => .link target
  | .folder _ _ => .folder

/-- Whether a shape is that of a file. -/
def Shape.isFile : Shape → Bool
  | .file _ _ => true
  | _ => false

/-- Whether a shape is that of a link. -/
def Shape.isLink : Shape → Bool
  | .link _ => true
  | _ => false

@[simp] theorem shape_eq_folder_iff {node : Node} :
    node.shape = .folder ↔ ∃ a inner, node = .folder a inner := by
  cases node <;> simp [Node.shape]

@[simp] theorem shape_eq_file_iff {node : Node} {a : Attributes} {content : List UInt8} :
    node.shape = .file a content ↔ node = .file a content := by
  cases node <;> simp [Node.shape]

@[simp] theorem shape_eq_link_iff {node : Node} {target : Text} :
    node.shape = .link target ↔ node = .link target := by
  cases node <;> simp [Node.shape]

/-- Nodes of one shape are the same, unless they are folders. -/
theorem eq_of_shape {node node' : Node} (h : node'.shape = node.shape)
    (hnode : node.shape ≠ .folder) : node' = node := by
  cases node with
  | file a content => exact shape_eq_file_iff.mp h
  | folder a inner => exact absurd rfl hnode
  | link target => exact shape_eq_link_iff.mp h

namespace Tree

theorem nodeBelow_append (node : Node) (here rest : Location) :
    nodeBelow node (here ++ rest) = (nodeBelow node here).bind fun n => nodeBelow n rest := by
  induction here generalizing node with
  | nil => rfl
  | cons name more ih =>
      cases node with
      | folder a inner =>
          simp only [List.cons_append, nodeBelow]
          cases inner.find? name with
          | none => rfl
          | some n => exact ih n
      | file a content => rfl
      | link target => rfl

theorem at?_append (t : Tree) (here rest : Location) :
    t.at? (here ++ rest) = (t.at? here).bind fun n => nodeBelow n rest :=
  nodeBelow_append _ here rest

/-- An entry of a folder stands below it. -/
theorem at?_child {t : Tree} {here : Location} {a : Attributes} {inner : Folder}
    (h : t.at? here = some (.folder a inner)) (name : Text) :
    t.at? (here ++ [name]) = inner.find? name := by
  rw [at?_append, h, Option.bind_some, nodeBelow]
  cases inner.find? name with
  | none => rfl
  | some node => cases node <;> rfl

/-- The shape of what stands at a location. -/
def shapeAt (t : Tree) (location : Location) : Option Shape := (t.at? location).map Node.shape

theorem shapeAt_eq_folder_iff {t : Tree} {here : Location} :
    t.shapeAt here = some .folder ↔ ∃ a inner, t.at? here = some (.folder a inner) := by
  unfold shapeAt
  cases t.at? here with
  | none => simp
  | some node => simp

theorem shapeAt_eq_file_iff {t : Tree} {here : Location} {a : Attributes} {content : List UInt8} :
    t.shapeAt here = some (.file a content) ↔ t.at? here = some (.file a content) := by
  unfold shapeAt
  cases t.at? here with
  | none => simp
  | some node => simp

theorem shapeAt_eq_link_iff {t : Tree} {here : Location} {target : Text} :
    t.shapeAt here = some (.link target) ↔ t.at? here = some (.link target) := by
  unfold shapeAt
  cases t.at? here with
  | none => simp
  | some node => simp

/-- Only a folder has something below it. -/
theorem folder_of_shapeAt_append {t : Tree} {here : Location} {name : Text} {rest : Location}
    {shape : Shape} (h : t.shapeAt (here ++ name :: rest) = some shape) :
    t.shapeAt here = some .folder := by
  unfold shapeAt at h ⊢
  rw [at?_append] at h
  cases hnode : t.at? here with
  | none => simp [hnode] at h
  | some node => cases node <;> simp_all [nodeBelow, Node.shape]

/-! ## Routes -/

/-- The steps `todo` lead from a location to another, through so many links.  Each step
is taken in a folder, and each name that is no link leads to something. -/
inductive Leads (t : Tree) : Nat → Location → List Step → Location → Prop where
  | here (here : Location) : Leads t 0 here [] here
  | stay {k : Nat} {here stop : Location} {rest : List Step}
      (folder : t.shapeAt here = some .folder) (more : Leads t k here rest stop) :
      Leads t k here (.stay :: rest) stop
  | up {k : Nat} {here stop : Location} {rest : List Step}
      (folder : t.shapeAt here = some .folder) (more : Leads t k here.dropLast rest stop) :
      Leads t k here (.up :: rest) stop
  | down {k : Nat} {here stop : Location} {name : Text} {rest : List Step} {shape : Shape}
      (folder : t.shapeAt here = some .folder) (short : name.byteSize ≤ nameLimit)
      (entry : t.shapeAt (here ++ [name]) = some shape) (direct : shape.isLink = false)
      (more : Leads t k (here ++ [name]) rest stop) : Leads t k here (.down name :: rest) stop
  | link {k : Nat} {here stop : Location} {name target : Text} {rest : List Step}
      (folder : t.shapeAt here = some .folder) (short : name.byteSize ≤ nameLimit)
      (entry : t.shapeAt (here ++ [name]) = some (.link target))
      (more : Leads t k (if startsAtRoot target then [] else here) (steps target ++ rest) stop) :
      Leads t (k + 1) here (.down name :: rest) stop

/-! ### Walks follow routes -/

section advance

variable {t : Tree} {here : Location} {rest : List Step}

theorem advance_stay (h : t.shapeAt here = some .folder) :
    t.advance true here (.stay :: rest) = t.advance true here rest := by
  obtain ⟨a, inner, hat⟩ := shapeAt_eq_folder_iff.mp h
  rw [advance, hat]

theorem advance_up (h : t.shapeAt here = some .folder) :
    t.advance true here (.up :: rest) = t.advance true here.dropLast rest := by
  obtain ⟨a, inner, hat⟩ := shapeAt_eq_folder_iff.mp h
  rw [advance, hat]

theorem advance_down_long (h : t.shapeAt here = some .folder) {name : Text}
    (hlong : nameLimit < name.byteSize) :
    t.advance true here (.down name :: rest) = .error .nameTooLong := by
  obtain ⟨a, inner, hat⟩ := shapeAt_eq_folder_iff.mp h
  rw [advance, hat]
  exact if_pos hlong

theorem advance_down_none (h : t.shapeAt here = some .folder) {name : Text}
    (hshort : name.byteSize ≤ nameLimit) (hentry : t.shapeAt (here ++ [name]) = none) :
    t.advance true here (.down name :: rest) =
      if rest.isEmpty then .ok (.place (.absent here name)) else .error .missing := by
  obtain ⟨a, inner, hat⟩ := shapeAt_eq_folder_iff.mp h
  rw [shapeAt, at?_child hat, Option.map_eq_none_iff] at hentry
  rw [advance, hat]
  simp only [Nat.not_lt.mpr hshort, if_false, hentry]

theorem advance_down_link (h : t.shapeAt here = some .folder) {name target : Text}
    (hshort : name.byteSize ≤ nameLimit)
    (hentry : t.shapeAt (here ++ [name]) = some (.link target)) :
    t.advance true here (.down name :: rest) = .ok (.link here target rest) := by
  obtain ⟨a, inner, hat⟩ := shapeAt_eq_folder_iff.mp h
  rw [shapeAt_eq_link_iff, at?_child hat] at hentry
  rw [advance, hat]
  simp only [Nat.not_lt.mpr hshort, if_false, hentry, Bool.not_true, Bool.and_false,
    Bool.false_eq_true]

theorem advance_down_direct (h : t.shapeAt here = some .folder) {name : Text} {shape : Shape}
    (hshort : name.byteSize ≤ nameLimit) (hentry : t.shapeAt (here ++ [name]) = some shape)
    (hdirect : shape.isLink = false) :
    t.advance true here (.down name :: rest) = t.advance true (here ++ [name]) rest := by
  obtain ⟨a, inner, hat⟩ := shapeAt_eq_folder_iff.mp h
  obtain ⟨node, hnode, rfl⟩ := Option.map_eq_some_iff.mp hentry
  rw [at?_child hat] at hnode
  rw [advance, hat]
  cases node with
  | file b content => simp only [Nat.not_lt.mpr hshort, if_false, hnode]
  | link target => simp [Node.shape, Shape.isLink] at hdirect
  | folder b deeper => simp only [Nat.not_lt.mpr hshort, if_false, hnode]

/-- No step is taken outside a folder. -/
theorem advance_of_not_folder (h : t.shapeAt here ≠ some .folder) (step : Step)
    (rest : List Step) : ∃ reason, t.advance true here (step :: rest) = .error reason := by
  rw [advance]
  split
  · rename_i a inner hat
    exact absurd (shapeAt_eq_folder_iff.mpr ⟨a, inner, hat⟩) h
  · exact ⟨_, rfl⟩
  · exact ⟨_, rfl⟩

end advance

/-- What an advance over steps says about routes: it is at the end of one, or it is at a
link, and a route over what remains is one over the steps. -/
def Reached.Explains (t : Tree) (here : Location) (todo : List Step) : Reached → Prop
  | .place (.found stop node) => t.Leads 0 here todo stop ∧ t.at? stop = some node
  | .place (.absent _ _) => True
  | .link folder target remaining =>
      ∀ k stop,
        t.Leads k (if startsAtRoot target then [] else folder) (steps target ++ remaining) stop →
          t.Leads (k + 1) here todo stop

theorem explains_of_advance {t : Tree} {here : Location} {todo : List Step} {reached : Reached}
    (h : t.advance true here todo = .ok reached) : reached.Explains t here todo := by
  induction todo generalizing here with
  | nil =>
      rw [advance_nil] at h
      cases hat : t.at? here with
      | none => simp [hat] at h
      | some node =>
          simp only [hat, Option.elim_some, Except.ok.injEq] at h
          subst h
          exact ⟨.here here, hat⟩
  | cons step rest ih =>
      by_cases hfolder : t.shapeAt here = some .folder
      · -- a step that is no link puts itself in front of whatever the rest explains
        have hfront : ∀ next,
          (∀ k stop, t.Leads k next rest stop → t.Leads k here (step :: rest) stop) →
            reached.Explains t next rest → reached.Explains t here (step :: rest) := by
          intro next hmore hexplains
          match reached, hexplains with
          | .place (.found stop node), ⟨hleads, hat⟩ => exact ⟨hmore 0 stop hleads, hat⟩
          | .place (.absent _ _), _ => trivial
          | .link folder target remaining, hleads =>
              exact fun k stop hk => hmore (k + 1) stop (hleads k stop hk)
        cases step with
        | stay =>
            rw [advance_stay hfolder] at h
            exact hfront here (fun _ _ hk => .stay hfolder hk) (ih h)
        | up =>
            rw [advance_up hfolder] at h
            exact hfront here.dropLast (fun _ _ hk => .up hfolder hk) (ih h)
        | down name =>
            by_cases hlong : nameLimit < name.byteSize
            · rw [advance_down_long hfolder hlong] at h
              cases h
            have hshort : name.byteSize ≤ nameLimit := Nat.le_of_not_lt hlong
            cases hentry : t.shapeAt (here ++ [name]) with
            | none =>
                rw [advance_down_none hfolder hshort hentry] at h
                split at h
                · cases h
                  trivial
                · cases h
            | some shape =>
                cases hdirect : shape.isLink with
                | false =>
                    rw [advance_down_direct hfolder hshort hentry hdirect] at h
                    exact hfront (here ++ [name])
                      (fun _ _ hk => .down hfolder hshort hentry hdirect hk) (ih h)
                | true =>
                    cases shape with
                    | link target =>
                        rw [advance_down_link hfolder hshort hentry] at h
                        cases h
                        exact fun k stop hk => .link hfolder hshort hentry hk
                    | file a content => simp [Shape.isLink] at hdirect
                    | folder => simp [Shape.isLink] at hdirect
      · obtain ⟨reason, he⟩ := advance_of_not_folder hfolder step rest
        rw [he] at h
        cases h

/-- A walk that finds something has followed a route. -/
theorem leads_of_walk {t : Tree} {links : Nat} {here stop : Location} {todo : List Step}
    {node : Node} (h : t.walk true links here todo = .ok (.found stop node)) :
    (∃ k, k ≤ links ∧ t.Leads k here todo stop) ∧ t.at? stop = some node := by
  induction links generalizing here todo with
  | zero =>
      rw [walk] at h
      cases ha : t.advance true here todo with
      | error reason => simp [ha] at h
      | ok reached =>
          have hexplains := explains_of_advance ha
          match reached, hexplains with
          | .place (.found a n), ⟨hleads, hat⟩ =>
              simp only [ha, Except.ok.injEq, Place.found.injEq] at h
              obtain ⟨rfl, rfl⟩ := h
              exact ⟨⟨0, Nat.le_refl 0, hleads⟩, hat⟩
          | .place (.absent _ _), _ => simp [ha] at h
          | .link _ _ _, _ => simp [ha] at h
  | succ links ih =>
      rw [walk] at h
      cases ha : t.advance true here todo with
      | error reason => simp [ha] at h
      | ok reached =>
          have hexplains := explains_of_advance ha
          match reached, hexplains with
          | .place (.found a n), ⟨hleads, hat⟩ =>
              simp only [ha, Except.ok.injEq, Place.found.injEq] at h
              obtain ⟨rfl, rfl⟩ := h
              exact ⟨⟨0, Nat.zero_le _, hleads⟩, hat⟩
          | .place (.absent _ _), _ => simp [ha] at h
          | .link folder target remaining, hmore =>
              simp only [ha] at h
              obtain ⟨⟨k, hk, hleads⟩, hat⟩ := ih h
              exact ⟨⟨k + 1, Nat.succ_le_succ hk, hmore k stop hleads⟩, hat⟩

/-- A walk is decided by its first advance. -/
theorem walk_congr {t : Tree} {here next : Location} {todo rest : List Step}
    (h : t.advance true here todo = t.advance true next rest) (links : Nat) :
    t.walk true links here todo = t.walk true links next rest := by
  cases links <;> rw [walk, walk, h]

/-- A route is walked, if there are links enough. -/
theorem walk_of_leads {t : Tree} {k links : Nat} {here stop : Location} {todo : List Step}
    {node : Node} (h : t.Leads k here todo stop) (hk : k ≤ links) (hat : t.at? stop = some node) :
    t.walk true links here todo = .ok (.found stop node) := by
  induction h generalizing links with
  | here here => cases links <;> simp [walk, advance_nil, hat]
  | stay folder _ ih => rw [walk_congr (advance_stay folder), ih hk hat]
  | up folder _ ih => rw [walk_congr (advance_up folder), ih hk hat]
  | down folder short entry direct _ ih =>
      rw [walk_congr (advance_down_direct folder short entry direct), ih hk hat]
  | link folder short entry _ ih =>
      cases links with
      | zero => omega
      | succ links =>
          rw [walk, advance_down_link folder short entry]
          exact ih (Nat.le_of_succ_le_succ hk) hat

/-- A path leads to something exactly if there is a route for it. -/
theorem lookup_eq_ok_iff {t : Tree} {path : Text} {stop : Location} {node : Node} :
    t.lookup true path = .ok (stop, node) ↔
      breach? path = none ∧ path ≠ "" ∧ path.byteSize ≤ pathLimit ∧
      (∃ k, k ≤ linkLimit ∧ t.Leads k (t.start path) (steps path) stop) ∧
        t.at? stop = some node := by
  unfold lookup follow
  constructor
  · intro h
    split at h
    · cases h
    · rename_i hsound
      by_cases hempty : path = ""
      · rw [if_pos hempty] at h
        cases h
      by_cases hlong : pathLimit < path.byteSize
      · rw [if_neg hempty, if_pos hlong] at h
        cases h
      rw [if_neg hempty, if_neg hlong] at h
      split at h
      · cases h
      · cases h
      · rename_i hwalk
        cases h
        exact ⟨hsound, hempty, Nat.le_of_not_lt hlong, leads_of_walk hwalk⟩
  · rintro ⟨hsound, hempty, hlong, ⟨k, hk, hleads⟩, hat⟩
    rw [hsound, if_neg hempty, if_neg (Nat.not_lt.mpr hlong), walk_of_leads hleads hk hat]

/-- What has a modification time is behind its path. -/
theorem exists_lookup_of_modifiedMillis {t : Tree} {path : Text} {time : Int}
    (h : t.modifiedMillis path = .ok time) :
    ∃ stop node, t.lookup true path = .ok (stop, node) := by
  cases hlookup : t.lookup true path with
  | ok found => exact ⟨found.1, found.2, rfl⟩
  | error f =>
      simp only [modifiedMillis, attributesOf, Storage.Tree.node, hlookup] at h
      cases h

theorem sound_of_modifiedMillis {t : Tree} {path : Text} {time : Int}
    (h : t.modifiedMillis path = .ok time) : breach? path = none := by
  obtain ⟨_, _, hlookup⟩ := exists_lookup_of_modifiedMillis h
  exact (lookup_eq_ok_iff.mp hlookup).1

/-- A path designates a name in a folder exactly if there is a route to the folder for all
steps but the last, which is the name. -/
theorem slot_eq_entry_iff {t : Tree} {path : Text} {folder : Location} {name : Text} :
    t.slot path = .ok (.entry folder name) ↔
      path ≠ "" ∧ path.byteSize ≤ pathLimit ∧
      (∃ k, k ≤ linkLimit ∧ t.Leads k (t.start path) (steps path).dropLast folder) ∧
      t.shapeAt folder = some .folder ∧ (steps path).getLast? = some (.down name) ∧
      name.byteSize ≤ nameLimit := by
  unfold slot
  constructor
  · intro h
    by_cases hempty : path = ""
    · rw [if_pos hempty] at h
      cases h
    by_cases hlong : pathLimit < path.byteSize
    · rw [if_neg hempty, if_pos hlong] at h
      cases h
    rw [if_neg hempty, if_neg hlong] at h
    simp only at h
    split at h
    · cases h
    · cases h
    · rename_i stop node hwalk
      obtain ⟨hleads, hat⟩ := leads_of_walk hwalk
      split at h
      · cases h
      · rename_i hfolder
        split at h
        · rename_i last hlast
          split at h
          · cases h
          · rename_i hshort
            cases h
            refine ⟨hempty, Nat.le_of_not_lt hlong, hleads, ?_, hlast, Nat.le_of_not_lt hshort⟩
            cases node with
            | folder a inner => exact shapeAt_eq_folder_iff.mpr ⟨a, inner, hat⟩
            | file a content => simp [Node.isFolder] at hfolder
            | link target => simp [Node.isFolder] at hfolder
        · cases h
  · rintro ⟨hempty, hlong, ⟨k, hk, hleads⟩, hfolder, hlast, hshort⟩
    obtain ⟨a, inner, hat⟩ := shapeAt_eq_folder_iff.mp hfolder
    rw [if_neg hempty, if_neg (Nat.not_lt.mpr hlong)]
    simp only [walk_of_leads hleads hk hat, Node.isFolder, Bool.not_true, Bool.false_eq_true,
      if_false, hlast, if_neg (Nat.not_lt.mpr hshort)]

/-- The content of a file is what stands at the end of a route. -/
theorem bytesOf_eq_ok_iff {t : Tree} {path : Text} {bytes : List UInt8} :
    t.bytesOf path = .ok bytes ↔
      ∃ stop a, t.lookup true path = .ok (stop, .file a bytes) := by
  unfold bytesOf node
  cases h : t.lookup true path with
  | error f =>
      constructor
      · intro h'
        cases h'
      · rintro ⟨stop, a, h'⟩
        cases h'
  | ok found =>
      obtain ⟨stop, node⟩ := found
      cases node with
      | file a content =>
          constructor
          · intro h'
            cases h'
            exact ⟨stop, a, rfl⟩
          · rintro ⟨stop', a', h'⟩
            cases h'
            rfl
      | folder a inner =>
          constructor
          · intro h'
            cases h'
          · rintro ⟨stop', a', h'⟩
            cases h'
      | link target =>
          constructor
          · intro h'
            cases h'
          · rintro ⟨stop', a', h'⟩
            cases h'

/-- A path leads to a folder if one stands at the end of a route. -/
theorem isFolder_eq_true_iff {t : Tree} {path : Text} :
    t.isFolder path = .ok true ↔
      ∃ stop a inner, t.lookup true path = .ok (stop, .folder a inner) := by
  unfold isFolder asks node
  cases h : t.lookup true path with
  | error f =>
      constructor
      · intro h'
        cases f with
        | broken b => cases h'
        | refused r =>
            simp only [Except.map] at h'
            split at h' <;> cases h'
      · rintro ⟨stop, a, inner, h'⟩
        cases h'
  | ok found =>
      obtain ⟨stop, node⟩ := found
      cases node with
      | folder a inner => simp [Except.map, Node.isFolder]
      | file a content => simp [Except.map, Node.isFolder]
      | link target => simp [Except.map, Node.isFolder]

/-- Something can be seen if it stands at the end of a route. -/
theorem canBeSeen_eq_true_iff {t : Tree} {path : Text} :
    t.canBeSeen path = true ↔ ∃ stop node, t.lookup true path = .ok (stop, node) := by
  unfold canBeSeen node
  cases h : t.lookup true path with
  | error f => simp [Except.map, Except.isOk, Except.toBool]
  | ok found =>
      obtain ⟨stop, node⟩ := found
      simp [Except.map, Except.isOk, Except.toBool]

theorem canBeSeen_of_bytesOf {t : Tree} {path : Text} {bytes : List UInt8}
    (h : t.bytesOf path = .ok bytes) : t.canBeSeen path = true := by
  obtain ⟨stop, a, hlookup⟩ := bytesOf_eq_ok_iff.mp h
  exact canBeSeen_eq_true_iff.mpr ⟨stop, _, hlookup⟩

/-! ### Laws of routes -/

namespace Leads

/-- Steps lead to one place only. -/
theorem unique {t : Tree} {k m : Nat} {here a b : Location} {todo : List Step}
    (ha : t.Leads k here todo a) (hb : t.Leads m here todo b) : a = b := by
  induction ha generalizing m with
  | here here =>
      cases hb
      rfl
  | stay _ _ ih =>
      cases hb with
      | stay _ more => exact ih more
  | up _ _ ih =>
      cases hb with
      | up _ more => exact ih more
  | down _ _ entry direct _ ih =>
      cases hb with
      | down _ _ _ _ more => exact ih more
      | link _ _ entry' _ =>
          rw [entry] at entry'
          cases entry'
          simp [Shape.isLink] at direct
  | link _ _ entry _ ih =>
      cases hb with
      | down _ _ entry' direct _ =>
          rw [entry] at entry'
          cases entry'
          simp [Shape.isLink] at direct
      | link _ _ entry' more =>
          rw [entry] at entry'
          cases entry'
          exact ih more

/-- A route over steps and more steps passes a place in between. -/
theorem split {t : Tree} {k : Nat} {here stop : Location} {todo : List Step}
    (h : t.Leads k here todo stop) :
    ∀ a b, todo = a ++ b → ∃ i j middle, i + j = k ∧ t.Leads i here a middle ∧
      t.Leads j middle b stop := by
  induction h with
  | here here =>
      intro a b hab
      obtain ⟨rfl, rfl⟩ := List.append_eq_nil_iff.mp hab.symm
      exact ⟨0, 0, here, rfl, .here here, .here here⟩
  | @stay k here stop rest folder more ih =>
      intro a b hab
      cases a with
      | nil =>
          rw [List.nil_append] at hab
          exact ⟨0, k, here, Nat.zero_add k, .here here, hab ▸ .stay folder more⟩
      | cons step a =>
          obtain ⟨rfl, rfl⟩ := List.cons.inj hab
          obtain ⟨i, j, middle, hij, hi, hj⟩ := ih a b rfl
          exact ⟨i, j, middle, hij, .stay folder hi, hj⟩
  | @up k here stop rest folder more ih =>
      intro a b hab
      cases a with
      | nil =>
          rw [List.nil_append] at hab
          exact ⟨0, k, here, Nat.zero_add k, .here here, hab ▸ .up folder more⟩
      | cons step a =>
          obtain ⟨rfl, rfl⟩ := List.cons.inj hab
          obtain ⟨i, j, middle, hij, hi, hj⟩ := ih a b rfl
          exact ⟨i, j, middle, hij, .up folder hi, hj⟩
  | @down k here stop name rest shape folder short entry direct more ih =>
      intro a b hab
      cases a with
      | nil =>
          rw [List.nil_append] at hab
          exact ⟨0, k, here, Nat.zero_add k, .here here, hab ▸ .down folder short entry direct more⟩
      | cons step a =>
          obtain ⟨rfl, rfl⟩ := List.cons.inj hab
          obtain ⟨i, j, middle, hij, hi, hj⟩ := ih a b rfl
          exact ⟨i, j, middle, hij, .down folder short entry direct hi, hj⟩
  | @link k here stop name target rest folder short entry more ih =>
      intro a b hab
      cases a with
      | nil =>
          rw [List.nil_append] at hab
          exact ⟨0, k + 1, here, Nat.zero_add _, .here here, hab ▸ .link folder short entry more⟩
      | cons step a =>
          obtain ⟨rfl, rfl⟩ := List.cons.inj hab
          obtain ⟨i, j, middle, hij, hi, hj⟩ :=
            ih (steps target ++ a) b (List.append_assoc _ a b).symm
          exact ⟨i + 1, j, middle, by omega, .link folder short entry hi, hj⟩

/-- Routes are put together. -/
theorem append {t : Tree} {i j : Nat} {here middle stop : Location} {a b : List Step}
    (h : t.Leads i here a middle) (h' : t.Leads j middle b stop) :
    t.Leads (i + j) here (a ++ b) stop := by
  induction h with
  | here here => rwa [Nat.zero_add]
  | stay folder _ ih => exact .stay folder (ih h')
  | up folder _ ih => exact .up folder (ih h')
  | down folder short entry direct _ ih => exact .down folder short entry direct (ih h')
  | @link k here stop name target rest folder short entry _ ih =>
      have hmore := ih h'
      rw [List.append_assoc] at hmore
      rw [Nat.add_right_comm]
      exact .link folder short entry hmore

/-- A route over at least one step starts in a folder. -/
theorem folder_of_cons {t : Tree} {k : Nat} {here stop : Location} {step : Step}
    {rest : List Step} (h : t.Leads k here (step :: rest) stop) :
    t.shapeAt here = some .folder := by
  cases h <;> assumption

/-- Steps that stay in place may be left out. -/
theorem thin {t : Tree} {k : Nat} {here stop : Location} {todo : List Step}
    (h : t.Leads k here todo stop) {rest : List Step} (hrest : Thinned todo rest) :
    t.Leads k here rest stop := by
  induction h generalizing rest with
  | here here =>
      cases hrest
      exact .here here
  | stay folder _ ih =>
      cases hrest with
      | keep _ hmore => exact .stay folder (ih hmore)
      | drop hmore => exact ih hmore
  | up folder _ ih =>
      cases hrest with
      | keep _ hmore => exact .up folder (ih hmore)
  | down folder short entry direct _ ih =>
      cases hrest with
      | keep _ hmore => exact .down folder short entry direct (ih hmore)
  | link folder short entry _ ih =>
      cases hrest with
      | keep _ hmore => exact .link folder short entry (ih ((Thinned.refl _).append hmore))

/-- On the way to a folder, steps that stay in place may be put in. -/
theorem thicken {t : Tree} {k : Nat} {here stop : Location} {rest : List Step}
    (h : t.Leads k here rest stop) (hstop : t.shapeAt stop = some .folder) {todo : List Step}
    (hrest : Thinned todo rest) : t.Leads k here todo stop := by
  induction h generalizing todo with
  | here here =>
      generalize hnil : ([] : List Step) = rest at hrest
      induction hrest with
      | nil => exact .here here
      | keep _ _ => cases hnil
      | drop _ ih => exact .stay hstop (ih hnil)
  | @stay k here stop rest folder more ih =>
      generalize hcons : Step.stay :: rest = all at hrest
      induction hrest with
      | nil => cases hcons
      | keep _ hmore =>
          obtain ⟨rfl, rfl⟩ := List.cons.inj hcons
          exact .stay folder (ih hstop hmore)
      | drop _ ih' => exact .stay folder (ih' hcons)
  | @up k here stop rest folder more ih =>
      generalize hcons : Step.up :: rest = all at hrest
      induction hrest with
      | nil => cases hcons
      | keep _ hmore =>
          obtain ⟨rfl, rfl⟩ := List.cons.inj hcons
          exact .up folder (ih hstop hmore)
      | drop _ ih' => exact .stay folder (ih' hcons)
  | @down k here stop name rest shape folder short entry direct more ih =>
      generalize hcons : Step.down name :: rest = all at hrest
      induction hrest with
      | nil => cases hcons
      | keep _ hmore =>
          obtain ⟨rfl, rfl⟩ := List.cons.inj hcons
          exact .down folder short entry direct (ih hstop hmore)
      | drop _ ih' => exact .stay folder (ih' hcons)
  | @link k here stop name target rest folder short entry more ih =>
      generalize hcons : Step.down name :: rest = all at hrest
      induction hrest with
      | nil => cases hcons
      | keep _ hmore =>
          obtain ⟨rfl, rfl⟩ := List.cons.inj hcons
          exact .link folder short entry (ih hstop ((Thinned.refl _).append hmore))
      | drop _ ih' => exact .stay folder (ih' hcons)

/-- A route is one in another tree too that has the same shapes, up to files that the
route does not end at. -/
theorem transfer_of_shapes {t t' : Tree} {k : Nat} {here stop : Location} {todo : List Step}
    (h : t.Leads k here todo stop)
    (hsame : ∀ location shape, t.shapeAt location = some shape →
      t'.shapeAt location = some shape ∨ (shape.isFile = true ∧ location ≠ stop)) :
    t'.Leads k here todo stop := by
  have hway : ∀ location shape, t.shapeAt location = some shape → shape.isFile = false →
      t'.shapeAt location = some shape := by
    intro location shape hl hf
    rcases hsame location shape hl with h' | ⟨hfile, _⟩
    · exact h'
    · rw [hfile] at hf
      cases hf
  induction h with
  | here here => exact .here here
  | stay folder _ ih => exact .stay (hway _ _ folder rfl) (ih hsame)
  | up folder _ ih => exact .up (hway _ _ folder rfl) (ih hsame)
  | link folder short entry _ ih =>
      exact .link (hway _ _ folder rfl) short (hway _ _ entry rfl) (ih hsame)
  | @down k here stop name rest shape folder short entry direct more ih =>
      rcases hsame _ shape entry with hentry | ⟨hfile, hne⟩
      · exact .down (hway _ _ folder rfl) short hentry direct (ih hsame)
      · -- nothing follows a file on a route
        cases rest with
        | nil =>
            cases more
            exact absurd rfl hne
        | cons step rest =>
            have hinside := more.folder_of_cons
            rw [entry] at hinside
            cases hinside
            cases hfile

/-- A route is one in another tree too that has the same folders, and the same links on
the way, as long as there is something at the end that is no link. -/
theorem transfer_of_links {t t' : Tree} {k : Nat} {here stop : Location} {todo : List Step}
    (h : t.Leads k here todo stop)
    (hfolders : ∀ location, t.shapeAt location = some .folder →
      t'.shapeAt location = some .folder)
    (hlinks : ∀ m folder name target rest, t.shapeAt (folder ++ [name]) = some (.link target) →
      t.Leads m (if startsAtRoot target then [] else folder) (steps target ++ rest) stop →
      t'.shapeAt (folder ++ [name]) = some (.link target))
    {last : Shape} (hstop : t'.shapeAt stop = some last) (hlast : last.isLink = false) :
    t'.Leads k here todo stop := by
  induction h with
  | here here => exact .here here
  | stay folder _ ih => exact .stay (hfolders _ folder) (ih hlinks hstop)
  | up folder _ ih => exact .up (hfolders _ folder) (ih hlinks hstop)
  | @down k here stop name rest shape folder short entry direct more ih =>
      cases shape with
      | folder => exact .down (hfolders _ folder) short (hfolders _ entry) rfl (ih hlinks hstop)
      | link target => simp [Shape.isLink] at direct
      | file a content =>
          -- a file ends the route, and there is something in the other tree too
          cases rest with
          | nil =>
              cases more
              exact .down (hfolders _ folder) short hstop hlast (.here _)
          | cons step rest =>
              have hinside := more.folder_of_cons
              rw [entry] at hinside
              cases hinside
  | link folder short entry more ih =>
      exact .link (hfolders _ folder) short (hlinks _ _ _ _ _ entry more) (ih hlinks hstop)

/-- A route is one in another tree too that has the same folders and links. -/
theorem transfer {t t' : Tree} {k : Nat} {here stop : Location} {todo : List Step}
    (h : t.Leads k here todo stop)
    (hsame : ∀ location shape, t.shapeAt location = some shape → shape.isFile = false →
      t'.shapeAt location = some shape)
    {last : Shape} (hstop : t'.shapeAt stop = some last) (hlast : last.isLink = false) :
    t'.Leads k here todo stop :=
  h.transfer_of_links (fun location hl => hsame location .folder hl rfl)
    (fun _ _ _ target _ hl _ => hsame _ (.link target) hl rfl) hstop hlast

end Leads

end Tree

end GoogIndex.Storage
