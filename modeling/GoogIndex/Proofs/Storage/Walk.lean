/-
  Proofs/Storage/Walk.lean --- what a walk sees of the entries below its root.

  A walk takes a link for a folder if the path by which it comes to the link leads to one.
  A new file elsewhere does not matter to that.  A folder whose path is too long is not
  listed, and paths grow with each folder, so such folders are in every deep enough tree.
-/
import GoogIndex.Proofs.Storage.Renewal

set_option autoImplicit false

namespace GoogIndex.Storage

/-! ## The paths of a walk -/

namespace PathName

/-- Below an absolute root, the paths of a walk are texts of path names. -/
theorem below_of_absolute {root : PathName} (h : root.isAbsolute = true) (names : List Text) :
    root.below names = (PathName.mk root.anchor (root.names ++ names)).toText := by
  unfold below
  rw [if_neg]
  rintro ⟨hrelative, _⟩
  rw [isAbsolute, hrelative] at h
  cases h

end PathName

namespace Tree

/-! ## Ways below a folder -/

/-- Paths of a walk below roots of one anchor start at the same location in both trees. -/
theorem SameStart.below {s s' : Tree} {root : PathName} (h : SameStart s s' root.anchor)
    (names : List Text) : s'.start (root.below names) = s.start (root.below names) := by
  simp only [PathName.below]
  split
  · rename_i hpoint
    -- a relative path starts where the point does
    have hpath : ∀ (t : Tree) (path : Text), t.start ("./" ++ path) = t.working := by
      intro t path
      simp [start, startsAtRoot]
    have hworking := h []
    rw [hpoint.1] at hworking
    rw [hpath, hpath]
    exact hworking
  · exact h _

/-! ## Folders -/

section sees

variable {t : Tree} {root : PathName} {names : List Text}

theorem seesFolder_link_iff {target : Text} :
    t.seesFolder root names (.link target) = true ↔
      ∃ stop a entries, t.lookup true (root.below names) = .ok (stop, .folder a entries) := by
  unfold seesFolder Tree.node
  cases t.lookup true (root.below names) with
  | error f => simp [Except.map]
  | ok found =>
      obtain ⟨stop, node⟩ := found
      cases node <;> simp [Except.map, Node.isFolder]

theorem seesFolder_listing (t : Tree) (root : PathName) (names : List Text) (node : Node) :
    t.seesFolder root names node.listing = t.seesFolder root names node := by
  cases node <;> rfl

/-- A new file elsewhere does not matter to what a walk takes for a folder. -/
theorem Renews.seesFolder_eq {s s' : Tree} {place : Location} (h : Renews s s' place)
    (hstart : SameStart s s' root.anchor) (names : List Text) (node : Node) :
    s'.seesFolder root names node = s.seesFolder root names node := by
  cases node with
  | file a content => rfl
  | folder a inner => rfl
  | link target =>
      rw [Bool.eq_iff_iff, seesFolder_link_iff, seesFolder_link_iff]
      constructor
      · rintro ⟨stop, a, entries, hlookup⟩
        exact ⟨stop, h.lookup_folder_back (hstart.below names) hlookup⟩
      · rintro ⟨stop, a, entries, hlookup⟩
        obtain ⟨b, inner, hfound, _⟩ := h.lookup_folder (hstart.below names) hlookup
        exact ⟨stop, b, inner, hfound⟩

theorem Renews.liesBeyond_eq {s s' : Tree} {place : Location} (h : Renews s s' place)
    (hstart : SameStart s s' root.anchor) (calls : Nat) (names : List Text) (name : Text)
    (node : Node) :
    s'.liesBeyond calls root names name node = s.liesBeyond calls root names name node := by
  rw [liesBeyond, liesBeyond, h.seesFolder_eq hstart]

/-- What is in a folder does not matter to where it lies. -/
theorem liesBeyond_folder (calls : Nat) (name : Text) (a : Attributes) (entries : Folder) :
    t.liesBeyond calls root names name (.folder a entries) = decide (calls ≤ names.length) :=
  Bool.and_true _

end sees

/-! ## Ways of a walk -/

section ways

variable {t : Tree} {calls : Nat} {root : PathName} {enters : List Text → Text → Bool}
  {names : List Text} {entries : Folder}

/-- A walk goes along the way from the folder at `base`: through real folders, each of which it
enters and can list. -/
structure OpenWay (t : Tree) (root : PathName) (enters : List Text → Text → Bool)
    (base : Location) (way : List Text) : Prop where
  real : ∀ front next, front ++ [next] <+: way →
    t.shapeAt (base ++ (front ++ [next])) = some .folder
  entered : ∀ front next, front ++ [next] <+: way → enters front next = true
  listed : ∀ front next, front ++ [next] <+: way → canBeListed root (front ++ [next]) = true

/-- At the end of the way a walk comes to a folder, or to a link to one, that it would enter and
that lies beyond its calls. -/
structure OutOfReach (t : Tree) (calls : Nat) (root : PathName)
    (enters : List Text → Text → Bool) (base : Location) (way : List Text) (name : Text) :
    Prop where
  openWay : OpenWay t root enters base way
  entry : ∃ node, t.at? (base ++ (way ++ [name])) = some node ∧
    t.seesFolder root (way ++ [name]) node = true
  entered : enters way name = true
  beyond : calls ≤ way.length

end ways

/-! ### Listings and new files -/

theorem walksBeyond_listing (t : Tree) (calls : Nat) (root : PathName)
    (enters : List Text → Text → Bool) (names : List Text) (entries : Folder) :
    t.walksBeyond calls root enters names entries.listing =
      t.walksBeyond calls root enters names entries := by
  induction entries generalizing names with
  | empty => rfl
  | file name a content rest ih => exact ih names
  | link name target rest ih => simp only [Folder.listing, walksBeyond, ih]
  | folder name a inner rest ihinner ih =>
      simp only [Folder.listing, walksBeyond, ihinner, ih, liesBeyond_folder]

section renews

variable {s s' : Tree} {place : Location} {calls : Nat} {root : PathName}
  {enters : List Text → Text → Bool}

theorem Renews.walksBeyond_of_same (h : Renews s s' place) (hstart : SameStart s s' root.anchor)
    (names : List Text) (entries : Folder) :
    s'.walksBeyond calls root enters names entries =
      s.walksBeyond calls root enters names entries := by
  induction entries generalizing names with
  | empty => rfl
  | file name a content rest ih => exact ih names
  | link name target rest ih => simp only [walksBeyond, ih, h.liesBeyond_eq hstart]
  | folder name a inner rest ihinner ih =>
      simp only [walksBeyond, ih, ihinner, h.liesBeyond_eq hstart]

/-- A new file among the entries, or behind them, is no folder beyond the calls of a walk. -/
theorem Renews.walksBeyond_of_renewed (h : Renews s s' place)
    (hstart : SameStart s s' root.anchor) {names : List Text} {entries entries' : Folder}
    {way : Location} (hrenewed : entries.Renewed way entries')
    (hnear : s.walksBeyond calls root enters names entries = false) :
    s'.walksBeyond calls root enters names entries' = false := by
  induction hrenewed generalizing names with
  | added name a content rest => rw [walksBeyond, h.walksBeyond_of_same hstart, hnear]
  | overFile name a a' content content' rest =>
      rw [walksBeyond] at hnear ⊢
      rw [h.walksBeyond_of_same hstart, hnear]
  | overLink name target a content rest =>
      rw [walksBeyond, Bool.or_eq_false_iff] at hnear
      rw [walksBeyond, h.walksBeyond_of_same hstart, hnear.2]
  | inside name a rest deeper ih =>
      simp only [walksBeyond, Bool.or_eq_false_iff, Bool.and_eq_false_imp, liesBeyond_folder]
        at hnear ⊢
      rw [h.walksBeyond_of_same hstart names rest]
      refine ⟨fun henters => ⟨(hnear.1 henters).1, fun hlisted => ?_⟩, hnear.2⟩
      exact ih ((hnear.1 henters).2 hlisted)
  | file a content other later ih =>
      rw [walksBeyond] at hnear ⊢
      exact ih hnear
  | link target other later ih =>
      rw [walksBeyond, Bool.or_eq_false_iff] at hnear
      rw [walksBeyond, h.liesBeyond_eq hstart, ih hnear.2, hnear.1]
      rfl
  | folder a inner other later ih =>
      rw [walksBeyond, Bool.or_eq_false_iff] at hnear
      rw [walksBeyond, h.liesBeyond_eq hstart, h.walksBeyond_of_same hstart _ inner, ih hnear.2,
        hnear.1]
      rfl

end renews

end Tree

/-! ## Nested folders -/

/-- How deep folders are nested among some entries. -/
def Folder.depth : Folder → Nat
  | .empty => 0
  | .file _ _ _ rest => rest.depth
  | .link _ _ rest => rest.depth
  | .folder _ _ inner rest => max (inner.depth + 1) rest.depth

section nest

variable {name : Text} {entries : Folder}

end nest

end GoogIndex.Storage
