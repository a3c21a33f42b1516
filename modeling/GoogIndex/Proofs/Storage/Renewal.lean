/-
  Proofs/Storage/Renewal.lean --- a tree and the same tree with one more file, or a new one.

  A file takes the place of another file, of a link or of nothing.  As long as that link
  led to no folder, no route to anything else goes by it: what could be followed before
  still can, unless it ends at the new file.  Working folders do not matter, so two trees
  are compared on paths that start at the same location in both.
-/
import GoogIndex.Proofs.Storage.Removal

set_option autoImplicit false

namespace GoogIndex.Storage

/-- What lacks a file is renewed by it. -/
theorem Folder.Pruned.renewed {place : Location} {f f' : Folder} (h : f.Pruned place f') :
    f'.listing.Renewed place f.listing := by
  induction h with
  | here name a content rest => exact .added name a content rest.listing
  | inside name a a' rest _ ih => exact .inside name default rest.listing ih
  | file a content other _ ih => exact .file a content other ih
  | link target other _ ih => exact .link target other ih
  | folder a inner other _ ih => exact .folder default inner.listing other ih

namespace Tree

/-- The second tree has a file at a location, in place of another file, of a link that
leads to no folder, or of nothing; nothing else is different. -/
structure Renews (s s' : Tree) (place : Location) : Prop where
  file : ∃ a content, s'.shapeAt place = some (.file a content)
  former : s.shapeAt place ≠ some .folder
  closed : ∀ k folder name stop, place = folder ++ [name] → k ≤ linkLimit →
    s.Leads k folder [.down name] stop → s.shapeAt stop ≠ some .folder
  others : ∀ location, location ≠ place → s'.shapeAt location = s.shapeAt location
  renewed : s.root.listing.Renewed place s'.root.listing

/-- A tree renews what it is without one of its files. -/
theorem Lacks.renews {t bare : Tree} {place : Location} (h : Lacks t bare place) :
    Renews bare t place := by
  refine ⟨h.file, by simp [h.gone], ?_, fun location hne => (h.others location hne).symm,
    h.pruned.renewed⟩
  rintro k folder name stop rfl _ hleads
  have hgone := h.gone
  cases hleads with
  | down _ _ entry _ _ =>
      rw [hgone] at entry
      cases entry
  | link _ _ entry _ =>
      rw [hgone] at entry
      cases entry

/-- A replaced entry renews the tree, unless it was a link to a folder. -/
theorem Replaced.renews {base t : Tree} {folder : Location} {name : Text}
    {content : List UInt8} (h : Replaced base t folder name content)
    (hentry : ∀ node, base.at? (folder ++ [name]) = some node →
      base.entryIsFolder folder name node = false) : Renews base t (folder ++ [name]) := by
  obtain ⟨a, hat⟩ := h.entry
  refine ⟨⟨a, content, shapeAt_eq_file_iff.mpr hat⟩, h.former, ?_, ?_, h.renewed⟩
  · intro k there n stop hplace hk hleads hstop
    obtain ⟨rfl, hn⟩ := List.append_inj' hplace rfl
    cases hn
    have hall := hleads
    cases hleads with
    | down _ _ entry _ more =>
        cases more
        exact h.former hstop
    | @link _ _ _ _ target _ _ _ entry _ =>
        obtain ⟨b, inner, hfolder⟩ := shapeAt_eq_folder_iff.mp hstop
        have hlink := hentry _ (shapeAt_eq_link_iff.mp entry)
        rw [entryIsFolder_link_iff.mpr ⟨stop, _, walk_of_leads hall hk hfolder, rfl⟩] at hlink
        cases hlink
  · intro location hne
    by_cases hp : (folder ++ [name]) <+: location
    · rw [shapeAt_of_file hat hp hne]
      obtain ⟨rest, rfl⟩ := hp
      cases rest with
      | nil => exact absurd (List.append_nil _) hne
      | cons next more =>
          cases hshape : base.shapeAt (folder ++ [name] ++ next :: more) with
          | none => rfl
          | some shape => exact absurd (folder_of_shapeAt_append hshape) h.former
    · exact h.others location hp

/-- A tree with the same entries renews the same. -/
theorem Renews.congr {s s' s'' : Tree} {place : Location} (h : Renews s s' place)
    (hattributes : s''.attributes = s'.attributes) (hroot : s''.root = s'.root) :
    Renews s s'' place := by
  have hshape : ∀ location, s''.shapeAt location = s'.shapeAt location := by
    intro location
    rw [shapeAt, shapeAt, at?, at?, hattributes, hroot]
  refine ⟨?_, h.former, h.closed, fun location hne => ?_, ?_⟩
  · rw [hshape]
    exact h.file
  · rw [hshape, h.others location hne]
  · rw [hroot]
    exact h.renewed

/-- The paths of an anchor start at the same location in both trees. -/
def SameStart (s s' : Tree) (anchor : Anchor) : Prop :=
  ∀ names, s'.start (PathName.mk anchor names).toText =
    s.start (PathName.mk anchor names).toText

theorem sameStart_of_working {s s' : Tree} (h : s'.working = s.working) (anchor : Anchor) :
    SameStart s s' anchor := fun _ => start_of_working h _

theorem sameStart_root (s s' : Tree) : SameStart s s' .root := fun _ => by
  rw [start_of_absolute s' (isAbsolute_toText rfl), start_of_absolute s (isAbsolute_toText rfl)]

namespace Renews

variable {s s' : Tree} {place : Location}

/-! ## Routes -/

theorem folder_of_folder (h : Renews s s' place) {location : Location}
    (hl : s.shapeAt location = some .folder) : s'.shapeAt location = some .folder := by
  have hne : location ≠ place := by
    rintro rfl
    exact h.former hl
  rw [h.others location hne, hl]

/-- A route is still there, or it ends at the new file now; then it led to no folder. -/
theorem leads (h : Renews s s' place) {k : Nat} {here stop : Location} {todo : List Step}
    (hleads : s.Leads k here todo stop) (hk : k ≤ linkLimit) :
    s'.Leads k here todo stop ∨
      (s.shapeAt stop ≠ some .folder ∧ ∃ m, m ≤ k ∧ s'.Leads m here todo place) := by
  obtain ⟨a, content, hfile⟩ := h.file
  induction hleads with
  | here here => exact .inl (.here here)
  | stay folder _ ih =>
      have hfolder := h.folder_of_folder folder
      rcases ih hk with hl | ⟨hstop, m, hm, hl⟩
      · exact .inl (.stay hfolder hl)
      · exact .inr ⟨hstop, m, hm, .stay hfolder hl⟩
  | up folder _ ih =>
      have hfolder := h.folder_of_folder folder
      rcases ih hk with hl | ⟨hstop, m, hm, hl⟩
      · exact .inl (.up hfolder hl)
      · exact .inr ⟨hstop, m, hm, .up hfolder hl⟩
  | @down k here stop name rest shape folder short entry direct more ih =>
      have hfolder := h.folder_of_folder folder
      by_cases hplace : here ++ [name] = place
      · subst hplace
        cases rest with
        | nil =>
            cases more
            exact .inl (.down hfolder short hfile rfl (.here _))
        | cons step rest => exact absurd more.folder_of_cons h.former
      · have hentry := (h.others _ hplace).trans entry
        rcases ih hk with hl | ⟨hstop, m, hm, hl⟩
        · exact .inl (.down hfolder short hentry direct hl)
        · exact .inr ⟨hstop, m, hm, .down hfolder short hentry direct hl⟩
  | @link k here stop name target rest folder short entry more ih =>
      have hfolder := h.folder_of_folder folder
      by_cases hplace : here ++ [name] = place
      · cases rest with
        | nil =>
            subst hplace
            exact .inr ⟨h.closed _ here name stop rfl hk (.link folder short entry more), 0,
              Nat.zero_le _, .down hfolder short hfile rfl (.here _)⟩
        | cons step rest =>
            -- the link would lead to a folder
            obtain ⟨i, j, middle, hij, hfirst, hrest⟩ := more.split _ _ rfl
            rw [← List.append_nil (steps target)] at hfirst
            exact absurd hrest.folder_of_cons
              (h.closed (i + 1) here name middle hplace.symm (by omega)
                (.link folder short entry hfirst))
      · have hentry := (h.others _ hplace).trans entry
        rcases ih (by omega) with hl | ⟨hstop, m, hm, hl⟩
        · exact .inl (.link hfolder short hentry hl)
        · exact .inr ⟨hstop, m + 1, by omega, .link hfolder short hentry hl⟩

/-- A route that does not end at the new file was there before. -/
theorem leads_back (h : Renews s s' place) {k : Nat} {here stop : Location} {todo : List Step}
    (hleads : s'.Leads k here todo stop) (hne : stop ≠ place) : s.Leads k here todo stop := by
  refine hleads.transfer_of_shapes fun location shape hl => ?_
  by_cases heq : location = place
  · subst heq
    obtain ⟨a, content, hfile⟩ := h.file
    rw [hfile] at hl
    cases hl
    exact .inr ⟨rfl, Ne.symm hne⟩
  · exact .inl (by rw [← h.others location heq, hl])

/-! ## Refusals -/

/-- An advance to a link, or to a refusal that is more than an absence, does not come by
the new file. -/
theorem advance_of_passed (h : Renews s s' place) {here : Location} {todo : List Step}
    {passed : Except Reason Reached}
    (hpassed : (∃ reason, Reason.isAbsence reason = false ∧ passed = .error reason) ∨
      ∃ folder target remaining, passed = .ok (.link folder target remaining))
    (hadvance : s'.advance true here todo = passed) : s.advance true here todo = passed := by
  have hplace : ∀ p, passed ≠ .ok (.place p) := by
    rintro p rfl
    rcases hpassed with ⟨_, _, he⟩ | ⟨_, _, _, he⟩ <;> cases he
  have habsence : ∀ reason : Reason, Reason.isAbsence reason = true → passed ≠ .error reason := by
    rintro reason hreason rfl
    rcases hpassed with ⟨_, hother, he⟩ | ⟨_, _, _, he⟩
    · cases he
      rw [hreason] at hother
      cases hother
    · cases he
  induction todo generalizing here with
  | nil =>
      rw [advance_nil] at hadvance
      cases hat : s'.at? here with
      | some node =>
          rw [hat] at hadvance
          exact absurd hadvance.symm (hplace _)
      | none =>
          rw [hat] at hadvance
          exact absurd hadvance.symm (habsence .missing rfl)
  | cons step rest ih =>
      by_cases hfolder' : s'.shapeAt here = some .folder
      · have hne : here ≠ place := by
          rintro rfl
          obtain ⟨a, content, hfile⟩ := h.file
          rw [hfile] at hfolder'
          cases hfolder'
        have hfolder : s.shapeAt here = some .folder := by rw [← h.others here hne, hfolder']
        cases step with
        | stay =>
            rw [advance_stay hfolder'] at hadvance
            rw [advance_stay hfolder, ih hadvance]
        | up =>
            rw [advance_up hfolder'] at hadvance
            rw [advance_up hfolder, ih hadvance]
        | down name =>
            by_cases hlong : nameLimit < name.byteSize
            · rw [advance_down_long hfolder' hlong] at hadvance
              rw [advance_down_long hfolder hlong, hadvance]
            have hshort : name.byteSize ≤ nameLimit := Nat.le_of_not_lt hlong
            cases hentry' : s'.shapeAt (here ++ [name]) with
            | none =>
                rw [advance_down_none hfolder' hshort hentry'] at hadvance
                split at hadvance
                · exact absurd hadvance.symm (hplace _)
                · exact absurd hadvance.symm (habsence .missing rfl)
            | some shape =>
                by_cases hthere : here ++ [name] = place
                · -- behind the new file there is nothing
                  obtain ⟨a, content, hfile⟩ := h.file
                  rw [← hthere] at hfile
                  have hat := shapeAt_eq_file_iff.mp hfile
                  rw [advance_down_direct hfolder' hshort hfile rfl] at hadvance
                  cases rest with
                  | nil =>
                      rw [advance, hat] at hadvance
                      exact absurd hadvance.symm (hplace _)
                  | cons next more =>
                      rw [advance, hat] at hadvance
                      exact absurd hadvance.symm (habsence .notFolder rfl)
                · have hentry : s.shapeAt (here ++ [name]) = some shape := by
                    rw [← h.others _ hthere, hentry']
                  cases hdirect : shape.isLink with
                  | false =>
                      rw [advance_down_direct hfolder' hshort hentry' hdirect] at hadvance
                      rw [advance_down_direct hfolder hshort hentry hdirect, ih hadvance]
                  | true =>
                      cases shape with
                      | link target =>
                          rw [advance_down_link hfolder' hshort hentry'] at hadvance
                          rw [advance_down_link hfolder hshort hentry, hadvance]
                      | file a content => simp [Shape.isLink] at hdirect
                      | folder => simp [Shape.isLink] at hdirect
      · rw [advance] at hadvance
        split at hadvance
        · rename_i a inner hat
          exact absurd (shapeAt_eq_folder_iff.mpr ⟨a, inner, hat⟩) hfolder'
        · exact absurd hadvance.symm (habsence .notFolder rfl)
        · exact absurd hadvance.symm (habsence .missing rfl)

/-- A walk that is refused for more than an absence was refused before. -/
theorem walk_of_refused (h : Renews s s' place) {links : Nat} {here : Location}
    {todo : List Step} {reason : Reason} (hreason : Reason.isAbsence reason = false)
    (hwalk : s'.walk true links here todo = .error reason) :
    s.walk true links here todo = .error reason := by
  induction links generalizing here todo with
  | zero =>
      rw [walk] at hwalk ⊢
      cases ha : s'.advance true here todo with
      | error r =>
          simp only [ha, Except.error.injEq] at hwalk
          subst hwalk
          rw [h.advance_of_passed (.inl ⟨r, hreason, rfl⟩) ha]
      | ok reached =>
          cases reached with
          | place p => simp [ha] at hwalk
          | link folder target remaining =>
              simp only [ha, Except.error.injEq] at hwalk
              subst hwalk
              cases hreason
  | succ links ih =>
      rw [walk] at hwalk ⊢
      cases ha : s'.advance true here todo with
      | error r =>
          simp only [ha, Except.error.injEq] at hwalk
          subst hwalk
          rw [h.advance_of_passed (.inl ⟨r, hreason, rfl⟩) ha]
      | ok reached =>
          cases reached with
          | place p => simp [ha] at hwalk
          | link folder target remaining =>
              simp only [ha] at hwalk
              rw [h.advance_of_passed (.inr ⟨folder, target, remaining, rfl⟩) ha]
              exact ih hwalk

/-! ## Paths -/

section path

variable {path : Text}

/-- A route of a path to the new file leads the path there. -/
theorem leadsTo_of_leads (h : Renews s s' place) {k : Nat}
    (hsound : breach? path = none) (hempty : path ≠ "") (hlong : path.byteSize ≤ pathLimit)
    (hleads : s'.Leads k (s'.start path) (steps path) place) (hk : k ≤ linkLimit) :
    s'.leadsTo path place = true := by
  obtain ⟨a, content, hfile⟩ := h.file
  have hlookup := lookup_eq_ok_iff.mpr
    ⟨hsound, hempty, hlong, ⟨k, hk, hleads⟩, shapeAt_eq_file_iff.mp hfile⟩
  rw [leadsTo, hlookup]
  exact beq_self_eq_true place

/-- A path leads where it led, unless it leads to the new file. -/
theorem lookup_of_ok (h : Renews s s' place) (hstart : s'.start path = s.start path)
    (haway : s'.leadsTo path place = false) {stop : Location} {node : Node}
    (hlookup : s.lookup true path = .ok (stop, node)) :
    ∃ node', s'.lookup true path = .ok (stop, node') ∧ node'.shape = node.shape := by
  obtain ⟨hsound, hempty, hlong, ⟨k, hk, hleads⟩, hat⟩ := lookup_eq_ok_iff.mp hlookup
  rw [← hstart] at hleads
  rcases h.leads hleads hk with hl | ⟨_, m, hm, hl⟩
  · have hne : stop ≠ place := by
      rintro rfl
      rw [h.leadsTo_of_leads hsound hempty hlong hl hk] at haway
      cases haway
    have hshape : s'.shapeAt stop = some node.shape := by
      rw [h.others stop hne, shapeAt, hat, Option.map_some]
    obtain ⟨node', hat', hnode⟩ := Option.map_eq_some_iff.mp hshape
    exact ⟨node', lookup_eq_ok_iff.mpr ⟨hsound, hempty, hlong, ⟨k, hk, hl⟩, hat'⟩, hnode⟩
  · rw [h.leadsTo_of_leads hsound hempty hlong hl (by omega)] at haway
    cases haway

/-- What is no folder is unchanged behind its path. -/
theorem lookup_of_other (h : Renews s s' place) (hstart : s'.start path = s.start path)
    (haway : s'.leadsTo path place = false) {stop : Location} {node : Node}
    (hlookup : s.lookup true path = .ok (stop, node)) (hnode : node.shape ≠ .folder) :
    s'.lookup true path = .ok (stop, node) := by
  obtain ⟨node', hlookup', hsame⟩ := h.lookup_of_ok hstart haway hlookup
  rw [hlookup', eq_of_shape hsame hnode]

/-- A path that does not lead to the new file led there before. -/
theorem lookup_back (h : Renews s s' place) (hstart : s'.start path = s.start path)
    {stop : Location} {node : Node} (hlookup : s'.lookup true path = .ok (stop, node))
    (hne : stop ≠ place) :
    ∃ node', s.lookup true path = .ok (stop, node') ∧ node'.shape = node.shape := by
  obtain ⟨hsound, hempty, hlong, ⟨k, hk, hleads⟩, hat⟩ := lookup_eq_ok_iff.mp hlookup
  rw [hstart] at hleads
  have hshape : s.shapeAt stop = some node.shape := by
    rw [← h.others stop hne, shapeAt, hat, Option.map_some]
  obtain ⟨node', hat', hnode⟩ := Option.map_eq_some_iff.mp hshape
  exact ⟨node', lookup_eq_ok_iff.mpr
    ⟨hsound, hempty, hlong, ⟨k, hk, h.leads_back hleads hne⟩, hat'⟩, hnode⟩

/-- A path to a folder leads there still, and the folder lists the same, or the new file
below it. -/
theorem lookup_folder (h : Renews s s' place) (hstart : s'.start path = s.start path)
    {stop : Location} {a : Attributes} {entries : Folder}
    (hlookup : s.lookup true path = .ok (stop, .folder a entries)) :
    ∃ a' entries', s'.lookup true path = .ok (stop, .folder a' entries') ∧
      (entries'.listing = entries.listing ∨
        ∃ way, stop ++ way = place ∧ entries.listing.Renewed way entries'.listing) := by
  obtain ⟨hsound, hempty, hlong, ⟨k, hk, hleads⟩, hat⟩ := lookup_eq_ok_iff.mp hlookup
  have hfolder := shapeAt_eq_folder_iff.mpr ⟨a, entries, hat⟩
  rw [← hstart] at hleads
  rcases h.leads hleads hk with hl | ⟨hnot, _⟩
  · obtain ⟨a', entries', hat'⟩ := shapeAt_eq_folder_iff.mp (h.folder_of_folder hfolder)
    refine ⟨a', entries', lookup_eq_ok_iff.mpr ⟨hsound, hempty, hlong, ⟨k, hk, hl⟩, hat'⟩, ?_⟩
    have hlist := nodeBelow_listing (.folder s.attributes s.root) stop
    have hlist' := nodeBelow_listing (.folder s'.attributes s'.root) stop
    rw [at?] at hat hat'
    rw [hat] at hlist
    rw [hat'] at hlist'
    exact h.renewed.entries_below hlist hlist'
  · exact absurd hfolder hnot

/-- A path to a folder led there before. -/
theorem lookup_folder_back (h : Renews s s' place) (hstart : s'.start path = s.start path)
    {stop : Location} {a : Attributes} {entries : Folder}
    (hlookup : s'.lookup true path = .ok (stop, .folder a entries)) :
    ∃ a' entries', s.lookup true path = .ok (stop, .folder a' entries') := by
  obtain ⟨_, _, _, _, hat⟩ := lookup_eq_ok_iff.mp hlookup
  have hne : stop ≠ place := by
    rintro rfl
    obtain ⟨b, content, hfile⟩ := h.file
    rw [shapeAt, hat] at hfile
    cases hfile
  obtain ⟨node, hlookup', hnode⟩ := h.lookup_back hstart hlookup hne
  obtain ⟨a', entries', rfl⟩ := shape_eq_folder_iff.mp hnode
  exact ⟨a', entries', hlookup'⟩

/-- A path that does not lead to the new file leads to the same as before. -/
theorem shapeOf_eq (h : Renews s s' place) (hstart : s'.start path = s.start path)
    (haway : s'.leadsTo path place = false) : s'.shapeOf path = s.shapeOf path := by
  refine Option.ext fun shape => ?_
  rw [shapeOf_eq_some_iff, shapeOf_eq_some_iff]
  constructor
  · rintro ⟨stop, node, hlookup, hnode⟩
    obtain ⟨node', hlookup', hnode'⟩ :=
      h.lookup_back hstart hlookup (ne_of_leadsTo haway hlookup)
    exact ⟨stop, node', hlookup', hnode'.trans hnode⟩
  · rintro ⟨stop, node, hlookup, hnode⟩
    obtain ⟨node', hlookup', hnode'⟩ := h.lookup_of_ok hstart haway hlookup
    exact ⟨stop, node', hlookup', hnode'.trans hnode⟩

/-- A content that could be read still can, and no other one. -/
theorem bytesOf_iff (h : Renews s s' place) (hstart : s'.start path = s.start path)
    (haway : s'.leadsTo path place = false) (bytes : List UInt8) :
    s'.bytesOf path = .ok bytes ↔ s.bytesOf path = .ok bytes := by
  rw [bytesOf_eq_ok_iff_shapeOf, bytesOf_eq_ok_iff_shapeOf, h.shapeOf_eq hstart haway]

theorem textOf_of_ok (h : Renews s s' place) (hstart : s'.start path = s.start path)
    (haway : s'.leadsTo path place = false) {text : String} (htext : s.textOf path = .ok text) :
    s'.textOf path = .ok text := by
  unfold textOf at htext ⊢
  cases hbytes : s.bytesOf path with
  | error f =>
      rw [hbytes] at htext
      cases htext
  | ok bytes =>
      rw [hbytes] at htext
      rw [(h.bytesOf_iff hstart haway bytes).mpr hbytes]
      exact htext

/-- A refusal that is more than an absence was there before. -/
theorem lookup_of_refused (h : Renews s s' place) (hstart : s'.start path = s.start path)
    {r : Refusal} (hreason : Reason.isAbsence r.reason = false)
    (hlookup : s'.lookup true path = .error (.refused r)) :
    s.lookup true path = .error (.refused r) := by
  unfold lookup follow at hlookup ⊢
  rw [hstart] at hlookup
  have hsound : breach? path = none := by
    cases hbreach : breach? path with
    | none => rfl
    | some b =>
        rw [hbreach] at hlookup
        cases hlookup
  rw [hsound] at hlookup ⊢
  dsimp only at hlookup ⊢
  by_cases hempty : path = ""
  · rw [if_pos hempty] at hlookup ⊢
    exact hlookup
  rw [if_neg hempty] at hlookup ⊢
  by_cases hlong : pathLimit < path.byteSize
  · rw [if_pos hlong] at hlookup ⊢
    exact hlookup
  rw [if_neg hlong] at hlookup ⊢
  cases hwalk : s'.walk true linkLimit (s.start path) (steps path) with
  | error reason =>
      rw [hwalk] at hlookup
      cases hlookup
      rw [h.walk_of_refused hreason hwalk]
      rfl
  | ok p =>
      rw [hwalk] at hlookup
      cases p with
      | found stop node => cases hlookup
      | absent folder name =>
          cases hlookup
          cases hreason

/-- A question about a path that does not lead to the new file has the same answer. -/
theorem asks_of_ok (h : Renews s s' place) (hstart : s'.start path = s.start path)
    (haway : s'.leadsTo path place = false) {p : Node → Bool} {q : Shape → Bool}
    (hpq : ∀ node, p node = q node.shape) {answer : Bool} (hasks : s.asks path p = .ok answer) :
    s'.asks path p = .ok answer := by
  cases hasks' : s'.asks path p with
  | ok answer' =>
      rw [eq_of_asks hpq hasks, eq_of_asks hpq hasks', h.shapeOf_eq hstart haway]
  | error f =>
      -- the refusal would have been there before
      unfold asks node at hasks hasks'
      cases hlookup : s'.lookup true path with
      | ok found =>
          rw [hlookup] at hasks'
          cases hasks'
      | error g =>
          rw [hlookup] at hasks'
          cases g with
          | broken b => cases hasks'
          | refused r =>
              simp only [Except.map] at hasks'
              split at hasks'
              · cases hasks'
              · rename_i hreason
                rw [Bool.not_eq_true] at hreason
                rw [h.lookup_of_refused hstart hreason hlookup] at hasks
                simp only [Except.map, hreason, Bool.false_eq_true, if_false] at hasks
                cases hasks

/-- A slot is still the one that its path designates. -/
theorem slot_of_entry (h : Renews s s' place) (hstart : s'.start path = s.start path)
    {folder : Location} {name : Text} (hslot : s.slot path = .ok (.entry folder name)) :
    s'.slot path = .ok (.entry folder name) := by
  obtain ⟨hempty, hlong, ⟨k, hk, hleads⟩, hfolder, hlast, hshort⟩ := slot_eq_entry_iff.mp hslot
  rw [← hstart] at hleads
  rcases h.leads hleads hk with hl | ⟨hnot, _⟩
  · exact slot_eq_entry_iff.mpr
      ⟨hempty, hlong, ⟨k, hk, hl⟩, h.folder_of_folder hfolder, hlast, hshort⟩
  · exact absurd hfolder hnot

/-- The path of the slot finds the new file. -/
theorem lookup_of_entry {folder : Location} {name : Text} (h : Renews s s' (folder ++ [name]))
    (hstart : s'.start path = s.start path) (hslot : s.slot path = .ok (.entry folder name))
    (hsound : breach? path = none) {a : Attributes} {content : List UInt8}
    (hat : s'.at? (folder ++ [name]) = some (.file a content)) :
    s'.lookup true path = .ok (folder ++ [name], .file a content) :=
  lookup_of_slot (h.slot_of_entry hstart hslot) hsound hat

end path

end Renews

end Tree

end GoogIndex.Storage
