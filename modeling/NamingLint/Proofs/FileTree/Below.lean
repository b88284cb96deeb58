import NamingLint.Proofs.FileTree.Follow

/-!
# Files below a path

What a walk comes by is a matter of the tree alone: `mem_files_under` says that these are the files
that names lead to from where the walk starts, through directories that can be listed, and
`files_under_apart` that no two of them are one path in two spellings. Both hold of trees in which
each name stands for one entry. `is_listed_iff` says when a walk comes by all files.
-/

namespace NamingLint

/-- The entries of each directory have different names, and these can be names of entries. -/
inductive FileEntry.WellNamed : FileEntry → Prop where
  | file (content : Option ByteArray) : WellNamed (file content)
  | link (target : String) : WellNamed (link target)
  | directory {access : Access} {entries : List (String × FileEntry)} :
      (entries.map Prod.fst).Nodup → (∀ item ∈ entries, Path.IsName item.1.toList) →
      (∀ item ∈ entries, WellNamed item.2) → WellNamed (directory access entries)

namespace FileTree

open FileEntry

/-- Each name stands for one entry, in all directories. -/
def WellNamed (tree : FileTree) : Prop := tree.root.WellNamed

/-- `Leads entry names found` says that `found` is what the names lead to from `entry` on, each of
them within the directory before it. Links lead nowhere. -/
inductive Leads : FileEntry → List String → FileEntry → Prop where
  | here {entry : FileEntry} : Leads entry [] entry
  | within {access : Access} {entries : List (String × FileEntry)} {name : String}
      {entry found : FileEntry} {names : List String} : (name, entry) ∈ entries →
      Leads entry names found → Leads (directory access entries) (name :: names) found

/-- The path that leads along names from another one on. -/
def descend (path : Path) (names : List String) : Path :=
  names.foldl (fun directory name => directory.join ⟨name⟩) path

/-- The directories that names lead through from a path on can all be listed. -/
def Opens (tree : FileTree) : Path → List String → Prop
  | _, [] => True
  | path, name :: names => tree.canList path = true ∧ Opens tree (path.join ⟨name⟩) names

/-- A walk from a path starts with what the path leads to. A link at its end is not followed unless
it leads to a directory. -/
inductive StartsAt (tree : FileTree) (root : Path) : FileEntry → Prop where
  | entry {start : FileEntry} : tree.resolve root false = .ok start →
      (∀ target, start ≠ link target) → StartsAt tree root start
  | linked {target : String} {access : Access} {entries : List (String × FileEntry)} :
      tree.resolve root false = .ok (link target) →
      tree.resolve root true = .ok (directory access entries) →
      StartsAt tree root (directory access entries)

/-- A path is that of a file below another path, or of the file that the latter leads to. -/
def IsBelow (tree : FileTree) (root path : Path) : Prop :=
  ∃ start names content, StartsAt tree root start ∧ Leads start names (file content) ∧
    path = descend root names

/-- A path is that of a file below another path, and the directories on the way to it can be
listed. -/
def IsListed (tree : FileTree) (root path : Path) : Prop :=
  ∃ start names content, StartsAt tree root start ∧ Leads start names (file content) ∧
    tree.Opens root names ∧ path = descend root names

/-- All directories below a path can be listed, and so can the one that it leads to. -/
def ListsAll (tree : FileTree) (root : Path) : Prop :=
  ∀ start names access entries, StartsAt tree root start →
    Leads start names (directory access entries) → tree.canList (descend root names) = true

section

variable {tree : FileTree} {entry start found : FileEntry} {entries : List (String × FileEntry)}
variable {root base path : Path} {name : String} {names : List String}

theorem descend_cons : descend base (name :: names) = descend (base.join ⟨name⟩) names := rfl

theorem components_descend (h : ∀ name ∈ names, Path.IsName name.toList) :
    (descend base names).components = base.components ++ names.map .name := by
  induction names generalizing base with
  | nil => exact (List.append_nil _).symm
  | cons name names ih =>
      obtain ⟨hname, hnames⟩ := List.forall_mem_cons.1 h
      rw [descend_cons, ih hnames, Path.components_join hname, List.append_assoc]
      rfl

theorem Leads.all_names (h : Leads entry names found) (hentry : entry.WellNamed) :
    ∀ name ∈ names, Path.IsName name.toList := by
  induction h with
  | here => simp
  | within hitem _ ih =>
      cases hentry with
      | directory _ hnames hitems =>
          exact List.forall_mem_cons.2 ⟨hnames _ hitem, ih (hitems _ hitem)⟩

/-- The way to what names lead to is open if all directories on it can be listed. -/
theorem Leads.opens (h : Leads entry names found)
    (hlisted : ∀ front access entries, Leads entry front (directory access entries) →
      tree.canList (descend base front) = true) : tree.Opens base names := by
  induction h generalizing base with
  | here => trivial
  | @within _ _ name _ _ _ hitem _ ih =>
      exact ⟨hlisted [] _ _ .here, ih fun front access entries hfront =>
        hlisted (name :: front) access entries (.within hitem hfront)⟩

/-- A walk comes by all files below a path if all directories there can be listed. -/
theorem is_listed_iff (h : tree.ListsAll root) : tree.IsListed root path ↔ tree.IsBelow root path := by
  constructor
  · rintro ⟨start, names, content, hstart, hleads, _, hpath⟩
    exact ⟨start, names, content, hstart, hleads, hpath⟩
  · rintro ⟨start, names, content, hstart, hleads, hpath⟩
    refine ⟨start, names, content, hstart, hleads, hleads.opens ?_, hpath⟩
    exact fun front access entries => h start front access entries hstart

/-! ## A walk through an entry -/

theorem files_of_eq : filesOf tree base entries =
    entries.flatMap fun item => filesAt tree (base.join ⟨item.1⟩) item.2 := by
  induction entries with
  | nil => rw [filesOf, List.flatMap_nil]
  | cons item entries ih => rw [filesOf, List.flatMap_cons, ih]

/-- A walk comes by the files that names lead to through directories that can be listed. -/
theorem mem_files_at (h : entry.WellNamed) : path ∈ filesAt tree base entry ↔
    ∃ names content, Leads entry names (file content) ∧ tree.Opens base names ∧
      path = descend base names := by
  induction h generalizing base with
  | file content =>
      rw [filesAt, List.mem_singleton]
      constructor
      · rintro rfl
        exact ⟨[], content, .here, trivial, rfl⟩
      · rintro ⟨names, found, ⟨⟩, _, rfl⟩
        rfl
  | link target =>
      rw [filesAt]
      constructor
      · intro h
        cases h
      · rintro ⟨names, found, hleads, _⟩
        cases hleads
  | directory _ _ _ ih =>
      rw [filesAt]
      constructor
      · intro hpath
        split at hpath
        · rename_i hlisted
          rw [files_of_eq, List.mem_flatMap] at hpath
          obtain ⟨item, hitem, hpath⟩ := hpath
          obtain ⟨names, content, hleads, hopens, rfl⟩ := (ih item hitem).1 hpath
          exact ⟨item.1 :: names, content, .within hitem hleads, ⟨hlisted, hopens⟩,
            descend_cons.symm⟩
        · cases hpath
      · rintro ⟨names, content, hleads, hopens, rfl⟩
        cases hleads with
        | @within _ _ name entry _ names hitem hleads =>
            rw [if_pos hopens.1, files_of_eq, List.mem_flatMap]
            exact ⟨(name, entry), hitem,
              (ih _ hitem).2 ⟨names, content, hleads, hopens.2, descend_cons⟩⟩

/-- All that a walk comes by in an entry of a directory is below the path of that entry. -/
theorem components_of_mem (h : entry.WellNamed) (hname : Path.IsName name.toList)
    (hpath : path ∈ filesAt tree (base.join ⟨name⟩) entry) :
    ∃ names : List String, path.components = base.components ++ .name name :: names.map .name := by
  obtain ⟨names, content, hleads, _, rfl⟩ := (mem_files_at h).1 hpath
  refine ⟨names, ?_⟩
  rw [components_descend (hleads.all_names h), Path.components_join hname, List.append_assoc]
  rfl

/-- The files that a walk comes by differ in their components, and not only in their spelling. -/
theorem files_at_apart (h : entry.WellNamed) :
    (filesAt tree base entry).Pairwise fun left right => left.components ≠ right.components := by
  induction h generalizing base with
  | file content =>
      rw [filesAt]
      exact List.pairwise_singleton _ _
  | link target =>
      rw [filesAt]
      exact .nil
  | directory hnodup hnames hitems ih =>
      rw [filesAt]
      split
      · rw [files_of_eq, List.pairwise_flatMap]
        refine ⟨fun item hitem => ih item hitem, ?_⟩
        refine (List.pairwise_map.1 hnodup).imp_of_mem fun {first second} hfirst hsecond hne => ?_
        -- Files below two entries differ where the names of the entries stand.
        intro left hleft right hright heq
        obtain ⟨names, hcomponents⟩ := components_of_mem (hitems _ hfirst) (hnames _ hfirst) hleft
        obtain ⟨others, hothers⟩ := components_of_mem (hitems _ hsecond) (hnames _ hsecond) hright
        rw [hcomponents, hothers] at heq
        have hsame := (List.cons.inj (List.append_cancel_left heq)).1
        exact hne (Path.Component.name.inj hsame)
      · exact .nil

/-! ## A walk from a path -/

theorem files_under_of_starts (h : StartsAt tree root start) :
    tree.filesUnder root = filesAt tree root start := by
  unfold filesUnder
  cases h with
  | entry hresolve hlink =>
      rw [hresolve]
      cases start with
      | link target => exact absurd rfl (hlink target)
      | file content => rfl
      | directory access entries => rfl
  | linked hresolve hdirectory => rw [hresolve, hdirectory]

theorem can_list_eq {access : Access} (h : tree.resolve path true = .ok (directory access entries)) :
    tree.canList path = access.list := by
  rw [canList, h]

theorem files_at_listed {access : Access} (h : tree.canList path = true) :
    filesAt tree path (directory access entries) =
      entries.flatMap fun item => filesAt tree (path.join ⟨item.1⟩) item.2 := by
  rw [filesAt, if_pos h, files_of_eq]

/-- A walk goes through the entries of a directory that can be listed. -/
theorem files_under_listed {access : Access} (hlist : access.list = true)
    (h : ∀ followLast, tree.resolve root followLast = .ok (directory access entries)) :
    tree.filesUnder root =
      entries.flatMap fun item => filesAt tree (root.join ⟨item.1⟩) item.2 := by
  rw [files_under_of_starts (.entry (h false) nofun),
    files_at_listed ((can_list_eq (h true)).trans hlist)]

theorem starts_of_mem (h : path ∈ tree.filesUnder root) : ∃ start, StartsAt tree root start := by
  unfold filesUnder at h
  split at h
  · rename_i hresolve
    split at h
    · rename_i hdirectory
      exact ⟨_, .linked hresolve hdirectory⟩
    · cases h
  · rename_i hlink hresolve
    exact ⟨_, .entry hresolve hlink⟩
  · cases h

theorem WellNamed.starts (h : tree.WellNamed) (hstart : StartsAt tree root start) :
    start.WellNamed := by
  have hempty : FileEntry.empty.WellNamed := .directory .nil (by simp) (by simp)
  have hentries (access : Access) (entries : List (String × FileEntry))
      (h : (directory access entries).WellNamed) : ∀ item ∈ entries, item.2.WellNamed := by
    cases h with
    | directory _ _ hitems => exact hitems
  cases hstart with
  | entry hresolve _ => exact holds_of_resolve hempty hentries h hresolve
  | linked _ hdirectory => exact holds_of_resolve hempty hentries h hdirectory

/-- A walk comes by the files below the path that it starts from, as far as it can list the
directories on the way. -/
theorem mem_files_under (h : tree.WellNamed) :
    path ∈ tree.filesUnder root ↔ tree.IsListed root path := by
  constructor
  · intro hpath
    obtain ⟨start, hstart⟩ := starts_of_mem hpath
    rw [files_under_of_starts hstart] at hpath
    obtain ⟨names, content, hleads, hopens, rfl⟩ := (mem_files_at (h.starts hstart)).1 hpath
    exact ⟨start, names, content, hstart, hleads, hopens, rfl⟩
  · rintro ⟨start, names, content, hstart, hleads, hopens, rfl⟩
    rw [files_under_of_starts hstart]
    exact (mem_files_at (h.starts hstart)).2 ⟨names, content, hleads, hopens, rfl⟩

theorem files_under_apart (h : tree.WellNamed) :
    (tree.filesUnder root).Pairwise fun left right => left.components ≠ right.components := by
  by_cases hstarts : ∃ start, StartsAt tree root start
  · obtain ⟨start, hstart⟩ := hstarts
    rw [files_under_of_starts hstart]
    exact files_at_apart (h.starts hstart)
  · rw [List.eq_nil_iff_forall_not_mem.2 fun path hpath => hstarts (starts_of_mem hpath)]
    exact .nil

end

end FileTree

end NamingLint
