import NamingLint.Proofs.FileTree.Below

/-!
# The order of the entries

The entries of a directory have no order of their own. `likewise_bisimulation` says that a path
leads to the same in whatever order each directory lists its entries, and `is_listed_rearranged`
that a walk comes by the same files.
-/

namespace NamingLint

namespace FileEntry

open FileTree (mem_of_lookup)

/-- The same files, directories and links, with the entries of each directory in any order. -/
inductive Rearranged : FileEntry → FileEntry → Prop where
  | file (content : Option ByteArray) : Rearranged (file content) (file content)
  | link (target : String) : Rearranged (link target) (link target)
  | directory {access : Access} {entries others : List (String × FileEntry)}
      (arranged : String × FileEntry → FileEntry) :
      others.Perm (entries.map fun item => (item.1, arranged item)) →
      (∀ item ∈ entries, Rearranged item.2 (arranged item)) →
      Rearranged (directory access entries) (directory access others)

/-! ## Names of entries -/

section

variable {entries others : List (String × FileEntry)} {name : String} {entry : FileEntry}

theorem lookup_of_mem (hnodup : (entries.map Prod.fst).Nodup) (h : (name, entry) ∈ entries) :
    entries.lookup name = some entry := by
  obtain ⟨front, back, rfl⟩ := List.append_of_mem h
  refine List.lookup_eq_some_iff.2 ⟨front, back, rfl, fun earlier hearlier => ?_⟩
  rw [List.map_append, List.nodup_append] at hnodup
  have hne := hnodup.2.2 earlier.1 (List.mem_map_of_mem hearlier) name (by simp)
  exact bne_iff_ne.2 hne.symm

end

/-! ## Rearranged trees -/

section

variable {entry other : FileEntry} {entries others : List (String × FileEntry)} {name : String}
variable {access : Access}

theorem names_perm {arranged : String × FileEntry → FileEntry}
    (h : others.Perm (entries.map fun item => (item.1, arranged item))) :
    (others.map Prod.fst).Perm (entries.map Prod.fst) := by
  have hnames := h.map Prod.fst
  rwa [List.map_map] at hnames

theorem Rearranged.well_named (h : Rearranged entry other) (hentry : entry.WellNamed) :
    other.WellNamed := by
  induction h with
  | file content => exact hentry
  | link target => exact hentry
  | directory arranged hperm _ ih =>
      cases hentry with
      | directory hnodup hnames hitems =>
          refine .directory ((names_perm hperm).nodup_iff.2 hnodup) ?_ ?_
          · intro item hitem
            obtain ⟨origin, horigin, rfl⟩ := List.mem_map.1 (hperm.mem_iff.1 hitem)
            exact hnames origin horigin
          · intro item hitem
            obtain ⟨origin, horigin, rfl⟩ := List.mem_map.1 (hperm.mem_iff.1 hitem)
            exact ih origin horigin (hitems origin horigin)

/-- To bring the entries back into their order is to rearrange them, too. -/
theorem Rearranged.symm (h : Rearranged entry other) (hentry : entry.WellNamed) :
    Rearranged other entry := by
  induction h with
  | file content => exact .file content
  | link target => exact .link target
  | @directory access entries others arranged hperm _ ih =>
      cases hentry with
      | directory hnodup _ hitems =>
          let origin : String × FileEntry → FileEntry := fun item =>
            (entries.lookup item.1).getD item.2
          have horigin {item : String × FileEntry} (hitem : item ∈ entries) :
              origin (item.1, arranged item) = item.2 := by
            show (entries.lookup item.1).getD _ = item.2
            rw [lookup_of_mem hnodup hitem, Option.getD_some]
          refine .directory origin ?_ ?_
          · have hback := hperm.map fun item => (item.1, origin item)
            rw [List.map_map] at hback
            have hsame : entries.map ((fun item => (item.1, origin item)) ∘
                fun item => (item.1, arranged item)) = entries.map id :=
              List.map_congr_left fun item hitem => Prod.ext rfl (horigin hitem)
            rw [hsame, List.map_id] at hback
            exact hback.symm
          · intro item hitem
            obtain ⟨first, hfirst, rfl⟩ := List.mem_map.1 (hperm.mem_iff.1 hitem)
            show Rearranged (arranged first) (origin (first.1, arranged first))
            rw [horigin hfirst]
            exact ih first hfirst (hitems first hfirst)

/-- The entries of one directory are those of the other, in any order and each under its own name,
and so further below. -/
structure Likewise (entry other : FileEntry) : Prop where
  named : entry.WellNamed
  rearranged : Rearranged entry other

theorem Likewise.symm (h : Likewise entry other) : Likewise other entry :=
  ⟨h.rearranged.well_named h.named, h.rearranged.symm h.named⟩

theorem Likewise.of_directory (h : Likewise (directory access entries) other) :
    ∃ others, other = directory access others := by
  cases h.rearranged
  exact ⟨_, rfl⟩

theorem Likewise.mem {allowed : Access}
    (h : Likewise (directory access entries) (directory allowed others))
    (hitem : (name, entry) ∈ entries) : ∃ other, (name, other) ∈ others ∧ Likewise entry other := by
  obtain ⟨hnamed, hrearranged⟩ := h
  cases hrearranged with
  | directory arranged hperm hitems =>
      cases hnamed with
      | directory _ _ hentries =>
          exact ⟨arranged (name, entry), hperm.mem_iff.2 (List.mem_map.2 ⟨_, hitem, rfl⟩),
            hentries _ hitem, hitems _ hitem⟩

/-- No path tells trees apart that differ in the order of their entries. -/
theorem likewise_bisimulation : FileTree.Bisimulation Likewise := by
  refine ⟨fun h => ?_, fun h => ?_, fun {access entries other} h => ?_, ?_⟩
  · cases h.rearranged
    exact ⟨_, rfl⟩
  · cases h.rearranged
    rfl
  · obtain ⟨others, rfl⟩ := h.of_directory
    refine ⟨others, rfl, fun name => ?_⟩
    cases hlookup : entries.lookup name with
    | none =>
        cases hother : others.lookup name with
        | none => exact .none
        | some other =>
            obtain ⟨entry, hentry, _⟩ := h.symm.mem (mem_of_lookup hother)
            cases h.named with
            | directory hnodup _ _ =>
                rw [lookup_of_mem hnodup hentry] at hlookup
                cases hlookup
    | some entry =>
        obtain ⟨other, hother, hlike⟩ := h.mem (mem_of_lookup hlookup)
        cases h.symm.named with
        | directory hnodup _ _ =>
            rw [lookup_of_mem hnodup hother]
            exact .some hlike
  · exact ⟨.directory .nil (by simp) (by simp), .directory Prod.snd (.refl _) (by simp)⟩

end

end FileEntry

/-! ## Reading and walking -/

namespace FileTree

open FileEntry (file directory link likewise_bisimulation)

/-- The same files seen from the same working directory, with the entries of each directory in any
order. -/
abbrev Rearranged : FileTree → FileTree → Prop := Related FileEntry.Rearranged

/-- The same, and each entry under its own name. -/
abbrev Likewise : FileTree → FileTree → Prop := Related FileEntry.Likewise

section

variable {tree other : FileTree} {entry found start : FileEntry} {root path : Path}
variable {names : List String} {content : Option ByteArray} {followLast : Bool}

theorem likewise_of_rearranged (h : tree.Rearranged other) (hnamed : tree.WellNamed) :
    tree.Likewise other :=
  ⟨⟨hnamed, h.root⟩, h.working⟩

theorem likewise_symm (h : tree.Likewise other) : other.Likewise tree :=
  ⟨h.root.symm, h.working.symm⟩

theorem resolve_likewise (h : tree.Likewise other) :
    SameWay FileEntry.Likewise (tree.resolve path followLast) (other.resolve path followLast) :=
  resolve_bisimilar likewise_bisimulation h

theorem is_file_rearranged (h : tree.Likewise other) :
    other.isFile path = tree.isFile path :=
  is_file_bisimilar likewise_bisimulation h

theorem read_text_rearranged (h : tree.Likewise other) :
    other.readText path = tree.readText path := by
  have hway : SameWay FileEntry.Likewise (tree.resolve path true) (other.resolve path true) :=
    resolve_likewise h
  unfold readText
  generalize tree.resolve path true = left, other.resolve path true = right at hway
  cases hway with
  | failed cause => rfl
  | reached hfound => cases hfound.rearranged <;> rfl

theorem starts_rearranged (h : tree.Likewise other) (hstart : StartsAt tree root start) :
    ∃ begin, StartsAt other root begin ∧ FileEntry.Likewise start begin := by
  have hway (followLast : Bool) :
      SameWay FileEntry.Likewise (tree.resolve root followLast) (other.resolve root followLast) :=
    resolve_likewise h
  cases hstart with
  | entry hresolve hlink =>
      obtain ⟨begin, hother, hlike⟩ := (hresolve ▸ hway false).reached_ok
      refine ⟨begin, .entry hother fun target hbegin => ?_, hlike⟩
      subst hbegin
      cases hlike.rearranged
      exact hlink target rfl
  | linked hresolve hdirectory =>
      obtain ⟨first, hother, hfirst⟩ := (hresolve ▸ hway false).reached_ok
      obtain ⟨begin, hbegin, hlike⟩ := (hdirectory ▸ hway true).reached_ok
      cases hfirst.rearranged
      obtain ⟨others, rfl⟩ := hlike.of_directory
      exact ⟨_, .linked hother hbegin, hlike⟩

theorem Leads.rearranged (h : Leads entry names (file content)) (hlike : FileEntry.Likewise entry found) :
    Leads found names (file content) := by
  generalize hfile : file content = last at h
  induction h generalizing found with
  | here =>
      subst hfile
      cases hlike.rearranged
      exact .here
  | within hitem _ ih =>
      obtain ⟨others, rfl⟩ := hlike.of_directory
      obtain ⟨inner, hinner, hsame⟩ := hlike.mem hitem
      exact .within hinner (ih hsame hfile)

theorem opens_rearranged (h : tree.Likewise other) (hopens : tree.Opens path names) :
    other.Opens path names := by
  induction names generalizing path with
  | nil => trivial
  | cons name names ih =>
      exact ⟨(can_list_bisimilar likewise_bisimulation h).trans hopens.1, ih hopens.2⟩

/-- A walk comes by the same files in whatever order the directories list their entries. -/
theorem is_listed_rearranged (h : tree.Likewise other) :
    other.IsListed root path ↔ tree.IsListed root path := by
  have hkept {tree other : FileTree} (h : tree.Likewise other)
      (hlisted : tree.IsListed root path) : other.IsListed root path := by
    obtain ⟨start, names, content, hstart, hleads, hopens, hpath⟩ := hlisted
    obtain ⟨begin, hbegin, hlike⟩ := starts_rearranged h hstart
    exact ⟨begin, names, content, hbegin, hleads.rearranged hlike, opens_rearranged h hopens,
      hpath⟩
  exact ⟨hkept (likewise_symm h), hkept h⟩

end

end FileTree

end NamingLint
