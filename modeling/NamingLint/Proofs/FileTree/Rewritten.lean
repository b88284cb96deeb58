import NamingLint.Proofs.FileTree.Follow

/-!
# Other contents in the same places

A path leads to the same place whatever the files hold: `rewritten_bisimulation` says so of trees
that differ in nothing but the contents of their files. What is then read at a path differs as these
contents do (`read_rewritten`).
-/

namespace NamingLint

namespace FileEntry

mutual

/-- The same directories and links, and files in the same places, whose contents are related. Those
that cannot be read are the same. -/
inductive Rewritten (R : ByteArray → ByteArray → Prop) : FileEntry → FileEntry → Prop where
  | file {content changed : ByteArray} : R content changed →
      Rewritten R (file (some content)) (file (some changed))
  | sealed : Rewritten R (file none) (file none)
  | link (target : String) : Rewritten R (link target) (link target)
  | directory {access : Access} {entries others : List (String × FileEntry)} :
      RewrittenEntries R entries others →
      Rewritten R (directory access entries) (directory access others)

/-- The entries of one directory in the other tree. -/
inductive RewrittenEntries (R : ByteArray → ByteArray → Prop) :
    List (String × FileEntry) → List (String × FileEntry) → Prop where
  | nil : RewrittenEntries R [] []
  | cons {name : String} {entry changed : FileEntry} {entries others : List (String × FileEntry)} :
      Rewritten R entry changed → RewrittenEntries R entries others →
      RewrittenEntries R ((name, entry) :: entries) ((name, changed) :: others)

end

end FileEntry

namespace FileTree

open FileEntry

/-- The same tree seen from the same working directory, but for the contents of its files, which are
related. -/
abbrev Rewritten (tree : FileTree) (R : ByteArray → ByteArray → Prop) (other : FileTree) : Prop :=
  Related (FileEntry.Rewritten R) tree other

section

variable {R : ByteArray → ByteArray → Prop} {tree other : FileTree} {path : Path}
variable {entries others : List (String × FileEntry)}

theorem lookup_rewritten {name : String} (h : RewrittenEntries R entries others) :
    Option.Rel (FileEntry.Rewritten R) (entries.lookup name) (others.lookup name) := by
  induction entries generalizing others with
  | nil =>
      cases h
      exact .none
  | cons item entries ih =>
      cases h with
      | @cons found _ _ _ _ hentry hentries =>
          rw [List.lookup_cons, List.lookup_cons]
          cases name == found with
          | true => exact .some hentry
          | false => exact ih hentries

/-- No path tells trees apart that differ in the contents of their files alone. -/
theorem rewritten_bisimulation : Bisimulation (FileEntry.Rewritten R) := by
  refine ⟨fun h => ?_, fun h => ?_, fun h => ?_, .directory .nil⟩
  · cases h <;> exact ⟨_, rfl⟩
  · cases h
    rfl
  · cases h with
    | directory hentries => exact ⟨_, rfl, fun name => lookup_rewritten hentries⟩

/-- At a path either nothing is read from both of the trees, or the texts of two related contents
are. -/
theorem read_rewritten (h : tree.Rewritten R other) :
    (∃ cause, tree.readText path = .error cause ∧ other.readText path = .error cause) ∨
      ∃ content changed, R content changed ∧ tree.readText path = textOf (some content) ∧
        other.readText path = textOf (some changed) := by
  have hway : SameWay (FileEntry.Rewritten R) (tree.resolve path true) (other.resolve path true) :=
    resolve_bisimilar rewritten_bisimulation h
  unfold readText
  generalize tree.resolve path true = left, other.resolve path true = right at hway ⊢
  cases hway with
  | failed cause => exact .inl ⟨cause, rfl, rfl⟩
  | reached hfound =>
      cases hfound with
      | file hcontent => exact .inr ⟨_, _, hcontent, rfl, rfl⟩
      | sealed => exact .inl ⟨_, rfl, rfl⟩
      | link target => exact .inl ⟨_, rfl, rfl⟩
      | directory hentries => exact .inl ⟨_, rfl, rfl⟩

end

end FileTree

end NamingLint
