import Mathlib.Data.List.Forall2
import NamingLint.FileTree
import NamingLint.Proofs.Path.Dotted
import NamingLint.Proofs.Path.Join

/-!
# Following paths

A path is followed by what its names stand for in each directory. `resolve_bisimilar` says that
trees in which names stand for related entries lead a path to related entries, and
`holds_of_resolve` that a property which directories pass on to their entries holds of all that a
path leads to. The shortest way is that of `resolve_name`, from the working directory to what is in it.
-/

namespace NamingLint.FileTree

open FileEntry

/-- Related entries are of one form. Links are the same, and in related directories, which may be
used alike, each name stands for related entries, if for any. -/
structure Bisimulation (R : FileEntry → FileEntry → Prop) : Prop where
  file {content : Option ByteArray} {other : FileEntry} :
    R (file content) other → ∃ changed, other = file changed
  link {target : String} {other : FileEntry} : R (link target) other → other = link target
  directory {access : Access} {entries : List (String × FileEntry)} {other : FileEntry} :
    R (directory access entries) other → ∃ others, other = directory access others ∧
      ∀ name, Option.Rel R (entries.lookup name) (others.lookup name)
  /-- What was removed is missing alike. -/
  empty : R empty empty

/-- Two ways fail alike, or lead to related entries. -/
inductive SameWay (R : FileEntry → FileEntry → Prop) :
    Except ReadError FileEntry → Except ReadError FileEntry → Prop where
  | failed (cause : ReadError) : SameWay R (.error cause) (.error cause)
  | reached {entry other : FileEntry} : R entry other → SameWay R (.ok entry) (.ok other)

section

variable {R : FileEntry → FileEntry → Prop} {entry other here there root base : FileEntry}
variable {entries others : List (String × FileEntry)} {outer above : List FileEntry} {name : String}

theorem SameWay.reached_ok {way : Except ReadError FileEntry} (h : SameWay R (.ok entry) way) :
    ∃ other, way = .ok other ∧ R entry other := by
  cases h with
  | reached hrelated => exact ⟨_, rfl, hrelated⟩

theorem lookup_none (hnames : ∀ name, Option.Rel R (entries.lookup name) (others.lookup name))
    (h : entries.lookup name = none) : others.lookup name = none := by
  have hname := hnames name
  rw [h] at hname
  generalize others.lookup name = found at hname ⊢
  cases hname
  rfl

theorem lookup_some (hnames : ∀ name, Option.Rel R (entries.lookup name) (others.lookup name))
    (h : entries.lookup name = some entry) :
    ∃ other, others.lookup name = some other ∧ R entry other := by
  have hname := hnames name
  rw [h] at hname
  generalize others.lookup name = found at hname
  cases hname with
  | some hrelated => exact ⟨_, rfl, hrelated⟩

theorem Bisimulation.child (hrel : Bisimulation R) (h : R here there) :
    R (child name here) (child name there) := by
  cases here with
  | file content =>
      obtain ⟨changed, rfl⟩ := hrel.file h
      exact hrel.empty
  | link target =>
      obtain rfl := hrel.link h
      exact hrel.empty
  | directory access entries =>
      obtain ⟨others, rfl, hnames⟩ := hrel.directory h
      show R ((entries.lookup name).getD .empty) ((others.lookup name).getD .empty)
      cases hlookup : entries.lookup name with
      | none =>
          rw [lookup_none hnames hlookup]
          exact hrel.empty
      | some entry =>
          obtain ⟨other, hother, hrelated⟩ := lookup_some hnames hlookup
          rw [hother]
          exact hrelated

/-- Names lead to related entries within related directories. -/
theorem Bisimulation.enter (hrel : Bisimulation R) (names : List String) (h : R here there)
    (houter : List.Forall₂ R outer above) :
    R (enter names here outer).1 (enter names there above).1 ∧
      List.Forall₂ R (enter names here outer).2 (enter names there above).2 := by
  induction names generalizing here there outer above with
  | nil => exact ⟨h, houter⟩
  | cons name names ih => exact ih (hrel.child h) (.cons h houter)

/-- Ways that start at related entries stay there. -/
theorem follow_bisimilar (hrel : Bisimulation R) (hroot : R root base) {followLast : Bool}
    {links : Nat} {parts : List (List Char)} (h : R here there)
    (houter : List.Forall₂ R outer above) :
    SameWay R (follow root followLast links here outer parts)
      (follow base followLast links there above parts) := by
  fun_induction follow root followLast links here outer parts generalizing there above with
  | case1 links here outer =>
      rw [follow]
      exact .reached h
  | case2 links outer part rest content =>
      obtain ⟨changed, rfl⟩ := hrel.file h
      rw [follow]
      exact .failed _
  | case3 links outer part rest target =>
      obtain rfl := hrel.link h
      rw [follow]
      exact .failed _
  | case4 links outer part rest access entries hpart ih =>
      obtain ⟨others, rfl, hnames⟩ := hrel.directory h
      rw [follow, if_pos hpart]
      exact ih h houter
  | case5 links outer part rest access entries hpart hpass =>
      obtain ⟨others, rfl, hnames⟩ := hrel.directory h
      rw [follow, if_neg hpart, if_pos hpass]
      exact .failed _
  | case6 links outer part rest access entries hpart hpass hdot ih =>
      obtain ⟨others, rfl, hnames⟩ := hrel.directory h
      rw [follow, if_neg hpart, if_neg hpass, if_pos hdot]
      exact ih h houter
  | case7 links outer part rest access entries hpart hpass hdot hparent ih =>
      obtain ⟨others, rfl, hnames⟩ := hrel.directory h
      rw [follow, if_neg hpart, if_neg hpass, if_neg hdot, if_pos hparent]
      cases houter with
      | nil => exact ih h .nil
      | cons hfirst houter => exact ih hfirst houter
  | case8 links outer part rest access entries hpart hpass hdot hparent hlong =>
      obtain ⟨others, rfl, hnames⟩ := hrel.directory h
      rw [follow, if_neg hpart, if_neg hpass, if_neg hdot, if_neg hparent, if_pos hlong]
      exact .failed _
  | case9 links outer part rest access entries hpart hpass hdot hparent hlong hlookup =>
      obtain ⟨others, rfl, hnames⟩ := hrel.directory h
      have hother := lookup_none hnames hlookup
      rw [follow, if_neg hpart, if_neg hpass, if_neg hdot, if_neg hparent, if_neg hlong, hother]
      exact .failed _
  | case10 links outer part rest access entries hpart hpass hdot hparent hlong target hlookup
      hlast =>
      obtain ⟨others, rfl, hnames⟩ := hrel.directory h
      obtain ⟨found, hother, hfound⟩ := lookup_some hnames hlookup
      obtain rfl := hrel.link hfound
      rw [follow, if_neg hpart, if_neg hpass, if_neg hdot, if_neg hparent, if_neg hlong, hother]
      show SameWay R _ (ite _ _ _)
      rw [if_pos hlast]
      exact .reached hfound
  | case11 outer part rest access entries hpart hpass hdot hparent hlong target hlookup hlast =>
      obtain ⟨others, rfl, hnames⟩ := hrel.directory h
      obtain ⟨found, hother, hfound⟩ := lookup_some hnames hlookup
      obtain rfl := hrel.link hfound
      rw [follow, if_neg hpart, if_neg hpass, if_neg hdot, if_neg hparent, if_neg hlong, hother]
      show SameWay R _ (ite _ _ _)
      rw [if_neg hlast]
      exact .failed _
  | case12 outer part rest access entries hpart hpass hdot hparent hlong target hlookup hlast links
      habsolute ih =>
      obtain ⟨others, rfl, hnames⟩ := hrel.directory h
      obtain ⟨found, hother, hfound⟩ := lookup_some hnames hlookup
      obtain rfl := hrel.link hfound
      rw [follow, if_neg hpart, if_neg hpass, if_neg hdot, if_neg hparent, if_neg hlong, hother]
      show SameWay R _ (ite _ _ (ite _ _ _))
      rw [if_neg hlast, if_pos habsolute]
      exact ih hroot .nil
  | case13 outer part rest access entries hpart hpass hdot hparent hlong target hlookup hlast links
      habsolute ih =>
      obtain ⟨others, rfl, hnames⟩ := hrel.directory h
      obtain ⟨found, hother, hfound⟩ := lookup_some hnames hlookup
      obtain rfl := hrel.link hfound
      rw [follow, if_neg hpart, if_neg hpass, if_neg hdot, if_neg hparent, if_neg hlong, hother]
      show SameWay R _ (ite _ _ (ite _ _ _))
      rw [if_neg hlast, if_neg habsolute]
      exact ih h houter
  | case14 links outer part rest access entries hpart hpass hdot hparent hlong entry hlink hlookup
      ih =>
      obtain ⟨others, rfl, hnames⟩ := hrel.directory h
      obtain ⟨found, hother, hfound⟩ := lookup_some hnames hlookup
      rw [follow, if_neg hpart, if_neg hpass, if_neg hdot, if_neg hparent, if_neg hlong, hother]
      have hnext := ih hfound (.cons h houter)
      cases entry with
      | link target => exact absurd rfl (hlink target)
      | file content =>
          obtain ⟨changed, rfl⟩ := hrel.file hfound
          exact hnext
      | directory access entries =>
          obtain ⟨others, rfl, _⟩ := hrel.directory hfound
          exact hnext

end

section

variable {R : FileEntry → FileEntry → Prop} {tree other : FileTree} {path : Path}

/-- Trees whose roots are related, and whose working directories are in the same place. -/
structure Related (R : FileEntry → FileEntry → Prop) (tree other : FileTree) : Prop where
  root : R tree.root other.root
  working : tree.working = other.working

/-- A path leads to related entries of related trees. -/
theorem resolve_bisimilar (hrel : Bisimulation R) {followLast : Bool} (h : Related R tree other) :
    SameWay R (tree.resolve path followLast) (other.resolve path followLast) := by
  have hplace (names : List String) := hrel.enter names h.root .nil
  simp only [resolve, h.working]
  split
  · exact .failed _
  split
  · exact .failed _
  split
  · exact .failed _
  · exact follow_bisimilar hrel h.root (hplace _).1 (hplace _).2

/-- Ways to related entries fail alike, or lead both to files, to directories that may be used alike
or to the same link. -/
theorem SameWay.forms (hrel : Bisimulation R) {way back : Except ReadError FileEntry}
    (h : SameWay R way back) :
    (∃ cause, way = .error cause ∧ back = .error cause) ∨
    (∃ content changed, way = .ok (file content) ∧ back = .ok (file changed)) ∨
    (∃ access entries others,
      way = .ok (directory access entries) ∧ back = .ok (directory access others)) ∨
    ∃ target, way = .ok (link target) ∧ back = .ok (link target) := by
  cases h with
  | failed cause => exact .inl ⟨cause, rfl, rfl⟩
  | @reached entry found hfound =>
      cases entry with
      | file content =>
          obtain ⟨changed, rfl⟩ := hrel.file hfound
          exact .inr (.inl ⟨content, changed, rfl, rfl⟩)
      | directory access entries =>
          obtain ⟨others, rfl, _⟩ := hrel.directory hfound
          exact .inr (.inr (.inl ⟨access, entries, others, rfl, rfl⟩))
      | link target =>
          obtain rfl := hrel.link hfound
          exact .inr (.inr (.inr ⟨target, rfl, rfl⟩))

/-- A path leads to files in both of two related trees, or in neither. -/
theorem is_file_bisimilar (hrel : Bisimulation R) (h : Related R tree other) :
    other.isFile path = tree.isFile path := by
  rcases (resolve_bisimilar hrel h).forms hrel with ⟨cause, hleft, hright⟩ |
    ⟨content, changed, hleft, hright⟩ | ⟨access, entries, others, hleft, hright⟩ |
    ⟨target, hleft, hright⟩
  all_goals rw [isFile, isFile, hleft, hright]

/-- Of the directories in related trees the same ones can be listed. -/
theorem can_list_bisimilar (hrel : Bisimulation R) (h : Related R tree other) :
    other.canList path = tree.canList path := by
  rcases (resolve_bisimilar hrel h).forms hrel with ⟨cause, hleft, hright⟩ |
    ⟨content, changed, hleft, hright⟩ | ⟨access, entries, others, hleft, hright⟩ |
    ⟨target, hleft, hright⟩
  all_goals rw [canList, canList, hleft, hright]

end

/-! ## Properties of all entries -/

section

variable {P : FileEntry → Prop} {tree : FileTree} {entries : List (String × FileEntry)}
variable {name : String} {entry : FileEntry}

theorem mem_of_lookup (h : entries.lookup name = some entry) : (name, entry) ∈ entries := by
  obtain ⟨front, back, rfl, _⟩ := List.lookup_eq_some_iff.1 h
  exact List.mem_append_right _ List.mem_cons_self

/-- What a directory passes on to its entries holds of all that a path leads to. -/
theorem holds_of_resolve (hempty : P empty)
    (hentries : ∀ access entries, P (directory access entries) → ∀ item ∈ entries, P item.2)
    (h : P tree.root) {path : Path} {followLast : Bool}
    (hresolve : tree.resolve path followLast = .ok entry) : P entry := by
  have hrel : Bisimulation fun entry other => other = entry ∧ P entry := by
    refine ⟨fun h => ⟨_, h.1⟩, And.left, ?_, rfl, hempty⟩
    rintro access entries _ ⟨rfl, hdirectory⟩
    refine ⟨entries, rfl, fun name => ?_⟩
    cases hlookup : entries.lookup name with
    | none => exact .none
    | some entry => exact .some ⟨rfl, hentries access entries hdirectory _ (mem_of_lookup hlookup)⟩
  have hway : SameWay _ (tree.resolve path followLast) (tree.resolve path followLast) :=
    resolve_bisimilar hrel ⟨⟨rfl, h⟩, rfl⟩
  rw [hresolve] at hway
  cases hway with
  | reached hfound => exact hfound.2

end

/-! ## Names in the working directory -/

/-- A text leads on from the working directory, if it leads anywhere. -/
def IsRelative (text : String) : Prop :=
  text.toList ≠ [] ∧ text.toList.head? ≠ some '/' ∧ '\x00' ∉ text.toList ∧
    byteLength text.toList ≤ longestPath

instance (text : String) : Decidable (IsRelative text) :=
  inferInstanceAs (Decidable (_ ∧ _ ∧ _ ∧ _))

/-- A text may stand for an entry. -/
def IsShortName (name : String) : Prop :=
  Path.IsName name.toList ∧ '\x00' ∉ name.toList ∧ byteLength name.toList ≤ longestName

instance (name : String) : Decidable (IsShortName name) :=
  inferInstanceAs (Decidable (_ ∧ _ ∧ _))

section

variable {root entry : FileEntry} {entries inner : List (String × FileEntry)} {access : Access}
variable {outer : List FileEntry} {text name : String} {rest : List (List Char)}
variable {followLast : Bool} {links : Nat}

/-- A text without separators is one part. -/
theorem segments_of_single {chars : List Char} (h : '/' ∉ chars) : segmentsOf chars = [chars] := by
  induction chars with
  | nil => rfl
  | cons c chars ih =>
      obtain ⟨hc, hchars⟩ := List.ne_and_not_mem_of_not_mem_cons h
      rw [segmentsOf, if_neg (Ne.symm hc), ih hchars]

theorem byte_length_append (front back : List Char) :
    byteLength (front ++ back) = byteLength front + byteLength back := by
  rw [byteLength, String.ofList_append, String.utf8ByteSize_append]
  rfl

/-- A directory whose path is too long cannot be listed. -/
theorem can_list_of_long {tree : FileTree} {path : Path}
    (h : longestPath < byteLength path.text.toList) : tree.canList path = false := by
  have hresolve : ∃ cause, tree.resolve path true = .error cause := by
    simp only [resolve, gt_iff_lt, h, if_true]
    split_ifs <;> exact ⟨_, rfl⟩
  obtain ⟨cause, hcause⟩ := hresolve
  rw [canList, hcause]

/-- A relative path is followed from the working directory on. -/
theorem resolve_relative (h : IsRelative text) : (ofEntries entries).resolve ⟨text⟩ followLast =
    follow (directory .full entries) followLast mostLinks (directory .full entries) []
      (segmentsOf text.toList) := by
  obtain ⟨hnonempty, hrelative, hnul, hshort⟩ := h
  simp only [resolve, List.contains_iff_mem, hnul, List.isEmpty_iff, hnonempty, hrelative,
    Nat.not_lt.2 hshort, if_false]
  rfl

/-- A name leads to its entry, unless that is a link. -/
theorem follow_name (hpass : access.pass = true) (hname : IsShortName name)
    (h : entries.lookup name = some entry) (hlink : ∀ target, entry ≠ link target) :
    follow root followLast links (directory access entries) outer (name.toList :: rest) =
      follow root followLast links entry (directory access entries :: outer) rest := by
  obtain ⟨hname, _, hshort⟩ := hname
  have hlong := Nat.not_lt.2 hshort
  rw [follow]
  cases entry with
  | link target => exact absurd rfl (hlink target)
  | file content => simp [hpass, hname.nonempty, hname.notCurrent, hname.notParent, hlong, h]
  | directory access inner =>
      simp [hpass, hname.nonempty, hname.notCurrent, hname.notParent, hlong, h]

/-- A name that is not there leads nowhere. -/
theorem follow_missing (hpass : access.pass = true) (hname : IsShortName name)
    (h : entries.lookup name = none) :
    follow root followLast links (directory access entries) outer (name.toList :: rest) =
      .error .notFound := by
  obtain ⟨hname, _, hshort⟩ := hname
  rw [follow]
  simp [hpass, hname.nonempty, hname.notCurrent, hname.notParent, Nat.not_lt.2 hshort, h]

theorem resolve_single (hname : IsShortName name) : (ofEntries entries).resolve ⟨name⟩ followLast =
    follow (directory .full entries) followLast mostLinks (directory .full entries) []
      [name.toList] := by
  obtain ⟨hname, hnul, hshort⟩ := hname
  have hrelative : name.toList.head? ≠ some '/' := fun hhead =>
    hname.single (List.mem_of_head? hhead)
  rw [resolve_relative ⟨hname.nonempty, hrelative, hnul, hshort.trans (by decide)⟩,
    segments_of_single hname.single]

/-- A name in the working directory leads to its entry, unless that is a link. -/
theorem resolve_name (hname : IsShortName name) (h : entries.lookup name = some entry)
    (hlink : ∀ target, entry ≠ link target) :
    (ofEntries entries).resolve ⟨name⟩ followLast = .ok entry := by
  rw [resolve_single hname, follow_name rfl hname h hlink, follow]

/-- A name that is not in the working directory leads nowhere. -/
theorem resolve_missing (hname : IsShortName name) (h : entries.lookup name = none) :
    (ofEntries entries).resolve ⟨name⟩ followLast = .error .notFound := by
  rw [resolve_single hname, follow_missing rfl hname h]

/-- Two names lead to what is in a directory of the working directory. -/
theorem resolve_within (first second : String) (htext : IsRelative text)
    (hparts : segmentsOf text.toList = [first.toList, second.toList]) (hfirst : IsShortName first)
    (hsecond : IsShortName second) (hpass : access.pass = true)
    (houter : entries.lookup first = some (directory access inner))
    (h : inner.lookup second = some entry) (hlink : ∀ target, entry ≠ link target) :
    (ofEntries entries).resolve ⟨text⟩ followLast = .ok entry := by
  rw [resolve_relative htext, hparts, follow_name rfl hfirst houter nofun,
    follow_name hpass hsecond h hlink, follow]

/-! ## A leading dot -/

/-- A relative path starts with a name, or one or two dots. -/
theorem segments_of_relative {chars : List Char} (hnonempty : chars ≠ [])
    (hrelative : chars.head? ≠ some '/') :
    ∃ part rest, segmentsOf chars = part :: rest ∧ part ≠ [] := by
  obtain ⟨c, rest, rfl⟩ := List.exists_cons_of_ne_nil hnonempty
  have hc : c ≠ '/' := fun heq => hrelative (congrArg some heq)
  rw [segmentsOf, if_neg hc]
  split
  · exact ⟨_, _, rfl, List.cons_ne_nil _ _⟩
  · exact ⟨_, _, rfl, List.cons_ne_nil _ _⟩

/-- A leading `.` leads nowhere, and is no more of an obstacle than what comes behind it. -/
theorem follow_dot {here : FileEntry} {part : List Char} (h : part ≠ []) :
    follow root followLast links here outer (['.'] :: part :: rest) =
      follow root followLast links here outer (part :: rest) := by
  cases here with
  | file content => simp [follow]
  | link target => simp [follow]
  | directory access entries =>
      rw [follow]
      cases hpass : access.pass with
      | true => simp
      | false =>
          rw [follow]
          simp [hpass, h]

theorem resolve_dotted {tree : FileTree} {path : Path} (hrelative : ¬ ['/'] <+: path.text.toList)
    (hnonempty : path.text.toList ≠ []) (hfits : path.dotted.text.utf8ByteSize ≤ longestPath) :
    tree.resolve path.dotted followLast = tree.resolve path followLast := by
  have hbytes {other : Path} : byteLength other.text.toList = other.text.utf8ByteSize := by
    rw [byteLength, String.ofList_toList]
  have hshorter : path.text.utf8ByteSize ≤ longestPath := by
    rw [Path.dotted, String.utf8ByteSize_append] at hfits
    omega
  have hhead : path.text.toList.head? ≠ some '/' := by
    intro hhead
    obtain ⟨rest, hrest⟩ := List.head?_eq_some_iff.1 hhead
    exact hrelative ⟨rest, hrest.symm⟩
  obtain ⟨part, rest, hparts, hpart⟩ := segments_of_relative hnonempty hhead
  have hsegments : segmentsOf ('.' :: '/' :: path.text.toList) = ['.'] :: part :: rest := by
    rw [← hparts]
    rfl
  unfold resolve
  simp only [hbytes, gt_iff_lt, Nat.not_lt.2 hfits, Nat.not_lt.2 hshorter, if_false]
  rw [Path.dotted_to_list, hsegments, hparts]
  simp [hnonempty, hhead, follow_dot hpart]

/-! ## Reading -/

theorem is_file_of_resolve {tree : FileTree} {path : Path} {content : Option ByteArray}
    (h : tree.resolve path true = .ok (file content)) : tree.isFile path = true := by
  rw [isFile, h]

/-- A text is what its own bytes stand for. -/
theorem text_of_encoded (text : String) : textOf (some text.toUTF8) = .ok text := by
  have hdecoded : String.fromUTF8? text.toUTF8 = some text := by
    rw [String.fromUTF8?, String.toUTF8_eq_toByteArray, dif_pos text.isValidUTF8]
    rfl
  simp only [textOf, hdecoded]

/-- A text is read back from the file that holds it. -/
theorem read_encoded {tree : FileTree} {path : Path}
    (h : tree.resolve path true = .ok (ofText text)) : tree.readText path = .ok text := by
  rw [readText, h]
  exact text_of_encoded text

/-- Nothing is read from a file whose bytes are no text. -/
theorem read_undecodable {tree : FileTree} {path : Path} {content : ByteArray}
    (h : tree.resolve path true = .ok (file (some content))) (hbytes : ¬ content.IsValidUTF8) :
    tree.readText path = .error .invalidEncoding := by
  have hdecoded : String.fromUTF8? content = none := dif_neg hbytes
  rw [readText, h]
  simp only [textOf, hdecoded]

end

end NamingLint.FileTree
