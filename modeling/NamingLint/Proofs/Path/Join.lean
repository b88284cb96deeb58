import Mathlib.Data.List.Infix
import NamingLint.Proofs.Path.Ancestors

/-!
# Paths of the entries of a directory

A path is put behind the path of a directory with a separator between the two, unless there is one
already. `components_join` says that the name of an entry is one more component.
-/

namespace NamingLint.Path

section

variable {directory name : Path}

theorem starts_with_separator_iff :
    name.text.startsWith "/" = true ↔ ['/'] <+: name.text.toList :=
  String.startsWith_string_iff

theorem ends_with_separator_iff :
    directory.text.endsWith "/" = true ↔ ['/'] <:+ directory.text.toList := by
  rw [String.endsWith_eq_endsWith_toSlice, String.Slice.endsWith_string_iff, String.copy_toSlice]
  rfl

theorem join_absolute (h : name.text.startsWith "/" = true) : directory.join name = name := by
  rw [join, h, Bool.true_or, if_pos rfl]

theorem join_empty : (⟨""⟩ : Path).join name = name := by
  simp [join]

theorem join_relative (h : name.text.startsWith "/" = false)
    (hdirectory : directory.text.toList ≠ []) : directory.join name =
      if directory.text.endsWith "/" then ⟨directory.text ++ name.text⟩
      else ⟨directory.text ++ "/" ++ name.text⟩ := by
  have hnonempty : directory.text.isEmpty = false := by simpa using hdirectory
  rw [join, h, hnonempty, Bool.or_false, if_neg Bool.false_ne_true]

theorem join_begins (h : name.text.startsWith "/" = false)
    (hdirectory : directory.text.toList ≠ []) :
    directory.text.toList <+: (directory.join name).text.toList := by
  rw [join_relative h hdirectory]
  split
  · rw [String.toList_append]
    exact List.prefix_append _ _
  · rw [String.append_assoc, String.toList_append]
    exact List.prefix_append _ _

end

/-! ## Names of entries -/

/-- A text can be the name of an entry: it is not empty, neither the directory itself nor the one
above it, and holds no separator. -/
structure IsName (name : List Char) : Prop where
  nonempty : name ≠ []
  notCurrent : name ≠ ['.']
  notParent : name ≠ ['.', '.']
  single : '/' ∉ name

instance (name : List Char) : Decidable (IsName name) :=
  decidable_of_iff (name ≠ [] ∧ name ≠ ['.'] ∧ name ≠ ['.', '.'] ∧ '/' ∉ name)
    ⟨fun h => ⟨h.1, h.2.1, h.2.2.1, h.2.2.2⟩, fun h => ⟨h.1, h.2, h.3, h.4⟩⟩

section

variable {start : Nat} {segment front back name : List Char}

theorem segment_component_of_name (h : IsName name) :
    segmentComponent name = some (.name (String.ofList name)) := by
  simp [segmentComponent, h.nonempty, h.notCurrent, h.notParent]

/-- The components of the segments in a text, wherever the text starts. -/
def bodyComponents (text : List Char) : List Component :=
  (bodySteps 0 [] text).map Step.component

theorem components_of_body_steps : (bodySteps start [] front).map Step.component =
    bodyComponents front := by
  rw [bodyComponents, ← Nat.zero_add start, body_steps_shift, List.map_map]
  rfl

/-- A separator ends the components in front of it. -/
theorem body_steps_append_separator :
    (bodySteps start segment (front ++ '/' :: back)).map Step.component =
      (bodySteps start segment front).map Step.component ++ bodyComponents back := by
  induction front generalizing start segment with
  | nil =>
      rw [List.nil_append, body_steps_separator, body_steps_nil, List.map_append,
        components_of_body_steps]
  | cons c front ih =>
      by_cases hc : c = '/'
      · rw [hc, List.cons_append, body_steps_separator, body_steps_separator, List.map_append, ih,
          List.map_append, List.append_assoc]
      · rw [List.cons_append, body_steps_char hc, body_steps_char hc, ih]

theorem body_components_name (h : IsName name) :
    bodyComponents name = [.name (String.ofList name)] := by
  have hsteps : bodySteps 0 [] name = segmentSteps 0 name.reverse := by
    rw [← List.append_nil name, body_steps_front h.single, List.append_nil, body_steps_nil,
      List.append_nil]
  rw [bodyComponents, hsteps, segmentSteps, List.reverse_reverse, segment_component_of_name h]
  rfl

theorem IsPlain.append_separator (h : IsPlain front) (hfront : front ≠ []) :
    IsPlain (front ++ '/' :: back) := by
  obtain ⟨c, rest, rfl⟩ := List.exists_cons_of_ne_nil hfront
  refine ⟨?_, by simp, ?_⟩
  · intro hroot
    exact h.relative (by simpa using hroot)
  · intro hdotted
    rw [List.cons_append, List.cons_prefix_cons] at hdotted
    obtain ⟨rfl, hnext⟩ := hdotted
    -- The separator behind the dot is one of the front's, or the front is the dot alone.
    cases rest with
    | nil => exact h.notCurrent rfl
    | cons next rest => exact h.notDotted (by simpa using hnext)

/-- Behind a separator, a text is one of segments. -/
theorem steps_append_separator (hfront : front ≠ []) :
    (stepsOf (front ++ '/' :: back)).map Step.component =
      (stepsOf front).map Step.component ++ bodyComponents back := by
  rcases text_cases front with ⟨rest, rfl⟩ | rfl | ⟨rest, rfl⟩ | hplain
  · rw [List.cons_append, stepsOf, stepsOf, List.map_cons, List.map_cons,
      body_steps_append_separator]
    rfl
  · show Component.current :: (bodySteps 2 [] back).map Step.component = _
    rw [components_of_body_steps]
    rfl
  · rw [List.cons_append, List.cons_append, stepsOf, stepsOf, List.map_cons, List.map_cons,
      body_steps_append_separator]
    rfl
  · rw [(hplain.append_separator hfront).steps_eq, hplain.steps_eq, body_steps_append_separator]

theorem IsName.plain (h : IsName name) : IsPlain name where
  relative hroot := h.single (hroot.subset List.mem_cons_self)
  notCurrent := h.notCurrent
  notDotted hdotted := h.single (hdotted.subset (by simp))

end

/-- The name of an entry is one more component behind those of its directory. -/
theorem components_join {directory : Path} {name : String} (h : IsName name.toList) :
    (directory.join ⟨name⟩).components = directory.components ++ [.name name] := by
  have hname : bodyComponents name.toList = [.name name] := by
    rw [body_components_name h, String.ofList_toList]
  have hrelative : (⟨name⟩ : Path).text.startsWith "/" = false := by
    rw [Bool.eq_false_iff, ne_eq, starts_with_separator_iff]
    exact h.plain.relative
  by_cases hempty : directory.text.toList = []
  · obtain rfl : directory = ⟨""⟩ := eq_of_chars hempty
    rw [join_empty, components, steps, h.plain.steps_eq]
    exact hname
  by_cases hends : directory.text.endsWith "/" = true
  · obtain ⟨front, hfront⟩ := ends_with_separator_iff.1 hends
    have hjoin : (directory.join ⟨name⟩).text.toList = front ++ '/' :: name.toList := by
      rw [join_relative hrelative hempty, if_pos hends, String.toList_append, ← hfront,
        List.append_assoc]
      rfl
    rw [components, steps, hjoin, components, steps, ← hfront]
    by_cases hroot : front = []
    · rw [hroot]
      show Component.root :: (bodySteps 1 [] name.toList).map Step.component = _
      rw [components_of_body_steps, hname]
      rfl
    · rw [steps_append_separator hroot, steps_append_separator hroot, hname]
      exact (List.append_nil _).symm ▸ rfl
  · have hjoin : (directory.join ⟨name⟩).text.toList =
        directory.text.toList ++ '/' :: name.toList := by
      rw [join_relative hrelative hempty, if_neg hends, String.toList_append, String.toList_append,
        List.append_assoc]
      rfl
    rw [components, steps, hjoin, steps_append_separator hempty, hname]
    rfl

/-- A name is put behind a directory with a separator, unless the directory ends in one. -/
theorem join_name {directory name : String} (h : IsName name.toList)
    (hdirectory : directory.toList ≠ []) (hlast : directory.toList.getLast? ≠ some '/') :
    (⟨directory⟩ : Path).join ⟨name⟩ = ⟨directory ++ "/" ++ name⟩ := by
  have hrelative : (⟨name⟩ : Path).text.startsWith "/" = false := by
    rw [Bool.eq_false_iff, ne_eq, starts_with_separator_iff]
    exact h.plain.relative
  have hends : (⟨directory⟩ : Path).text.endsWith "/" = false := by
    rw [Bool.eq_false_iff, ne_eq, ends_with_separator_iff]
    rintro ⟨front, hfront⟩
    exact hlast (by rw [← hfront, List.getLast?_concat])
  rw [join_relative hrelative hdirectory, hends, if_neg Bool.false_ne_true]

/-- The name of an entry is the file name of its path. -/
theorem file_name_join {directory : Path} {name : String} (h : IsName name.toList) :
    (directory.join ⟨name⟩).fileName = some name := by
  have hlast : (directory.join ⟨name⟩).steps.getLast?.map Step.component = some (.name name) := by
    rw [← List.getLast?_map, ← components, components_join h, List.getLast?_concat]
  obtain ⟨⟨_, start, stop⟩, hstep, rfl⟩ := Option.map_eq_some_iff.1 hlast
  rw [fileName, hstep]

end NamingLint.Path
