import NamingLint.Proofs.Path.Ancestors

/-!
# Paths with a leading dot

A relative path may be spelled with `./` in front. `parents_dotted` and the lemmas on `relativeTo?`
say what changes with that: the working directory stands twice among the directories above the path,
and the path relative to the outer one of the two keeps its dot.
-/

namespace NamingLint.Path

/-- The path with `./` in front. -/
def dotted (path : Path) : Path :=
  ⟨"./" ++ path.text⟩

/-- A relative path with a first component other than `.`. -/
structure IsBare (path : Path) : Prop where
  plain : IsPlain path.text.toList
  nonempty : path.text.toList ≠ []

/-- The non-empty directories above a relative path, the nearest first. -/
def above (path : Path) : List Path :=
  (path.steps.dropLast.map fun step => path.slice 0 step.stop).reverse

section

variable {path directory : Path}

theorem dotted_to_list : path.dotted.text.toList = '.' :: '/' :: path.text.toList := by
  rw [dotted, String.toList_append]
  rfl

/-! ## Steps -/

/-- A text is a segment, or goes on behind one with a separator. -/
theorem first_segment (chars : List Char) : ∃ front back, front ++ back = chars ∧ '/' ∉ front ∧
    (back = [] ∨ ∃ more, back = '/' :: more) := by
  induction chars with
  | nil => exact ⟨[], [], rfl, List.not_mem_nil, .inl rfl⟩
  | cons c rest ih =>
      by_cases hc : c = '/'
      · exact ⟨[], c :: rest, rfl, List.not_mem_nil, .inr ⟨rest, by rw [hc]⟩⟩
      · obtain ⟨front, back, hsplit, hfront, hback⟩ := ih
        exact ⟨c :: front, back, congrArg (List.cons c) hsplit,
          List.not_mem_cons_of_ne_of_not_mem (Ne.symm hc) hfront, hback⟩

theorem segment_component_some {segment : List Char} (hne : segment ≠ []) (hdot : segment ≠ ['.']) :
    ∃ component, segmentComponent segment = some component ∧ component ≠ .root := by
  have hmakes : (segment.isEmpty || segment == ['.']) = false := by
    rw [Bool.or_eq_false_iff]
    exact ⟨by simpa using hne, beq_eq_false_iff_ne.2 hdot⟩
  unfold segmentComponent
  rw [hmakes, if_neg Bool.false_ne_true]
  split
  · exact ⟨_, rfl, by simp⟩
  · exact ⟨_, rfl, by simp⟩

/-- The first segment of a plain text makes a step, which starts where the text does. -/
theorem body_steps_of_plain {chars : List Char} (hplain : IsPlain chars) (hne : chars ≠ []) :
    ∃ first rest, bodySteps 0 [] chars = first :: rest ∧ first.start = 0 ∧
      first.component ≠ .root := by
  obtain ⟨front, back, rfl, hfront, hback⟩ := first_segment chars
  obtain ⟨component, hcomponent, hroot⟩ : ∃ component,
      segmentComponent front = some component ∧ component ≠ .root := by
    refine segment_component_some ?_ ?_
    · rintro rfl
      rcases hback with rfl | ⟨more, rfl⟩
      · exact hne rfl
      · exact hplain.relative (List.prefix_append _ _)
    · rintro rfl
      rcases hback with rfl | ⟨more, rfl⟩
      · exact hplain.notCurrent rfl
      · exact hplain.notDotted (List.prefix_append _ _)
  have hsegment : segmentSteps 0 front.reverse = [⟨component, 0, front.length⟩] := by
    rw [segmentSteps, List.reverse_reverse, hcomponent, List.length_reverse, Nat.zero_add]
    rfl
  rw [body_steps_front hfront, List.append_nil]
  rcases hback with rfl | ⟨more, rfl⟩
  · exact ⟨_, _, body_steps_nil.trans hsegment, rfl, hroot⟩
  · rw [body_steps_separator, hsegment]
    exact ⟨_, _, rfl, rfl, hroot⟩

theorem IsBare.first_step (h : path.IsBare) : ∃ first rest, path.steps = first :: rest ∧
    first.start = 0 ∧ first.component ≠ .root := by
  obtain ⟨first, rest, hsteps, hfirst⟩ := body_steps_of_plain h.plain h.nonempty
  exact ⟨first, rest, h.plain.steps_eq.trans hsteps, hfirst⟩

theorem steps_dotted (h : IsPlain path.text.toList) :
    path.dotted.steps = ⟨.current, 0, 1⟩ :: path.steps.map (Step.shift 2) := by
  rw [steps, dotted_to_list, steps, h.steps_eq, ← body_steps_shift]
  rfl

/-! ## Directories -/

theorem slice_dotted (start stop : Nat) :
    path.dotted.slice (start + 2) (stop + 2) = path.slice start stop := by
  rw [slice, slice, dotted_to_list, Nat.add_sub_add_right]
  rfl

theorem slice_dotted_from_start (stop : Nat) :
    path.dotted.slice 0 (stop + 2) = (path.slice 0 stop).dotted := by
  refine eq_of_chars ?_
  rw [slice_to_list, dotted_to_list, dotted_to_list, slice_to_list]
  rfl

theorem parents_eq (h : path.IsBare) : path.parents = path.above ++ [⟨""⟩] := by
  obtain ⟨first, rest, hsteps, _, hroot⟩ := h.first_step
  rw [parents, above, hsteps]
  simp only [hroot, if_false]

theorem parents_dotted (h : path.IsBare) :
    path.dotted.parents = path.above.map dotted ++ [⟨"."⟩, ⟨""⟩] := by
  obtain ⟨first, rest, hsteps, _⟩ := h.first_step
  have habove : (path.steps.map (Step.shift 2)).dropLast.map
      (fun step => path.dotted.slice 0 step.stop) =
      (path.steps.dropLast.map fun step => path.slice 0 step.stop).map dotted := by
    rw [← List.map_dropLast, List.map_map, List.map_map]
    exact List.map_congr_left fun step _ => slice_dotted_from_start step.stop
  have hcurrent : path.dotted.slice 0 1 = ⟨"."⟩ := by
    refine eq_of_chars ?_
    rw [slice_to_list, dotted_to_list]
    rfl
  have hnonempty : path.steps.map (Step.shift 2) ≠ [] := by
    rw [hsteps]
    exact List.cons_ne_nil _ _
  rw [parents, steps_dotted h.plain]
  simp only [reduceCtorEq, if_false]
  rw [List.dropLast_cons_of_ne_nil hnonempty, List.map_cons, List.reverse_cons, hcurrent, habove,
    ← List.map_reverse, List.append_assoc]
  rfl

/-- A bare path up to the end of one of its steps is bare, too. -/
theorem IsBare.slice (h : path.IsBare) {step : Step} (hstep : step ∈ path.steps) :
    (path.slice 0 step.stop).IsBare := by
  obtain ⟨before, after, hsplit⟩ := List.append_of_mem hstep
  have hchars : (path.slice 0 step.stop).text.toList = path.text.toList.take step.stop :=
    slice_to_list 0 step.stop
  have htake : bodySteps 0 [] (path.text.toList.take step.stop) = before ++ [step] := by
    rw [steps, h.plain.steps_eq] at hsplit
    exact body_steps_take hsplit
  have hsteps : bodySteps 0 [] (path.text.toList.take step.stop) ≠ [] := by
    rw [htake]
    simp
  refine ⟨hchars ▸ h.plain.take hsteps, ?_⟩
  rw [hchars]
  intro hempty
  rw [hempty] at hsteps
  exact hsteps rfl

theorem IsBare.above (h : path.IsBare) (hdirectory : directory ∈ path.above) :
    directory.IsBare := by
  obtain ⟨step, hstep, rfl⟩ := List.mem_map.1 (List.mem_reverse.1 hdirectory)
  exact h.slice ((List.dropLast_sublist _).mem hstep)

/-! ## Relative paths -/

theorem last_step_dotted (h : path.IsBare) : ∃ front last, path.steps = front ++ [last] ∧
    path.dotted.steps = (⟨.current, 0, 1⟩ :: front.map (Step.shift 2)) ++ [last.shift 2] := by
  obtain ⟨first, rest, hsteps, _⟩ := h.first_step
  obtain ⟨front, last, hlast⟩ := (List.eq_nil_or_concat path.steps).resolve_left (by simp [hsteps])
  rw [List.concat_eq_append] at hlast
  refine ⟨front, last, hlast, ?_⟩
  rw [steps_dotted h.plain, hlast, List.map_append]
  rfl

theorem relative_to_empty_bare (h : path.IsBare) :
    ∃ relative, path.relativeTo? ⟨""⟩ = some relative ∧ relative.IsBare := by
  obtain ⟨front, last, hlast, _⟩ := last_step_dotted h
  exact ⟨_, relative_to_empty hlast, h.slice (hlast ▸ List.mem_append_right _ List.mem_cons_self)⟩

theorem file_name_dotted (h : path.IsBare) : path.dotted.fileName = path.fileName := by
  obtain ⟨front, ⟨component, start, stop⟩, hlast, hdotted⟩ := last_step_dotted h
  rw [fileName, fileName, hlast, hdotted, List.getLast?_concat, List.getLast?_concat]
  cases component <;> rfl

/-- The path relative to the outer one of the two spellings of the working directory. -/
theorem relative_to_empty_dotted (h : path.IsBare) :
    path.dotted.relativeTo? ⟨""⟩ = (path.relativeTo? ⟨""⟩).map dotted := by
  obtain ⟨front, last, hlast, hdotted⟩ := last_step_dotted h
  rw [relative_to_empty hlast, relative_to_empty hdotted, Option.map_some,
    ← slice_dotted_from_start]
  rfl

/-- The path relative to the inner one of the two spellings of the working directory. -/
theorem relative_to_dot (h : path.IsBare) :
    path.dotted.relativeTo? ⟨"."⟩ = path.relativeTo? ⟨""⟩ := by
  obtain ⟨front, last, hlast, hdotted⟩ := last_step_dotted h
  obtain ⟨first, rest, hsteps, hstart, _⟩ := h.first_step
  have hsplit : path.dotted.steps =
      [] ++ ⟨.current, 0, 1⟩ :: first.shift 2 :: rest.map (Step.shift 2) := by
    rw [steps_dotted h.plain, hsteps]
    rfl
  have hbehind : first.shift 2 :: rest.map (Step.shift 2) =
      front.map (Step.shift 2) ++ [last.shift 2] := by
    rw [← List.map_cons, ← hsteps, hlast, List.map_append]
    rfl
  rw [relative_to_steps hsplit hbehind rfl, relative_to_empty hlast, ← hstart]
  exact congrArg some (slice_dotted first.start last.stop)

/-- Below the working directory, the relative paths are the same. -/
theorem relative_to_dotted (h : path.IsBare) (hdirectory : directory ∈ path.above) :
    path.dotted.relativeTo? directory.dotted = path.relativeTo? directory := by
  have hbare := h.above hdirectory
  have hparent : directory ∈ path.parents := by
    rw [parents_eq h]
    exact List.mem_append_left _ hdirectory
  obtain ⟨_, rfl | ⟨before, step, next, after, hsplit, rfl⟩⟩ := parent_cases hparent
  · exact absurd rfl hbare.nonempty
  obtain ⟨front, last, hlast⟩ :=
    (List.eq_nil_or_concat (next :: after)).resolve_left (List.cons_ne_nil _ _)
  rw [List.concat_eq_append] at hlast
  have hdotted : path.dotted.steps = (⟨.current, 0, 1⟩ :: before.map (Step.shift 2)) ++
      step.shift 2 :: next.shift 2 :: after.map (Step.shift 2) := by
    rw [steps_dotted h.plain, hsplit, List.map_append]
    rfl
  have hbehind : next.shift 2 :: after.map (Step.shift 2) =
      front.map (Step.shift 2) ++ [last.shift 2] := by
    rw [← List.map_cons, hlast, List.map_append]
    rfl
  have hbase : (path.slice 0 step.stop).dotted.steps =
      (⟨.current, 0, 1⟩ :: before.map (Step.shift 2)) ++ [step.shift 2] := by
    rw [steps_dotted hbare.plain, steps_slice hsplit, List.map_append]
    rfl
  rw [relative_to_steps hdotted hbehind hbase, relative_to_steps hsplit hlast (steps_slice hsplit)]
  exact congrArg some (slice_dotted next.start last.stop)

end

end NamingLint.Path
