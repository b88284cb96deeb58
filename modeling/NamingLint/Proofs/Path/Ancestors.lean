import NamingLint.Path

/-!
# The directories above a path

`relative_to_parent` says how a path is made up of a directory above it and of the path relative to
that directory: the components of the two, one after the other, are those of the path.
-/

namespace NamingLint.Path

/-! ## Steps between separators -/

/-- The step of a segment that starts at a place, if it makes one. -/
def segmentSteps (start : Nat) (segment : List Char) : List Step :=
  (segmentComponent segment.reverse).toList.map fun component =>
    ⟨component, start, start + segment.length⟩

section

variable {start : Nat} {segment rest : List Char} {before after : List Step} {step : Step}

theorem body_steps_nil : bodySteps start segment [] = segmentSteps start segment := by
  unfold bodySteps segmentSteps
  cases segmentComponent segment.reverse <;> rfl

theorem body_steps_separator : bodySteps start segment ('/' :: rest) =
    segmentSteps start segment ++ bodySteps (start + segment.length + 1) [] rest := by
  rw [bodySteps, if_pos rfl, segmentSteps]
  cases segmentComponent segment.reverse <;> rfl

theorem body_steps_char {c : Char} (hc : c ≠ '/') :
    bodySteps start segment (c :: rest) = bodySteps start (c :: segment) rest := by
  rw [bodySteps, if_neg hc]

theorem mem_segment_steps (h : step ∈ segmentSteps start segment) :
    step.start = start ∧ step.stop = start + segment.length := by
  obtain ⟨component, _, rfl⟩ := List.mem_map.1 h
  exact ⟨rfl, rfl⟩

/-- A step is that of the first segment, or one of the steps behind it. -/
theorem segment_steps_append {next : List Step}
    (h : segmentSteps start segment ++ next = before ++ step :: after) :
    (before = [] ∧ segmentSteps start segment = [step] ∧ next = after) ∨
      ∃ more, before = segmentSteps start segment ++ more ∧ next = more ++ step :: after := by
  unfold segmentSteps at h ⊢
  revert h
  cases segmentComponent segment.reverse with
  | none => exact fun h => .inr ⟨before, rfl, h⟩
  | some component =>
      intro h
      cases before with
      | nil =>
          obtain ⟨hstep, hnext⟩ := List.cons.inj h
          exact .inl ⟨rfl, congrArg (fun first => [first]) hstep, hnext⟩
      | cons first more =>
          obtain ⟨hfirst, hnext⟩ := List.cons.inj h
          exact .inr ⟨more, congrArg (fun step => step :: more) hfirst.symm, hnext⟩

/-- A step starts where its segment starts or behind it, and ends behind what has been read. -/
theorem bounds_of_mem (h : step ∈ bodySteps start segment rest) :
    start ≤ step.start ∧ start + segment.length ≤ step.stop := by
  induction rest generalizing start segment with
  | nil =>
      rw [body_steps_nil] at h
      obtain ⟨hstart, hstop⟩ := mem_segment_steps h
      omega
  | cons c rest ih =>
      by_cases hc : c = '/'
      · rw [hc, body_steps_separator] at h
        rcases List.mem_append.1 h with h | h
        · obtain ⟨hstart, hstop⟩ := mem_segment_steps h
          omega
        · obtain ⟨hstart, hstop⟩ := ih h
          omega
      · rw [body_steps_char hc] at h
        obtain ⟨hstart, hstop⟩ := ih h
        rw [List.length_cons] at hstop
        omega

theorem bounds_of_split (h : bodySteps start segment rest = before ++ step :: after) :
    start ≤ step.start ∧ start + segment.length ≤ step.stop :=
  bounds_of_mem (h ▸ List.mem_append_right _ List.mem_cons_self)

/-- The text up to the end of a step has the steps up to that step. -/
theorem body_steps_take (h : bodySteps start segment rest = before ++ step :: after) :
    bodySteps start segment (rest.take (step.stop - (start + segment.length))) =
      before ++ [step] := by
  -- What has been read is no part of the text any more, but its length counts towards the end.
  induction rest generalizing start segment before with
  | nil =>
      rw [List.take_nil, body_steps_nil]
      rw [body_steps_nil, ← List.append_nil (segmentSteps start segment)] at h
      rcases segment_steps_append h with ⟨rfl, hstep, _⟩ | ⟨more, _, hnext⟩
      · exact hstep
      · simp at hnext
  | cons c rest ih =>
      by_cases hc : c = '/'
      · rw [hc, body_steps_separator] at h
        rcases segment_steps_append h with ⟨rfl, hstep, _⟩ | ⟨more, hbefore, hnext⟩
        · obtain ⟨_, hend⟩ := mem_segment_steps (hstep ▸ List.mem_singleton_self step)
          rw [hend, Nat.sub_self, List.take_zero, body_steps_nil, hstep]
          rfl
        · have hle := (bounds_of_split hnext).2
          have htake : step.stop - (start + segment.length) =
              step.stop - (start + segment.length + 1 + 0) + 1 := by
            simp only [List.length_nil] at hle
            omega
          rw [hc, htake, List.take_succ_cons, body_steps_separator, hbefore, List.append_assoc]
          exact congrArg _ (ih hnext)
      · rw [body_steps_char hc] at h
        have hle := (bounds_of_split h).2
        rw [List.length_cons] at hle
        have htake : step.stop - (start + segment.length) =
            step.stop - (start + (c :: segment).length) + 1 := by
          rw [List.length_cons]
          omega
        rw [htake, List.take_succ_cons, body_steps_char hc, ih h]

/-- Characters other than separators are put to the segment. -/
theorem body_steps_front {front : List Char} (hfront : '/' ∉ front) :
    bodySteps start segment (front ++ rest) = bodySteps start (front.reverse ++ segment) rest := by
  induction front generalizing segment with
  | nil => rfl
  | cons c front ih =>
      obtain ⟨hc, hfront⟩ := List.ne_and_not_mem_of_not_mem_cons hfront
      rw [List.cons_append, body_steps_char (Ne.symm hc), ih hfront, List.reverse_cons,
        List.append_assoc]
      rfl

/-- What has been read of a segment can be read again. -/
theorem body_steps_reread (hsegment : '/' ∉ segment) :
    bodySteps start segment rest = bodySteps start [] (segment.reverse ++ rest) := by
  rw [body_steps_front (by simpa using hsegment), List.reverse_reverse, List.append_nil]

/-- The text from a step on has that step and those behind it. -/
theorem body_steps_drop (hsegment : '/' ∉ segment)
    (h : bodySteps start segment rest = before ++ step :: after) :
    bodySteps step.start [] ((segment.reverse ++ rest).drop (step.start - start)) =
      step :: after := by
  induction rest generalizing start segment before with
  | nil =>
      rw [body_steps_nil, ← List.append_nil (segmentSteps start segment)] at h
      rcases segment_steps_append h with ⟨_, hstep, rfl⟩ | ⟨more, _, hnext⟩
      · obtain ⟨hfirst, _⟩ := mem_segment_steps (hstep ▸ List.mem_singleton_self step)
        rw [hfirst, Nat.sub_self, List.drop_zero, ← body_steps_reread hsegment, body_steps_nil,
          hstep]
      · simp at hnext
  | cons c rest ih =>
      by_cases hc : c = '/'
      · rw [hc, body_steps_separator] at h
        rcases segment_steps_append h with ⟨rfl, hstep, hnext⟩ | ⟨more, hbefore, hnext⟩
        · obtain ⟨hfirst, _⟩ := mem_segment_steps (hstep ▸ List.mem_singleton_self step)
          rw [hfirst, Nat.sub_self, List.drop_zero, ← body_steps_reread hsegment, hc,
            body_steps_separator, hstep, hnext]
          rfl
        · have hle := (bounds_of_split hnext).1
          have hdrop : step.start - start =
              (segment.reverse ++ ['/']).length + (step.start - (start + segment.length + 1)) := by
            rw [List.length_append, List.length_reverse]
            simp only [List.length_singleton]
            omega
          rw [hc, List.append_cons, hdrop, List.drop_length_add_append]
          exact ih (by simp) hnext
      · rw [body_steps_char hc] at h
        have hmore : '/' ∉ c :: segment :=
          List.not_mem_cons_of_ne_of_not_mem (Ne.symm hc) hsegment
        have hrest := ih hmore h
        rwa [List.reverse_cons, List.append_assoc] at hrest

/-- The same component further behind in a text. -/
def Step.shift (offset : Nat) (step : Step) : Step :=
  ⟨step.component, step.start + offset, step.stop + offset⟩

/-- The steps of a text that stands further behind. -/
theorem body_steps_shift (offset : Nat) : bodySteps (start + offset) segment rest =
    (bodySteps start segment rest).map (Step.shift offset) := by
  have hsegment (first : Nat) (front : List Char) : segmentSteps (first + offset) front =
      (segmentSteps first front).map (Step.shift offset) := by
    unfold segmentSteps
    cases segmentComponent front.reverse <;> simp [Step.shift, Nat.add_right_comm]
  induction rest generalizing start segment with
  | nil => rw [body_steps_nil, body_steps_nil, hsegment]
  | cons c rest ih =>
      by_cases hc : c = '/'
      · have hnext : start + offset + segment.length + 1 =
            start + segment.length + 1 + offset := by omega
        rw [hc, body_steps_separator, body_steps_separator, List.map_append, hsegment, hnext, ih]
      · rw [body_steps_char hc, body_steps_char hc, ih]

end

/-! ## Steps of a text -/

/-- A text that begins with neither a separator nor a component `.`. -/
structure IsPlain (chars : List Char) : Prop where
  relative : ¬ ['/'] <+: chars
  notCurrent : chars ≠ ['.']
  notDotted : ¬ ['.', '/'] <+: chars

section

variable {chars : List Char} {before after : List Step} {step : Step}

/-- The three forms of a text whose first step stands apart, and all others. -/
theorem text_cases (chars : List Char) : (∃ rest, chars = '/' :: rest) ∨ chars = ['.'] ∨
    (∃ rest, chars = '.' :: '/' :: rest) ∨ IsPlain chars := by
  by_cases hroot : ['/'] <+: chars
  · obtain ⟨rest, rfl⟩ := hroot
    exact .inl ⟨rest, rfl⟩
  by_cases hcurrent : chars = ['.']
  · exact .inr (.inl hcurrent)
  by_cases hdotted : ['.', '/'] <+: chars
  · obtain ⟨rest, rfl⟩ := hdotted
    exact .inr (.inr (.inl ⟨rest, rfl⟩))
  · exact .inr (.inr (.inr ⟨hroot, hcurrent, hdotted⟩))

theorem IsPlain.steps_eq (h : IsPlain chars) : stepsOf chars = bodySteps 0 [] chars := by
  unfold stepsOf
  split
  · exact absurd (List.prefix_append _ _) h.relative
  · exact absurd rfl h.notCurrent
  · exact absurd (List.prefix_append _ _) h.notDotted
  · rfl

theorem body_steps_slash {start : Nat} {rest : List Char} :
    bodySteps start [] ('/' :: rest) = bodySteps (start + 1) [] rest :=
  body_steps_separator

theorem body_steps_dot_slash {start : Nat} {rest : List Char} :
    bodySteps start [] ('.' :: '/' :: rest) = bodySteps (start + 2) [] rest := by
  rw [body_steps_char (by decide), body_steps_separator]
  rfl

/-- A text is plain if a step starts where it does. -/
theorem plain_of_body_steps {start : Nat} (h : bodySteps start [] chars = step :: after)
    (hstart : step.start = start) : IsPlain chars := by
  have hmem : step ∈ bodySteps start [] chars := h ▸ List.mem_cons_self
  refine ⟨?_, ?_, ?_⟩
  · rintro ⟨rest, rfl⟩
    obtain ⟨hle, _⟩ := bounds_of_mem (body_steps_slash ▸ hmem)
    omega
  · rintro rfl
    cases h
  · rintro ⟨rest, rfl⟩
    obtain ⟨hle, _⟩ := bounds_of_mem (body_steps_dot_slash ▸ hmem)
    omega

/-- The beginning of a plain text is plain if it has any steps. -/
theorem IsPlain.take (h : IsPlain chars) {count : Nat}
    (hsteps : bodySteps 0 [] (chars.take count) ≠ []) : IsPlain (chars.take count) where
  relative hbegins := h.relative (hbegins.trans (List.take_prefix _ _))
  notCurrent := by
    intro heq
    rw [heq] at hsteps
    exact hsteps rfl
  notDotted hbegins := h.notDotted (hbegins.trans (List.take_prefix _ _))

/-- The text up to the end of a step has the steps up to that step. -/
theorem steps_of_take (h : stepsOf chars = before ++ step :: after) :
    stepsOf (chars.take step.stop) = before ++ [step] := by
  have htake {first : Nat} {text : List Char} {steps : List Step}
      (heq : bodySteps first [] text = steps ++ step :: after) :
      bodySteps first [] (text.take (step.stop - first)) = steps ++ [step] :=
    body_steps_take heq
  rcases text_cases chars with ⟨rest, rfl⟩ | rfl | ⟨rest, rfl⟩ | hplain
  · cases before with
    | nil =>
        obtain ⟨rfl, _⟩ := List.cons.inj h
        rfl
    | cons first more =>
        obtain ⟨rfl, hmore⟩ := List.cons.inj h
        have hle : step.stop = step.stop - 1 + 1 :=
          (Nat.sub_add_cancel (bounds_of_split hmore).2).symm
        rw [hle, List.take_succ_cons, stepsOf, htake hmore]
        rfl
  · cases before with
    | nil =>
        obtain ⟨rfl, _⟩ := List.cons.inj h
        rfl
    | cons first more => simp [stepsOf] at h
  · cases before with
    | nil =>
        obtain ⟨rfl, _⟩ := List.cons.inj h
        rfl
    | cons first more =>
        obtain ⟨rfl, hmore⟩ := List.cons.inj h
        have hle : step.stop = step.stop - 2 + 1 + 1 :=
          (Nat.sub_add_cancel (bounds_of_split hmore).2).symm
        rw [hle, List.take_succ_cons, List.take_succ_cons, stepsOf, htake hmore]
        rfl
  · rw [hplain.steps_eq] at h
    have hbody := htake h
    rw [Nat.sub_zero] at hbody
    rw [(hplain.take (by rw [hbody]; simp)).steps_eq, hbody]

/-- The text from a step on has that step and those behind it. -/
theorem steps_of_drop (h : stepsOf chars = before ++ step :: after) (hbefore : before ≠ []) :
    bodySteps step.start [] (chars.drop step.start) = step :: after := by
  have hdrop {first : Nat} {text : List Char} {steps : List Step}
      (heq : bodySteps first [] text = steps ++ step :: after) :
      bodySteps step.start [] (text.drop (step.start - first)) = step :: after :=
    body_steps_drop (by simp) heq
  obtain ⟨first, more, rfl⟩ := List.exists_cons_of_ne_nil hbefore
  rcases text_cases chars with ⟨rest, rfl⟩ | rfl | ⟨rest, rfl⟩ | hplain
  · have hmore := (List.cons.inj h).2
    have hle : step.start = step.start - 1 + 1 :=
      (Nat.sub_add_cancel (bounds_of_split hmore).1).symm
    rw [hle, List.drop_succ_cons, ← hle, hdrop hmore]
  · simp [stepsOf] at h
  · have hmore := (List.cons.inj h).2
    have hle : step.start = step.start - 2 + 1 + 1 :=
      (Nat.sub_add_cancel (bounds_of_split hmore).1).symm
    rw [hle, List.drop_succ_cons, List.drop_succ_cons, ← hle, hdrop hmore]
  · rw [hplain.steps_eq] at h
    exact hdrop h

end

/-! ## Directories above a path -/

theorem eq_of_chars {path other : Path} (h : path.text.toList = other.text.toList) :
    path = other := by
  cases path
  cases other
  exact congrArg Path.mk (String.toList_inj.1 h)

section

variable {path directory : Path}

theorem slice_to_list (start stop : Nat) :
    (path.slice start stop).text.toList = (path.text.toList.drop start).take (stop - start) := by
  rw [slice, String.toList_ofList]

/-- A directory above a path is empty or ends with one of the path's steps but the last. -/
theorem parent_cases (h : directory ∈ path.parents) : path.steps ≠ [] ∧ (directory = ⟨""⟩ ∨
    ∃ before step next after, path.steps = before ++ step :: next :: after ∧
      directory = path.slice 0 step.stop) := by
  unfold parents at h
  split at h
  · cases h
  · rename_i first rest hsteps
    refine ⟨by simp [hsteps], ?_⟩
    have habove : directory = ⟨""⟩ ∨
        directory ∈ ((first :: rest).dropLast.map fun step => path.slice 0 step.stop).reverse := by
      split at h
      · exact .inr h
      · exact (List.mem_append.1 h).symm.imp_left List.mem_singleton.1
    rw [List.mem_reverse, List.mem_map] at habove
    refine habove.imp_right fun ⟨step, hstep, hdirectory⟩ => ?_
    obtain ⟨before, between, hsplit⟩ := List.append_of_mem hstep
    have hlast := List.dropLast_concat_getLast (List.cons_ne_nil first rest)
    rw [hsplit, List.append_assoc, List.cons_append] at hlast
    obtain ⟨next, after, hnext⟩ := List.exists_cons_of_ne_nil
      (List.append_ne_nil_of_right_ne_nil between
        (List.cons_ne_nil ((first :: rest).getLast (List.cons_ne_nil first rest)) []))
    rw [hnext] at hlast
    exact ⟨before, step, next, after, hsteps.trans hlast.symm, hdirectory.symm⟩

theorem steps_slice {before after : List Step} {step : Step}
    (h : path.steps = before ++ step :: after) :
    (path.slice 0 step.stop).steps = before ++ [step] := by
  rw [steps, slice_to_list, List.drop_zero, Nat.sub_zero, steps_of_take h]

theorem components_empty : components ⟨""⟩ = [] := rfl

theorem relative_to_empty {front : List Step} {last : Step} (h : path.steps = front ++ [last]) :
    path.relativeTo? ⟨""⟩ = some (path.slice 0 last.stop) := by
  have hend : path.steps.getLast? = some last := by
    rw [h, List.getLast?_concat]
  unfold relativeTo?
  simp only [components_empty, List.isPrefixOf_nil_left, List.isEmpty_nil, hend, if_true]

theorem relative_to_steps {before front : List Step} {step next last : Step} {after : List Step}
    (h : path.steps = before ++ step :: next :: after) (hlast : next :: after = front ++ [last])
    (hdirectory : directory.steps = before ++ [step]) :
    path.relativeTo? directory = some (path.slice next.start last.stop) := by
  have hsteps : path.steps = (before ++ [step]) ++ next :: after := by
    rw [h, List.append_cons]
  have hbegins : directory.components.isPrefixOf (path.steps.map Step.component) = true := by
    rw [List.isPrefixOf_iff_prefix, components, hdirectory, hsteps]
    exact (List.prefix_append _ _).map _
  have hnonempty : directory.components.isEmpty = false := by
    simp [components, hdirectory]
  have hdrop : path.steps.drop directory.components.length = next :: after := by
    rw [components, List.length_map, hdirectory, hsteps, List.drop_left]
  have hend : path.steps.getLast? = some last := by
    rw [hsteps, hlast, ← List.append_assoc, List.getLast?_concat]
  unfold relativeTo?
  simp only [hbegins, hnonempty, hdrop, hend, if_true, Bool.false_eq_true, if_false]

/-- A path consists of a directory above it and of the path relative to that directory. -/
theorem relative_to_parent (h : directory ∈ path.parents) :
    ∃ relative, path.relativeTo? directory = some relative ∧
      directory.components ++ relative.components = path.components := by
  obtain ⟨hsteps, rfl | ⟨before, step, next, after, hsplit, rfl⟩⟩ := parent_cases h
  · obtain ⟨front, last, hlast⟩ := (List.eq_nil_or_concat path.steps).resolve_left hsteps
    rw [List.concat_eq_append] at hlast
    refine ⟨_, relative_to_empty hlast, ?_⟩
    rw [components_empty, List.nil_append, components, components, hlast, steps_slice hlast]
  · have hdirectory := steps_slice hsplit
    obtain ⟨front, last, hlast⟩ :=
      (List.eq_nil_or_concat (next :: after)).resolve_left (List.cons_ne_nil _ _)
    rw [List.concat_eq_append] at hlast
    refine ⟨_, relative_to_steps hsplit hlast hdirectory, ?_⟩
    -- The relative path is cut out of the text in two steps: its end, and then its beginning.
    have hbehind : bodySteps next.start [] (path.text.toList.drop next.start) = next :: after :=
      steps_of_drop ((List.append_cons ..).symm.trans hsplit.symm).symm (by simp)
    have hrelative : bodySteps next.start []
        ((path.text.toList.drop next.start).take (last.stop - next.start)) = next :: after := by
      rw [hlast] at hbehind ⊢
      exact body_steps_take hbehind
    have hplain := plain_of_body_steps hrelative rfl
    have hcomponents : (path.slice next.start last.stop).components =
        (next :: after).map Step.component := by
      rw [← hrelative, ← Nat.zero_add next.start, body_steps_shift, Nat.zero_add, components, steps,
        slice_to_list, hplain.steps_eq, List.map_map]
      rfl
    rw [hcomponents, components, components, hdirectory, hsplit, ← List.map_append,
      ← List.append_cons]

end

end NamingLint.Path
