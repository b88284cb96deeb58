import NamingLint.Proofs.Text.Reading
import NamingLint.Report.Human

/-!
# Colours aside

`withoutSequences` is a text without the control sequences that set display attributes, which is
what is left of a coloured text once its colours are disregarded. A part of a line in a tone is that
part (`without_paint`), and the lines of a text are stripped of their colours one by one
(`without_feed`).
-/

namespace NamingLint.Report

/-! ## Leaving out control sequences -/

/-- A character that may stand in the middle of a control sequence for display attributes. -/
def isAttribute (c : Char) : Bool :=
  c.isDigit || c == ';'

/-- What stands behind the end of a control sequence of which the start has been read. -/
def behindAttributes? (text : List Char) : Option (List Char) :=
  match text.dropWhile isAttribute with
  | 'm' :: behind => some behind
  | _ => none

/-- What stands behind the control sequence that a text starts with, if it starts with one. -/
def behindSequence? : List Char → Option (List Char)
  | '\x1b' :: '[' :: rest => behindAttributes? rest
  | _ => none

theorem length_behind_lt {text behind : List Char} (h : behindSequence? text = some behind) :
    behind.length < text.length := by
  unfold behindSequence? behindAttributes? at h
  split at h
  · next rest =>
      have hle := (List.dropWhile_suffix isAttribute (l := rest)).length_le
      split at h
      · next heq =>
          obtain rfl := Option.some.inj h
          rw [heq] at hle
          simp only [List.length_cons] at hle ⊢
          omega
      · cases h
  · cases h

/-- A text without its control sequences for display attributes. -/
def withoutSequences (text : List Char) : List Char :=
  match _hbehind : behindSequence? text with
  | some behind => withoutSequences behind
  | none =>
    match text with
    | [] => []
    | c :: rest => c :: withoutSequences rest
termination_by text.length
decreasing_by
  · exact length_behind_lt _hbehind
  · exact Nat.lt_succ_self _

variable {c : Char} {front rest text behind : List Char}

@[simp]
theorem without_nil : withoutSequences [] = [] := by
  rw [withoutSequences]
  rfl

theorem without_of_behind (h : behindSequence? text = some behind) :
    withoutSequences text = withoutSequences behind := by
  rw [withoutSequences]
  split
  · next heq => rw [Option.some.inj (h.symm.trans heq)]
  · next heq => cases h.symm.trans heq

theorem without_cons (h : behindSequence? (c :: rest) = none) :
    withoutSequences (c :: rest) = c :: withoutSequences rest := by
  rw [withoutSequences]
  split
  · next heq => cases h.symm.trans heq
  · rfl

/-- What holds no escape character has no control sequence. -/
theorem without_append (h : '\x1b' ∉ front) :
    withoutSequences (front ++ rest) = front ++ withoutSequences rest := by
  induction front with
  | nil => rfl
  | cons c front ih =>
      obtain ⟨hc, hfront⟩ := List.ne_and_not_mem_of_not_mem_cons h
      have hnone : behindSequence? (c :: (front ++ rest)) = none := by
        unfold behindSequence?
        split
        · next heq => exact absurd (List.cons.inj heq).1.symm hc
        · rfl
      rw [List.cons_append, without_cons hnone, ih hfront, List.cons_append]

theorem drop_while_append_feed (text rest : List Char) :
    (text ++ '\n' :: rest).dropWhile isAttribute = text.dropWhile isAttribute ++ '\n' :: rest := by
  induction text with
  | nil => rfl
  | cons c text ih =>
      rw [List.cons_append, List.dropWhile_cons, List.dropWhile_cons, ih]
      split <;> rfl

theorem behind_attributes_append_feed : behindAttributes? (text ++ '\n' :: rest) =
    (behindAttributes? text).map (· ++ '\n' :: rest) := by
  unfold behindAttributes?
  rw [drop_while_append_feed]
  split
  · next heq =>
      cases hdrop : text.dropWhile isAttribute with
      | nil => simp [hdrop] at heq
      | cons c more =>
          rw [hdrop] at heq
          obtain ⟨rfl, rfl⟩ := List.cons.inj heq
          rfl
  · next hother =>
      split
      · next heq => exact absurd (by rw [heq]; rfl) (hother _)
      · rfl

theorem without_cons_feed : withoutSequences ('\n' :: rest) = '\n' :: withoutSequences rest :=
  without_cons rfl

/-- A line feed is part of no control sequence. -/
theorem behind_append_feed : behindSequence? (front ++ '\n' :: rest) =
    (behindSequence? front).map (· ++ '\n' :: rest) := by
  fun_cases behindSequence? front with
  | case1 front => exact behind_attributes_append_feed
  | case2 _ hother =>
      unfold behindSequence?
      split
      · next heq =>
          rcases front with _ | ⟨c, _ | ⟨d, front⟩⟩
          · simp at heq
          · simp at heq
          · simp only [List.cons_append, List.cons.injEq] at heq
            obtain ⟨rfl, rfl, -⟩ := heq
            exact absurd rfl (hother front)
      · rfl

/-- The lines of a text are stripped of their control sequences one by one. -/
theorem without_feed (front rest : List Char) : withoutSequences (front ++ '\n' :: rest) =
    withoutSequences front ++ '\n' :: withoutSequences rest := by
  fun_induction withoutSequences front with
  | case1 front behind hbehind ih =>
      have hmore : behindSequence? (front ++ '\n' :: rest) = some (behind ++ '\n' :: rest) := by
        rw [behind_append_feed, hbehind]
        rfl
      rw [without_of_behind hmore, ih]
  | case2 => exact without_cons_feed
  | case3 c front hnone ih =>
      have hmore : behindSequence? (c :: front ++ '\n' :: rest) = none := by
        rw [behind_append_feed, hnone]
        rfl
      exact (without_cons hmore).trans (congrArg (List.cons c) ih)

/-! ## Parts of a line -/

/-- The control sequences that a tone is made of. -/
theorem without_sequence {code : String} (h : ∀ c ∈ code.toList, isAttribute c = true) :
    withoutSequences (displaySequence code ++ rest) = withoutSequences rest := by
  refine without_of_behind ?_
  have hdrop : (code.toList ++ 'm' :: rest).dropWhile isAttribute = 'm' :: rest := by
    rw [List.dropWhile_append_of_pos h]
    rfl
  simp [displaySequence, behindSequence?, behindAttributes?, hdrop]

theorem attributes_of_tone (tone : Tone) : ∀ c ∈ tone.code.toList, isAttribute c = true := by
  cases tone with
  | severity severity => cases severity <;> simp [Tone.code, isAttribute]
  | good | heading | aside => simp [Tone.code, isAttribute]

theorem repeat_after_no_resets {sequence text : List Char} (h : '\x1b' ∉ text) :
    repeatAfterResets sequence text = text := by
  fun_induction repeatAfterResets sequence text with
  | case1 => simp at h
  | case2 c rest _ ih => rw [ih (List.not_mem_of_not_mem_cons h)]
  | case3 => rfl

/-- A part of a line in a tone is that part once its colours are disregarded. -/
theorem without_paint {colors : Bool} {tone : Tone} {part : String} (h : '\x1b' ∉ part.toList) :
    withoutSequences ((paint colors tone part).toList ++ rest) =
      part.toList ++ withoutSequences rest := by
  unfold paint
  split
  · rw [String.toList_ofList, repeat_after_no_resets h, List.append_assoc, List.append_assoc,
      without_sequence (attributes_of_tone tone), without_append h,
      without_sequence (by simp [isAttribute])]
  · exact without_append h

end NamingLint.Report
