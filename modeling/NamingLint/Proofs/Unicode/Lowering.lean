import Mathlib.Data.List.Sort
import NamingLint.Proofs.Unicode.Lookup
import NamingLint.Unicode.LetterCase

/-!
# Lowering upper-case characters

`lowercase_of_uppercase` says which upper-case characters are lowered to a lower-case letter: those
of category Lu that have a lower-case form. It rests on surveys of the tables, which pass over all
the code points in question once, in ascending order, instead of looking each of them up.
-/

namespace NamingLint.Unicode

/-! ## Runs of categories -/

set_option maxRecDepth 20000 in
theorem category_runs_ascending : Ascending categoryRuns (· / 256) := by
  have hchain : categoryRuns.toList.IsChain fun run next => run / 256 < next / 256 := by
    decide +kernel
  exact List.isChain_iff_pairwise.1 hchain

/-- The characters from the start of a run to the start of the next have the run's category. -/
theorem category_of_run {front runs : List Nat} {run next : Nat} {c : Char}
    (hruns : categoryRuns.toList = front ++ run :: next :: runs) (hle : run / 256 ≤ c.toNat)
    (hlt : c.toNat < next / 256) : category c = Category.ofRun (run % 256) c.toNat := by
  have hfound : lastAtMost? categoryRuns (· / 256) c.toNat = some run := by
    refine last_at_most_of_split category_runs_ascending hruns hle ?_
    intro behind hbehind
    have hnext : next = behind := Option.some.inj hbehind
    rw [← hnext]
    exact hlt
  unfold category
  rw [hfound]

/-- The code point of a valid character is the number that it was made of. -/
theorem char_to_nat_of_nat {point : Nat} (h : point.isValidChar) :
    (Char.ofNat point).toNat = point := by
  rw [Char.ofNat, dif_pos h]
  rfl

/-- Pass over the points in front of the end of a run; all of them have to pass the test. -/
def surveyRun (test : Nat → Bool) (stop : Nat) : List Nat → Option (List Nat)
  | [] => some []
  | point :: points =>
    bif Nat.ble stop point then some (point :: points)
    else bif test point then surveyRun test stop points
    else none

/-- Whether all points are characters whose category suits. Points and runs have to ascend. -/
def survey (suits : Category → Bool) : List Nat → List Nat → Bool
  | _, [] => true
  | run :: next :: runs, point :: points =>
    let test := fun point =>
      Nat.ble (run / 256) point && point.isValidChar && suits (.ofRun (run % 256) point)
    match surveyRun test (next / 256) (point :: points) with
    | some later => survey suits (next :: runs) later
    | none => false
  | _, _ :: _ => false

theorem survey_run_sound {test : Nat → Bool} {stop : Nat} {points later : List Nat}
    (h : surveyRun test stop points = some later) :
    ∀ point ∈ points, point ∈ later ∨ point < stop ∧ test point = true := by
  induction points with
  | nil => simp
  | cons first points ih =>
      unfold surveyRun at h
      cases hstop : Nat.ble stop first with
      | true =>
          rw [hstop, cond_true] at h
          obtain rfl := Option.some.inj h
          exact fun point hpoint => .inl hpoint
      | false =>
          have hlt : first < stop := by
            rw [← Nat.not_le]
            exact fun hle => absurd (Nat.ble_eq_true_of_le hle) (by simp [hstop])
          cases htest : test first with
          | true =>
              rw [hstop, htest, cond_false, cond_true] at h
              exact List.forall_mem_cons.2 ⟨.inr ⟨hlt, htest⟩, ih h⟩
          | false => simp [hstop, htest] at h

/-- The categories of all points suit if the survey says so. -/
theorem survey_sound {suits : Category → Bool} {front runs points : List Nat}
    (hruns : categoryRuns.toList = front ++ runs) (h : survey suits runs points = true) :
    ∀ point ∈ points, suits (category (Char.ofNat point)) = true := by
  induction runs generalizing front points with
  | nil =>
      cases points with
      | nil => simp
      | cons point points => simp [survey] at h
  | cons run runs ih =>
      cases points with
      | nil => simp
      | cons point points =>
          cases runs with
          | nil => simp [survey] at h
          | cons next runs =>
              simp only [survey] at h
              split at h
              · rename_i later hlater
                intro place hplace
                rcases survey_run_sound hlater place hplace with hlast | ⟨hlt, htest⟩
                · exact ih (by rw [hruns, List.append_cons]) h place hlast
                · simp only [Bool.and_eq_true, Nat.ble_eq, decide_eq_true_eq] at htest
                  obtain ⟨⟨hle, hvalid⟩, hsuits⟩ := htest
                  have hplace : (Char.ofNat place).toNat = place := char_to_nat_of_nat hvalid
                  rw [category_of_run hruns (by rwa [hplace]) (by rwa [hplace]), hplace]
                  exact hsuits
              · cases h

/-! ## Stretches -/

namespace CaseShift

/-- The code points that a stretch moves. -/
def points (stretch : CaseShift) : List Nat :=
  (List.range ((stretch.last - stretch.first) / stretch.step + 1)).map fun index =>
    stretch.first + index * stretch.step

/-- Where a stretch moves a code point. -/
def image (stretch : CaseShift) (point : Nat) : Nat :=
  (point + stretch.shift).toNat

/-- The code points that stretches move to, in ascending order if no two stretches interleave. -/
def imagesOf (stretches : List CaseShift) : List Nat :=
  (stretches.insertionSort fun left right =>
    (left.first : Int) + left.shift ≤ right.first + right.shift).flatMap fun stretch =>
      stretch.points.map stretch.image

/-- A stretch moves none of the upper-case characters outside of category Lu. -/
def isPlain (stretch : CaseShift) : Bool :=
  otherUppercase.toList.all fun range =>
    Nat.blt stretch.last range.1 || Nat.blt range.2 stretch.first

theorem mem_points_of_covers {stretch : CaseShift} {point : Nat}
    (h : stretch.covers point = true) : point ∈ stretch.points := by
  simp only [covers, Bool.and_eq_true, decide_eq_true_eq, beq_iff_eq] at h
  obtain ⟨⟨hfirst, hlast⟩, hstep⟩ := h
  refine List.mem_map.2 ⟨(point - stretch.first) / stretch.step, ?_, ?_⟩
  · rw [List.mem_range, Nat.lt_succ_iff]
    exact Nat.div_le_div_right (Nat.sub_le_sub_right hlast _)
  · rw [Nat.div_mul_cancel (Nat.dvd_of_mod_eq_zero hstep)]
    omega

theorem image_mem_images {stretches : List CaseShift} {stretch : CaseShift} {point : Nat}
    (hmem : stretch ∈ stretches) (h : stretch.covers point = true) :
    stretch.image point ∈ imagesOf stretches := by
  have hsorted := (List.mem_insertionSort fun left right : CaseShift =>
    (left.first : Int) + left.shift ≤ right.first + right.shift).2 hmem
  exact List.mem_flatMap.2 ⟨stretch, hsorted, List.mem_map_of_mem (mem_points_of_covers h)⟩

end CaseShift

/-- A character is its own lower-case form, one of two exceptions, or moved by a stretch. -/
theorem lowercase_cases (c : Char) : lowercase c = [c] ∨
    c.toNat = 0x130 ∧ lowercase c = ['i', Char.ofNat 0x307] ∨
    c.toNat = 0x212A ∧ lowercase c = ['k'] ∨
    ∃ stretch ∈ lowerShifts.toList, stretch.covers c.toNat = true ∧
      lowercase c = [Char.ofNat (stretch.image c.toNat)] := by
  unfold lowercase
  split
  · rename_i hpoint
    exact .inr (.inl ⟨hpoint, rfl⟩)
  · split
    · rename_i hpoint
      exact .inr (.inr (.inl ⟨hpoint, rfl⟩))
    · split
      · rename_i stretch hfound
        split
        · rename_i hcovers
          exact .inr (.inr (.inr ⟨stretch, mem_of_last_at_most hfound, hcovers, rfl⟩))
        · exact .inl rfl
      · exact .inl rfl

/-! ## Surveys of the tables -/

/-- The categories of the upper-case characters outside of category Lu. -/
def isSymbolic (general : Category) : Bool :=
  general == .letterNumber || general == .otherSymbol

/-- The code points of ranges. -/
def pointsOf (ranges : List (Nat × Nat)) : List Nat :=
  ranges.flatMap fun range => (List.range (range.2 - range.1 + 1)).map (range.1 + ·)

/-- The stretches that move an upper-case character outside of category Lu. -/
def symbolicShifts : List CaseShift :=
  lowerShifts.toList.filter fun stretch => !stretch.isPlain

set_option maxRecDepth 20000 in
/-- All other stretches move to lower-case letters. -/
theorem plain_images_survey : survey (· == .lowercaseLetter) categoryRuns.toList
    (CaseShift.imagesOf (lowerShifts.toList.filter CaseShift.isPlain)) = true := by
  rw [lowerShifts, Array.toList_map]
  decide +kernel

set_option maxRecDepth 20000 in
theorem symbolic_images_survey : survey isSymbolic categoryRuns.toList
    (CaseShift.imagesOf symbolicShifts) = true := by
  rw [symbolicShifts, lowerShifts, Array.toList_map]
  decide +kernel

set_option maxRecDepth 20000 in
theorem symbolic_points_survey : survey isSymbolic categoryRuns.toList
    (symbolicShifts.flatMap CaseShift.points) = true := by
  rw [symbolicShifts, lowerShifts, Array.toList_map]
  decide +kernel

set_option maxRecDepth 20000 in
theorem other_uppercase_survey :
    survey isSymbolic categoryRuns.toList (pointsOf otherUppercase.toList) = true := by
  decide +kernel

/-! ## Categories of characters -/

/-- What a survey of the whole table says about a code point. -/
theorem category_of_point {suits : Category → Bool} {points : List Nat} {point : Nat}
    (h : survey suits categoryRuns.toList points = true) (hpoint : point ∈ points) :
    suits (category (Char.ofNat point)) = true :=
  survey_sound (List.nil_append _).symm h point hpoint

/-- What a survey of the whole table says about a character. -/
theorem category_of_survey {suits : Category → Bool} {points : List Nat} {c : Char}
    (h : survey suits categoryRuns.toList points = true) (hc : c.toNat ∈ points) :
    suits (category c) = true := by
  simpa only [Char.ofNat_toNat] using category_of_point h hc

/-- An upper-case character outside of category Lu stands in one of the ranges of the others. -/
theorem range_of_other_uppercase {c : Char} (h : inRanges otherUppercase c.toNat = true) :
    ∃ range ∈ otherUppercase.toList, range.1 ≤ c.toNat ∧ c.toNat ≤ range.2 := by
  have hascending : Ascending otherUppercase Prod.fst := by
    unfold Ascending
    decide
  unfold inRanges at h
  split at h
  · rename_i first last hfound
    have hle : first ≤ c.toNat := key_le_of_last_at_most hascending hfound
    exact ⟨(first, last), mem_of_last_at_most hfound, hle, by simpa using h⟩
  · cases h

/-- Upper-case characters outside of category Lu are numerals or symbols. -/
theorem symbolic_of_other_uppercase {c : Char} (h : inRanges otherUppercase c.toNat = true) :
    isSymbolic (category c) = true := by
  obtain ⟨range, hrange, hfirst, hlast⟩ := range_of_other_uppercase h
  refine category_of_survey other_uppercase_survey
    (List.mem_flatMap.2 ⟨range, hrange, List.mem_map.2 ⟨c.toNat - range.1, ?_, ?_⟩⟩)
  · rw [List.mem_range]
    omega
  · omega

/-- A stretch moves a character to a lower-case letter, or both are numerals or symbols. -/
theorem image_of_stretch {stretch : CaseShift} {c : Char} (hmem : stretch ∈ lowerShifts.toList)
    (hcovers : stretch.covers c.toNat = true) :
    stretch.isPlain = true ∧
        category (Char.ofNat (stretch.image c.toNat)) = .lowercaseLetter ∨
      isSymbolic (category c) = true ∧
        isSymbolic (category (Char.ofNat (stretch.image c.toNat))) = true := by
  cases hplain : stretch.isPlain with
  | true =>
      have hstretch : stretch ∈ lowerShifts.toList.filter CaseShift.isPlain :=
        List.mem_filter.2 ⟨hmem, hplain⟩
      have hlower := category_of_point plain_images_survey
        (CaseShift.image_mem_images hstretch hcovers)
      exact .inl ⟨rfl, by simpa using hlower⟩
  | false =>
      have hstretch : stretch ∈ symbolicShifts := List.mem_filter.2 ⟨hmem, by simp [hplain]⟩
      have hpoint : c.toNat ∈ symbolicShifts.flatMap CaseShift.points :=
        List.mem_flatMap.2 ⟨stretch, hstretch, CaseShift.mem_points_of_covers hcovers⟩
      exact .inr ⟨category_of_survey symbolic_points_survey hpoint,
        category_of_point symbolic_images_survey (CaseShift.image_mem_images hstretch hcovers)⟩

/-- A plain stretch moves no upper-case character outside of category Lu. -/
theorem not_other_uppercase_of_plain {stretch : CaseShift} {c : Char}
    (hplain : stretch.isPlain = true) (hcovers : stretch.covers c.toNat = true) :
    inRanges otherUppercase c.toNat = false := by
  rw [Bool.eq_false_iff]
  intro h
  obtain ⟨range, hrange, hfirst, hlast⟩ := range_of_other_uppercase h
  have hapart := List.all_eq_true.1 hplain range hrange
  simp only [CaseShift.covers, Bool.and_eq_true, decide_eq_true_eq] at hcovers
  simp only [Bool.or_eq_true, Nat.blt_eq] at hapart
  omega

/-! ## Lower-case forms -/

/-- Upper-case characters outside of category Lu are lowered to characters of their kind. -/
theorem lowercase_of_other_uppercase {c : Char} (h : inRanges otherUppercase c.toNat = true) :
    ∃ lowered, lowercase c = [lowered] ∧ isSymbolic (category lowered) = true := by
  rcases lowercase_cases c with hsame | ⟨hpoint, _⟩ | ⟨hpoint, _⟩ | ⟨stretch, hmem, hcovers, heq⟩
  · exact ⟨c, hsame, symbolic_of_other_uppercase h⟩
  · rw [hpoint] at h
    exact absurd h (by decide)
  · rw [hpoint] at h
    exact absurd h (by decide)
  · rcases image_of_stretch hmem hcovers with ⟨hplain, _⟩ | ⟨_, himage⟩
    · rw [not_other_uppercase_of_plain hplain hcovers] at h
      cases h
    · exact ⟨_, heq, himage⟩

/-- A letter of category Lu has no lower-case form, or one that begins with a lower-case letter. -/
theorem lowercase_of_uppercase_letter {c : Char} (h : category c = .uppercaseLetter) :
    lowercase c = [c] ∨
      ∃ first rest, lowercase c = first :: rest ∧ category first = .lowercaseLetter := by
  have hsurvey : survey (· == .lowercaseLetter) categoryRuns.toList [0x69, 0x6B] = true := by
    decide +kernel
  have hlower {letter : Char} (hletter : letter.toNat ∈ [0x69, 0x6B]) :
      category letter = .lowercaseLetter := by
    have hsuits := category_of_survey hsurvey hletter
    exact beq_iff_eq.1 hsuits
  rcases lowercase_cases c with hsame | ⟨_, heq⟩ | ⟨_, heq⟩ | ⟨stretch, hmem, hcovers, heq⟩
  · exact .inl hsame
  · exact .inr ⟨_, _, heq, hlower (by decide)⟩
  · exact .inr ⟨_, _, heq, hlower (by decide)⟩
  · rcases image_of_stretch hmem hcovers with ⟨_, himage⟩ | ⟨hsymbolic, _⟩
    · exact .inr ⟨_, _, heq, himage⟩
    · rw [h] at hsymbolic
      cases hsymbolic

theorem category_underscore : category '_' = .connectorPunctuation := by
  have hsurvey : survey (· == .connectorPunctuation) categoryRuns.toList [0x5F] = true := by
    decide +kernel
  have hsuits := category_of_survey hsurvey (show '_'.toNat ∈ [0x5F] by decide)
  exact beq_iff_eq.1 hsuits

theorem is_uppercase_of_category {c : Char} (h : category c = .uppercaseLetter) :
    isUppercase c = true := by
  rw [isUppercase, h]
  rfl

theorem is_uppercase_of_range {c : Char} (h : inRanges otherUppercase c.toNat = true) :
    isUppercase c = true := by
  rw [isUppercase, h, Bool.or_true]

/-- A numeral or symbol is of no category but those two. -/
theorem category_ne_of_symbolic {general : Category} (hgeneral : isSymbolic general = false)
    {c : Char} (h : isSymbolic (category c) = true) : category c ≠ general := by
  rintro rfl
  rw [hgeneral] at h
  cases h

/-- An upper-case character is never lowered to an underscore, and to a lower-case letter exactly if
it is of category Lu and has a lower-case form. -/
theorem lowercase_of_uppercase {c : Char} (h : isUppercase c = true) :
    ∃ first rest, lowercase c = first :: rest ∧ first ≠ '_' ∧
      (isLowercaseLetter first = true ↔ category c = .uppercaseLetter ∧ lowercase c ≠ [c]) := by
  have hother {first : Char} (hfirst : category first ≠ .connectorPunctuation) : first ≠ '_' := by
    rintro rfl
    exact hfirst category_underscore
  rcases Bool.or_eq_true_iff.1 h with hletter | hrange
  · have hletter : category c = .uppercaseLetter := beq_iff_eq.1 hletter
    rcases lowercase_of_uppercase_letter hletter with hsame | ⟨first, rest, heq, hfirst⟩
    · exact ⟨c, [], hsame, hother (by simp [hletter]), by simp [isLowercaseLetter, hletter, hsame]⟩
    · have hchanges : lowercase c ≠ [c] := by
        intro hsame
        rw [hsame] at heq
        rw [← (List.cons.inj heq).1, hletter] at hfirst
        cases hfirst
      exact ⟨first, rest, heq, hother (by simp [hfirst]),
        by simp [isLowercaseLetter, hfirst, hletter, hchanges]⟩
  · obtain ⟨lowered, heq, hsymbolic⟩ := lowercase_of_other_uppercase hrange
    have hletter : category c ≠ .uppercaseLetter :=
      category_ne_of_symbolic rfl (symbolic_of_other_uppercase hrange)
    have hlower : category lowered ≠ .lowercaseLetter := category_ne_of_symbolic rfl hsymbolic
    exact ⟨lowered, [], heq, hother (category_ne_of_symbolic rfl hsymbolic),
      by simp [isLowercaseLetter, hlower, hletter]⟩

end NamingLint.Unicode
