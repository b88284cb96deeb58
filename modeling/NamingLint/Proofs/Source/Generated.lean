import Mathlib.Logic.Relation
import NamingLint.Proofs.Text.Lines
import NamingLint.Source.Generated

/-!
# Markers of generated files

A text is searched line by line, and no marker goes beyond a line. `generated_iff_marked` says that
this comes to a search in the text as it is, up to the fifth line feed, so that neither the ends of
the lines nor what stands behind that line feed make a difference.
-/

namespace NamingLint.Source

/-- A marker occurs in a text behind fewer than so many line feeds. -/
def MarkedWithin (count : Nat) (text : List Char) : Prop :=
  ∃ marker ∈ generatedMarkers, ∃ front back, text = front ++ marker.toList ++ back ∧
    front.count '\n' < count

section

variable {count : Nat} {c : Char} {line front rest : List Char}

theorem feeds_not_in_marker {marker : String} (h : marker ∈ generatedMarkers) :
    '\n' ∉ marker.toList ∧ '\r' ∉ marker.toList ∧ marker.toList ≠ [] := by
  revert marker
  decide

theorem not_marked_within_zero {text : List Char} : ¬ MarkedWithin 0 text := by
  rintro ⟨_, _, _, _, _, hcount⟩
  exact Nat.not_lt_zero _ hcount

theorem not_marked_within_empty : ¬ MarkedWithin count [] := by
  rintro ⟨marker, hmarker, front, back, hsplit, _⟩
  have hnil := (List.append_eq_nil_iff.1 hsplit.symm).1
  exact (feeds_not_in_marker hmarker).2.2 (List.append_eq_nil_iff.1 hnil).2

/-- A marker stands in front of the end of a line or behind it. -/
theorem marked_within_append (hend : c = '\n' ∨ c = '\r') :
    MarkedWithin count (front ++ c :: rest) ↔
      MarkedWithin count front ∨ MarkedWithin (count - (front ++ [c]).count '\n') rest := by
  constructor
  · rintro ⟨marker, hmarker, ahead, back, hsplit, hcount⟩
    have hapart : c ∉ marker.toList := by
      obtain ⟨hfeed, hreturn, _⟩ := feeds_not_in_marker hmarker
      rcases hend with rfl | rfl
      · exact hfeed
      · exact hreturn
    rcases Text.part_beside hapart hsplit.symm with ⟨more, rfl⟩ | ⟨more, rfl, rfl⟩
    · exact .inl ⟨marker, hmarker, ahead, more, rfl, hcount⟩
    · refine .inr ⟨marker, hmarker, more, back, rfl, ?_⟩
      rw [List.append_cons, List.count_append] at hcount
      omega
  · rintro (⟨marker, hmarker, ahead, back, rfl, hcount⟩ | ⟨marker, hmarker, ahead, back, rfl, hcount⟩)
    · exact ⟨marker, hmarker, ahead, back ++ c :: rest, by simp, hcount⟩
    · refine ⟨marker, hmarker, front ++ c :: ahead, back, by simp, ?_⟩
      rw [List.append_cons, List.count_append]
      omega

/-- A carriage return at the end of a line is no part of a marker. -/
theorem marked_within_return : MarkedWithin count (line ++ ['\r']) ↔ MarkedWithin count line := by
  rw [marked_within_append (.inr rfl), or_iff_left not_marked_within_empty]

/-- A single line holds a marker wherever it stands in it. -/
theorem marked_within_line (h : '\n' ∉ line) :
    MarkedWithin (count + 1) line ↔ holdsMarker line = true := by
  simp only [holdsMarker, List.any_eq_true, Text.occurs_in_iff]
  constructor
  · rintro ⟨marker, hmarker, front, back, rfl, _⟩
    exact ⟨marker, hmarker, front, back, rfl⟩
  · rintro ⟨marker, hmarker, front, back, rfl⟩
    have hfront : front.count '\n' = 0 :=
      List.count_eq_zero.2 fun hmem => h (by simp [hmem])
    exact ⟨marker, hmarker, front, back, rfl, by omega⟩

/-- The first lines of a text hold a marker exactly if one occurs in front of the line feed that ends
the last of them. -/
theorem any_holds_marker_iff (text : List Char) :
    ((Text.linesOf text).take count).any holdsMarker = true ↔ MarkedWithin count text := by
  induction text using Text.feeds_induction generalizing count with
  | last line hline =>
      by_cases hempty : line = []
      · rw [hempty]
        exact iff_of_false (by simp [Text.linesOf]) not_marked_within_empty
      · rw [Text.lines_of_last hline hempty]
        cases count with
        | zero => exact iff_of_false (by simp) not_marked_within_zero
        | succ count => simp [marked_within_line hline]
  | feed line rest hline ih =>
      cases count with
      | zero => exact iff_of_false (by simp) not_marked_within_zero
      | succ count =>
          obtain ⟨shown, hshown, hlines⟩ := Text.lines_of_feed hline
          have hfirst : holdsMarker shown = true ↔ MarkedWithin (count + 1) line := by
            rcases hshown with rfl | rfl
            · exact (marked_within_line hline).symm
            · rw [marked_within_return]
              exact (marked_within_line fun hmem => hline (by simp [hmem])).symm
          have hrest : count + 1 - (line ++ ['\n']).count '\n' = count := by
            rw [List.count_append, List.count_eq_zero.2 hline]
            simp
          rw [hlines, List.take_succ_cons, List.any_cons, Bool.or_eq_true, hfirst, ih,
            marked_within_append (.inl rfl), hrest]

end

/-! ## Changes that make no difference -/

/-- A change of a text behind the fifth line feed, at the end of a line or at its own end. -/
inductive BesideMarkers : List Char → List Char → Prop where
  | behindHeader {front : List Char} (hfront : front.count '\n' = 4) (rest other : List Char) :
      BesideMarkers (front ++ '\n' :: rest) (front ++ '\n' :: other)
  | lineEnd (front rest : List Char) :
      BesideMarkers (front ++ '\n' :: rest) (front ++ '\r' :: '\n' :: rest)
  | finalFeed (text : List Char) : BesideMarkers text (text ++ ['\n'])

theorem BesideMarkers.marked_iff {text other : List Char} (h : BesideMarkers text other) :
    MarkedWithin markedLines text ↔ MarkedWithin markedLines other := by
  cases h with
  | @behindHeader front hfront rest other =>
      have hnone : markedLines - (front ++ ['\n']).count '\n' = 0 := by
        rw [List.count_append, hfront]
        rfl
      rw [marked_within_append (.inl rfl), marked_within_append (.inl rfl), hnone,
        or_iff_left not_marked_within_zero, or_iff_left not_marked_within_zero]
  | lineEnd front rest =>
      have hcount : (front ++ ['\r'] ++ ['\n']).count '\n' = (front ++ ['\n']).count '\n' := by
        simp
      rw [List.append_cons front '\r', marked_within_append (.inl rfl),
        marked_within_append (.inl rfl), marked_within_return, hcount]
  | finalFeed =>
      rw [marked_within_append (.inl rfl), or_iff_left not_marked_within_empty]

/-- A file counts as generated exactly if a marker occurs in it behind fewer than five line feeds.
What stands behind the fifth line feed, whether there is a carriage return in front of line feeds
and whether the text ends in a line feed make no difference. -/
theorem generated_iff_marked (text : String) :
    (isGenerated text = true ↔ ∃ marker ∈ ["@generated", "<auto-generated"], ∃ front back,
      text.toList = front ++ marker.toList ++ back ∧ front.count '\n' < 5) ∧
    ∀ other : String, Relation.EqvGen BesideMarkers text.toList other.toList →
      (isGenerated text = true ↔ isGenerated other = true) := by
  have hmarked (text : String) :
      isGenerated text = true ↔ MarkedWithin markedLines text.toList :=
    any_holds_marker_iff text.toList
  refine ⟨hmarked text, fun other hchanges => ?_⟩
  rw [hmarked, hmarked]
  -- To be marked alike is an equivalence that contains the changes, and so all that they lead to.
  have hequivalence : Equivalence fun left right : List Char =>
      (MarkedWithin markedLines left ↔ MarkedWithin markedLines right) :=
    ⟨fun _ => .rfl, Iff.symm, Iff.trans⟩
  exact hequivalence.eqvGen_iff.1 (hchanges.mono fun _ _ => BesideMarkers.marked_iff)

/-- A marker on the fifth line counts, whatever the line ends are and whatever stands behind it. A
marker on the sixth line does not. -/
theorem generated_by_fifth_line :
    Relation.EqvGen BesideMarkers "\n\n\n\n// @generated\nfn a() {}".toList
      "\n\n\r\n\n// @generated\n<auto-generated>\n".toList ∧
    isGenerated "\n\n\n\n// @generated\nfn a() {}" = true ∧
    isGenerated "\n\n\r\n\n// @generated\n<auto-generated>\n" = true ∧
    isGenerated "\n\n\n\n\n// @generated" = false := by
  let header : List Char := "\n\n\n\n// @generated".toList
  have hbehind : BesideMarkers "\n\n\n\n// @generated\nfn a() {}".toList
      "\n\n\n\n// @generated\n<auto-generated>".toList :=
    @BesideMarkers.behindHeader header (by decide) "fn a() {}".toList "<auto-generated>".toList
  have hfinal : BesideMarkers "\n\n\n\n// @generated\n<auto-generated>".toList
      "\n\n\n\n// @generated\n<auto-generated>\n".toList :=
    .finalFeed "\n\n\n\n// @generated\n<auto-generated>".toList
  have hreturn : BesideMarkers "\n\n\n\n// @generated\n<auto-generated>\n".toList
      "\n\n\r\n\n// @generated\n<auto-generated>\n".toList :=
    .lineEnd "\n\n".toList "\n// @generated\n<auto-generated>\n".toList
  have hchanges : Relation.EqvGen BesideMarkers "\n\n\n\n// @generated\nfn a() {}".toList
      "\n\n\r\n\n// @generated\n<auto-generated>\n".toList :=
    .trans _ _ _ (.rel _ _ hbehind) (.trans _ _ _ (.rel _ _ hfinal) (.rel _ _ hreturn))
  obtain ⟨hmarked, hsame⟩ := generated_iff_marked "\n\n\n\n// @generated\nfn a() {}"
  have hgenerated := hmarked.2
    ⟨"@generated", by decide, "\n\n\n\n// ".toList, "\nfn a() {}".toList, by decide, by decide⟩
  exact ⟨hchanges, hgenerated, (hsame _ hchanges).1 hgenerated, by decide⟩

end NamingLint.Source
