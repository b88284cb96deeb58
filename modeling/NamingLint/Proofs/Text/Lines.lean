import Mathlib.Data.List.Basic
import NamingLint.Text.Lines

/-!
# Lines of a text

A line feed separates the lines in front of it from those behind it (`lines_of_append_feed`), and a
text that holds neither a line feed nor a carriage return is a single line (`lines_of_unbroken`).
`feeds_induction` takes a text apart at its line feeds, and `lines_of_feed` and `lines_of_last` say
which line each part is.
-/

namespace NamingLint.Text

variable {c : Char} {line front back rest part : List Char} {lines : List (List Char)}

/-- A text that is not empty has a first line. -/
theorem exists_first_line (c : Char) (rest : List Char) :
    ∃ line lines, linesOf (c :: rest) = line :: lines := by
  unfold linesOf
  split
  · next heq => cases heq
  · exact ⟨_, _, rfl⟩
  · exact ⟨_, _, rfl⟩
  · split
    · exact ⟨_, _, rfl⟩
    · exact ⟨_, _, rfl⟩

/-- A character that does not end a line belongs to the first one. -/
theorem lines_of_cons (hfeed : c ≠ '\n') (hreturn : c = '\r' → ∀ more, rest ≠ '\n' :: more)
    (hrest : linesOf rest = line :: lines) : linesOf (c :: rest) = (c :: line) :: lines := by
  rw [linesOf, hrest]
  · exact hfeed
  · exact fun more hc => hreturn hc more

/-- If a line feed separates the lines of two texts, it still does with one more character that does
not end a line. -/
theorem append_feed_of_cons (hfeed : c ≠ '\n') (hreturn : c = '\r' → ∀ more, front ≠ '\n' :: more)
    (h : linesOf (front ++ '\n' :: rest) = linesOf (front ++ ['\n']) ++ linesOf rest) :
    linesOf (c :: (front ++ '\n' :: rest)) = linesOf (c :: (front ++ ['\n'])) ++ linesOf rest := by
  cases front with
  | nil =>
      by_cases hc : c = '\r'
      · -- A carriage return in front of the line feed ends the line together with it.
        subst hc
        simp [linesOf]
      · have hplain (more : List Char) : linesOf (c :: '\n' :: more) = [c] :: linesOf more :=
          lines_of_cons hfeed (fun h => absurd h hc) (by simp [linesOf])
        simp [hplain, linesOf]
  | cons d front =>
      have hnext (more : List Char) (hc : c = '\r') (other : List Char) :
          d :: front ++ more ≠ '\n' :: other := by
        intro heq
        exact hreturn hc front (by rw [(List.cons.inj heq).1])
      obtain ⟨line, lines, hlines⟩ := exists_first_line d (front ++ ['\n'])
      have hmore : linesOf (d :: front ++ '\n' :: rest) = line :: (lines ++ linesOf rest) := by
        rw [h, List.cons_append, hlines, List.cons_append]
      rw [lines_of_cons hfeed (hnext ['\n']) hlines, lines_of_cons hfeed (hnext _) hmore]
      rfl

theorem lines_of_append_feed (front rest : List Char) :
    linesOf (front ++ '\n' :: rest) = linesOf (front ++ ['\n']) ++ linesOf rest := by
  fun_induction linesOf front with
  | case1 => simp [linesOf]
  | case2 front ih => simpa [linesOf] using ih
  | case3 front ih => simpa [linesOf] using ih
  | case4 c front hfeed hreturn _ ih =>
      exact append_feed_of_cons hfeed (fun hc more => hreturn more hc) ih
  | case5 c front hfeed hreturn _ _ _ ih =>
      exact append_feed_of_cons hfeed (fun hc more => hreturn more hc) ih

/-- A text without any line feeds or carriage returns is a single line. -/
theorem lines_of_unbroken (h : ∀ c ∈ line, c ≠ '\n' ∧ c ≠ '\r') :
    linesOf (line ++ ['\n']) = [line] := by
  induction line with
  | nil => simp [linesOf]
  | cons c line ih =>
      obtain ⟨⟨hfeed, hreturn⟩, hline⟩ := List.forall_mem_cons.1 h
      exact lines_of_cons hfeed (fun hc => absurd hc hreturn) (ih hline)

/-! ## Between line feeds -/

/-- A text has no line feed, or it has a first one. -/
theorem feeds_induction {motive : List Char → Prop} (last : ∀ line, '\n' ∉ line → motive line)
    (feed : ∀ line rest, '\n' ∉ line → motive rest → motive (line ++ '\n' :: rest))
    (text : List Char) : motive text := by
  by_cases hfeed : '\n' ∈ text
  · obtain ⟨line, rest, hsplit, hline⟩ := List.eq_append_cons_of_mem hfeed
    have hshorter : rest.length < text.length := by
      rw [hsplit, List.length_append, List.length_cons]
      omega
    rw [hsplit]
    exact feed line rest hline (feeds_induction last feed rest)
  · exact last text hfeed
  termination_by text.length

/-- What stands in front of a line feed is a line, but for a carriage return at its end. -/
theorem lines_of_feed (h : '\n' ∉ line) : ∃ shown, (line = shown ∨ line = shown ++ ['\r']) ∧
    ∀ rest, linesOf (line ++ '\n' :: rest) = shown :: linesOf rest := by
  induction line with
  | nil => exact ⟨[], .inl rfl, fun rest => by simp [linesOf]⟩
  | cons c line ih =>
      obtain ⟨hc, hline⟩ := List.ne_and_not_mem_of_not_mem_cons h
      obtain ⟨shown, hshown, hlines⟩ := ih hline
      by_cases hend : c = '\r' ∧ line = []
      · obtain ⟨rfl, rfl⟩ := hend
        exact ⟨[], .inr rfl, fun rest => by simp [linesOf]⟩
      · refine ⟨c :: shown, hshown.imp (congrArg _) (congrArg _), fun rest => ?_⟩
        refine lines_of_cons (Ne.symm hc) (fun hreturn more hmore => ?_) (hlines rest)
        cases line with
        | nil => exact hend ⟨hreturn, rfl⟩
        | cons d line => exact hline ((List.cons.inj hmore).1 ▸ List.mem_cons_self)

/-- What stands behind the last line feed is a line unless it is empty. -/
theorem lines_of_last (h : '\n' ∉ line) (hnonempty : line ≠ []) : linesOf line = [line] := by
  induction line with
  | nil => exact absurd rfl hnonempty
  | cons c line ih =>
      obtain ⟨hc, hline⟩ := List.ne_and_not_mem_of_not_mem_cons h
      cases line with
      | nil => simp [linesOf, Ne.symm hc]
      | cons d line =>
          refine lines_of_cons (Ne.symm hc) (fun _ more hmore => ?_)
            (ih hline (List.cons_ne_nil d line))
          exact hline ((List.cons.inj hmore).1 ▸ List.mem_cons_self)

/-! ## Parts of a text -/

theorem occurs_in_iff {text : List Char} : occursIn part text = true ↔ part <:+: text := by
  induction text with
  | nil => simp [occursIn]
  | cons c text ih =>
      rw [occursIn, Bool.or_eq_true, ih, List.isPrefixOf_iff_prefix, List.infix_cons_iff]

/-- A part of a text that lacks a character of it lies in front of that character or behind it. -/
theorem part_beside (hpart : c ∉ part) (h : front ++ part ++ back = line ++ c :: rest) :
    (∃ more, line = front ++ part ++ more) ∨
      ∃ more, front = line ++ c :: more ∧ rest = more ++ part ++ back := by
  rw [List.append_assoc] at h
  rcases List.append_eq_append_iff.1 h with ⟨behind, rfl, hbehind⟩ | ⟨ahead, rfl, hahead⟩
  · rcases List.append_eq_append_iff.1 hbehind with ⟨more, rfl, _⟩ | ⟨inner, rfl, hinner⟩
    · exact .inl ⟨more, (List.append_assoc ..).symm⟩
    · cases inner with
      | nil => exact .inl ⟨[], by simp⟩
      | cons d inner =>
          obtain ⟨rfl, _⟩ := List.cons.inj hinner
          exact absurd (List.mem_append_right _ List.mem_cons_self) hpart
  · cases ahead with
    | nil =>
        cases part with
        | nil => exact .inl ⟨[], by simp⟩
        | cons d part =>
            obtain ⟨rfl, _⟩ := List.cons.inj hahead
            exact absurd List.mem_cons_self hpart
    | cons d ahead =>
        obtain ⟨rfl, hrest⟩ := List.cons.inj hahead
        exact .inr ⟨ahead, rfl, hrest.trans (List.append_assoc ..).symm⟩

end NamingLint.Text
