import Mathlib.Data.List.Flatten
import Mathlib.Tactic.Cases
import NamingLint.Proofs.Source.Order.Names

/-!
# The places of tokens

Cutting a text into tokens goes forward: each lexeme with a name in it has some length, so that the
next name stands further behind. `lex_from_ascending` is the invariant of the cut, `names_ascending`
the result for a text. Lines and columns are numbers of 32 bits; texts for which these do not
suffice are left out.
-/

namespace NamingLint.Source

/-! ## Places -/

/-- A place comes before another one: on an earlier line, or in an earlier column of its line. -/
def Before (left right : Location) : Prop :=
  left.compare right = .lt

instance : DecidableRel Before := fun _ _ => inferInstanceAs (Decidable (_ = _))

theorem before_iff {left right : Location} : Before left right ↔
    left.line.toNat < right.line.toNat ∨
      left.line.toNat = right.line.toNat ∧ left.column.toNat < right.column.toNat := by
  simp only [Before, Location.compare, Ordering.then_eq_lt, Std.compare_eq_lt,
    Std.compare_eq_iff_eq, UInt32.lt_iff_toNat_lt, UInt32.toNat_inj]

theorem Before.trans {first second third : Location} (h : Before first second)
    (hnext : Before second third) : Before first third := by
  rw [before_iff] at *
  omega

namespace Lexer

/-- Lines and columns from here on do not exceed their bounds within so many characters. -/
def Room (location : Location) (count : Nat) : Prop :=
  location.line.toNat + count < UInt32.size ∧ location.column.toNat + count < UInt32.size

theorem advance_cons {location : Location} {c : Char} {chars : List Char} :
    advance location (c :: chars) = advance (advance location [c]) chars := rfl

theorem advance_step {location : Location} {c : Char} {count : Nat}
    (h : Room location (count + 1)) :
    Room (advance location [c]) count ∧ Before location (advance location [c]) := by
  obtain ⟨hline, hcolumn⟩ := h
  have hadd (n : UInt32) (hn : n.toNat + (count + 1) < UInt32.size) :
      (n + 1).toNat = n.toNat + 1 := by
    have hsize : n.toNat + 1 < UInt32.size := by omega
    rw [UInt32.toNat_add, show (1 : UInt32).toNat = 1 from rfl, Nat.mod_eq_of_lt hsize]
  simp only [advance, List.foldl_cons, List.foldl_nil, Room, before_iff]
  split
  · simp only [hadd _ hline, show (1 : UInt32).toNat = 1 from rfl]
    omega
  · simp only [hadd _ hcolumn]
    exact ⟨⟨by omega, by omega⟩, .inr ⟨trivial, by omega⟩⟩

theorem advance_room {location : Location} {chars : List Char} {count : Nat}
    (h : Room location (chars.length + count)) : Room (advance location chars) count := by
  induction chars generalizing location with
  | nil => simpa [advance] using h
  | cons c chars ih =>
      rw [advance_cons]
      exact ih (advance_step (by simpa [Nat.add_right_comm] using h)).1

theorem before_advance {location : Location} {chars : List Char} {count : Nat}
    (h : Room location (chars.length + count)) (hne : chars ≠ []) :
    Before location (advance location chars) := by
  induction chars generalizing location with
  | nil => exact absurd rfl hne
  | cons c chars ih =>
      have hroom : Room location (chars.length + count + 1) := by
        simpa [Nat.add_right_comm] using h
      obtain ⟨hstep, hbefore⟩ := advance_step (c := c) hroom
      rw [advance_cons]
      by_cases hlast : chars = []
      · rw [hlast]
        exact hbefore
      · exact hbefore.trans (ih hstep hlast)

/-- Characters that are taken from a text with room leave room for the others. -/
theorem advance_take {location : Location} {chars : List Char} {length : Nat}
    (h : Room location chars.length) :
    Room (advance location (chars.take length)) (chars.drop length).length ∧
      (0 < length → chars ≠ [] → Before location (advance location (chars.take length))) := by
  have hroom : Room location ((chars.take length).length + (chars.drop length).length) := by
    rwa [← List.length_append, List.take_append_drop]
  refine ⟨advance_room hroom, fun hlength hchars => before_advance hroom ?_⟩
  simp [hchars, Nat.ne_of_gt hlength]

/-! ## Lexemes with a name -/

theorem scan_name_pos {chars : List Char} {length : Nat} (h : scanName chars = some length) :
    0 < length := by
  cases chars with
  | nil => cases h
  | cons c rest =>
      simp only [scanName] at h
      split at h
      · cases h
        omega
      · cases h

theorem scan_ident_pos {chars : List Char} {length : Nat} {name : String} {raw : Bool}
    (h : scanIdent chars = some (length, name, raw)) : 0 < length := by
  unfold scanIdent at h
  split at h
  · dsimp only at h
    split at h
    · split at h
      · cases h
      · cases h
        omega
    · cases h
  · obtain ⟨count, hcount, hsame⟩ := Option.map_eq_some_iff.1 h
    cases hsame
    exact scan_name_pos hcount

theorem scan_punct_names {chars : List Char} {token : TokenTree}
    (h : scanPunct chars = some token) : token.names = [] := by
  unfold scanPunct at h
  repeat' split at h
  all_goals first | cases h; rw [TokenTree.names] | cases h

/-- A token at the start of a text is at most one name, and then it has some length. -/
theorem scan_leaf_names {chars : List Char} {location : Location} {length : Nat}
    {token : TokenTree} (h : scanLeaf chars location = some (length, token)) :
    token.names = [] ∨ token.names = [location] ∧ 0 < length := by
  unfold scanLeaf at h
  split at h
  · cases h
    exact .inl (by rw [TokenTree.names])
  · split at h
    · rename_i token hpunct
      cases h
      exact .inl (scan_punct_names hpunct)
    · split at h
      · cases h
      · split at h
        · rename_i hident
          cases h
          exact .inr ⟨by rw [TokenTree.names], scan_ident_pos hident⟩
        · split at h
          · cases h
            exact .inl (by rw [TokenTree.names])
          · cases h

theorem scan_doc_pos {chars : List Char} {length : Nat} {text : List Char} {inner : Bool}
    (h : scanDoc chars = some (length, text, inner)) : 0 < length ∧ chars ≠ [] := by
  have hblock {count : Nat} (h : scanBlockComment chars = some count) : 0 < count := by
    unfold scanBlockComment at h
    split at h
    · obtain ⟨rest, _, rfl⟩ := Option.map_eq_some_iff.1 h
      omega
    · cases h
  refine ⟨?_, by rintro rfl; cases h⟩
  unfold scanDoc at h
  dsimp only at h
  repeat' split at h
  · cases h; omega
  · obtain ⟨count, hcount, hsame⟩ := Option.map_eq_some_iff.1 h
    cases hsame
    exact hblock hcount
  · cases h
  · cases h; omega
  · obtain ⟨count, hcount, hsame⟩ := Option.map_eq_some_iff.1 h
    cases hsame
    exact hblock hcount
  · cases h

/-! ## The cut -/

/-- The names in the tokens found so far, the last ones first, and in those before the open
brackets. -/
def seen (stack : List OpenGroup) (found : List TokenTree) : List Location :=
  stack.reverse.flatMap (fun group => TokenTree.namesOf group.before.reverse) ++
    TokenTree.namesOf found.reverse

theorem seen_cons {stack : List OpenGroup} {found : List TokenTree} {token : TokenTree} :
    seen stack (token :: found) = seen stack found ++ token.names := by
  simp [seen, TokenTree.names_of_append, TokenTree.names_of_singleton]

theorem seen_doc {stack : List OpenGroup} {found : List TokenTree} {text : List Char}
    {inner : Bool} {location : Location} :
    seen stack (docTokens text inner location ++ found) = seen stack found ++ [location] := by
  cases inner <;> simp [docTokens, seen_cons, TokenTree.names, TokenTree.namesOf]

theorem seen_open {stack : List OpenGroup} {found : List TokenTree} {delimiter : Delimiter} :
    seen (⟨delimiter, found⟩ :: stack) [] = seen stack found := by
  simp [seen, TokenTree.namesOf]

theorem seen_close {stack : List OpenGroup} {found : List TokenTree} {top : OpenGroup}
    {delimiter : Delimiter} :
    seen stack (.group delimiter found.reverse :: top.before) = seen (top :: stack) found := by
  simp [seen, TokenTree.names_of_append, TokenTree.names_of_singleton, TokenTree.names]

/-- The names found so far stand at ascending places, all of them before the place reached. -/
structure Ascends (names : List Location) (location : Location) : Prop where
  ascending : names.Pairwise Before
  before : ∀ name ∈ names, Before name location

section

variable {names : List Location} {location : Location} {chars : List Char} {length : Nat}

/-- Going on behind a lexeme without a name. -/
theorem Ascends.skip (h : Ascends names location) (hroom : Room location chars.length)
    (length : Nat) : Ascends names (advance location (chars.take length)) := by
  refine ⟨h.ascending, fun name hname => ?_⟩
  by_cases hnone : chars.take length = []
  · rw [hnone]
    exact h.before name hname
  · have hlength : 0 < length :=
      Nat.pos_of_ne_zero fun hzero => hnone (by rw [hzero, List.take_zero])
    have hchars : chars ≠ [] := fun hnil => hnone (by rw [hnil, List.take_nil])
    exact (h.before name hname).trans ((advance_take hroom).2 hlength hchars)

/-- Going on behind a lexeme with one name. -/
theorem Ascends.append (h : Ascends names location) (hroom : Room location chars.length)
    (hlength : 0 < length) (hchars : chars ≠ []) :
    Ascends (names ++ [location]) (advance location (chars.take length)) := by
  have hnext := (advance_take hroom).2 hlength hchars
  refine ⟨List.pairwise_append.2 ⟨h.ascending, List.pairwise_singleton _ _, ?_⟩, ?_⟩
  · intro name hname last hlast
    rw [List.mem_singleton.1 hlast]
    exact h.before name hname
  · intro name hname
    rcases List.mem_append.1 hname with hname | hname
    · exact (h.before name hname).trans hnext
    · rw [List.mem_singleton.1 hname]
      exact hnext

end

/-- The names in the tokens of a text stand at ascending places. -/
theorem lex_from_ascending {fuel : Nat} {location : Location} {stack : List OpenGroup}
    {found tokens : List TokenTree} {chars : List Char}
    (h : lexFrom fuel location stack found chars = some tokens)
    (hroom : Room location chars.length) (hseen : Ascends (seen stack found) location) :
    (TokenTree.namesOf tokens).Pairwise Before := by
  induction fuel generalizing location stack found chars with
  | zero => cases h
  | succ fuel ih =>
      have hbehind (length : Nat) :
          Room (advance location (chars.take length)) (chars.drop length).length :=
        (advance_take hroom).1
      unfold lexFrom at h
      dsimp only at h
      split at h
      · exact ih h (hbehind _) (hseen.skip hroom _)
      · split at h
        · rename_i hdoc
          obtain ⟨hlength, hchars⟩ := scan_doc_pos hdoc
          split at h
          · cases h
          · refine ih h (hbehind _) ?_
            rw [seen_doc]
            exact hseen.append hroom hlength hchars
        · split at h
          · -- The end of the text, at which no bracket may be open.
            split at h
            · rename_i hstack
              cases h
              rw [List.isEmpty_iff.1 hstack] at hseen
              exact hseen.ascending
            · cases h
          · split at h
            · refine ih h (hbehind _) ?_
              rw [seen_open]
              exact hseen.skip hroom _
            · split at h
              · split at h
                · refine ih h (hbehind _) ?_
                  rw [seen_close]
                  exact hseen.skip hroom _
                · cases h
              · cases h
              · split at h
                · rename_i hleaf
                  refine ih h (hbehind _) ?_
                  rw [seen_cons]
                  rcases scan_leaf_names hleaf with hnames | ⟨hnames, hlength⟩
                  · rw [hnames, List.append_nil]
                    exact hseen.skip hroom _
                  · rw [hnames]
                    exact hseen.append hroom hlength (List.cons_ne_nil _ _)
                · cases h

/-- The names in the tokens of a text stand at ascending places, unless there are too many lines or
columns to count. -/
theorem names_ascending {chars : List Char} {tokens : List TokenTree}
    (h : tokens? chars = some tokens) (hshort : chars.length + 1 < UInt32.size) :
    (TokenTree.namesOf tokens).Pairwise Before := by
  have hstart (location : Location) : Ascends (seen [] []) location := ⟨.nil, nofun⟩
  unfold tokens? at h
  split at h
  · rename_i rest
    have hroom : Room ⟨1, 2⟩ rest.length := by
      simp only [List.length_cons] at hshort
      exact ⟨by simpa using (by omega : 1 + rest.length < UInt32.size),
        by simpa using (by omega : 2 + rest.length < UInt32.size)⟩
    exact lex_from_ascending h hroom (hstart _)
  · have hroom : Room ⟨1, 1⟩ chars.length :=
      ⟨by simpa using (by omega : 1 + chars.length < UInt32.size),
        by simpa using (by omega : 1 + chars.length < UInt32.size)⟩
    exact lex_from_ascending h hroom (hstart _)

end Lexer

end NamingLint.Source
