import NamingLint.Proofs.Source.Order.Item
import NamingLint.Proofs.Source.Order.Lexing
import NamingLint.Source.Grammar

/-!
# Order in files

The declarations of a file come at ascending places, wherever in it functions are nested, as long as
none stands in an attribute or in a `where` clause. Those two are walked out of the order in which
they are written.
-/

namespace NamingLint.Source

open Grammar Parse

/-! ## Files -/

namespace Grammar

variable {forest : List TokenTree}

/-- By induction on the nesting: each production keeps the order if those one level further down
do. -/
theorem knot_in_order (h : ∀ depth, Undisturbed forest (knot depth)) (depth : Nat) :
    Knot.InOrder forest (knot depth) := by
  induction depth with
  | zero =>
      constructor <;> intros <;> exact inferInstanceAs (Parse.InOrder forest failure)
  | succ depth ih =>
      have := h depth
      exact {
        type := fun allowPlus =>
          inferInstanceAs (Parse.InOrder forest (type (knot depth) allowPlus))
        bound := fun allowCapture allowConst =>
          inferInstanceAs (Parse.InOrder forest (bound (knot depth) allowCapture allowConst))
        expression := fun allowStruct =>
          inferInstanceAs (Parse.InOrder forest (expression (knot depth) allowStruct))
        unary := fun allowStruct =>
          inferInstanceAs (Parse.InOrder forest (unary (knot depth) allowStruct))
        operators := fun shape allowStruct least =>
          inferInstanceAs (Parse.InOrder forest (operators (knot depth) shape allowStruct least))
        statementExpression :=
          inferInstanceAs (Parse.InOrder forest (statementExpression (knot depth)))
        pattern := inferInstanceAs (Parse.InOrder forest (pattern (knot depth)))
        statements := inferInstanceAs (Parse.InOrder forest (statements (knot depth)))
        item := inferInstanceAs (Parse.InOrder forest (item (knot depth)))
        useTree := fun allowRoot =>
          inferInstanceAs (Parse.InOrder forest (useTree (knot depth) allowRoot)) }

instance {knot : Knot} [Knot.InOrder forest knot] [Undisturbed forest knot] :
    Parse.InOrder forest (file knot) := by
  unfold file; infer_instance

/-- The names in the outlines of a forest are among those in the forest, in the same order. -/
theorem names_of_outline {outlines : List Outline}
    (h : ∀ depth, Undisturbed forest (knot depth))
    (hread : outlineOfTokens? forest = some outlines) :
    (Outline.namesOf outlines).Sublist (TokenTree.namesOf forest) := by
  obtain ⟨⟨⟨⟩, finish⟩, hrun, rfl⟩ := Option.map_eq_some_iff.1 hread
  have := h (6 * TokenTree.sizeAll forest + 6)
  have := knot_in_order h (6 * TokenTree.sizeAll forest + 6)
  have hfile : Parse.InOrder forest (file (knot (6 * TokenTree.sizeAll forest + 6))) :=
    inferInstance
  obtain ⟨read, met, hleads, hkept⟩ := hfile.leads (by exact .all) hrun
  have hmet : finish.met.reverse = met := by simp [hleads.met]
  have hrest : forest = read ++ finish.rest := hleads.rest
  show (Outline.namesOf finish.met.reverse).Sublist _
  rw [hmet, hrest, TokenTree.names_of_append]
  exact hkept.trans (List.sublist_append_left _ _)

end Grammar

/-! ## Files without attributes and conditions -/

namespace TokenTree

mutual

/-- A token neither is nor encloses a `#`, which opens an attribute, or the keyword `where`. -/
def plain : TokenTree → Bool
  | ident name raw _ => raw || name != "where"
  | punct c _ => c != '#'
  | literal _ => true
  | group _ content => plainAll content

/-- All tokens of a forest are plain. -/
def plainAll : List TokenTree → Bool
  | [] => true
  | first :: rest => first.plain && plainAll rest

end

theorem no_attribute_of_plain {tokens : List TokenTree} (h : plainAll tokens = true) :
    isPunct "#" tokens = false := by
  cases tokens with
  | nil => rfl
  | cons token rest =>
      cases token with
      | punct c joint =>
          have hc : c ≠ '#' := by simpa [plain] using (Bool.and_eq_true_iff.1 h).1
          simp [isPunct, isPunctChars, hc.symm]
      | _ => rfl

theorem no_condition_of_plain {tokens : List TokenTree} (h : plainAll tokens = true) :
    isKeyword "where" tokens = false := by
  cases tokens with
  | nil => rfl
  | cons token rest =>
      cases token with
      | ident name raw location =>
          have hword : raw = true ∨ name ≠ "where" := by
            simpa [plain] using (Bool.and_eq_true_iff.1 h).1
          cases raw with
          | false => simpa [isKeyword] using hword
          | true => rfl
      | _ => rfl

end TokenTree

theorem Inside.plain {forest tokens : List TokenTree} (h : Inside forest tokens)
    (hforest : TokenTree.plainAll forest = true) : TokenTree.plainAll tokens = true := by
  induction h with
  | all => exact hforest
  | behind _ ih => exact (Bool.and_eq_true_iff.1 ih).2
  | within _ ih => exact (Bool.and_eq_true_iff.1 ih).1

/-- A loop that does not begin. -/
theorem Parse.run_loop_of_stop {body : Parse Bool} {start : ParseState}
    (h : body.run start = some (false, start)) : (loop body).run start = some ((), start) := by
  change (body.run start).bind _ = _
  rw [h]
  rfl

theorem Grammar.undisturbed_of_plain {forest : List TokenTree}
    (hforest : TokenTree.plainAll forest = true) (knot : Knot) : Undisturbed forest knot where
  outer start finish hinside hrun := by
    have hnone := TokenTree.no_attribute_of_plain (hinside.plain hforest)
    have hstop : (outerAttributes knot).run start = some ((), start) :=
      run_loop_of_stop (by simp [next, hnone])
    cases hstop.symm.trans hrun
    rfl
  inner start finish hinside hrun := by
    have hnone := TokenTree.no_attribute_of_plain (hinside.plain hforest)
    have hstop : (innerAttributes knot).run start = some ((), start) :=
      run_loop_of_stop (by simp [next, hnone])
    cases hstop.symm.trans hrun
    rfl
  conditions start finish hinside hrun := by
    have hnone := TokenTree.no_condition_of_plain (hinside.plain hforest)
    have hstop : (whereClause knot).run start = some ((), start) := by
      simp [whereClause, next, hnone]
    cases hstop.symm.trans hrun
    rfl

/-! ## Declarations -/

theorem Lexer.length_without_preamble_le (chars : List Char) :
    (withoutPreamble chars).length ≤ chars.length := by
  have hline (rest : List Char) : (rest.dropWhile (· ≠ '\n')).length ≤ rest.length :=
    (List.dropWhile_sublist _).length_le
  unfold withoutPreamble
  dsimp only
  split <;> split <;> try split
  all_goals grind

/-- The declarations of a file come at ascending places if no function stands in an attribute or in
a `where` clause. Their places are counted in 32 bits, which bounds the length of the text. -/
theorem declarations_in_order {nativeName : String → Bool} {text : String} {outlines : List Outline}
    (hread : outline? text = some outlines) (hshort : text.length + 1 < UInt32.size)
    (h : ∀ tokens, Lexer.tokens? (Lexer.withoutPreamble text.toList) = some tokens →
      ∀ depth, Undisturbed tokens (knot depth)) :
    ((declarations nativeName outlines).map placeOf).Pairwise Before := by
  obtain ⟨tokens, htokens, hread⟩ := Option.bind_eq_some_iff.1 hread
  have hlength : (Lexer.withoutPreamble text.toList).length + 1 < UInt32.size := by
    have := Lexer.length_without_preamble_le text.toList
    rw [String.length_toList] at this
    omega
  rw [declared_names]
  exact (Lexer.names_ascending htokens hlength).sublist (names_of_outline (h tokens htokens) hread)

/-- A file with a function in each part of the header of an implementation and of a function. -/
def layeredFunctions : String :=
  "impl S<\x7b fn a() \x7b\x7d 1 \x7d> \x7b fn f<const N: u8 = \x7b fn b() \x7b\x7d 2 \x7d>(" ++
    "x: [u8; \x7b fn c() \x7b\x7d 3 \x7d]) -> [u8; \x7b fn d() \x7b\x7d 4 \x7d] " ++
    "\x7b fn e() \x7b\x7d \x7d \x7d"

theorem layered_functions_in_order : ∃ outlines, outline? layeredFunctions = some outlines ∧
    ((declarations (fun _ => false) outlines).map fun found => found.identifier.text) =
      ["a", "f", "b", "c", "d", "e"] ∧
    ((declarations (fun _ => false) outlines).map placeOf).Pairwise Before := by
  have hnames : ((outline? layeredFunctions).map fun outlines =>
      (declarations (fun _ => false) outlines).map fun found => found.identifier.text) =
        some ["a", "f", "b", "c", "d", "e"] := by
    decide +kernel
  have hplain : (Lexer.tokens? (Lexer.withoutPreamble layeredFunctions.toList)).all
      TokenTree.plainAll = true := by
    decide +kernel
  obtain ⟨outlines, hread, hnames⟩ := Option.map_eq_some_iff.1 hnames
  refine ⟨outlines, hread, hnames, declarations_in_order hread (by decide +kernel) ?_⟩
  intro tokens htokens depth
  rw [htokens] at hplain
  exact undisturbed_of_plain hplain _

/-- A file whose only function has others in an attribute, in an argument and in a condition. -/
def conditionalFunction : String :=
  "#[x = \x7b fn a() \x7b\x7d 1 \x7d] " ++
    "fn f(y: [u8; \x7b fn b() \x7b\x7d 2 \x7d]) " ++
    "where [u8; \x7b fn c() \x7b\x7d 3 \x7d]: Sized \x7b\x7d"

/-- A function is met before those in its attributes, and what stands in a `where` clause before
the arguments. -/
theorem attribute_and_condition_out_of_order : ∃ outlines,
    outline? conditionalFunction = some outlines ∧
    (declarations (fun _ => false) outlines).map (fun found => found.identifier.text) =
      ["f", "a", "c", "b"] ∧
    ¬((declarations (fun _ => false) outlines).map placeOf).Pairwise Before := by
  have hfound : (outline? conditionalFunction).any (fun outlines => decide (
      (declarations (fun _ => false) outlines).map (fun found => found.identifier.text) =
        ["f", "a", "c", "b"] ∧
      ¬((declarations (fun _ => false) outlines).map placeOf).Pairwise Before)) = true := by
    decide +kernel
  obtain ⟨outlines, hread, hfound⟩ := (Option.any_eq_true _ _).1 hfound
  exact ⟨outlines, hread, of_decide_eq_true hfound⟩

end NamingLint.Source
