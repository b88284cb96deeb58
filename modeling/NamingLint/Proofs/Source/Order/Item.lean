import NamingLint.Proofs.Source.Order.Expression
import NamingLint.Source.Grammar.Item

/-!
# Order in signatures, members and items

The name of a function is read before all that is met inside it, apart from its attributes. What is
met in a signature, in a header or in a member is held back until the whole is known; the parts that
come out of their order then are attributes and `where` clauses, in which no functions stand.
-/

namespace NamingLint.Source.Grammar

open Parse

-- Instances are found along whole productions.
set_option synthInstance.maxSize 100000

section

variable {forest : List TokenTree} {relation : List Location → List Location → Prop}
  [Additive relation] {knot : Knot} [Knot.InOrder forest knot] [Undisturbed forest knot]
  {before : List Location}

/-! ## Visibility and signatures -/

instance : Keeps forest relation restriction := by
  unfold restriction
  refine .bind inferInstance fun tokens => ?_
  split
  · split
    · infer_instance
    · split <;> infer_instance
  · infer_instance

instance : Keeps forest relation visibility := by unfold visibility; infer_instance

instance : Keeps forest relation behindVisibility :=
  .of_unchanged fun hrun => by
    simp only [behindVisibility, StateT.run] at hrun
    split at hrun <;> cases hrun
    exact ⟨rfl, rfl⟩

instance : Parse.InOrder forest (receiver knot) := by unfold receiver; infer_instance

instance : Keeps forest relation commaBehindDots := by unfold commaBehindDots; infer_instance

instance {first : Bool} : Parse.InOrder forest (functionArgument knot first) := by
  unfold functionArgument; infer_instance

instance {first : Bool} {count : Nat} :
    Parse.InOrder forest (functionArguments knot first count) := by
  induction count generalizing first with
  | zero => unfold functionArguments; infer_instance
  | succ count ih => unfold functionArguments; infer_instance

/-- A signature leaves its name to be met, and what stands in its parameters and inputs. -/
def LeavesSignature (before : List Location) (parts : Naming.Identifier × List Outline × Bool)
    (names : List Location) : Prop :=
  names = before ++ (parts.1.location :: Outline.namesOf parts.2.1)

theorem defers_signature_parts {allowSafe : Bool} :
    Defers forest before (signatureParts knot allowSafe) (LeavesSignature before) := by
  unfold signatureParts
  refine .then_silent fun _ => .then_silent fun _ => ?_
  extract_lets withSafe
  have hsafe (safe : Bool) : Defers forest before (withSafe safe) (LeavesSignature before) := by
    unfold withSafe
    extract_lets withName withAbi
    have hname (found : Unit) : Defers forest before (withName found) (LeavesSignature before) := by
      refine .then_silent fun _ => .bind .ident ?_
      rintro token _ rfl
      split
      · refine .then_hold fun _ parameters => .then_hold fun _ inputs => ?_
        refine .then_hold_silent fun _ conditions hnone => .pure rfl ?_
        simp [hnone, TokenTree.names]
      · exact .failure
    have habi (found : Unit) : Defers forest before (withAbi found) (LeavesSignature before) := by
      refine .then_silent fun isExtern => ?_
      split
      · exact .then_silent hname
      · exact hname ()
    split
    · exact .then_silent fun _ => habi ()
    · exact habi ()
  split
  · exact .then_silent hsafe
  · exact .then_silent hsafe

theorem defers_signature {allowSafe : Bool} :
    Defers forest before (signature knot allowSafe) fun found names =>
      names = before ++ (found.identifier.location :: Outline.namesOf found.met) := by
  refine .bind (.with_printed defers_signature_parts) ?_
  rintro ⟨⟨identifier, met, safe⟩, printed⟩ _ rfl
  exact .pure rfl (.refl _)

/-! ## Members -/

instance : Keeps forest relation memberMacro := by unfold memberMacro; infer_instance

instance : Parse.InOrder forest (constantRest knot) := by unfold constantRest; infer_instance

instance {place : ConditionPlace} : Parse.InOrder forest (typeRest knot place) := by
  refine Defers.in_order (.then_silent fun _ => .then_silent fun _ => .then_in_order fun _ => ?_)
  refine .then_hold fun bounded bounds => .then_silent fun early => ?_
  refine .then_hold_silent fun _ front hfront => .then_hold fun defined definition => ?_
  refine .then_hold_silent fun _ behind hbehind => .then_silent fun _ => ?_
  exact .then_meet_none hfront (.then_meet_none hbehind
    (.then_meet (.bind (.meet_all (.refl _)) fun _ _ _ => .pure trivial (List.nil_sublist _))))

/-- A member is left to be met as a whole. Its attributes hold no function. -/
theorem defers_member {parse : List Outline → Parse (Option Member × Bool)}
    (hparse : ∀ attributes, Outline.namesOf attributes = [] →
      Defers forest [] (parse attributes) fun found names =>
        names = found.1.elim [] Member.names) :
    Defers forest before (member knot parse) fun members names =>
      names = before ++ Member.namesOf members := by
  have hboth : Defers forest before
      (holdingMet (outerAttributes knot) >>= fun held => holdingMet (parse held.2))
      fun found names => ∃ left, left = found.1.1.elim [] Member.names ∧
        names = before ++ (Outline.namesOf found.2 ++ left) :=
    .then_hold_silent fun _ attributes hnone => .hold_deferring (hparse attributes hnone)
  intro start value finish hinside hrun
  simp only [member] at hrun
  obtain ⟨_, _, hget, hrun⟩ := run_bind_eq_some.1 hrun
  cases hget
  obtain ⟨_, _, hattributes, hrun⟩ := run_bind_eq_some.1 hrun
  obtain ⟨⟨⟨function, uninterpreted⟩, met⟩, _, hfunction, hrun⟩ := run_bind_eq_some.1 hrun
  obtain ⟨read, outlines, _, hleads, ⟨left, rfl, rfl⟩, hsub⟩ :=
    hboth hinside (run_bind_eq_some.2 ⟨_, _, hattributes, hfunction⟩)
  cases uninterpreted with
  | true =>
      obtain ⟨_, _, hsince, hpure⟩ := run_bind_eq_some.1 hrun
      cases hpure
      obtain ⟨hrest, hmet⟩ := run_verbatim_since hsince
      exact ⟨read, [], before, ⟨hrest ▸ hleads.rest, hmet⟩, by simp [Member.namesOf],
        List.sublist_append_left _ _⟩
  | false =>
      cases hrun
      refine ⟨read, outlines, _, hleads, rfl, List.Sublist.trans ?_ hsub⟩
      -- The outlines met besides a function are no part of the member.
      cases function with
      | none => simp [Member.namesOf, Member.names]
      | some function => simp [Member.namesOf]

/-- What is met in a function whose attributes hold no function. -/
theorem names_of_inside {found : Signature} {attributes body : List Outline}
    (hnone : Outline.namesOf attributes = []) :
    Outline.namesOf (found.inside attributes body) =
      Outline.namesOf found.met ++ Outline.namesOf body := by
  simp [Signature.inside, hnone]

theorem names_of_inside_block {found : Signature} {attributes inner body : List Outline}
    (hnone : Outline.namesOf attributes = []) (hinner : Outline.namesOf inner = []) :
    Outline.namesOf (found.inside (attributes ++ inner) [.block body]) =
      Outline.namesOf found.met ++ Outline.namesOf body := by
  rw [names_of_inside (by simp [hnone, hinner]), Outline.names_of_singleton, Outline.names]

theorem defers_trait_member :
    Defers forest before (traitMember knot) fun members names =>
      names = before ++ Member.namesOf members := by
  refine defers_member fun attributes hnone => ?_
  refine .then_silent fun visible => .then_silent fun specialised => .then_silent fun tokens => ?_
  split
  · refine .bind defers_signature ?_
    rintro found _ rfl
    refine .then_silent fun semicolon => ?_
    split
    · refine .pure rfl ?_
      simp [Member.names, Signature.head, names_of_inside hnone, Outline.namesOf]
    · refine .bind defers_block_parts ?_
      rintro ⟨inner, body⟩ _ ⟨hinner, rfl⟩
      exact .pure rfl (by simp [Member.names, Signature.head, names_of_inside_block hnone hinner])
  · split
    · exact .then_meet_none hnone
        (.then_silent fun _ => .then_in_order fun _ => .pure rfl (.refl _))
    · split
      · exact .then_meet_none hnone (.then_in_order fun _ => .pure rfl (.refl _))
      · split
        · exact .then_meet_none hnone (.then_silent fun _ => .pure rfl (.refl _))
        · exact .failure

theorem defers_implementation_member :
    Defers forest before (implementationMember knot) fun members names =>
      names = before ++ Member.namesOf members := by
  refine defers_member fun attributes hnone => ?_
  refine .then_silent fun visible => .then_silent fun specialised => ?_
  extract_lets behindDefault
  have hrest (found : Unit) : Defers forest [] (behindDefault found) fun found names =>
      names = found.1.elim [] Member.names := by
    refine .then_silent fun tokens => ?_
    split
    · refine .bind defers_signature ?_
      rintro found _ rfl
      refine .then_silent fun semicolon => ?_
      split
      · exact .pure rfl (List.nil_sublist _)
      · refine .bind defers_block_parts ?_
        rintro ⟨inner, body⟩ _ ⟨hinner, rfl⟩
        exact .pure rfl (by simp [Member.names, Signature.head, names_of_inside_block hnone hinner])
    · split
      · exact .then_meet_none hnone
          (.then_silent fun _ => .then_in_order fun _ => .pure rfl (.refl _))
      · split
        · exact .then_meet_none hnone (.then_in_order fun _ => .pure rfl (.refl _))
        · split
          · exact .then_meet_none hnone (.then_silent fun _ => .pure rfl (.refl _))
          · exact .failure
  split
  · exact .then_silent hrest
  · exact hrest ()

instance : Parse.InOrder forest (foreignStatic knot) := by unfold foreignStatic; infer_instance

theorem defers_foreign_member :
    Defers forest before (foreignMember knot) fun members names =>
      names = before ++ Member.namesOf members := by
  refine defers_member fun attributes hnone => ?_
  refine .then_silent fun visible => .then_silent fun tokens => ?_
  split
  · refine .bind defers_signature ?_
    rintro found _ rfl
    refine .then_silent fun isBraced => ?_
    split
    · exact .bind defers_block_parts fun _ _ _ => .pure rfl (List.nil_sublist _)
    · refine .then_silent fun _ => .pure rfl ?_
      simp [Member.names, Signature.head, names_of_inside hnone, Outline.namesOf]
  · split
    · exact .then_meet_none hnone (.then_in_order fun _ => .pure rfl (.refl _))
    · split
      · exact .then_meet_none hnone (.then_in_order fun _ => .pure rfl (.refl _))
      · split
        · exact .then_meet_none hnone (.then_silent fun _ => .pure rfl (.refl _))
        · exact .failure

/-! ## Functions, imports, constants and structures -/

instance {attributes : List Outline} [hnone : Fact (Outline.namesOf attributes = [])] :
    Parse.InOrder forest (functionItem knot attributes) := by
  refine Defers.in_order (.then_silent fun _ => .bind defers_signature ?_)
  rintro found _ rfl
  refine .then_silent fun semicolon => ?_
  split
  · exact .pure trivial (List.nil_sublist _)
  · refine .bind defers_block_parts ?_
    rintro ⟨inner, body⟩ _ ⟨hinner, rfl⟩
    refine .bind (.meet_all ?_) fun _ _ _ => .pure trivial (List.nil_sublist _)
    simp [Outline.names, Signature.head, names_of_inside_block hnone.out hinner]

instance : Keeps forest relation externCrateItem := by unfold externCrateItem; infer_instance

instance {allowRoot : Bool} : Parse.InOrder forest (useTree knot allowRoot) := by
  unfold useTree; infer_instance

instance : Parse.InOrder forest (useItem knot) := by unfold useItem; infer_instance

instance : Parse.InOrder forest (staticItem knot) := by unfold staticItem; infer_instance

instance : Parse.InOrder forest (constItem knot) := by unfold constItem; infer_instance

instance : Parse.InOrder forest (typeItem knot) := by unfold typeItem; infer_instance

instance : Parse.InOrder forest (namedField knot) := by unfold namedField; infer_instance

instance : Parse.InOrder forest (namedFields knot) := by unfold namedFields; infer_instance

instance : Parse.InOrder forest (positionalFields knot) := by
  unfold positionalFields; infer_instance

instance : Parse.InOrder forest (structItem knot) := by
  refine Defers.in_order (.then_silent fun _ => .then_silent fun _ => .then_silent fun _ =>
    .then_in_order fun _ => .then_silent fun conditional => .then_silent fun _ =>
      .then_silent fun tokens => ?_)
  split
  · exact .then_hold fun _ fields => .then_silent fun _ =>
      .bind (.meet_all (.refl _)) fun _ _ _ => Defers.of_silent.drop
  · split
    · exact Defers.of_in_order.drop
    · exact Defers.of_in_order.drop

instance : Parse.InOrder forest (unionItem knot) := by unfold unionItem; infer_instance

instance : Parse.InOrder forest (variant knot) := by unfold variant; infer_instance

instance : Parse.InOrder forest (enumItem knot) := by unfold enumItem; infer_instance

/-! ## Scopes -/

theorem defers_scope_parts {α : Type} {content : Parse α} {after : α → List Location → Prop}
    (h : Defers forest before content after) :
    Defers forest before (scopeParts knot content) fun parts names =>
      Outline.namesOf parts.1 = [] ∧ after parts.2 names :=
  .group (.then_hold_silent fun _ _ hnone => h.bind fun _ _ hafter =>
    .pure ⟨hnone, hafter⟩ (.refl _))

theorem names_of_flatten (members : List (List Member)) :
    Member.namesOf members.flatten = members.flatMap Member.namesOf := by
  induction members with
  | nil => simp [Member.namesOf]
  | cons first rest ih => simp [ih]

theorem defers_member_parts {member : Parse (List Member)}
    (h : ∀ before, Defers forest before member fun members names =>
      names = before ++ Member.namesOf members) :
    Defers forest before (memberParts knot member) fun parts names =>
      Outline.namesOf parts.1 = [] ∧ names = before ++ Member.namesOf parts.2 := by
  refine .bind (defers_scope_parts (.gather_until_end h)) ?_
  rintro ⟨attributes, members⟩ _ ⟨hnone, rfl⟩
  exact .pure ⟨hnone, by rw [names_of_flatten]⟩ (.refl _)

instance {attributes : List Outline} [hnone : Fact (Outline.namesOf attributes = [])] :
    Parse.InOrder forest (moduleItem knot attributes) := by
  refine Defers.in_order (.then_silent fun _ => .then_silent fun _ => .then_silent fun _ =>
    .then_silent fun isTry => ?_)
  extract_lets withName
  have hrest (token : TokenTree) : Defers forest [] (withName token) fun _ _ => True := by
    unfold withName
    split
    · refine .then_silent fun semicolon => ?_
      split
      · exact .meet_all (by simp [Outline.names, hnone.out])
      · refine .bind (defers_scope_parts .hold) ?_
        rintro ⟨inner, _, items⟩ _ ⟨hinner, rfl⟩
        exact .meet_all (by simp [Outline.names, hnone.out, hinner])
    · exact .failure
  split
  · exact .then_silent hrest
  · exact .then_silent hrest

instance {attributes : List Outline} [hnone : Fact (Outline.namesOf attributes = [])] :
    Parse.InOrder forest (foreignItem knot attributes) := by
  refine Defers.in_order (.then_silent fun _ => .then_silent fun _ =>
    .bind (defers_member_parts fun _ => defers_foreign_member) ?_)
  rintro ⟨inner, members⟩ _ ⟨hinner, rfl⟩
  exact .meet_all (by simp [Outline.names, Member.namesOf, Member.names, hnone.out, hinner])

instance {stop : List TokenTree → Bool} : Parse.InOrder forest (separatedBounds knot stop) := by
  unfold separatedBounds; infer_instance

instance {attributes : List Outline} [hnone : Fact (Outline.namesOf attributes = [])] :
    Parse.InOrder forest (traitItem knot attributes) := by
  refine Defers.in_order (.then_silent fun _ => .then_silent fun isUnsafe =>
    .then_silent fun isAuto => .then_silent fun _ => .then_silent fun token => ?_)
  split
  · refine .then_hold fun _ parameters => .then_silent fun isAlias => ?_
    split
    · refine .then_silent fun _ => .then_hold fun _ bounds =>
        .then_hold_silent fun _ conditions hconditions => .then_silent fun _ => ?_
      exact .meet_all (by simp [hnone.out, hconditions])
    · refine .then_hold fun _ bounds => .then_hold_silent fun _ conditions hconditions =>
        .bind (defers_member_parts fun _ => defers_trait_member) ?_
      rintro ⟨inner, members⟩ _ ⟨hinner, rfl⟩
      refine .meet_all ?_
      simp [Outline.names, Member.namesOf, Member.names, hnone.out, hinner, hconditions]
  · exact .failure

instance {negative : Bool} : Parse.InOrder forest (headerType knot negative) := by
  unfold headerType; infer_instance

instance {attributes : List Outline} [hnone : Fact (Outline.namesOf attributes = [])] :
    Parse.InOrder forest (implementationItem knot attributes) := by
  refine Defers.in_order (.then_silent fun visible => .then_silent fun _ => .then_silent fun _ =>
    .then_silent fun _ => .then_hold fun _ parameters => .then_silent fun isConst => ?_)
  extract_lets behindConst
  have hrest (found : Unit) : Defers forest ([] ++ Outline.namesOf parameters)
      (behindConst found) fun _ _ => True := by
    refine .then_silent fun negative => .then_hold fun first firstMet =>
      .then_silent fun forTrait => .then_hold fun selfType selfMet => ?_
    refine .then_hold_silent fun _ conditions hconditions =>
      .bind (defers_member_parts fun _ => defers_implementation_member) ?_
    rintro ⟨inner, members⟩ _ ⟨hinner, rfl⟩
    refine .bind (.meet_all ?_) fun _ _ _ => .pure trivial (List.nil_sublist _)
    simp [Outline.names, Member.namesOf, Member.names, hnone.out, hinner, hconditions]
  split
  · exact .then_silent fun _ => .then_silent hrest
  · exact hrest ()

/-! ## Macros and all items -/

instance : Keeps forest relation macroItem := by unfold macroItem; infer_instance

instance : Keeps forest relation macroDefinition := by unfold macroDefinition; infer_instance

instance {attributes : List Outline} [hnone : Fact (Outline.namesOf attributes = [])] :
    Parse.InOrder forest (unsafeItem knot attributes) := by
  unfold unsafeItem; infer_instance

instance {attributes : List Outline} [hnone : Fact (Outline.namesOf attributes = [])] :
    Parse.InOrder forest (scopeItem? knot attributes) := by
  unfold scopeItem?; infer_instance

instance : Parse.InOrder forest (plainItem knot) := by unfold plainItem; infer_instance

instance : Parse.InOrder forest (item knot) := by
  refine .verbatim_if (Defers.in_order (.then_hold_silent fun _ attributes hnone => ?_))
  have : Fact (Outline.namesOf attributes = []) := ⟨hnone⟩
  refine .then_in_order fun found => ?_
  cases found with
  | some uninterpreted => exact .pure trivial (.refl _)
  | none => exact .then_meet_none hnone Defers.of_in_order.drop

end

end NamingLint.Source.Grammar
