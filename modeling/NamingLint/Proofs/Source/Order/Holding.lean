import NamingLint.Proofs.Source.Order.Reading

/-!
# Outlines that are held back

A parse may hold back what it meets and hand it on as part of its result, to be met later or in
another order. `Defers` keeps account of the names that have been read by then: those of the
functions that are still to be met have to come from the names read so far, in their order.
-/

namespace NamingLint.Source.Parse

open ParseState (Leads)

variable {α β : Type} {forest : List TokenTree} {before : List Location} {parse : Parse α}
  {after : α → List Location → Prop}

/-- A parse starts with some names of functions that have been read but not met. Afterwards the
names that are left to be met suit its result, and those of the functions that it has met come
before them. -/
def Defers (forest : List TokenTree) (before : List Location) (parse : Parse α)
    (after : α → List Location → Prop) : Prop :=
  ∀ ⦃start value finish⦄, Inside forest start.rest → parse.run start = some (value, finish) →
    ∃ read met names, Leads start finish read met ∧ after value names ∧
      (Outline.namesOf met ++ names).Sublist (before ++ TokenTree.namesOf read)

namespace Defers

/-! ## Steps -/

theorem bind {middle : α → List Location → Prop} {next : α → Parse β}
    {after : β → List Location → Prop} (h : Defers forest before parse middle)
    (hnext : ∀ value names, middle value names → Defers forest names (next value) after) :
    Defers forest before (parse >>= next) after := by
  intro start value finish hinside hrun
  obtain ⟨first, state, hfirst, hsecond⟩ := run_bind_eq_some.1 hrun
  obtain ⟨read, met, names, hleads, hmiddle, hsub⟩ := h hinside hfirst
  obtain ⟨further, more, left, hthen, hafter, hthenSub⟩ :=
    hnext first names hmiddle (inside_of_leads hinside hleads) hsecond
  refine ⟨read ++ further, met ++ more, left, leads_trans hleads hthen, hafter, ?_⟩
  rw [Outline.names_of_append, TokenTree.names_of_append, List.append_assoc]
  calc List.Sublist _ (Outline.namesOf met ++ (names ++ TokenTree.namesOf further)) :=
        hthenSub.append_left _
    List.Sublist _ (before ++ (TokenTree.namesOf read ++ TokenTree.namesOf further)) := by
        rw [← List.append_assoc, ← List.append_assoc]
        exact hsub.append_right _

theorem weaken {less : α → List Location → Prop} (h : Defers forest before parse after)
    (hless : ∀ value names, after value names → less value names) :
    Defers forest before parse less := fun _ _ _ hinside hrun =>
  have ⟨read, met, names, hleads, hafter, hsub⟩ := h hinside hrun
  ⟨read, met, names, hleads, hless _ _ hafter, hsub⟩

theorem pure {value : α} {names : List Location} (hafter : after value names)
    (hsub : names.Sublist before) : Defers forest before (pure value) after := by
  intro start _ finish hinside hrun
  cases hrun
  refine ⟨[], [], names, leads_unchanged rfl rfl, hafter, ?_⟩
  simpa [Outline.namesOf, TokenTree.namesOf] using hsub

theorem failure : Defers forest before (failure : Parse α) after := fun _ _ _ _ hrun => by
  cases hrun

/-- A parse that meets no functions leaves the names as they are. -/
theorem of_silent [h : Silent forest parse] :
    Defers forest before parse fun _ names => names = before := fun _ _ _ hinside hrun =>
  have ⟨read, met, hleads, hnone⟩ := h.leads hinside hrun
  ⟨read, met, before, hleads, rfl, by rw [hnone]; exact List.sublist_append_left _ _⟩

/-- With no names in front a parse may meet functions at once. -/
theorem of_in_order [h : InOrder forest parse] :
    Defers forest [] parse fun _ names => names = [] := fun _ _ _ hinside hrun =>
  have ⟨read, met, hleads, hsub⟩ := h.leads hinside hrun
  ⟨read, met, [], hleads, rfl, by simpa using hsub⟩

/-- A parse that starts with no names in front meets functions in the order of their names. -/
theorem in_order (h : Defers forest [] parse fun _ _ => True) : InOrder forest parse where
  leads hinside hrun :=
    have ⟨read, met, names, hleads, _, hsub⟩ := h hinside hrun
    ⟨read, met, hleads, (List.sublist_append_left _ names).trans (by simpa using hsub)⟩

theorem drop (h : Defers forest before parse after) : Defers forest before parse fun _ _ => True :=
  h.weaken fun _ _ _ => trivial

theorem meet {outlines : List Outline} {names : List Location}
    (h : (Outline.namesOf outlines ++ names).Sublist before) :
    Defers forest before (meet outlines) fun _ left => left = names := by
  intro start value finish hinside hrun
  cases hrun
  refine ⟨[], outlines, names, ⟨rfl, List.reverseAux_eq⟩, rfl, ?_⟩
  simpa [TokenTree.namesOf] using h

/-- Outlines without functions can be met at any time. -/
theorem meet_none {outlines : List Outline} (h : Outline.namesOf outlines = []) :
    Defers forest before (Parse.meet outlines) fun _ left => left = before :=
  .meet (by rw [h, List.nil_append])

/-- All that is left is met. -/
theorem meet_all {outlines : List Outline} (h : (Outline.namesOf outlines).Sublist before) :
    Defers forest before (Parse.meet outlines) fun _ _ => True := by
  have hmet : (Outline.namesOf outlines ++ []).Sublist before := by rwa [List.append_nil]
  exact (Defers.meet hmet).drop

theorem group {delimiter : Delimiter} (h : Defers forest before parse after) :
    Defers forest before (group delimiter parse) after := by
  intro start value finish hinside hrun
  obtain ⟨content, inner, hrest, hparse, hend, hmet⟩ := run_group hrun
  rw [hrest] at hinside
  obtain ⟨read, met, names, hleads, hafter, hsub⟩ := h (by exact hinside.within) hparse
  have hread : content = read := by simpa [hend] using hleads.rest
  refine ⟨[.group delimiter content], met, names, ⟨hrest, hmet ▸ hleads.met⟩, hafter, ?_⟩
  rwa [TokenTree.names_of_singleton, TokenTree.names, hread]

theorem with_printed (h : Defers forest before parse after) :
    Defers forest before (withPrinted parse) fun result => after result.1 := by
  have hheld : Defers forest before (holdingPrinted parse) fun result => after result.1 := by
    intro start value finish hinside hrun
    obtain ⟨inner, hparse, hrest, hmet⟩ := run_holding_printed hrun
    obtain ⟨read, met, names, hleads, hafter, hsub⟩ := h (by exact hinside) hparse
    exact ⟨read, met, names, ⟨hrest ▸ hleads.rest, hmet ▸ hleads.met⟩, hafter, hsub⟩
  refine hheld.bind fun result names hafter => of_silent.bind fun _ _ hsame => ?_
  exact .pure hafter (hsame ▸ .refl _)

/-! ## Holding back -/

/-- What a parse meets when it is held back comes behind the names in front. -/
theorem hold_deferring (h : Defers forest [] parse after) :
    Defers forest before (holdingMet parse) fun result names =>
      ∃ more, after result.1 more ∧ names = before ++ (Outline.namesOf result.2 ++ more) := by
  intro start value finish hinside hrun
  obtain ⟨inner, hparse, hfound, hrest, hmet⟩ := run_holding_met hrun
  obtain ⟨read, met, names, hleads, hafter, hsub⟩ := h (by exact hinside) hparse
  have hsame : value.2 = met := by simpa [hfound] using congrArg List.reverse hleads.met
  refine ⟨read, [], _, ⟨hrest ▸ hleads.rest, hmet⟩, ⟨names, hafter, rfl⟩, ?_⟩
  rw [hsame]
  exact (by simpa using hsub : List.Sublist _ _).append_left before

theorem hold [InOrder forest parse] :
    Defers forest before (holdingMet parse) fun result names =>
      names = before ++ Outline.namesOf result.2 :=
  (hold_deferring of_in_order).weaken fun _ _ ⟨_, hnone, hnames⟩ => by simpa [hnone] using hnames

theorem hold_silent [h : Silent forest parse] :
    Defers forest before (holdingMet parse) fun result names =>
      Outline.namesOf result.2 = [] ∧ names = before := by
  intro start value finish hinside hrun
  obtain ⟨inner, hparse, hfound, hrest, hmet⟩ := run_holding_met hrun
  obtain ⟨read, met, hleads, hnone⟩ := h.leads (by exact hinside) hparse
  have hsame : value.2 = met := by simpa [hfound] using congrArg List.reverse hleads.met
  exact ⟨read, [], before, ⟨hrest ▸ hleads.rest, hmet⟩, ⟨hsame ▸ hnone, rfl⟩,
    List.sublist_append_left _ _⟩

/-! ## Sequences -/

theorem then_silent {next : α → Parse β} {after : β → List Location → Prop} [Silent forest parse]
    (h : ∀ value, Defers forest before (next value) after) :
    Defers forest before (parse >>= next) after :=
  .bind .of_silent fun value _ hsame => hsame ▸ h value

theorem then_hold {next : α × List Outline → Parse β} {after : β → List Location → Prop}
    [InOrder forest parse]
    (h : ∀ value met, Defers forest (before ++ Outline.namesOf met) (next (value, met)) after) :
    Defers forest before (holdingMet parse >>= next) after :=
  .bind .hold fun (value, met) _ hsame => hsame ▸ h value met

theorem then_hold_silent {next : α × List Outline → Parse β} {after : β → List Location → Prop}
    [Silent forest parse]
    (h : ∀ value met, Outline.namesOf met = [] → Defers forest before (next (value, met)) after) :
    Defers forest before (holdingMet parse >>= next) after :=
  .bind .hold_silent fun (value, met) _ ⟨hnone, hsame⟩ => hsame ▸ h value met hnone

theorem then_in_order {next : α → Parse β} {after : β → List Location → Prop}
    [InOrder forest parse] (h : ∀ value, Defers forest [] (next value) after) :
    Defers forest [] (parse >>= next) after :=
  .bind .of_in_order fun value _ hsame => hsame ▸ h value

theorem then_meet_none {outlines : List Outline} {next : Unit → Parse β}
    {after : β → List Location → Prop} (hnone : Outline.namesOf outlines = [])
    (h : Defers forest before (next ()) after) :
    Defers forest before (Parse.meet outlines >>= next) after :=
  .bind (.meet_none hnone) fun _ _ hsame => hsame ▸ h

/-- The first of the outlines that have been held back are met. -/
theorem then_meet {outlines : List Outline} {names : List Location} {next : Unit → Parse β}
    {after : β → List Location → Prop} (h : Defers forest names (next ()) after) :
    Defers forest (Outline.namesOf outlines ++ names) (Parse.meet outlines >>= next) after :=
  .bind (.meet (.refl _)) fun _ _ hsame => hsame ▸ h

theorem take : Defers forest before take fun token names => names = before ++ token.names := by
  have hsilent : Defers forest before takeSilently fun token names =>
      names = before ++ token.names := by
    intro start token finish _ hrun
    obtain ⟨hrest, hmet⟩ := run_take_silently hrun
    refine ⟨[token], [], _, ⟨hrest, hmet⟩, rfl, ?_⟩
    rw [Outline.namesOf, List.nil_append, TokenTree.names_of_singleton]
  refine .bind hsilent fun token names hnames => .then_silent fun _ => ?_
  exact .pure hnames (.refl _)

/-- The name of a function is an identifier that has been read. -/
theorem ident :
    Defers forest before Parse.ident fun token names => names = before ++ token.names := by
  refine .then_silent fun isAhead => ?_
  split
  · exact .take
  · exact .failure

theorem gather_up_to {parse : Parse (Option (α × Bool))} {names : α → List Location}
    (h : ∀ before, Defers forest before parse fun found left =>
      left = before ++ found.elim [] fun found => names found.1) (count : Nat) :
    Defers forest before (gatherUpTo parse count) fun values left =>
      left = before ++ values.flatMap names := by
  induction count generalizing before with
  | zero => exact .failure
  | succ count ih =>
      unfold gatherUpTo
      refine .bind (h before) ?_
      rintro found _ rfl
      cases found with
      | none => exact .pure rfl (by simp)
      | some found =>
          obtain ⟨value, goesOn⟩ := found
          cases goesOn with
          | true =>
              refine .bind ih ?_
              rintro values _ rfl
              exact .pure rfl (by simp)
          | false => exact .pure rfl (by simp)

/-- What is collected up to the end is held back as a whole. -/
theorem gather_until_end {names : α → List Location}
    (h : ∀ before, Defers forest before parse fun value left => left = before ++ names value) :
    Defers forest before (gatherUntilEnd parse) fun values left =>
      left = before ++ values.flatMap names := by
  refine .then_silent fun tokens => gather_up_to (fun before => ?_) _
  refine .then_silent fun isEnd => ?_
  split
  · exact .pure rfl (by simp)
  · refine .bind (h before) ?_
    rintro value _ rfl
    exact .pure rfl (.refl _)

end Defers

end NamingLint.Source.Parse
