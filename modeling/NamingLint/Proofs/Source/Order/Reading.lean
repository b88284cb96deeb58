import Mathlib.Data.List.Infix
import NamingLint.Proofs.Source.Order.Names
import NamingLint.Source.Parse

/-!
# What a parse reads and meets

A parse reads tokens from the front and meets outlines. `Keeps` relates the names in both, by any
relation that goes on from one step to the next; it is closed under all combinators.
-/

namespace NamingLint.Source

/-! ## Runs -/

/-- Tokens at some place in a forest, with all that follows them there. -/
inductive Inside (forest : List TokenTree) : List TokenTree → Prop
  | all : Inside forest forest
  | behind {token : TokenTree} {rest : List TokenTree} (h : Inside forest (token :: rest)) :
      Inside forest rest
  | within {delimiter : Delimiter} {content rest : List TokenTree}
      (h : Inside forest (.group delimiter content :: rest)) : Inside forest content

theorem Inside.behind_all {forest front rest : List TokenTree} (h : Inside forest (front ++ rest)) :
    Inside forest rest := by
  induction front with
  | nil => exact h
  | cons token front ih => exact ih h.behind

/-- Between two states some tokens have been read and some outlines have been met. -/
structure ParseState.Leads (start finish : ParseState) (read : List TokenTree)
    (met : List Outline) : Prop where
  rest : start.rest = read ++ finish.rest
  met : finish.met = met.reverse ++ start.met

namespace Parse

open ParseState (Leads)

variable {α β : Type} {forest : List TokenTree} {start middle finish : ParseState}

theorem leads_unchanged (hrest : finish.rest = start.rest) (hmet : finish.met = start.met) :
    Leads start finish [] [] :=
  ⟨hrest.symm, hmet⟩

theorem leads_trans {read further : List TokenTree} {met more : List Outline}
    (h : Leads start middle read met) (hnext : Leads middle finish further more) :
    Leads start finish (read ++ further) (met ++ more) where
  rest := by rw [h.rest, hnext.rest, List.append_assoc]
  met := by rw [hnext.met, h.met, List.reverse_append, List.append_assoc]

theorem inside_of_leads {read : List TokenTree} {met : List Outline}
    (h : Inside forest start.rest) (hleads : Leads start finish read met) :
    Inside forest finish.rest :=
  Inside.behind_all (hleads.rest ▸ h)

theorem run_bind_eq_some {parse : Parse α} {next : α → Parse β} {value : β} :
    (parse >>= next).run start = some (value, finish) ↔
      ∃ first middle, parse.run start = some (first, middle) ∧
        (next first).run middle = some (value, finish) := by
  rw [StateT.run_bind]
  constructor
  · intro h
    obtain ⟨⟨first, middle⟩, hfirst, hnext⟩ := Option.bind_eq_some_iff.1 h
    exact ⟨first, middle, hfirst, hnext⟩
  · rintro ⟨first, middle, hfirst, hnext⟩
    exact Option.bind_eq_some_iff.2 ⟨(first, middle), hfirst, hnext⟩

/-! ## Relations between what is met and what is read -/

/-- A relation between the names met and the names read that holds of a whole run if it holds of its
steps, and of runs that meet nothing. -/
class Additive (relation : List Location → List Location → Prop) : Prop where
  nil (read : List Location) : relation [] read
  append {met more read further : List Location} (h : relation met read)
    (hnext : relation more further) : relation (met ++ more) (read ++ further)

instance : Additive List.Sublist := ⟨List.nil_sublist, List.Sublist.append⟩

instance : Additive fun met _ => met = [] :=
  ⟨fun _ => rfl, fun h hnext => by rw [h, hnext, List.append_nil]⟩

/-- A parse reads tokens at the front and meets outlines, and the names in both are related. This
is said of runs within a forest. -/
class Keeps (forest : List TokenTree) (relation : List Location → List Location → Prop)
    (parse : Parse α) : Prop where
  leads {start finish : ParseState} {value : α} (hinside : Inside forest start.rest)
    (hrun : parse.run start = some (value, finish)) :
    ∃ read met, Leads start finish read met ∧
      relation (Outline.namesOf met) (TokenTree.namesOf read)

/-- The names of the functions that a parse meets are among the names that it reads, in the order in
which it reads them. -/
abbrev InOrder (forest : List TokenTree) (parse : Parse α) : Prop :=
  Keeps forest List.Sublist parse

/-- A parse meets no functions. -/
abbrev Silent (forest : List TokenTree) (parse : Parse α) : Prop :=
  Keeps forest (fun met _ => met = []) parse

section

variable {relation : List Location → List Location → Prop} [Additive relation]
  {parse : Parse α}

theorem additive_none {read : List Location} : relation (Outline.namesOf []) read := by
  rw [Outline.namesOf]
  exact Additive.nil read

/-- A parse that only reads. -/
theorem Keeps.of_reads
    (h : ∀ {start value finish}, parse.run start = some (value, finish) →
      ∃ read, Leads start finish read []) : Keeps forest relation parse where
  leads _ hrun :=
    have ⟨read, hleads⟩ := h hrun
    ⟨read, [], hleads, additive_none⟩

/-- A parse that looks and prints at most. -/
theorem Keeps.of_unchanged
    (h : ∀ {start value finish}, parse.run start = some (value, finish) →
      finish.rest = start.rest ∧ finish.met = start.met) : Keeps forest relation parse :=
  .of_reads fun hrun => ⟨[], leads_unchanged (h hrun).1 (h hrun).2⟩

theorem Keeps.bind {next : α → Parse β} (h : Keeps forest relation parse)
    (hnext : ∀ value, Keeps forest relation (next value)) :
    Keeps forest relation (parse >>= next) where
  leads hinside hrun := by
    obtain ⟨first, middle, hfirst, hsecond⟩ := run_bind_eq_some.1 hrun
    obtain ⟨read, met, hleads, hkept⟩ := h.leads hinside hfirst
    obtain ⟨further, more, hthen, hkeptThen⟩ :=
      (hnext first).leads (inside_of_leads hinside hleads) hsecond
    refine ⟨read ++ further, met ++ more, leads_trans hleads hthen, ?_⟩
    rw [TokenTree.names_of_append, Outline.names_of_append]
    exact Additive.append hkept hkeptThen

instance {next : α → Parse β} [h : Keeps forest relation parse]
    [hnext : ∀ value, Keeps forest relation (next value)] :
    Keeps forest relation (parse >>= next) :=
  .bind h hnext

instance {value : α} : Keeps forest relation (pure value : Parse α) :=
  .of_unchanged fun hrun => by cases hrun; exact ⟨rfl, rfl⟩

instance : Keeps forest relation (failure : Parse α) := ⟨fun _ hrun => by cases hrun⟩

instance {condition : Prop} [Decidable condition] {other : Parse α}
    [Keeps forest relation parse] [Keeps forest relation other] :
    Keeps forest relation (if condition then parse else other) := by
  split <;> infer_instance

/-! ## Tokens -/

instance : Keeps forest relation (get : Parse ParseState) :=
  .of_unchanged fun hrun => by cases hrun; exact ⟨rfl, rfl⟩

instance : Keeps forest relation upcoming := by unfold upcoming; infer_instance

instance {test : List TokenTree → Bool} : Keeps forest relation (next test) := by
  unfold next; infer_instance

instance : Keeps forest relation atEnd := by unfold atEnd; infer_instance

instance {tokens : List TokenTree} : Keeps forest relation (print tokens) :=
  .of_unchanged fun hrun => by cases hrun; exact ⟨rfl, rfl⟩

theorem run_take_silently {token : TokenTree} (h : takeSilently.run start = some (token, finish)) :
    start.rest = token :: finish.rest ∧ finish.met = start.met := by
  obtain ⟨rest, printed, met⟩ := start
  cases rest with
  | nil => cases h
  | cons first rest => cases h; exact ⟨rfl, rfl⟩

instance : Keeps forest relation takeSilently :=
  .of_reads fun hrun =>
    have ⟨hrest, hmet⟩ := run_take_silently hrun
    ⟨[_], hrest, hmet⟩

instance : Keeps forest relation take := by unfold take; infer_instance

instance {text : String} : Keeps forest relation (punct text) :=
  .of_reads fun {start} _ _ hrun => by
    simp only [punct] at hrun
    obtain ⟨_, _, hget, hrun⟩ := run_bind_eq_some.1 hrun
    cases hget
    split at hrun
    · obtain ⟨_, _, hset, hprint⟩ := run_bind_eq_some.1 hrun
      cases hset
      cases hprint
      exact ⟨_, (List.take_append_drop _ _).symm, rfl⟩
    · cases hrun

instance {name : String} : Keeps forest relation (keyword name) := by
  unfold keyword; infer_instance

instance {text : String} : Keeps forest relation (optPunct text) := by
  unfold optPunct; infer_instance

instance {name : String} : Keeps forest relation (optKeyword name) := by
  unfold optKeyword; infer_instance

instance : Keeps forest relation word := by unfold word; infer_instance

instance : Keeps forest relation ident := by unfold ident; infer_instance

instance : Keeps forest relation lifetime := by
  unfold lifetime
  refine .bind inferInstance fun isAhead => ?_
  split
  · refine .bind inferInstance fun quote => .bind inferInstance fun name => ?_
    split <;> infer_instance
  · infer_instance

instance : Keeps forest relation optLifetime := by unfold optLifetime; infer_instance

instance : Keeps forest relation literal := by unfold literal; infer_instance

instance : Keeps forest relation anyGroup := by
  unfold anyGroup
  refine .bind inferInstance fun token => ?_
  split <;> infer_instance

/-! ## Combinations -/

instance : Keeps forest relation (isAhead parse) :=
  .of_unchanged fun hrun => by cases hrun; exact ⟨rfl, rfl⟩

instance [h : Keeps forest relation parse] : Keeps forest relation (attempt parse) where
  leads {start _ _} hinside hrun := by
    simp only [StateT.run, attempt] at hrun
    split at hrun
    · rename_i hparse
      cases hrun
      exact h.leads hinside hparse
    · cases hrun
      exact ⟨[], [], leads_unchanged rfl rfl, additive_none⟩

theorem run_holding_met {value : α × List Outline}
    (h : (holdingMet parse).run start = some (value, finish)) :
    ∃ inner, parse.run { start with met := [] } = some (value.1, inner) ∧
      value.2 = inner.met.reverse ∧ finish.rest = inner.rest ∧ finish.met = start.met := by
  simp only [holdingMet] at h
  obtain ⟨_, _, hget, h⟩ := run_bind_eq_some.1 h
  cases hget
  obtain ⟨_, _, hmodify, h⟩ := run_bind_eq_some.1 h
  cases hmodify
  obtain ⟨found, inner, hparse, h⟩ := run_bind_eq_some.1 h
  cases h
  exact ⟨inner, hparse, rfl, rfl, rfl⟩

theorem run_holding_printed {value : α × List TokenTree}
    (h : (holdingPrinted parse).run start = some (value, finish)) :
    ∃ inner, parse.run { start with printed := [] } = some (value.1, inner) ∧
      finish.rest = inner.rest ∧ finish.met = inner.met := by
  simp only [holdingPrinted] at h
  obtain ⟨_, _, hget, h⟩ := run_bind_eq_some.1 h
  cases hget
  obtain ⟨_, _, hmodify, h⟩ := run_bind_eq_some.1 h
  cases hmodify
  obtain ⟨found, inner, hparse, h⟩ := run_bind_eq_some.1 h
  cases h
  exact ⟨inner, hparse, rfl, rfl⟩

/-- A group is read from its content, as one token. -/
theorem run_group {delimiter : Delimiter} {value : α}
    (h : (group delimiter parse).run start = some (value, finish)) :
    ∃ content inner, start.rest = .group delimiter content :: finish.rest ∧
      parse.run { start with rest := content, printed := [] } = some (value, inner) ∧
      inner.rest = [] ∧ finish.met = inner.met := by
  simp only [group] at h
  obtain ⟨token, outer, htake, h⟩ := run_bind_eq_some.1 h
  obtain ⟨hrest, hmet⟩ := run_take_silently htake
  split at h
  · rename_i found content
    split at h
    · rename_i hfound
      obtain ⟨_, _, hget, h⟩ := run_bind_eq_some.1 h
      cases hget
      obtain ⟨_, _, hset, h⟩ := run_bind_eq_some.1 h
      cases hset
      obtain ⟨found, inner, hparse, h⟩ := run_bind_eq_some.1 h
      obtain ⟨_, _, hget, h⟩ := run_bind_eq_some.1 h
      cases hget
      split at h
      · rename_i hempty
        cases h
        refine ⟨content, inner, hfound ▸ hrest, ?_, List.isEmpty_iff.1 hempty, rfl⟩
        rw [← hmet]
        exact hparse
      · cases h
    · cases h
  · cases h

/-- What has been read since a state stays read, and what has been met since then is forgotten. -/
theorem run_verbatim_since {before : ParseState} {value : Unit}
    (h : (verbatimSince before).run start = some (value, finish)) :
    finish.rest = start.rest ∧ finish.met = before.met := by
  cases h
  exact ⟨rfl, rfl⟩

instance [h : Keeps forest relation parse] : Keeps forest relation (holdingPrinted parse) where
  leads hinside hrun := by
    obtain ⟨inner, hparse, hrest, hmet⟩ := run_holding_printed hrun
    obtain ⟨read, met, hleads, hkept⟩ := h.leads (by exact hinside) hparse
    exact ⟨read, met, ⟨hrest ▸ hleads.rest, hmet ▸ hleads.met⟩, hkept⟩

instance [Keeps forest relation parse] : Keeps forest relation (withPrinted parse) := by
  unfold withPrinted; infer_instance

instance [Keeps forest relation parse] : Keeps forest relation (silently parse) := by
  unfold silently; infer_instance

instance {delimiter : Delimiter} [h : Keeps forest relation parse] :
    Keeps forest relation (group delimiter parse) where
  leads {start _ _} hinside hrun := by
    obtain ⟨content, inner, hrest, hparse, hend, hmet⟩ := run_group hrun
    rw [hrest] at hinside
    obtain ⟨read, met, hleads, hkept⟩ := h.leads (by exact hinside.within) hparse
    have hread : content = read := by simpa [hend] using hleads.rest
    refine ⟨[.group delimiter content], met, ⟨hrest, hmet ▸ hleads.met⟩, ?_⟩
    rwa [TokenTree.names_of_singleton, TokenTree.names, hread]

/-! ## Going back to the start -/

/-- A parse may refer to a state that a run has gone through before. What has been read and met
since then is related afterwards if it was so before. -/
class KeepsSince (forest : List TokenTree) (relation : List Location → List Location → Prop)
    (start : ParseState) (parse : Parse α) : Prop where
  leads {middle finish : ParseState} {value : α} {read : List TokenTree} {met : List Outline}
    (hinside : Inside forest start.rest) (hleads : Leads start middle read met)
    (hkept : relation (Outline.namesOf met) (TokenTree.namesOf read))
    (hrun : parse.run middle = some (value, finish)) :
    ∃ read met, Leads start finish read met ∧
      relation (Outline.namesOf met) (TokenTree.namesOf read)

instance (priority := low) [h : Keeps forest relation parse] :
    KeepsSince forest relation start parse where
  leads hinside hleads hkept hrun := by
    obtain ⟨further, more, hthen, hkeptThen⟩ := h.leads (inside_of_leads hinside hleads) hrun
    refine ⟨_, _, leads_trans hleads hthen, ?_⟩
    rw [TokenTree.names_of_append, Outline.names_of_append]
    exact Additive.append hkept hkeptThen

instance {next : α → Parse β} [h : KeepsSince forest relation start parse]
    [hnext : ∀ value, KeepsSince forest relation start (next value)] :
    KeepsSince forest relation start (parse >>= next) where
  leads hinside hleads hkept hrun := by
    obtain ⟨first, _, hfirst, hsecond⟩ := run_bind_eq_some.1 hrun
    obtain ⟨_, _, hthen, hkeptThen⟩ := h.leads hinside hleads hkept hfirst
    exact (hnext first).leads hinside hthen hkeptThen hsecond

instance {condition : Prop} [Decidable condition] {other : Parse α}
    [KeepsSince forest relation start parse] [KeepsSince forest relation start other] :
    KeepsSince forest relation start (if condition then parse else other) := by
  split <;> infer_instance

instance : KeepsSince forest relation start (set start : Parse PUnit) where
  leads _ _ _ hrun := by
    cases hrun
    exact ⟨[], [], leads_unchanged rfl rfl, additive_none⟩

/-- What has been met since then is forgotten. -/
instance : KeepsSince forest relation start (verbatimSince start) where
  leads _ hleads _ hrun := by
    obtain ⟨hrest, hmet⟩ := run_verbatim_since hrun
    exact ⟨_, [], ⟨hrest ▸ hleads.rest, hmet⟩, additive_none⟩

theorem Keeps.from_start {next : ParseState → Parse α}
    (h : ∀ start, KeepsSince forest relation start (next start)) :
    Keeps forest relation (get >>= next) where
  leads {start _ _} hinside hrun := by
    obtain ⟨_, _, hget, hnext⟩ := run_bind_eq_some.1 hrun
    cases hget
    exact (h start).leads hinside (leads_unchanged rfl rfl) additive_none hnext

instance [Keeps forest relation parse] : Keeps forest relation (verbatim parse) :=
  .from_start fun _ => inferInstance

theorem Keeps.verbatim_if {parse : Parse Bool} (h : Keeps forest relation parse) :
    Keeps forest relation (verbatimIf parse) :=
  .from_start fun _ => inferInstance

instance {parse : Parse Bool} [h : Keeps forest relation parse] :
    Keeps forest relation (verbatimIf parse) :=
  h.verbatim_if

/-! ## Repetitions -/

theorem Keeps.repeat_up_to {parse : Parse Bool} (h : Keeps forest relation parse) (count : Nat) :
    Keeps forest relation (repeatUpTo parse count) := by
  induction count with
  | zero => unfold repeatUpTo; infer_instance
  | succ count ih => unfold repeatUpTo; infer_instance

instance {parse : Parse Bool} [h : Keeps forest relation parse] :
    Keeps forest relation (loop parse) :=
  .bind inferInstance fun _ => h.repeat_up_to _

theorem Keeps.gather_up_to {parse : Parse (Option (α × Bool))} (h : Keeps forest relation parse)
    (count : Nat) : Keeps forest relation (gatherUpTo parse count) := by
  induction count with
  | zero => unfold gatherUpTo; infer_instance
  | succ count ih =>
      unfold gatherUpTo
      refine .bind inferInstance fun found => ?_
      split <;> infer_instance

instance {parse : Parse (Option (α × Bool))} [h : Keeps forest relation parse] :
    Keeps forest relation (gather parse) :=
  .bind inferInstance fun _ => h.gather_up_to _

instance {item : Parse Unit} {separator : String} [Keeps forest relation item] :
    Keeps forest relation (terminated item separator) := by
  unfold terminated; infer_instance

instance [Keeps forest relation parse] : Keeps forest relation (gatherUntilEnd parse) := by
  unfold gatherUntilEnd; infer_instance

instance {item : Parse Unit} [Keeps forest relation item] :
    Keeps forest relation (untilEnd item) := by
  unfold untilEnd; infer_instance

end

end Parse

end NamingLint.Source
