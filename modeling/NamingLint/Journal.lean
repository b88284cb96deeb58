import NamingLint.Failure

/-!
# Journals

A computation that may fail and that reports events on its way. Its result does not depend on the
events, and the events before a failure are kept.
-/

namespace NamingLint

/-- How much an event matters, in ascending order. -/
inductive EventLevel where
  | debug
  | info
  | warning
  deriving DecidableEq, Repr, Inhabited

/-- The activity that reports an event. -/
inductive EventOrigin where
  | configuration
  | rules
  | filter
  | analysis
  | sourceAnalysis
  deriving DecidableEq, Repr, Inhabited

/-- Something worth telling. -/
structure Event where
  level : EventLevel
  origin : EventOrigin
  text : String
  deriving DecidableEq, Repr, Inhabited

/-- A result or a failure, with the events that were reported on the way. -/
structure Journal (α : Type) where
  events : List Event := []
  result : Except Failure α

namespace Journal

/-- A result without events. -/
def pure {α : Type} (value : α) : Journal α :=
  ⟨[], .ok value⟩

/-- Go on with a result, or stop at a failure. -/
def bind {α β : Type} (journal : Journal α) (next : α → Journal β) : Journal β :=
  match journal.result with
  | .ok value => ⟨journal.events ++ (next value).events, (next value).result⟩
  | .error failure => ⟨journal.events, .error failure⟩

instance : Monad Journal where
  pure := Journal.pure
  bind := Journal.bind

/-- Report an event. -/
def report (level : EventLevel) (origin : EventOrigin) (text : String) : Journal Unit :=
  ⟨[⟨level, origin, text⟩], .ok ()⟩

/-- A result or a failure without events. -/
def ofExcept {α : Type} (result : Except Failure α) : Journal α :=
  ⟨[], result⟩

/-- Stop at a failure. -/
def fail {α : Type} (failure : Failure) : Journal α :=
  ⟨[], .error failure⟩

/-- Go on after a failure, with the failure in place of a result. -/
def attempt {α : Type} (journal : Journal α) : Journal (Except Failure α) :=
  ⟨journal.events, .ok journal.result⟩

@[simp] theorem result_pure {α : Type} (value : α) :
    (Pure.pure value : Journal α).result = .ok value := rfl

@[simp] theorem result_report (level : EventLevel) (origin : EventOrigin) (text : String) :
    (report level origin text).result = .ok () := rfl

@[simp] theorem result_ofExcept {α : Type} (result : Except Failure α) :
    (ofExcept result).result = result := rfl

@[simp] theorem result_fail {α : Type} (failure : Failure) :
    (fail failure : Journal α).result = .error failure := rfl

@[simp] theorem result_attempt {α : Type} (journal : Journal α) :
    journal.attempt.result = .ok journal.result := rfl

/-- The result of two computations in a row does not depend on their events. -/
@[simp] theorem result_bind {α β : Type} (journal : Journal α) (next : α → Journal β) :
    (journal >>= next).result = journal.result >>= fun value => (next value).result := by
  obtain ⟨events, result⟩ := journal
  cases result <;> rfl

@[simp] theorem ok_bind {α β : Type} (value : α) (next : α → Except Failure β) :
    (Except.ok value >>= next) = next value := rfl

@[simp] theorem error_bind {α β : Type} (failure : Failure) (next : α → Except Failure β) :
    ((Except.error failure : Except Failure α) >>= next) = .error failure := rfl

end Journal

end NamingLint
