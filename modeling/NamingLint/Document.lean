/-!
# Documents

A document is what a text in a data format holds, before it is known what it has to describe. A
single value does not say what it is; it says how it may be read. The readers here answer nothing
where a document does not have the form that is asked for.
-/

namespace NamingLint

/-- The ways in which a single value may be read. -/
structure Scalar where
  text : Option String := none
  truth : Option Bool := none
  /-- A whole number that is not negative. -/
  number : Option Nat := none
  /-- The name of one of several alternatives. -/
  choice : Option String := none
  /-- The value stands for the absence of a value. -/
  isAbsent : Bool := false
  /-- Nothing is written at all, which also stands for an empty collection. -/
  isBlank : Bool := false
  deriving DecidableEq, Repr, Inhabited

/-- The content of a text in a data format. -/
inductive Document where
  | scalar (value : Scalar)
  | list (items : List Document)
  /-- Entries under keys; a key that is no text is missing. In some formats a record of one entry
  may also name an alternative. -/
  | record (entries : List (Option String × Document)) (choice : Option String)
  deriving Inhabited

/-- What is found for a field of a structure. -/
inductive Field where
  | found (document : Document)
  /-- A record lacks the field. -/
  | missing
  /-- A list that stands for a structure ends before the field. -/
  | beyond
  deriving Inhabited

namespace Document

/-- Read a text. -/
def text? : Document → Option String
  | scalar value => value.text
  | _ => none

/-- Read a truth value. -/
def truth? : Document → Option Bool
  | scalar value => value.truth
  | _ => none

/-- Read a number below a bound. -/
def natBelow? (bound : Nat) : Document → Option Nat
  | scalar value => value.number.filter (· < bound)
  | _ => none

/-- Read the name of an alternative. -/
def choice? : Document → Option String
  | scalar value => value.choice
  | record _ choice => choice
  | list _ => none

/-- Read a list, with a reader for its items. -/
def list? {α : Type} (read : Document → Option α) : Document → Option (List α)
  | list items => items.mapM read
  | scalar value => if value.isBlank then some [] else none
  | record _ _ => none

/-- Read a record with arbitrary keys, with a reader for its values. -/
def record? {α : Type} (read : Document → Option α) : Document → Option (List (String × α))
  | record entries _ => entries.mapM fun (key, value) => do return (← key, ← read value)
  | scalar value => if value.isBlank then some [] else none
  | list _ => none

/-- Read a value that may be absent. -/
def optional? {α : Type} (read : Document → Option α) : Document → Option (Option α)
  | scalar value => if value.isAbsent then some none else (read (scalar value)).map some
  | document => (read document).map some

/-- The values under a key. -/
def valuesOf (entries : List (Option String × Document)) (name : String) : List Document :=
  entries.filterMap fun (key, value) => if key = some name then some value else none

/-- The field of a record with this name; a record must not hold it twice. -/
def fieldOf? (entries : List (Option String × Document)) (name : String) : Option Field :=
  match valuesOf entries name with
  | [] => some .missing
  | [value] => some (.found value)
  | _ => none

/-- The fields of a structure with these names, in this order. A structure is written as a record,
which may hold other fields as well, or as a list of its fields. -/
def fields? (names : List String) : Document → Option (List Field)
  | record entries _ =>
    if entries.all fun entry => entry.1.isSome then names.mapM (fieldOf? entries) else none
  | list items =>
    if items.length ≤ names.length then
      some (items.map .found ++ List.replicate (names.length - items.length) .beyond)
    else none
  | scalar value => if value.isBlank then some (names.map fun _ => .missing) else none

end Document

namespace Field

/-- A field that has to be there. -/
def required {α : Type} (read : Document → Option α) : Field → Option α
  | found document => read document
  | _ => none

/-- A field whose value may be absent; a record may also lack it. -/
def optional {α : Type} (read : Document → Option α) : Field → Option (Option α)
  | found document => document.optional? read
  | missing => some none
  | beyond => none

/-- A field with a default. -/
def withDefault {α : Type} (default : α) (read : Document → Option α) : Field → Option α
  | found document => read document
  | _ => some default

end Field

end NamingLint
