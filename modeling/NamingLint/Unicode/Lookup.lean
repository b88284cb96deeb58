/-!
# Lookup in sorted tables

Character tables are arrays of entries in ascending order of a key. `countAtMost` counts by binary
search the entries whose key does not exceed a bound, and `lastAtMost` gives the last of them.
-/

namespace NamingLint.Unicode

/-- Halve the window `lo ≤ i < hi` until it is empty; the answer is the first index whose key
exceeds the bound, when the keys ascend. The first argument bounds the number of halvings. -/
def searchWindow {α : Type} (entries : Array α) (key : α → Nat) (bound : Nat) :
    Nat → Nat → Nat → Nat
  | 0, lo, _ => lo
  | steps + 1, lo, hi =>
    if lo < hi then
      let mid := (lo + hi) / 2
      match entries[mid]? with
      | none => lo
      | some entry =>
        if key entry ≤ bound then searchWindow entries key bound steps (mid + 1) hi
        else searchWindow entries key bound steps lo mid
    else lo

/-- The number of entries whose key is at most `bound`, for keys in ascending order. -/
def countAtMost {α : Type} (entries : Array α) (key : α → Nat) (bound : Nat) : Nat :=
  searchWindow entries key bound (entries.size.log2 + 1) 0 entries.size

/-- The last entry whose key is at most `bound`, for keys in ascending order. -/
def lastAtMost? {α : Type} (entries : Array α) (key : α → Nat) (bound : Nat) : Option α :=
  match countAtMost entries key bound with
  | 0 => none
  | count + 1 => entries[count]?

/-- Membership in a set given by the inclusive ranges that make it up, in ascending order. -/
def inRanges (ranges : Array (Nat × Nat)) (codePoint : Nat) : Bool :=
  match lastAtMost? ranges Prod.fst codePoint with
  | some (_, last) => codePoint ≤ last
  | none => false

end NamingLint.Unicode
