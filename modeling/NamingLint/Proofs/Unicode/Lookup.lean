import Mathlib.Algebra.Group.Nat.Defs
import NamingLint.Unicode.Lookup

/-!
# Lookup in ascending tables

What the binary search finds. `last_at_most_of_split` gives the answer by the place of the entry in
the table, and `key_le_of_last_at_most` says what is known of an answer.
-/

namespace NamingLint.Unicode

variable {α : Type} {entries : Array α} {key : α → Nat} {bound : Nat}

/-- The keys of a table ascend. -/
def Ascending (entries : Array α) (key : α → Nat) : Prop :=
  entries.toList.Pairwise fun left right => key left < key right

theorem Ascending.key_lt (h : Ascending entries key) {i j : Nat} (hij : i < j)
    (hj : j < entries.size) : key entries[i] < key entries[j] :=
  List.pairwise_iff_getElem.1 h i j (Nat.lt_trans hij hj) hj hij

/-- The keys in front of a place are at most the bound, those from it on exceed the bound. -/
structure SplitsAt (entries : Array α) (key : α → Nat) (bound place : Nat) : Prop where
  le_size : place ≤ entries.size
  front : ∀ (i : Nat) (hi : i < entries.size), i < place → key entries[i] ≤ bound
  back : ∀ (i : Nat) (hi : i < entries.size), place ≤ i → bound < key entries[i]

/-- The search finds the place at which the keys come to exceed the bound, given as many halvings as
the window allows. -/
theorem search_window_splits (hascending : Ascending entries key) (steps : Nat) {lo hi : Nat}
    (hle : lo ≤ hi) (hsize : hi ≤ entries.size) (hsteps : hi - lo < 2 ^ steps)
    (hfront : ∀ (i : Nat) (h : i < entries.size), i < lo → key entries[i] ≤ bound)
    (hback : ∀ (i : Nat) (h : i < entries.size), hi ≤ i → bound < key entries[i]) :
    SplitsAt entries key bound (searchWindow entries key bound steps lo hi) := by
  induction steps generalizing lo hi with
  | zero =>
      obtain rfl : lo = hi := by simp only [Nat.pow_zero] at hsteps; omega
      exact ⟨hsize, hfront, hback⟩
  | succ steps ih =>
      rw [Nat.pow_succ] at hsteps
      by_cases hlt : lo < hi
      · have hmid : (lo + hi) / 2 < entries.size := by omega
        simp only [searchWindow, hlt, if_true, Array.getElem?_eq_getElem hmid]
        split
        · rename_i hkey
          refine ih (by omega) hsize (by omega) (fun i hin hplace => ?_) hback
          rcases Nat.lt_or_ge i ((lo + hi) / 2) with hbefore | hbefore
          · exact Nat.le_of_lt (Nat.lt_of_lt_of_le (hascending.key_lt hbefore hmid) hkey)
          · obtain rfl : i = (lo + hi) / 2 := by omega
            exact hkey
        · rename_i hkey
          refine ih (by omega) (by omega) (by omega) hfront fun i hin hplace => ?_
          rcases Nat.lt_or_ge ((lo + hi) / 2) i with hbehind | hbehind
          · exact Nat.lt_trans (Nat.lt_of_not_le hkey) (hascending.key_lt hbehind hin)
          · obtain rfl : i = (lo + hi) / 2 := by omega
            exact Nat.lt_of_not_le hkey
      · obtain rfl : lo = hi := by omega
        simp only [searchWindow, hlt, if_false]
        exact ⟨hsize, hfront, hback⟩

theorem count_at_most_splits (hascending : Ascending entries key) :
    SplitsAt entries key bound (countAtMost entries key bound) := by
  have hsteps : entries.size - 0 < 2 ^ (entries.size.log2 + 1) := Nat.lt_log2_self
  exact search_window_splits hascending _ (Nat.zero_le _) (Nat.le_refl _) hsteps
    (fun i _ hlt => absurd hlt (Nat.not_lt_zero i))
    (fun i hi hle => absurd hi (Nat.not_lt.2 hle))

/-- An entry whose key is at most the bound is found if the key behind it exceeds the bound. -/
theorem last_at_most_of_split (hascending : Ascending entries key) {front back : List α} {entry : α}
    (hentries : entries.toList = front ++ entry :: back) (hkey : key entry ≤ bound)
    (hnext : ∀ next ∈ back.head?, bound < key next) :
    lastAtMost? entries key bound = some entry := by
  have hsplits : SplitsAt entries key bound (countAtMost entries key bound) :=
    count_at_most_splits hascending
  obtain ⟨hsize, hfront, hback⟩ := hsplits
  have hplace (i : Nat) : entries[i]? = (front ++ entry :: back)[i]? := by
    rw [← Array.getElem?_toList, hentries]
  have hentry : entries[front.length]? = some entry := by simp [hplace]
  have hbehind : entries[front.length + 1]? = back.head? := by
    rw [hplace, List.getElem?_append_right (Nat.le_succ _)]
    simp [List.head?_eq_getElem?]
  obtain ⟨hin, hget⟩ := Array.getElem?_eq_some_iff.1 hentry
  -- The entry is the last of those in front of the place that the search finds.
  have hcount : countAtMost entries key bound = front.length + 1 := by
    refine Nat.le_antisymm (Nat.le_of_not_lt fun hgt => ?_) (Nat.lt_of_not_le fun hle => ?_)
    · have hnext_in : front.length + 1 < entries.size := by omega
      rw [Array.getElem?_eq_getElem hnext_in] at hbehind
      have hexceeds := hnext _ hbehind.symm
      have hwithin := hfront _ hnext_in hgt
      omega
    · have hexceeds := hback _ hin hle
      rw [hget] at hexceeds
      omega
  simp [lastAtMost?, hcount, hentry]

theorem mem_of_last_at_most {entry : α} (h : lastAtMost? entries key bound = some entry) :
    entry ∈ entries.toList := by
  unfold lastAtMost? at h
  split at h
  · cases h
  · exact Array.mem_toList_iff.2 (Array.mem_of_getElem? h)

/-- The key of an entry that is found is at most the bound. -/
theorem key_le_of_last_at_most (hascending : Ascending entries key) {entry : α}
    (h : lastAtMost? entries key bound = some entry) : key entry ≤ bound := by
  unfold lastAtMost? at h
  split at h
  · cases h
  · rename_i count hcount
    obtain ⟨hin, rfl⟩ := Array.getElem?_eq_some_iff.1 h
    exact (count_at_most_splits hascending).front count hin (by omega)

end NamingLint.Unicode
