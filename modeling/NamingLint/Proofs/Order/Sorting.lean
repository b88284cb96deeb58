import Mathlib.Data.List.Basic

/-!
# Stable sorting

To sort a list of which different elements may compare as equal is to fix more than the set of its
elements. `filter_merge_sort` says that sorting leaves elements that compare as equal in their
order, and `merge_sort_eq_of_filter_eq` that nothing else of the list matters: two lists that agree
on each class of such elements are the same once they are sorted.
-/

namespace NamingLint.Order

open Std (OrientedCmp ReflCmp TransCmp)

variable {α β : Type} {compare : α → α → Ordering}

/-- The first element does not come behind the second. -/
def upTo (compare : α → α → Ordering) (left right : α) : Bool :=
  compare left right != .gt

/-- The second element compares as equal to the first. -/
def ties (compare : α → α → Ordering) (left right : α) : Bool :=
  compare left right == .eq

theorem up_to_iff {left right : α} : upTo compare left right = true ↔
    (compare left right).isLE = true := by
  unfold upTo
  cases compare left right <;> decide

theorem ties_iff {left right : α} : ties compare left right = true ↔ compare left right = .eq :=
  beq_iff_eq

/-- Elements may be compared by what a function makes of them. -/
theorem trans_on {compare : β → β → Ordering} (h : TransCmp compare) (f : α → β) :
    TransCmp fun left right => compare (f left) (f right) where
  eq_swap := h.eq_swap
  isLE_trans := h.isLE_trans

variable [TransCmp compare]

theorem ties_self (element : α) : ties compare element element = true :=
  ties_iff.2 ReflCmp.compare_self

/-- Elements neither of which comes behind the other compare as equal. -/
theorem ties_of_up_to {left right : α} (h : upTo compare left right = true)
    (hback : upTo compare right left = true) : ties compare left right = true :=
  ties_iff.2 (OrientedCmp.isLE_antisymm (up_to_iff.1 h) (up_to_iff.1 hback))

theorem up_to_trans (first second third : α) (h : upTo compare first second = true)
    (hnext : upTo compare second third = true) : upTo compare first third = true :=
  up_to_iff.2 (TransCmp.isLE_trans (up_to_iff.1 h) (up_to_iff.1 hnext))

theorem up_to_total (left right : α) :
    (upTo compare left right || upTo compare right left) = true := by
  have hswap : compare right left = (compare left right).swap := OrientedCmp.eq_swap
  unfold upTo
  rw [hswap]
  cases compare left right <;> decide

theorem up_to_of_ties {element left right : α} (hleft : ties compare element left = true)
    (hright : ties compare element right = true) : upTo compare left right = true := by
  have hequal : compare left right = .eq :=
    TransCmp.eq_trans (OrientedCmp.eq_symm (ties_iff.1 hleft)) (ties_iff.1 hright)
  simp [upTo, hequal]

/-- Sorting leaves the elements that compare as equal to a given one in their order. -/
theorem filter_merge_sort (element : α) (elements : List α) :
    (elements.mergeSort (upTo compare)).filter (ties compare element) =
      elements.filter (ties compare element) := by
  have hascending :
      (elements.filter (ties compare element)).Pairwise fun a b => upTo compare a b = true :=
    List.pairwise_of_forall_mem_list fun a ha b hb =>
      up_to_of_ties (List.mem_filter.1 ha).2 (List.mem_filter.1 hb).2
  -- Stability keeps them as a sublist, and there are as many of them after sorting as before.
  have hkept : (elements.filter (ties compare element)).Sublist
      (elements.mergeSort (upTo compare)) :=
    List.sublist_mergeSort up_to_trans up_to_total hascending List.filter_sublist
  have hfiltered := hkept.filter (ties compare element)
  simp only [List.filter_filter, Bool.and_self] at hfiltered
  refine (hfiltered.eq_of_length ?_).symm
  exact ((List.mergeSort_perm elements _).filter _).length_eq.symm

/-- Two lists in ascending order are the same if they agree on each class of elements that compare
as equal. -/
theorem eq_of_filter_eq {left right : List α}
    (hleft : left.Pairwise fun a b => upTo compare a b = true)
    (hright : right.Pairwise fun a b => upTo compare a b = true)
    (h : ∀ element, left.filter (ties compare element) = right.filter (ties compare element)) :
    left = right := by
  induction left generalizing right with
  | nil =>
      cases right with
      | nil => rfl
      | cons b right =>
          have hb := h b
          rw [List.filter_cons_of_pos (ties_self b)] at hb
          cases hb
  | cons a left ih =>
      cases right with
      | nil =>
          have ha := h a
          rw [List.filter_cons_of_pos (ties_self a)] at ha
          cases ha
      | cons b right =>
          obtain ⟨hfirst, hleftRest⟩ := List.pairwise_cons.1 hleft
          obtain ⟨hsecond, hrightRest⟩ := List.pairwise_cons.1 hright
          -- Each head is an element of the other list, and so compares as equal to its head.
          have hmem {c : α} {one other : List α} (hc : c ∈ one)
              (hsame : one.filter (ties compare c) = other.filter (ties compare c)) : c ∈ other :=
            (List.mem_filter.1 (hsame ▸ List.mem_filter.2 ⟨hc, ties_self c⟩)).1
          have hab : upTo compare a b = true := by
            rcases List.mem_cons.1 (hmem List.mem_cons_self (h b).symm) with rfl | hb
            · exact up_to_of_ties (ties_self b) (ties_self b)
            · exact hfirst b hb
          have hba : upTo compare b a = true := by
            rcases List.mem_cons.1 (hmem List.mem_cons_self (h a)) with rfl | ha
            · exact up_to_of_ties (ties_self a) (ties_self a)
            · exact hsecond a ha
          have hheads := h a
          rw [List.filter_cons_of_pos (ties_self a),
            List.filter_cons_of_pos (ties_of_up_to hab hba)] at hheads
          obtain rfl : a = b := (List.cons.inj hheads).1
          refine congrArg (a :: ·) (ih hleftRest hrightRest fun element => ?_)
          have hboth := h element
          rw [List.filter_cons, List.filter_cons] at hboth
          split at hboth
          · exact (List.cons.inj hboth).2
          · exact hboth

/-- Lists that agree on each class of elements that compare as equal are the same once they are
sorted. -/
theorem merge_sort_eq_of_filter_eq {left right : List α}
    (h : ∀ element, left.filter (ties compare element) = right.filter (ties compare element)) :
    left.mergeSort (upTo compare) = right.mergeSort (upTo compare) := by
  refine eq_of_filter_eq (List.pairwise_mergeSort up_to_trans up_to_total _)
    (List.pairwise_mergeSort up_to_trans up_to_total _) fun element => ?_
  rw [filter_merge_sort, filter_merge_sort, h]

/-- Elements can be left out before or after sorting. -/
theorem merge_sort_filter (keep : α → Bool) (elements : List α) :
    (elements.mergeSort (upTo compare)).filter keep =
      (elements.filter keep).mergeSort (upTo compare) := by
  have hascending (list : List α) :
      (list.mergeSort (upTo compare)).Pairwise fun a b => upTo compare a b = true :=
    List.pairwise_mergeSort up_to_trans up_to_total list
  refine eq_of_filter_eq ((hascending elements).filter keep) (hascending _) fun element => ?_
  rw [filter_merge_sort, List.filter_comm, filter_merge_sort, List.filter_comm]

/-- A list put together from others does not depend on their order if only equal ones of them
contribute anything. -/
theorem flat_map_eq_of_perm {parts : α → List β} {left right : List α} (hperm : left.Perm right)
    (h : ∀ a ∈ left, ∀ b ∈ left, parts a ≠ [] → parts b ≠ [] → a = b) :
    left.flatMap parts = right.flatMap parts := by
  induction hperm with
  | nil => rfl
  | @cons a left right _ ih =>
      have hrest (b : α) (hb : b ∈ left) (c : α) (hc : c ∈ left) :=
        h b (List.mem_cons_of_mem a hb) c (List.mem_cons_of_mem a hc)
      rw [List.flatMap_cons, List.flatMap_cons, ih hrest]
  | swap a b rest =>
      rw [List.flatMap_cons, List.flatMap_cons, List.flatMap_cons, List.flatMap_cons,
        ← List.append_assoc, ← List.append_assoc]
      congr 1
      by_cases ha : parts a = []
      · rw [ha, List.append_nil, List.nil_append]
      by_cases hb : parts b = []
      · rw [hb, List.append_nil, List.nil_append]
      · rw [h a (by simp) b (by simp) ha hb]
  | @trans left middle right hfirst _ ih ihnext =>
      refine (ih h).trans (ihnext fun a ha b hb => ?_)
      exact h a (hfirst.mem_iff.2 ha) b (hfirst.mem_iff.2 hb)

end NamingLint.Order
