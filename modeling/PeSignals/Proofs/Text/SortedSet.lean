import Mathlib
import PeSignals.Text.SortedSet

/-!
# The members of a sorted set

A sorted set has the members of the list it was made of and holds them in strictly rising order, so two
lists with the same members make the same set.
-/
namespace PeSignals.Text

theorem notAfter_iff {a b : String} : notAfter a b = true ↔ a ≤ b := by
  rw [notAfter, Bool.not_eq_true', decide_eq_false_iff_not, not_lt]

@[simp] theorem sortedSet_nil : sortedSet [] = [] := by
  rw [sortedSet, List.mergeSort_nil]
  rfl

theorem mem_dropRepeats {a : String} {texts : List String} :
    a ∈ dropRepeats texts ↔ a ∈ texts := by
  fun_induction dropRepeats texts with
  | case1 => rfl
  | case2 b => rfl
  | case3 b rest ih => simp [ih]
  | case4 b c rest hne ih => rw [List.mem_cons, ih, List.mem_cons (l := c :: rest)]

theorem mem_sortedSet {a : String} {texts : List String} : a ∈ sortedSet texts ↔ a ∈ texts := by
  rw [sortedSet, mem_dropRepeats, List.mem_mergeSort]

theorem pairwise_dropRepeats {texts : List String} (h : texts.Pairwise (· ≤ ·)) :
    (dropRepeats texts).Pairwise (· < ·) := by
  fun_induction dropRepeats texts with
  | case1 => exact List.Pairwise.nil
  | case2 b => exact List.pairwise_singleton _ b
  | case3 b rest ih => exact ih h.of_cons
  | case4 b c rest hne ih =>
    refine List.pairwise_cons.mpr ⟨fun d hd => ?_, ih h.of_cons⟩
    have hbelow := (List.pairwise_cons.mp h).1
    have hbc := lt_of_le_of_ne (hbelow c List.mem_cons_self) hne
    rcases List.mem_cons.mp (mem_dropRepeats.mp hd) with rfl | hrest
    · exact hbc
    · exact hbc.trans_le ((List.pairwise_cons.mp h.of_cons).1 d hrest)

theorem pairwise_mergeSort (texts : List String) : (texts.mergeSort notAfter).Pairwise (· ≤ ·) := by
  have htrans (a b c : String) (hab : notAfter a b = true) (hbc : notAfter b c = true) :
      notAfter a c = true :=
    notAfter_iff.mpr ((notAfter_iff.mp hab).trans (notAfter_iff.mp hbc))
  have htotal (a b : String) : (notAfter a b || notAfter b a) = true := by
    rw [Bool.or_eq_true, notAfter_iff, notAfter_iff]
    exact le_total a b
  exact (List.pairwise_mergeSort htrans htotal texts).imp notAfter_iff.mp

/-- Members of a sorted set rise strictly, so none of them is repeated. -/
theorem pairwise_sortedSet (texts : List String) : (sortedSet texts).Pairwise (· < ·) :=
  pairwise_dropRepeats (pairwise_mergeSort texts)

end PeSignals.Text
