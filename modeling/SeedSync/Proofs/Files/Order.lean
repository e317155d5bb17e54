import Mathlib
import SeedSync.Files.Path

/-!
The order of paths: component by component, and total. Paths that it does not tell apart have the
same components.
-/

namespace SeedSync.Path

lemma Component.compare_eq :
    Component.compare = compareLex (compareOn Component.rank) (compareOn Component.text) := by
  funext a b
  cases a <;> cases b <;> rfl

instance : Std.TransCmp Component.compare := by
  rw [Component.compare_eq]
  infer_instance

lemma Component.text_inj {a b : Component} (hrank : a.rank = b.rank) (htext : a.text = b.text) :
    a = b := by
  cases a <;> cases b <;> simp_all [Component.rank, Component.text]

instance : Std.LawfulEqCmp Component.compare where
  eq_of_compare h := by
    rw [Component.compare_eq, compareLex_eq_eq] at h
    exact Component.text_inj (compare_eq_iff_eq.mp h.1) (compare_eq_iff_eq.mp h.2)

lemma compareComponents_eq (as bs : List Component) :
    compareComponents as bs = List.compareLex Component.compare as bs := by
  fun_induction compareComponents as bs with
  | case1 | case2 | case3 => rfl
  | case4 a as b bs ih => rw [List.compareLex_cons_cons, ih]

lemma compare_eq (a b : String) :
    compare a b = List.compareLex Component.compare (components a) (components b) :=
  compareComponents_eq ..

instance : Std.TransCmp compare where
  eq_swap := by
    intro a b
    rw [compare_eq, compare_eq]
    exact Std.OrientedCmp.eq_swap
  isLE_trans := by
    intro a b c
    simp only [compare_eq]
    exact Std.TransCmp.isLE_trans

lemma same_iff {a b : String} : same a b = true ↔ components a = components b := beq_iff_eq

lemma compare_eq_eq_iff {a b : String} : compare a b = .eq ↔ same a b = true := by
  rw [compare_eq, Std.LawfulEqCmp.compare_eq_iff_eq, same_iff]

lemma same_eq_false_of_lt {a b c : String} (h : compare a b = .lt) (hc : same c a = true) :
    same c b = false := by
  rw [Bool.eq_false_iff]
  intro hb
  rw [compare_eq_eq_iff.mpr (same_iff.mpr ((same_iff.mp hc).symm.trans (same_iff.mp hb)))] at h
  cases h

end SeedSync.Path
