import Mathlib
import SeedSync.Event.Stats
import SeedSync.Proofs.Files.Order

/-!
Tallies of amounts by path, which are kept in the order of paths.
-/

namespace SeedSync.PathTally

/-- The sum of the amounts of a path, however it is spelled. -/
def amountOf (path : String) (amounts : List (String × ℕ)) : ℕ :=
  ((amounts.filter fun a => Path.same a.1 path).map Prod.snd).sum

/-- Each path that has amounts has one entry with their sum, and the entries are in order. -/
structure Sums (t : PathTally) (amounts : List (String × ℕ)) : Prop where
  ordered : t.Pairwise fun e e' => Path.compare e.1 e'.1 = .lt
  spelled : ∀ e ∈ t, ∃ a ∈ amounts, a.1 = e.1
  covers : ∀ a ∈ amounts, ∃ e ∈ t, Path.same a.1 e.1 = true
  sum : ∀ e ∈ t, e.2 = amountOf e.1 amounts

variable {t : PathTally} {amounts : List (String × ℕ)}

lemma amountOf_concat (path p : String) (n : ℕ) (amounts : List (String × ℕ)) :
    amountOf path (amounts ++ [(p, n)]) =
      amountOf path amounts + if Path.same p path then n else 0 := by
  simp only [amountOf, List.filter_append, List.map_append, List.sum_append]
  split_ifs with h <;> simp [h]

/-- An amount goes to the entry of its path, or else to a new one between those before it and those
behind it. -/
lemma exists_add (h : t.Pairwise fun e e' => Path.compare e.1 e'.1 = .lt) (path : String) (n : ℕ) :
    ∃ before q m after, t.add path n = before ++ (q, m + n) :: after ∧
      (t = before ++ (q, m) :: after ∨ t = before ++ after ∧ q = path ∧ m = 0) ∧
      Path.same path q = true ∧ (∀ e ∈ before, Path.compare e.1 q = .lt) ∧
      ∀ e ∈ after, Path.compare q e.1 = .lt := by
  induction t with
  | nil =>
    exact ⟨[], path, 0, [], by rw [add, Nat.zero_add]; rfl, .inr ⟨rfl, rfl, rfl⟩,
      Path.same_iff.mpr rfl, List.forall_mem_nil _, List.forall_mem_nil _⟩
  | cons e t ih =>
    obtain ⟨p, m⟩ := e
    obtain ⟨hp, ht⟩ := List.pairwise_cons.mp h
    rw [add]
    split
    · next hlt =>
      refine ⟨[], path, 0, (p, m) :: t, by rw [Nat.zero_add]; rfl, .inr ⟨rfl, rfl, rfl⟩,
        Path.same_iff.mpr rfl, List.forall_mem_nil _, List.forall_mem_cons.mpr ⟨hlt, ?_⟩⟩
      exact fun e he => Std.TransCmp.lt_trans hlt (hp e he)
    · next heq =>
      exact ⟨[], p, m, t, rfl, .inl rfl, Path.compare_eq_eq_iff.mp heq, List.forall_mem_nil _, hp⟩
    · next hgt =>
      obtain ⟨before, q, m', after, hadd, hold, hq, hbefore, hafter⟩ := ih ht
      have hlt : Path.compare p q = .lt := by
        have hpath : Path.compare path q = .eq := Path.compare_eq_eq_iff.mpr hq
        rw [← Std.TransCmp.congr_right hpath]
        exact Std.OrientedCmp.lt_of_gt hgt
      refine ⟨(p, m) :: before, q, m', after, by rw [hadd, List.cons_append], ?_, hq,
        List.forall_mem_cons.mpr ⟨hlt, hbefore⟩, hafter⟩
      rcases hold with rfl | ⟨rfl, hold⟩
      · exact .inl rfl
      · exact .inr ⟨rfl, hold⟩

lemma mem_middle {α : Type} {before after : List α} {x e : α} :
    e ∈ before ++ x :: after ↔ (e ∈ before ∨ e ∈ after) ∨ e = x := by
  rw [List.perm_middle.mem_iff, List.mem_cons, List.mem_append, or_comm]

namespace Sums

lemma nil : Sums [] [] :=
  ⟨.nil, List.forall_mem_nil _, List.forall_mem_nil _, List.forall_mem_nil _⟩

lemma add (h : t.Sums amounts) (path : String) (n : ℕ) :
    (t.add path n).Sums (amounts ++ [(path, n)]) := by
  obtain ⟨before, q, m, after, hadd, hold, hq, hbefore, hafter⟩ := exists_add h.ordered path n
  have hothers (e : String × ℕ) (he : e ∈ before ∨ e ∈ after) :
      e ∈ t ∧ Path.same path e.1 = false := by
    refine ⟨by rcases hold with rfl | ⟨rfl, -⟩ <;> rcases he with he | he <;> simp [he], ?_⟩
    rcases he with he | he
    · rw [Bool.eq_false_iff]
      intro hsame
      exact Bool.false_ne_true ((Path.same_eq_false_of_lt (hbefore e he) hsame).symm.trans hq)
    · exact Path.same_eq_false_of_lt (hafter e he) hq
  have hm : m = amountOf q amounts := by
    rcases hold with rfl | ⟨rfl, rfl, rfl⟩
    · exact h.sum (q, m) (by simp)
    · -- the path has had no amount so far
      have hnone : amounts.filter (fun a => Path.same a.1 q) = [] := by
        rw [List.filter_eq_nil_iff]
        intro a ha hsame
        obtain ⟨e, he, hae⟩ := h.covers a ha
        have hne := (hothers e (List.mem_append.mp he)).2
        rw [Path.same_iff.mpr ((Path.same_iff.mp hsame).symm.trans (Path.same_iff.mp hae))] at hne
        cases hne
      rw [amountOf, hnone]
      rfl
  have hpart : (before ++ after).Sublist t := by
    rcases hold with rfl | ⟨rfl, -⟩
    · exact (List.Sublist.refl before).append (List.sublist_cons_self ..)
    · exact .refl _
  have hsorted := List.pairwise_append.mp (h.ordered.sublist hpart)
  rw [hadd]
  refine ⟨?_, fun e he => ?_, fun a ha => ?_, fun e he => ?_⟩
  · refine List.pairwise_append.mpr ⟨hsorted.1, List.pairwise_cons.mpr ⟨hafter, hsorted.2.1⟩, ?_⟩
    intro e he
    exact List.forall_mem_cons.mpr ⟨hbefore e he, hsorted.2.2 e he⟩
  · rcases mem_middle.mp he with he | rfl
    · obtain ⟨a, ha, hae⟩ := h.spelled e (hothers e he).1
      exact ⟨a, List.mem_append_left _ ha, hae⟩
    · rcases hold with rfl | ⟨rfl, rfl, rfl⟩
      · obtain ⟨a, ha, haq⟩ := h.spelled (q, m) (by simp)
        exact ⟨a, List.mem_append_left _ ha, haq⟩
      · exact ⟨(q, n), by simp, rfl⟩
  · rcases List.mem_append.mp ha with ha | ha
    · obtain ⟨e, he, hae⟩ := h.covers a ha
      rcases hold with rfl | ⟨rfl, -⟩
      · rcases mem_middle.mp he with he | rfl
        · exact ⟨e, mem_middle.mpr (.inl he), hae⟩
        · exact ⟨(q, m + n), by simp, hae⟩
      · exact ⟨e, mem_middle.mpr (.inl (List.mem_append.mp he)), hae⟩
    · obtain rfl := List.mem_singleton.mp ha
      exact ⟨(q, m + n), by simp, hq⟩
  · rw [amountOf_concat]
    rcases mem_middle.mp he with he | rfl
    · obtain ⟨het, hne⟩ := hothers e he
      rw [hne, if_neg Bool.false_ne_true, Nat.add_zero, h.sum e het]
    · rw [hq, if_pos rfl, hm]

end Sums

end SeedSync.PathTally
