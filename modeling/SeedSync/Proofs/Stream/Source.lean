import Mathlib
import SeedSync.Stream.Source

/-!
What a read of a source gives, whatever its turns: while there are bytes, some of them, and then
what lies behind them.
-/

namespace SeedSync.Source

lemma give_of_ne_nil {s : Source} (n : ℕ) (h : s.rest ≠ []) :
    s.give n = (.ok (s.rest.take n), { s with rest := s.rest.drop n }) := by
  obtain ⟨rest, turns, ending⟩ := s
  cases rest with
  | nil => exact absurd rfl h
  | cons b bs => rfl

lemma give_of_nil {s : Source} (n : ℕ) (h : s.rest = []) :
    s.give n = ((s.ending.elim (.ok []) .error), s) := by
  obtain ⟨rest, turns, ending⟩ := s
  subst h
  cases ending <;> simp [give]

lemma exists_readOn_eq_give (s : Source) (n : ℕ) :
    ∃ k ts, s.readOn n = { s with turns := ts }.give k ∧ k ≤ n ∧ (0 < n → 0 < k) ∧
      ts <:+ s.turns := by
  have hsuffix := List.dropWhile_suffix (l := s.turns) (· == Turn.interrupted)
  unfold readOn read
  split
  · exact ⟨n, _, rfl, le_rfl, id, hsuffix⟩
  · next ts h =>
    have := List.head?_dropWhile_not (· == Turn.interrupted) s.turns
    simp only at h
    rw [h] at this
    simp at this
  · next k ts h =>
    dsimp only at h
    rw [h] at hsuffix
    exact ⟨min n (max k 1), ts, rfl, min_le_left _ _, by omega,
      (List.suffix_cons _ _).trans hsuffix⟩

lemma exists_rest_readOn (s : Source) (n : ℕ) :
    (∃ gone, s.rest = gone ++ (s.readOn n).2.rest) ∧ (s.readOn n).2.ending = s.ending ∧
      (s.readOn n).2.turns <:+ s.turns := by
  obtain ⟨k, ts, hr, -, -, hts⟩ := s.exists_readOn_eq_give n
  rw [hr]
  by_cases h : s.rest = []
  · rw [give_of_nil k (by exact h)]
    exact ⟨⟨[], rfl⟩, rfl, hts⟩
  · rw [give_of_ne_nil k (by exact h)]
    exact ⟨⟨s.rest.take k, (List.take_append_drop k s.rest).symm⟩, rfl, hts⟩

lemma exists_readOn_of_ne_nil {s : Source} {n : ℕ} (hn : 0 < n) (h : s.rest ≠ []) :
    ∃ bs t, s.readOn n = (.ok bs, t) ∧ bs ≠ [] ∧ bs.length ≤ n ∧ s.rest = bs ++ t.rest ∧
      t.ending = s.ending := by
  obtain ⟨k, ts, hr, hk, hpos, -⟩ := s.exists_readOn_eq_give n
  rw [give_of_ne_nil k (by exact h)] at hr
  refine ⟨_, _, hr, ?_, ?_, (List.take_append_drop k s.rest).symm, rfl⟩
  · have := hpos hn
    simp only [ne_eq, List.take_eq_nil_iff]
    exact not_or.mpr ⟨by omega, h⟩
  · simp only [List.length_take]
    omega

lemma exists_readOn_of_nil {s : Source} (n : ℕ) (h : s.rest = []) :
    ∃ t, s.readOn n = (s.ending.elim (.ok []) .error, t) ∧ t.rest = [] ∧
      t.ending = s.ending := by
  obtain ⟨k, ts, hr, -⟩ := s.exists_readOn_eq_give n
  rw [give_of_nil k (by exact h)] at hr
  exact ⟨_, hr, h, rfl⟩

/-! ### Interruptions -/

/-- How often a source may still be interrupted. -/
def interruptions (s : Source) : ℕ := s.turns.count .interrupted

lemma exists_turns_of_isInterrupted {s : Source} (h : s.isInterrupted = true) :
    ∃ ts, s.turns = .interrupted :: ts := by
  obtain ⟨ts, hts⟩ := List.head?_eq_some_iff.mp (beq_iff_eq.mp h)
  exact ⟨ts, hts⟩

/-- A read that waits goes on where an interruption has left off. -/
lemma readOn_of_isInterrupted {s : Source} (h : s.isInterrupted = true) (n : ℕ) :
    { s with turns := s.turns.tail }.readOn n = s.readOn n := by
  obtain ⟨ts, hts⟩ := exists_turns_of_isInterrupted h
  rw [readOn, readOn, hts]
  rfl

end SeedSync.Source
