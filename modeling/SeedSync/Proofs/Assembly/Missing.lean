import Mathlib
import SeedSync.Proofs.Assembly.Operations
import SeedSync.Proofs.Transfer.ByteRange

/-!
The ranges of the missing bytes: they cover the missing blocks and no others, and the assembly
takes each of them.
-/

namespace SeedSync.Assembly

/-! ### Runs of missing blocks -/

lemma getD_lt_succ {first : Option ℕ} {i : ℕ} (hfirst : ∀ f ∈ first, f < i) :
    ∀ f ∈ some (first.getD i), f < i + 1 := by
  rintro f hf
  obtain rfl := Option.some.inj hf
  cases first with
  | none => simp
  | some f => exact (hfirst f rfl).trans (Nat.lt_succ_self i)

lemma bounds_of_mem_missingRuns {l : List Bool} {i : ℕ} {first : Option ℕ} {r : ℕ × ℕ}
    (h : r ∈ missingRuns i first l) (hfirst : ∀ f ∈ first, f < i) :
    r.1 < r.2 ∧ r.2 ≤ i + l.length := by
  induction l generalizing i first with
  | nil =>
    obtain ⟨f, hf, rfl⟩ := by simpa [missingRuns] using h
    exact ⟨hfirst f hf, le_rfl⟩
  | cons done l ih =>
    rw [List.length_cons]
    cases done with
    | false =>
      have := ih (by simpa [missingRuns] using h) (getD_lt_succ hfirst)
      omega
    | true =>
      rw [missingRuns, List.mem_append] at h
      rcases h with h | h
      · obtain ⟨f, hf, rfl⟩ := by simpa using h
        exact ⟨hfirst f hf, by simp⟩
      · have := ih h (by simp)
        omega

/-- The runs cover the missing blocks, and what was under way before. -/
lemma covered_by_missingRuns {l : List Bool} {i j : ℕ} {first : Option ℕ}
    (hfirst : ∀ f ∈ first, f < i) : (∃ r ∈ missingRuns i first l, r.1 ≤ j ∧ j < r.2) ↔
      (∃ f ∈ first, f ≤ j ∧ j < i) ∨ i ≤ j ∧ l[j - i]? = some false := by
  induction l generalizing i first with
  | nil => cases first <;> simp [missingRuns]
  | cons done l ih =>
    have hget (hij : i < j) : (done :: l)[j - i]? = l[j - (i + 1)]? := by
      rw [show j - i = j - (i + 1) + 1 by omega, List.getElem?_cons_succ]
    cases done with
    | false =>
      -- a missing block goes on with the run, or begins one
      rw [missingRuns, ih (getD_lt_succ hfirst)]
      rcases Nat.lt_trichotomy j i with hlt | rfl | hlt
      · cases first with
        | none => simp; omega
        | some f => simp; omega
      · cases first with
        | none => simp
        | some f => simpa using (hfirst f rfl).le
      · rw [hget hlt]
        have hno (f : ℕ) : ¬ (f ≤ j ∧ j < i) := by omega
        simp [hno, hlt, hlt.le]
    | true =>
      -- a complete one ends it
      have hover : (∃ r ∈ (first.map fun f => (f, i)).toList, r.1 ≤ j ∧ j < r.2) ↔
          ∃ f ∈ first, f ≤ j ∧ j < i := by
        simp
      simp only [missingRuns, List.mem_append, or_and_right, exists_or]
      rw [hover, ih (by simp)]
      refine or_congr_right ?_
      rcases Nat.lt_trichotomy j i with hlt | rfl | hlt
      · simp; omega
      · simp
      · rw [hget hlt]
        simp [hlt, hlt.le]

lemma le_of_mem_missingRuns {l : List Bool} {i : ℕ} {first : Option ℕ} {r : ℕ × ℕ}
    (h : r ∈ missingRuns i first l) (hfirst : ∀ f ∈ first, f < i) : first.getD i ≤ r.1 := by
  induction l generalizing i first with
  | nil =>
    obtain ⟨f, rfl, rfl⟩ := by simpa [missingRuns] using h
    exact le_rfl
  | cons done l ih =>
    cases done with
    | false =>
      have hrest : r ∈ missingRuns (i + 1) (some (first.getD i)) l := h
      simpa using ih hrest (getD_lt_succ hfirst)
    | true =>
      rw [missingRuns, List.mem_append] at h
      rcases h with h | h
      · obtain ⟨f, rfl, rfl⟩ := by simpa using h
        exact le_rfl
      · have hbegun : first.getD i < i + 1 := getD_lt_succ hfirst _ rfl
        have hle := ih h (by simp)
        exact hbegun.le.trans hle

lemma pairwise_missingRuns (l : List Bool) (i : ℕ) (first : Option ℕ) :
    (missingRuns i first l).Pairwise fun x y => x.2 < y.1 := by
  induction l generalizing i first with
  | nil => cases first <;> simp [missingRuns]
  | cons done l ih =>
    cases done with
    | false => exact ih (i + 1) _
    | true =>
      rw [missingRuns, List.pairwise_append]
      refine ⟨by cases first <;> simp, ih (i + 1) none, fun x hx y hy => ?_⟩
      obtain ⟨f, -, rfl⟩ := by simpa using hx
      exact Nat.lt_of_succ_le (le_of_mem_missingRuns hy (by simp))

lemma flatMap_missingRuns (l : List Bool) {i : ℕ} {first : Option ℕ}
    (hfirst : ∀ f ∈ first, f < i) :
    ((missingRuns i first l).flatMap fun r => List.range' r.1 (r.2 - r.1)) =
      List.range' (first.getD i) (i - first.getD i) ++
        (List.range' i l.length).filter fun j => l[j - i]? == some false := by
  have hunder (i : ℕ) (first : Option ℕ) : ((first.map fun f => (f, i)).toList.flatMap
      fun r => List.range' r.1 (r.2 - r.1)) = List.range' (first.getD i) (i - first.getD i) := by
    cases first <;> simp
  induction l generalizing i first with
  | nil =>
    rw [missingRuns, hunder]
    simp
  | cons done l ih =>
    have htail :
        ((List.range' (i + 1) l.length).filter fun j => (done :: l)[j - i]? == some false) =
        (List.range' (i + 1) l.length).filter fun j => l[j - (i + 1)]? == some false := by
      refine List.filter_congr fun j hj => ?_
      have := (List.mem_range'_1.mp hj).1
      rw [show j - i = j - (i + 1) + 1 by omega, List.getElem?_cons_succ]
    rw [List.length_cons, List.range'_succ, List.filter_cons, htail, Nat.sub_self,
      List.getElem?_cons_zero]
    cases done with
    | false =>
      have hbegun : first.getD i ≤ i := Nat.lt_succ_iff.mp (getD_lt_succ hfirst _ rfl)
      have hend : first.getD i + 1 * (i - first.getD i) = i := by omega
      rw [missingRuns, ih (getD_lt_succ hfirst), Option.getD_some, if_pos (by simp),
        Nat.sub_add_comm hbegun, List.range'_concat, hend, List.append_assoc]
      rfl
    | true =>
      rw [missingRuns, List.flatMap_append, hunder, ih (by simp), if_neg (by simp)]
      simp

example : missingRuns 0 none [false, false, true, false] = [(0, 2), (3, 4)] := by decide

/-! ### Ranges of whole blocks -/

/-- The range holds the blocks from `f` up to but not with `s`. -/
structure Spans (h : Header) (r : ByteRange) (f s : ℕ) : Prop where
  lt : f < s
  le : s ≤ h.numBlocks
  first : r.first = h.blockOffset f
  last : r.last + 1 = min (h.blockOffset s) h.length

variable {a : Assembly} {r : ByteRange} {f s : ℕ}

namespace Spans

lemma first_div (hr : Spans a.header r f s) (h : Sound a) : r.first / a.header.blockSize = f := by
  rw [hr.first, Header.blockOffset, Nat.mul_div_cancel _ h.pos]

lemma last_div (hr : Spans a.header r f s) (h : Sound a) :
    r.last / a.header.blockSize + 1 = s := by
  obtain ⟨hlt, hle, -, hlast⟩ := hr
  obtain ⟨k, rfl⟩ : ∃ k, s = k + 1 := ⟨s - 1, by omega⟩
  have hprev := (Header.lt_numBlocks_iff h.pos).mp (show k < a.header.numBlocks by omega)
  have hnext := Header.blockOffset_succ a.header k
  have hpos := h.pos
  rw [Nat.div_eq_of_lt_le (k := k)]
  · rw [← Header.blockOffset]
    omega
  · rw [← Header.blockOffset]
    omega

lemma unique {f' s' : ℕ} (hr : Spans a.header r f s) (hr' : Spans a.header r f' s') (h : Sound a) :
    f' = f ∧ s' = s :=
  ⟨(hr'.first_div h).symm.trans (hr.first_div h), (hr'.last_div h).symm.trans (hr.last_div h)⟩

lemma order {h : Header} (hr : Spans h r f s) (hb : 0 < h.blockSize) : r.first ≤ r.last := by
  have hfirst := hr.first
  have hlast := hr.last
  have hbegin := (Header.lt_numBlocks_iff hb).mp (hr.lt.trans_le hr.le)
  have hnext := Header.blockOffset_succ h f
  have hoff := Header.blockOffset_mono (h := h) (show f + 1 ≤ s from hr.lt)
  omega

lemma first_le_last (hr : Spans a.header r f s) (h : Sound a) : r.first ≤ r.last := hr.order h.pos

lemma length_eq {h : Header} (hr : Spans h r f s) (hb : 0 < h.blockSize) :
    r.length = r.last - r.first + 1 := by
  have hlast := hr.last
  have hlength := h.length_lt
  exact r.length_eq_extent (hr.order hb) (by rw [ByteRange.extent]; omega)

lemma stop_eq {h : Header} (hr : Spans h r f s) : r.stop = r.last + 1 := by
  have hlast := hr.last
  have hlength := h.length_lt
  exact r.stop_eq (by omega)

lemma sum_blockLength (hr : Spans a.header r f s) (h : Sound a) :
    ((List.range' f (s - f)).map a.header.blockLength).sum = r.length := by
  have horder := hr.first_le_last h
  have hlength := hr.length_eq h.pos
  obtain ⟨hlt, hle, hfirst, hlast⟩ := hr
  have hsum := Header.blockOffset_add_sum h.pos (hlt.trans_le hle) (k := s - f) (by omega)
  rw [Nat.add_sub_cancel' hlt.le] at hsum
  omega

lemma isAligned (hr : Spans a.header r f s) : a.isAligned r = true := by
  have hlast := hr.last
  rw [isAligned_iff]
  refine ⟨?_, ?_, by omega⟩
  · rw [hr.first, Header.blockOffset, Nat.mul_mod_left]
  · rw [hlast]
    rcases le_total (a.header.blockOffset s) a.header.length with hle | hle
    · exact .inl (by rw [min_eq_left hle, Header.blockOffset, Nat.mul_mod_left])
    · exact .inr (min_eq_right hle)

end Spans

lemma Sound.spans_of_mem_missingRuns (h : Sound a)
    (hx : (f, s) ∈ missingRuns 0 none a.completed.toList) :
    Spans a.header ⟨a.blockOffset f, min (a.blockOffset s) a.header.length - 1⟩ f s := by
  obtain ⟨hlt, hle⟩ := bounds_of_mem_missingRuns hx (by simp)
  rw [Array.length_toList, h.completed, Nat.zero_add] at hle
  have hoff : 0 < a.header.blockOffset s := Nat.mul_pos (by omega) h.pos
  have hlen := (Header.lt_numBlocks_iff h.pos).mp (show f < a.header.numBlocks by omega)
  exact ⟨hlt, hle, rfl, by simp only [blockOffset_eq]; omega⟩

lemma mem_missingRuns_iff (h : Sound a) {i : ℕ} (hi : i < a.header.numBlocks) :
    (∃ x ∈ missingRuns 0 none a.completed.toList, x.1 ≤ i ∧ i < x.2) ↔
      a.isBlockComplete i = false := by
  rw [covered_by_missingRuns (by simp), Array.getElem?_toList, Nat.sub_zero,
    h.getElem?_completed hi]
  simp

/-- Each range of missing bytes holds whole blocks. -/
lemma Sound.exists_spans (h : Sound a) (hr : r ∈ a.missingRanges) :
    ∃ f s, Spans a.header r f s := by
  obtain ⟨⟨f, s⟩, hmem, rfl⟩ := List.mem_map.mp hr
  exact ⟨f, s, h.spans_of_mem_missingRuns hmem⟩

lemma Sound.pairwise_missingRanges (h : Sound a) :
    a.missingRanges.Pairwise fun q r => q.last + 1 < r.first := by
  rw [missingRanges, List.pairwise_map]
  refine (pairwise_missingRuns _ _ _).imp_of_mem fun {x y} hx hy hxy => ?_
  have hq := (h.spans_of_mem_missingRuns hx).last
  have hr := (h.spans_of_mem_missingRuns hy).first
  have hnext := Header.blockOffset_succ a.header x.2
  have hoff := Header.blockOffset_mono (h := a.header) (show x.2 + 1 ≤ y.1 from hxy)
  have hpos := h.pos
  dsimp only at hq hr ⊢
  omega

lemma Sound.exists_missingRange (h : Sound a) {i : ℕ} (hi : i < a.header.numBlocks)
    (hm : a.isBlockComplete i = false) : ∃ r ∈ a.missingRanges,
      ∃ f s, Spans a.header r f s ∧ f ≤ i ∧ i < s := by
  obtain ⟨⟨f, s⟩, hmem, hin⟩ := (mem_missingRuns_iff h hi).mpr hm
  exact ⟨_, List.mem_map.mpr ⟨_, hmem, rfl⟩, f, s, h.spans_of_mem_missingRuns hmem, hin⟩

/-- The bytes of the file that are in one of them are those of the missing blocks. -/
lemma Sound.mem_missingRanges_iff (h : Sound a) {x : ℕ} (hx : x < a.header.length) :
    (∃ r ∈ a.missingRanges, r.first ≤ x ∧ x ≤ r.last) ↔
      a.isBlockComplete (x / a.header.blockSize) = false := by
  have hi := Header.div_lt_numBlocks h.pos hx
  obtain ⟨hle, hlt⟩ := Header.mem_block_div h.pos hx
  constructor
  · rintro ⟨r, hr, hfirst, hlast⟩
    obtain ⟨⟨f, s⟩, hmem, rfl⟩ := List.mem_map.mp hr
    have hspans := h.spans_of_mem_missingRuns hmem
    refine (mem_missingRuns_iff h hi).mp ⟨(f, s), hmem, ?_, ?_⟩
    · rw [← hspans.first_div h]
      exact Nat.div_le_div_right hfirst
    · rw [← hspans.last_div h]
      exact Nat.lt_succ_of_le (Nat.div_le_div_right hlast)
  · intro hm
    obtain ⟨r, hr, f, s, hspans, hfi, his⟩ := h.exists_missingRange hi hm
    have hfirst := hspans.first
    have hlast := hspans.last
    have hbegin := Header.blockOffset_mono (h := a.header) hfi
    have hend := Header.blockOffset_add_blockLength h.pos hi
    have hnext : x / a.header.blockSize + 1 ≤ s := his
    have hstop := Header.blockOffset_mono (h := a.header) hnext
    exact ⟨r, hr, by omega, by omega⟩

lemma Sound.flatMap_missingRuns (h : Sound a) :
    ((missingRuns 0 none a.completed.toList).flatMap fun r => List.range' r.1 (r.2 - r.1)) =
      (List.range a.header.numBlocks).filter fun i => !a.isBlockComplete i := by
  rw [Assembly.flatMap_missingRuns _ (by simp), Array.length_toList, h.completed,
    ← List.range_eq_range']
  refine List.filter_congr fun i hi => ?_
  rw [Nat.sub_zero, Array.getElem?_toList, h.getElem?_completed (List.mem_range.mp hi)]
  cases a.isBlockComplete i <;> rfl

lemma Sound.missingBytes_eq (h : Sound a) : a.missingBytes =
    (((List.range a.header.numBlocks).filter fun i => !a.isBlockComplete i).map
      a.header.blockLength).sum := by
  rw [← h.flatMap_missingRuns, List.map_flatMap, List.flatMap_def, List.sum_flatten, List.map_map,
    missingBytes, missingRanges, List.map_map]
  refine congrArg List.sum (List.map_congr_left fun x hx => ?_)
  exact ((h.spans_of_mem_missingRuns hx).sum_blockLength h).symm

lemma Sound.missingRanges_eq_nil (h : Sound a)
    (hall : ∀ i < a.header.numBlocks, a.isBlockComplete i = true) : a.missingRanges = [] := by
  rw [missingRanges, List.map_eq_nil_iff, List.eq_nil_iff_forall_not_mem]
  rintro ⟨f, s⟩ hmem
  obtain ⟨hlt, hle, -, -⟩ := h.spans_of_mem_missingRuns hmem
  have hf : f < a.header.numBlocks := by omega
  have hm := (mem_missingRuns_iff h hf).mp ⟨_, hmem, le_rfl, hlt⟩
  rw [hall f hf] at hm
  cases hm

lemma Sound.missingRanges_ne_nil (h : Sound a) (hmissing : a.isComplete = false) :
    a.missingRanges ≠ [] := by
  intro hnil
  rw [Bool.eq_false_iff, ne_eq, isComplete_iff h] at hmissing
  refine hmissing fun i hi => ?_
  by_contra hm
  obtain ⟨r, hr, -⟩ := h.exists_missingRange hi (Bool.eq_false_iff.mpr hm)
  rw [hnil] at hr
  cases hr

end SeedSync.Assembly
