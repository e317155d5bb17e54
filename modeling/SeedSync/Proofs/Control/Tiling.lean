import Mathlib
import SeedSync.Control.Header

/-!
The blocks of a target tile it: each begins where the one before it ends, the last one ends with
the target, and none is empty.
-/

namespace SeedSync.Header

variable {h : Header} {i j : ℕ}

def blockOffset (h : Header) (i : ℕ) : ℕ := i * h.blockSize

/-- The length of block `i`: that of all blocks, but the last one may be shorter. -/
def blockLength (h : Header) (i : ℕ) : ℕ :=
  if i + 1 = h.numBlocks then h.lastBlockSize else h.blockSize

lemma numBlocks_eq_of_pos (hb : 0 < h.blockSize) (hl : 0 < h.length) :
    h.numBlocks = (h.length - 1) / h.blockSize + 1 := by
  rw [numBlocks, show h.length + h.blockSize - 1 = h.length - 1 + h.blockSize by omega,
    Nat.add_div_right _ hb]

lemma numBlocks_eq_zero (hb : 0 < h.blockSize) (hl : h.length = 0) : h.numBlocks = 0 := by
  rw [numBlocks, hl, Nat.zero_add]
  exact Nat.div_eq_of_lt (by omega)

lemma lt_numBlocks_iff (hb : 0 < h.blockSize) : i < h.numBlocks ↔ h.blockOffset i < h.length := by
  rcases Nat.eq_zero_or_pos h.length with hl | hl
  · rw [numBlocks_eq_zero hb hl, hl]
    simp
  · rw [numBlocks_eq_of_pos hb hl, Nat.lt_succ_iff, Nat.le_div_iff_mul_le hb, blockOffset]
    omega

lemma numBlocks_eq_zero_iff (hb : 0 < h.blockSize) : h.numBlocks = 0 ↔ h.length = 0 := by
  refine ⟨fun hn => ?_, numBlocks_eq_zero hb⟩
  have hno := mt (lt_numBlocks_iff (i := 0) hb).mpr (by omega)
  rw [blockOffset, Nat.zero_mul] at hno
  omega

lemma blockLength_of_succ_lt (hi : i + 1 < h.numBlocks) : h.blockLength i = h.blockSize :=
  if_neg (by omega)

lemma blockOffset_add_of_last (hb : 0 < h.blockSize) (hi : i + 1 = h.numBlocks) :
    h.blockOffset i + h.blockLength i = h.length := by
  have hl : 0 < h.length := by
    by_contra hn
    rw [numBlocks_eq_zero hb (by omega)] at hi
    omega
  rw [blockLength, if_pos hi, lastBlockSize, if_neg (by omega), blockOffset]
  rw [numBlocks_eq_of_pos hb hl, Nat.add_right_cancel_iff] at hi
  have := Nat.div_add_mod' (h.length - 1) h.blockSize
  rw [← hi] at this
  omega

lemma blockOffset_succ (h : Header) (i : ℕ) :
    h.blockOffset (i + 1) = h.blockOffset i + h.blockSize := by
  rw [blockOffset, blockOffset, Nat.succ_mul]

lemma blockOffset_add_blockLength (hb : 0 < h.blockSize) (hi : i < h.numBlocks) :
    h.blockOffset i + h.blockLength i = min (h.blockOffset (i + 1)) h.length := by
  rcases Nat.lt_or_ge (i + 1) h.numBlocks with hn | hn
  · have := (lt_numBlocks_iff hb).mp hn
    rw [blockLength_of_succ_lt hn, ← blockOffset_succ]
    omega
  · have := mt (lt_numBlocks_iff hb).mpr (Nat.not_lt.mpr hn)
    rw [blockOffset_add_of_last hb (by omega)]
    omega

lemma blockOffset_succ_of_lt (hi : i + 1 < h.numBlocks) :
    h.blockOffset (i + 1) = h.blockOffset i + h.blockLength i := by
  rw [blockLength_of_succ_lt hi, blockOffset_succ]

lemma blockOffset_add_le (hb : 0 < h.blockSize) (hi : i < h.numBlocks) :
    h.blockOffset i + h.blockLength i ≤ h.length := by
  rw [blockOffset_add_blockLength hb hi]
  exact min_le_right _ _

lemma blockLength_le (hb : 0 < h.blockSize) (hi : i < h.numBlocks) :
    h.blockLength i ≤ h.blockSize := by
  have := blockOffset_add_blockLength hb hi
  rw [blockOffset_succ] at this
  omega

lemma blockLength_pos (hb : 0 < h.blockSize) (hi : i < h.numBlocks) : 0 < h.blockLength i := by
  have hend := blockOffset_add_blockLength hb hi
  have hbegin := (lt_numBlocks_iff hb).mp hi
  rw [blockOffset_succ] at hend
  omega

lemma blockOffset_mono (hij : i ≤ j) : h.blockOffset i ≤ h.blockOffset j :=
  Nat.mul_le_mul_right _ hij

/-- The lengths of blocks in a row add up to where the last of them ends. -/
lemma blockOffset_add_sum (hb : 0 < h.blockSize) {k : ℕ} (hi : i < h.numBlocks)
    (hk : i + k ≤ h.numBlocks) :
    h.blockOffset i + ((List.range' i k).map h.blockLength).sum =
      min (h.blockOffset (i + k)) h.length := by
  induction k with
  | zero =>
    have := (lt_numBlocks_iff hb).mp hi
    simp only [List.range'_zero, List.map_nil, List.sum_nil, Nat.add_zero]
    omega
  | succ k ih =>
    have hlast : i + k < h.numBlocks := by omega
    have := (lt_numBlocks_iff hb).mp hlast
    have hend := blockOffset_add_blockLength hb hlast
    have hsum := ih (by omega)
    rw [List.range'_concat, Nat.one_mul, List.map_append, List.sum_append, List.map_singleton,
      List.sum_singleton, ← Nat.add_assoc i k 1]
    omega

lemma sum_blockLength (hb : 0 < h.blockSize) :
    ∑ i ∈ Finset.range h.numBlocks, h.blockLength i = h.length := by
  have hend := mt (lt_numBlocks_iff hb).mpr (Nat.lt_irrefl h.numBlocks)
  rcases Nat.eq_zero_or_pos h.numBlocks with hn | hn
  · rw [hn, blockOffset, Nat.zero_mul] at hend
    rw [hn, Finset.sum_range_zero]
    omega
  · have hsum := blockOffset_add_sum hb hn (k := h.numBlocks) (by omega)
    rw [Nat.zero_add, blockOffset, Nat.zero_mul, Nat.zero_add, min_eq_right (by omega),
      ← List.range_eq_range'] at hsum
    rw [← hsum, ← List.toFinset_range, List.sum_toFinset _ List.nodup_range]

/-- Two blocks have no byte in common. -/
lemma disjoint_blocks (hb : 0 < h.blockSize) (hi : i < h.numBlocks) (hj : j < h.numBlocks)
    (hij : i ≠ j) : h.blockOffset i + h.blockLength i ≤ h.blockOffset j ∨
      h.blockOffset j + h.blockLength j ≤ h.blockOffset i := by
  have hi' := blockOffset_add_blockLength hb hi
  have hj' := blockOffset_add_blockLength hb hj
  rcases Nat.lt_or_gt_of_ne hij with hlt | hlt
  · have := blockOffset_mono (h := h) (show i + 1 ≤ j from hlt)
    exact .inl (by omega)
  · have := blockOffset_mono (h := h) (show j + 1 ≤ i from hlt)
    exact .inr (by omega)

lemma div_lt_numBlocks (hb : 0 < h.blockSize) {x : ℕ} (hx : x < h.length) :
    x / h.blockSize < h.numBlocks := by
  rw [lt_numBlocks_iff hb, blockOffset]
  exact lt_of_le_of_lt (Nat.div_mul_le_self x _) hx

lemma mem_block_div (hb : 0 < h.blockSize) {x : ℕ} (hx : x < h.length) :
    h.blockOffset (x / h.blockSize) ≤ x ∧
      x < h.blockOffset (x / h.blockSize) + h.blockLength (x / h.blockSize) := by
  rw [blockOffset_add_blockLength hb (div_lt_numBlocks hb hx), lt_min_iff]
  refine ⟨Nat.div_mul_le_self x _, ?_, hx⟩
  rw [blockOffset, Nat.succ_mul, ← Nat.succ_mul]
  exact Nat.lt_mul_of_div_lt (Nat.lt_succ_self _) hb

lemma existsUnique_block (hb : 0 < h.blockSize) {x : ℕ} (hx : x < h.length) :
    ∃! i, i < h.numBlocks ∧ h.blockOffset i ≤ x ∧ x < h.blockOffset i + h.blockLength i := by
  obtain ⟨hle, hlt⟩ := mem_block_div hb hx
  refine ⟨x / h.blockSize, ⟨div_lt_numBlocks hb hx, hle, hlt⟩, ?_⟩
  rintro i ⟨hi, hle', hlt'⟩
  by_contra hne
  rcases disjoint_blocks hb hi (div_lt_numBlocks hb hx) hne with hdis | hdis <;> omega

end SeedSync.Header
