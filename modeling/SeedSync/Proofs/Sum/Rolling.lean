import Mathlib
import SeedSync.Sum.Block

/-!
Rolling a sum over a string of bytes gives the sum of each window computed afresh, also where the
window is longer than its halves can count; and what these are, as sums of numbers.
-/

namespace SeedSync.RollingSum

lemma foldl_push (a b : UInt16) (block : List UInt8) :
    block.foldl push (a, b) =
      (a + (sums block).1, b + UInt16.ofNat block.length * a + (sums block).2) := by
  induction block using List.reverseRecOn with
  | nil => simp [sums]
  | append_singleton block x ih =>
    have hs : sums (block ++ [x]) = push (sums block) x := by simp [sums]
    rw [List.foldl_append, List.foldl_cons, List.foldl_nil, ih, hs]
    simp only [push, List.length_append, List.length_singleton, UInt16.ofNat_add, Prod.mk.injEq]
    constructor <;> grind

lemma sums_cons (x : UInt8) (block : List UInt8) :
    sums (x :: block) = (x.toUInt16 + (sums block).1,
      x.toUInt16 + UInt16.ofNat block.length * x.toUInt16 + (sums block).2) := by
  have h : sums (x :: block) = block.foldl push (x.toUInt16, x.toUInt16) := by simp [sums, push]
  rw [h, foldl_push]

lemma sums_concat (block : List UInt8) (x : UInt8) :
    sums (block ++ [x]) = push (sums block) x := by
  simp [sums]

/-- The sum of a block, ready to be rolled on. -/
def ofBlock (blockSize width : ℕ) (block : List UInt8) : RollingSum :=
  (empty blockSize width).init block

variable {blockSize width : ℕ}

lemma update_ofBlock {x y : UInt8} {block : List UInt8} (h : block.length + 1 = blockSize) :
    (ofBlock blockSize width (x :: block)).update x y =
      ofBlock blockSize width (block ++ [y]) := by
  simp only [ofBlock, init, update, empty, sums_cons, sums_concat, push, ← h, UInt16.ofNat_add,
    RollingSum.mk.injEq, and_true]
  constructor <;> grind

/-- **Rolling by one byte** along `D` from place `p`. -/
lemma update_ofBlock_window {D : List UInt8} {p : ℕ} (hb : 0 < blockSize)
    (h : p + blockSize < D.length) :
    (ofBlock blockSize width ((D.drop p).take blockSize)).update (D.getD p 0)
        (D.getD (p + blockSize) 0) =
      ofBlock blockSize width ((D.drop (p + 1)).take blockSize) := by
  obtain ⟨k, rfl⟩ : ∃ k, blockSize = k + 1 := ⟨blockSize - 1, by omega⟩
  have hold : (D.drop p).take (k + 1) = D.getD p 0 :: (D.drop (p + 1)).take k := by
    rw [List.drop_eq_getElem_cons (by omega), List.take_succ_cons,
      List.getD_eq_getElem _ _ (by omega)]
  have hnew : (D.drop (p + 1)).take (k + 1) =
      (D.drop (p + 1)).take k ++ [D.getD (p + (k + 1)) 0] := by
    rw [List.take_succ_eq_append_getElem (by rw [List.length_drop]; omega),
      List.getElem_drop, List.getD_eq_getElem _ _ (by omega)]
    simp only [Nat.add_comm, Nat.add_left_comm]
  rw [hold, hnew]
  exact update_ofBlock (by simp only [List.length_take, List.length_drop]; omega)

/-! ### Any number of steps -/

/-- Rolls the sum of the first `n` bytes of `D` on by `k` bytes. -/
def roll (s : RollingSum) (n : ℕ) (D : List UInt8) (k : ℕ) : RollingSum :=
  (List.range k).foldl (fun s i => s.update (D.getD i 0) (D.getD (i + n) 0)) s

lemma roll_succ (s : RollingSum) (n : ℕ) (D : List UInt8) (k : ℕ) :
    s.roll n D (k + 1) = (s.roll n D k).update (D.getD k 0) (D.getD (k + n) 0) := by
  simp [roll, List.range_succ]

lemma roll_ofBlock {D : List UInt8} {k : ℕ} (hb : 0 < blockSize) (h : k + blockSize ≤ D.length) :
    (ofBlock blockSize width (D.take blockSize)).roll blockSize D k =
      ofBlock blockSize width ((D.drop k).take blockSize) := by
  induction k with
  | zero => rfl
  | succ k ih =>
    rw [roll_succ, ih (by omega)]
    exact update_ofBlock_window hb (by omega)

/-! ### The sums in numbers -/

lemma sums_fst_eq (block : List UInt8) :
    (sums block).1 = UInt16.ofNat (block.map UInt8.toNat).sum := by
  induction block with
  | nil => rfl
  | cons x block ih =>
    rw [sums_cons, List.map_cons, List.sum_cons, UInt16.ofNat_add, ← ih]
    simp

lemma sums_snd_eq (block : List UInt8) : (sums block).2 =
    UInt16.ofNat
      (∑ i ∈ Finset.range block.length, (block.length - i) * (block.getD i 0).toNat) := by
  induction block with
  | nil => rfl
  | cons x block ih =>
    have hrest (i : ℕ) : (block.length + 1 - (i + 1)) * ((x :: block).getD (i + 1) 0).toNat =
        (block.length - i) * (block.getD i 0).toNat := by
      rw [Nat.add_sub_add_right, List.getD_cons_succ]
    rw [sums_cons, List.length_cons, Finset.sum_range_succ',
      Finset.sum_congr rfl fun i _ => hrest i,
      UInt16.ofNat_add, ← ih, List.getD_cons_zero, Nat.sub_zero, UInt16.ofNat_mul, UInt16.ofNat_add]
    simp only [UInt16.ofNat_uInt8ToNat]
    grind

lemma toNat_combine (a b : UInt16) : (combine a b).toNat = a.toNat <<< 16 ||| b.toNat := by
  have ha := a.toNat_lt
  rw [combine, UInt32.toNat_or, UInt32.toNat_shiftLeft, UInt16.toNat_toUInt32,
    UInt16.toNat_toUInt32]
  change a.toNat <<< 16 % 2 ^ 32 ||| b.toNat = _
  rw [Nat.mod_eq_of_lt (by rw [Nat.shiftLeft_eq]; omega)]

/-- The weight of a byte that goes may be formed in 32 bits and cut then: what is cut off the size
of the block and off the product does not count. -/
lemma update_eq_of_wide_weight (s : RollingSum) (old new : UInt8) :
    s.update old new =
      let a := s.a - old.toUInt16 + new.toUInt16
      { s with a, b := s.b - (UInt32.ofNat s.blockSize * old.toUInt32).toUInt16 + a } := by
  have hsize : (UInt32.ofNat s.blockSize).toUInt16 = UInt16.ofNat s.blockSize := by
    simp
  rw [update, UInt32.toUInt16_mul, hsize]
  simp

/-- **Rolling is the same as summing afresh.** Whatever the size of the blocks: a sum of the first
block that is rolled on by any number of bytes is the sum of the block that it has come to, and this
is in its high half the sum of the bytes and in its low half the sum of the bytes, each taken as
often as there are bytes from it to the end, both modulo 2^16. -/
theorem rolls_as_summed_afresh {n width k : ℕ} {D : List UInt8} (hn : 1 ≤ n)
    (hk : k + n ≤ D.length) :
    let block := (D.drop k).take n
    (((empty n width).init (D.take n)).roll n D k).digest = hash block ∧
      (hash block).toNat = ((block.map UInt8.toNat).sum % 2 ^ 16) <<< 16 |||
        (∑ i ∈ Finset.range n, (n - i) * (block.getD i 0).toNat) % 2 ^ 16 := by
  have hlength : ((D.drop k).take n).length = n := by
    rw [List.length_take, List.length_drop]
    omega
  have hfirst : (empty n width).init (D.take n) = ofBlock n width (D.take n) := rfl
  constructor
  · rw [hfirst, roll_ofBlock hn hk]
    rfl
  · rw [hash, toNat_combine, sums_fst_eq, sums_snd_eq, hlength, UInt16.toNat_ofNat',
      UInt16.toNat_ofNat']

/-- Nearly three hundred bytes of the largest value carry both halves over. -/
theorem rolls_to_the_end_of_a_long_block :
    let D : List UInt8 := List.replicate 300 255 ++ [1, 2]
    (1 ≤ 300 ∧ 2 + 300 ≤ D.length) ∧
      (((empty 300 4).init (D.take 300)).roll 300 D 2).digest =
        hash (List.replicate 298 255 ++ [1, 2]) ∧
      (hash (List.replicate 298 255 ++ [1, 2])).toNat = 10457 <<< 16 ||| 43689 := by
  have hk : 2 + 300 ≤ (List.replicate 300 (255 : UInt8) ++ [1, 2]).length := by
    rw [List.length_append, List.length_replicate]
    decide
  obtain ⟨hdigest, hhash⟩ := @rolls_as_summed_afresh 300 4 2 _ (by decide) hk
  have hblock : ((List.replicate 300 (255 : UInt8) ++ [1, 2]).drop 2).take 300 =
      List.replicate 298 255 ++ [1, 2] := by
    decide +kernel
  rw [hblock] at hdigest hhash
  refine ⟨⟨by decide, hk⟩, hdigest, hhash.trans ?_⟩
  decide +kernel

end SeedSync.RollingSum
