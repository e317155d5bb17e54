import Mathlib
import SeedSync.Assembly.Index

/-!
Looking up the blocks with a given sum in their bucket finds what a search through the whole table
would find, and reaches for no bucket and no block that is not there.
-/

namespace SeedSync

lemma BlockSum.eq_iff {s t : BlockSum} :
    s = t ↔ s.rolling = t.rolling ∧ ∀ j (_ : j < 16), s.strong[j] = t.strong[j] := by
  rw [← Vector.ext_iff]
  cases s
  cases t
  rw [BlockSum.mk.injEq]

namespace BlockIndex

/-! ### Accesses that stop outside of the table -/

/-- `insert`, if the block has a bucket to go to. -/
def insert? (x : BlockIndex) (s : BlockSum) (i : ℕ) : Option BlockIndex :=
  if slot x.mask s < x.buckets.size then some (x.insert s i) else none

def empty (size : ℕ) : BlockIndex := ⟨Array.replicate size #[], UInt32.ofNat (size - 1)⟩

/-- `ofSums`, up to the first block without a bucket. -/
def ofSums? (sums : Array BlockSum) : Option BlockIndex :=
  sums.toList.zipIdx.foldlM (fun x (s, i) => x.insert? s i) (empty (tableSize sums.size))

/-- `positions`, if there is a bucket for the sum, and a block for all that is in it. -/
def positions? (x : BlockIndex) (sums : Array BlockSum) (s : BlockSum) : Option (List ℕ) := do
  let bucket ← x.buckets[slot x.mask s]?
  bucket.toList.filterM fun i => (sums[i]?).map (· == s)

lemma filterM_eq {α : Type} {f : α → Option Bool} {p : α → Bool} {l : List α}
    (h : ∀ a ∈ l, f a = some (p a)) : l.filterM f = some (l.filter p) := by
  have hfrom (acc : List α) : l.filterAuxM f acc = some ((l.filter p).reverse ++ acc) := by
    induction l generalizing acc with
    | nil => rfl
    | cons a l ih =>
      rw [List.forall_mem_cons] at h
      rw [List.filterAuxM, h.1]
      refine (ih h.2 _).trans ?_
      cases hp : p a <;> simp [hp]
  rw [List.filterM, hfrom]
  simp

/-! ### Slots -/

lemma exists_tableSize (blocks : ℕ) : ∃ k ≤ 24, tableSize blocks = 2 ^ k := by
  obtain ⟨k, hk⟩ := Nat.isPowerOfTwo_nextPowerOfTwo (max blocks 1)
  rw [tableSize, hk]
  rcases le_total k 24 with h | h
  · exact ⟨k, h, min_eq_left (Nat.pow_le_pow_right two_pos h)⟩
  · exact ⟨24, le_rfl, min_eq_right (Nat.pow_le_pow_right two_pos h)⟩

/-- **The slot of a block** is in the low bits of its rolling sum. -/
lemma slot_mask_empty (blocks : ℕ) (s : BlockSum) :
    slot (empty (tableSize blocks)).mask s = s.rolling.toNat % tableSize blocks := by
  obtain ⟨k, hk, hsize⟩ := exists_tableSize blocks
  have hle : 2 ^ k ≤ 2 ^ 24 := Nat.pow_le_pow_right two_pos hk
  have hmask : (UInt32.ofNat (2 ^ k - 1)).toNat = 2 ^ k - 1 :=
    UInt32.toNat_ofNat_of_lt' (by simp only [UInt32.size]; omega)
  rw [hsize, slot, empty, UInt32.toNat_and, hmask, Nat.and_two_pow_sub_one_eq_mod]

/-! ### Buckets -/

def bucket (x : BlockIndex) (k : ℕ) : List ℕ := (x.buckets.getD k #[]).toList

/-- The table holds these blocks: each lies in the bucket of its slot and in no other, there once
and behind the blocks before it. -/
structure Holds (x : BlockIndex) (blocks : List BlockSum) : Prop where
  slot_lt : ∀ s, slot x.mask s < x.buckets.size
  bucket_eq : ∀ k < x.buckets.size, x.bucket k = blocks.findIdxs fun s => slot x.mask s = k

variable {x : BlockIndex} {blocks : List BlockSum} {sums : Array BlockSum} {s : BlockSum}

lemma bucket_insert {k i : ℕ} (hk : k < x.buckets.size) :
    (x.insert s i).bucket k =
      if slot x.mask s = k then x.bucket k ++ [i] else x.bucket k := by
  simp only [bucket, insert, Array.getD_eq_getD_getElem?, Array.getElem?_modify]
  split
  · next hs =>
    subst hs
    simp [hk]
  · rfl

lemma holds_empty (n : ℕ) : (empty (tableSize n)).Holds [] where
  slot_lt s := by
    obtain ⟨k, -, hsize⟩ := exists_tableSize n
    rw [slot_mask_empty, hsize]
    simpa [empty] using Nat.mod_lt _ (Nat.two_pow_pos k)
  bucket_eq k hk := by
    have hk : k < tableSize n := by simpa [empty] using hk
    simp [bucket, empty, Array.getD_eq_getD_getElem?, hk]

lemma Holds.insert (h : x.Holds blocks) (s : BlockSum) :
    x.insert? s blocks.length = some (x.insert s blocks.length) ∧
      (x.insert s blocks.length).Holds (blocks ++ [s]) := by
  have hsize : (x.insert s blocks.length).buckets.size = x.buckets.size := by
    simp [BlockIndex.insert]
  refine ⟨if_pos (h.slot_lt s), fun t => hsize ▸ h.slot_lt t, fun k hk => ?_⟩
  rw [hsize] at hk
  have hmask : (x.insert s blocks.length).mask = x.mask := rfl
  rw [bucket_insert hk, h.bucket_eq k hk, hmask, List.findIdxs_append, List.findIdxs_singleton,
    Nat.zero_add]
  by_cases hs : slot x.mask s = k <;> simp [hs]

/-- Going on with the number behind the last block, a table takes up any further blocks. -/
lemma Holds.foldl_insert (h : x.Holds blocks) (rest : List BlockSum) :
    let entries := rest.zipIdx blocks.length
    let y := entries.foldl (fun x (s, i) => x.insert s i) x
    entries.foldlM (fun x (s, i) => x.insert? s i) x = some y ∧ y.Holds (blocks ++ rest) := by
  induction rest generalizing x blocks with
  | nil => simpa using h
  | cons s rest ih =>
    obtain ⟨hinsert, hnext⟩ := h.insert s
    -- with `s` in the table the number of the next block is one more
    have ih := ih hnext
    simp only [List.length_append, List.length_singleton, List.append_assoc,
      List.singleton_append] at ih
    simp only [List.zipIdx_cons, List.foldlM_cons, List.foldl_cons, hinsert]
    exact ih

/-- **Filling the table** finds a bucket for every block, and puts it just there. -/
lemma holds_ofSums (sums : Array BlockSum) :
    ofSums? sums = some (ofSums sums) ∧ (ofSums sums).Holds sums.toList :=
  (holds_empty sums.size).foldl_insert sums.toList

/-! ### Positions -/

lemma Holds.positions_eq_filter (h : x.Holds sums.toList) (s : BlockSum) :
    x.positions sums s =
      (sums.toList.findIdxs fun t => slot x.mask t = slot x.mask s).filter
        fun i => sums[i]? == some s := by
  rw [positions, ← bucket, h.bucket_eq _ (h.slot_lt s)]

lemma Holds.mem_positions_iff (h : x.Holds sums.toList) {i : ℕ} :
    i ∈ x.positions sums s ↔ sums[i]? = some s := by
  rw [h.positions_eq_filter, List.mem_filter, beq_iff_eq, and_iff_right_iff_imp,
    List.mem_findIdxs_iff_exists_getElem_pos]
  intro hi
  obtain ⟨hlt, rfl⟩ := Array.getElem?_eq_some_iff.mp hi
  exact ⟨by simpa using hlt, by simp⟩

lemma Holds.pairwise_positions (h : x.Holds sums.toList) (s : BlockSum) :
    (x.positions sums s).Pairwise (· < ·) := by
  rw [h.positions_eq_filter]
  exact List.pairwise_findIdxs.filter _

lemma Holds.positions_eq (h : x.Holds sums.toList) {l : List ℕ} (hl : l.Pairwise (· < ·))
    (hmem : ∀ i, i ∈ l ↔ sums[i]? = some s) : x.positions sums s = l :=
  (h.pairwise_positions s).eq_of_mem_iff hl fun i => h.mem_positions_iff.trans (hmem i).symm

lemma Holds.positions?_eq (h : x.Holds sums.toList) (s : BlockSum) :
    x.positions? sums s = some (x.positions sums s) := by
  have hbucket : x.buckets[slot x.mask s]? = some (x.buckets.getD (slot x.mask s) #[]) := by
    simp [Array.getD_eq_getD_getElem?, h.slot_lt s]
  rw [positions?, hbucket, Option.bind_eq_bind, Option.bind_some]
  refine filterM_eq fun i hi => ?_
  rw [← bucket, h.bucket_eq _ (h.slot_lt s), List.mem_findIdxs_iff_exists_getElem_pos] at hi
  obtain ⟨hi, -⟩ := hi
  rw [Array.length_toList] at hi
  rw [Array.getElem?_eq_getElem hi]
  rfl

lemma positions_ofSums (sums : Array BlockSum) (s : BlockSum) :
    (ofSums sums).positions sums s =
      (List.range sums.size).filter fun i => sums[i]? == some s := by
  refine (holds_ofSums sums).2.positions_eq (List.pairwise_lt_range.filter _) fun i => ?_
  rw [List.mem_filter, List.mem_range, beq_iff_eq, and_iff_right_iff_imp]
  exact fun h => (Array.getElem?_eq_some_iff.mp h).1

/-- **A bucket suffices**: for any blocks and any sum, what is found in the bucket of the sum is
what a search from the first block to the last finds. These are the blocks that have the rolling sum
and all bytes of the strong one, each once and in increasing order. Neither filling the table nor
looking the sum up asks for a bucket or a block that is not there. -/
theorem finds_what_a_search_finds (sums : Array BlockSum) (s : BlockSum) :
    let x := ofSums sums
    ofSums? sums = some x ∧ x.positions? sums s = some (x.positions sums s) ∧
      x.positions sums s = sums.toList.idxsOf s ∧ (x.positions sums s).Pairwise (· < ·) ∧
      ∀ i, i ∈ x.positions sums s ↔ ∃ h : i < sums.size,
        sums[i].rolling = s.rolling ∧ ∀ j (_ : j < 16), sums[i].strong[j] = s.strong[j] := by
  obtain ⟨hbuilt, h⟩ := holds_ofSums sums
  refine ⟨hbuilt, h.positions?_eq s, h.positions_eq List.pairwise_idxsOf fun i => ?_,
    h.pairwise_positions s, fun i => h.mem_positions_iff.trans ?_⟩
  · simp [Array.getElem?_eq_some_iff]
  · simp only [Array.getElem?_eq_some_iff, BlockSum.eq_iff]

/-- The blocks share one of four buckets, as their sums agree in the last two bits. -/
example : let sums : Array BlockSum := #[⟨7, .zero⟩, ⟨3, .zero⟩, ⟨7, .zero⟩]
    (ofSums sums).positions sums ⟨7, .zero⟩ = [0, 2] := by
  decide +kernel

end BlockIndex

end SeedSync
