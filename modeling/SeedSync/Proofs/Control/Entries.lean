import Mathlib
import SeedSync.Proofs.Control.Table
import SeedSync.Proofs.Transfer.Body

/-!
The block table as it is written: an entry keeps of a sum what the widths of the control file leave
of it, and a table is read entry by entry, however its bytes arrive and whatever follows them.
-/

namespace SeedSync

/-- The sum has no more than a control file with these widths keeps. -/
def BlockSum.Reduced (h : HashLengths) (s : BlockSum) : Prop :=
  s.rolling &&& RollingSum.maskOf h.rolling = s.rolling ∧ s.strong.truncate h.strong = s.strong

namespace ControlFile

/-! ### Numbers -/

def spelled (bs : List UInt8) : ℕ := bs.foldl (fun n b => n * 256 + b.toNat) 0

lemma spelled_concat (bs : List UInt8) (b : UInt8) :
    spelled (bs ++ [b]) = spelled bs * 256 + b.toNat := by
  simp [spelled, List.foldl_append]

lemma spelled_lt (bs : List UInt8) : spelled bs < 256 ^ bs.length := by
  induction bs using List.reverseRecOn with
  | nil => decide
  | append_singleton bs b ih =>
    have hb : b.toNat < 256 := b.toNat_lt
    rw [spelled_concat, List.length_append, List.length_singleton, Nat.pow_succ]
    omega

lemma toNat_bigEndian {bs : List UInt8} (h : bs.length ≤ 4) :
    (bigEndian bs).toNat = spelled bs := by
  induction bs using List.reverseRecOn with
  | nil => rfl
  | append_singleton bs b ih =>
    rw [List.length_append, List.length_singleton] at h
    have hfront : spelled bs < 256 ^ 3 :=
      (spelled_lt bs).trans_le (Nat.pow_le_pow_right (by decide) (by omega))
    have hb : b.toNat < 2 ^ 8 := b.toNat_lt
    have hstep : bigEndian (bs ++ [b]) = bigEndian bs <<< 8 ||| b.toUInt32 := by
      rw [bigEndian, List.foldl_append, List.foldl_cons, List.foldl_nil, bigEndian]
    rw [hstep, spelled_concat, UInt32.toNat_or, UInt32.toNat_shiftLeft, ih (by omega),
      UInt8.toNat_toUInt32]
    change spelled bs <<< 8 % 2 ^ 32 ||| b.toNat = _
    have hshift : spelled bs <<< 8 = spelled bs * 2 ^ 8 := Nat.shiftLeft_eq _ 8
    rw [Nat.mod_eq_of_lt (by omega), ← Nat.shiftLeft_add_eq_or_of_lt hb, hshift]
    rfl

lemma bigEndianBytes_succ {width : ℕ} (h : width < 4) (n : UInt32) :
    bigEndianBytes (width + 1) n = bigEndianBytes width (n >>> 8) ++ [n.toUInt8] := by
  have hshift : ∀ i ∈ List.range width,
      (n >>> UInt32.ofNat (8 * (i + 1))).toUInt8 = (n >>> 8 >>> UInt32.ofNat (8 * i)).toUInt8 := by
    intro i hi
    have hi := List.mem_range.mp hi
    refine congrArg UInt32.toUInt8 (UInt32.toNat_inj.mp ?_)
    rw [UInt32.toNat_shiftRight, UInt32.toNat_shiftRight, UInt32.toNat_shiftRight,
      UInt32.toNat_ofNat', UInt32.toNat_ofNat', ← Nat.shiftRight_add]
    change n.toNat >>> (8 * (i + 1) % 2 ^ 32 % 32) = n.toNat >>> (8 + 8 * i % 2 ^ 32 % 32)
    congr 1
    omega
  have hzero : n >>> UInt32.ofNat (8 * 0) = n := UInt32.shiftRight_zero
  rw [bigEndianBytes, List.range_succ_eq_map, List.map_cons, List.map_map, List.reverse_cons, hzero]
  exact congrArg (·.reverse ++ [n.toUInt8]) (List.map_congr_left hshift)

lemma spelled_bigEndianBytes {width : ℕ} (h : width ≤ 4) (n : UInt32) :
    spelled (bigEndianBytes width n) = n.toNat % 256 ^ width := by
  induction width generalizing n with
  | zero => simp [bigEndianBytes, spelled, Nat.mod_one]
  | succ width ih =>
    have hshift : (n >>> 8).toNat = n.toNat / 256 := by
      rw [UInt32.toNat_shiftRight]
      exact Nat.shiftRight_eq_div_pow _ _
    have hlow : n.toUInt8.toNat = n.toNat % 256 := UInt32.toNat_toUInt8 n
    rw [bigEndianBytes_succ (by omega), spelled_concat, ih (by omega), hshift, hlow, Nat.pow_succ,
      Nat.mul_comm (256 ^ width) 256, Nat.mod_mul]
    omega

lemma toNat_and_maskOf {width : ℕ} (h : width ≤ 4) (n : UInt32) :
    (n &&& RollingSum.maskOf width).toNat = n.toNat % 256 ^ width := by
  have hmask : (RollingSum.maskOf width).toNat = 2 ^ (8 * width) - 1 := by
    interval_cases width <;> rfl
  rw [UInt32.toNat_and, hmask, Nat.and_two_pow_sub_one_eq_mod, Nat.pow_mul]

@[simp] lemma length_bigEndianBytes (width : ℕ) (n : UInt32) :
    (bigEndianBytes width n).length = width := by
  simp [bigEndianBytes]

lemma bigEndian_bigEndianBytes {width : ℕ} (h : width ≤ 4) (n : UInt32) :
    bigEndian (bigEndianBytes width n) = n &&& RollingSum.maskOf width := by
  refine UInt32.toNat_inj.mp ?_
  rw [toNat_bigEndian (by rwa [length_bigEndianBytes]), spelled_bigEndianBytes h,
    toNat_and_maskOf h]

/-! ### Entries -/

lemma ofList_take_toList (width : ℕ) (bytes : StrongBytes) :
    StrongBytes.ofList (bytes.toList.take width) = bytes.truncate width := by
  refine Vector.ext fun i hi => ?_
  rw [StrongBytes.ofList, StrongBytes.truncate, Vector.getElem_ofFn, Vector.getElem_ofFn]
  rw [List.getD_eq_getElem?_getD, List.getElem?_take]
  split
  · simp [hi]
  · rfl

@[simp] lemma length_encodeEntry {h : HashLengths} (hstrong : h.strong ≤ 16) (s : BlockSum) :
    (encodeEntry h s).length = h.rolling + h.strong := by
  rw [encodeEntry, List.length_append, length_bigEndianBytes, List.length_take,
    Vector.length_toList, min_eq_left hstrong]

/-- **An entry holds a sum** at the widths of the control file. -/
lemma decodeEntry_encodeEntry {h : HashLengths} (hrolling : h.rolling ≤ 4) (s : BlockSum) :
    decodeEntry h (encodeEntry h s) =
      ⟨s.rolling &&& RollingSum.maskOf h.rolling, s.strong.truncate h.strong⟩ := by
  have hlen := length_bigEndianBytes h.rolling s.rolling
  rw [decodeEntry, encodeEntry, List.take_left' hlen, List.drop_left' hlen, List.take_take,
    min_self, bigEndian_bigEndianBytes hrolling, ofList_take_toList]

/-! ### Tables -/

variable {h : Header} {b : Buffered}

lemma exists_readExactly {entry tail : List UInt8} (hready : b.Ready (entry ++ tail)) :
    ∃ c, b.readExactly entry.length = (.ok entry, c) ∧ c.Ready tail := by
  obtain ⟨hroom, hrest⟩ := hready
  obtain ⟨c, hc, hcrest, hprec⟩ := Buffered.exists_readExactly (b := b) (n := entry.length)
    (by rw [hrest, List.length_append]; omega)
  rw [hrest, List.take_left] at hc
  rw [hrest, List.drop_left] at hcrest
  exact ⟨c, hc, hprec.capacity ▸ hroom, hcrest⟩

/-- **A table is read as it was written**, and nothing beyond it. -/
lemma exists_readSums (hrolling : h.hashLengths.rolling ≤ 4) (hstrong : h.hashLengths.strong ≤ 16)
    {sums : List BlockSum} (hreduced : ∀ s ∈ sums, s.Reduced h.hashLengths) {tail : List UInt8}
    (hready : b.Ready (sums.flatMap (encodeEntry h.hashLengths) ++ tail)) (done : Array BlockSum) :
    ∃ c, readSums h sums.length done b = (.ok (done.toList ++ sums), c) ∧ c.Ready tail := by
  induction sums generalizing b done with
  | nil => exact ⟨b, by rw [List.append_nil]; rfl, hready⟩
  | cons s sums ih =>
    rw [List.flatMap_cons, List.append_assoc] at hready
    obtain ⟨c, hc, hnext⟩ := exists_readExactly hready
    rw [length_encodeEntry hstrong] at hc
    obtain ⟨hr, hs⟩ := hreduced s List.mem_cons_self
    obtain ⟨d, hd, htail⟩ := ih (fun t ht => hreduced t (List.mem_cons_of_mem s ht)) hnext
      (done.push s)
    refine ⟨d, ?_, htail⟩
    rw [List.length_cons, readSums, Header.entrySize, hc]
    dsimp only
    rw [decodeEntry_encodeEntry hrolling, hr, hs, hd]
    simp

end ControlFile

end SeedSync
