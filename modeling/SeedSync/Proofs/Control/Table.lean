import Mathlib
import SeedSync.Control.Basic

/-!
What the lookup tables of a control file hold: the rolling sums of its blocks, and the pairs of
them that stand side by side.
-/

namespace SeedSync.ControlFile

lemma toNat_pairKey (x y : UInt32) : (pairKey x y).toNat = x.toNat * 2 ^ 32 + y.toNat := by
  have hx := x.toNat_lt
  have hy := y.toNat_lt
  have hmod : x.toNat <<< 32 % 2 ^ 64 = x.toNat <<< 32 := by
    rw [Nat.shiftLeft_eq]
    omega
  simp only [pairKey, UInt64.toNat_or, UInt64.toNat_shiftLeft, UInt32.toNat_toUInt64]
  change x.toNat <<< 32 % 2 ^ 64 ||| y.toNat = _
  rw [hmod, ← Nat.shiftLeft_add_eq_or_of_lt hy, Nat.shiftLeft_eq]

lemma pairKey_inj {x y x' y' : UInt32} : pairKey x y = pairKey x' y' ↔ x = x' ∧ y = y' := by
  constructor
  · intro h
    have hn := congrArg UInt64.toNat h
    rw [toNat_pairKey, toNat_pairKey] at hn
    have hy := y.toNat_lt
    have hy' := y'.toNat_lt
    exact ⟨UInt32.toNat_inj.mp (by omega), UInt32.toNat_inj.mp (by omega)⟩
  · rintro ⟨rfl, rfl⟩
    rfl

lemma mem_pairKeys {sums : List BlockSum} {x y : UInt32} :
    pairKey x y ∈ pairKeys sums ↔ ∃ q s t, sums[q]? = some s ∧ sums[q + 1]? = some t ∧
      s.rolling = x ∧ t.rolling = y := by
  simp only [pairKeys, List.mem_map, Prod.exists]
  constructor
  · rintro ⟨s, t, hmem, hkey⟩
    obtain ⟨q, hq⟩ := List.mem_iff_getElem?.mp hmem
    rw [List.getElem?_zip_eq_some, List.getElem?_tail] at hq
    obtain ⟨hx, hy⟩ := pairKey_inj.mp hkey
    exact ⟨q, s, t, hq.1, hq.2, hx, hy⟩
  · rintro ⟨q, s, t, hs, ht, rfl, rfl⟩
    refine ⟨s, t, List.mem_iff_getElem?.mpr ⟨q, ?_⟩, rfl⟩
    rw [List.getElem?_zip_eq_some, List.getElem?_tail]
    exact ⟨hs, ht⟩

variable {header : Header} {sums : List BlockSum} {c : ControlFile}

lemma assemble_ok (h : assemble header sums = .ok c) :
    sums.length = header.numBlocks ∧ c.header = header ∧ c.sums = sums.toArray ∧
      c.rollings = Std.HashSet.ofList (sums.map BlockSum.rolling) ∧
      c.pairs =
        Std.HashSet.ofList (if header.hashLengths.sequence > 1 then pairKeys sums else []) := by
  unfold assemble at h
  split at h
  · simp at h
  · next hn =>
    obtain rfl := Except.ok.inj h
    exact ⟨not_not.mp hn, rfl, rfl, rfl, rfl⟩

lemma numBlocks_eq (h : assemble header sums = .ok c) : c.numBlocks = header.numBlocks := by
  obtain ⟨hlen, -, hs, -, -⟩ := assemble_ok h
  rw [numBlocks, hs, List.size_toArray, hlen]

lemma hasRolling_iff (h : assemble header sums = .ok c) {x : UInt32} :
    c.hasRolling x = true ↔ ∃ (q : ℕ) (s : BlockSum), c.sums[q]? = some s ∧ s.rolling = x := by
  obtain ⟨-, -, hs, hr, -⟩ := assemble_ok h
  rw [hasRolling, hr, hs, Std.HashSet.contains_ofList, List.contains_iff_mem, List.mem_map]
  simp only [List.getElem?_toArray, List.mem_iff_getElem?]
  constructor
  · rintro ⟨s, ⟨q, hq⟩, hx⟩
    exact ⟨q, s, hq, hx⟩
  · rintro ⟨q, s, hq, hx⟩
    exact ⟨s, ⟨q, hq⟩, hx⟩

/-- Two adjacent blocks of the target have these rolling sums. -/
def Adjacent (c : ControlFile) (x y : UInt32) : Prop :=
  ∃ q < c.numBlocks, c.sums[q]?.map BlockSum.rolling = some x ∧
    c.sums[q + 1]?.map BlockSum.rolling = some y

instance (c : ControlFile) (x y : UInt32) : Decidable (c.Adjacent x y) :=
  inferInstanceAs (Decidable (∃ q < c.numBlocks, _))

lemma adjacent_of_getElem? {c : ControlFile} {q : ℕ} {s t : BlockSum} (hs : c.sums[q]? = some s)
    (ht : c.sums[q + 1]? = some t) : c.Adjacent s.rolling t.rolling :=
  ⟨q, (Array.getElem?_eq_some_iff.mp hs).1, by rw [hs]; rfl, by rw [ht]; rfl⟩

lemma hasPair_iff (h : assemble header sums = .ok c) (hseq : 1 < header.hashLengths.sequence)
    {x y : UInt32} : c.hasPair x y = true ↔ c.Adjacent x y := by
  obtain ⟨-, -, hs, -, hp⟩ := assemble_ok h
  rw [if_pos hseq] at hp
  rw [hasPair, hp, Std.HashSet.contains_ofList, List.contains_iff_mem, mem_pairKeys]
  constructor
  · rintro ⟨q, s, t, hq, hq', rfl, rfl⟩
    exact adjacent_of_getElem? (by simpa [hs] using hq) (by simpa [hs] using hq')
  · rintro ⟨q, -, hx, hy⟩
    obtain ⟨s, hq, hx⟩ := Option.map_eq_some_iff.mp hx
    obtain ⟨t, hq', hy⟩ := Option.map_eq_some_iff.mp hy
    exact ⟨q, s, t, by simpa [hs] using hq, by simpa [hs] using hq', hx, hy⟩

/-! ### Sums of blocks -/

/-- The sum of a block at the widths of the control file. -/
def sumOf (c : ControlFile) (block : List UInt8) : BlockSum :=
  .ofBlock c.header.hashLengths.rolling c.header.hashLengths.strong block

lemma sumOf_ne {c : ControlFile} {n : ℕ} (hn : c.header.hashLengths.rolling = n)
    {x y : List UInt8} (h : RollingSum.hash x &&& RollingSum.maskOf n ≠
      RollingSum.hash y &&& RollingSum.maskOf n) : c.sumOf x ≠ c.sumOf y := by
  rw [← hn] at h
  exact fun heq => h (congrArg BlockSum.rolling heq)

/-- As many bytes as a block has, from place `p` of `D` on. -/
def blockAt (c : ControlFile) (D : List UInt8) (p : ℕ) : List UInt8 :=
  (D.drop p).take c.header.blockSize

/-- The blocks with a given sum, found one by one. -/
def blocksWith (c : ControlFile) (s : BlockSum) : List ℕ :=
  (List.range c.numBlocks).filter fun q => c.sums[q]? == some s

@[simp] lemma mem_blocksWith {c : ControlFile} {s : BlockSum} {q : ℕ} :
    q ∈ c.blocksWith s ↔ c.sums[q]? = some s := by
  simp only [blocksWith, List.mem_filter, List.mem_range, beq_iff_eq, and_iff_right_iff_imp]
  exact fun h => (Array.getElem?_eq_some_iff.mp h).1

end SeedSync.ControlFile
