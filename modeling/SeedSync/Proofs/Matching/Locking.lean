import Mathlib
import SeedSync.Proofs.Control.Tiling
import SeedSync.Proofs.Matching.Found

/-!
A seed that ends with the target: a scan goes byte by byte through what lies in front of it, and
where the target begins, locks onto the boundaries of its blocks.
-/

namespace SeedSync

variable {c : ControlFile} {header : Header} {sums : List BlockSum} {D : List UInt8} {p : ℕ}
  {m : Matcher}

namespace Matcher

def isVouched : Matcher → Bool
  | .single _ => false
  | .paired m => m.isVouched

lemma acceptedAt_of_no_sum (h : ∀ i : ℕ, c.sums[i]? ≠ some (c.sumOf (c.blockAt D p)))
    (m : Matcher) :
    m.acceptedAt c D p = [] := by
  refine List.eq_nil_iff_forall_not_mem.mpr fun q hq => h q ?_
  cases m with
  | single m => exact ControlFile.mem_blocksWith.mp hq
  | paired m => exact (PairedMatcher.mem_blocksAccepted.mp hq).2.1

lemma strideAt_of_miss (hmiss : m.acceptedAt c D p = []) (hm : m.isVouched = false) :
    m.strideAt c D p = 1 := by
  cases m with
  | single m => simp [strideAt, SingleMatcher.stride, hmiss]
  | paired m =>
    have hboth : ¬ m.isMatchedBoth = true := fun h => by
      rw [isVouched, PairedMatcher.isVouched_of_isMatchedBoth h] at hm
      cases hm
    simp [strideAt, PairedMatcher.stride, hmiss, hboth]

lemma writesAt_of_miss (hmiss : m.acceptedAt c D p = []) : m.writesAt c D p = [] := by
  cases m <;> simp [writesAt, hmiss]

end Matcher

namespace Scan

open Matcher

/-! ### Byte by byte -/

lemma exists_found_of_miss (h : Carries c D p m) (hc : ControlFile.assemble header sums = .ok c)
    (hb : 0 < c.header.blockSize) (hfits : p + span c ≤ D.length) (hm : m.isVouched = false)
    (hmiss : m.acceptedAt c D p = []) :
    ∃ m', Carries c D (p + 1) m' ∧ m'.isVouched = false ∧ found c D m p = found c D m' (p + 1) := by
  obtain ⟨m', hnext, hfound, hmatch⟩ := exists_found h hc hb hfits
  rw [writesAt_of_miss hmiss, strideAt_of_miss hmiss hm] at *
  refine ⟨m', hnext, ?_, hfound⟩
  cases h with
  | single hseq h =>
    cases hnext with
    | single => rfl
    | paired hseq' => exact absurd hseq' hseq
  | @paired m hseq hspan h =>
    have hshows : (View.ofList ((D.drop p).take (span c))).Shows D p (span c) :=
      ⟨View.toList_ofList _, hfits⟩
    have hspan := span_of_paired hseq hspan
    have hseq' : 1 < header.hashLengths.sequence := by rwa [← (ControlFile.assemble_ok hc).2.1]
    have hcall := hmatch (Ledger.searches c []) hshows rfl
    rw [hspan] at hshows hcall
    obtain ⟨hacc, -⟩ := h.matchWindow hc hseq' hb hshows (Ledger.searches c []) hmiss.symm
    have hlen := hshows.length_eq
    obtain ⟨m'', hm'', hvouched⟩ := PairedMatcher.matchWindow_of_miss (by omega) hacc hm
    rw [Matcher.matchWindow, hm''] at hcall
    rw [← (Prod.mk.inj (Prod.mk.inj hcall).2).1]
    exact hvouched

lemma exists_found_past (h : Carries c D p m) (hc : ControlFile.assemble header sums = .ok c)
    (hb : 0 < c.header.blockSize) (hm : m.isVouched = false) {k : ℕ}
    (hfits : p + k + span c ≤ D.length + 1)
    (hmiss : ∀ q, p ≤ q → q < p + k → ∀ i : ℕ, c.sums[i]? ≠ some (c.sumOf (c.blockAt D q))) :
    ∃ m', Carries c D (p + k) m' ∧ found c D m p = found c D m' (p + k) := by
  induction k generalizing p m with
  | zero => exact ⟨m, h, rfl⟩
  | succ k ih =>
    obtain ⟨m', hnext, hm', hfound⟩ := exists_found_of_miss h hc hb (by omega) hm
      (acceptedAt_of_no_sum (hmiss p le_rfl (by omega)) m)
    obtain ⟨m'', hnext', hfound'⟩ :=
      ih hnext hm' (by omega) fun q hq hlt => hmiss q (by omega) (by omega)
    rw [hfound, hfound', Nat.add_assoc, Nat.add_comm 1]
    rw [Nat.add_assoc, Nat.add_comm 1] at hnext'
    exact ⟨m'', hnext', rfl⟩

/-! ### Block by block -/

/-- From place `start` of `D` on lies a target that the control file is of. -/
structure Lies (c : ControlFile) (target D : List UInt8) (start : ℕ) : Prop where
  fits : ∀ i < c.numBlocks, start + i * c.header.blockSize + span c ≤ D.length
  block : ∀ i < c.numBlocks, c.blockAt D (start + i * c.header.blockSize) =
    ControlFile.paddedBlock c.header.blockSize target i
  sum : ∀ i < c.numBlocks, c.sums[i]? =
    some (c.sumOf (ControlFile.paddedBlock c.header.blockSize target i))

variable {target : List UInt8} {start i : ℕ}

/-- The window at block `i` of the target, if it is not the last one of blocks in pairs: what is
written there are blocks of the target as they lie there, and block `i` and its successor in a
pair are among them. -/
lemma Lies.window (hD : Lies c target D start)
    (h : Carries c D (start + i * c.header.blockSize) m) (hi : i < c.numBlocks)
    (hpair : 1 < c.header.hashLengths.sequence → i + 1 < c.numBlocks) :
    let ws := m.writesAt c D (start + i * c.header.blockSize)
    m.strideAt c D (start + i * c.header.blockSize) = c.header.blockSize ∧
      (∀ x ∈ ws, ∃ q < c.numBlocks, c.blockAt D (start + i * c.header.blockSize + x.2) =
        ControlFile.paddedBlock c.header.blockSize target q) ∧
      i ∈ ws.map Prod.fst ∧
      (1 < c.header.hashLengths.sequence → i + 1 ∈ ws.map Prod.fst) := by
  have hsum : c.sums[i]? = some (c.sumOf (c.blockAt D (start + i * c.header.blockSize))) := by
    rw [hD.block i hi, hD.sum i hi]
  cases h with
  | @single m hseq h =>
    have hmem : i ∈ (Matcher.single m).acceptedAt c D (start + i * c.header.blockSize) :=
      ControlFile.mem_blocksWith.mpr hsum
    have hwritten : (i, 0) ∈ (Matcher.single m).writesAt c D (start + i * c.header.blockSize) :=
      List.mem_map.mpr ⟨i, hmem, rfl⟩
    refine ⟨?_, fun x hx => ?_, List.mem_map_of_mem hwritten, fun h => absurd h hseq⟩
    · rw [strideAt, SingleMatcher.stride, if_pos (List.ne_nil_of_mem hmem)]
    · obtain ⟨q, -, rfl⟩ := List.mem_map.mp hx
      exact ⟨i, hi, hD.block i hi⟩
  -- the successor is the window's second half, and has the sum that the table has for it
  | @paired m hseq _ h =>
    have hnext : start + i * c.header.blockSize + c.header.blockSize =
        start + (i + 1) * c.header.blockSize := by
      rw [Nat.succ_mul, Nat.add_assoc]
    have hright := hD.block (i + 1) (hpair hseq)
    have hmem : i ∈ (Matcher.paired m).acceptedAt c D (start + i * c.header.blockSize) := by
      refine PairedMatcher.mem_blocksAccepted.mpr ⟨hi, hsum, .inr ?_, fun hlast => ?_⟩
      · rw [hnext, hright, hD.sum _ (hpair hseq)]
      · exact absurd hlast (hpair hseq).ne
    have hwrites : PairedMatcher.writes c i = [(i, 0), (i + 1, c.header.blockSize)] :=
      if_pos (hpair hseq)
    have hwritten (x : ℕ × ℕ) (hx : x ∈ PairedMatcher.writes c i) :
        x.1 ∈ ((Matcher.paired m).writesAt c D (start + i * c.header.blockSize)).map Prod.fst :=
      List.mem_map_of_mem (List.mem_flatMap.mpr ⟨i, hmem, hx⟩)
    refine ⟨?_, fun x hx => ?_, hwritten (i, 0) (by simp [hwrites]),
      fun _ => hwritten (i + 1, c.header.blockSize) (by simp [hwrites])⟩
    · rw [strideAt, PairedMatcher.stride, if_pos (.inl (List.ne_nil_of_mem hmem))]
    · obtain ⟨q, -, hx⟩ := List.mem_flatMap.mp hx
      rw [PairedMatcher.writes] at hx
      split at hx
      · rcases List.mem_pair.mp hx with rfl | rfl
        · exact ⟨i, hi, hD.block i hi⟩
        · exact ⟨i + 1, hpair hseq, by rw [hnext, hright]⟩
      · obtain rfl := List.mem_singleton.mp hx
        exact ⟨i, hi, hD.block i hi⟩

lemma Lies.exists_found (hD : Lies c target D start) (hc : ControlFile.assemble header sums = .ok c)
    (hb : 0 < c.header.blockSize) (h : Carries c D (start + i * c.header.blockSize) m) {k : ℕ}
    (hk : i + k ≤ c.numBlocks) (hpair : 1 < c.header.hashLengths.sequence → i + k < c.numBlocks) :
    ∃ before after, found c D m (start + i * c.header.blockSize) = before ++ after ∧
      (∀ x ∈ before, ∃ q < c.numBlocks,
        x.2 = ControlFile.paddedBlock c.header.blockSize target q) ∧
      ∀ j, i ≤ j → j < i + k → j ∈ before.map Prod.fst ∧
        (1 < c.header.hashLengths.sequence → j + 1 ∈ before.map Prod.fst) := by
  induction k generalizing i m with
  | zero => exact ⟨[], _, rfl, by simp, by omega⟩
  | succ k ih =>
    have hi : i < c.numBlocks := by omega
    obtain ⟨hstride, hbytes, hfirst, hsecond⟩ :=
      hD.window h hi fun hseq => by have := hpair hseq; omega
    obtain ⟨m', hnext, hfound, -⟩ := Scan.exists_found h hc hb (hD.fits i hi)
    rw [hstride, Nat.add_assoc, ← Nat.succ_mul] at hnext hfound
    obtain ⟨before, after, hrest, hbefore, hall⟩ := ih hnext (by omega) fun hseq => by
      have := hpair hseq
      omega
    rw [hfound, hrest, ← List.append_assoc]
    refine ⟨_, _, rfl, fun x hx => ?_, fun j hij hj => ?_⟩
    · rcases List.mem_append.mp hx with hx | hx
      · obtain ⟨y, hy, rfl⟩ := List.mem_map.mp hx
        exact hbytes y hy
      · exact hbefore x hx
    · simp only [List.map_append, List.map_map, List.mem_append]
      rcases Nat.eq_or_lt_of_le hij with rfl | hlt
      · exact ⟨.inl hfirst, fun hseq => .inl (hsecond hseq)⟩
      · obtain ⟨hj', hj''⟩ := hall j hlt (by omega)
        exact ⟨.inr hj', fun hseq => .inr (hj'' hseq)⟩

/-! ### Both -/

lemma blockAt_view (hfits : reach c < UInt64.size) {junk : List UInt8}
    (hi : i * c.header.blockSize ≤ target.length) :
    c.blockAt (view c (junk ++ target)) (junk.length + i * c.header.blockSize) =
      ControlFile.paddedBlock c.header.blockSize target i := by
  have hle := blockSize_le_span hfits
  rw [ControlFile.blockAt, view, List.append_assoc, List.drop_length_add_append,
    List.drop_append_of_le_length hi, List.take_append, List.take_replicate,
    ControlFile.paddedBlock]
  simp only [List.length_take, List.length_drop]
  congr 2
  omega

lemma lies_view (hfits : reach c < UInt64.size) (hlen : header.length = target.length)
    (hb : 0 < header.blockSize)
    (hc : ControlFile.assemble header (ControlFile.sumsOf header target) = .ok c)
    (junk : List UInt8) : Lies c target (view c (junk ++ target)) junk.length := by
  have hn := ControlFile.numBlocks_eq hc
  obtain rfl : c.header = header := (ControlFile.assemble_ok hc).2.1
  have hplace {i : ℕ} (hi : i < c.numBlocks) : i * c.header.blockSize ≤ target.length := by
    have := (Header.lt_numBlocks_iff hb).mp (hn ▸ hi)
    rw [Header.blockOffset] at this
    omega
  refine ⟨fun i hi => ?_, fun i hi => blockAt_view hfits (hplace hi),
    fun i hi => ControlFile.getElem?_sumsOf hc hi⟩
  have := hplace hi
  simp only [view, List.length_append, List.length_replicate]
  omega

/-- **A seed that ends with the target**, if no block of the target begins in front of it: the scan
finds every block, and until it has, the blocks as they lie in the target; only a target of one
block is never found in pairs. -/
lemma exists_found_of_target (hfits : reach c < UInt64.size)
    (hlen : header.length = target.length) (hb : 0 < header.blockSize)
    (hc : ControlFile.assemble header (ControlFile.sumsOf header target) = .ok c)
    {junk : List UInt8} (hjunk : ∀ p < junk.length, ∀ i : ℕ, c.sums[i]? ≠
      some (c.sumOf (c.blockAt (view c (junk ++ target)) p)))
    (hone : 1 < header.hashLengths.sequence → header.numBlocks ≠ 1) :
    ∃ before after, found c (view c (junk ++ target)) (Matcher.start c) 0 = before ++ after ∧
      (∀ x ∈ before, ∃ q < header.numBlocks,
        x.2 = ControlFile.paddedBlock header.blockSize target q) ∧
      ∀ i < header.numBlocks, i ∈ before.map Prod.fst := by
  have hD := lies_view hfits hlen hb hc junk
  have hn := ControlFile.numBlocks_eq hc
  obtain rfl : c.header = header := (ControlFile.assemble_ok hc).2.1
  have hstart : (Matcher.start c).isVouched = false := by
    rw [Matcher.start]
    split <;> rfl
  have hroom : 0 + junk.length + span c ≤ (view c (junk ++ target)).length + 1 := by
    simp only [view, List.length_append, List.length_replicate]
    omega
  obtain ⟨m, hm, hpast⟩ := exists_found_past (carries_start hfits _) hc hb hstart hroom
    fun q _ hq => hjunk q (by omega)
  rw [Nat.zero_add] at hm hpast
  rw [hpast]
  have hm' : Carries c (view c (junk ++ target)) (junk.length + 0 * c.header.blockSize) m := by
    simpa using hm
  rw [← hn] at hone ⊢
  by_cases hseq : 1 < c.header.hashLengths.sequence
  · have hone := hone hseq
    rcases Nat.eq_zero_or_pos c.numBlocks with hzero | hpos
    · exact ⟨[], _, rfl, by simp, by omega⟩
    obtain ⟨before, after, hfound, hbefore, hall⟩ :=
      hD.exists_found hc hb hm' (k := c.numBlocks - 1) (by omega) (by omega)
    rw [Nat.zero_mul, Nat.add_zero] at hfound
    refine ⟨before, after, hfound, hbefore, fun i hi => ?_⟩
    -- the last block is found behind the one before it
    rcases Nat.lt_or_ge i (c.numBlocks - 1) with hlt | hge
    · exact (hall i (by omega) (by omega)).1
    · have hlast := (hall (i - 1) (by omega) (by omega)).2 hseq
      rwa [Nat.sub_add_cancel (by omega)] at hlast
  · obtain ⟨before, after, hfound, hbefore, hall⟩ :=
      hD.exists_found hc hb hm' (k := c.numBlocks) (by omega) fun h => absurd h hseq
    rw [Nat.zero_mul, Nat.add_zero] at hfound
    exact ⟨before, after, hfound, hbefore, fun i hi => (hall i (by omega) (by omega)).1⟩

end Scan

end SeedSync
