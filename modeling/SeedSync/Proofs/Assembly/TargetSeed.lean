import Mathlib
import SeedSync.Proofs.Assembly.Target
import SeedSync.Proofs.Matching.Locking

/-!
A seed that ends with the target leaves nothing to fetch, unless the target is a single block that
is looked for in pairs; that is not found in any seed.
-/

namespace SeedSync

variable {c : ControlFile} {header : Header} {sums : List BlockSum}

lemma PairedMatcher.accept_of_one_block {σ : Type} [BlockSink σ] {m : PairedMatcher} {sink : σ}
    {w : View} (hc : ControlFile.assemble header sums = .ok c)
    (hseq : 1 < header.hashLengths.sequence) (hone : header.numBlocks = 1)
    (hm : m.isVouched = false) : (accept c (m.roll c w) sink w).1 = [] := by
  have hpair (x y : UInt32) : c.hasPair x y = false := by
    rw [Bool.eq_false_iff, ne_eq, ControlFile.hasPair_iff hc hseq]
    rintro ⟨q, -, -, hnext⟩
    obtain ⟨s, hs, -⟩ := Option.map_eq_some_iff.mp hnext
    have hlt : q + 1 < c.numBlocks := (Array.getElem?_eq_some_iff.mp hs).1
    rw [ControlFile.numBlocks_eq hc, hone] at hlt
    omega
  rw [accept, roll_promising, hm, hpair]
  rfl

namespace Assembly

variable {a : Assembly} {target junk : List UInt8}

/-- **In pairs a single block is not found in any seed**, whether or not that can be read. -/
lemma isBlockComplete_scan_of_one_block (hc : ControlFile.assemble header sums = .ok c)
    (hseq : 1 < header.hashLengths.sequence) (hone : header.numBlocks = 1) (source : Source)
    (i : ℕ) :
    (Scan.seed c a source).2.1.isBlockComplete i = a.isBlockComplete i := by
  have hseq' : 1 < c.header.hashLengths.sequence := by rwa [(ControlFile.assemble_ok hc).2.1]
  have hstart : (∃ m', Matcher.start c = .paired m' ∧ m'.isVouched = false) ∧
      ∀ i, a.isBlockComplete i = a.isBlockComplete i :=
    ⟨⟨.fresh, if_pos hseq', rfl⟩, fun _ => rfl⟩
  obtain ⟨-, -, hkept⟩ := Scan.seed_preserves
    (fun m (b : Assembly) => (∃ m', m = .paired m' ∧ m'.isVouched = false) ∧
      ∀ i, b.isBlockComplete i = a.isBlockComplete i)
    (fun m b n h => h)
    (by
      rintro _ b w ⟨⟨m', rfl, hvouched⟩, hkept⟩ -
      rw [Matcher.matchWindow]
      rcases Nat.lt_or_ge w.length c.header.blockSize with hshort | hlong
      · rw [PairedMatcher.matchWindow, if_pos hshort]
        exact ⟨⟨m', rfl, hvouched⟩, hkept⟩
      · have hmiss : (PairedMatcher.accept c (m'.roll c w) b w).1 = [] :=
          PairedMatcher.accept_of_one_block hc hseq hone hvouched
        obtain ⟨m'', hmatch, hvouched'⟩ := PairedMatcher.matchWindow_of_miss hlong hmiss hvouched
        rw [hmatch]
        exact ⟨⟨m'', rfl, hvouched'⟩, hkept⟩)
    hstart source
  exact hkept i

lemma Filled.supplyOf_append {before : List (ℕ × List UInt8)} {i : ℕ} (h : Header)
    (hi : Lists before i) (after : List (ℕ × List UInt8)) :
    supplyOf h (before ++ after) i = supplyOf h before i := by
  obtain ⟨x, hx, rfl⟩ := hi
  rw [supplyOf, supplyOf, List.lookup_append]
  cases hlookup : before.lookup x.1 with
  | none => simpa using List.lookup_eq_none_iff.mp hlookup x hx
  | some bytes => rfl

/-- Blocks of the target with equal sums are equal. -/
def Distinguishes (c : ControlFile) (header : Header) (target : List UInt8) : Prop :=
  ∀ i < header.numBlocks, ∀ j < header.numBlocks,
    c.sumOf (ControlFile.paddedBlock header.blockSize target i) =
        c.sumOf (ControlFile.paddedBlock header.blockSize target j) →
      ControlFile.paddedBlock header.blockSize target i =
        ControlFile.paddedBlock header.blockSize target j

/-- An account that has target blocks only, each for a block with its sum, has the target's bytes.
-/
lemma supplyOf_eq_targetBlock (hlen : header.length = target.length) (hb : 0 < header.blockSize)
    (hc : ControlFile.assemble header (ControlFile.sumsOf header target) = .ok c)
    (hdist : Distinguishes c header target) {before : List (ℕ × List UInt8)}
    (hsums : ∀ x ∈ before, c.sums[x.1]? = some (c.sumOf x.2))
    (hblocks : ∀ x ∈ before, ∃ q < header.numBlocks,
      x.2 = ControlFile.paddedBlock header.blockSize target q) {i : ℕ} (hi : i < header.numBlocks)
    (hlist : Filled.Lists before i) :
    Filled.supplyOf header before i = targetBlock header target i := by
  obtain ⟨bytes, hmem, hsupply⟩ := Filled.supplyOf_of_lists hlist header
  obtain ⟨q, hq, hbytes⟩ := hblocks _ hmem
  have hsum := hsums _ hmem
  dsimp only at hbytes hsum
  rw [ControlFile.getElem?_sumsOf hc (by rwa [ControlFile.numBlocks_eq hc]), hbytes] at hsum
  rw [hsupply, hbytes, ← hdist i hi q hq (Option.some.inj hsum)]
  exact take_paddedBlock_eq hb hlen hi

/-- Blocks too large for a window of two are larger than any file, so that there are no two of them.
-/
lemma numBlocks_le_one (hover : UInt64.size ≤ Matcher.reach c)
    (hmax : c.header.length ≤ maxLength) :
    1 < c.header.hashLengths.sequence ∧ c.header.numBlocks ≤ 1 := by
  have hseq := (Matcher.span_lt_blockSize hover).1
  rw [Matcher.reach, if_pos hseq, UInt64.size] at hover
  rw [maxLength] at hmax
  refine ⟨hseq, not_lt.mp fun htwo => ?_⟩
  have := (Header.lt_numBlocks_iff (show 0 < c.header.blockSize by omega)).mp htwo
  rw [Header.blockOffset] at this
  omega

/-- A pass over a seed that ends with a target that a file can hold finds every block of it. -/
lemma exists_found_of_short_target (hmax : header.length ≤ maxLength)
    (hlen : header.length = target.length) (hb : 0 < header.blockSize)
    (hc : ControlFile.assemble header (ControlFile.sumsOf header target) = .ok c)
    (hjunk : ∀ p < junk.length, ∀ i : ℕ, c.sums[i]? ≠
      some (c.sumOf (c.blockAt (Scan.view c (junk ++ target)) p)))
    (hone : 1 < header.hashLengths.sequence → header.numBlocks ≠ 1) :
    ∃ before after,
      Scan.found c (Scan.view c (junk ++ target)) (Matcher.start c) 0 = before ++ after ∧
      (∀ x ∈ before, ∃ q < header.numBlocks,
        x.2 = ControlFile.paddedBlock header.blockSize target q) ∧
      ∀ i < header.numBlocks, i ∈ before.map Prod.fst := by
  rcases Nat.lt_or_ge (Matcher.reach c) UInt64.size with hfits | hover
  · exact Scan.exists_found_of_target hfits hlen hb hc hjunk hone
  · obtain rfl : c.header = header := (ControlFile.assemble_ok hc).2.1
    obtain ⟨hseq, hle⟩ := numBlocks_le_one hover hmax
    have hne := hone hseq
    exact ⟨[], [], Scan.found_of_overflow hover, by simp, by omega⟩

/-- **A seed that ends with the target leaves nothing to fetch.** If none of its bytes in front of
the target begin a window whose first block has a sum of the table, its scan into a fresh assembly
completes every block, except where the target is a single block that is looked for in pairs; that
is not completed by any seed. Once everything is complete, the file is the target, provided that
no two different blocks of it have the same sum. The scan succeeds if the size of a window is a
machine word. -/
theorem completes_from_a_seed_with_the_target {t : Tree} {path : String} {journal : Array Event}
    (hlen : header.length = target.length) (hb : 1 ≤ header.blockSize)
    (hseq : 1 ≤ header.hashLengths.sequence)
    (hc : ControlFile.assemble header (ControlFile.sumsOf header target) = .ok c)
    (hopen : (openAt t path c journal).1 = .ok a) {source : Source}
    (hrest : source.rest = junk ++ target) (hend : source.ending = none)
    (hjunk : ∀ p < junk.length, ∀ i : ℕ, c.sums[i]? ≠
      some (c.sumOf (((Scan.view c (junk ++ target)).drop p).take header.blockSize))) :
    (∃ r b left, Scan.seed c a source = (r, b, left) ∧
      (Matcher.reach c < UInt64.size → r = .ok ()) ∧
      (b.isComplete = true ↔ header.hashLengths.sequence = 1 ∨ header.numBlocks ≠ 1) ∧
      (b.isComplete = true → Distinguishes c header target → b.content = target)) ∧
    (1 < header.hashLengths.sequence → header.numBlocks = 1 → ∀ (other : Source) (i : ℕ),
      (Scan.seed c a other).2.1.isBlockComplete i = false) := by
  have hmax := length_le_of_openAt hopen
  obtain rfl := eq_start_of_openAt hopen
  have hone (h1 : 1 < header.hashLengths.sequence) (h2 : header.numBlocks = 1) (other : Source)
      (i : ℕ) : (Scan.seed c (start path c journal) other).2.1.isBlockComplete i = false := by
    rw [isBlockComplete_scan_of_one_block hc h1 h2, isBlockComplete_start]
  have hstart : Filled path c (fun _ _ => True) (start path c journal) := filled_start hc hb
  obtain rfl : c.header = header := (ControlFile.assemble_ok hc).2.1
  obtain ⟨r, b, left, hscan, hok, hext, hall⟩ := hstart.exists_scan hc hend rfl
  rw [hrest] at hext hall
  have hheader : b.header = c.header := hext.header
  have hdone := isComplete_iff hext.sound
  rw [hheader] at hdone
  refine ⟨⟨r, b, left, hscan, hok, ?_⟩, hone⟩
  by_cases hpairs : 1 < c.header.hashLengths.sequence ∧ c.header.numBlocks = 1
  · have hmissing := hone hpairs.1 hpairs.2 source 0
    rw [hscan] at hmissing
    have hno : ¬ b.isComplete = true := fun h => by
      rw [hdone.mp h 0 (by omega)] at hmissing
      cases hmissing
    refine ⟨⟨fun h => absurd h hno, fun h => ?_⟩, fun h => absurd h hno⟩
    omega
  · obtain ⟨before, after, hfound, hblocks, hlist⟩ :=
      exists_found_of_short_target hmax hlen hb hc hjunk fun h1 h2 => hpairs ⟨h1, h2⟩
    have hlist (i : ℕ) (hi : i < c.header.numBlocks) : Filled.Lists before i :=
      List.mem_map.mp (hlist i hi)
    rw [hfound] at hext hall
    have hcomplete : ∀ i < c.header.numBlocks, b.isBlockComplete i = true := fun i hi => by
      obtain ⟨x, hx, rfl⟩ := hlist i hi
      exact hall x (List.mem_append_left after hx)
    refine ⟨⟨fun _ => by omega, fun _ => hdone.mpr hcomplete⟩, fun _ hdist => ?_⟩
    refine hext.sound.content_eq (by rw [hheader, hlen]) fun i hi => ?_
    rw [hheader] at hi ⊢
    rw [(hext.gained i (isBlockComplete_start ..) (hcomplete i hi)).2,
      Filled.supplyOf_append _ (hlist i hi)]
    refine supplyOf_eq_targetBlock hlen hb hc hdist (fun x hx => ?_) hblocks hi (hlist i hi)
    have hmem : x ∈ Scan.found c (Scan.view c (junk ++ target)) (Matcher.start c) 0 := by
      rw [hfound]
      exact List.mem_append_left after hx
    exact (Scan.sum_of_mem_found hc hb hmem).1

/-- Four bytes behind a stray one, looked for in pairs. -/
theorem completes_four_bytes_behind_a_stray_one : ∃ c a r b left,
    (Header.fourBytes 2).length = ([1, 2, 3, 4] : List UInt8).length ∧
      1 ≤ (Header.fourBytes 2).blockSize ∧ 1 ≤ (Header.fourBytes 2).hashLengths.sequence ∧
      ControlFile.assemble (.fourBytes 2) (ControlFile.sumsOf (.fourBytes 2) [1, 2, 3, 4]) = .ok c ∧
      (openAt ⟨[]⟩ "four" c #[]).1 = .ok a ∧
      (∀ p < ([9] : List UInt8).length, ∀ i : ℕ, c.sums[i]? ≠
        some (c.sumOf (((Scan.view c ([9] ++ [1, 2, 3, 4])).drop p).take 2))) ∧
      Distinguishes c (.fourBytes 2) [1, 2, 3, 4] ∧
      Scan.seed c a (.ofBytes [9, 1, 2, 3, 4]) = (r, b, left) ∧ r = .ok () ∧
      b.isComplete = true ∧ b.content = [1, 2, 3, 4] := by
  obtain ⟨⟨header, table, rollings, pairs⟩, hc⟩ :=
    ControlFile.exists_assemble_sumsOf (.fourBytes 2) [1, 2, 3, 4]
  obtain rfl : header = .fourBytes 2 := (ControlFile.assemble_ok hc).2.1
  set c : ControlFile := ⟨.fourBytes 2, table, rollings, pairs⟩
  have hn : c.numBlocks = 2 := ControlFile.numBlocks_eq hc
  have hwidth : c.header.hashLengths.rolling = 2 := rfl
  have hjunk : ∀ p < ([9] : List UInt8).length, ∀ i : ℕ, c.sums[i]? ≠
      some (c.sumOf (((Scan.view c ([9] ++ [1, 2, 3, 4])).drop p).take 2)) := by
    intro p hp i hi
    obtain rfl : p = 0 := by simpa using hp
    have hlt : i < 2 := (Array.getElem?_eq_some_iff.mp hi).1.trans_eq hn
    have hview : ((Scan.view c ([9] ++ [1, 2, 3, 4])).drop 0).take 2 = [9, 1] := by
      rfl
    rw [ControlFile.getElem?_sumsOf hc (by omega), hview] at hi
    obtain rfl | rfl : i = 0 ∨ i = 1 := by omega
    · exact ControlFile.sumOf_ne hwidth (by decide) (Option.some.inj hi)
    · exact ControlFile.sumOf_ne hwidth (by decide) (Option.some.inj hi)
  have hdist : Distinguishes c (.fourBytes 2) [1, 2, 3, 4] := by
    intro i hi j hj hsum
    have hi : i < 2 := hi
    have hj : j < 2 := hj
    obtain rfl | rfl : i = 0 ∨ i = 1 := by omega
    · obtain rfl | rfl : j = 0 ∨ j = 1 := by omega
      · rfl
      · exact absurd hsum (ControlFile.sumOf_ne hwidth (by decide))
    · obtain rfl | rfl : j = 0 ∨ j = 1 := by omega
      · exact absurd hsum (ControlFile.sumOf_ne hwidth (by decide))
      · rfl
  have hrest : (Source.ofBytes [9, 1, 2, 3, 4]).rest = [9] ++ [1, 2, 3, 4] := rfl
  have hopen : (openAt ⟨[]⟩ "four" c #[]).1 = .ok (start "four" c #[]) := rfl
  obtain ⟨⟨r, b, left, hscan, hok, hiff, hcontent⟩, -⟩ :=
    completes_from_a_seed_with_the_target rfl (by decide) (by decide) hc hopen hrest rfl hjunk
  have hdone : b.isComplete = true := hiff.mpr (.inr (by decide))
  exact ⟨c, _, r, b, left, rfl, by decide, by decide, hc, hopen, hjunk, hdist, hscan,
    hok (Header.small_lt_size (show 4 < 256 by decide)), hdone, hcontent hdone hdist⟩

end Assembly

end SeedSync
