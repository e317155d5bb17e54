import Mathlib
import SeedSync.Invocation.Run
import SeedSync.Proofs.Assembly.Target
import SeedSync.Proofs.Matching.Greedy

/-!
The order of the seeds: whichever comes first, the same blocks are complete in the end, for what a
scan finds does not depend on what is there already.
-/

namespace SeedSync.Assembly

/-- Seeds one after the other: each is scanned from its start, or passed over because nothing is
missing any more. In between, the journal may be written to. -/
inductive Scans (c : ControlFile) :
    Assembly → List Source → Except Error Unit → Assembly → Prop
  | done (a : Assembly) : Scans c a [] (.ok ()) a
  | noted {a b : Assembly} {seeds : List Source} {r : Except Error Unit} (e : Event)
      (h : Scans c (a.emit e) seeds r b) : Scans c a seeds r b
  | passed {a b : Assembly} {s : Source} {seeds : List Source} {r : Except Error Unit}
      (hdone : a.isComplete = true) (h : Scans c a seeds r b) : Scans c a (s :: seeds) r b
  | failed {a b : Assembly} {s left : Source} {e : Error} (seeds : List Source)
      (hscan : Scan.seed c a s = (.error e, b, left)) : Scans c a (s :: seeds) (.error e) b
  | scanned {a b d : Assembly} {s left : Source} {seeds : List Source} {r : Except Error Unit}
      (hscan : Scan.seed c a s = (.ok (), b, left)) (h : Scans c b seeds r d) :
      Scans c a (s :: seeds) r d

variable {path : String} {c : ControlFile} {header : Header} {sums : List BlockSum}
  {a b : Assembly} {seeds : List Source} {r : Except Error Unit}

lemma scans_scanSeeds {files : Tree} {paths : List String}
    (hopen : List.Forall₂ (fun path s => ∀ a : Assembly, ∃ n,
      (a.save files).openForReading path = .ok (n, s)) paths seeds) (a : Assembly) :
    Scans c a seeds (Invocation.scanSeeds c files a paths).1
      (Invocation.scanSeeds c files a paths).2 := by
  induction hopen generalizing a with
  | nil => exact .done a
  | @cons path s paths seeds hpath _ ih =>
    rw [Invocation.scanSeeds]
    split
    · next hdone => exact .passed hdone (ih a)
    · obtain ⟨n, hn⟩ := hpath a
      rw [hn]
      dsimp only
      refine .noted (.inputStarted path (some n)) ?_
      split
      · next hscan => exact .failed _ hscan
      · next hscan => exact .scanned hscan (.noted (.inputComplete path) (ih _))

namespace Filled

/-- What a pass over a whole seed finds. -/
def Offers (c : ControlFile) (s : Source) (i : ℕ) : Prop :=
  Lists (Scan.found c (Scan.view c s.rest) (Matcher.start c) 0) i

/-- The scan of a seed completes the blocks that the seed offers, and no other. -/
lemma exists_scan_offers (h : Filled path c (fun _ _ => True) a)
    (hc : ControlFile.assemble header sums = .ok c) {s : Source} (hend : s.ending = none) :
    ∃ r b left, Scan.seed c a s = (r, b, left) ∧ (Matcher.reach c < UInt64.size → r = .ok ()) ∧
      Filled path c (fun _ _ => True) b ∧
      ∀ i, b.isBlockComplete i = true ↔ a.isBlockComplete i = true ∨ Offers c s i := by
  obtain ⟨r, b, left, hscan, hok, hext, hall⟩ := h.exists_scan hc hend rfl
  refine ⟨r, b, left, hscan, hok, h.of_extends hext fun _ _ _ => trivial,
    fun i => ⟨fun hb => ?_, ?_⟩⟩
  · rcases Bool.eq_false_or_eq_true (a.isBlockComplete i) with ha | ha
    · exact .inl ha
    · exact .inr (hext.gained i ha hb).1
  · rintro (ha | ⟨x, hx, rfl⟩)
    · exact hext.kept i ha
    · exact hall x hx

lemma isBlockComplete_of_offers (h : Filled path c (fun _ _ => True) a)
    (hc : ControlFile.assemble header sums = .ok c) (hdone : a.isComplete = true) {s : Source}
    {i : ℕ} (hi : Offers c s i) : a.isBlockComplete i = true :=
  (isComplete_iff h.sound).mp hdone i (h.header ▸ h.lt_of_lists hc hi)

lemma not_offers_of_error (h : Filled path c (fun _ _ => True) a)
    (hc : ControlFile.assemble header sums = .ok c) {s left : Source} (hend : s.ending = none)
    {e : Error} (hscan : Scan.seed c a s = (.error e, b, left)) (t : Source) (i : ℕ) :
    ¬ Offers c t i := by
  rintro ⟨x, hx, -⟩
  have hover : UInt64.size ≤ Matcher.reach c := by
    by_contra hfits
    obtain ⟨r, b', left', hscan', hok, -⟩ := h.exists_scan_offers hc hend
    rw [hok (not_le.mp hfits), hscan] at hscan'
    cases (Prod.mk.inj hscan').1
  rw [Scan.found_of_overflow hover] at hx
  cases hx

lemma scans (h : Filled path c (fun _ _ => True) a) (hc : ControlFile.assemble header sums = .ok c)
    (hend : ∀ s ∈ seeds, s.ending = none) (hscans : Scans c a seeds r b) :
    (Matcher.reach c < UInt64.size → r = .ok ()) ∧ Filled path c (fun _ _ => True) b ∧
      ∀ i, b.isBlockComplete i = true ↔
        a.isBlockComplete i = true ∨ ∃ s ∈ seeds, Offers c s i := by
  induction hscans with
  | done a => exact ⟨fun _ => rfl, h, by simp⟩
  | noted e _ ih => exact ih (h.emit e) hend
  | @passed a b s seeds r hdone _ ih =>
    obtain ⟨hr, hb, hiff⟩ := ih h fun t ht => hend t (by simp [ht])
    refine ⟨hr, hb, fun i => ?_⟩
    rw [hiff, List.exists_mem_cons_iff, ← or_assoc,
      or_iff_left_of_imp (h.isBlockComplete_of_offers hc hdone)]
  | @failed a b s left e seeds hscan =>
    have hnone := h.not_offers_of_error hc (hend s (by simp)) hscan
    obtain ⟨r', b', left', hscan', hok, hb, hiff⟩ := h.exists_scan_offers hc (hend s (by simp))
    rw [hscan] at hscan'
    obtain ⟨rfl, hleft⟩ := Prod.mk.inj hscan'
    obtain ⟨rfl, -⟩ := Prod.mk.inj hleft
    exact ⟨hok, hb, fun i => by simp [hiff, hnone]⟩
  | @scanned a b d s left seeds r hscan _ ih =>
    obtain ⟨r', b', left', hscan', -, hb, hiff⟩ := h.exists_scan_offers hc (hend s (by simp))
    rw [hscan] at hscan'
    obtain ⟨rfl, -⟩ := Prod.mk.inj (Prod.mk.inj hscan').2
    obtain ⟨hr, hd, hiff'⟩ := ih hb fun t ht => hend t (by simp [ht])
    refine ⟨hr, hd, fun i => ?_⟩
    rw [hiff', hiff, List.exists_mem_cons_iff, or_assoc]

lemma exists_scans (h : Filled path c (fun _ _ => True) a)
    (hc : ControlFile.assemble header sums = .ok c) (hend : ∀ s ∈ seeds, s.ending = none) :
    ∃ r b, Scans c a seeds r b := by
  induction seeds generalizing a with
  | nil => exact ⟨_, a, .done a⟩
  | cons s seeds ih =>
    obtain ⟨r, b, left, hscan, -, hb, -⟩ := h.exists_scan_offers hc (hend s (by simp))
    cases r with
    | error e => exact ⟨_, b, .failed seeds hscan⟩
    | ok u =>
      obtain ⟨r, d, hd⟩ := ih hb fun t ht => hend t (by simp [ht])
      exact ⟨r, d, .scanned hscan hd⟩

end Filled

/-- **The order of the seeds does not matter.** Whatever is complete beforehand, and whether or not
those seeds are scanned that come when nothing is missing any more: in any other order the same
blocks are complete in the end, those that were, and those that the scan of one of the seeds into an
empty assembly completes. Scanning a seed again completes no further block. All scans succeed if the
size of a window is a machine word; else the first one breaks off, and none completes a block. -/
theorem completes_the_same_in_any_order (hc : ControlFile.assemble header sums = .ok c)
    (ha : Filled path c (fun _ _ => True) a) (hend : ∀ s ∈ seeds, s.ending = none)
    {seeds' : List Source} (hperm : seeds.Perm seeds') :
    (∃ r b, Scans c a seeds r b) ∧
    ∀ r b r' b', Scans c a seeds r b → Scans c a seeds' r' b' →
      (Matcher.reach c < UInt64.size → r = .ok () ∧ r' = .ok ()) ∧
      (∀ i, b'.isBlockComplete i = b.isBlockComplete i) ∧
      (∀ journal i, b.isBlockComplete i = true ↔ a.isBlockComplete i = true ∨
        ∃ s ∈ seeds, (Scan.seed c (start path c journal) s).2.1.isBlockComplete i = true) ∧
      ∀ s ∈ seeds, ∃ r d left, Scan.seed c b s = (r, d, left) ∧
        (Matcher.reach c < UInt64.size → r = .ok ()) ∧
        ∀ i, d.isBlockComplete i = b.isBlockComplete i := by
  refine ⟨ha.exists_scans hc hend, fun r b r' b' hscans hscans' => ?_⟩
  obtain ⟨hr, hb, hiff⟩ := ha.scans hc hend hscans
  obtain ⟨hr', hb', hiff'⟩ := ha.scans hc (fun s hs => hend s (hperm.mem_iff.mpr hs)) hscans'
  refine ⟨fun hfits => ⟨hr hfits, hr' hfits⟩, fun i => ?_, fun journal i => ?_, fun s hs => ?_⟩
  · rw [Bool.eq_iff_iff, hiff, hiff']
    simp only [hperm.mem_iff]
  · rw [hiff]
    refine or_congr_right (exists_congr fun s => and_congr_right fun hs => ?_)
    have hpos : 0 < header.blockSize := (ControlFile.assemble_ok hc).2.1 ▸ ha.pos
    have hempty : Filled path c (fun _ _ => True) (start path c journal) := filled_start hc hpos
    obtain ⟨r, d, left, hscan, -, -, halone⟩ := hempty.exists_scan_offers hc (hend s hs)
    rw [hscan, halone, isBlockComplete_start]
    simp
  · obtain ⟨r, d, left, hscan, hok, -, hagain⟩ := hb.exists_scan_offers hc (hend s hs)
    refine ⟨r, d, left, hscan, hok, fun i => ?_⟩
    rw [Bool.eq_iff_iff, hagain,
      or_iff_left_of_imp fun hoffers => (hiff i).mpr (.inr ⟨s, hs, hoffers⟩)]

lemma offers_fourSeed (hc : ControlFile.assemble (.fourBytes 1)
    (ControlFile.sumsOf (.fourBytes 1) [1, 2, 3, 4]) = .ok c) : Filled.Offers c fourSeed 0 := by
  obtain ⟨hstray, hfirst⟩ := Scan.blocksWith_of_four hc
  have hh : c.header = .fourBytes 1 := (ControlFile.assemble_ok hc).2.1
  have hb : 0 < c.header.blockSize := by rw [hh]; decide
  have hspan : Matcher.span c = 2 := by rw [Matcher.span, Matcher.reach, hh]; rfl
  have hview : Scan.view c fourSeed.rest = [9, 1, 2, 7, 0, 0] := by rw [Scan.view, hspan]; rfl
  have hstart : Matcher.start c = .single .fresh := by rw [Matcher.start, hh]; rfl
  have hplace (p : ℕ) : c.blockAt [9, 1, 2, 7, 0, 0] p =
      (([9, 1, 2, 7, 0, 0] : List UInt8).drop p).take 2 := by rw [ControlFile.blockAt, hh]; rfl
  have hfits : Matcher.reach c < UInt64.size := by
    rw [Matcher.reach, hh]
    exact Header.small_lt_size (show 2 < 256 by decide)
  have h0 : Matcher.Carries c [9, 1, 2, 7, 0, 0] 0 (.single .fresh) :=
    hstart ▸ Matcher.carries_start hfits _
  obtain ⟨m, h1, hfound, -⟩ := Scan.exists_found h0 hc hb (by rw [hspan]; decide)
  have hnone : (Matcher.single .fresh).acceptedAt c [9, 1, 2, 7, 0, 0] 0 = [] := by
    rw [Matcher.acceptedAt, hplace]
    exact hstray
  have hstride : (Matcher.single .fresh).strideAt c [9, 1, 2, 7, 0, 0] 0 = 1 := by
    rw [Matcher.strideAt, hnone]
    rfl
  rw [hstride] at h1 hfound
  obtain ⟨m', -, hfound', -⟩ := Scan.exists_found h1 hc hb (by rw [hspan]; decide)
  cases h1 with
  | paired hseq => exact absurd hseq (by rw [hh]; decide)
  | @single m hseq h1 =>
    have hwrites : (Matcher.single m).writesAt c [9, 1, 2, 7, 0, 0] (0 + 1) = [(0, 0)] := by
      rw [Matcher.writesAt, Matcher.acceptedAt, hplace]
      exact congrArg _ hfirst
    rw [hwrites, List.map_singleton, hplace] at hfound'
    refine ⟨(0, [1, 2]), ?_, rfl⟩
    rw [hview, hstart, hfound, hfound']
    simp

/-- With the second block there beforehand, either order of two seeds brings in the first one. -/
theorem completes_four_bytes_in_either_order : ∃ c a b b',
    ControlFile.assemble (.fourBytes 1) (ControlFile.sumsOf (.fourBytes 1) [1, 2, 3, 4]) = .ok c ∧
      Filled "four" c (fun _ _ => True) a ∧
      (∀ s ∈ [fourSeed, .ofBytes [3, 4]], s.ending = none) ∧
      [fourSeed, .ofBytes [3, 4]].Perm [.ofBytes [3, 4], fourSeed] ∧
      Scans c a [fourSeed, .ofBytes [3, 4]] (.ok ()) b ∧
      Scans c a [.ofBytes [3, 4], fourSeed] (.ok ()) b' ∧
      ∀ i < 2, b.isBlockComplete i = true ∧ b'.isBlockComplete i = true := by
  obtain ⟨c, hc⟩ :=
    ControlFile.exists_assemble_sumsOf (.fourBytes 1) [1, 2, 3, 4]
  have ha := Scan.filled_halfOfFour hc
  have hend : ∀ s ∈ [fourSeed, .ofBytes [3, 4]], s.ending = none := by decide
  have hperm : [fourSeed, .ofBytes [3, 4]].Perm [.ofBytes [3, 4], fourSeed] := .swap _ _ _
  have hfits : Matcher.reach c < UInt64.size := by
    rw [Matcher.reach, (ControlFile.assemble_ok hc).2.1]
    exact Header.small_lt_size (show 2 < 256 by decide)
  obtain ⟨⟨r, b, hb⟩, hsame⟩ := completes_the_same_in_any_order hc ha hend hperm
  obtain ⟨r', b', hb'⟩ := ha.exists_scans hc fun s hs => hend s (hperm.mem_iff.mpr hs)
  obtain ⟨hok, hsame, -⟩ := hsame _ _ _ _ hb hb'
  obtain ⟨rfl, rfl⟩ := hok hfits
  obtain ⟨-, -, hdone⟩ := ha.scans hc hend hb
  refine ⟨c, _, b, b', hc, ha, hend, hperm, hb, hb', fun i hi => ?_⟩
  rw [hsame, and_self, hdone]
  obtain rfl | rfl : i = 0 ∨ i = 1 := by omega
  · exact .inr ⟨fourSeed, by simp, offers_fourSeed hc⟩
  · exact .inl ((Scan.isBlockComplete_halfOfFour hc).mpr rfl)

end SeedSync.Assembly
