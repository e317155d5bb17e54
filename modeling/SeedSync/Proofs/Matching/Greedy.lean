import Mathlib
import SeedSync.Proofs.Assembly.Target
import SeedSync.Proofs.Matching.Recorder
import SeedSync.Proofs.Matching.Scan

/-!
Scanning one block at a time against the greedy loop that sums every window afresh and compares it
with the whole table: both write the same blocks with the same bytes in the same order.
-/

namespace SeedSync.Scan

open Matcher

variable {σ : Type} [BlockSink σ] {c : ControlFile} {header : Header} {sums : List BlockSum}

/-! ### The loop -/

/-- Goes on from place `p` of a seed, behind which there is a block of zeros: it writes every block
with the sum of the window and goes on by a block, or by a byte if there is none. -/
def greedy (c : ControlFile) (hb : 0 < c.header.blockSize) (seed : List UInt8) (p : ℕ) (sink : σ) :
    Except Error Unit × σ :=
  if _h : p ≤ seed.length ∧ BlockSink.isComplete sink = false then
    let window := ((seed ++ List.replicate c.header.blockSize 0).drop p).take c.header.blockSize
    match c.blocksWith (c.sumOf window) with
    | [] => greedy c hb seed (p + 1) sink
    | found =>
      match BlockSink.writeBlocks sink (View.ofList window) (found.map fun q => (q, 0)) with
      | (.error e, sink) => (.error e, sink)
      | (.ok (), sink) => greedy c hb seed (p + c.header.blockSize) sink
  else (.ok (), sink)
termination_by seed.length + 1 - p

variable {hb : 0 < c.header.blockSize} {seed : List UInt8} {p : ℕ} {sink : σ}

lemma greedy_of_done (h : BlockSink.isComplete sink = true ∨ seed.length < p) :
    greedy c hb seed p sink = (.ok (), sink) := by
  rw [greedy, dif_neg]
  rintro ⟨hp, hmore⟩
  rcases h with h | h
  · rw [h] at hmore
    cases hmore
  · omega

lemma greedy_step (hp : p ≤ seed.length) (hmore : BlockSink.isComplete sink = false)
    {window : List UInt8}
    (hwindow : window = c.blockAt (seed ++ List.replicate c.header.blockSize 0) p) {found : List ℕ}
    (hfound : found = c.blocksWith (c.sumOf window)) :
    greedy c hb seed p sink =
      match BlockSink.writeBlocks sink (View.ofList window) (found.map fun q => (q, 0)) with
      | (.error e, sink) => (.error e, sink)
      | (.ok (), sink) => greedy c hb seed (p + SingleMatcher.stride c found) sink := by
  rw [greedy, dif_pos ⟨hp, hmore⟩]
  dsimp only
  rw [← ControlFile.blockAt, ← hwindow, ← hfound]
  cases found with
  | nil => rfl
  | cons q found =>
    have hstride : SingleMatcher.stride c (q :: found) = c.header.blockSize := by
      simp [SingleMatcher.stride]
    rw [hstride]

/-! ### The scan keeps step with it -/

variable {Alike : σ → σ → Prop} {source : Source} {t : σ}

/-- Where the scan is, the loop has come to as well, with a sink that is alike. -/
def KeepsStep (c : ControlFile) (hb : 0 < c.header.blockSize) (Alike : σ → σ → Prop)
    (seed : List UInt8) (t : σ) (p : ℕ) (m : Matcher) (sink : σ) : Prop :=
  Carries c (view c seed) p m ∧
    ∃ t', Alike sink t' ∧ greedy c hb seed 0 t = greedy c hb seed p t'

lemma KeepsStep.exists_matchWindow {m : Matcher} {w : View}
    (h : KeepsStep c hb Alike seed t p m sink) (hc : ControlFile.assemble header sums = .ok c)
    (hseq : ¬ 1 < c.header.hashLengths.sequence) (halike : BlockSink.Bisimilar c Alike)
    (hw : w.Shows (view c seed) p (span c)) (hmore : BlockSink.isComplete sink = false) :
    ∃ r m' sink', m.matchWindow c sink w = (r, m', sink') ∧
      (∀ e, r = .error e → ∃ t', Alike sink' t' ∧ greedy c hb seed 0 t = (.error e, t')) ∧
      ∀ n, r = .ok n → 1 ≤ n ∧ n ≤ span c ∧ KeepsStep c hb Alike seed t (p + n) m' sink' := by
  obtain ⟨hcarries, t', hlike, hgreedy⟩ := h
  have hspan := span_of_single hseq
  have hplace : p ≤ seed.length := by
    have := hw.fits
    simp only [view, List.length_append, List.length_replicate] at this
    omega
  rw [hspan] at hw
  have hbytes : w.toList = c.blockAt (seed ++ List.replicate c.header.blockSize 0) p := by
    rw [hw.toList, view, hspan]
    rfl
  cases hcarries with
  | paired hseq' => exact absurd hseq' hseq
  | @single m _ hcarries =>
    obtain ⟨r, m', sink', hwrite, hm, hnext⟩ :=
      hcarries.matchWindow hc hb hw (halike.searches hlike) rfl
    have hfound : c.blocksWith (c.sumOf (c.blockAt (view c seed) p)) =
        c.blocksWith (c.sumOf w.toList) := by rw [hw.toList]; rfl
    rw [hfound] at hwrite hm hnext
    -- the two sinks are shown the same bytes, in windows of their own
    have hsame : w.toList = (View.ofList w.toList).toList := (View.toList_ofList _).symm
    obtain ⟨hres, hlike'⟩ := halike.writeBlocks hlike hsame
      ((c.blocksWith (c.sumOf w.toList)).map fun q => (q, 0))
    rw [greedy_step hplace (by rw [← halike.isComplete hlike]; exact hmore) hbytes rfl] at hgreedy
    rw [hwrite] at hres hlike'
    generalize BlockSink.writeBlocks t' (View.ofList w.toList) _ = written at hgreedy hres hlike'
    obtain ⟨r', t''⟩ := written
    obtain rfl : r = r' := hres
    refine ⟨_, .single m', sink', by rw [Matcher.matchWindow, hm], ?_, ?_⟩
    · intro e he
      cases r with
      | error e' =>
        obtain rfl := Except.error.inj he
        exact ⟨t'', hlike', hgreedy⟩
      | ok u => cases he
    · intro n hn
      cases r with
      | error e' => cases hn
      | ok u =>
        obtain rfl := Except.ok.inj hn
        obtain ⟨hone, hle⟩ := SingleMatcher.stride_bounds hb (c.blocksWith (c.sumOf w.toList))
        exact ⟨hone, hle.trans_eq hspan.symm, .single hseq (hnext rfl), t'', hlike', hgreedy⟩

/-- **A scan is the greedy loop**: the same answer, and sinks that are alike. -/
lemma exists_seed_greedy (hc : ControlFile.assemble header sums = .ok c)
    (hseq : ¬ 1 < c.header.hashLengths.sequence) (hb : 0 < c.header.blockSize)
    (halike : BlockSink.Bisimilar c Alike) (hlike : Alike sink t) (hend : source.ending = none) :
    ∃ r sink' t' left, Scan.seed c sink source = (r, sink', left) ∧
      greedy c hb source.rest 0 t = (r, t') ∧ Alike sink' t' := by
  have hspan : 0 < span c := by rwa [span_of_single hseq]
  obtain ⟨r, sink', left, hscan, hfailed, hok⟩ := exists_seed
    (KeepsStep c hb Alike source.rest t)
    (fun e sink => ∃ t', Alike sink t' ∧ greedy c hb source.rest 0 t = (.error e, t'))
    (fun p m sink n h => by
      obtain ⟨hcarries, t', hlike, hgreedy⟩ := h
      exact ⟨hcarries, t', halike.noteRead n hlike, hgreedy⟩)
    (fun p m sink w h hw hmore => h.exists_matchWindow hc hseq halike hw hmore)
    hspan hend ⟨carries_start (reach_lt_of_single hseq) _, t, hlike, rfl⟩
  cases r with
  | error e =>
    obtain ⟨t', hlike', hgreedy⟩ := hfailed e rfl
    exact ⟨.error e, sink', t', left, hscan, hgreedy, hlike'⟩
  | ok u =>
    obtain ⟨p, m, ⟨-, t', hlike', hgreedy⟩, hdone⟩ := hok rfl
    rw [halike.isComplete hlike'] at hdone
    rw [greedy_of_done hdone] at hgreedy
    exact ⟨.ok (), sink', t', left, hscan, hgreedy, hlike'⟩

/-- **Scanning one block at a time is greedy.** Whatever the seed holds and however it is read, and
whatever the sink already has, the scan makes the calls of the loop that sums each window afresh
and looks it up in the whole table: the same blocks with the same bytes in the same order, up to
the same failure of the sink, if there is one. -/
theorem scans_greedily (hc : ControlFile.assemble header sums = .ok c)
    (hseq : header.hashLengths.sequence = 1) (hb : 0 < c.header.blockSize)
    (halike : BlockSink.Bisimilar c Alike) (hsink : Alike sink sink) (hend : source.ending = none) :
    let scan := Scan.seed c (⟨sink, []⟩ : Recorder σ) source
    let loop := greedy c hb source.rest 0 (⟨sink, []⟩ : Recorder σ)
    scan.2.1.calls = loop.2.calls ∧ scan.1 = loop.1 ∧ Alike scan.2.1.sink loop.2.sink := by
  have hseq' : ¬ 1 < c.header.hashLengths.sequence := by
    rw [(ControlFile.assemble_ok hc).2.1, hseq]
    exact lt_irrefl 1
  have hstart : (fun r s : Recorder σ => Alike r.sink s.sink ∧ r.calls = s.calls)
      ⟨sink, []⟩ ⟨sink, []⟩ := ⟨hsink, rfl⟩
  obtain ⟨r, s, t, left, hscan, hloop, hlike, hcalls⟩ :=
    exists_seed_greedy hc hseq' hb (Recorder.bisimilar halike) hstart hend
  dsimp only
  rw [hscan, hloop]
  exact ⟨hcalls, rfl, hlike⟩

/-! ### A seed with one block of four bytes -/

/-- The assembly of four bytes with the second of two blocks already there. -/
def halfOfFour (c : ControlFile) : Assembly := (Assembly.start "four" c #[]).complete 1 [3, 4]

section

variable (hc : ControlFile.assemble (.fourBytes 1)
  (ControlFile.sumsOf (.fourBytes 1) [1, 2, 3, 4]) = .ok c)

include hc

lemma blocksWith_of_four :
    c.blocksWith (c.sumOf [9, 1]) = [] ∧ c.blocksWith (c.sumOf [1, 2]) = [0] := by
  have hn : c.numBlocks = 2 := ControlFile.numBlocks_eq hc
  have hwidth : c.header.hashLengths.rolling = 2 := by rw [(ControlFile.assemble_ok hc).2.1]; rfl
  have h0 : c.sums[0]? = some (c.sumOf [1, 2]) := ControlFile.getElem?_sumsOf hc (by omega)
  have h1 : c.sums[1]? = some (c.sumOf [3, 4]) := ControlFile.getElem?_sumsOf hc (by omega)
  have hstray : c.sumOf [1, 2] ≠ c.sumOf [9, 1] ∧ c.sumOf [3, 4] ≠ c.sumOf [9, 1] :=
    ⟨ControlFile.sumOf_ne hwidth (by decide), ControlFile.sumOf_ne hwidth (by decide)⟩
  have hblocks : c.sumOf [3, 4] ≠ c.sumOf [1, 2] := ControlFile.sumOf_ne hwidth (by decide)
  simp [ControlFile.blocksWith, hn, List.range_succ, h0, h1, hstray, hblocks]

lemma blocks_of_start : (Assembly.start "four" c #[]).header.numBlocks = 2 ∧
    ∀ i < 2, (Assembly.start "four" c #[]).header.blockLength i = 2 := by
  have hheader : (Assembly.start "four" c #[]).header = .fourBytes 1 :=
    (ControlFile.assemble_ok hc).2.1
  rw [hheader]
  decide

lemma filled_halfOfFour : Assembly.Filled "four" c (fun _ _ => True) (halfOfFour c) := by
  have hb : 0 < (Header.fourBytes 1).blockSize := by decide
  have hstart : Assembly.Filled "four" c (fun _ _ => True) (.start "four" c #[]) :=
    Assembly.filled_start hc hb
  obtain ⟨hn, hlength⟩ := blocks_of_start hc
  have hext : Assembly.Extends (fun _ => True) (fun _ => [3, 4]) (.start "four" c #[])
      (halfOfFour c) :=
    .complete hstart.sound (by omega) (Assembly.isBlockComplete_start ..)
      (hlength 1 (by decide)).symm trivial rfl
  exact hstart.of_extends hext fun _ _ _ => trivial

lemma isBlockComplete_halfOfFour {i : ℕ} : (halfOfFour c).isBlockComplete i = true ↔ i = 1 := by
  have hn : c.numBlocks = 2 := ControlFile.numBlocks_eq hc
  have hsize : 1 < (Assembly.start "four" c #[]).completed.size := by
    simp [Assembly.start, hn]
  rw [halfOfFour, Assembly.isBlockComplete_complete _ hsize, Assembly.isBlockComplete_start]
  simp

lemma first_missing_of_half : (halfOfFour c).isBlockComplete 0 = false := by
  rw [Bool.eq_false_iff, ne_eq, isBlockComplete_halfOfFour hc]
  decide

lemma isComplete_halfOfFour : (halfOfFour c).isComplete = false := by
  rw [Bool.eq_false_iff, ne_eq, Assembly.isComplete_iff (filled_halfOfFour hc).sound]
  intro hall
  have hn : (halfOfFour c).header.numBlocks = 2 := (blocks_of_start hc).1
  have := hall 0 (by omega)
  rw [first_missing_of_half hc] at this
  cases this

lemma isComplete_of_both : ((halfOfFour c).complete 0 [1, 2]).isComplete = true := by
  have hfilled := filled_halfOfFour hc
  have hn : (halfOfFour c).header.numBlocks = 2 := (blocks_of_start hc).1
  have hlength : (halfOfFour c).header.blockLength 0 = 2 := (blocks_of_start hc).2 0 (by decide)
  have hsound : Assembly.Sound ((halfOfFour c).complete 0 [1, 2]) :=
    hfilled.sound.complete (by omega) (first_missing_of_half hc) hlength.symm
  rw [Assembly.isComplete_iff hsound]
  intro i hi
  have hi : i < 2 := hi.trans_eq hn
  rw [Assembly.isBlockComplete_complete _ (by rw [hfilled.sound.completed]; omega),
    isBlockComplete_halfOfFour hc]
  omega

lemma writeBlocks_halfOfFour :
    BlockSink.writeBlocks (⟨halfOfFour c, []⟩ : Recorder Assembly) (View.ofList [1, 2]) [(0, 0)] =
      (.ok (), ⟨((halfOfFour c).complete 0 [1, 2]).emit (.bytesWritten 2), [⟨0, [1, 2], 0⟩]⟩) := by
  have hn : (halfOfFour c).header.numBlocks = 2 := (blocks_of_start hc).1
  have hlength : (halfOfFour c).header.blockLength 0 = 2 := (blocks_of_start hc).2 0 (by decide)
  have hw := Assembly.writeBlock_of_missing (filled_halfOfFour hc).sound (View.ofList [1, 2]) 0
    (by omega) (first_missing_of_half hc)
  rw [hlength, if_pos (by decide)] at hw
  have hrecord : BlockSink.writeBlock (⟨halfOfFour c, []⟩ : Recorder Assembly) 0
      (View.ofList [1, 2]) 0 = (((halfOfFour c).writeBlock 0 (View.ofList [1, 2]) 0).1,
        ⟨((halfOfFour c).writeBlock 0 (View.ofList [1, 2]) 0).2, [⟨0, [1, 2], 0⟩]⟩) := rfl
  rw [BlockSink.writeBlocks, hrecord, hw]
  rfl

end

/-- The seed has the target's first block behind a byte that belongs to none; the second block is
already there, so that the scan ends with this one write. -/
theorem scans_greedily_for_the_first_block : ∃ (c : ControlFile) (_ : 0 < c.header.blockSize)
    (a : Assembly),
    ControlFile.assemble (.fourBytes 1) (ControlFile.sumsOf (.fourBytes 1) [1, 2, 3, 4]) = .ok c ∧
      (Header.fourBytes 1).hashLengths.sequence = 1 ∧ a.isBlockComplete 1 = true ∧
      BlockSink.Bisimilar c (Assembly.Same "four" c) ∧ Assembly.Same "four" c a a ∧
      Assembly.fourSeed.ending = none ∧
      (Scan.seed c (⟨a, []⟩ : Recorder Assembly) Assembly.fourSeed).2.1.calls =
        [⟨0, [1, 2], 0⟩] := by
  obtain ⟨⟨header, table, rollings, pairs⟩, hc⟩ :=
    ControlFile.exists_assemble_sumsOf (.fourBytes 1) [1, 2, 3, 4]
  obtain rfl : header = .fourBytes 1 := (ControlFile.assemble_ok hc).2.1
  set c : ControlFile := ⟨.fourBytes 1, table, rollings, pairs⟩
  have hb : 0 < c.header.blockSize := Nat.succ_pos 1
  have hsame : Assembly.Same "four" c (halfOfFour c) (halfOfFour c) :=
    ⟨filled_halfOfFour hc, (halfOfFour c).journal, rfl⟩
  obtain ⟨hcalls, -⟩ := scans_greedily hc rfl hb (Assembly.bisimilar_same "four" c) hsame
    (show Assembly.fourSeed.ending = none from rfl)
  refine ⟨c, hb, halfOfFour c, hc, rfl, (isBlockComplete_halfOfFour hc).mpr rfl,
    Assembly.bisimilar_same "four" c, hsame, rfl, ?_⟩
  -- the loop goes past the stray byte, writes the first block and ends
  obtain ⟨hstray, hfound⟩ := blocksWith_of_four hc
  have hplace (p : ℕ) (window : List UInt8)
      (h : (([9, 1, 2, 7, 0, 0] : List UInt8).drop p).take 2 = window) :
      window = c.blockAt (Assembly.fourSeed.rest ++ List.replicate c.header.blockSize 0) p := h.symm
  have hmore : BlockSink.isComplete (⟨halfOfFour c, []⟩ : Recorder Assembly) = false :=
    isComplete_halfOfFour hc
  rw [hcalls, greedy_step (Nat.zero_le _) hmore (hplace 0 [9, 1] rfl) hstray.symm]
  change (greedy c hb Assembly.fourSeed.rest 1 (⟨halfOfFour c, []⟩ : Recorder Assembly)).2.calls = _
  rw [greedy_step (by decide) hmore (hplace 1 [1, 2] rfl) hfound.symm, List.map_cons, List.map_nil,
    writeBlocks_halfOfFour hc]
  dsimp only
  rw [greedy_of_done (.inl (isComplete_of_both hc))]

end SeedSync.Scan
