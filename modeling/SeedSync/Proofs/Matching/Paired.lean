import Mathlib
import SeedSync.Matching.Paired
import SeedSync.Proofs.Matching.Sink
import SeedSync.Proofs.Sum.Rolling
import SeedSync.Proofs.Window.View

/-!
Matching two blocks in a row decides every window as if both halves were summed afresh.

A matcher carries sums from window to window: rolled by a byte after a miss, moved from the second
half to the first after a match, their strong parts set or left open. The invariant is that what
it carries are sums of the blocks that the next window finds in their place.
-/

namespace SeedSync

open RollingSum

lemma StrongBytes.truncate_min (width : ℕ) (bytes : StrongBytes) :
    truncate (min width 16) bytes = truncate width bytes := by
  ext i hi
  simp [truncate]

namespace PairedMatcher

variable {σ : Type} [BlockSink σ] {c : ControlFile} {header : Header} {sums : List BlockSum}

/-- The draft holds the sum of a block, the strong part if it is set. -/
structure Holds (c : ControlFile) (d : BlockSum.Draft) (block : List UInt8) : Prop where
  rolling : d.rolling = ofBlock c.header.blockSize c.header.hashLengths.rolling block
  width : d.strong.width = min c.header.hashLengths.strong 16
  strong : d.strong.isSet = true →
    d.strong.bytes = StrongBytes.ofBlock c.header.hashLengths.strong block

namespace Holds

variable {d : BlockSum.Draft} {block : List UInt8}

lemma rolling_value (h : Holds c d block) : d.rolling.value = (c.sumOf block).rolling := by
  rw [h.rolling]
  rfl

lemma sum_eq (h : Holds c d block) (hs : d.strong.isSet = true) : d.sum = c.sumOf block := by
  rw [BlockSum.Draft.sum, h.rolling_value, h.strong hs]
  rfl

lemma of_rolling {r : RollingSum}
    (h : r = ofBlock c.header.blockSize c.header.hashLengths.rolling block) :
    Holds c (rolled c r) block :=
  ⟨h, rfl, by simp [rolled]⟩

lemma ensure (h : Holds c d block) :
    Holds c { d with strong := d.strong.ensure block } block := by
  refine ⟨h.rolling, ?_, fun _ => ?_⟩
  · simp only [StrongSum.ensure]
    split <;> exact h.width
  · simp only [StrongSum.ensure]
    split
    · next hs => exact h.strong hs
    · simp only [StrongSum.compute, StrongBytes.ofBlock, h.width, StrongBytes.truncate_min]

lemma sum_ensure (h : Holds c d block) :
    ({ d with strong := d.strong.ensure block } : BlockSum.Draft).sum = c.sumOf block := by
  apply h.ensure.sum_eq
  simp only [StrongSum.ensure]
  split
  · assumption
  · rfl

end Holds

/-! ### Deciding a window -/

/-- The blocks that match a window by the sums of its halves: a block has that of the first half,
and the one after it, if there is one, that of the second. -/
def blocksMatching (c : ControlFile) (left right : BlockSum) : List ℕ :=
  (c.blocksWith left).filter fun q => q + 1 = c.numBlocks ∨ c.sums[q + 1]? = some right

/-- The first half of the next window has its strong sum from the window before. -/
def isVouched : PairedMatcher → Bool
  | .matchedBoth _ => true
  | .matchedFirst next => next.strong.isSet
  | _ => false

/-- The blocks that are accepted: all that match, but the target's last one, whose successor is
not checked, only if the pair of rolling sums is one of the target's or the first half is vouched
for. -/
def blocksAccepted (c : ControlFile) (m : PairedMatcher) (left right : BlockSum) : List ℕ :=
  (blocksMatching c left right).filter fun q =>
    q + 1 ≠ c.numBlocks ∨ c.Adjacent left.rolling right.rolling ∨ m.isVouched = true

lemma blocksAccepted_of_not {m : PairedMatcher} {left right : BlockSum}
    (hadj : ¬ c.Adjacent left.rolling right.rolling) (hm : m.isVouched = false) :
    blocksAccepted c m left right = [] := by
  simp only [blocksAccepted, blocksMatching, List.filter_filter, List.filter_eq_nil_iff,
    ControlFile.mem_blocksWith, hadj, hm]
  intro q hq
  -- a successor with the sum of the second half would make the pair one of the target's
  have : c.sums[q + 1]? ≠ some right := fun hq' => hadj (ControlFile.adjacent_of_getElem? hq hq')
  simp [this]

lemma mayFollow_of_sum {next : BlockSum.Draft} {block : List UInt8} {q : ℕ}
    (h : Holds c next block) (hq : c.sums[q + 1]? = some (c.sumOf block)) :
    mayFollow c next q = true := by
  simp [mayFollow, hq, h.rolling_value]

/-- The successor of a block is confirmed in two steps, the second of which is taken only if the
first one calls for it with some block. -/
lemma confirms_iff {next : BlockSum.Draft} {block : List UInt8} (h : Holds c next block)
    {found : List ℕ} {q : ℕ} (hq : q ∈ found) {next' : BlockSum.Draft}
    (hn : next' = if found.any (mayFollow c next) = true
      then { next with strong := next.strong.ensure block } else next) :
    (mayFollow c next' q && c.sums[q + 1]? == some next'.sum) = true ↔
      c.sums[q + 1]? = some (c.sumOf block) := by
  rw [Bool.and_eq_true, beq_iff_eq]
  split at hn
  · rw [hn, h.sum_ensure]
    exact ⟨And.right, fun hs => ⟨mayFollow_of_sum h.ensure hs, hs⟩⟩
  · next hnone =>
    rw [hn]
    have hmay : ¬ mayFollow c next q = true := fun hm =>
      hnone (List.any_eq_true.mpr ⟨q, hq, hm⟩)
    exact ⟨fun hs => absurd hs.1 hmay, fun hs => absurd (mayFollow_of_sum h hs) hmay⟩

lemma accept_eq (hc : ControlFile.assemble header sums = .ok c)
    (hseq : 1 < header.hashLengths.sequence) {m : PairedMatcher} {h : Halves} {sink : σ} {w : View}
    (hl : Holds c h.current (leftHalf c w)) (hr : Holds c h.next (rightHalf c w))
    (hp : h.promising = m.isVouched) (hs : c.Searches sink) :
    (accept c h sink w).1 =
        blocksAccepted c m (c.sumOf (leftHalf c w)) (c.sumOf (rightHalf c w)) ∧
      Holds c (accept c h sink w).2 (rightHalf c w) := by
  have hpair := ControlFile.hasPair_iff hc hseq (x := h.current.rolling.value)
    (y := h.next.rolling.value)
  rw [hl.rolling_value, hr.rolling_value] at hpair
  unfold accept
  rw [hl.rolling_value, hr.rolling_value]
  split
  · next hno =>
    rw [Bool.and_eq_true, Bool.not_eq_true', Bool.not_eq_true', hp] at hno
    refine ⟨(blocksAccepted_of_not (fun hadj => ?_) hno.1).symm, hr⟩
    rw [hpair.mpr hadj] at hno
    exact absurd hno.2 (by simp)
  · next hyes =>
    have hgo : c.Adjacent (c.sumOf (leftHalf c w)).rolling (c.sumOf (rightHalf c w)).rolling ∨
        m.isVouched = true := by
      rw [← hp, ← hpair]
      revert hyes
      cases h.promising <;> simp
    dsimp only
    rw [hs, hl.sum_ensure]
    refine ⟨?_, by split; exacts [hr.ensure, hr]⟩
    simp only [blocksAccepted, blocksMatching, hgo, or_true, decide_true, List.filter_true]
    refine List.filter_congr fun q hq => ?_
    rw [Bool.eq_iff_iff, Bool.or_eq_true, beq_iff_eq, confirms_iff hr hq rfl, decide_eq_true_iff]

/-! ### From window to window -/

/-- What a matcher carries to the window at place `p` of `D`: after a miss the sums of both halves
of the window a byte before, after a match that of the block where the window begins. -/
inductive Carries (c : ControlFile) (D : List UInt8) : ℕ → PairedMatcher → Prop
  | fresh (p : ℕ) : Carries c D p .fresh
  | missed (p : ℕ) : Carries c D (p + 1) (.missed (D.getD p 0)
      (ofBlock c.header.blockSize c.header.hashLengths.rolling (c.blockAt D p))
      (ofBlock c.header.blockSize c.header.hashLengths.rolling
        (c.blockAt D (p + c.header.blockSize))))
  | matchedFirst {p : ℕ} {next : BlockSum.Draft} (h : Holds c next (c.blockAt D p)) :
      Carries c D p (.matchedFirst next)
  | matchedBoth {p : ℕ} {next : BlockSum.Draft} (h : Holds c next (c.blockAt D p)) :
      Carries c D p (.matchedBoth next)

variable {D : List UInt8} {p : ℕ} {m : PairedMatcher} {w : View}

lemma leftHalf_eq (hw : w.Shows D p (2 * c.header.blockSize)) :
    leftHalf c w = c.blockAt D p := by
  rw [leftHalf, hw.part_eq (by omega), Nat.add_zero]
  rfl

lemma rightHalf_eq (hw : w.Shows D p (2 * c.header.blockSize)) :
    rightHalf c w = c.blockAt D (p + c.header.blockSize) := by
  rw [rightHalf, hw.part_eq (by omega)]
  rfl

lemma holds_freshHalf (block : List UInt8) : Holds c (freshHalf c block) block :=
  Holds.of_rolling rfl

/-- **What is carried comes out fresh**: the rolled sums are those of the window at hand. -/
lemma Carries.roll (h : Carries c D p m) (hb : 0 < c.header.blockSize)
    (hw : w.Shows D p (2 * c.header.blockSize)) :
    Holds c (m.roll c w).current (leftHalf c w) ∧ Holds c (m.roll c w).next (rightHalf c w) ∧
      (m.roll c w).promising = m.isVouched := by
  cases h with
  | fresh => exact ⟨holds_freshHalf _, holds_freshHalf _, rfl⟩
  | missed p =>
    have hfits := hw.fits
    have hmiddle : w.byte (c.header.blockSize - 1) = D.getD (p + c.header.blockSize) 0 := by
      rw [hw.byte_eq (by omega)]
      congr 1
      omega
    have hlast : w.byte (2 * c.header.blockSize - 1) =
        D.getD (p + c.header.blockSize + c.header.blockSize) 0 := by
      rw [hw.byte_eq (by omega)]
      congr 1
      omega
    rw [leftHalf_eq hw, rightHalf_eq hw]
    refine ⟨Holds.of_rolling ?_, Holds.of_rolling ?_, rfl⟩
    · rw [hmiddle]
      exact update_ofBlock_window (p := p) hb (by omega)
    · rw [hmiddle, hlast, show p + 1 + c.header.blockSize = p + c.header.blockSize + 1 by omega]
      exact update_ofBlock_window (p := p + c.header.blockSize) hb (by omega)
  | matchedFirst hn =>
    rw [← leftHalf_eq hw] at hn
    exact ⟨hn, holds_freshHalf _, rfl⟩
  | matchedBoth hn =>
    rw [← leftHalf_eq hw] at hn
    exact ⟨hn.ensure, holds_freshHalf _, rfl⟩

/-- The window before this one matched two blocks in a row. -/
def isMatchedBoth : PairedMatcher → Bool
  | .matchedBoth _ => true
  | _ => false

lemma isVouched_of_isMatchedBoth (h : m.isMatchedBoth = true) : m.isVouched = true := by
  cases m with
  | matchedBoth => rfl
  | _ => cases h

lemma roll_promising (m : PairedMatcher) (w : View) : (m.roll c w).promising = m.isVouched := by
  cases m <;> rfl

lemma le_of_matchWindow_ok {m' : PairedMatcher} {n : ℕ} {s s' : σ}
    (h : m.matchWindow c s w = (.ok n, m', s')) : c.header.blockSize ≤ w.length := by
  by_contra hshort
  rw [matchWindow, if_pos (by omega)] at h
  cases (Prod.mk.inj h).1

lemma matchWindow_of_miss {sink : σ} (hw : c.header.blockSize ≤ w.length)
    (hacc : (accept c (m.roll c w) sink w).1 = []) (hm : m.isVouched = false) :
    ∃ m', m.matchWindow c sink w = (.ok 1, m', sink) ∧ m'.isVouched = false := by
  unfold PairedMatcher.matchWindow
  rw [if_neg hw.not_gt]
  dsimp only
  generalize accept c (m.roll c w) sink w = accepted at hacc
  obtain ⟨found, next⟩ := accepted
  obtain rfl : found = [] := hacc
  cases m with
  | matchedBoth => cases hm
  | _ => exact ⟨_, rfl, rfl⟩

def stride (c : ControlFile) (m : PairedMatcher) (accepted : List ℕ) : ℕ :=
  if accepted ≠ [] ∨ m.isMatchedBoth = true then c.header.blockSize else 1

lemma stride_bounds (hb : 0 < c.header.blockSize) (m : PairedMatcher) (accepted : List ℕ) :
    1 ≤ stride c m accepted ∧ stride c m accepted ≤ c.header.blockSize := by
  rw [stride]
  split <;> omega

/-- **One window**: what is accepted, what is written, and how far to go, in terms of sums taken
afresh; and what is carried on is again right for where it goes. -/
lemma Carries.matchWindow (h : Carries c D p m) (hc : ControlFile.assemble header sums = .ok c)
    (hseq : 1 < header.hashLengths.sequence) (hb : 0 < c.header.blockSize)
    (hw : w.Shows D p (2 * c.header.blockSize)) {sink : σ} (hs : c.Searches sink)
    {accepted : List ℕ} (ha : accepted = blocksAccepted c m (c.sumOf (c.blockAt D p))
      (c.sumOf (c.blockAt D (p + c.header.blockSize)))) :
    (accept c (m.roll c w) sink w).1 = accepted ∧
      ∃ r m' sink', BlockSink.writeBlocks sink w (accepted.flatMap (writes c)) = (r, sink') ∧
        m.matchWindow c sink w = (r.map fun _ => stride c m accepted, m', sink') ∧
        (r = .ok () → Carries c D (p + stride c m accepted) m') := by
  obtain ⟨hl, hr, hp⟩ := h.roll hb hw
  obtain ⟨hacc, hnext⟩ := accept_eq hc hseq hl hr hp hs
  rw [leftHalf_eq hw, rightHalf_eq hw, ← ha] at hacc
  refine ⟨hacc, ?_⟩
  have hsplit : accept c (m.roll c w) sink w = (accepted, (accept c (m.roll c w) sink w).2) := by
    rw [← hacc]
  rw [rightHalf_eq hw] at hnext
  rw [leftHalf_eq hw] at hl
  have hlen := hw.length_eq
  unfold PairedMatcher.matchWindow
  rw [if_neg (by omega)]
  dsimp only
  rw [hsplit]
  cases accepted with
  | nil =>
    cases m with
    -- behind a match the whole block is passed, and the second half is carried over
    | matchedBoth => exact ⟨_, _, _, rfl, rfl, fun _ => .matchedFirst hnext⟩
    | _ =>
      refine ⟨_, _, _, rfl, rfl, fun _ => ?_⟩
      have hfirst : w.byte 0 = D.getD p 0 := hw.byte_eq (by omega)
      rw [hl.rolling, hnext.rolling, hfirst]
      exact .missed p
  | cons q accepted =>
    have hstride : stride c m (q :: accepted) = c.header.blockSize := by simp [stride]
    rw [hstride]
    dsimp only
    split
    · next hw' => exact ⟨_, _, _, hw', rfl, fun hok => by cases hok⟩
    · next hw' => exact ⟨_, _, _, hw', rfl, fun _ => .matchedBoth hnext⟩

lemma mem_blocksAccepted {left right : BlockSum} {q : ℕ} :
    q ∈ blocksAccepted c m left right ↔ q < c.numBlocks ∧ c.sums[q]? = some left ∧
      (q + 1 = c.numBlocks ∨ c.sums[q + 1]? = some right) ∧
      (q + 1 = c.numBlocks → c.Adjacent left.rolling right.rolling ∨ m.isVouched = true) := by
  simp only [blocksAccepted, blocksMatching, List.mem_filter, ControlFile.mem_blocksWith,
    decide_eq_true_eq, ne_eq, ← imp_iff_not_or, and_assoc]
  exact ⟨fun h => ⟨(Array.getElem?_eq_some_iff.mp h.1).1, h⟩, And.right⟩

lemma pairwise_blocksAccepted (left right : BlockSum) :
    (blocksAccepted c m left right).Pairwise (· < ·) :=
  ((List.pairwise_lt_range.filter _).filter _).filter _

/-- The calls so far: the first one was made on a fresh matcher, each other one on the window to
which the one before it had pointed, and none has failed. -/
inductive Reached (c : ControlFile) (D : List UInt8) : ℕ → PairedMatcher → σ → Prop
  | start (p : ℕ) (sink : σ) : Reached c D p .fresh sink
  | call {p n : ℕ} {m m' : PairedMatcher} {sink sink' : σ} {w : View}
      (before : Reached c D p m sink)
      (hw : w.Shows D p (2 * c.header.blockSize)) (hs : c.Searches sink)
      (hcall : m.matchWindow c sink w = (.ok n, m', sink')) : Reached c D (p + n) m' sink'

lemma Reached.carries {sink : σ} (h : Reached c D p m sink)
    (hc : ControlFile.assemble header sums = .ok c) (hseq : 1 < header.hashLengths.sequence)
    (hb : 0 < c.header.blockSize) : Carries c D p m := by
  induction h with
  | start p sink => exact .fresh p
  | call before hw hs hcall ih =>
    obtain ⟨-, r, m₁, sink₁, -, hm, hcarries⟩ := ih.matchWindow hc hseq hb hw hs rfl
    rw [hm] at hcall
    obtain ⟨hr, hm'⟩ := Prod.mk.inj hcall
    obtain ⟨rfl, -⟩ := Prod.mk.inj hm'
    cases r with
    | error e => cases hr
    | ok u =>
      obtain rfl := Except.ok.inj hr
      exact hcarries rfl

/-- **The paired matcher agrees with summing afresh.** Whatever sums it carries from call to call,
it accepts, in increasing order, the blocks that match the window by sums of its halves taken
afresh; but the last block, whose successor is not checked, only if the two rolling sums stand
side by side in the table or the first half is vouched for. It writes each block accepted and its
successor, and goes on by a block after a match and once more behind it, else by a byte. -/
theorem accepts_as_if_summed_afresh (hc : ControlFile.assemble header sums = .ok c)
    (hseq : 1 < header.hashLengths.sequence) (hb : 1 ≤ header.blockSize) {sink : σ}
    (hrun : Reached c D p m sink) (hw : w.Shows D p (2 * header.blockSize)) (hs : c.Searches sink) :
    let left := c.sumOf ((D.drop p).take header.blockSize)
    let right := c.sumOf ((D.drop (p + header.blockSize)).take header.blockSize)
    ∃ accepted : List ℕ, accepted.Pairwise (· < ·) ∧
      (∀ q, q ∈ accepted ↔ q < c.numBlocks ∧ c.sums[q]? = some left ∧
        (q + 1 = c.numBlocks ∨ c.sums[q + 1]? = some right) ∧
        (q + 1 = c.numBlocks → c.Adjacent left.rolling right.rolling ∨ m.isVouched = true)) ∧
      (accept c (m.roll c w) sink w).1 = accepted ∧
      let written := BlockSink.writeBlocks sink w (accepted.flatMap fun q =>
        if q + 1 < c.numBlocks then [(q, 0), (q + 1, header.blockSize)] else [(q, 0)])
      (m.matchWindow c sink w).1 = written.1.map (fun _ =>
        if accepted ≠ [] ∨ m.isMatchedBoth = true then header.blockSize else 1) ∧
      (m.matchWindow c sink w).2.2 = written.2 := by
  obtain rfl : c.header = header := (ControlFile.assemble_ok hc).2.1
  obtain ⟨hacc, r, m', sink', hwrite, hm, -⟩ :=
    (hrun.carries hc hseq hb).matchWindow hc hseq hb hw hs rfl
  refine ⟨_, pairwise_blocksAccepted _ _, fun q => mem_blocksAccepted, hacc, ?_⟩
  dsimp only
  rw [hm]
  exact ⟨congrArg (Except.map _) (congrArg Prod.fst hwrite).symm, (congrArg Prod.snd hwrite).symm⟩

/-- Behind a byte that belongs to no block, the two blocks of a target are found by rolled sums. -/
theorem accepts_behind_a_stray_byte : ∃ c m,
    ControlFile.assemble (.fourBytes 2) (ControlFile.sumsOf (.fourBytes 2) [1, 2, 3, 4]) = .ok c ∧
      1 < (Header.fourBytes 2).hashLengths.sequence ∧ 1 ≤ (Header.fourBytes 2).blockSize ∧
      Reached c [9, 1, 2, 3, 4] 1 m (⟨c, []⟩ : Ledger) ∧
      (View.ofList [1, 2, 3, 4]).Shows [9, 1, 2, 3, 4] 1 4 ∧ c.Searches (⟨c, []⟩ : Ledger) ∧
      (m.matchWindow c (⟨c, []⟩ : Ledger) (View.ofList [1, 2, 3, 4])).1 = .ok 2 := by
  obtain ⟨c, hc⟩ := ControlFile.exists_assemble_sumsOf (.fourBytes 2) [1, 2, 3, 4]
  have hh : c.header = .fourBytes 2 := (ControlFile.assemble_ok hc).2.1
  have hn : c.numBlocks = 2 := ControlFile.numBlocks_eq hc
  have h0 : c.sums[0]? = some (c.sumOf [1, 2]) := ControlFile.getElem?_sumsOf hc (by omega)
  have h1 : c.sums[1]? = some (c.sumOf [3, 4]) := ControlFile.getElem?_sumsOf hc (by omega)
  have hrolling (block : List UInt8) :
      (c.sumOf block).rolling = RollingSum.hash block &&& maskOf 2 := by
    rw [ControlFile.sumOf, hh]
    rfl
  -- the first window, [9, 1] and [2, 3], is a miss
  have hfirst : (View.ofList [9, 1, 2, 3]).Shows [9, 1, 2, 3, 4] 0 (2 * c.header.blockSize) := by
    rw [hh]
    exact ⟨rfl, by decide⟩
  have hmiss : blocksAccepted c .fresh (c.sumOf (c.blockAt [9, 1, 2, 3, 4] 0))
      (c.sumOf (c.blockAt [9, 1, 2, 3, 4] (0 + c.header.blockSize))) = [] := by
    refine blocksAccepted_of_not ?_ rfl
    rintro ⟨q, hq, hl, -⟩
    have hblock : c.blockAt [9, 1, 2, 3, 4] 0 = [9, 1] := by
      rw [ControlFile.blockAt, hh]
      rfl
    rw [hrolling, hblock] at hl
    obtain rfl | rfl : q = 0 ∨ q = 1 := by omega
    · rw [h0, Option.map_some, hrolling] at hl
      exact absurd hl (by decide)
    · rw [h1, Option.map_some, hrolling] at hl
      exact absurd hl (by decide)
  obtain ⟨-, r, m, sink, hwrite, hcall, -⟩ := (Carries.fresh 0).matchWindow hc (by decide)
    (by rw [hh]; decide) hfirst (Ledger.searches c []) hmiss.symm
  obtain ⟨rfl, rfl⟩ := Prod.mk.inj hwrite
  have hrun : Reached c [9, 1, 2, 3, 4] 1 m (⟨c, []⟩ : Ledger) :=
    .call (.start 0 _) hfirst (Ledger.searches c []) hcall
  have hsecond : (View.ofList [1, 2, 3, 4]).Shows [9, 1, 2, 3, 4] 1 4 := ⟨rfl, by decide⟩
  refine ⟨c, m, hc, by decide, by decide, hrun, hsecond, Ledger.searches c [], ?_⟩
  obtain ⟨accepted, -, hmem, -, hres, -⟩ := accepts_as_if_summed_afresh hc (by decide) (by decide)
    hrun hsecond (Ledger.searches c [])
  have hzero : 0 ∈ accepted :=
    (hmem 0).mpr ⟨by omega, h0, .inr h1, fun h => absurd h (by omega)⟩
  rw [hres, Ledger.writeBlocks_fst, if_pos (.inl (List.ne_nil_of_mem hzero))]
  rfl

end PairedMatcher

end SeedSync
