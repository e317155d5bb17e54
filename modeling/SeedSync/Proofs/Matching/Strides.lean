import Mathlib
import SeedSync.Proofs.Control.Target
import SeedSync.Proofs.Matching.Scan

/-!
Whole-block strides of the paired matcher. A stride takes it past a block of the target that the
sink has, with one exception: behind a window that matched the target's last block only, the
second half was never compared with anything, and it is passed over all the same.
-/

namespace SeedSync

variable {σ : Type} [BlockSink σ] {c : ControlFile} {header : Header} {sums : List BlockSum}

namespace BlockSink

/-- Sinks in good order look blocks up as a search through the table would and stay in good order;
a block that was taken from them is there, and none is ever lost. -/
structure Remembers (c : ControlFile) (Good : σ → Prop) (Has : σ → ℕ → Prop) : Prop where
  searches : ∀ {s}, Good s → c.Searches s
  noteRead : ∀ {s} (n : ℕ), Good s → Good (noteRead s n) ∧ ∀ q, Has s q → Has (noteRead s n) q
  writeBlock : ∀ {s i w offset r s'}, Good s → writeBlock s i w offset = (r, s') →
    Good s' ∧ (∀ q, Has s q → Has s' q) ∧ ∀ taken, r = .ok taken → i < c.numBlocks → Has s' i

variable {Good : σ → Prop} {Has : σ → ℕ → Prop} {s s' : σ}

lemma Remembers.writeBlocks (h : Remembers c Good Has) (hs : Good s) {w : View}
    {ws : List (ℕ × ℕ)} {r : Except Error Unit} (hw : writeBlocks s w ws = (r, s')) :
    Good s' ∧ (∀ q, Has s q → Has s' q) ∧
      (r = .ok () → ∀ x ∈ ws, x.1 < c.numBlocks → Has s' x.1) := by
  induction ws generalizing s with
  | nil =>
    obtain ⟨-, rfl⟩ := Prod.mk.inj hw
    exact ⟨hs, fun _ => id, fun _ x hx => absurd hx List.not_mem_nil⟩
  | cons x ws ih =>
    obtain ⟨i, offset⟩ := x
    rw [BlockSink.writeBlocks] at hw
    split at hw
    · next e t hwrite =>
      obtain ⟨rfl, rfl⟩ := Prod.mk.inj hw
      obtain ⟨hgood, hkeep, -⟩ := h.writeBlock hs hwrite
      exact ⟨hgood, hkeep, fun hr => by cases hr⟩
    · next taken t hwrite =>
      obtain ⟨hgood, hkeep, htaken⟩ := h.writeBlock hs hwrite
      obtain ⟨hgood', hkeep', hall⟩ := ih hgood hw
      refine ⟨hgood', fun q hq => hkeep' q (hkeep q hq), fun hr y hy hlt => ?_⟩
      rcases List.mem_cons.mp hy with rfl | hy
      · exact hkeep' i (htaken taken rfl hlt)
      · exact hall hr y hy hlt

end BlockSink

namespace PairedMatcher

variable {D : List UInt8} {p n : ℕ} {m m' : PairedMatcher} {w : View} {s s' : σ}
  {Good : σ → Prop} {Has : σ → ℕ → Prop}

lemma isMatchedBoth_matchWindow (h : m.matchWindow c s w = (.ok n, m', s')) :
    m'.isMatchedBoth = true ↔ (accept c (m.roll c w) s w).1 ≠ [] := by
  have hlen := le_of_matchWindow_ok h
  unfold matchWindow at h
  rw [if_neg hlen.not_gt] at h
  dsimp only at h
  split at h
  · next hacc =>
    rw [hacc]
    cases m <;> obtain ⟨-, rfl, -⟩ := by simpa using h
    all_goals simp [isMatchedBoth]
  · next next hne hacc =>
    rw [hacc]
    split at h
    · cases (Prod.mk.inj h).1
    · obtain ⟨-, hm, -⟩ := by simpa using h
      rw [← hm]
      simp only [isMatchedBoth, true_iff]
      rintro rfl
      exact hne rfl

/-- The block at place `p` has the sum of a block of the target that the sink has. -/
def Written (c : ControlFile) (Has : σ → ℕ → Prop) (D : List UInt8) (p : ℕ) (s : σ) : Prop :=
  ∃ q, c.sums[q]? = some (c.sumOf (c.blockAt D p)) ∧ Has s q

/-- The window a block before place `p` matched the target's last block and no other. -/
def BehindTheEnd (c : ControlFile) (D : List UInt8) (p : ℕ) : Prop :=
  c.header.blockSize ≤ p ∧ ∀ q, q ∈ blocksMatching c
    (c.sumOf (c.blockAt D (p - c.header.blockSize))) (c.sumOf (c.blockAt D p)) ↔
      q + 1 = c.numBlocks

omit [BlockSink σ] in
/-- What a match is followed by: the second half of the window was written as the successor of a
block accepted, unless the target's last block was the only one. -/
lemma written_or_behindTheEnd {accepted : List ℕ} (hne : accepted ≠ [])
    (ha : accepted = blocksAccepted c m (c.sumOf (c.blockAt D p))
      (c.sumOf (c.blockAt D (p + c.header.blockSize))))
    (hall : ∀ x ∈ accepted.flatMap (writes c), x.1 < c.numBlocks → Has s x.1) :
    Written c Has D (p + c.header.blockSize) s ∨ BehindTheEnd c D (p + c.header.blockSize) := by
  by_cases hinner : ∃ q ∈ accepted, q + 1 < c.numBlocks
  · obtain ⟨q, hq, hlt⟩ := hinner
    obtain ⟨-, -, hright, -⟩ := mem_blocksAccepted.mp (ha ▸ hq)
    refine .inl ⟨q + 1, hright.resolve_left (by omega), hall (q + 1, c.header.blockSize) ?_ hlt⟩
    exact List.mem_flatMap.mpr ⟨q, hq, by simp [writes, hlt]⟩
  · have hlast : ∀ q ∈ accepted, q + 1 = c.numBlocks := by
      intro q hq
      have hlt := (mem_blocksAccepted.mp (ha ▸ hq)).1
      have : ¬ q + 1 < c.numBlocks := fun h => hinner ⟨q, hq, h⟩
      omega
    obtain ⟨last, hmem⟩ := List.exists_mem_of_ne_nil accepted hne
    refine .inr ⟨by omega, fun q => ?_⟩
    rw [Nat.add_sub_cancel]
    constructor
    · intro hq
      by_contra hno
      refine hno (hlast q ?_)
      rw [ha, blocksAccepted, List.mem_filter, decide_eq_true_eq]
      exact ⟨hq, .inl hno⟩
    · intro hq
      have hsame : q = last := by
        have := hlast last hmem
        omega
      rw [ha, blocksAccepted, List.mem_filter] at hmem
      rw [hsame]
      exact hmem.1

/-- What a scan keeps from window to window: in the state of a match, the block where the next
window begins is written, or it lies behind the target's last block. -/
inductive Accounts (c : ControlFile) (Good : σ → Prop) (Has : σ → ℕ → Prop) (D : List UInt8)
    (p : ℕ) : Matcher → σ → Prop
  | intro {m : PairedMatcher} {s : σ} (carries : Carries c D p m) (good : Good s)
      (matched : m.isMatchedBoth = true → Written c Has D p s ∨ BehindTheEnd c D p) :
      Accounts c Good Has D p (.paired m) s

/-- **One window**: a whole-block stride passes a block that is written or lies behind the target's
last block; and what is kept is kept. -/
lemma Accounts.step {m m' : Matcher} (h : Accounts c Good Has D p m s)
    (hc : ControlFile.assemble header sums = .ok c) (hseq : 1 < c.header.hashLengths.sequence)
    (hfits : 2 * c.header.blockSize < UInt64.size) (hb : 2 ≤ c.header.blockSize)
    (hsink : BlockSink.Remembers c Good Has)
    (hw : w.Shows D p (Matcher.span c)) (hcall : m.matchWindow c s w = (.ok n, m', s')) :
    (1 ≤ n ∧ n ≤ Matcher.span c ∧ Accounts c Good Has D (p + n) m' s') ∧
      (n = c.header.blockSize → Written c Has D p s' ∨ BehindTheEnd c D p) := by
  obtain @⟨m, s, hcarries, hgood, hmatched⟩ := h
  have hspan := Matcher.span_of_paired hseq hfits
  have hseq' : 1 < header.hashLengths.sequence := by rwa [← (ControlFile.assemble_ok hc).2.1]
  rw [hspan] at hw
  obtain ⟨hacc, r, m₁, s₁, hwrite, hm, hnext⟩ :=
    hcarries.matchWindow hc hseq' (by omega) hw (hsink.searches hgood) rfl
  set accepted := blocksAccepted c m (c.sumOf (c.blockAt D p))
    (c.sumOf (c.blockAt D (p + c.header.blockSize))) with ha
  rw [Matcher.matchWindow, hm] at hcall
  obtain ⟨hr, rfl, rfl⟩ := by simpa only [Prod.mk.injEq] using hcall
  cases r with
  | error e => cases hr
  | ok u =>
    obtain rfl : stride c m accepted = n := Except.ok.inj hr
    obtain ⟨hone, hle⟩ := stride_bounds (show 0 < c.header.blockSize by omega) m accepted
    obtain ⟨hgood', hkeep, hall⟩ := hsink.writeBlocks hgood hwrite
    -- the state of a match is entered just by windows that are accepted
    have hboth := isMatchedBoth_matchWindow hm
    rw [hacc] at hboth
    refine ⟨⟨hone, by omega, hnext rfl, hgood', fun hmb => ?_⟩, fun hn => ?_⟩
    · have hne := hboth.mp hmb
      rw [stride, if_pos (.inl hne)]
      exact written_or_behindTheEnd hne ha (hall rfl)
    -- a stride of a block without a match comes from the match before
    · by_cases hne : accepted = []
      · have hmb : m.isMatchedBoth = true := by
          by_contra hno
          rw [stride, if_neg (by simp [hne, hno])] at hn
          omega
        exact (hmatched hmb).imp_left (Exists.imp fun q => And.imp_right (hkeep q))
      · obtain ⟨q, hq⟩ := List.exists_mem_of_ne_nil accepted hne
        obtain ⟨hlt, hleft, -, -⟩ := mem_blocksAccepted.mp (ha ▸ hq)
        refine .inl ⟨q, hleft, hall rfl (q, 0) (List.mem_flatMap.mpr ⟨q, hq, ?_⟩) hlt⟩
        rw [writes]
        split <;> simp

end PairedMatcher

lemma Ledger.remembers (c : ControlFile) : BlockSink.Remembers c
    (fun l : Ledger => l.control = c) (fun l q => ∃ bytes, (q, bytes) ∈ l.taken) where
  searches {l} h := h ▸ Ledger.searches l.control l.taken
  noteRead n h := ⟨h, fun _ => id⟩
  writeBlock {l i w offset r l'} h hw := by
    obtain ⟨rfl, rfl⟩ := Prod.mk.inj hw
    refine ⟨h, fun q => Exists.imp fun bytes => ?_, fun taken _ _ =>
      ⟨w.part offset l.control.header.blockSize, ?_⟩⟩
    · exact List.mem_append_left _
    · exact List.mem_append_right _ (List.mem_singleton.mpr rfl)

lemma PairedMatcher.Carries.exists_call {D : List UInt8} {p : ℕ} {m : PairedMatcher} {l : Ledger}
    {w : View} (h : Carries c D p m) (hc : ControlFile.assemble header sums = .ok c)
    (hseq : 1 < header.hashLengths.sequence) (hb : 0 < c.header.blockSize)
    (hw : w.Shows D p (2 * c.header.blockSize)) (hl : l.control = c) {accepted : List ℕ}
    (ha : accepted = blocksAccepted c m (c.sumOf (c.blockAt D p))
      (c.sumOf (c.blockAt D (p + c.header.blockSize)))) :
    ∃ m' l', (Matcher.paired m).matchWindow c l w = (.ok (stride c m accepted), .paired m', l') ∧
      Carries c D (p + stride c m accepted) m' ∧ (m'.isMatchedBoth = true ↔ accepted ≠ []) ∧
      l'.control = c := by
  have hsink := Ledger.remembers c
  obtain ⟨hacc, r, m', l', hwrite, hm, hnext⟩ := h.matchWindow hc hseq hb hw (hsink.searches hl) ha
  obtain rfl : Except.ok () = r := by rw [← Ledger.writeBlocks_fst, hwrite]
  refine ⟨m', l', by rw [Matcher.matchWindow, hm]; rfl, hnext rfl, ?_,
    (hsink.writeBlocks hl hwrite).1⟩
  rw [isMatchedBoth_matchWindow hm, hacc]

namespace Scan

open PairedMatcher

variable {Good : σ → Prop} {Has : σ → ℕ → Prop} {source : Source} {first sink sink' : σ}
  {m m' : Matcher} {w : SlidingWindow}

/-- **Whole-block strides.** Whenever the scan of a seed for blocks in pairs goes on by a whole
block, the block that it leaves behind has the sum of a block of the target that the sink has by
then; but where the window a block before matched the target's last block and no other, nothing
is said of the block left behind, for the second half of that window was not compared. -/
theorem strides_over_written_blocks (hc : ControlFile.assemble header sums = .ok c)
    (hseq : header.hashLengths.sequence = 2) (hb : 2 ≤ header.blockSize)
    (hsink : BlockSink.Remembers c Good Has) (hfirst : Good first) (hend : source.ending = none)
    (h : Reaches c source first m sink w)
    (hcall : m.matchWindow c sink w.view = (.ok header.blockSize, m', sink')) :
    ∃ p, w.view.Shows (view c source.rest) p (2 * header.blockSize) ∧
      (Written c Has (view c source.rest) p sink' ∨ BehindTheEnd c (view c source.rest) p) := by
  obtain rfl : c.header = header := (ControlFile.assemble_ok hc).2.1
  have hseq' : 1 < c.header.hashLengths.sequence := by omega
  have hfits : 2 * c.header.blockSize < UInt64.size := by
    have hreach := h.fits hend hcall
    rwa [Matcher.reach, if_pos hseq'] at hreach
  have hspan := Matcher.span_of_paired hseq' hfits
  have hstart : Accounts c Good Has (view c source.rest) 0 (Matcher.start c) first := by
    rw [Matcher.start, if_pos hseq']
    exact .intro (.fresh 0) hfirst fun hm => by cases hm
  obtain ⟨p, hat, hsize, hinv⟩ := h.exists_place (Accounts c Good Has (view c source.rest))
    (by
      rintro p _ s n ⟨hcarries, hgood, hmatched⟩
      obtain ⟨hgood', hkeep⟩ := hsink.noteRead n hgood
      exact .intro hcarries hgood' fun hm =>
        (hmatched hm).imp_left (Exists.imp fun q => And.imp_right (hkeep q)))
    (fun p m s w n m' s' h hw hcall => (h.step hc hseq' hfits hb hsink hw hcall).1)
    hend hstart
  have hshows : w.view.Shows (view c source.rest) p (Matcher.span c) := by
    rw [← hsize]
    exact hat.shows_view
  obtain ⟨-, hleft⟩ := hinv.step hc hseq' hfits hb hsink hshows hcall
  exact ⟨p, hspan ▸ hshows, hleft rfl⟩

/-! ### A seed that goes on behind the target's end -/

/-- The scan into a ledger comes to the window at place `p`. -/
structure Arrives (c : ControlFile) (source : Source) (p : ℕ) (m : PairedMatcher) (l : Ledger)
    (w : SlidingWindow) : Prop where
  reaches : Reaches c source (⟨c, []⟩ : Ledger) (.paired m) l w
  place : w.At (view c source.rest) p
  size : w.size = Matcher.span c
  carries : Carries c (view c source.rest) p m
  control : l.control = c

lemma report_ledger (l : Ledger) (w : SlidingWindow) : (report l w).1 = l :=
  @report_sink Ledger _ l w (· = l) (fun _ _ => id) rfl

lemma exists_arrives (hseq : 1 < c.header.hashLengths.sequence)
    (hfits : 2 * c.header.blockSize < UInt64.size) (hb : 0 < c.header.blockSize)
    (hend : source.ending = none) : ∃ w, Arrives c source 0 .fresh ⟨c, []⟩ w := by
  have hspan : 0 < Matcher.span c := by
    rw [Matcher.span_of_paired hseq hfits]
    omega
  obtain ⟨w, hw, hsize, hat⟩ := exists_openOn hspan hend
  have hreaches : Reaches c source (⟨c, []⟩ : Ledger) _ _ _ := .opened hspan hw
  rw [report_ledger, Matcher.start, if_pos hseq] at hreaches
  exact ⟨_, hreaches, report_window_at hat, hsize, .fresh 0, rfl⟩

lemma Arrives.exists_next {p : ℕ} {m : PairedMatcher} {l : Ledger} (h : Arrives c source p m l w)
    (hc : ControlFile.assemble header sums = .ok c) (hseq : 1 < header.hashLengths.sequence)
    (hfits : 2 * c.header.blockSize < UInt64.size) (hb : 0 < c.header.blockSize)
    {accepted : List ℕ}
    (ha : accepted = blocksAccepted c m (c.sumOf (c.blockAt (view c source.rest) p))
      (c.sumOf (c.blockAt (view c source.rest) (p + c.header.blockSize))))
    (hgo : accepted ≠ [] ∨ m.isMatchedBoth = true) :
    ∃ m' l', (Matcher.paired m).matchWindow c l w.view =
        (.ok c.header.blockSize, .paired m', l') ∧ (m'.isMatchedBoth = true ↔ accepted ≠ []) ∧
      (p + c.header.blockSize + Matcher.span c ≤ (view c source.rest).length →
        ∃ l'' v, Arrives c source (p + c.header.blockSize) m' l'' v) := by
  have hseq' : 1 < c.header.hashLengths.sequence := by rwa [(ControlFile.assemble_ok hc).2.1]
  have hspan := Matcher.span_of_paired hseq' hfits
  have hw : w.view.Shows (view c source.rest) p (2 * c.header.blockSize) := by
    rw [← hspan, ← h.size]
    exact h.place.shows_view
  obtain ⟨m', l', hcall, hcarries, hboth, hcontrol⟩ :=
    h.carries.exists_call hc hseq hb hw h.control ha
  rw [stride, if_pos hgo] at hcall hcarries
  refine ⟨m', l', hcall, hboth, fun hroom => ?_⟩
  obtain ⟨v, hreaches, hat, hsize⟩ :=
    h.reaches.exists_next h.place h.size rfl hcall hb (by omega) hroom
  exact ⟨_, _, hreaches, hat, hsize, hcarries, by rw [report_ledger, hcontrol]⟩

/-- The second and the third block of the target [5, 6, 1, 2, 3, 4], a stray byte, and the first
two blocks. -/
def seedPastTheEnd : Source := .ofBytes [1, 2, 3, 4, 9, 5, 6, 1, 2]

section

variable (hc : ControlFile.assemble .sixBytes
  (ControlFile.sumsOf .sixBytes [5, 6, 1, 2, 3, 4]) = .ok c)

include hc

lemma sums_of_six : c.sums[0]? = some (c.sumOf [5, 6]) ∧ c.sums[1]? = some (c.sumOf [1, 2]) ∧
    c.sums[2]? = some (c.sumOf [3, 4]) := by
  have hn : c.numBlocks = 3 := ControlFile.numBlocks_eq hc
  exact ⟨ControlFile.getElem?_sumsOf hc (by omega), ControlFile.getElem?_sumsOf hc (by omega),
    ControlFile.getElem?_sumsOf hc (by omega)⟩

lemma one_mem_blocksAccepted : 1 ∈ blocksAccepted c .fresh (c.sumOf [1, 2]) (c.sumOf [3, 4]) := by
  have hn : c.numBlocks = 3 := ControlFile.numBlocks_eq hc
  obtain ⟨-, h1, h2⟩ := sums_of_six hc
  exact mem_blocksAccepted.mpr ⟨by omega, h1, .inr h2, fun h => absurd h (by omega)⟩

lemma sums_ne_stray (q : ℕ) : c.sums[q]? ≠ some (c.sumOf [9, 5]) := by
  have hwidth : c.header.hashLengths.rolling = 2 := by rw [(ControlFile.assemble_ok hc).2.1]; rfl
  obtain ⟨h0, h1, h2⟩ := sums_of_six hc
  intro hq
  have hn : c.numBlocks = 3 := ControlFile.numBlocks_eq hc
  have hlt : q < 3 := (Array.getElem?_eq_some_iff.mp hq).1.trans_eq hn
  obtain rfl | rfl | rfl : q = 0 ∨ q = 1 ∨ q = 2 := by omega
  · exact ControlFile.sumOf_ne hwidth (by decide) (Option.some.inj (h0.symm.trans hq))
  · exact ControlFile.sumOf_ne hwidth (by decide) (Option.some.inj (h1.symm.trans hq))
  · exact ControlFile.sumOf_ne hwidth (by decide) (Option.some.inj (h2.symm.trans hq))

end

/-- At its start the block left behind is written. -/
theorem strides_over_the_second_block : ∃ c w m' sink',
    ControlFile.assemble .sixBytes (ControlFile.sumsOf .sixBytes [5, 6, 1, 2, 3, 4]) = .ok c ∧
      Reaches c seedPastTheEnd (⟨c, []⟩ : Ledger) (.paired .fresh) ⟨c, []⟩ w ∧
      (Matcher.paired .fresh).matchWindow c (⟨c, []⟩ : Ledger) w.view = (.ok 2, m', sink') ∧
      ∃ p, w.view.Shows (view c seedPastTheEnd.rest) p 4 ∧
        (Written c (fun (l : Ledger) q => ∃ bytes, (q, bytes) ∈ l.taken)
          (view c seedPastTheEnd.rest) p sink' ∨
        BehindTheEnd c (view c seedPastTheEnd.rest) p) := by
  obtain ⟨⟨header, table, rollings, pairs⟩, hc⟩ :=
    ControlFile.exists_assemble_sumsOf .sixBytes [5, 6, 1, 2, 3, 4]
  obtain rfl : header = .sixBytes := (ControlFile.assemble_ok hc).2.1
  set c : ControlFile := ⟨.sixBytes, table, rollings, pairs⟩
  have hfits : 2 * c.header.blockSize < UInt64.size := Header.small_lt_size (show 4 < 256 by decide)
  obtain ⟨w, hw⟩ : ∃ w, Arrives c seedPastTheEnd 0 .fresh ⟨c, []⟩ w :=
    exists_arrives (Nat.le_refl 2) hfits (Nat.succ_pos 1) rfl
  have haccepted := one_mem_blocksAccepted hc
  obtain ⟨m', sink', hcall, -, -⟩ := hw.exists_next hc (Nat.le_refl 2)
    hfits (Nat.succ_pos 1)
    (show blocksAccepted c .fresh (c.sumOf [1, 2]) (c.sumOf [3, 4]) = _ from rfl)
    (.inl (List.ne_nil_of_mem haccepted))
  exact ⟨c, w, .paired m', sink', hc, hw.reaches, hcall, strides_over_written_blocks hc rfl
    (Nat.le_refl 2) (Ledger.remembers c) rfl rfl hw.reaches hcall⟩

/-- **A stride over a block that the target does not have**: behind the target's last two blocks,
found in a row, the scan of this seed passes over [9, 5], and with it over the first byte of the
target's first block, which it does not find any more. -/
theorem strides_over_an_unmatched_block : ∃ (c : ControlFile) (m : Matcher) (l : Ledger)
    (w : SlidingWindow) (m' : Matcher) (l' : Ledger),
    ControlFile.assemble .sixBytes (ControlFile.sumsOf .sixBytes [5, 6, 1, 2, 3, 4]) = .ok c ∧
      Reaches c seedPastTheEnd (⟨c, []⟩ : Ledger) m l w ∧ BlockSink.isComplete l = false ∧
      m.matchWindow c l w.view = (.ok 2, m', l') ∧ w.view.toList.take 2 = [9, 5] ∧
      ∀ q : ℕ, c.sums[q]? ≠ some (c.sumOf [9, 5]) := by
  obtain ⟨⟨header, table, rollings, pairs⟩, hc⟩ :=
    ControlFile.exists_assemble_sumsOf .sixBytes [5, 6, 1, 2, 3, 4]
  obtain rfl : header = .sixBytes := (ControlFile.assemble_ok hc).2.1
  set c : ControlFile := ⟨.sixBytes, table, rollings, pairs⟩
  have hn : c.numBlocks = 3 := ControlFile.numBlocks_eq hc
  have hb : 0 < c.header.blockSize := Nat.succ_pos 1
  have hseq : 1 < Header.sixBytes.hashLengths.sequence := Nat.le_refl 2
  have hfits : 2 * c.header.blockSize < UInt64.size := Header.small_lt_size (show 4 < 256 by decide)
  -- the first window matches the target's second block and its successor
  obtain ⟨w₀, hw₀⟩ : ∃ w, Arrives c seedPastTheEnd 0 .fresh ⟨c, []⟩ w :=
    exists_arrives hseq hfits hb rfl
  have hfirst := List.ne_nil_of_mem (one_mem_blocksAccepted hc)
  obtain ⟨m₁, l₁, -, hboth₁, hnext₁⟩ := hw₀.exists_next hc hseq hfits hb
    (show blocksAccepted c .fresh (c.sumOf [1, 2]) (c.sumOf [3, 4]) = _ from rfl) (.inl hfirst)
  obtain ⟨l₁, w₁, hw₁⟩ := hnext₁ (show 0 + 2 + 4 ≤ 13 by decide)
  have hboth₁ := hboth₁.mpr hfirst
  -- the second one the last block, which has no successor to compare [9, 5] with
  have hsecond : blocksAccepted c m₁ (c.sumOf [3, 4]) (c.sumOf [9, 5]) ≠ [] := by
    have h2 := (sums_of_six hc).2.2
    refine List.ne_nil_of_mem (a := 2) (mem_blocksAccepted.mpr ⟨by omega, h2, .inl (by omega), ?_⟩)
    exact fun _ => .inr (isVouched_of_isMatchedBoth hboth₁)
  obtain ⟨m₂, l₂, -, hboth₂, hnext₂⟩ := hw₁.exists_next hc hseq hfits hb
    (show blocksAccepted c m₁ (c.sumOf [3, 4]) (c.sumOf [9, 5]) = _ from rfl) (.inl hsecond)
  obtain ⟨l₂, w₂, hw₂⟩ := hnext₂ (show 0 + 2 + 2 + 4 ≤ 13 by decide)
  have hboth₂ := hboth₂.mpr hsecond
  -- and the third one nothing
  obtain ⟨m₃, l₃, hcall, -, -⟩ := hw₂.exists_next hc hseq hfits hb rfl (.inr hboth₂)
  have hbytes : w₂.view.toList.take 2 = [9, 5] := by
    rw [hw₂.place.toList_view, hw₂.size]
    rfl
  exact ⟨c, .paired m₂, l₂, w₂, .paired m₃, l₃, hc, hw₂.reaches, rfl, hcall, hbytes,
    sums_ne_stray hc⟩

end Scan

end SeedSync
