import Mathlib
import SeedSync.Matching.Scan
import SeedSync.Proofs.Matching.Sink

/-!
Sinks that cannot be told apart by what a scan asks of them, sinks side by side in the same scan,
and sinks that keep a record of what is written to them.
-/

namespace SeedSync

variable {σ : Type} [BlockSink σ] {c : ControlFile}

namespace BlockSink

/-- Sinks that are alike look blocks up as a search through the table would, and stay alike as
they are written to: of a view they take no more than its bytes, and a read of the seed is a mere
note to them. Whatever is told of neither where a window lies nor how a seed is read is alike to
itself in this sense, with equality for `Alike`. -/
structure Bisimilar (c : ControlFile) (Alike : σ → σ → Prop) : Prop where
  searches : ∀ {s t}, Alike s t → c.Searches s
  isComplete : ∀ {s t}, Alike s t → isComplete s = isComplete t
  noteRead : ∀ {s t} (n : ℕ), Alike s t → Alike (noteRead s n) t
  writeBlock : ∀ {s t v w} (i offset : ℕ), Alike s t → v.toList = w.toList →
    (writeBlock s i v offset).1 = (writeBlock t i w offset).1 ∧
      Alike (writeBlock s i v offset).2 (writeBlock t i w offset).2

variable {Alike : σ → σ → Prop} {s t : σ} {v w : View}

lemma Bisimilar.writeBlocks (h : Bisimilar c Alike) (hst : Alike s t) (hvw : v.toList = w.toList)
    (ws : List (ℕ × ℕ)) : (writeBlocks s v ws).1 = (writeBlocks t w ws).1 ∧
      Alike (writeBlocks s v ws).2 (writeBlocks t w ws).2 := by
  induction ws generalizing s t with
  | nil => exact ⟨rfl, hst⟩
  | cons x ws ih =>
    obtain ⟨i, offset⟩ := x
    obtain ⟨hres, hnext⟩ := h.writeBlock i offset hst hvw
    simp only [BlockSink.writeBlocks]
    generalize BlockSink.writeBlock s i v offset = s' at *
    generalize BlockSink.writeBlock t i w offset = t' at *
    obtain ⟨rs, s'⟩ := s'
    obtain ⟨rt, t'⟩ := t'
    obtain rfl : rs = rt := hres
    cases rs with
    | error e => exact ⟨rfl, hnext⟩
    | ok b => exact ih hnext

end BlockSink

/-! ### Sinks side by side -/

section

variable {ρ : Type} [BlockSink ρ]

/-- One sink does what the other one does, as far as the first one shows. -/
structure BlockSink.Maps (f : ρ → σ) : Prop where
  positions : ∀ x s, positions (f x) s = positions x s
  writeBlock : ∀ x i w offset, writeBlock (f x) i w offset = Prod.map id f (writeBlock x i w offset)
  isComplete : ∀ x, isComplete (f x) = isComplete x
  noteRead : ∀ x n, noteRead (f x) n = f (noteRead x n)

namespace BlockSink.Maps

variable {f : ρ → σ}

lemma writeBlocks (hf : Maps f) (x : ρ) (w : View) (ws : List (ℕ × ℕ)) :
    BlockSink.writeBlocks (f x) w ws = Prod.map id f (BlockSink.writeBlocks x w ws) := by
  induction ws generalizing x with
  | nil => rfl
  | cons y ws ih =>
    rw [BlockSink.writeBlocks, BlockSink.writeBlocks, hf.writeBlock]
    generalize BlockSink.writeBlock x y.1 w y.2 = answer
    obtain ⟨_ | _, x'⟩ := answer
    · rfl
    · exact ih x'

lemma matchSingle (hf : Maps f) (m : SingleMatcher) (x : ρ) (w : View) :
    m.matchWindow c (f x) w = Prod.map id (Prod.map id f) (m.matchWindow c x w) := by
  have hcandidates (r : RollingSum) :
      SingleMatcher.candidates c r (f x) w = SingleMatcher.candidates c r x w := by
    simp only [SingleMatcher.candidates, hf.positions]
  rw [SingleMatcher.matchWindow, SingleMatcher.matchWindow, hcandidates]
  split
  · rfl
  · rw [hf.writeBlocks]
    generalize BlockSink.writeBlocks x w _ = answer
    obtain ⟨_ | _, x'⟩ := answer <;> rfl

lemma matchPaired (hf : Maps f) (m : PairedMatcher) (x : ρ) (w : View) :
    m.matchWindow c (f x) w = Prod.map id (Prod.map id f) (m.matchWindow c x w) := by
  have haccept (h : PairedMatcher.Halves) :
      PairedMatcher.accept c h (f x) w = PairedMatcher.accept c h x w := by
    simp only [PairedMatcher.accept, hf.positions]
  rw [PairedMatcher.matchWindow, PairedMatcher.matchWindow]
  split
  · rfl
  dsimp only
  rw [haccept]
  split
  · cases m <;> rfl
  · rw [hf.writeBlocks]
    generalize BlockSink.writeBlocks x w _ = answer
    obtain ⟨_ | _, x'⟩ := answer <;> rfl

lemma matchWindow (hf : Maps f) (m : Matcher) (x : ρ) (w : View) :
    m.matchWindow c (f x) w = Prod.map id (Prod.map id f) (m.matchWindow c x w) := by
  cases m with
  | single m =>
    rw [Matcher.matchWindow, hf.matchSingle]
    rfl
  | paired m =>
    rw [Matcher.matchWindow, hf.matchPaired]
    rfl

lemma report (hf : Maps f) (x : ρ) (w : SlidingWindow) :
    Scan.report (f x) w = Prod.map f id (Scan.report x w) := by
  have hnotes (x : ρ) (ns : List ℕ) :
      ns.foldl BlockSink.noteRead (f x) = f (ns.foldl BlockSink.noteRead x) := by
    induction ns generalizing x with
    | nil => rfl
    | cons n ns ih => rw [List.foldl_cons, List.foldl_cons, hf.noteRead, ih]
  rw [Scan.report, Scan.report, ← Array.foldl_toList, hnotes, Array.foldl_toList]
  rfl

lemma run (hf : Maps f) (m : Matcher) (x : ρ) (w : SlidingWindow) (hw : w.base < w.limit) :
    Scan.run c m (f x) w hw = Prod.map id (Prod.map f id) (Scan.run c m x w hw) := by
  induction hk : w.ahead using Nat.strong_induction_on generalizing m x w with
  | _ k ih =>
    subst hk
    rw [Scan.run, Scan.run, hf.isComplete, hf.matchWindow]
    split
    · rfl
    generalize m.matchWindow c x w.view = answer
    obtain ⟨_ | n, m', y⟩ := answer
    · rfl
    dsimp only [Prod.map, id]
    split
    · rw [hf.report]
      rfl
    · rw [hf.report]
      rfl
    · next v hadvance =>
      simp only [hf.report]
      exact ih _ ((SlidingWindow.advance_true hadvance).2 hw) m' _ _ _ rfl

/-- **Side by side** the two see the same scan, and it goes the same way. -/
lemma seed (hf : Maps f) (x : ρ) (source : Source) :
    Scan.seed c (f x) source = Prod.map id (Prod.map f id) (Scan.seed c x source) := by
  rw [Scan.seed, Scan.seed]
  dsimp only
  split
  · rfl
  split
  · rw [hf.report]
    rfl
  · simp only [hf.report]
    exact hf.run _ _ _ _

end BlockSink.Maps

end

/-! ### Records -/

/-- A call that writes a block: its index, the bytes of the window, and the offset in them. -/
structure WriteCall where
  index : ℕ
  window : List UInt8
  offset : ℕ

/-- A sink with the calls that were made to write to it, oldest first. -/
structure Recorder (σ : Type) where
  sink : σ
  calls : List WriteCall

namespace Recorder

instance : BlockSink (Recorder σ) where
  positions r s := BlockSink.positions r.sink s
  writeBlock r i w offset :=
    let (answer, sink) := BlockSink.writeBlock r.sink i w offset
    (answer, ⟨sink, r.calls ++ [⟨i, w.toList, offset⟩]⟩)
  isComplete r := BlockSink.isComplete r.sink
  noteRead r n := { r with sink := BlockSink.noteRead r.sink n }

lemma maps : BlockSink.Maps (sink : Recorder σ → σ) where
  positions _ _ := rfl
  writeBlock _ _ _ _ := rfl
  isComplete _ := rfl
  noteRead _ _ := rfl

lemma bisimilar {Alike : σ → σ → Prop} (h : BlockSink.Bisimilar c Alike) :
    BlockSink.Bisimilar c fun r s : Recorder σ => Alike r.sink s.sink ∧ r.calls = s.calls where
  searches hrs := h.searches hrs.1
  isComplete hrs := h.isComplete hrs.1
  noteRead n hrs := ⟨h.noteRead n hrs.1, hrs.2⟩
  writeBlock {r s v w} i offset hrs hvw := by
    obtain ⟨hres, hnext⟩ := h.writeBlock i offset hrs.1 hvw
    refine ⟨hres, hnext, ?_⟩
    simp only [BlockSink.writeBlock, hrs.2, hvw]

end Recorder

end SeedSync
