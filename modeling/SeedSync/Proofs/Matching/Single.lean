import Mathlib
import SeedSync.Matching.Single
import SeedSync.Proofs.Matching.Sink
import SeedSync.Proofs.Sum.Rolling
import SeedSync.Proofs.Window.View

/-!
Matching one block at a time finds in every window what its sum taken afresh would find.
-/

namespace SeedSync.SingleMatcher

open RollingSum

/-- What a matcher carries to the window at place `p` of `D`: after a miss, the sum of the window a
byte before. -/
inductive Carries (c : ControlFile) (D : List UInt8) : ℕ → SingleMatcher → Prop
  | fresh (p : ℕ) : Carries c D p .fresh
  | missed (p : ℕ) : Carries c D (p + 1) (.missed (D.getD p 0)
      (ofBlock c.header.blockSize c.header.hashLengths.rolling (c.blockAt D p)))

variable {σ : Type} [BlockSink σ] {c : ControlFile} {header : Header} {sums : List BlockSum}
  {D : List UInt8} {p : ℕ} {m : SingleMatcher} {w : View} {sink : σ}

lemma Carries.roll_eq (h : Carries c D p m) (hb : 0 < c.header.blockSize)
    (hw : w.Shows D p c.header.blockSize) :
    m.roll c w = ofBlock c.header.blockSize c.header.hashLengths.rolling (c.blockAt D p) := by
  cases h with
  | fresh => rw [roll, hw.toList]; rfl
  | missed p =>
    have hfits := hw.fits
    have hlast : w.byte (c.header.blockSize - 1) = D.getD (p + c.header.blockSize) 0 := by
      rw [hw.byte_eq (by omega)]
      congr 1
      omega
    rw [roll, hlast]
    exact update_ofBlock_window (p := p) hb (by omega)

/-- The quick filter keeps no block out. -/
lemma candidates_eq (hc : ControlFile.assemble header sums = .ok c) (hs : c.Searches sink)
    (hw : w.Shows D p c.header.blockSize) :
    candidates c (ofBlock c.header.blockSize c.header.hashLengths.rolling (c.blockAt D p)) sink w =
      c.blocksWith (c.sumOf (c.blockAt D p)) := by
  have htoList : w.toList = c.blockAt D p := hw.toList
  rw [candidates, htoList, hs]
  split
  · rfl
  · next hno =>
    refine (List.filter_eq_nil_iff.mpr fun q _ hq => hno ?_).symm
    exact (ControlFile.hasRolling_iff hc).mpr ⟨q, _, beq_iff_eq.mp hq, rfl⟩

def stride (c : ControlFile) (accepted : List ℕ) : ℕ :=
  if accepted ≠ [] then c.header.blockSize else 1

lemma stride_bounds (hb : 0 < c.header.blockSize) (accepted : List ℕ) :
    1 ≤ stride c accepted ∧ stride c accepted ≤ c.header.blockSize := by
  rw [stride]
  split <;> omega

/-- **One window**: what is written, how far to go, and what is carried there. -/
lemma Carries.matchWindow (h : Carries c D p m) (hc : ControlFile.assemble header sums = .ok c)
    (hb : 0 < c.header.blockSize) (hw : w.Shows D p c.header.blockSize) (hs : c.Searches sink)
    {accepted : List ℕ} (ha : accepted = c.blocksWith (c.sumOf (c.blockAt D p))) :
    ∃ r m' sink', BlockSink.writeBlocks sink w (accepted.map fun q => (q, 0)) = (r, sink') ∧
      m.matchWindow c sink w = (r.map fun _ => stride c accepted, m', sink') ∧
      (r = .ok () → Carries c D (p + stride c accepted) m') := by
  unfold SingleMatcher.matchWindow
  dsimp only
  rw [h.roll_eq hb hw, candidates_eq hc hs hw, ← ha]
  cases accepted with
  | nil =>
    refine ⟨_, _, _, rfl, rfl, fun _ => ?_⟩
    have hfirst : w.byte 0 = D.getD p 0 := hw.byte_eq hb
    rw [hfirst]
    exact .missed p
  | cons q accepted =>
    have hstride : stride c (q :: accepted) = c.header.blockSize := by simp [stride]
    rw [hstride]
    dsimp only
    split
    · next hw' => exact ⟨_, _, _, hw', rfl, fun hok => by cases hok⟩
    · next hw' => exact ⟨_, _, _, hw', rfl, fun _ => .fresh _⟩

end SeedSync.SingleMatcher
