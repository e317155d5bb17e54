import Mathlib
import SeedSync.Proofs.Matching.Scan

/-!
What a scan finds in a seed is a matter of the seed alone. Of its sink a matcher learns where the
blocks with a sum are, and whether it takes what it is given; so a pass over the seed with a ledger,
which takes everything and is never complete, tells what any other sink is given.
-/

namespace SeedSync

variable {σ τ : Type} [BlockSink σ] [BlockSink τ] {c : ControlFile} {header : Header}
  {sums : List BlockSum} {D : List UInt8} {p : ℕ} {s s' : σ} {t t' : τ} {v w : View}

/-! ### Matchers cannot tell sinks apart -/

lemma SingleMatcher.matchWindow_congr {m m₁ m₂ : SingleMatcher} {n k : ℕ} (hs : c.Searches s)
    (ht : c.Searches t) (hvw : v.toList = w.toList) (h : m.matchWindow c s v = (.ok n, m₁, s'))
    (h' : m.matchWindow c t w = (.ok k, m₂, t')) : m₁ = m₂ := by
  have hroll : m.roll c v = m.roll c w := by
    cases m <;> simp only [roll, View.byte_eq, hvw]
  have hcandidates (r : RollingSum) : candidates c r s v = candidates c r t w := by
    simp only [candidates, hs _, ht _, hvw]
  unfold matchWindow at h h'
  dsimp only at h h'
  rw [hroll, hcandidates] at h
  generalize candidates c (m.roll c w) t w = found at h h'
  cases found with
  | nil =>
    simp only [Prod.mk.injEq, View.byte_eq, hvw] at h h'
    rw [← h.2.1, ← h'.2.1]
  | cons q found =>
    dsimp only at h h'
    split at h
    · cases (Prod.mk.inj h).1
    · split at h'
      · cases (Prod.mk.inj h').1
      · simp only [Prod.mk.injEq] at h h'
        rw [← h.2.1, ← h'.2.1]

lemma PairedMatcher.matchWindow_congr {m m₁ m₂ : PairedMatcher} {n k : ℕ} (hs : c.Searches s)
    (ht : c.Searches t) (hvw : v.toList = w.toList) (h : m.matchWindow c s v = (.ok n, m₁, s'))
    (h' : m.matchWindow c t w = (.ok k, m₂, t')) : m₁ = m₂ := by
  have hroll : m.roll c v = m.roll c w := by
    cases m <;> simp only [roll, leftHalf, rightHalf, View.byte_eq, View.part_eq, hvw]
  have haccept (x : Halves) : accept c x s v = accept c x t w := by
    simp only [accept, leftHalf, rightHalf, hs _, ht _, View.part_eq, hvw]
  have hv := le_of_matchWindow_ok h
  have hw := le_of_matchWindow_ok h'
  unfold matchWindow at h h'
  rw [if_neg hv.not_gt] at h
  rw [if_neg hw.not_gt] at h'
  dsimp only at h h'
  rw [hroll, haccept] at h
  generalize accept c (m.roll c w) t w = accepted at h h'
  obtain ⟨found, next⟩ := accepted
  cases found with
  | nil =>
    cases m <;> simp only [Prod.mk.injEq, View.byte_eq, hvw] at h h' <;> rw [← h.2.1, ← h'.2.1]
  | cons q found =>
    dsimp only at h h'
    split at h
    · cases (Prod.mk.inj h).1
    · split at h'
      · cases (Prod.mk.inj h').1
      · simp only [Prod.mk.injEq] at h h'
        rw [← h.2.1, ← h'.2.1]

lemma Matcher.matchWindow_congr {m m₁ m₂ : Matcher} {n k : ℕ} (hs : c.Searches s)
    (ht : c.Searches t) (hvw : v.toList = w.toList) (h : m.matchWindow c s v = (.ok n, m₁, s'))
    (h' : m.matchWindow c t w = (.ok k, m₂, t')) : m₁ = m₂ := by
  cases m with
  | single m =>
    simp only [matchWindow, Prod.mk.injEq] at h h'
    obtain ⟨hr, rfl, rfl⟩ := h
    obtain ⟨hr', rfl, rfl⟩ := h'
    exact congrArg _
      (SingleMatcher.matchWindow_congr hs ht hvw (Prod.ext hr rfl) (Prod.ext hr' rfl))
  | paired m =>
    simp only [matchWindow, Prod.mk.injEq] at h h'
    obtain ⟨hr, rfl, rfl⟩ := h
    obtain ⟨hr', rfl, rfl⟩ := h'
    exact congrArg _
      (PairedMatcher.matchWindow_congr hs ht hvw (Prod.ext hr rfl) (Prod.ext hr' rfl))

namespace Scan

open Matcher

/-! ### The pass with a ledger -/

/-- What a scan finds from place `p` of `D` on if nothing ends it early: blocks of the target, and
the bytes that it takes for them. -/
def found (c : ControlFile) (D : List UInt8) (m : Matcher) (p : ℕ) : List (ℕ × List UInt8) :=
  if p + span c ≤ D.length then
    match m.matchWindow c (⟨c, []⟩ : Ledger) (View.ofList ((D.drop p).take (span c))) with
    | (.error _, _, _) => []
    | (.ok n, m, l) => l.taken ++ found c D m (p + max n 1)
  else []
termination_by D.length + 1 - p

lemma found_of_short {m : Matcher} (h : D.length < p + span c) : found c D m p = [] := by
  rw [found, if_neg (by omega)]

end Scan

namespace Ledger

lemma writeBlocks_taken (l : Ledger) (hw : w.Shows D p (Matcher.span l.control)) {ws : List (ℕ × ℕ)}
    (hws : ∀ x ∈ ws, Matcher.Finds l.control D p x) : (BlockSink.writeBlocks l w ws).2.taken =
      l.taken ++ ws.map fun x => (x.1, l.control.blockAt D (p + x.2)) := by
  induction ws generalizing l with
  | nil => simp [BlockSink.writeBlocks]
  | cons x ws ih =>
    obtain ⟨i, offset⟩ := x
    have hpart := hw.part_eq (hws (i, offset) (by simp)).inside
    have hrest :=
      ih { l with taken := l.taken ++ [(i, w.part offset l.control.header.blockSize)] } hw
      fun y hy => hws y (by simp [hy])
    rw [List.map_cons, ControlFile.blockAt, ← hpart, List.append_cons]
    exact hrest

end Ledger

namespace Scan

open Matcher

variable {m : Matcher}

/-- **One window**: what is found there is what the matcher writes, and the rest is what it finds
from where it goes on; there it is in the same state with every sink that takes what it is given. -/
lemma exists_found (h : Carries c D p m) (hc : ControlFile.assemble header sums = .ok c)
    (hb : 0 < c.header.blockSize) (hfits : p + span c ≤ D.length) :
    ∃ m', Carries c D (p + m.strideAt c D p) m' ∧
      found c D m p = (m.writesAt c D p).map (fun x => (x.1, c.blockAt D (p + x.2))) ++
        found c D m' (p + m.strideAt c D p) ∧
      ∀ {σ : Type} [BlockSink σ] {s s' : σ} {w : View}, c.Searches s → w.Shows D p (span c) →
        BlockSink.writeBlocks s w (m.writesAt c D p) = (.ok (), s') →
          m.matchWindow c s w = (.ok (m.strideAt c D p), m', s') := by
  have hshows : (View.ofList ((D.drop p).take (span c))).Shows D p (span c) :=
    ⟨View.toList_ofList _, hfits⟩
  obtain ⟨r, m', l, hwrite, hm, hnext⟩ := h.matchWindow hc hb hshows (Ledger.searches c [])
  obtain rfl : .ok () = r := by
    rw [← Ledger.writeBlocks_fst ⟨c, []⟩ (View.ofList ((D.drop p).take (span c))), hwrite]
  have htaken := Ledger.writeBlocks_taken ⟨c, []⟩ hshows h.finds_writesAt
  rw [hwrite, List.nil_append] at htaken
  refine ⟨m', hnext rfl, ?_, fun {σ} _ {s s' w} hs hw hws => ?_⟩
  · have hpos := (strideAt_bounds hb D p m).1
    have hm : m.matchWindow c (⟨c, []⟩ : Ledger) (View.ofList ((D.drop p).take (span c))) =
      (.ok (m.strideAt c D p), m', l) := hm
    rw [found, if_pos hfits, hm]
    dsimp only
    rw [htaken, max_eq_left hpos]
  · obtain ⟨r, m'', s'', hwrite', hm', -⟩ := h.matchWindow hc hb hw hs
    rw [hws] at hwrite'
    obtain ⟨rfl, rfl⟩ := Prod.mk.inj hwrite'
    have hbytes : w.toList = (View.ofList ((D.drop p).take (span c))).toList := by
      rw [hw.toList, View.toList_ofList]
    obtain rfl := Matcher.matchWindow_congr hs (Ledger.searches c []) hbytes hm' hm
    exact hm'

lemma found_of_overflow (h : UInt64.size ≤ reach c) : found c D (start c) p = [] := by
  rw [start_of_overflow h, found]
  split
  · next hfits =>
    have hw : (View.ofList ((D.drop p).take (span c))).length = span c := by
      rw [← View.length_toList, View.toList_ofList, List.length_take, List.length_drop]
      omega
    rw [matchWindow_of_overflow h _ _ hw.le]
  · rfl

lemma sum_of_mem_found_of_carries (hc : ControlFile.assemble header sums = .ok c)
    (hb : 0 < c.header.blockSize)
    (h : Carries c D p m) {x : ℕ × List UInt8} (hx : x ∈ found c D m p) :
    c.sums[x.1]? = some (c.sumOf x.2) ∧
      ∃ q, q + c.header.blockSize ≤ D.length ∧ x.2 = c.blockAt D q := by
  induction hk : D.length + 1 - p using Nat.strong_induction_on generalizing p m with
  | _ k ih =>
    rcases Nat.lt_or_ge D.length (p + span c) with hshort | hfits
    · rw [found_of_short hshort] at hx
      cases hx
    · obtain ⟨m', hnext, hfound, -⟩ := exists_found h hc hb hfits
      have hpos := (strideAt_bounds hb D p m).1
      rw [hfound, List.mem_append] at hx
      rcases hx with hx | hx
      · obtain ⟨y, hy, rfl⟩ := List.mem_map.mp hx
        obtain ⟨hinside, hsum⟩ := h.finds_writesAt y hy
        exact ⟨hsum, p + y.2, by omega, rfl⟩
      · exact ih _ (by omega) hnext hx rfl

lemma sum_of_mem_found (hc : ControlFile.assemble header sums = .ok c) (hb : 0 < c.header.blockSize)
    {x : ℕ × List UInt8} (hx : x ∈ found c D (start c) 0) :
    c.sums[x.1]? = some (c.sumOf x.2) ∧
      ∃ q, q + c.header.blockSize ≤ D.length ∧ x.2 = c.blockAt D q := by
  rcases Nat.lt_or_ge (reach c) UInt64.size with hfits | hover
  · exact sum_of_mem_found_of_carries hc hb (carries_start hfits D) hx
  · rw [found_of_overflow hover] at hx
    cases hx

end Scan

end SeedSync
